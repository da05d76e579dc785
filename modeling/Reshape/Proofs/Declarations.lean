import Reshape.Proofs.DistinctKeys
import Reshape.Proofs.Faults
import Reshape.Proofs.Warnings

/-!
# What a body declares

A body has the shape of the document that it is read from, `Output.Declared`: an object has entries
of the same keys in the same order. So no object of a compiled specification has two entries of
one key if the document has none: `standsForDistinct_of_compileWith`.
-/

namespace Reshape

namespace Output

open Spec (HasText)

/-- The node is the one that the document declares. A text that looks like a selector, and an
object with a text under `expr` or `apply`, declare how a value is found. Another object declares
an object of the same keys in the same order, an array declares as many items, and anything else
declares itself. -/
inductive Declared : Document → Output → Prop where
  | null : Declared .null (.literal .null)
  | bool (value : Bool) : Declared (.bool value) (.literal (.bool value))
  | number (x : Number) : Declared (.number x) (.literal (.number x))
  | text {s : String} (h : ¬ Selector.looksLikeOne s) :
      Declared (.string s) (.literal (.string s))
  | selector {s : String} {path : Selector} (h : Selector.looksLikeOne s)
      (hpath : Selector.read s = .ok path) : Declared (.string s) (.selector path)
  | expression {es : List (String × Document)} {text : String} {e : Expression}
      (h : Document.find? es "expr" = some (.string text)) (he : Expression.read text = .ok e) :
      Declared (.object es) (.expression text e)
  | apply {es : List (String × Document)} {name : String} {source : Option Selector}
      (he : ¬ HasText es "expr") (h : Document.find? es "apply" = some (.string name))
      (hsource : Raw.source (Document.find? es "from") = .ok source) :
      Declared (.object es) (.apply name source)
  | object {es : List (String × Document)} {os : List (String × Output)}
      (he : ¬ HasText es "expr") (ha : ¬ HasText es "apply")
      (hkeys : os.map Prod.fst = es.map Prod.fst)
      (h : List.Forall₂ Declared (es.map Prod.snd) (os.map Prod.snd)) :
      Declared (.object es) (.object os)
  | array {ds : List Document} {os : List Output} (h : List.Forall₂ Declared ds os) :
      Declared (.array ds) (.array os)

/-- The node stands for a document with distinct keys. -/
def StandsForDistinct (o : Output) : Prop := ∃ d : Document, d.DistinctKeys ∧ Declared d o

theorem forall_standsForDistinct {ds : List Document} {os : List Output}
    (h : List.Forall₂ Declared ds os) (hd : ∀ d ∈ ds, d.DistinctKeys) :
    ∀ o ∈ os, o.StandsForDistinct := by
  have hpairs := (List.forall₂_and_left ..).2 ⟨hd, h⟩
  exact forall_mem_of_forall₂ hpairs.flip fun o d hdo => ⟨d, hdo⟩

theorem handedDown_standsForDistinct : HandedDown StandsForDistinct where
  object := by
    rintro os ⟨_, hd, hdeclared⟩
    cases hdeclared with
    | object _ _ _ h =>
      cases hd with
      | object _ hd =>
        exact List.forall_mem_map.1 (forall_standsForDistinct h (List.forall_mem_map.2 hd))
  array := by
    rintro os ⟨_, hd, hdeclared⟩
    cases hdeclared with
    | array h =>
      cases hd with
      | array hd => exact forall_standsForDistinct h hd

theorem StandsForDistinct.nodup_keys {os : List (String × Output)}
    (h : (object os).StandsForDistinct) : (os.map Prod.fst).Nodup := by
  obtain ⟨_, hd, hdeclared⟩ := h
  cases hdeclared with
  | object _ _ hkeys _ =>
    cases hd with
    | object hdistinct _ => rwa [hkeys]

end Output

namespace Spec

open Output (Declared)

mutual

theorem declared_of_readOutput {l : Location} {d : Document} {o : Output}
    (h : readOutput l d = .ok o) : Declared d o := by
  match d with
  | .null =>
    cases h
    exact .null
  | .bool value =>
    cases h
    exact .bool value
  | .number x =>
    cases h
    exact .number x
  | .string s =>
    unfold readOutput at h
    split at h
    · rename_i hs
      obtain ⟨path, hpath, rfl⟩ := map_eq_ok_iff.1 h
      exact .selector hs (mapError_eq_ok_iff.1 hpath)
    · rename_i hs
      cases h
      exact .text hs
  | .array ds =>
    unfold readOutput at h
    obtain ⟨os, hos, rfl⟩ := map_eq_ok_iff.1 h
    exact .array (declared_of_readItems hos)
  | .object es =>
    unfold readOutput at h
    rcases ObjectForm.cases es with ⟨text, he, hform⟩ | ⟨he, name, ha, hform⟩ | ⟨he, ha, hform⟩
    · rw [hform] at h
      dsimp only at h
      split at h
      · rename_i e hread
        cases h
        exact .expression he hread
      · cases h
    · rw [hform] at h
      obtain ⟨source, hsource, rfl⟩ := map_eq_ok_iff.1 h
      exact .apply he ha (source_of_readSource hsource)
    · rw [hform] at h
      obtain ⟨os, hos, rfl⟩ := map_eq_ok_iff.1 h
      obtain ⟨hkeys, hvalues⟩ := declared_of_readEntries hos
      exact .object he ha hkeys hvalues

theorem declared_of_readItems {l : Location} {i : Nat} {ds : List Document} {os : List Output}
    (h : readItems l i ds = .ok os) : List.Forall₂ Declared ds os := by
  match ds with
  | [] =>
    cases h
    exact .nil
  | d :: ds =>
    obtain ⟨o, ho, h⟩ := bind_eq_ok_iff.1 h
    obtain ⟨rest, hrest, h⟩ := bind_eq_ok_iff.1 h
    cases h
    exact .cons (declared_of_readOutput ho) (declared_of_readItems hrest)

theorem declared_of_readEntries {l : Location} {es : List (String × Document)}
    {os : List (String × Output)} (h : readEntries l es = .ok os) :
    os.map Prod.fst = es.map Prod.fst ∧
      List.Forall₂ Declared (es.map Prod.snd) (os.map Prod.snd) := by
  match es with
  | [] =>
    cases h
    exact ⟨rfl, .nil⟩
  | (key, d) :: es =>
    obtain ⟨o, ho, h⟩ := bind_eq_ok_iff.1 h
    obtain ⟨rest, hrest, h⟩ := bind_eq_ok_iff.1 h
    cases h
    obtain ⟨hkeys, hvalues⟩ := declared_of_readEntries hrest
    exact ⟨congrArg (key :: ·) hkeys, .cons (declared_of_readOutput ho) hvalues⟩

end

/-- The root body of a compiled specification and those of its templates are what the document
declares. -/
theorem declared_of_compileWith {check : Conformance} {raw : Document} {spec : Spec}
    (h : compileWith check raw = .ok spec) :
    Declared (Raw.root raw) spec.root ∧
      List.Forall₂ (fun d t => ∃ body, Raw.part? "output" 2 d = some body ∧
        Declared body t.output) (Raw.templates raw) spec.templates := by
  obtain ⟨htemplates, _, hroot⟩ := compiles_of_compileWith h
  refine ⟨declared_of_readOutput hroot, htemplates.imp ?_⟩
  rintro d t ⟨-, body, hbody, _, hread⟩
  exact ⟨body, hbody, declared_of_readOutput hread⟩

theorem distinctKeys_of_part? {d part : Document} (hd : d.DistinctKeys) {key : String}
    {index : Nat} (h : Raw.part? key index d = some part) : part.DistinctKeys := by
  unfold Raw.part? at h
  split at h
  · cases hd with
    | object _ hd => exact hd _ (Document.mem_of_find? h)
  · cases hd with
    | array hd => exact hd _ (List.mem_of_getElem? h)
  · cases h

theorem distinctKeys_templates {raw : Document} (hraw : raw.DistinctKeys) :
    ∀ d ∈ Raw.templates raw, d.DistinctKeys := by
  unfold Raw.templates
  split
  · rename_i ts hts
    cases distinctKeys_of_part? hraw hts with
    | array h => exact h
  · exact List.forall_mem_nil _

theorem distinctKeys_root {raw : Document} (hraw : raw.DistinctKeys) :
    (Raw.root raw).DistinctKeys := by
  unfold Raw.root
  cases hroot : Raw.part? "root" 1 raw with
  | none => exact .null
  | some d => exact distinctKeys_of_part? hraw hroot

/-- All nodes of a compiled specification stand for documents with distinct keys if the whole
document has distinct keys. -/
theorem standsForDistinct_of_compileWith {check : Conformance} {raw : Document} {spec : Spec}
    (h : compileWith check raw = .ok spec) (hraw : raw.DistinctKeys) :
    ∀ n ∈ spec.nodes, n.2.StandsForDistinct := by
  have hnodes {o : Output} (ho : o.StandsForDistinct) (l : Location) :
      ∀ n ∈ o.nodes l, n.2.StandsForDistinct :=
    Output.handedDown_standsForDistinct.forall_mem_nodes ho l
  obtain ⟨hroot, htemplates⟩ := declared_of_compileWith h
  have hbodies : ∀ t ∈ spec.templates, t.output.StandsForDistinct := by
    have hpairs := (List.forall₂_and_left ..).2 ⟨distinctKeys_templates hraw, htemplates⟩
    refine forall_mem_of_forall₂ hpairs.flip fun t d hc => ?_
    obtain ⟨hd, body, hbody, hdeclared⟩ := hc
    exact ⟨body, distinctKeys_of_part? hd hbody, hdeclared⟩
  refine List.forall_mem_append.2 ⟨fun n hn => ?_, ?_⟩
  · obtain ⟨nodes, hmem, hn⟩ := List.mem_flatten.1 hn
    obtain ⟨i, hi, rfl⟩ := List.mem_mapIdx.1 hmem
    exact hnodes (hbodies _ (List.getElem_mem hi)) _ n hn
  · exact hnodes ⟨_, distinctKeys_root hraw, hroot⟩ _

end Spec

end Reshape
