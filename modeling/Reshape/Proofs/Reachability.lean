import Reshape.Proofs.Compilation
import Reshape.Proofs.Faults
import Reshape.Proofs.StartTemplate

/-!
# The templates that a run can come to

`Spec.Reachable` says which names the root body applies, itself or through the bodies of the
templates it applies. A run looks up no others. Names are distinct in a specification that
compiles, so that what it defines is the same in each order of the templates:
`body?_eq_some_iff`. Two specifications with one root that define the same under the names
reachable from there give the same runs.
-/

namespace Reshape

def Output.Applies (o : Output) (name : String) : Prop := ∃ l, name ∈ (o.targets l).map Prod.fst

/-- The names of the templates that are applied, in the root body or in the body of a template
that is reachable. -/
inductive Spec.Reachable (s : Spec) : String → Prop
  | root {name : String} (h : s.root.Applies name) : Reachable s name
  | body {name other : String} {t : Template} (hr : Reachable s name)
      (ht : s.template? name = some t) (h : t.output.Applies other) : Reachable s other

namespace Transform

variable {m : Type → Type} [Settling m] [Failing Failure m] {c : Conditions} {spec spec' : Spec}

theorem appliesOnly_of_applies {names : String → Prop} {o : Output}
    (h : ∀ name, o.Applies name → names name) : AppliesOnly names o :=
  ⟨.root, fun t ht => h t.1 ⟨.root, List.mem_map_of_mem ht⟩⟩

/-- Specifications that define the same under the reachable names evaluate bodies alike that
apply no others. -/
theorem run_congr_of_reachable
    (h : ∀ name, spec.Reachable name →
      (spec.template? name).map Template.output = (spec'.template? name).map Template.output)
    (chain : Chain) (v : View) {o : Output} (ho : ∀ name, o.Applies name → spec.Reachable name) :
    (Setting.run ⟨c, spec⟩ chain v o : m (Option Document))
      = Setting.run ⟨c, spec'⟩ chain v o := by
  have hlocal : LocalAgreement (Same (m := m)) v.root c c := Same.localAgreement v.root c
  refine Same.run_congr (hlocal.on fun _ => True) rfl rfl h (fun name t hr hk => ?_)
    (fun _ _ _ _ _ => trivial) chain (appliesOnly_of_applies ho) fun _ _ => trivial
  exact appliesOnly_of_applies fun _ ha => .body hr hk ha

end Transform

namespace Spec

/-! ## What is read from a body -/

theorem readSelector_relocate {l l' : Location} {text : String} {path : Selector}
    (h : readSelector l text = .ok path) : readSelector l' text = .ok path :=
  mapError_eq_ok_iff.2 (mapError_eq_ok_iff.1 h)

theorem readSource_relocate {l l' : Location} {d : Option Document} {path : Option Selector}
    (h : readSource l d = .ok path) : readSource l' d = .ok path := by
  unfold readSource at h ⊢
  split at h
  · exact h
  · obtain ⟨q, hq, rfl⟩ := map_eq_ok_iff.1 h
    exact map_eq_ok_iff.2 ⟨q, readSelector_relocate hq, rfl⟩
  · cases h

mutual

/-- What is read from a document does not depend on where it stands. -/
theorem readOutput_relocate {l l' : Location} {d : Document} {o : Output}
    (h : readOutput l d = .ok o) : readOutput l' d = .ok o := by
  match d with
  | .null | .bool _ | .number _ => exact h
  | .string text =>
    unfold readOutput at h ⊢
    split at h
    · rename_i hs
      obtain ⟨path, hp, rfl⟩ := map_eq_ok_iff.1 h
      rw [if_pos hs]
      exact map_eq_ok_iff.2 ⟨path, readSelector_relocate hp, rfl⟩
    · rename_i hs
      rw [if_neg hs]
      exact h
  | .array ds =>
    obtain ⟨os, hos, rfl⟩ := map_eq_ok_iff.1 h
    exact map_eq_ok_iff.2 ⟨os, readItems_relocate hos, rfl⟩
  | .object es =>
    unfold readOutput at h ⊢
    cases hform : ObjectForm.of es with
    | expression text =>
      simp only [hform] at h ⊢
      split at h
      · exact h
      · cases h
    | apply name source =>
      simp only [hform] at h ⊢
      obtain ⟨path, hp, rfl⟩ := map_eq_ok_iff.1 h
      exact map_eq_ok_iff.2 ⟨path, readSource_relocate hp, rfl⟩
    | entries =>
      simp only [hform] at h ⊢
      obtain ⟨os, hos, rfl⟩ := map_eq_ok_iff.1 h
      exact map_eq_ok_iff.2 ⟨os, readEntries_relocate hos, rfl⟩

theorem readItems_relocate {l l' : Location} {i i' : Nat} {ds : List Document} {os : List Output}
    (h : readItems l i ds = .ok os) : readItems l' i' ds = .ok os := by
  match ds with
  | [] => exact h
  | d :: ds =>
    obtain ⟨o, ho, h⟩ := bind_eq_ok_iff.1 h
    obtain ⟨os, hos, h⟩ := bind_eq_ok_iff.1 h
    obtain rfl := Except.ok.inj h
    refine bind_eq_ok_iff.2 ⟨o, readOutput_relocate ho, bind_eq_ok_iff.2 ⟨os, ?_, rfl⟩⟩
    exact readItems_relocate hos

theorem readEntries_relocate {l l' : Location} {es : List (String × Document)}
    {os : List (String × Output)} (h : readEntries l es = .ok os) :
    readEntries l' es = .ok os := by
  match es with
  | [] => exact h
  | (key, d) :: es =>
    obtain ⟨o, ho, h⟩ := bind_eq_ok_iff.1 h
    obtain ⟨os, hos, h⟩ := bind_eq_ok_iff.1 h
    obtain rfl := Except.ok.inj h
    refine bind_eq_ok_iff.2 ⟨o, readOutput_relocate ho, bind_eq_ok_iff.2 ⟨os, ?_, rfl⟩⟩
    exact readEntries_relocate hos

end

theorem Reads.unique {d : Document} {o o' : Output} (h : Reads d o) (h' : Reads d o') :
    o = o' := by
  obtain ⟨l, h⟩ := h
  obtain ⟨l', h'⟩ := h'
  rw [readOutput_relocate h'] at h
  exact (Except.ok.inj h).symm

end Spec

/-! ## What a specification defines -/

namespace Raw

/-- The names of the templates that have one, each with the body of the template. -/
def definitions (raw : Document) : List (String × Document) :=
  (templates raw).filterMap fun t =>
    (name? t).bind fun name => (part? "output" 2 t).map fun body => (name, body)

theorem mem_definitions {raw body : Document} {name : String} :
    (name, body) ∈ definitions raw
      ↔ ∃ t ∈ templates raw, name? t = some name ∧ part? "output" 2 t = some body := by
  simp [definitions, Option.bind_eq_some_iff, Option.map_eq_some_iff]

theorem nameAt_eq {ds : List Document} {ts : List TemplateSource}
    (h : List.Forall₂ (fun d t => TemplateSource.ofDocument? d = some t) ds ts) (i : Nat) :
    Spec.nameAt ts i = ds[i]?.bind name? := by
  unfold Spec.nameAt
  induction h generalizing i with
  | nil => rfl
  | cons hd _ ih =>
    cases i with
    | zero => exact (template_parts hd).1.symm
    | succ i => exact ih i

theorem eq_of_name? {check : Spec.Conformance} {raw : Document} {spec : Spec}
    (h : Spec.compileWith check raw = .ok spec) {t t' : Document} (ht : t ∈ templates raw)
    (ht' : t' ∈ templates raw) {name : String} (hn : name? t = some name)
    (hn' : name? t' = some name) : t = t' := by
  obtain ⟨source, hs, h⟩ := Spec.source_of_compileWith h
  have hdistinct : Spec.DistinctNames source.templates :=
    ((Spec.ofSource_ok_iff source).1 ⟨spec, h⟩).names
  have hat := nameAt_eq (specification_parts hs).1
  obtain ⟨i, hi⟩ := List.getElem?_of_mem ht
  obtain ⟨j, hj⟩ := List.getElem?_of_mem ht'
  obtain rfl : i = j := by
    refine hdistinct i j name ?_ ?_
    · rw [hat, hi]
      exact hn
    · rw [hat, hj]
      exact hn'
  exact Option.some.inj (hi.symm.trans hj)

/-- Looking up a name does not depend on the order of the templates. -/
theorem body?_eq_some_iff {check : Spec.Conformance} {raw : Document} {spec : Spec}
    (h : Spec.compileWith check raw = .ok spec) {name : String} {body : Document} :
    body? raw name = some body ↔ (name, body) ∈ definitions raw := by
  rw [mem_definitions]
  unfold body?
  rw [Option.bind_eq_some_iff]
  constructor
  · rintro ⟨t, ht, hb⟩
    have hn : name? t = some name := by simpa using List.find?_some ht
    exact ⟨t, List.mem_of_find?_eq_some ht, hn, hb⟩
  · rintro ⟨t, ht, hn, hb⟩
    obtain ⟨t', ht'⟩ := Option.isSome_iff_exists.1
      (List.find?_isSome.2 ⟨t, ht, beq_iff_eq.2 hn⟩ :
        ((templates raw).find? fun t => name? t == some name).isSome)
    have hn' : name? t' = some name := by simpa using List.find?_some ht'
    obtain rfl := eq_of_name? h ht (List.mem_of_find?_eq_some ht') hn hn'
    exact ⟨t, ht', hb⟩

end Raw

theorem Spec.output_eq {check check' : Conformance} {raw raw' : Document} {spec spec' : Spec}
    (h : compileWith check raw = .ok spec) (h' : compileWith check' raw' = .ok spec')
    {name : String} (hsame : ∀ body, (name, body) ∈ Raw.definitions raw
      ↔ (name, body) ∈ Raw.definitions raw') :
    (spec.template? name).map Template.output = (spec'.template? name).map Template.output := by
  have hbody : Raw.body? raw name = Raw.body? raw' name := by
    ext body
    rw [Raw.body?_eq_some_iff h, Raw.body?_eq_some_iff h', hsame]
  rcases body?_cases (compiles_of_compileWith h).1 name with ⟨hb, ht⟩ | ⟨body, t, hb, ht, hr⟩ <;>
    rcases body?_cases (compiles_of_compileWith h').1 name with
      ⟨hb', ht'⟩ | ⟨body', t', hb', ht', hr'⟩
  · rw [ht, ht']
  · rw [← hbody, hb] at hb'
    cases hb'
  · rw [← hbody, hb] at hb'
    cases hb'
  · rw [← hbody, hb] at hb'
    obtain rfl := Option.some.inj hb'
    rw [ht, ht', Option.map_some, Option.map_some, hr.unique hr']

/-- Two specifications of one root that define the same under each name that is reachable from
there give the same runs. Neither the order of templates nor what they pick matters, nor do
templates without a name or with one that is not reachable. -/
theorem only_reachable_templates_matter {check check' : Spec.Conformance} {raw raw' : Document}
    {spec spec' : Spec} (h : Spec.compileWith check raw = .ok spec)
    (h' : Spec.compileWith check' raw' = .ok spec') (hroot : Raw.root raw = Raw.root raw')
    (hsame : ∀ name, spec.Reachable name → ∀ body, (name, body) ∈ Raw.definitions raw
      ↔ (name, body) ∈ Raw.definitions raw')
    (t : Transformer) (mode : Option Mode) (d : Document) :
    t.run spec ⟨mode, none⟩ d = t.run spec' ⟨mode, none⟩ d := by
  have hr : spec.root = spec'.root :=
    (Spec.compiles_of_compileWith h).2.unique (hroot ▸ (Spec.compiles_of_compileWith h').2)
  have hrun := Transform.run_congr_of_reachable (m := Attempt Transform.Failure)
    (c := t.conditions (mode.getD t.config.mode))
    (fun name hn => Spec.output_eq h h' (hsame name hn)) [] (.ofDocument d) fun _ => .root
  unfold Transformer.run Transformer.setting
  rw [Transform.start_root, Transform.start_root, ← hr]
  exact congrArg (· >>= _) hrun

/-- The same templates in another order, one of them picking nodes, beside one without a name
and one that is not reachable. -/
theorem only_reachable_templates_matter_permuted :
    let a : Document := .object [("x", .object [("apply", .string "b")])]
    let root : Document := .array [.object [("apply", .string "a")],
      .object [("apply", .string "none")]]
    let raw : Document := .object [("root", root), ("templates", .array [
      .object [("name", .string "a"), ("output", a)],
      .object [("name", .string "b"), ("output", .string "$")]])]
    let raw' : Document := .object [("templates", .array [
      .object [("match", .string "$"), ("output", .null)],
      .object [("name", .string "b"), ("match", .string "$"), ("output", .string "$")],
      .object [("name", .string "c"), ("output", .object [("apply", .string "a")])],
      .object [("name", .string "a"), ("output", a)]]), ("root", root)]
    ∃ spec spec', Spec.compileWith Spec.unchecked raw = .ok spec ∧
      Spec.compileWith Spec.unchecked raw' = .ok spec' ∧ Raw.root raw = Raw.root raw' ∧
      (∀ name, spec.Reachable name → ∀ body, (name, body) ∈ Raw.definitions raw
        ↔ (name, body) ∈ Raw.definitions raw') ∧
      ∀ (t : Transformer) (d : Document),
        t.run spec ⟨none, none⟩ d = t.run spec' ⟨none, none⟩ d := by
  intro a root raw raw'
  let whole : Selector := ⟨"$", []⟩
  let templateA : Template := ⟨some "a", none, .object [("x", .apply "b" none)]⟩
  let templateB (picks : Option Selector) : Template := ⟨some "b", picks, .selector whole⟩
  let spec (ts : List Template) : Spec := ⟨ts, .array [.apply "a" none, .apply "none" none],
    [.unknownTemplate "none" ⟨none, [.item 1]⟩]⟩
  have h : Spec.compileWith Spec.unchecked raw = .ok (spec [templateA, templateB none]) := by
    with_unfolding_all rfl
  have h' : Spec.compileWith Spec.unchecked raw' = .ok (spec [⟨none, some whole, .literal .null⟩,
    templateB (some whole), ⟨some "c", none, .apply "a" none⟩, templateA]) := by
    with_unfolding_all rfl
  have hreach (name : String) (hr : (spec [templateA, templateB none]).Reachable name) :
      name ∈ ["a", "b", "none"] := by
    induction hr with
    | @root name ha =>
      obtain ⟨l, ha⟩ := ha
      have hsub : ["a", "none"] ⊆ ["a", "b", "none"] := by simp
      exact hsub ha
    | @body name other t _ ht ha ih =>
      obtain ⟨l, ha⟩ := ha
      rcases List.mem_cons.1 ih with rfl | ih
      · obtain rfl : templateA = t := Option.some.inj ht
        have hsub : ["b"] ⊆ ["a", "b", "none"] := by simp
        exact hsub ha
      · rcases List.mem_cons.1 ih with rfl | ih
        · obtain rfl : templateB none = t := Option.some.inj ht
          cases ha
        · obtain rfl := List.mem_singleton.1 ih
          cases ht
  have hsame (name : String) (hr : (spec [templateA, templateB none]).Reachable name)
      (body : Document) :
      (name, body) ∈ Raw.definitions raw ↔ (name, body) ∈ Raw.definitions raw' := by
    have hd : Raw.definitions raw = [("a", a), ("b", .string "$")] := rfl
    have hd' : Raw.definitions raw' = [("b", .string "$"),
      ("c", .object [("apply", .string "a")]), ("a", a)] := rfl
    have hc : name ≠ "c" := by
      rintro rfl
      exact absurd (hreach _ hr) (by decide)
    rw [hd, hd']
    simp [hc, or_comm]
  exact ⟨_, _, h, h', rfl, hsame,
    fun t d => only_reachable_templates_matter h h' rfl hsame t none d⟩

end Reshape
