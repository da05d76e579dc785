import Reshape.Proofs.Declarations
import Reshape.Proofs.Locality

/-!
# The shape of the output

The value of an object is built from the values of its entries in the order in which they are
declared, that of an array from the values of its items: `Output.Builds`. A document in which there
is nothing to evaluate is `Plain`; a body that declares it gives just that document, as
`body_of_plain` says. `output_follows_declaration` says all this of the runs of compiled
specifications.
-/

namespace Reshape

/-! ## Bodies and values -/

namespace Output

/-- The declared entries that have a value, with their values, in the declared order. -/
def kept (value : Output → Option Document) (entries : List (String × Output)) :
    List (String × Document) :=
  (entries.filter fun e => (value e.2).isSome).map fun e => (e.1, (value e.2).getD .null)

/-- The values of the nodes of a body follow its declaration: an object has the declared entries
that have a value, and an array has an item for each that is declared, which is null for those
without a value. -/
structure Builds (o : Output) (value : Output → Option Document) : Prop where
  object {l : Location} {entries : List (String × Output)}
    (h : (l, object entries) ∈ o.nodes .root) :
    value (object entries) = some (.object (kept value entries))
  array {l : Location} {items : List Output} (h : (l, array items) ∈ o.nodes .root) :
    value (array items) = some (.array (items.map fun item => (value item).getD .null))

theorem kept_cons (value : Output → Option Document) (key : String) (o : Output)
    (rest : List (String × Output)) :
    kept value ((key, o) :: rest) = ((value o).map fun d => (key, d)).toList ++ kept value rest := by
  unfold kept
  cases h : value o <;> simp [h]

theorem nodup_kept {entries : List (String × Output)} (h : (entries.map Prod.fst).Nodup)
    (value : Output → Option Document) : ((kept value entries).map Prod.fst).Nodup := by
  unfold kept
  rw [List.map_map]
  exact h.sublist ((List.filter_sublist).map Prod.fst)

end Output

/-! ## Evaluating objects and arrays -/

namespace Attempt

variable {ε α : Type}

def value? (x : Attempt ε (Option α)) : Option α :=
  match x.result with
  | .ok v => v
  | .error _ => none

theorem Succeeds.result_eq {x : Attempt ε (Option α)} (h : x.Succeeds) :
    x.result = .ok x.value? := by
  obtain ⟨v, hv⟩ := h
  unfold value?
  rw [hv]

theorem value?_of_result {x : Attempt ε (Option α)} {v : Option α} (h : x.result = .ok v) :
    x.value? = v := by
  unfold value?
  rw [h]

end Attempt

namespace Transform

section Body

variable {s : Setting} {view : View}
  {apply : Known s.spec → Option (Reach view.place) → Attempt Failure (Option Document)}

theorem bodyEntries_of_result {entries : List (String × Output)} {es : List (String × Document)}
    (h : (s.bodyEntries view apply entries).result = .ok es) :
    (∀ e ∈ entries, (s.body view apply e.2).Succeeds) ∧
      es = Output.kept (fun o => (s.body view apply o).value?) entries := by
  induction entries generalizing es with
  | nil =>
    unfold Setting.bodyEntries at h
    cases h
    exact ⟨nofun, rfl⟩
  | cons e rest ih =>
    obtain ⟨key, o⟩ := e
    unfold Setting.bodyEntries at h
    obtain ⟨value, ho, h⟩ := Attempt.result_bind_eq_ok_iff.1 h
    obtain ⟨out, hrest, h⟩ := Attempt.result_bind_eq_ok_iff.1 h
    obtain ⟨hall, rfl⟩ := ih hrest
    refine ⟨List.forall_mem_cons.2 ⟨⟨value, ho⟩, hall⟩, ?_⟩
    rw [Output.kept_cons, Attempt.value?_of_result ho]
    cases value with
    | none =>
      cases h
      rfl
    | some d =>
      cases h
      rfl

theorem bodyItems_of_result {items : List Output} {ds : List Document}
    (h : (s.bodyItems view apply items).result = .ok ds) :
    (∀ o ∈ items, (s.body view apply o).Succeeds) ∧
      ds = items.map fun o => ((s.body view apply o).value?).getD .null := by
  induction items generalizing ds with
  | nil =>
    unfold Setting.bodyItems at h
    cases h
    exact ⟨nofun, rfl⟩
  | cons o rest ih =>
    unfold Setting.bodyItems at h
    obtain ⟨value, ho, h⟩ := Attempt.result_bind_eq_ok_iff.1 h
    obtain ⟨out, hrest, h⟩ := Attempt.result_bind_eq_ok_iff.1 h
    obtain ⟨hall, rfl⟩ := ih hrest
    cases h
    refine ⟨List.forall_mem_cons.2 ⟨⟨value, ho⟩, hall⟩, ?_⟩
    rw [List.map_cons, Attempt.value?_of_result ho]

theorem body_object_of_result {entries : List (String × Output)} {v : Option Document}
    (h : (s.body view apply (.object entries)).result = .ok v) :
    (∀ e ∈ entries, (s.body view apply e.2).Succeeds) ∧
      v = some (.object (Output.kept (fun o => (s.body view apply o).value?) entries)) := by
  unfold Setting.body at h
  obtain ⟨es, hes, h⟩ := Attempt.result_bind_eq_ok_iff.1 h
  obtain ⟨hall, rfl⟩ := bodyEntries_of_result hes
  cases h
  exact ⟨hall, rfl⟩

theorem body_array_of_result {items : List Output} {v : Option Document}
    (h : (s.body view apply (.array items)).result = .ok v) :
    (∀ o ∈ items, (s.body view apply o).Succeeds) ∧
      v = some (.array (items.map fun o => ((s.body view apply o).value?).getD .null)) := by
  unfold Setting.body at h
  obtain ⟨ds, hds, h⟩ := Attempt.result_bind_eq_ok_iff.1 h
  obtain ⟨hall, rfl⟩ := bodyItems_of_result hds
  cases h
  exact ⟨hall, rfl⟩

theorem handedDown_succeeds : Output.HandedDown fun o => (s.body view apply o).Succeeds where
  object := fun ⟨_, h⟩ => (body_object_of_result h).1
  array := fun ⟨_, h⟩ => (body_array_of_result h).1

theorem builds_of_result {o : Output} (h : (s.body view apply o).Succeeds) :
    o.Builds fun o => (s.body view apply o).value? where
  object hn := by
    obtain ⟨v, hv⟩ := handedDown_succeeds.forall_mem_nodes h .root _ hn
    obtain ⟨-, rfl⟩ := body_object_of_result hv
    exact Attempt.value?_of_result hv
  array hn := by
    obtain ⟨v, hv⟩ := handedDown_succeeds.forall_mem_nodes h .root _ hn
    obtain ⟨-, rfl⟩ := body_array_of_result hv
    exact Attempt.value?_of_result hv

end Body

/-- Where the run of a node has a result, so have those of the nodes within it, and their values
follow its declaration. -/
theorem run_builds {s : Setting} {chain : Chain} {view : View} {o : Output} {v : Option Document}
    (h : (s.run chain view o : Attempt Failure (Option Document)).result = .ok v) :
    ∃ value : Output → Option Document, value o = v ∧
      (∀ n ∈ o.nodes .root,
        (s.run chain view n.2 : Attempt Failure (Option Document)).result = .ok (value n.2)) ∧
      o.Builds value := by
  let apply (k : Known s.spec) : Option (Reach view.place) → Attempt Failure (Option Document) :=
    s.applyAt (chain.length + 1) k.name (s.enter true s.run chain view k)
  have hbody (o : Output) : s.run chain view o = s.body view apply o := s.run_eq_level chain view o
  rw [hbody] at h
  refine ⟨fun o => (s.body view apply o).value?, Attempt.value?_of_result h, fun n hn => ?_,
    builds_of_result ⟨v, h⟩⟩
  rw [hbody]
  exact (handedDown_succeeds.forall_mem_nodes ⟨v, h⟩ .root n hn).result_eq

end Transform

/-! ## Bodies without anything to evaluate -/

/-- The document has no string that looks like a selector and no object with a text under `expr`
or `apply`. -/
inductive Document.Plain : Document → Prop where
  | null : Plain .null
  | bool (value : Bool) : Plain (.bool value)
  | number (value : Number) : Plain (.number value)
  | string {text : String} (h : ¬ Selector.looksLikeOne text) : Plain (.string text)
  | array {items : List Document} (h : ∀ d ∈ items, Plain d) : Plain (.array items)
  | object {entries : List (String × Document)} (he : ¬ Spec.HasText entries "expr")
      (ha : ¬ Spec.HasText entries "apply") (h : ∀ e ∈ entries, Plain e.2) :
      Plain (.object entries)

namespace Transform

section Plain

variable {s : Setting} {view : View}
  {apply : Known s.spec → Option (Reach view.place) → Attempt Failure (Option Document)}

theorem bodyItems_of_declared {ds : List Document} {os : List Output}
    (h : List.Forall₂ Output.Declared ds os)
    (ih : ∀ d ∈ ds, ∀ o, Output.Declared d o → s.body view apply o = ⟨.ok (some d), []⟩) :
    s.bodyItems view apply os = ⟨.ok ds, []⟩ := by
  induction h with
  | nil =>
    unfold Setting.bodyItems
    rfl
  | cons h _ ih' =>
    obtain ⟨ihd, ihds⟩ := List.forall_mem_cons.1 ih
    exact bodyItems_cons_of_ok (ihd _ h) (ih' ihds)

theorem bodyEntries_of_declared {es : List (String × Document)} {os : List (String × Output)}
    (hkeys : os.map Prod.fst = es.map Prod.fst)
    (h : List.Forall₂ Output.Declared (es.map Prod.snd) (os.map Prod.snd))
    (ih : ∀ e ∈ es, ∀ o, Output.Declared e.2 o → s.body view apply o = ⟨.ok (some e.2), []⟩) :
    s.bodyEntries view apply os = ⟨.ok es, []⟩ := by
  induction es generalizing os with
  | nil =>
    obtain rfl := List.map_eq_nil_iff.1 hkeys
    unfold Setting.bodyEntries
    rfl
  | cons e es ih' =>
    obtain ⟨⟨key, o⟩, os, rfl, rfl, htail⟩ := List.map_eq_cons_iff.1 hkeys
    cases h with
    | cons h hrest =>
      obtain ⟨ihd, ihes⟩ := List.forall_mem_cons.1 ih
      exact bodyEntries_cons_of_ok (ihd _ h) (ih' htail hrest ihes)

/-- A body that declares a plain document gives just that one, and passes over nothing. -/
theorem body_of_plain {d : Document} (hd : d.Plain) (o : Output) (h : Output.Declared d o) :
    s.body view apply o = ⟨.ok (some d), []⟩ := by
  induction hd generalizing o with
  | null | bool | number =>
    cases h
    unfold Setting.body
    rfl
  | string hs =>
    cases h with
    | text =>
      unfold Setting.body
      rfl
    | selector h => exact absurd h hs
  | array _ ih =>
    cases h with
    | array h =>
      unfold Setting.body
      rw [bodyItems_of_declared h ih]
      rfl
  | object he ha _ ih =>
    cases h with
    | expression h => exact absurd ⟨_, h⟩ he
    | apply _ h => exact absurd ⟨_, h⟩ ha
    | object _ _ hkeys h =>
      unfold Setting.body
      rw [bodyEntries_of_declared hkeys h ih]
      rfl

end Plain

end Transform

open Transform

/-- A compiled specification declares what its document does, and no object two entries of one key,
so that entries can as well be put in one after the other. Where a node of a run has a result,
the values of the nodes within it follow its declaration. A root body without anything to evaluate
is the result of each run, and no failure is passed over. -/
theorem output_follows_declaration {check : Spec.Conformance} {raw : Document} {spec : Spec}
    (h : Spec.compileWith check raw = .ok spec) :
    (Output.Declared (Raw.root raw) spec.root ∧
      List.Forall₂ (fun d t => ∃ body, Raw.part? "output" 2 d = some body ∧
        Output.Declared body t.output) (Raw.templates raw) spec.templates) ∧
    (raw.DistinctKeys → ∀ n ∈ spec.nodes, ∀ entries, n.2 = .object entries →
      (entries.map Prod.fst).Nodup ∧
        ∀ value, Document.merge (Output.kept value entries) = Output.kept value entries) ∧
    (∀ text, Document.read text = .ok raw → raw.DistinctKeys) ∧
    (∀ (c : Conditions) (chain : Chain) (view : View) (o : Output) (v : Option Document),
      let run (o : Output) : Attempt Failure (Option Document) :=
        Setting.run ⟨c, spec⟩ chain view o
      (run o).result = .ok v → ∃ value : Output → Option Document, value o = v ∧
        (∀ n ∈ o.nodes .root, (run n.2).result = .ok (value n.2)) ∧ o.Builds value) ∧
    ((Raw.root raw).Plain → ∀ (t : Transformer) (mode : Option Mode) (d : Document),
      t.run spec ⟨mode, none⟩ d = ⟨.ok (Raw.root raw), []⟩) := by
  have hdeclared := Spec.declared_of_compileWith h
  refine ⟨hdeclared, ?_, fun _ => Document.distinctKeys_of_read, fun _ _ _ _ _ => run_builds, ?_⟩
  · intro hraw n hn entries hentries
    have hdistinct := Spec.standsForDistinct_of_compileWith h hraw n hn
    rw [hentries] at hdistinct
    have hkeys := hdistinct.nodup_keys
    exact ⟨hkeys, fun value => Document.merge_eq_self (Output.nodup_kept hkeys value)⟩
  · intro hplain t mode d
    let s : Setting := t.setting spec (mode.getD t.config.mode)
    have hroot : (s.run [] (.ofDocument d) spec.root : Attempt Failure (Option Document))
        = ⟨.ok (some (Raw.root raw)), []⟩ := by
      rw [Setting.run_eq_level]
      exact body_of_plain hplain _ hdeclared.1
    calc t.run spec ⟨mode, none⟩ d
      _ = s.run [] (.ofDocument d) spec.root >>= fun v => pure (v.getD .null) := start_root
      _ = ⟨.ok (Raw.root raw), []⟩ := by
        rw [hroot, Attempt.map_ok]
        rfl

/-- A root body that is given as a text, and one with an entry and an item for which nothing is
found, in a permissive run of the same specification. -/
theorem output_follows_declaration_missing :
    let text := "[[],\x7b\"b\":[]\x7d]"
    let body : Document := .object [("b", .array [])]
    let raw : Document := .array [.array [], body]
    let missing : Output := .selector ⟨"$.c", [.property "c"]⟩
    let o : Output := .object [("c", missing), ("b", .array [missing]), ("a", .literal .null)]
    let entries : List (String × Output) := [("b", .array [])]
    ∃ spec, Document.read text = .ok raw ∧ Spec.compileWith Spec.unchecked raw = .ok spec ∧
      (∃ value : Output → Option Document,
        value o = some (.object [("b", .array [.null]), ("a", .null)]) ∧ o.Builds value) ∧
      (∀ value, Document.merge (Output.kept value entries) = Output.kept value entries) ∧
      ∀ (t : Transformer) (mode : Option Mode) (d : Document),
        t.run spec ⟨mode, none⟩ d = ⟨.ok body, []⟩ := by
  intro text body raw missing o entries
  let spec : Spec := ⟨[], .object entries, []⟩
  have hread : Document.read text = .ok raw := by
    have htext : text.toList
        = ['[', '[', ']', ',', '\x7b', '"', 'b', '"', ':', '[', ']', '\x7d', ']'] := by decide
    unfold Document.read Document.readWithin Document.readAll
    rw [htext]
    unfold Document.value Document.items Document.value Document.items Document.value
      Document.entries Document.stringBody Document.stringBody Document.value
    rfl
  have hc : Spec.compileWith Spec.unchecked raw = .ok spec := rfl
  obtain ⟨-, hkeys, htexts, hbuilds, hplain⟩ := output_follows_declaration hc
  have hrun : (Setting.run ⟨⟨.permissive, .empty, none⟩, spec⟩ [] (.ofDocument .null) o
      : Attempt Failure (Option Document)).result
        = .ok (some (.object [("b", .array [.null]), ("a", .null)])) := by
    rw [Setting.run_eq_level]
    rfl
  obtain ⟨value, hvalue, -, ho⟩ := hbuilds _ _ _ _ _ hrun
  have hobject : (Location.root, Output.object entries) ∈ spec.nodes := List.mem_cons_self
  have hb : (Document.array []).Plain := .array (List.forall_mem_nil _)
  exact ⟨spec, hread, hc, ⟨value, hvalue, ho⟩, (hkeys (htexts _ hread) _ hobject _ rfl).2,
    hplain (.object nofun nofun (List.forall_mem_singleton.2 hb))⟩

end Reshape
