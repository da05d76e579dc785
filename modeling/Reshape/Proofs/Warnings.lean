import Reshape.Proofs.Compilation
import Reshape.Proofs.StartTemplate
import Reshape.Transform.Transformer

/-!
# Warnings about templates that are not defined

A specification compiles although it applies templates that it does not define. Each of
their names is warned about once, where it is first applied: `firstOfEach` keeps the first
entry of each name, and the entries are the applications among the nodes of all bodies. A
run applies no other templates, so that it fails for none that is not warned about.
-/

namespace Reshape

namespace Output

mutual

/-- All nodes of a body with their locations, each before those inside it. -/
def nodes (l : Location) : Output → List (Location × Output)
  | object entries => (l, object entries) :: entryNodes l entries
  | array items => (l, array items) :: itemNodes l 0 items
  | o => [(l, o)]

def itemNodes (l : Location) (i : Nat) : List Output → List (Location × Output)
  | [] => []
  | o :: os => o.nodes (l.item i) ++ itemNodes l (i + 1) os

def entryNodes (l : Location) : List (String × Output) → List (Location × Output)
  | [] => []
  | (key, o) :: os => o.nodes (l.member key) ++ entryNodes l os

end

/-- What holds of an object or an array holds of its parts. -/
structure HandedDown (P : Output → Prop) : Prop where
  object {entries : List (String × Output)} (h : P (object entries)) : ∀ e ∈ entries, P e.2
  array {items : List Output} (h : P (array items)) : ∀ o ∈ items, P o

mutual

theorem HandedDown.forall_mem_nodes {P : Output → Prop} (hP : HandedDown P) {o : Output} (h : P o)
    (l : Location) : ∀ n ∈ o.nodes l, P n.2 := by
  match o with
  | .literal _ | .selector _ | .expression .. | .apply .. => exact List.forall_mem_singleton.2 h
  | .object entries =>
    exact List.forall_mem_cons.2 ⟨h, hP.forall_mem_entryNodes (hP.object h) l⟩
  | .array items =>
    exact List.forall_mem_cons.2 ⟨h, hP.forall_mem_itemNodes (hP.array h) l 0⟩

theorem HandedDown.forall_mem_itemNodes {P : Output → Prop} (hP : HandedDown P)
    {items : List Output} (h : ∀ o ∈ items, P o) (l : Location) (i : Nat) :
    ∀ n ∈ itemNodes l i items, P n.2 := by
  match items with
  | [] => exact List.forall_mem_nil _
  | o :: rest =>
    obtain ⟨ho, hrest⟩ := List.forall_mem_cons.1 h
    exact List.forall_mem_append.2
      ⟨hP.forall_mem_nodes ho (l.item i), hP.forall_mem_itemNodes hrest l (i + 1)⟩

theorem HandedDown.forall_mem_entryNodes {P : Output → Prop} (hP : HandedDown P)
    {entries : List (String × Output)} (h : ∀ e ∈ entries, P e.2) (l : Location) :
    ∀ n ∈ entryNodes l entries, P n.2 := by
  match entries with
  | [] => exact List.forall_mem_nil _
  | (key, o) :: rest =>
    obtain ⟨ho, hrest⟩ := List.forall_mem_cons.1 h
    exact List.forall_mem_append.2
      ⟨hP.forall_mem_nodes ho (l.member key), hP.forall_mem_entryNodes hrest l⟩

end

/-- The template that a node applies, with the location of the node. -/
def application? : Location × Output → Option (String × Location)
  | (l, apply name _) => some (name, l)
  | _ => none

mutual

theorem targets_eq (l : Location) (o : Output) :
    o.targets l = (o.nodes l).filterMap application? := by
  match o with
  | .literal _ | .selector _ | .expression .. | .apply .. => rfl
  | .object entries => exact entryTargets_eq l entries
  | .array items => exact itemTargets_eq l 0 items

theorem itemTargets_eq (l : Location) (i : Nat) (os : List Output) :
    itemTargets l i os = (itemNodes l i os).filterMap application? := by
  match os with
  | [] => rfl
  | o :: os =>
    rw [itemTargets, itemNodes, List.filterMap_append, targets_eq, itemTargets_eq]

theorem entryTargets_eq (l : Location) (es : List (String × Output)) :
    entryTargets l es = (entryNodes l es).filterMap application? := by
  match es with
  | [] => rfl
  | (key, o) :: es =>
    rw [entryTargets, entryNodes, List.filterMap_append, targets_eq, entryTargets_eq]

end

end Output

namespace Spec

/-- All nodes of a specification with their locations: those of the templates in order,
then those of the root. -/
def nodes (s : Spec) : List (Location × Output) :=
  (s.templates.mapIdx fun i t =>
    t.output.nodes ((Location.ofTemplate i t.name).member "output")).flatten ++ s.root.nodes .root

def applications (s : Spec) : List (String × Location) := s.nodes.filterMap Output.application?

/-- The specification applies a template of the name somewhere. -/
def IsApplied (s : Spec) (name : String) : Prop := name ∈ s.applications.map Prod.fst

theorem allTargets_eq (s : Spec) : allTargets s.templates s.root = s.applications := by
  unfold allTargets applications nodes
  rw [List.filterMap_append, ← Output.targets_eq, List.filterMap_flatten,
    List.mapIdx_eq_zipIdx_map, List.mapIdx_eq_zipIdx_map, List.map_map]
  simp only [Output.targets_eq]
  rfl

/-! ## The first entry of each name -/

section FirstOfEach

variable {seen : List String} {name : String} {l : Location}

theorem firstOfEach_sublist (seen : List String) (ts : List (String × Location)) :
    (firstOfEach seen ts).Sublist ts := by
  induction ts generalizing seen with
  | nil => exact .refl _
  | cons t ts ih =>
    unfold firstOfEach
    split
    · exact (ih _).cons t
    · exact (ih _).cons_cons t

theorem mem_firstOfEach {ts : List (String × Location)} :
    (name, l) ∈ firstOfEach seen ts
      ↔ name ∉ seen ∧ ts.find? (fun t => t.1 == name) = some (name, l) := by
  induction ts generalizing seen with
  | nil => simp [firstOfEach]
  | cons t ts ih =>
    obtain ⟨other, l'⟩ := t
    rw [List.find?_cons]
    unfold firstOfEach
    by_cases hname : other = name
    · subst hname
      by_cases hseen : other ∈ seen
      · simp [hseen, ih]
      · simp [hseen, ih, eq_comm]
    · have hbeq : (other == name) = false := by simpa using hname
      by_cases hseen : other ∈ seen
      · simp [hseen, ih, hbeq]
      · simp [hseen, ih, hbeq, Ne.symm hname]

theorem nodup_firstOfEach (seen : List String) (ts : List (String × Location)) :
    ((firstOfEach seen ts).map Prod.fst).Nodup := by
  induction ts generalizing seen with
  | nil => exact List.nodup_nil
  | cons t ts ih =>
    unfold firstOfEach
    split
    · exact ih _
    · rw [List.map_cons, List.nodup_cons]
      refine ⟨fun hmem => ?_, ih _⟩
      obtain ⟨⟨name, l⟩, hm, rfl⟩ := List.mem_map.1 hmem
      exact (mem_firstOfEach.1 hm).1 (List.mem_cons_self ..)

end FirstOfEach

/-! ## The list of warnings -/

/-- The warning is about keys that are passed over. -/
def Warning.IsIgnored (w : Warning) : Prop := ∃ l beside keys, w = .ignoredKeys l beside keys

theorem isIgnored_of_mem_ignored {l : Location} {known : String} {others : List String}
    {es : List (String × Document)} : ∀ w ∈ ignored l known others es, w.IsIgnored := by
  intro w hw
  unfold ignored at hw
  dsimp only at hw
  split at hw
  · cases hw
  · exact ⟨_, _, _, List.mem_singleton.1 hw⟩

mutual

theorem isIgnored_of_mem_ignoredKeys (l : Location) (d : Document) :
    ∀ w ∈ ignoredKeys l d, w.IsIgnored := by
  match d with
  | .null | .bool _ | .number _ | .string _ => exact nofun
  | .array ds => exact isIgnored_of_mem_ignoredInItems l 0 ds
  | .object es =>
    unfold ignoredKeys
    split
    · exact isIgnored_of_mem_ignored
    · exact isIgnored_of_mem_ignored
    · exact isIgnored_of_mem_ignoredInEntries l es

theorem isIgnored_of_mem_ignoredInItems (l : Location) (i : Nat) (ds : List Document) :
    ∀ w ∈ ignoredInItems l i ds, w.IsIgnored := by
  match ds with
  | [] => exact nofun
  | d :: ds =>
    rw [ignoredInItems, List.forall_mem_append]
    exact ⟨isIgnored_of_mem_ignoredKeys _ d, isIgnored_of_mem_ignoredInItems l (i + 1) ds⟩

theorem isIgnored_of_mem_ignoredInEntries (l : Location) (es : List (String × Document)) :
    ∀ w ∈ ignoredInEntries l es, w.IsIgnored := by
  match es with
  | [] => exact nofun
  | (key, d) :: es =>
    rw [ignoredInEntries, List.forall_mem_append]
    exact ⟨isIgnored_of_mem_ignoredKeys _ d, isIgnored_of_mem_ignoredInEntries l es⟩

end

theorem isIgnored_of_mem_allIgnoredKeys (source : SpecSource) :
    ∀ w ∈ allIgnoredKeys source, w.IsIgnored := by
  unfold allIgnoredKeys
  rw [List.forall_mem_append]
  refine ⟨fun w hw => ?_, isIgnored_of_mem_ignoredKeys _ _⟩
  obtain ⟨⟨l, t⟩, -, h⟩ := List.mem_flatMap.1 hw
  exact isIgnored_of_mem_ignoredKeys _ _ w h

end Spec

/-! ## Runs -/

namespace Transform

/-- The failure is of no template, or of one that is applied somewhere and not defined. -/
def Failure.IsUnresolved (spec : Spec) (e : Failure) : Prop :=
  ∀ name, e = .unknownTemplate name → spec.IsApplied name ∧ name ∉ spec.names

theorem appliesOnly_root (spec : Spec) : AppliesOnly spec.IsApplied spec.root := by
  refine ⟨.root, fun t ht => List.mem_map_of_mem ?_⟩
  rw [← Spec.allTargets_eq]
  exact List.mem_append_right _ ht

theorem appliesOnly_template {spec : Spec} {name : String} {t : Template}
    (h : spec.template? name = some t) : AppliesOnly spec.IsApplied t.output := by
  obtain ⟨i, hi, rfl⟩ := List.mem_iff_getElem.1 (List.mem_of_find?_eq_some h)
  refine ⟨(Location.ofTemplate i spec.templates[i].name).member "output",
    fun u hu => List.mem_map_of_mem ?_⟩
  rw [← Spec.allTargets_eq]
  exact List.mem_append_left _ (List.mem_flatten.2 ⟨_, List.mem_mapIdx.2 ⟨i, hi, rfl⟩, hu⟩)

/-- A run fails for no templates but those that are applied and not defined, if what it
evaluates applies only templates that are applied. -/
theorem run_unresolved (c : Conditions) (spec : Spec) (chain : Chain) (v : View) (o : Output)
    (ho : AppliesOnly spec.IsApplied o) :
    FailsOnly (Failure.IsUnresolved spec) _ (Setting.run ⟨c, spec⟩ chain v o)
      (Setting.run ⟨c, spec⟩ chain v o) := by
  have h : LocalAgreement (FailsOnly (Failure.IsUnresolved spec)) v.root c c :=
    FailsOnly.localAgreement (fun _ => nofun) (fun _ => nofun) v.root c
  refine h.run_agree_of_names (I := fun _ => True) (fun name happlied => ?_) ?_
    (fun _ _ => .settle _ _ (.fail nofun)) chain trivial o ho
  · cases hk : spec.template? name with
    | none =>
      refine .unknown hk hk fun _ => .settle _ _ (.fail ?_)
      rintro _ ⟨⟩
      refine ⟨happlied, fun hmem => ?_⟩
      obtain ⟨_, hk'⟩ := Spec.exists_template?_of_mem_names hmem
      cases hk.symm.trans hk'
    | some t => exact .known hk hk rfl (appliesOnly_template hk)
  · intro p enter enter' outer name source _ he
    unfold Conditions.applyAt
    split
    · exact .settle _ _ (.fail nofun)
    · exact applyTo_agree h.toSequential (he trivial) source

theorem start_unresolved (c : Conditions) (spec : Spec) (start : Option String)
    (hs : ∀ name, start = some name → name ∈ spec.names) (d : Document) :
    ∀ e ∈ (Setting.start ⟨c, spec⟩ start d : Attempt Failure Document).failures,
      e.IsUnresolved spec := by
  cases start with
  | none =>
    rw [start_root, Attempt.forall_failures_convert]
    exact run_unresolved c spec [] _ _ (appliesOnly_root spec)
  | some name =>
    obtain ⟨t, ht⟩ := Spec.exists_template?_of_mem_names (hs name rfl)
    rw [start_template ht, Attempt.forall_failures_convert]
    exact run_unresolved c spec [] _ _ (appliesOnly_template ht)

end Transform

namespace Spec

open Transform

/-- The entries of the names that are applied and not defined: one for each of them, at its
first application, in the order of these. -/
structure Unresolved (s : Spec) (entries : List (String × Location)) : Prop where
  order : entries.Sublist s.applications
  once : (entries.map Prod.fst).Nodup
  mem_iff : ∀ name l, (name, l) ∈ entries
    ↔ name ∉ s.names ∧ s.applications.find? (fun a => a.1 == name) = some (name, l)

theorem unresolved_firstOfEach (s : Spec) :
    s.Unresolved ((firstOfEach [] s.applications).filter fun a => a.1 ∉ s.names) where
  order := List.filter_sublist.trans (firstOfEach_sublist [] s.applications)
  once := (nodup_firstOfEach [] s.applications).sublist (List.filter_sublist.map Prod.fst)
  mem_iff name l := by
    rw [List.mem_filter, mem_firstOfEach]
    simp [and_comm]

theorem Unresolved.exists_mem {s : Spec} {entries : List (String × Location)}
    (h : s.Unresolved entries) {name : String} (ha : s.IsApplied name) (hn : name ∉ s.names) :
    ∃ l, (name, l) ∈ entries := by
  obtain ⟨a, hmem, rfl⟩ := List.mem_map.1 ha
  obtain ⟨found, hf⟩ := Option.isSome_iff_exists.1
    (List.find?_isSome.2 ⟨a, hmem, BEq.rfl⟩ : (s.applications.find? fun b => b.1 == a.1).isSome)
  have hname : found.1 = a.1 := by simpa using List.find?_some hf
  refine ⟨found.2, (h.mem_iff _ _).2 ⟨hn, ?_⟩⟩
  rw [hf, ← hname]

/-- The warnings of a specification end with one for each name that is applied and not
defined, where it is first applied, and no run fails for another name unless it is told to
start with that. -/
theorem unknown_warnings_exact {check : Conformance} {raw : Document} {spec : Spec}
    (h : compileWith check raw = .ok spec) :
    (∃ ignored unknown, spec.Unresolved unknown ∧ (∀ w ∈ ignored, w.IsIgnored) ∧
        spec.warnings = ignored ++ unknown.map fun (name, l) => .unknownTemplate name l) ∧
      ∀ (t : Transformer) (options : RunOptions) (d : Document),
        (∀ name, options.start = some name → name ∈ spec.names) →
        ∀ name, .unknownTemplate name ∈ (t.run spec options d).failures →
          ∃ l, .unknownTemplate name l ∈ spec.warnings := by
  obtain ⟨source, -, -, -, hw⟩ := parts_of_compileWith h
  rw [allTargets_eq] at hw
  have hu := unresolved_firstOfEach spec
  refine ⟨⟨_, _, hu, isIgnored_of_mem_allIgnoredKeys source, hw⟩, ?_⟩
  intro t options d hs name hm
  obtain ⟨ha, hn⟩ := start_unresolved _ spec options.start hs d _ hm name rfl
  obtain ⟨l, hl⟩ := hu.exists_mem ha hn
  refine ⟨l, ?_⟩
  rw [hw]
  exact List.mem_append_right _ (List.mem_map_of_mem hl)

/-- A name that is applied twice is warned about at the first place. -/
theorem unknown_warnings_exact_twice :
    let raw : Document := .object [
      ("templates", .array [.object [("name", .string "a"),
        ("output", .object [("x", .object [("apply", .string "b")])])]]),
      ("root", .object [("apply", .string "b")])]
    let first : Location := ⟨some (0, some "a"), [.member "output", .member "x"]⟩
    let spec : Spec := ⟨[⟨some "a", none, .object [("x", .apply "b" none)]⟩], .apply "b" none,
      [.unknownTemplate "b" first]⟩
    let t : Transformer := ⟨.empty, ⟨.strict, none⟩⟩
    compileWith unchecked raw = .ok spec ∧
      .unknownTemplate "b" ∈ (t.run spec .none .null).failures ∧
      ∃ l, .unknownTemplate "b" l ∈ spec.warnings := by
  intro raw first spec t
  have hc : compileWith unchecked raw = .ok spec := rfl
  have hrun : t.run spec .none .null = ⟨.error (.unknownTemplate "b"), []⟩ :=
    start_of_startWithin 1 rfl
  have hm : .unknownTemplate "b" ∈ (t.run spec .none .null).failures := by
    rw [hrun]
    exact List.mem_singleton_self _
  exact ⟨hc, hm, (unknown_warnings_exact hc).2 t .none .null nofun "b" hm⟩

end Spec

end Reshape
