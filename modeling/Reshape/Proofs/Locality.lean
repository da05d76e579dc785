import Reshape.Proofs.Attempts
import Reshape.Proofs.StartTemplate
import Reshape.Proofs.Strictness

/-!
# What a node contributes to a run

A node of the root body that is reached through objects and arrays gives a value, if any, and
passes over some failures. `Document.Hole` is the document around the value. In a permissive
run nothing that becomes of the node keeps the nodes beside it from being evaluated, so that
the document and the failures around it are the same whatever node stands there:
`run_replaceAt`. In both modes a node can be exchanged for one that gives the same:
`run_replaceAt_congr`.
-/

namespace Reshape

namespace Output

/-- The node at the end of a branch; in an object the first of its key. -/
def child? : Output → Branch → Option Output
  | object entries, .member key => (entries.find? fun e => e.1 == key).map Prod.snd
  | array items, .item index => items[index]?
  | _, _ => none

def at? (o : Output) : Position → Option Output
  | [] => some o
  | b :: p => (o.child? b).bind fun c => c.at? p

def mapEntry (key : String) (f : Output → Output) :
    List (String × Output) → List (String × Output)
  | [] => []
  | (k, o) :: rest => if k = key then (k, f o) :: rest else (k, o) :: mapEntry key f rest

def mapChild (f : Output → Output) : Output → Branch → Output
  | object entries, .member key => object (mapEntry key f entries)
  | array items, .item index => array (items.modify index f)
  | o, _ => o

/-- The node with another one in place of that at a position. -/
def replaceAt (o new : Output) : Position → Output
  | [] => new
  | b :: p => o.mapChild (fun c => c.replaceAt new p) b

theorem mapEntry_append {key : String} {f : Output → Output} {before after : List (String × Output)}
    {o : Output} (h : ∀ e ∈ before, e.1 ≠ key) :
    mapEntry key f (before ++ (key, o) :: after) = before ++ (key, f o) :: after := by
  induction before with
  | nil => exact if_pos rfl
  | cons e before ih =>
    rw [List.forall_mem_cons] at h
    rw [List.cons_append, mapEntry, if_neg h.1, ih h.2]
    rfl

theorem exists_of_child?_member {o c : Output} {key : String}
    (h : o.child? (.member key) = some c) :
    ∃ before after, o = object (before ++ (key, c) :: after) ∧ (∀ e ∈ before, e.1 ≠ key) ∧
      ∀ f, o.mapChild f (.member key) = object (before ++ (key, f c) :: after) := by
  cases o with
  | object entries =>
    obtain ⟨⟨k, o⟩, hfind, rfl⟩ := Option.map_eq_some_iff.1 h
    obtain ⟨hkey, before, after, rfl, hb⟩ := List.find?_eq_some_iff_append.1 hfind
    obtain rfl : k = key := by simpa using hkey
    have hb : ∀ e ∈ before, e.1 ≠ k := by simpa using hb
    exact ⟨before, after, rfl, hb, fun f => congrArg object (mapEntry_append hb)⟩
  | _ => cases h

theorem exists_of_child?_item {o c : Output} {index : Nat} (h : o.child? (.item index) = some c) :
    ∃ before after, o = array (before ++ c :: after) ∧ before.length = index ∧
      ∀ f, o.mapChild f (.item index) = array (before ++ f c :: after) := by
  cases o with
  | array items =>
    obtain ⟨hi, rfl⟩ := List.getElem?_eq_some_iff.1 h
    refine ⟨items.take index, items.drop (index + 1), ?_, ?_, fun f => ?_⟩
    · rw [← List.drop_eq_getElem_cons hi, List.take_append_drop]
    · rw [List.length_take, Nat.min_eq_left (Nat.le_of_lt hi)]
    · exact congrArg array (List.modify_eq_take_cons_drop hi)
  | _ => cases h

end Output

/-! ## Documents with a hole -/

namespace Document

/-- A document around a place for a value. An entry that holds it is the first of its key. -/
inductive Hole where
  | whole
  | member (before : List (String × Document)) (key : String) (inner : Hole)
      (after : List (String × Document)) (fresh : ∀ e ∈ before, e.1 ≠ key)
  | item (before : List Document) (inner : Hole) (after : List Document)

namespace Hole

def position : Hole → Position
  | whole => []
  | member _ key inner _ _ => .member key :: inner.position
  | item before inner _ => .item before.length :: inner.position

/-- The document with a value in its place, or with none: then an entry is left out, and null
stands for an item. -/
def fill (value : Option Document) : Hole → Option Document
  | whole => value
  | member before key inner after _ =>
    some (.object (before ++ ((inner.fill value).map fun d => (key, d)).toList ++ after))
  | item before inner after => some (.array (before ++ (inner.fill value).getD .null :: after))

/-- The value stands at the position of the hole. -/
theorem at?_fill (hole : Hole) (d : Document) :
    ∃ whole, hole.fill (some d) = some whole ∧ whole.at? hole.position = some d := by
  induction hole with
  | whole => exact ⟨d, rfl, rfl⟩
  | member before key inner after fresh ih =>
    obtain ⟨part, hpart, hat⟩ := ih
    refine ⟨_, rfl, ?_⟩
    have hbefore : before.find? (fun e => e.1 == key) = none :=
      List.find?_eq_none.2 fun e he => by simpa using fresh e he
    rw [position, at?, hpart]
    simp [child?, find?, List.find?_append, hbefore, hat]
  | item before inner after ih =>
    obtain ⟨part, hpart, hat⟩ := ih
    refine ⟨_, rfl, ?_⟩
    rw [position, at?, hpart]
    simp [child?, hat]

end Hole

end Document

/-! ## Evaluations beside a node -/

theorem Attempt.Succeeds.exists_eq {ε α : Type} {x : Attempt ε α} (h : x.Succeeds) :
    ∃ a dropped, x = ⟨.ok a, dropped⟩ := by
  obtain ⟨a, ha⟩ := h
  exact ⟨a, x.dropped, by rw [← ha]⟩

namespace Transform

section Beside

variable {s : Setting} {v : View}
  {apply : Known s.spec → Option (Reach v.place) → Attempt Failure (Option Document)}

theorem bodyEntries_cons_of_ok {key : String} {o : Output} {rest : List (String × Output)}
    {value : Option Document} {es : List (String × Document)} {xs ys : List Failure}
    (ho : s.body v apply o = ⟨.ok value, xs⟩) (hr : s.bodyEntries v apply rest = ⟨.ok es, ys⟩) :
    s.bodyEntries v apply ((key, o) :: rest)
      = ⟨.ok ((value.map fun d => (key, d)).toList ++ es), xs ++ ys⟩ := by
  unfold Setting.bodyEntries
  rw [ho, hr, Attempt.bind_ok]
  cases value <;> rw [Attempt.map_ok] <;> rfl

theorem bodyItems_cons_of_ok {o : Output} {rest : List Output} {value : Option Document}
    {ds : List Document} {xs ys : List Failure} (ho : s.body v apply o = ⟨.ok value, xs⟩)
    (hr : s.bodyItems v apply rest = ⟨.ok ds, ys⟩) :
    s.bodyItems v apply (o :: rest) = ⟨.ok (value.getD .null :: ds), xs ++ ys⟩ := by
  unfold Setting.bodyItems
  rw [ho, hr, Attempt.bind_ok, Attempt.map_ok]

variable (hs : ∀ o, (s.body v apply o).Succeeds)

include hs

theorem exists_bodyEntries (rest : List (String × Output)) :
    ∃ es xs, s.bodyEntries v apply rest = ⟨.ok es, xs⟩ := by
  induction rest with
  | nil => exact ⟨[], [], by unfold Setting.bodyEntries; rfl⟩
  | cons e rest ih =>
    obtain ⟨value, xs, ho⟩ := (hs e.2).exists_eq
    obtain ⟨es, ys, hr⟩ := ih
    exact ⟨_, _, bodyEntries_cons_of_ok ho hr⟩

theorem exists_bodyItems (rest : List Output) :
    ∃ ds xs, s.bodyItems v apply rest = ⟨.ok ds, xs⟩ := by
  induction rest with
  | nil => exact ⟨[], [], by unfold Setting.bodyItems; rfl⟩
  | cons o rest ih =>
    obtain ⟨value, xs, ho⟩ := (hs o).exists_eq
    obtain ⟨ds, ys, hr⟩ := ih
    exact ⟨_, _, bodyItems_cons_of_ok ho hr⟩

/-- What is beside an entry gives the same entries and passes over the same failures, whatever
becomes of it. -/
theorem bodyEntries_around (before after : List (String × Output)) (key : String) :
    ∃ es fs xs ys, (∀ e ∈ es, ∃ o ∈ before, o.1 = e.1) ∧
      ∀ o value dropped, s.body v apply o = ⟨.ok value, dropped⟩ →
        s.bodyEntries v apply (before ++ (key, o) :: after)
          = ⟨.ok (es ++ (value.map fun d => (key, d)).toList ++ fs), xs ++ dropped ++ ys⟩ := by
  induction before with
  | nil =>
    obtain ⟨fs, ys, hr⟩ := exists_bodyEntries hs after
    refine ⟨[], fs, [], ys, List.forall_mem_nil _, fun o value dropped ho => ?_⟩
    exact bodyEntries_cons_of_ok ho hr
  | cons e before ih =>
    obtain ⟨value', xs', he⟩ := (hs e.2).exists_eq
    obtain ⟨es, fs, xs, ys, hkeys, hr⟩ := ih
    refine ⟨(value'.map fun d => (e.1, d)).toList ++ es, fs, xs' ++ xs, ys, ?_, ?_⟩
    · rw [List.forall_mem_append]
      refine ⟨fun e' he' => ⟨e, List.mem_cons_self .., ?_⟩, fun e' he' => ?_⟩
      · obtain ⟨d, -, rfl⟩ := Option.map_eq_some_iff.1 (Option.mem_toList.1 he')
        rfl
      · obtain ⟨o, ho, hkey⟩ := hkeys e' he'
        exact ⟨o, List.mem_cons_of_mem _ ho, hkey⟩
    · intro o value dropped ho
      rw [List.cons_append, bodyEntries_cons_of_ok he (hr o value dropped ho)]
      simp only [List.append_assoc]

theorem bodyItems_around (before after : List Output) :
    ∃ ds es xs ys, ds.length = before.length ∧
      ∀ o value dropped, s.body v apply o = ⟨.ok value, dropped⟩ →
        s.bodyItems v apply (before ++ o :: after)
          = ⟨.ok (ds ++ value.getD .null :: es), xs ++ dropped ++ ys⟩ := by
  induction before with
  | nil =>
    obtain ⟨es, ys, hr⟩ := exists_bodyItems hs after
    exact ⟨[], es, [], ys, rfl, fun o value dropped ho => bodyItems_cons_of_ok ho hr⟩
  | cons o' before ih =>
    obtain ⟨value', xs', he⟩ := (hs o').exists_eq
    obtain ⟨ds, es, xs, ys, hlength, hr⟩ := ih
    refine ⟨value'.getD .null :: ds, es, xs' ++ xs, ys, congrArg (· + 1) hlength, ?_⟩
    intro o value dropped ho
    rw [List.cons_append, bodyItems_cons_of_ok he (hr o value dropped ho)]
    simp only [List.append_assoc, List.cons_append]

/-- Around a node of a body stand the same document and the same failures, whatever becomes
of it. -/
theorem body_replaceAt {o old : Output} {position : Position} (h : o.at? position = some old) :
    ∃ (hole : Document.Hole) (before after : List Failure), hole.position = position ∧
      ∀ new value dropped, s.body v apply new = ⟨.ok value, dropped⟩ →
        s.body v apply (o.replaceAt new position)
          = ⟨.ok (hole.fill value), before ++ dropped ++ after⟩ := by
  induction position generalizing o with
  | nil =>
    refine ⟨.whole, [], [], rfl, fun new value dropped hnew => ?_⟩
    rw [List.nil_append, List.append_nil]
    exact hnew
  | cons b position ih =>
    obtain ⟨c, hc, h⟩ := Option.bind_eq_some_iff.1 h
    obtain ⟨hole, xs, ys, hposition, hfill⟩ := ih h
    cases b with
    | member key =>
      obtain ⟨before, after, rfl, hfresh, hmap⟩ := Output.exists_of_child?_member hc
      obtain ⟨es, fs, xs', ys', hkeys, haround⟩ := bodyEntries_around hs before after key
      have hfresh' : ∀ e ∈ es, e.1 ≠ key := by
        intro e he
        obtain ⟨o, ho, hkey⟩ := hkeys e he
        exact hkey ▸ hfresh o ho
      refine ⟨.member es key hole fs hfresh', xs' ++ xs, ys ++ ys',
        congrArg (Branch.member key :: ·) hposition, fun new value dropped hnew => ?_⟩
      rw [Output.replaceAt, hmap]
      unfold Setting.body
      rw [haround _ _ _ (hfill new value dropped hnew), Attempt.map_ok]
      exact congrArg (Attempt.mk _) (by simp only [List.append_assoc])
    | item index =>
      obtain ⟨before, after, rfl, rfl, hmap⟩ := Output.exists_of_child?_item hc
      obtain ⟨ds, es, xs', ys', hlength, haround⟩ := bodyItems_around hs before after
      refine ⟨.item ds hole es, xs' ++ xs, ys ++ ys', ?_, fun new value dropped hnew => ?_⟩
      · rw [Document.Hole.position, hlength, hposition]
      · rw [Output.replaceAt, hmap]
        unfold Setting.body
        rw [haround _ _ _ (hfill new value dropped hnew), Attempt.map_ok]
        exact congrArg (Attempt.mk _) (by simp only [List.append_assoc])

end Beside

/-! ## Nodes that give the same -/

section Alike

variable {m : Type → Type} [Settling m] [Failing Failure m] {s : Setting} {v : View}
  {apply : Known s.spec → Option (Reach v.place) → m (Option Document)} {f g : Output → Output}
  (h : ∀ o, s.body v apply (f o) = s.body v apply (g o))

include h

theorem bodyEntries_mapEntry_congr (key : String) (entries : List (String × Output)) :
    s.bodyEntries v apply (Output.mapEntry key f entries)
      = s.bodyEntries v apply (Output.mapEntry key g entries) := by
  induction entries with
  | nil => rfl
  | cons e rest ih =>
    obtain ⟨k, o⟩ := e
    unfold Output.mapEntry
    split <;> rw [Setting.bodyEntries, Setting.bodyEntries]
    · rw [h]
    · rw [ih]

theorem bodyItems_modify_congr (index : Nat) (items : List Output) :
    s.bodyItems v apply (items.modify index f) = s.bodyItems v apply (items.modify index g) := by
  induction items generalizing index with
  | nil => rw [List.modify_nil, List.modify_nil]
  | cons o rest ih =>
    cases index with
    | zero =>
      rw [List.modify_zero_cons, List.modify_zero_cons, Setting.bodyItems, Setting.bodyItems, h]
    | succ index =>
      rw [List.modify_succ_cons, List.modify_succ_cons, Setting.bodyItems, Setting.bodyItems, ih]

theorem body_mapChild_congr (o : Output) (b : Branch) :
    s.body v apply (o.mapChild f b) = s.body v apply (o.mapChild g b) := by
  unfold Output.mapChild
  split
  · rw [Setting.body, Setting.body, bodyEntries_mapEntry_congr h]
  · rw [Setting.body, Setting.body, bodyItems_modify_congr h]
  · rfl

end Alike

theorem run_replaceAt_congr {m : Type → Type} [Settling m] [Failing Failure m] {s : Setting}
    {chain : Chain} {v : View} {new new' : Output}
    (h : (s.run chain v new : m (Option Document)) = s.run chain v new') (position : Position)
    (o : Output) :
    (s.run chain v (o.replaceAt new position) : m (Option Document))
      = s.run chain v (o.replaceAt new' position) := by
  rw [Setting.run_eq_level, Setting.run_eq_level] at h ⊢
  unfold Setting.level at h ⊢
  induction position generalizing o with
  | nil => exact h
  | cons b position ih => exact body_mapChild_congr ih o b

/-! ## Runs -/

/-- Around a node of a body stand the same document and the same failures in a permissive run,
within whatever applications, whatever becomes of the node. -/
theorem run_replaceAt {s : Setting} (hm : s.mode = .permissive) (chain : Chain) (v : View)
    {o old : Output} {position : Position} (h : o.at? position = some old) :
    ∃ (hole : Document.Hole) (before after : List Failure), hole.position = position ∧
      ∀ new, ∃ value dropped,
        (s.run chain v new : Attempt Failure (Option Document)) = ⟨.ok value, dropped⟩ ∧
        (s.run chain v (o.replaceAt new position) : Attempt Failure (Option Document))
          = ⟨.ok (hole.fill value), before ++ dropped ++ after⟩ := by
  let apply (k : Known s.spec) : Option (Reach v.place) → Attempt Failure (Option Document) :=
    s.applyAt (chain.length + 1) k.name (s.enter true s.run chain v k)
  have hbody (o : Output) : s.run chain v o = s.body v apply o := s.run_eq_level chain v o
  have hs (o : Output) : (s.body v apply o).Succeeds := by
    have hmode : s.toConditions.inMode .permissive = s.toConditions := hm ▸ rfl
    have hrun := (IsSuccess.run v.root s.toConditions).run_agree s.spec chain o
    rw [hmode] at hrun
    rw [← hbody]
    exact hrun
  obtain ⟨hole, before, after, hposition, hfill⟩ := body_replaceAt hs h
  refine ⟨hole, before, after, hposition, fun new => ?_⟩
  obtain ⟨value, dropped, hnew⟩ := (hs new).exists_eq
  rw [hbody, hbody]
  exact ⟨value, dropped, hnew, hfill new value dropped hnew⟩

end Transform

open Transform

/-- Whatever node stands at a position of the root body, permissive runs give the same document
but for the value of that node, which stands at the same position or is missing there, and they
pass over the same failures but for those of that node, which follow each other. Both are what
the node gives on its own. -/
theorem permissive_failures_local (t : Transformer) (spec : Spec) (d : Document)
    {position : Position} {old : Output} (h : spec.root.at? position = some old) :
    let alone (o : Output) : Attempt Failure (Option Document) :=
      (t.setting spec .permissive).run [] (.ofDocument d) o
    let run (o : Output) : Attempt Failure Document :=
      t.run (spec.withRoot (spec.root.replaceAt o position)) ⟨some .permissive, none⟩ d
    ∃ (hole : Document.Hole) (before after : List Failure), hole.position = position ∧
      ∀ o, ∃ value dropped, alone o = ⟨.ok value, dropped⟩ ∧
        run o = ⟨.ok ((hole.fill value).getD .null), before ++ dropped ++ after⟩ ∧
        ∀ v, value = some v → ((hole.fill value).getD .null).at? position = some v := by
  intro alone run
  obtain ⟨hole, before, after, rfl, hfill⟩ :=
    run_replaceAt (s := t.setting spec .permissive) rfl [] (.ofDocument d) h
  refine ⟨hole, before, after, rfl, fun o => ?_⟩
  obtain ⟨value, dropped, ho, hrun⟩ := hfill o
  refine ⟨value, dropped, ho, ?_, ?_⟩
  · calc run o
      _ = (t.setting spec .permissive).run [] (.ofDocument d) (spec.root.replaceAt o hole.position)
          >>= fun v => pure (v.getD .null) := start_withRoot _
      _ = _ := by rw [hrun, Attempt.map_ok]
  · rintro v rfl
    obtain ⟨whole, hwhole, hat⟩ := hole.at?_fill v
    rw [hwhole]
    exact hat

/-- An item beside a selector that finds nothing, in an object beside a call of a function that
is not registered. -/
theorem permissive_failures_local_nested :
    let missing : Output := .selector ⟨"$.b", [.property "b"]⟩
    let unknown : Output := .expression "none()" (.call "none" [])
    let found : Output := .selector ⟨"$.a", [.property "a"]⟩
    let spec : Spec := ⟨[], .object [("x", unknown), ("y", .array [missing, found])], []⟩
    let position : Position := [.member "y", .item 1]
    let d : Document := .object [("a", .bool true)]
    let t : Transformer := ⟨.empty, .standard⟩
    let run (o : Output) : Attempt Failure Document :=
      t.run (spec.withRoot (spec.root.replaceAt o position)) ⟨some .permissive, none⟩ d
    spec.root.at? position = some found ∧
      ∃ (hole : Document.Hole) (before after : List Failure), hole.position = position ∧
        ∀ o, ∃ value dropped,
          run o = ⟨.ok ((hole.fill value).getD .null), before ++ dropped ++ after⟩ := by
  intro missing unknown found spec position d t run
  have h : spec.root.at? position = some found := rfl
  obtain ⟨hole, before, after, hposition, hrun⟩ := permissive_failures_local t spec d h
  refine ⟨h, hole, before, after, hposition, fun o => ?_⟩
  obtain ⟨value, dropped, -, ho, -⟩ := hrun o
  exact ⟨value, dropped, ho⟩

end Reshape
