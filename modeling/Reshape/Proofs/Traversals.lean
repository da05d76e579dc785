import Reshape.Operation.Sequences
import Reshape.Proofs.Faults

/-!
# Operations on each item

The three traversals of an array apply an operation to its items from left to right. Filtering
succeeds where mapping does, `Operation.filterAll_eq`, and finding where mapping the items up to the
first one with a truthy result does, `Operation.findFirst_eq`. So each of them fails as the operation
does on the first item on which it fails, `Operation.mapAll_eq_error_iff`.
-/

namespace Reshape

/-- The items of a list up to the first one that passes a test; this one is among them. -/
def upToFirst {α : Type} (test : α → Bool) : List α → List α
  | [] => []
  | a :: rest => a :: if test a then [] else upToFirst test rest

theorem isPrefix_upToFirst {α : Type} (test : α → Bool) (as : List α) :
    upToFirst test as <+: as := by
  induction as with
  | nil => exact List.prefix_rfl
  | cons a rest ih =>
    rw [upToFirst, List.prefix_cons_inj]
    split
    · exact List.nil_prefix
    · exact ih

theorem HasFirst.of_prefix {α : Type} {good : α → Prop} {bad : Nat → α → Prop} {as bs : List α}
    (h : HasFirst good bad as) (hp : as <+: bs) : HasFirst good bad bs := by
  obtain ⟨before, a, after, rfl, hgood, hbad⟩ := h
  obtain ⟨more, rfl⟩ := hp
  exact ⟨before, a, after ++ more, by simp, hgood, hbad⟩

namespace Operation

variable {f : Document → Except String Document} {items results : List Document}
  {message : String}

def accepts (f : Document → Except String Document) (d : Document) : Bool :=
  match f d with
  | .ok e => e.truthy
  | .error _ => false

theorem accepts_of_ok {d e : Document} (h : f d = .ok e) : accepts f d = e.truthy := by
  rw [accepts, h]

/-- The operation fails with the message, on an item before which it fails on none. -/
def FailsFirst (f : Document → Except String Document) (items : List Document)
    (message : String) : Prop :=
  HasFirst (fun d => ∃ e, f d = .ok e) (fun _ d => f d = .error message) items

/-! ## Traversals of lists -/

theorem mapAll_eq_mapM (f : Document → Except String Document) (items : List Document) :
    mapAll f items = items.mapM f := by
  induction items with
  | nil => rfl
  | cons d rest ih =>
    rw [List.mapM_cons, mapAll, ih]

theorem mapAll_eq_ok_iff :
    mapAll f items = .ok results ↔ List.Forall₂ (fun d e => f d = .ok e) items results := by
  rw [mapAll_eq_mapM, mapM_eq_ok_iff]

theorem exists_mapAll_ok_iff :
    (∃ results, mapAll f items = .ok results) ↔ ∀ d ∈ items, ∃ e, f d = .ok e := by
  induction items with
  | nil => exact ⟨fun _ => List.forall_mem_nil _, fun _ => ⟨[], rfl⟩⟩
  | cons d rest ih =>
    rw [List.forall_mem_cons, ← ih]
    exact exists_both_ok_iff

theorem mapAll_eq_error_iff : mapAll f items = .error message ↔ FailsFirst f items message := by
  unfold FailsFirst
  induction items with
  | nil => exact ⟨nofun, fun h => absurd h not_hasFirst_nil⟩
  | cons d rest ih =>
    rw [hasFirst_cons, ← ih]
    exact both_eq_error_iff

/-- Filtering calls the operation as mapping does, and keeps the items with a truthy result. -/
theorem filterAll_eq (f : Document → Except String Document) (items : List Document) :
    filterAll f items = (mapAll f items).map fun _ => items.filter (accepts f) := by
  induction items with
  | nil => rfl
  | cons d rest ih =>
    rw [filterAll, mapAll, ih, List.filter_cons]
    cases hd : f d with
    | error _ => rfl
    | ok e =>
      rw [accepts_of_ok hd]
      cases mapAll f rest <;> rfl

/-- Finding calls the operation as mapping does, on no item behind the first with a truthy
result. -/
theorem findFirst_eq (f : Document → Except String Document) (items : List Document) :
    findFirst f items = (mapAll f (upToFirst (accepts f) items)).map fun _ =>
      (items.filter (accepts f)).head?.getD .null := by
  induction items with
  | nil => rfl
  | cons d rest ih =>
    rw [findFirst, upToFirst, List.filter_cons, mapAll]
    cases hd : f d with
    | error _ => rfl
    | ok e =>
      rw [accepts_of_ok hd]
      show (if e.truthy then .ok d else findFirst f rest) = _
      split
      · rfl
      · rw [ih]
        cases mapAll f (upToFirst (accepts f) rest) <;> rfl

/-! ## Traversals of arrays -/

/-- A call of a traversal with an array and an operation. -/
def traversal (items : List Document) (callee : String)
    (apply : List Document → Document → Except String Document) (others : List Argument)
    (root : Document) : Call :=
  ⟨.json (.array items) :: .function callee apply :: others, root⟩

/-- What a traversal does with an item: it applies the operation, whose failures it names. -/
def onItem (callee : String) (f : Document → Except String Document) (d : Document) :
    Except String Document :=
  (f d).mapError fun message => callee ++ ": " ++ message

section OnItem

variable {callee : String}

theorem onItem_eq_ok_iff {d e : Document} : onItem callee f d = .ok e ↔ f d = .ok e :=
  mapError_eq_ok_iff

theorem accepts_onItem : accepts (onItem callee f) = accepts f := by
  funext d
  unfold accepts onItem
  cases f d <;> rfl

theorem failsFirst_onItem_iff : FailsFirst (onItem callee f) items message
    ↔ ∃ text, FailsFirst f items text ∧ callee ++ ": " ++ text = message := by
  unfold FailsFirst HasFirst
  simp only [onItem_eq_ok_iff]
  constructor
  · rintro ⟨before, d, after, hitems, hbefore, hd⟩
    obtain ⟨text, htext, hmessage⟩ := mapError_eq_error_iff.1 hd
    exact ⟨text, ⟨before, d, after, hitems, hbefore, htext⟩, hmessage⟩
  · rintro ⟨text, ⟨before, d, after, hitems, hbefore, htext⟩, hmessage⟩
    exact ⟨before, d, after, hitems, hbefore, mapError_eq_error_iff.2 ⟨text, htext, hmessage⟩⟩

theorem exists_mapAll_onItem_ok_iff :
    (∃ results, mapAll (onItem callee f) items = .ok results)
      ↔ ∀ d ∈ items, ∃ e, f d = .ok e := by
  simp only [exists_mapAll_ok_iff, onItem_eq_ok_iff]

theorem failsFirst_of_mapAll {first : List Document} (hp : first <+: items)
    (h : mapAll (onItem callee f) first = .error message) :
    ∃ text, FailsFirst f items text ∧ message = callee ++ ": " ++ text := by
  obtain ⟨text, htext, hmessage⟩ := failsFirst_onItem_iff.1 (mapAll_eq_error_iff.1 h)
  exact ⟨text, htext.of_prefix hp, hmessage.symm⟩

end OnItem

section Calls

variable (items : List Document) (callee : String)
  (apply : List Document → Document → Except String Document) (others : List Argument)
  (root : Document)

theorem mapItems_eq : mapItems (traversal items callee apply others root)
    = (mapAll (onItem callee fun d => apply [d] root) items).map .array := rfl

theorem filterItems_eq : filterItems (traversal items callee apply others root)
    = (mapAll (onItem callee fun d => apply [d] root) items).map fun _ =>
      .array (items.filter (accepts fun d => apply [d] root)) := by
  show (filterAll (onItem callee fun d => apply [d] root) items).map Document.array = _
  rw [filterAll_eq, accepts_onItem]
  cases mapAll (onItem callee fun d => apply [d] root) items <;> rfl

theorem findItem_eq : findItem (traversal items callee apply others root)
    = (mapAll (onItem callee fun d => apply [d] root)
        (upToFirst (accepts fun d => apply [d] root) items)).map fun _ =>
      (items.filter (accepts fun d => apply [d] root)).head?.getD .null := by
  show findFirst (onItem callee fun d => apply [d] root) items = _
  rw [findFirst_eq, accepts_onItem]

end Calls

end Operation

open Operation in
/-- Mapping and filtering an array succeed just if the operation returns on all its items. Mapping
then gives its results, item by item, and filtering the items with a truthy result. Finding gives the
first of these, or null; it succeeds just if the operation returns on all items up to that one. If
any of the three fails, it is with what the operation says about the first item on which it fails. -/
theorem traversals_agree (items : List Document) (callee : String)
    (apply : List Document → Document → Except String Document) (others : List Argument)
    (root : Document) :
    let f : Document → Except String Document := fun d => apply [d] root
    let call := traversal items callee apply others root
    ((∃ out, mapItems call = .ok out) ↔ ∀ d ∈ items, ∃ e, f d = .ok e) ∧
      (∀ out, mapItems call = .ok out ↔
        ∃ results, out = .array results ∧ List.Forall₂ (fun d e => f d = .ok e) items results) ∧
      ((∃ out, filterItems call = .ok out) ↔ ∀ d ∈ items, ∃ e, f d = .ok e) ∧
      (∀ out, filterItems call = .ok out → out = .array (items.filter (accepts f)) ∧
        findItem call = .ok ((items.filter (accepts f)).head?.getD .null)) ∧
      ((∃ out, findItem call = .ok out) ↔ ∀ d ∈ upToFirst (accepts f) items, ∃ e, f d = .ok e) ∧
      (∀ out, findItem call = .ok out → out = (items.filter (accepts f)).head?.getD .null) ∧
      ∀ operation ∈ [mapItems, filterItems, findItem], ∀ message,
        operation call = .error message →
          ∃ text, FailsFirst f items text ∧ message = callee ++ ": " ++ text := by
  intro f call
  have hmap : mapItems call = _ := mapItems_eq items callee apply others root
  have hfilter : filterItems call = _ := filterItems_eq items callee apply others root
  have hfind : findItem call = _ := findItem_eq items callee apply others root
  have hall : upToFirst (accepts f) items <+: items := isPrefix_upToFirst _ items
  refine ⟨?_, fun out => ?_, ?_, fun out hout => ?_, ?_, fun out hout => ?_, ?_⟩
  · rw [hmap, exists_map_ok_iff, exists_mapAll_onItem_ok_iff]
  · rw [hmap, map_eq_ok_iff]
    simp only [mapAll_eq_ok_iff, onItem_eq_ok_iff]
    exact exists_congr fun results => and_comm.trans (and_congr_left' eq_comm)
  · rw [hfilter, exists_map_ok_iff, exists_mapAll_onItem_ok_iff]
  · rw [hfilter] at hout
    obtain ⟨results, hresults, rfl⟩ := map_eq_ok_iff.1 hout
    have hreturns := exists_mapAll_onItem_ok_iff.1 ⟨results, hresults⟩
    obtain ⟨tried, htried⟩ :
        ∃ tried, mapAll (onItem callee f) (upToFirst (accepts f) items) = .ok tried :=
      exists_mapAll_onItem_ok_iff.2 fun d hd => hreturns d (hall.subset hd)
    refine ⟨rfl, ?_⟩
    rw [hfind, htried]
    rfl
  · rw [hfind, exists_map_ok_iff, exists_mapAll_onItem_ok_iff]
  · rw [hfind] at hout
    obtain ⟨results, -, rfl⟩ := map_eq_ok_iff.1 hout
    rfl
  · simp only [List.forall_mem_cons]
    refine ⟨fun message h => ?_, fun message h => ?_, fun message h => ?_, nofun⟩
    · exact failsFirst_of_mapAll List.prefix_rfl (map_eq_error_iff.1 (hmap ▸ h))
    · exact failsFirst_of_mapAll List.prefix_rfl (map_eq_error_iff.1 (hfilter ▸ h))
    · exact failsFirst_of_mapAll hall (map_eq_error_iff.1 (hfind ▸ h))

open Operation in
/-- An item on which the operation fails, behind one that is found. -/
theorem traversals_agree_failing :
    let letters : List Document → Document → Except String Document := fun
      | [.string s], _ => .ok (.string s)
      | [.null], _ => .ok .null
      | _, _ => .error "no text"
    let call (items : List Document) := traversal items "letters" letters [] .null
    let short : List Document := [.null, .string "a"]
    let long : List Document := [.null, .string "a", .bool true]
    (filterItems (call short) = .ok (.array [.string "a"]) ∧
        findItem (call short) = .ok (.string "a")) ∧
      (∃ out, findItem (call long) = .ok out ∧ out = .string "a") ∧
      filterItems (call long) = .error "letters: no text" ∧
      ∃ text, FailsFirst (fun d => letters [d] .null) long text ∧
        "letters: no text" = "letters" ++ ": " ++ text := by
  intro letters call short long
  have hfilter : filterItems (call short) = .ok (.array [.string "a"]) := by decide +kernel
  have hfails : filterItems (call long) = .error "letters: no text" := by decide +kernel
  have hfinds : ∀ d ∈ upToFirst (accepts fun d => letters [d] .null) long,
      ∃ e, letters [d] .null = .ok e := by
    have htried : upToFirst (accepts fun d => letters [d] .null) long = short := by decide +kernel
    rw [htried]
    exact List.forall_mem_cons.2 ⟨⟨_, rfl⟩, List.forall_mem_singleton.2 ⟨_, rfl⟩⟩
  obtain ⟨-, -, -, hfiltered, -⟩ := traversals_agree short "letters" letters [] .null
  obtain ⟨-, -, -, -, hfinding, hfound, hfailing⟩ := traversals_agree long "letters" letters [] .null
  obtain ⟨out, hout⟩ := hfinding.2 hfinds
  refine ⟨⟨hfilter, (hfiltered _ hfilter).2.trans ?_⟩, ⟨out, hout, (hfound out hout).trans ?_⟩,
    hfails, hfailing filterItems (by simp) _ hfails⟩
  · decide +kernel
  · decide +kernel

end Reshape
