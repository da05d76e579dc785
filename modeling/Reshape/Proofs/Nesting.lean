import Mathlib.Data.List.Dedup
import Mathlib.Logic.Relation
import Reshape.Proofs.Budget

/-!
# Bounded nesting

An application that is not refused leads to a node of less height, or takes one of
the names that are free where it stands. `room` counts what this leaves: at most
as many applications stand within each other as there are names, times the
height of the document.
-/

namespace Reshape

namespace Document

mutual

/-- The number of nodes on the longest way down. -/
def height : Document → Nat
  | .array items => 1 + itemHeight items
  | .object entries => 1 + entryHeight entries
  | _ => 1

def itemHeight : List Document → Nat
  | [] => 0
  | d :: rest => max d.height (itemHeight rest)

def entryHeight : List (String × Document) → Nat
  | [] => 0
  | (_, d) :: rest => max d.height (entryHeight rest)

end

theorem height_pos (d : Document) : 0 < d.height := by
  cases d <;> simp only [height] <;> omega

theorem height_le_itemHeight {d : Document} {items : List Document} (h : d ∈ items) :
    d.height ≤ itemHeight items := by
  induction items with
  | nil => simp at h
  | cons e rest ih =>
    rw [itemHeight]
    rcases List.mem_cons.1 h with rfl | h
    · exact Nat.le_max_left _ _
    · exact Nat.le_trans (ih h) (Nat.le_max_right _ _)

theorem height_le_entryHeight {e : String × Document} {entries : List (String × Document)}
    (h : e ∈ entries) : e.2.height ≤ entryHeight entries := by
  induction entries with
  | nil => simp at h
  | cons f rest ih =>
    rw [entryHeight]
    rcases List.mem_cons.1 h with rfl | h
    · exact Nat.le_max_left _ _
    · exact Nat.le_trans (ih h) (Nat.le_max_right _ _)

theorem height_lt_of_child? {d c : Document} {b : Branch} (h : d.child? b = some c) :
    c.height < d.height := by
  cases d <;> cases b <;> simp only [child?, reduceCtorEq] at h
  · have := height_le_itemHeight (List.mem_of_getElem? h)
    simp only [height]
    omega
  · have : c.height ≤ _ := height_le_entryHeight (mem_of_find? h)
    simp only [height]
    omega

end Document

theorem Place.Reaches.eq_or_height_lt {p q : Place} (h : p.Reaches q) :
    q = p ∨ q.node.height < p.node.height :=
  h.eq_or_lt Document.height_lt_of_child?

def Spec.nameCount (s : Spec) : Nat := s.names.dedup.length

namespace Transform

/-! ## Room -/

/-- How many applications can still stand within each other: one for each name
that is free at the place, and one for each name at each height below. -/
def room (spec : Spec) (chain : Chain) (p : Place) : Nat :=
  freeNames spec.names.dedup chain p.position + spec.nameCount * (p.node.height - 1)

theorem room_root (spec : Spec) (d : Document) :
    room spec [] (.root d) = spec.nameCount * d.height := by
  have hf : freeNames spec.names.dedup [] [] = spec.nameCount := by
    unfold freeNames Spec.nameCount
    rw [List.countP_eq_length]
    simp
  obtain ⟨h, hh⟩ : ∃ h, d.height = h + 1 := ⟨d.height - 1, by have := d.height_pos; omega⟩
  show freeNames spec.names.dedup [] [] + _ * (d.height - 1) = _
  rw [hf, hh, Nat.add_sub_cancel, Nat.mul_succ, Nat.add_comm]

theorem room_lt {spec : Spec} {chain : Chain} {p : Place} (k : Known spec) (q : Reach p)
    (h : (⟨k.name, q.1.position⟩ : Link) ∉ chain) :
    room spec (⟨k.name, q.1.position⟩ :: chain) q.1 < room spec chain p := by
  have hk : k.name ∈ spec.names.dedup := List.mem_dedup.2 (Spec.mem_names_of_template? k.found)
  have hfree := freeNames_cons_lt hk h
  unfold room
  rcases q.2.eq_or_height_lt with hq | hq
  · rw [hq] at hfree ⊢
    omega
  · have hle : freeNames spec.names.dedup chain q.1.position ≤ spec.nameCount :=
      List.countP_le_length
    have hpos := q.1.node.height_pos
    -- all the names at the lower node take no more than one height of the upper one
    have hmul : spec.nameCount * (q.1.node.height - 1 + 1)
        ≤ spec.nameCount * (p.node.height - 1) := Nat.mul_le_mul_left _ (by omega)
    rw [Nat.mul_succ] at hmul
    omega

/-- The first moment of a run, its chain and its place, comes about by an application
in the second one. -/
inductive Nests (spec : Spec) : Chain × Place → Chain × Place → Prop
  | enter {chain : Chain} {p : Place} (k : Known spec) (q : Reach p)
      (h : (⟨k.name, q.1.position⟩ : Link) ∉ chain) :
      Nests spec (⟨k.name, q.1.position⟩ :: chain, q.1) (chain, p)

theorem Nests.room_lt {spec : Spec} {a b : Chain × Place} (h : Nests spec a b) :
    room spec a.1 a.2 < room spec b.1 b.2 := by
  obtain ⟨k, q, h⟩ := h
  exact Transform.room_lt k q h

theorem nests_wellFounded (spec : Spec) : WellFounded (Nests spec) :=
  Subrelation.wf Nests.room_lt
    (InvImage.wf (fun a : Chain × Place => room spec a.1 a.2) Nat.lt_wfRel.wf)

/-- Links and room together never grow. -/
theorem length_add_room_le {spec : Spec} {a b : Chain × Place}
    (h : Relation.ReflTransGen (Nests spec) a b) :
    a.1.length + room spec a.1 a.2 ≤ b.1.length + room spec b.1 b.2 := by
  induction h with
  | refl => exact Nat.le_refl _
  | tail _ hb ih =>
    have hroom := hb.room_lt
    obtain ⟨k, q, hc⟩ := hb
    simp only [List.length_cons] at ih hroom ⊢
    omega

/-! ## Enough budget -/

variable (s : Setting)

/-- A level depends on what follows where an application is not too deep and is not
refused. -/
theorem level_congr {m : Type → Type} [Settling m] [Failing Failure m]
    {next next' : Chain → View → Output → m (Option Document)} {chain : Chain} {v : View}
    (h : s.exceeds (chain.length + 1) = none →
      ∀ (k : Known s.spec) (q : Reach v.place), (⟨k.name, q.1.position⟩ : Link) ∉ chain → ∀ o,
      next (⟨k.name, q.1.position⟩ :: chain) (v.goTo q.1) o
        = next' (⟨k.name, q.1.position⟩ :: chain) (v.goTo q.1) o)
    (o : Output) : s.level true next chain v o = s.level true next' chain v o := by
  unfold Setting.level
  congr 1
  funext k source
  unfold Conditions.applyAt
  split
  · rfl
  · rename_i hl
    congr 1
    funext q
    unfold Setting.enter
    split
    · rfl
    · rename_i hc
      exact h hl k q (by simpa using hc) _

/-- A run ends on more levels than there is room for applications. -/
theorem within_eq_run {n : Nat} {chain : Chain} {v : View} (h : room s.spec chain v.place < n)
    (o : Output) : s.within true n chain v o = s.run chain v o := by
  induction n generalizing chain v o with
  | zero => omega
  | succ n ih =>
    rw [Setting.run_eq_level]
    refine level_congr s (fun _ k q hc o => ?_) o
    exact ih (Nat.lt_of_lt_of_le (room_lt k q hc) (Nat.le_of_lt_succ h)) o

theorem startWithin_eq_start (start : Option String) (d : Document) :
    s.startWithin true (s.spec.nameCount * d.height) start d = .done (s.start start d) := by
  rw [← start_done]
  unfold Setting.startWithin Setting.start
  congr 1
  funext o
  exact within_eq_run s (Nat.lt_succ_of_le (Nat.le_of_eq (room_root s.spec d))) o

/-- Applications within each other lead ever further down, and no more of them than
there are names, times the height of the document, stand within each other: a
budget of that many suffices for every run. -/
theorem nesting_bounded (d : Document) :
    WellFounded (Nests s.spec) ∧
    (∀ chain p, Relation.ReflTransGen (Nests s.spec) (chain, p) ([], .root d) →
      chain.length ≤ s.spec.nameCount * d.height) ∧
    ∀ start, s.startWithin true (s.spec.nameCount * d.height) start d
      = .done (s.start start d) := by
  refine ⟨nests_wellFounded s.spec, fun chain p h => ?_, fun start => startWithin_eq_start s start d⟩
  have hle := length_add_room_le h
  dsimp only at hle
  rw [room_root, List.length_nil] at hle
  omega

/-- One name and a scalar: the bound is one, and no less suffices. -/
example :
    let s : Setting := ⟨⟨.permissive, .empty, none⟩,
      ⟨[⟨some "a", none, .array [.apply "a" none]⟩], .apply "a" none, []⟩⟩
    s.startWithin true 0 none (.bool true) = .exhausted ∧
      s.startWithin true 1 none (.bool true) = .done ⟨.ok (.array [.null]), [.cycle "a" 2]⟩ :=
  ⟨rfl, rfl⟩

end Transform

end Reshape
