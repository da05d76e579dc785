import Reshape.Document.Position

/-!
# Chains of applications

A `Link` is the application of a template to a node; a chain holds the
applications around the current one, the innermost first. `freeNames` counts the
templates that could still be applied to a position; each link on the chain at
that position takes one away, which is why no chain grows forever at one node.
-/

namespace Reshape

namespace Transform

structure Link where
  template : String
  position : Position
  deriving DecidableEq, Repr

abbrev Chain := List Link

/-- How many of the names are not applied to the position in the chain. -/
def freeNames (names : List String) (chain : Chain) (position : Position) : Nat :=
  names.countP fun n => ⟨n, position⟩ ∉ chain

theorem countP_lt_countP {α : Type} {p q : α → Bool} {l : List α} {a : α}
    (hpq : ∀ x ∈ l, p x = true → q x = true) (ha : a ∈ l) (hp : p a = false) (hq : q a = true) :
    l.countP p < l.countP q := by
  induction l with
  | nil => simp at ha
  | cons b l ih =>
    have hl := List.countP_mono_left fun x hx => hpq x (List.mem_cons_of_mem _ hx)
    rcases List.mem_cons.1 ha with rfl | ha
    · rw [List.countP_cons_of_neg (by simp [hp]), List.countP_cons_of_pos hq]
      omega
    · have := ih (fun x hx => hpq x (List.mem_cons_of_mem _ hx)) ha
      have hb := hpq b (List.mem_cons_self ..)
      cases hpb : p b
      · cases hqb : q b <;> simp [hpb, hqb] <;> omega
      · simp [hpb, hb hpb]
        omega

/-- A new link leaves fewer names free at its position. -/
theorem freeNames_cons_lt {names : List String} {chain : Chain} {name : String}
    {position : Position} (hn : name ∈ names) (hc : (⟨name, position⟩ : Link) ∉ chain) :
    freeNames names (⟨name, position⟩ :: chain) position < freeNames names chain position := by
  apply countP_lt_countP (a := name)
  · intro x _ hx
    simp only [List.mem_cons, not_or, decide_eq_true_eq] at hx ⊢
    exact hx.2
  · exact hn
  · simp
  · simpa using hc

end Transform

end Reshape
