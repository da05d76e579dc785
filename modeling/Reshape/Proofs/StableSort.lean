import Reshape.Proofs.SortOrder

/-!
# Sorting is stable

Two documents tie if neither is smaller than the other one. A document is inserted behind all that
it ties with, so of the documents that tie with a given one, sorting keeps the order,
`Operation.filter_sorted`. What is in order already stays as it is, `Operation.sorted_of_pairwise`.
-/

namespace Reshape

namespace Document

variable {a b d e x : Document}

/-! ## Documents that tie -/

/-- Neither document is smaller than the other one. -/
def ties (a b : Document) : Bool := a.order b == .eq

theorem ties_iff : a.ties b = true ↔ a.order b = .eq := beq_iff_eq

theorem ties_self (a : Document) : a.ties a = true := by
  have hswap := order_swap a a
  rw [ties_iff]
  cases h : a.order a with
  | eq => rfl
  | lt | gt =>
    rw [h] at hswap
    cases hswap

theorem not_ties_of_precedes (hd : d.kind.manner = x.kind.manner)
    (he : e.kind.manner = x.kind.manner) (h : d.order e = .lt) :
    ¬ (x.ties d = true ∧ x.ties e = true) := by
  rintro ⟨hxd, hxe⟩
  rw [ties_iff] at hxd hxe
  have hex : e.order x ≠ .gt := by
    rw [order_swap, hxe]
    nofun
  have hed : e.order d ≠ .gt := order_trans he.symm (hd.trans he.symm) hex (by rw [hxd]; nofun)
  rw [order_swap, h] at hed
  exact hed rfl

end Document

namespace Operation

open Document

variable {a b d x root : Document} {done items : List Document}

theorem lt_eq (a b root : Document) :
    lt ⟨[.json a, .json b], root⟩ = .ok (.bool (a.order b == .lt)) := by
  show Except.ok (Document.bool ((a.compare? b).any (· == .lt))) = _
  unfold Document.order
  cases a.compare? b <;> rfl

/-- Of two documents, neither is said to be smaller or greater. -/
def Tied (root a b : Document) : Prop :=
  lt ⟨[.json a, .json b], root⟩ = .ok (.bool false) ∧
    gt ⟨[.json a, .json b], root⟩ = .ok (.bool false)

theorem tied_iff : Tied root a b ↔ a.ties b = true := by
  rw [Tied, lt_eq, gt_eq, ties]
  cases a.order b <;> decide

theorem lt_eq_false_iff : lt ⟨[.json b, .json a], root⟩ = .ok (.bool false) ↔ a.order b ≠ .gt := by
  rw [lt_eq, order_swap a b]
  cases a.order b <;> decide

/-! ## The order of what ties -/

theorem filter_cons_swap {α : Type} {p : α → Bool} {a b : α} (h : ¬ (p a = true ∧ p b = true))
    (rest : List α) : (b :: a :: rest).filter p = (a :: b :: rest).filter p := by
  simp only [List.filter_cons]
  by_cases ha : p a = true
  · have hb : ¬ p b = true := fun hb => h ⟨ha, hb⟩
    simp only [ha, if_neg hb, if_true]
  · simp only [if_neg ha]

theorem filter_insertBack (hm : ∀ e ∈ d :: done, e.kind.manner = x.kind.manner) :
    (insertBack d done).filter x.ties = (d :: done).filter x.ties := by
  fun_induction insertBack d done with
  | case1 => rfl
  | case2 e rest h ih =>
    obtain ⟨hd, hm⟩ := List.forall_mem_cons.1 hm
    obtain ⟨he, hm⟩ := List.forall_mem_cons.1 hm
    have hrest := ih (List.forall_mem_cons.2 ⟨hd, hm⟩)
    calc (e :: insertBack d rest).filter x.ties = (e :: d :: rest).filter x.ties := by
          rw [List.filter_cons, hrest, ← List.filter_cons]
      _ = (d :: e :: rest).filter x.ties :=
          filter_cons_swap (not_ties_of_precedes hd he (precedes_iff.1 h)) rest
  | case3 e rest h => rfl

theorem filter_foldl_insertBack (hm : ∀ e ∈ items ++ done, e.kind.manner = x.kind.manner) :
    (items.foldl (fun done d => insertBack d done) done).filter x.ties
      = (items.reverse ++ done).filter x.ties := by
  induction items generalizing done with
  | nil => rfl
  | cons d items ih =>
    have hinsert : ∀ e ∈ d :: done, e.kind.manner = x.kind.manner := fun e he =>
      hm e (List.perm_middle.mem_iff.1 (List.mem_append_right items he))
    have hrest : ∀ e ∈ items ++ insertBack d done, e.kind.manner = x.kind.manner := by
      intro e he
      rcases List.mem_append.1 he with he | he
      · exact hm e (List.mem_cons_of_mem d (List.mem_append_left done he))
      · exact hinsert e ((insertBack_perm d done).mem_iff.1 he)
    rw [List.foldl_cons, ih hrest, List.reverse_cons, List.append_assoc, List.filter_append,
      filter_insertBack hinsert, List.filter_append]
    rfl

/-- Sorting keeps the order of the documents that tie with a given one. -/
theorem filter_sorted (hm : ∀ e ∈ items, e.kind.manner = x.kind.manner) :
    (sorted items).filter x.ties = items.filter x.ties := by
  unfold sorted
  rw [List.filter_reverse, filter_foldl_insertBack (by rwa [List.append_nil]), List.append_nil,
    ← List.filter_reverse, List.reverse_reverse]

theorem sublist_sorted (hm : ∀ a ∈ items, ∀ b ∈ items, a.kind.manner = b.kind.manner)
    {tied : List Document} (hsub : tied.Sublist items)
    (htied : tied.Pairwise fun a b => a.ties b = true) : tied.Sublist (sorted items) := by
  cases tied with
  | nil => exact List.nil_sublist _
  | cons x tied =>
    have hx : x ∈ items := hsub.subset List.mem_cons_self
    have hall : (x :: tied).filter x.ties = x :: tied := by
      rw [List.filter_eq_self, List.forall_mem_cons]
      exact ⟨ties_self x, (List.pairwise_cons.1 htied).1⟩
    have hkept : (x :: tied).Sublist (items.filter x.ties) := hall ▸ hsub.filter x.ties
    rw [← filter_sorted fun e he => hm e he x hx] at hkept
    exact hkept.trans List.filter_sublist

/-! ## Items in order -/

theorem insertBack_of_not_gt (h : ∀ e ∈ done, e.order d ≠ .gt) : insertBack d done = d :: done := by
  cases done with
  | nil => rfl
  | cons e rest =>
    have hprecedes : ¬ d.precedes e = true := by
      rw [precedes_iff, order_swap e d, Ordering.swap_eq_lt]
      exact h e List.mem_cons_self
    rw [insertBack, if_neg hprecedes]

theorem foldl_insertBack_of_pairwise
    (h : (done.reverse ++ items).Pairwise fun a b => a.order b ≠ .gt) :
    items.foldl (fun done d => insertBack d done) done = items.reverse ++ done := by
  induction items generalizing done with
  | nil => rfl
  | cons d items ih =>
    have hlast : insertBack d done = d :: done := insertBack_of_not_gt fun e he =>
      (List.pairwise_append.1 h).2.2 e (List.mem_reverse.2 he) d List.mem_cons_self
    rw [List.foldl_cons, hlast, ih (by rwa [List.reverse_cons, List.append_assoc]),
      List.reverse_cons, List.append_assoc]
    rfl

/-- Sorting changes nothing where no item is greater than a later one. -/
theorem sorted_of_pairwise (h : items.Pairwise fun a b => a.order b ≠ .gt) :
    sorted items = items := by
  have hfold : items.foldl (fun done d => insertBack d done) [] = items.reverse ++ [] :=
    foldl_insertBack_of_pairwise h
  rw [sorted, hfold, List.append_nil, List.reverse_reverse]

end Operation

/-- An array of strings or of numbers is sorted into a permutation in which no item is smaller than
an earlier one, and in which items of which none is smaller or greater than another one stand in
the order that they had. Sorted again, it stays as it is. -/
theorem sort_is_stable (items : List Document) (others : List Argument) (root : Document)
    (h : (∀ d ∈ items, d.kind = .string) ∨ ∀ d ∈ items, d.kind = .number) :
    ∃ sorted : List Document,
      Operation.sort ⟨.json (.array items) :: others, root⟩ = .ok (.array sorted) ∧
      sorted.Perm items ∧
      (sorted.Pairwise fun a b => Operation.lt ⟨[.json b, .json a], root⟩ = .ok (.bool false)) ∧
      (∀ tied : List Document, tied.Sublist items → tied.Pairwise (Operation.Tied root) →
        tied.Sublist sorted) ∧
      Operation.sort ⟨.json (.array sorted) :: others, root⟩ = .ok (.array sorted) := by
  have hm : ∀ a ∈ items, ∀ b ∈ items, a.kind.manner = b.kind.manner := by
    intro a ha b hb
    rcases h with h | h
    · rw [h a ha, h b hb]
    · rw [h a ha, h b hb]
  have hsorted := Operation.pairwise_sorted hm
  refine ⟨Operation.sorted items, rfl, Operation.sorted_perm items,
    hsorted.imp Operation.lt_eq_false_iff.2, fun tied hsub htied => ?_, ?_⟩
  · exact Operation.sublist_sorted hm hsub (htied.imp Operation.tied_iff.1)
  · show Except.ok (Document.array (Operation.sorted (Operation.sorted items))) = _
    rw [Operation.sorted_of_pairwise hsorted]

/-- Two numbers of one value keep their order before a greater one. -/
theorem sort_is_stable_numbers :
    let one : Document := .number (.double ⟨false, 1023 * Double.hiddenBit, by decide⟩)
    let items : List Document := [.whole 2, one, .whole 1]
    ((∀ d ∈ items, d.kind = .string) ∨ ∀ d ∈ items, d.kind = .number) ∧
      Operation.Tied .null one (.whole 1) ∧
      ∃ sorted : List Document,
        Operation.sort ⟨[.json (.array items)], .null⟩ = .ok (.array sorted) ∧
        sorted = [one, .whole 1, .whole 2] ∧
        [one, .whole 1].Sublist sorted ∧
        Operation.sort ⟨[.json (.array sorted)], .null⟩ = .ok (.array sorted) := by
  intro one items
  have hkind : (∀ d ∈ items, d.kind = .string) ∨ ∀ d ∈ items, d.kind = .number :=
    .inr (by decide)
  have htied : Operation.Tied .null one (.whole 1) := ⟨rfl, rfl⟩
  obtain ⟨sorted, hsort, -, -, hstable, hagain⟩ := sort_is_stable items [] .null hkind
  refine ⟨hkind, htied, sorted, hsort, ?_, hstable _ (List.sublist_cons_self ..) ?_, hagain⟩
  · cases hsort
    decide
  · exact List.pairwise_pair.2 htied

end Reshape
