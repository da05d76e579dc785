import Mathlib.Data.String.Basic
import Reshape.Operation.Choices
import Reshape.Operation.Sequences

/-!
# The order of sorting

Items are sorted by `Document.order`, in which documents that do not compare are equal. It reads
the same from either side, but it is an order only among documents that compare in one manner:
as texts, as numbers or not at all. Items of one manner are sorted so that nothing stands before
something smaller, and with a mixture of manners the order is not transitive: `sort_order_exact`.
-/

namespace Reshape

namespace Document

/-- The order that items are sorted by: what does not compare is equal. -/
def order (a b : Document) : Ordering := (a.compare? b).getD .eq

def rank? (d : Document) : Option Int := d.toNumber?.bind Extended.key?

/-- How the documents of a kind compare with each other. -/
inductive Manner where
  | asText
  | asNumber
  | never
  deriving DecidableEq

def Kind.manner : Kind → Manner
  | .string => .asText
  | .number | .boolean => .asNumber
  | .null | .array | .object => .never

variable {a b c d : Document}

/-! ## The order of two documents -/

theorem exists_string_of_asText (h : d.kind.manner = .asText) : ∃ s, d = .string s := by
  cases d with
  | string s => exact ⟨s, rfl⟩
  | _ => cases h

theorem order_string (s t : String) : (string s).order (string t) = compare s t := rfl

theorem order_of_not_asText (h : ¬ (a.kind.manner = .asText ∧ b.kind.manner = .asText)) :
    a.order b = match a.rank?, b.rank? with
      | some x, some y => compare x y
      | _, _ => .eq := by
  have hnumbers : a.compare? b = (do (← a.toNumber?).compare? (← b.toNumber?)) := by
    cases a with
    | string s =>
      cases b with
      | string t => exact absurd ⟨rfl, rfl⟩ h
      | _ => rfl
    | _ => rfl
  rw [order, hnumbers, rank?, rank?]
  cases a.toNumber? with
  | none => rfl
  | some x =>
    cases b.toNumber? with
    | none => cases x <;> rfl
    | some y => cases x <;> cases y <;> rfl

theorem order_swap (a b : Document) : b.order a = (a.order b).swap := by
  by_cases h : a.kind.manner = .asText ∧ b.kind.manner = .asText
  · obtain ⟨s, rfl⟩ := exists_string_of_asText h.1
    obtain ⟨t, rfl⟩ := exists_string_of_asText h.2
    show compare t s = (compare s t).swap
    exact Std.OrientedCmp.eq_swap
  · rw [order_of_not_asText h, order_of_not_asText (mt And.symm h)]
    cases a.rank? with
    | none => cases b.rank? <;> rfl
    | some x =>
      cases b.rank? with
      | none => rfl
      | some y =>
        show compare y x = (compare x y).swap
        exact Std.OrientedCmp.eq_swap

/-! ## Documents of one manner -/

theorem exists_rank_of_asNumber (h : d.kind.manner = .asNumber) : ∃ x, d.rank? = some x := by
  have hratio (negative : Bool) (p q : Nat) :
      ∃ x, (Extended.ofRatio negative p q).key? = some x := by
    dsimp only [Extended.ofRatio]
    by_cases hp : (if p = 0 then 0 else Double.nearestMagnitude p q) < Double.ceiling
    · rw [dif_pos hp]
      exact ⟨_, rfl⟩
    · rw [dif_neg hp]
      exact ⟨_, rfl⟩
  cases d with
  | bool value => exact hratio ..
  | number value =>
    cases value with
    | whole n => exact hratio ..
    | double d => exact ⟨_, rfl⟩
  | _ => cases h

theorem rank?_of_never (h : d.kind.manner = .never) : d.rank? = none := by
  cases d with
  | null | array _ | object _ => rfl
  | _ => cases h

theorem order_of_asNumber {x y : Int} (ha : a.rank? = some x) (hb : b.rank? = some y)
    (h : a.kind.manner = .asNumber) : a.order b = compare x y := by
  rw [order_of_not_asText (by simp [h]), ha, hb]

theorem order_of_never (h : a.kind.manner = .never) : a.order b = .eq := by
  rw [order_of_not_asText (by simp [h]), rank?_of_never h]

theorem order_trans (hb : b.kind.manner = a.kind.manner) (hc : c.kind.manner = a.kind.manner)
    (hab : a.order b ≠ .gt) (hbc : b.order c ≠ .gt) : a.order c ≠ .gt := by
  cases hm : a.kind.manner with
  | asText =>
    obtain ⟨s, rfl⟩ := exists_string_of_asText hm
    obtain ⟨t, rfl⟩ := exists_string_of_asText (hb.trans hm)
    obtain ⟨u, rfl⟩ := exists_string_of_asText (hc.trans hm)
    rw [order_string, compare_le_iff_le] at hab hbc ⊢
    exact hab.trans hbc
  | asNumber =>
    obtain ⟨x, hx⟩ := exists_rank_of_asNumber hm
    obtain ⟨y, hy⟩ := exists_rank_of_asNumber (hb.trans hm)
    obtain ⟨z, hz⟩ := exists_rank_of_asNumber (hc.trans hm)
    rw [order_of_asNumber hx hy hm, compare_le_iff_le] at hab
    rw [order_of_asNumber hy hz (hb.trans hm), compare_le_iff_le] at hbc
    rw [order_of_asNumber hx hz hm, compare_le_iff_le]
    exact hab.trans hbc
  | never =>
    rw [order_of_never hm]
    nofun

/-! ## Documents of different manners -/

namespace Kind

def low : Kind → Document
  | null => .null
  | boolean => .bool false
  | number => .whole 0
  | string => .string "a"
  | array => .array []
  | object => .object []

/-- A document of a kind that is greater than the small one, if there are such. -/
def high : Kind → Document
  | boolean => .bool true
  | number => .whole 1
  | string => .string "b"
  | k => k.low

theorem kind_low (k : Kind) : k.low.kind = k := by cases k <;> rfl

theorem kind_high (k : Kind) : k.high.kind = k := by cases k <;> rfl

theorem order_high_low {k : Kind} (h : k.manner ≠ .never) : k.high.order k.low = .gt := by
  cases k with
  | boolean | number | string => decide
  | _ => exact absurd rfl h

/-- Neither of the two strings reads as a number, so nothing compares across manners. -/
theorem order_eq_of_manner_ne {k l : Kind} (h : k.manner ≠ l.manner) :
    k.high.order l.low = .eq ∧ k.low.order l.low = .eq := by
  cases k <;> cases l <;> first | exact absurd rfl h | decide

end Kind

/-- An order in which something small is no smaller than a document of another manner, and this
one no smaller than something great. -/
theorem exists_not_transitive {k l : Kind} (h : k.manner ≠ l.manner) (hk : k.manner ≠ .never) :
    ∃ a b c : Document, a.kind = k ∧ b.kind = l ∧ c.kind = k ∧
      a.order b ≠ .gt ∧ b.order c ≠ .gt ∧ a.order c = .gt := by
  refine ⟨k.high, l.low, k.low, k.kind_high, l.kind_low, k.kind_low, ?_, ?_,
    Kind.order_high_low hk⟩
  · rw [(Kind.order_eq_of_manner_ne h).1]
    nofun
  · rw [order_swap, (Kind.order_eq_of_manner_ne h).2]
    nofun

/-- Documents are in order just among kinds of one manner. -/
theorem order_trans_iff (among : Kind → Prop) :
    (∀ a b c : Document, among a.kind → among b.kind → among c.kind →
      a.order b ≠ .gt → b.order c ≠ .gt → a.order c ≠ .gt) ↔
    ∀ k l, among k → among l → k.manner = l.manner := by
  constructor
  · intro htrans k l hk hl
    by_contra hne
    have hcontra {k l : Kind} (hk : among k) (hl : among l) (hne : k.manner ≠ l.manner)
        (hnever : k.manner ≠ .never) : False := by
      obtain ⟨a, b, c, rfl, rfl, hc, hab, hbc, hac⟩ := exists_not_transitive hne hnever
      exact htrans a b c hk hl (hc.symm ▸ hk) hab hbc hac
    by_cases hnever : k.manner = .never
    · exact hcontra hl hk (Ne.symm hne) fun hl => hne (hnever.trans hl.symm)
    · exact hcontra hk hl hne hnever
  · intro h a b c ha hb hc
    exact order_trans (h _ _ hb ha) (h _ _ hc ha)

end Document

/-! ## Sorted items -/

namespace Operation

open Document

variable {d : Document} {done items : List Document} {m : Manner}

theorem precedes_iff {a b : Document} : a.precedes b = true ↔ a.order b = .lt := by
  unfold Document.precedes Document.order
  cases a.compare? b with
  | none => simp
  | some o => simp

theorem gt_eq (a b : Document) (root : Document) :
    gt ⟨[.json a, .json b], root⟩ = .ok (.bool (a.order b == .gt)) := by
  show Except.ok (Document.bool ((a.compare? b).any (· == .gt))) = _
  unfold Document.order
  cases a.compare? b <;> rfl

theorem insertBack_perm (d : Document) (done : List Document) :
    (insertBack d done).Perm (d :: done) := by
  fun_induction insertBack d done with
  | case1 => exact .refl _
  | case2 e rest h ih => exact (ih.cons e).trans (.swap d e rest)
  | case3 e rest h => exact .refl _

theorem foldl_insertBack_perm (items done : List Document) :
    (items.foldl (fun done d => insertBack d done) done).Perm (items ++ done) := by
  induction items generalizing done with
  | nil => exact .refl _
  | cons d items ih =>
    have hinsert : (items ++ insertBack d done).Perm (items ++ d :: done) :=
      (insertBack_perm d done).append_left items
    exact (ih _).trans (hinsert.trans List.perm_middle)

theorem sorted_perm (items : List Document) : (sorted items).Perm items := by
  have h := foldl_insertBack_perm items []
  rw [List.append_nil] at h
  exact (List.reverse_perm _).trans h

theorem pairwise_insertBack (hm : ∀ e ∈ d :: done, e.kind.manner = m)
    (h : done.Pairwise fun a b => b.order a ≠ .gt) :
    (insertBack d done).Pairwise fun a b => b.order a ≠ .gt := by
  fun_induction insertBack d done with
  | case1 => exact List.pairwise_singleton ..
  | case2 e rest hprecedes ih =>
    obtain ⟨he, hrest⟩ := List.pairwise_cons.1 h
    obtain ⟨hd, hm⟩ := List.forall_mem_cons.1 hm
    obtain ⟨-, hm⟩ := List.forall_mem_cons.1 hm
    refine List.pairwise_cons.2 ⟨fun x hx => ?_, ih (List.forall_mem_cons.2 ⟨hd, hm⟩) hrest⟩
    rcases List.mem_cons.1 ((insertBack_perm d rest).mem_iff.1 hx) with rfl | hx
    · rw [precedes_iff.1 hprecedes]
      nofun
    · exact he x hx
  | case3 e rest hprecedes =>
    refine List.pairwise_cons.2 ⟨fun x hx => ?_, h⟩
    have hed : e.order d ≠ .gt := by
      rw [order_swap, Ne, Ordering.swap_eq_gt]
      exact fun hlt => hprecedes (precedes_iff.2 hlt)
    rcases List.mem_cons.1 hx with rfl | hrest
    · exact hed
    · have hxe := (List.pairwise_cons.1 h).1 x hrest
      have hx := hm x (List.mem_cons_of_mem d hx)
      have he := hm e (List.mem_cons_of_mem d List.mem_cons_self)
      have hd := hm d List.mem_cons_self
      exact order_trans (he.trans hx.symm) (hd.trans hx.symm) hxe hed

theorem pairwise_foldl_insertBack (hm : ∀ e ∈ items ++ done, e.kind.manner = m)
    (h : done.Pairwise fun a b => b.order a ≠ .gt) :
    (items.foldl (fun done d => insertBack d done) done).Pairwise fun a b => b.order a ≠ .gt := by
  induction items generalizing done with
  | nil => exact h
  | cons d items ih =>
    have hm : ∀ e ∈ items ++ d :: done, e.kind.manner = m :=
      fun e he => hm e (List.perm_middle.mem_iff.1 he)
    refine ih (fun e he => hm e ?_) (pairwise_insertBack (fun e he => hm e ?_) h)
    · exact ((insertBack_perm d done).append_left items).mem_iff.1 he
    · exact List.mem_append_right items he

theorem pairwise_sorted (hm : ∀ a ∈ items, ∀ b ∈ items, a.kind.manner = b.kind.manner) :
    (sorted items).Pairwise fun a b => a.order b ≠ .gt := by
  refine List.pairwise_reverse.2 ?_
  cases items with
  | nil => exact .nil
  | cons d items =>
    refine pairwise_foldl_insertBack (m := d.kind.manner) (fun e he => ?_) .nil
    rw [List.append_nil] at he
    exact hm e he d List.mem_cons_self

end Operation

/-- The order of sorting reads the same from either side. It is transitive among the documents of
some kinds just if these kinds compare in one manner. Items of one manner are sorted so that none
is greater than a later one. -/
theorem sort_order_exact (among : Document.Kind → Prop) (items : List Document)
    (root : Document) :
    (∀ a b : Document, b.order a = (a.order b).swap) ∧
    ((∀ a b c : Document, among a.kind → among b.kind → among c.kind →
        a.order b ≠ .gt → b.order c ≠ .gt → a.order c ≠ .gt) ↔
      ∀ k l, among k → among l → k.manner = l.manner) ∧
    ((∀ a ∈ items, ∀ b ∈ items, a.kind.manner = b.kind.manner) →
      ∃ sorted : List Document,
        Operation.sort ⟨[.json (.array items)], root⟩ = .ok (.array sorted) ∧
        sorted.Perm items ∧
        sorted.Pairwise fun a b =>
          Operation.gt ⟨[.json a, .json b], root⟩ = .ok (.bool false)) := by
  refine ⟨Document.order_swap, Document.order_trans_iff among, fun hm =>
    ⟨Operation.sorted items, rfl, Operation.sorted_perm items, ?_⟩⟩
  refine (Operation.pairwise_sorted hm).imp fun {a b} hab => ?_
  rw [Operation.gt_eq, beq_eq_false_iff_ne.2 hab]

/-- Truth values and numbers compare in one manner. -/
theorem sort_order_exact_numbers :
    let items : List Document := [.whole 3, .bool true, .whole (-1)]
    (∀ a ∈ items, ∀ b ∈ items, a.kind.manner = b.kind.manner) ∧
      ∃ sorted, Operation.sort ⟨[.json (.array items)], .null⟩ = .ok (.array sorted) ∧
        sorted = [.whole (-1), .bool true, .whole 3] ∧
        sorted.Pairwise fun a b =>
          Operation.gt ⟨[.json a, .json b], .null⟩ = .ok (.bool false) := by
  intro items
  have hm : ∀ a ∈ items, ∀ b ∈ items, a.kind.manner = b.kind.manner := by decide
  obtain ⟨sorted, hsort, -, hpairwise⟩ :=
    (sort_order_exact (fun k => k.manner = .asNumber) items .null).2.2 hm
  refine ⟨hm, sorted, hsort, ?_, hpairwise⟩
  cases hsort
  decide

/-- Null is no greater and no smaller than either number, and the greater number stays before the
smaller one. -/
theorem sort_order_not_transitive :
    let a : Document := .whole 2
    let b : Document := .null
    let c : Document := .whole 1
    (a.order b ≠ .gt ∧ b.order c ≠ .gt ∧ a.order c = .gt) ∧
      Operation.sort ⟨[.json (.array [a, b, c])], .null⟩ = .ok (.array [a, b, c]) ∧
      Operation.gt ⟨[.json a, .json c], .null⟩ = .ok (.bool true) :=
  ⟨by decide, rfl, rfl⟩

end Reshape
