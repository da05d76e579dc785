import Mathlib.Data.List.Forall2
import Mathlib.Data.List.Nodup
import Mathlib.Data.List.Perm.Subperm
import Mathlib.Data.String.Basic
import Reshape.Document.Equality

/-!
# Same documents

Sameness compares arrays item by item and objects key by key. A document with distinct keys is the
same as itself, `Document.sameBy_refl`. Documents that are the same can differ in the order of
their entries and in numbers that count as one. Where the order is that of the keys and the numbers
are told apart, they cannot, `Document.eq_of_sameBy`.
-/

namespace Reshape

/-- Doubles of one value are equal, but for the sign of zero. -/
theorem Double.eq_of_key {d e : Double} (hd : d.isZero = true → d.negative = false)
    (he : e.isZero = true → e.negative = false) (h : d.key = e.key) : d = e := by
  obtain ⟨ds, dm, _⟩ := d
  obtain ⟨es, em, _⟩ := e
  simp only [isZero, beq_iff_eq] at hd he
  have hsame : ds = es ∧ dm = em := by
    unfold key at h
    cases ds <;> cases es <;>
      simp only [if_true, Bool.false_eq_true, if_false, reduceCtorEq, imp_false, implies_true,
        true_and, false_and] at h hd he ⊢ <;> omega
  obtain ⟨rfl, rfl⟩ := hsame
  rfl

namespace Number

/-- The number is not the negative zero. -/
def IsNotNegativeZero : Number → Prop
  | whole _ => True
  | double d => d.isZero = true → d.negative = false

theorem identical_refl (x : Number) : x.identical x = true := by
  cases x with
  | whole n => exact beq_self_eq_true n
  | double d => exact beq_self_eq_true d.key

theorem eq_of_identical {x y : Number} (hx : x.IsNotNegativeZero) (hy : y.IsNotNegativeZero)
    (h : x.identical y = true) : x = y := by
  cases x with
  | whole m =>
    cases y with
    | whole n => exact congrArg whole (eq_of_beq h)
    | double e => cases h
  | double d =>
    cases y with
    | whole n => cases h
    | double e =>
      exact congrArg double (Double.eq_of_key hx hy (eq_of_beq h))

end Number

namespace Document

/-- The keys of each object and each number in a document are as said. -/
inductive EachNode (keys : List String → Prop) (number : Number → Prop) : Document → Prop where
  | null : EachNode keys number .null
  | bool (value : Bool) : EachNode keys number (.bool value)
  | number {x : Number} (hx : number x) : EachNode keys number (.number x)
  | string (s : String) : EachNode keys number (.string s)
  | array {items : List Document} (h : ∀ d ∈ items, EachNode keys number d) :
      EachNode keys number (.array items)
  | object {entries : List (String × Document)} (hkeys : keys (entries.map Prod.fst))
      (h : ∀ e ∈ entries, EachNode keys number e.2) : EachNode keys number (.object entries)

variable {keys : List String → Prop} {number : Number → Prop} {numbers : Number → Number → Bool}

theorem EachNode.imp {keys' : List String → Prop} {number' : Number → Prop} {d : Document}
    (h : EachNode keys number d) (hkeys : ∀ ks, keys ks → keys' ks)
    (hnumber : ∀ x, number x → number' x) : EachNode keys' number' d := by
  induction h with
  | null => exact .null
  | bool value => exact .bool value
  | number hx => exact .number (hnumber _ hx)
  | string s => exact .string s
  | array _ ih => exact .array ih
  | object hks _ ih => exact .object (hkeys _ hks) ih

/-- No object has two entries of one key. -/
def DistinctKeys : Document → Prop := EachNode List.Nodup fun _ => True

/-! ## What is the same as a document -/

theorem sameItems_iff {as bs : List Document} :
    sameItems numbers as bs = true ↔ List.Forall₂ (fun a b => sameBy numbers a b = true) as bs := by
  induction as generalizing bs with
  | nil => cases bs <;> simp [sameItems]
  | cons a as ih => cases bs <;> simp [sameItems, ih]

theorem sameEntries_iff {as bs : List (String × Document)} :
    sameEntries numbers as bs = true
      ↔ ∀ e ∈ as, ∃ b, find? bs e.1 = some b ∧ sameBy numbers e.2 b = true := by
  induction as with
  | nil => simp [sameEntries]
  | cons e as ih =>
    obtain ⟨key, a⟩ := e
    rw [sameEntries, Bool.and_eq_true, ih, List.forall_mem_cons]
    refine and_congr_left fun _ => ?_
    cases find? bs key <;> simp

theorem sameBy_null_iff {b : Document} : sameBy numbers .null b = true ↔ b = .null := by
  cases b <;> simp [sameBy]

theorem sameBy_bool_iff {value : Bool} {b : Document} :
    sameBy numbers (.bool value) b = true ↔ b = .bool value := by
  cases b with
  | bool value' => rw [sameBy, beq_iff_eq, bool.injEq, eq_comm]
  | _ => simp [sameBy]

theorem sameBy_number_iff {x : Number} {b : Document} :
    sameBy numbers (.number x) b = true ↔ ∃ y, b = .number y ∧ numbers x y = true := by
  cases b <;> simp [sameBy]

theorem sameBy_string_iff {s : String} {b : Document} :
    sameBy numbers (.string s) b = true ↔ b = .string s := by
  cases b with
  | string t => rw [sameBy, beq_iff_eq, string.injEq, eq_comm]
  | _ => simp [sameBy]

theorem sameBy_array_iff {as : List Document} {b : Document} :
    sameBy numbers (.array as) b = true
      ↔ ∃ bs, b = .array bs ∧ List.Forall₂ (fun a b => sameBy numbers a b = true) as bs := by
  cases b <;> simp [sameBy, sameItems_iff]

theorem sameBy_object_iff {es : List (String × Document)} {b : Document} :
    sameBy numbers (.object es) b = true
      ↔ ∃ fs, b = .object fs ∧ es.length = fs.length ∧
        ∀ e ∈ es, ∃ d, find? fs e.1 = some d ∧ sameBy numbers e.2 d = true := by
  cases b <;> simp [sameBy, sameEntries_iff]

theorem find?_of_mem_of_nodup {entries : List (String × Document)}
    (hkeys : (entries.map Prod.fst).Nodup) {e : String × Document} (he : e ∈ entries) :
    find? entries e.1 = some e.2 := by
  obtain ⟨before, after, rfl⟩ := List.append_of_mem he
  rw [List.map_append, List.map_cons, List.nodup_middle, List.nodup_cons] at hkeys
  have hfresh : ∀ f ∈ before, ¬ (f.1 == e.1) = true := fun f hf heq =>
    hkeys.1 (List.mem_append_left _ (eq_of_beq heq ▸ List.mem_map_of_mem hf))
  unfold find?
  rw [List.find?_append, List.find?_eq_none.2 hfresh]
  simp

/-! ## Sameness and equality -/

/-- A document with distinct keys is the same as itself. -/
theorem sameBy_refl (hnumbers : ∀ x, numbers x x = true) {d : Document} (h : d.DistinctKeys) :
    sameBy numbers d d = true := by
  induction h with
  | null => rfl
  | bool value => exact beq_self_eq_true value
  | number _ => exact hnumbers _
  | string s => exact beq_self_eq_true s
  | array _ ih => exact sameBy_array_iff.2 ⟨_, rfl, List.forall₂_same.2 ih⟩
  | object hkeys _ ih =>
    exact sameBy_object_iff.2
      ⟨_, rfl, rfl, fun e he => ⟨e.2, find?_of_mem_of_nodup hkeys he, ih e he⟩⟩

theorem eq_of_forall₂ {α : Type} {r : α → α → Prop} {as bs : List α} (h : List.Forall₂ r as bs)
    (heq : ∀ a ∈ as, ∀ b ∈ bs, r a b → a = b) : as = bs := by
  induction h with
  | nil => rfl
  | cons hab _ ih =>
    have htail := ih fun a ha b hb =>
      heq a (List.mem_cons_of_mem _ ha) b (List.mem_cons_of_mem _ hb)
    rw [heq _ List.mem_cons_self _ List.mem_cons_self hab, htail]

/-- Objects of one size with keys in order are equal if the entries of one are among those of the
other. -/
theorem eq_of_subset_of_sorted {es fs : List (String × Document)}
    (hes : (es.map Prod.fst).Pairwise (· < ·)) (hfs : (fs.map Prod.fst).Pairwise (· < ·))
    (hlength : es.length = fs.length) (hsub : es ⊆ fs) : es = fs := by
  have hnodup : es.Nodup := List.Nodup.of_map Prod.fst hes.nodup
  have hperm : es.Perm fs :=
    (hnodup.subperm hsub).perm_of_length_le hlength.ge
  exact hperm.eq_of_pairwise (fun a b _ _ hab hba => absurd hba (lt_asymm hab))
    (List.pairwise_map.1 hes) (List.pairwise_map.1 hfs)

/-- Where keys are in order and numbers told apart, documents that are the same are equal. -/
theorem eq_of_sameBy (hnumbers : ∀ x y, number x → number y → numbers x y = true → x = y)
    {a b : Document} (ha : EachNode (List.Pairwise (· < ·)) number a)
    (hb : EachNode (List.Pairwise (· < ·)) number b) (h : sameBy numbers a b = true) : a = b := by
  induction ha generalizing b with
  | null => exact (sameBy_null_iff.1 h).symm
  | bool value => exact (sameBy_bool_iff.1 h).symm
  | number hx =>
    obtain ⟨y, rfl, hxy⟩ := sameBy_number_iff.1 h
    cases hb with
    | number hy => exact congrArg _ (hnumbers _ _ hx hy hxy)
  | string s => exact (sameBy_string_iff.1 h).symm
  | array _ ih =>
    obtain ⟨bs, rfl, hsame⟩ := sameBy_array_iff.1 h
    cases hb with
    | array hbs => exact congrArg _ (eq_of_forall₂ hsame fun a ha b hb => ih a ha (hbs b hb))
  | object hkeys _ ih =>
    obtain ⟨fs, rfl, hlength, hfind⟩ := sameBy_object_iff.1 h
    cases hb with
    | object hkeys' hfs =>
      refine congrArg _ (eq_of_subset_of_sorted hkeys hkeys' hlength fun e he => ?_)
      obtain ⟨b, hb, hsame⟩ := hfind e he
      have hmem := mem_of_find? hb
      obtain rfl : e.2 = b := ih e he (hfs _ hmem) hsame
      exact hmem

/-! ## Identical documents -/

/-- The keys of each object are in order, and no zero is negative. -/
def Canonical : Document → Prop := EachNode (List.Pairwise (· < ·)) Number.IsNotNegativeZero

theorem Canonical.distinctKeys {d : Document} (h : d.Canonical) : d.DistinctKeys :=
  h.imp (fun _ hkeys => hkeys.nodup) fun _ _ => trivial

theorem identical_refl {d : Document} (h : d.DistinctKeys) : d.identical d = true :=
  sameBy_refl Number.identical_refl h

theorem identical_iff_eq {a b : Document} (ha : a.Canonical) (hb : b.Canonical) :
    a.identical b = true ↔ a = b := by
  constructor
  · exact eq_of_sameBy (fun _ _ => Number.eq_of_identical) ha hb
  · rintro rfl
    exact identical_refl ha.distinctKeys

end Document

end Reshape
