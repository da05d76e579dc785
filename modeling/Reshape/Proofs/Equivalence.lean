import Reshape.Proofs.Sameness
import Reshape.Proofs.SortOrder

/-!
# Sameness is an equivalence

Sameness compares the entries of one object with what another one of the same size has under their
keys. Where keys are distinct, the two objects have the same keys, so that it can be read from
either side: `Document.sameBy_symm`. `Document.Reorders` puts the entries of one object anywhere in
a document in another order, which sameness does not see. Documents that are told to be equal are an
equivalence that goes through arrays and objects: `equality_is_equivalence`.
-/

namespace Reshape

/-! ## Numbers of one value -/

theorem Double.key_bounds (d : Double) : -(ceiling : Int) < d.key ∧ d.key < ceiling := by
  have hlt := d.magnitude_lt
  unfold key
  split
  · omega
  · omega

namespace Extended

variable {x y z : Extended}

/-- What is the same has one place in the order of numbers. -/
theorem same_iff : x.same y = true ↔ ∃ k, x.key? = some k ∧ y.key? = some k := by
  have hpos : (0 : Int) < Double.ceiling := by decide
  cases x with
  | finite d =>
    have hd := d.key_bounds
    cases y with
    | finite e => simp [same, key?, @eq_comm Int e.key]
    | infinite negative => cases negative <;> simp [same, key?] <;> omega
    | undefined => simp [same, key?]
  | infinite negative =>
    cases y with
    | finite e =>
      have he := e.key_bounds
      cases negative <;> simp [same, key?] <;> omega
    | infinite negative' => cases negative <;> cases negative' <;> simp [same, key?] <;> omega
    | undefined => simp [same, key?]
  | undefined => simp [same, key?]

theorem same_symm (h : x.same y = true) : y.same x = true := by
  obtain ⟨k, hx, hy⟩ := same_iff.1 h
  exact same_iff.2 ⟨k, hy, hx⟩

theorem same_trans (hxy : x.same y = true) (hyz : y.same z = true) : x.same z = true := by
  obtain ⟨k, hx, hy⟩ := same_iff.1 hxy
  obtain ⟨l, hy', hz⟩ := same_iff.1 hyz
  exact same_iff.2 ⟨k, hx, (hz.trans hy'.symm).trans hy⟩

end Extended

theorem Number.same_self (x : Number) : x.toExtended.same x.toExtended = true := by
  obtain ⟨k, hk⟩ : ∃ k, (Document.number x).rank? = some k := Document.exists_rank_of_asNumber rfl
  exact Extended.same_iff.2 ⟨k, hk, hk⟩

namespace Document

variable {numbers : Number → Number → Bool} {a b c : Document} {as : List Document}
  {es fs : List (String × Document)}

/-! ## Symmetry and transitivity -/

theorem perm_keys (hes : (es.map Prod.fst).Nodup) (hlength : es.length = fs.length)
    (hfind : ∀ e ∈ es, ∃ d, find? fs e.1 = some d) :
    (es.map Prod.fst).Perm (fs.map Prod.fst) := by
  have hsub : es.map Prod.fst ⊆ fs.map Prod.fst := by
    intro key hkey
    obtain ⟨e, he, rfl⟩ := List.mem_map.1 hkey
    obtain ⟨d, hd⟩ := hfind e he
    exact List.mem_map.2 ⟨(e.1, d), mem_of_find? hd, rfl⟩
  refine (hes.subperm hsub).perm_of_length_le ?_
  rw [List.length_map, List.length_map, hlength]

theorem sameBy_symm (hnumbers : ∀ x y, numbers x y = true → numbers y x = true)
    (ha : a.DistinctKeys) (hb : b.DistinctKeys) (h : sameBy numbers a b = true) :
    sameBy numbers b a = true := by
  induction ha generalizing b with
  | null =>
    rw [sameBy_null_iff.1 h]
    rfl
  | bool value =>
    rw [sameBy_bool_iff.1 h]
    exact sameBy_bool_iff.2 rfl
  | number _ =>
    obtain ⟨y, rfl, hxy⟩ := sameBy_number_iff.1 h
    exact hnumbers _ _ hxy
  | string s =>
    rw [sameBy_string_iff.1 h]
    exact sameBy_string_iff.2 rfl
  | array _ ih =>
    obtain ⟨bs, rfl, hsame⟩ := sameBy_array_iff.1 h
    cases hb with
    | array hbs =>
      rw [List.forall₂_iff_get] at hsame
      refine sameBy_array_iff.2 ⟨_, rfl, List.forall₂_iff_get.2 ⟨hsame.1.symm, fun i hi hj => ?_⟩⟩
      exact ih _ (List.get_mem ..) (hbs _ (List.get_mem ..)) (hsame.2 i hj hi)
  | object hkeys _ ih =>
    obtain ⟨fs, rfl, hlength, hfind⟩ := sameBy_object_iff.1 h
    cases hb with
    | object hkeys' hfs =>
      have hperm := perm_keys hkeys hlength fun e he => (hfind e he).imp fun _ hd => hd.1
      refine sameBy_object_iff.2 ⟨_, rfl, hlength.symm, fun f hf => ?_⟩
      obtain ⟨e, he, hkey⟩ := List.mem_map.1 (hperm.mem_iff.2 (List.mem_map_of_mem hf))
      obtain ⟨d, hd, hsame⟩ := hfind e he
      rw [hkey, find?_of_mem_of_nodup hkeys' hf, Option.some.injEq] at hd
      subst hd
      exact ⟨e.2, hkey ▸ find?_of_mem_of_nodup hkeys he, ih e he (hfs f hf) hsame⟩

theorem sameBy_trans
    (hnumbers : ∀ x y z, numbers x y = true → numbers y z = true → numbers x z = true)
    (ha : a.DistinctKeys) (hab : sameBy numbers a b = true) (hbc : sameBy numbers b c = true) :
    sameBy numbers a c = true := by
  induction ha generalizing b c with
  | null =>
    rw [sameBy_null_iff.1 hab] at hbc
    exact hbc
  | bool value =>
    rw [sameBy_bool_iff.1 hab] at hbc
    exact hbc
  | number _ =>
    obtain ⟨y, rfl, hxy⟩ := sameBy_number_iff.1 hab
    obtain ⟨z, rfl, hyz⟩ := sameBy_number_iff.1 hbc
    exact hnumbers _ _ _ hxy hyz
  | string s =>
    rw [sameBy_string_iff.1 hab] at hbc
    exact hbc
  | array _ ih =>
    obtain ⟨bs, rfl, has⟩ := sameBy_array_iff.1 hab
    obtain ⟨cs, rfl, hbs⟩ := sameBy_array_iff.1 hbc
    rw [List.forall₂_iff_get] at has hbs
    refine sameBy_array_iff.2 ⟨cs, rfl, List.forall₂_iff_get.2
      ⟨has.1.trans hbs.1, fun i hi hk => ?_⟩⟩
    have hj := has.1 ▸ hi
    exact ih _ (List.get_mem ..) (has.2 i hi hj) (hbs.2 i hj hk)
  | object _ _ ih =>
    obtain ⟨fs, rfl, hlength, hes⟩ := sameBy_object_iff.1 hab
    obtain ⟨gs, rfl, hlength', hfs⟩ := sameBy_object_iff.1 hbc
    refine sameBy_object_iff.2 ⟨gs, rfl, hlength.trans hlength', fun e he => ?_⟩
    obtain ⟨d, hd, hed⟩ := hes e he
    obtain ⟨g, hg, hdg⟩ := hfs (e.1, d) (mem_of_find? hd)
    exact ⟨g, hg, ih e he hed hdg⟩

/-! ## Parts that are the same -/

section Parts

variable (hnumbers : ∀ x, numbers x x = true)
include hnumbers

/-- An array stays the same where one of its items is replaced by one that is the same. -/
theorem sameBy_array_replace {before after : List Document}
    (h : (array (before ++ a :: after)).DistinctKeys) (hab : sameBy numbers a b = true) :
    sameBy numbers (.array (before ++ a :: after)) (.array (before ++ b :: after)) = true := by
  cases h with
  | array hitems =>
    rw [List.forall_mem_append, List.forall_mem_cons] at hitems
    have hself {items : List Document} (h : ∀ d ∈ items, EachNode List.Nodup (fun _ => True) d) :
        List.Forall₂ (fun a b => sameBy numbers a b = true) items items :=
      List.forall₂_same.2 fun d hd => sameBy_refl hnumbers (h d hd)
    exact sameBy_array_iff.2 ⟨_, rfl,
      List.rel_append (hself hitems.1) (.cons hab (hself hitems.2.2))⟩

theorem sameBy_object_replace {before after : List (String × Document)} {key : String}
    (h : (object (before ++ (key, a) :: after)).DistinctKeys) (hab : sameBy numbers a b = true) :
    sameBy numbers (.object (before ++ (key, a) :: after))
      (.object (before ++ (key, b) :: after)) = true := by
  cases h with
  | object hkeys hentries =>
    have hkeys' : ((before ++ (key, b) :: after).map Prod.fst).Nodup := by
      rwa [List.map_append, List.map_cons] at hkeys ⊢
    refine sameBy_object_iff.2 ⟨_, rfl, by simp, fun e he => ?_⟩
    rw [List.mem_append, List.mem_cons] at he
    by_cases heq : e = (key, a)
    · have hmem : (key, b) ∈ before ++ (key, b) :: after :=
        List.mem_append_right before List.mem_cons_self
      subst heq
      exact ⟨b, find?_of_mem_of_nodup hkeys' hmem, hab⟩
    · have hmem : e ∈ before ++ (key, b) :: after := by
        rw [List.mem_append, List.mem_cons]
        exact he.imp_right fun he => .inr (he.resolve_left heq)
      refine ⟨e.2, find?_of_mem_of_nodup hkeys' hmem, sameBy_refl hnumbers (hentries e ?_)⟩
      rwa [List.mem_append, List.mem_cons]

end Parts

/-! ## Another order of entries -/

/-- The entries of one object anywhere in the document are put in another order. -/
inductive Reorders : Document → Document → Prop where
  | here {es fs : List (String × Document)} (h : es.Perm fs) : Reorders (.object es) (.object fs)
  | item {a b : Document} (before after : List Document) (h : Reorders a b) :
      Reorders (.array (before ++ a :: after)) (.array (before ++ b :: after))
  | member {a b : Document} (before after : List (String × Document)) (key : String)
      (h : Reorders a b) :
      Reorders (.object (before ++ (key, a) :: after)) (.object (before ++ (key, b) :: after))

theorem Reorders.sameBy (hnumbers : ∀ x, numbers x x = true) (h : Reorders a b)
    (ha : a.DistinctKeys) : sameBy numbers a b = true := by
  induction h with
  | here h =>
    cases ha with
    | object hkeys hentries =>
      refine sameBy_object_iff.2 ⟨_, rfl, h.length_eq, fun e he => ⟨e.2, ?_, ?_⟩⟩
      · exact find?_of_mem_of_nodup ((h.map Prod.fst).nodup_iff.1 hkeys) (h.mem_iff.1 he)
      · exact sameBy_refl hnumbers (hentries e he)
  | item before after _ ih =>
    refine sameBy_array_replace hnumbers ha (ih ?_)
    cases ha with
    | array hitems => exact hitems _ (List.mem_append_right before List.mem_cons_self)
  | member before after key _ ih =>
    refine sameBy_object_replace hnumbers ha (ih ?_)
    cases ha with
    | object _ hentries => exact hentries _ (List.mem_append_right before List.mem_cons_self)

end Document

/-! ## Documents that are told to be equal -/

namespace Operation

variable {a b root : Document}

/-- Two documents are told to be equal. -/
def Equal (root a b : Document) : Prop :=
  equals ⟨[.json a, .json b], root⟩ = .ok (.bool true)

theorem equals_eq (a b root : Document) :
    equals ⟨[.json a, .json b], root⟩ = .ok (.bool (a.equivalent b)) := rfl

theorem equal_iff : Equal root a b ↔ a.equivalent b = true := by
  rw [Equal, equals_eq, Except.ok.injEq, Document.bool.injEq]

end Operation

/-- A document with distinct keys is equal to itself. Which of two documents comes first makes no
difference, and what is equal to one of two equal documents is equal to the other one. A document
is equal to any that has the entries of one of its objects, however deep, in another order, and
arrays and objects are equal if they differ in equal items or members. -/
theorem equality_is_equivalence (root : Document) :
    (∀ a : Document, a.DistinctKeys → Operation.Equal root a a) ∧
    (∀ a b : Document, a.DistinctKeys → b.DistinctKeys →
      Operation.equals ⟨[.json a, .json b], root⟩ = Operation.equals ⟨[.json b, .json a], root⟩) ∧
    (∀ a b c : Document, a.DistinctKeys →
      Operation.Equal root a b → Operation.Equal root b c → Operation.Equal root a c) ∧
    (∀ a b : Document, a.DistinctKeys → a.Reorders b → Operation.Equal root a b) ∧
    (∀ (before after : List Document) (a b : Document),
      (Document.array (before ++ a :: after)).DistinctKeys → Operation.Equal root a b →
      Operation.Equal root (.array (before ++ a :: after)) (.array (before ++ b :: after))) ∧
    (∀ (before after : List (String × Document)) (key : String) (a b : Document),
      (Document.object (before ++ (key, a) :: after)).DistinctKeys → Operation.Equal root a b →
      Operation.Equal root (.object (before ++ (key, a) :: after))
        (.object (before ++ (key, b) :: after))) := by
  simp only [Operation.equal_iff, Operation.equals_eq]
  refine ⟨fun a ha => ?_, fun a b ha hb => ?_, fun a b c ha hab hbc => ?_,
    fun a b ha h => ?_, fun before after a b h hab => ?_, fun before after key a b h hab => ?_⟩
  · exact Document.sameBy_refl Number.same_self ha
  · have hsymm {a b : Document} (ha : a.DistinctKeys) (hb : b.DistinctKeys)
        (h : a.equivalent b = true) : b.equivalent a = true :=
      Document.sameBy_symm (fun _ _ => Extended.same_symm) ha hb h
    rw [Bool.eq_iff_iff.2 ⟨hsymm ha hb, hsymm hb ha⟩]
  · exact Document.sameBy_trans (fun _ _ _ => Extended.same_trans) ha hab hbc
  · exact h.sameBy Number.same_self ha
  · exact Document.sameBy_array_replace Number.same_self h hab
  · exact Document.sameBy_object_replace Number.same_self h hab

/-- An object in an array, the same with its entries in another order, and that with a number of
another kind. -/
theorem equality_is_equivalence_nested :
    let one : Document := .number (.double ⟨false, 1023 * Double.hiddenBit, by decide⟩)
    let a := Document.array [.object [("x", .whole 1), ("y", .null)], .null]
    let b := Document.array [.object [("y", .null), ("x", .whole 1)], .null]
    let c := Document.array [.object [("y", .null), ("x", one)], .null]
    (a.DistinctKeys ∧ b.DistinctKeys ∧ c.DistinctKeys ∧ a.Reorders b) ∧
      Operation.Equal .null a b ∧ Operation.Equal .null b c ∧ Operation.Equal .null a c ∧
      Operation.equals ⟨[.json c, .json a], .null⟩ = .ok (.bool true) := by
  intro one a b c
  have hobject (k l : String) (d e : Document) (hkl : k ≠ l) (hd : d.DistinctKeys)
      (he : e.DistinctKeys) : (Document.object [(k, d), (l, e)]).DistinctKeys :=
    .object (by simpa using hkl)
      (List.forall_mem_cons.2 ⟨hd, List.forall_mem_singleton.2 he⟩)
  have harray (d : Document) (hd : d.DistinctKeys) : (Document.array [d, .null]).DistinctKeys :=
    .array (List.forall_mem_cons.2 ⟨hd, List.forall_mem_singleton.2 .null⟩)
  have ha : a.DistinctKeys :=
    harray _ (hobject "x" "y" _ _ (by decide) (.number trivial) .null)
  have hb : (Document.object [("y", .null), ("x", .whole 1)]).DistinctKeys :=
    hobject "y" "x" _ _ (by decide) .null (.number trivial)
  have hc : c.DistinctKeys :=
    harray _ (hobject "y" "x" _ _ (by decide) .null (.number trivial))
  have hreorders : a.Reorders b := .item [] [.null] (.here (List.Perm.swap ..))
  obtain ⟨-, hcomm, htrans, hreordered, hitem, hmember⟩ := equality_is_equivalence .null
  have hone : Operation.Equal .null (.whole 1) one := rfl
  have hab := hreordered a b ha hreorders
  have hbc : Operation.Equal .null b c := hitem [] [.null] _ _ (harray _ hb)
    (hmember [("y", .null)] [] "x" _ _ hb hone)
  have hac := htrans a b c ha hab hbc
  exact ⟨⟨ha, harray _ hb, hc, hreorders⟩, hab, hbc, hac, (hcomm c a hc ha).trans hac⟩

end Reshape
