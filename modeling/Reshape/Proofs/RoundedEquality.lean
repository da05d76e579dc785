import Mathlib.Logic.Relation
import Reshape.Operation.Words
import Reshape.Proofs.Equivalence
import Reshape.Proofs.WholeDoubles

/-!
# Equality of documents of whole numbers

Two documents are the same up to order if one becomes the other by reordering the entries of
objects. Documents that are the same up to order are told to be equal. Equality compares numbers as
doubles: it tells whether the documents would be the same up to order with each whole number
rounded to the nearest double, `equality_rounds_whole_numbers`. Where one of the two has only
numbers of at most 53 binary digits, rounding makes no difference.
-/

namespace Reshape

/-! ## Whole numbers -/

namespace Number

/-- A whole number of 64 bits. -/
def IsWord : Number → Prop
  | whole n => fitsWord n = true
  | double _ => False

/-- A whole number of at most 53 binary digits. -/
def IsShort : Number → Prop
  | whole n => n.natAbs < 2 ^ 53
  | double _ => False

/-- The double nearest to a whole number, if it is finite. -/
def rounded : Number → Number
  | whole n => match Extended.ofInt n with
    | .finite d => double d
    | _ => whole n
  | double d => double d

variable {x y : Number}

theorem toExtended_rounded (x : Number) : x.rounded.toExtended = x.toExtended := by
  cases x with
  | whole n =>
    simp only [rounded]
    cases h : Extended.ofInt n with
    | finite d => exact h.symm
    | infinite _ | undefined => rfl
  | double d => rfl

theorem exists_rounded (h : x.IsWord) :
    ∃ d, x.rounded = double d ∧ (d.isZero = true → d.negative = false) := by
  cases x with
  | whole n =>
    have hn : n.natAbs < 2 ^ 64 := by
      have h : fitsWord n = true := h
      simp only [fitsWord, Bool.and_eq_true, decide_eq_true_eq, Nat.pow_eq] at h
      omega
    have hround : (whole n).rounded = double ⟨n < 0, Double.wholeMagnitude n.natAbs,
        Double.wholeMagnitude_lt_ceiling hn⟩ := by
      rw [rounded, Extended.ofInt_eq, dif_pos (Double.wholeMagnitude_lt_ceiling hn)]
    refine ⟨_, hround, fun hzero => ?_⟩
    have habs := Double.wholeMagnitude_eq_zero_iff.1 (eq_of_beq hzero)
    simp [Int.natAbs_eq_zero.1 habs]
  | double d => exact h.elim

theorem rounded_eq_of_same (hx : x.IsWord) (hy : y.IsWord)
    (h : x.rounded.toExtended.same y.rounded.toExtended = true) : x.rounded = y.rounded := by
  obtain ⟨d, hd, hzero⟩ := exists_rounded hx
  obtain ⟨e, he, hzero'⟩ := exists_rounded hy
  rw [hd, he] at h ⊢
  exact congrArg double (Double.eq_of_key hzero hzero' (eq_of_beq h))

theorem eq_of_same (hx : x.IsWord) (hy : y.IsShort)
    (h : x.toExtended.same y.toExtended = true) : x = y := by
  cases x with
  | whole m =>
    cases y with
    | whole n => exact congrArg whole (Extended.eq_of_same_ofInt hy h)
    | double d => exact hy.elim
  | double d => exact hx.elim

end Number

namespace Document

variable {numbers : Number → Number → Bool} {number number' : Number → Prop} {a b c : Document}

/-! ## The same document up to order -/

/-- One document becomes the other by reordering the entries of objects. -/
def SameUpToOrder : Document → Document → Prop := Relation.ReflTransGen Reorders

theorem Reorders.eachNode (h : Reorders a b) (ha : EachNode List.Nodup number a) :
    EachNode List.Nodup number b := by
  induction h with
  | here h =>
    cases ha with
    | object hkeys hentries =>
      exact .object ((h.map Prod.fst).nodup_iff.1 hkeys) fun e he => hentries e (h.mem_iff.2 he)
  | item before after _ ih =>
    cases ha with
    | array hitems =>
      rw [List.forall_mem_append, List.forall_mem_cons] at hitems
      exact .array (List.forall_mem_append.2
        ⟨hitems.1, List.forall_mem_cons.2 ⟨ih hitems.2.1, hitems.2.2⟩⟩)
  | member before after key _ ih =>
    cases ha with
    | object hkeys hentries =>
      rw [List.forall_mem_append, List.forall_mem_cons] at hentries
      rw [List.map_append, List.map_cons] at hkeys
      refine .object ?_ (List.forall_mem_append.2
        ⟨hentries.1, List.forall_mem_cons.2 ⟨ih hentries.2.1, hentries.2.2⟩⟩)
      rwa [List.map_append, List.map_cons]

theorem SameUpToOrder.sameBy (hrefl : ∀ x, numbers x x = true)
    (htrans : ∀ x y z, numbers x y = true → numbers y z = true → numbers x z = true)
    (ha : a.DistinctKeys) (h : SameUpToOrder a b) : sameBy numbers a b = true := by
  have hboth : b.DistinctKeys ∧ Document.sameBy numbers a b = true := by
    induction h with
    | refl => exact ⟨ha, sameBy_refl hrefl ha⟩
    | tail _ hstep ih =>
      exact ⟨hstep.eachNode ih.1, sameBy_trans htrans ha ih.2 (hstep.sameBy hrefl ih.1)⟩
  exact hboth.2

theorem SameUpToOrder.eq_of_number {x : Number} (h : SameUpToOrder (.number x) b) :
    b = .number x := by
  rcases Relation.ReflTransGen.cases_head h with rfl | ⟨_, hstep, -⟩
  · rfl
  · cases hstep

/-- Where each single part of a document can be replaced, all parts can, one after the other from
the left to the right. -/
theorem sameUpToOrder_of_forall₂ {α : Type} {r : α → α → Prop} {f : List α → Document}
    (hpart : ∀ before a b after, r a b →
      SameUpToOrder (f (before ++ a :: after)) (f (before ++ b :: after)))
    {as bs : List α} (h : List.Forall₂ r as bs) : SameUpToOrder (f as) (f bs) := by
  suffices hbehind : ∀ before, SameUpToOrder (f (before ++ as)) (f (before ++ bs)) from
    hbehind []
  induction h with
  | nil => exact fun _ => .refl
  | @cons a b as bs hab _ ih =>
    intro before
    have hrest := ih (before ++ [b])
    rw [List.append_assoc, List.append_assoc] at hrest
    exact (hpart before a b as hab).trans hrest

theorem SameUpToOrder.array {as bs : List Document} (h : List.Forall₂ SameUpToOrder as bs) :
    SameUpToOrder (.array as) (.array bs) :=
  sameUpToOrder_of_forall₂ (fun before a b after hab =>
    Relation.ReflTransGen.lift (p := Reorders) (fun d => .array (before ++ d :: after))
      (fun _ _ => .item before after) a b hab) h

theorem SameUpToOrder.object {es fs : List (String × Document)}
    (h : List.Forall₂ (fun e f => e.1 = f.1 ∧ SameUpToOrder e.2 f.2) es fs) :
    SameUpToOrder (.object es) (.object fs) := by
  refine sameUpToOrder_of_forall₂ (fun before e f after hef => ?_) h
  obtain ⟨key, a⟩ := e
  obtain ⟨key', b⟩ := f
  obtain ⟨rfl, hab⟩ := hef
  exact Relation.ReflTransGen.lift (p := Reorders) (fun d => .object (before ++ (key, d) :: after))
    (fun _ _ => .member before after key) a b hab

/-- Where numbers that count as one are equal, what is the same is so up to order. -/
theorem sameUpToOrder_of_sameBy
    (hnumbers : ∀ x y, number x → number' y → numbers x y = true → x = y)
    (ha : EachNode List.Nodup number a) (hb : EachNode List.Nodup number' b)
    (h : sameBy numbers a b = true) : SameUpToOrder a b := by
  induction ha generalizing b with
  | null =>
    rw [sameBy_null_iff.1 h]
    exact .refl
  | bool value =>
    rw [sameBy_bool_iff.1 h]
    exact .refl
  | number hx =>
    obtain ⟨y, rfl, hxy⟩ := sameBy_number_iff.1 h
    cases hb with
    | number hy =>
      rw [hnumbers _ _ hx hy hxy]
      exact .refl
  | string s =>
    rw [sameBy_string_iff.1 h]
    exact .refl
  | array _ ih =>
    obtain ⟨bs, rfl, hsame⟩ := sameBy_array_iff.1 h
    cases hb with
    | array hbs =>
      rw [List.forall₂_iff_get] at hsame
      refine .array (List.forall₂_iff_get.2 ⟨hsame.1, fun i hi hj => ?_⟩)
      exact ih _ (List.get_mem ..) (hbs _ (List.get_mem ..)) (hsame.2 i hi hj)
  | @object es hkeys _ ih =>
    obtain ⟨fs, rfl, hlength, hfind⟩ := sameBy_object_iff.1 h
    cases hb with
    | object hkeys' hfs =>
      have hvalues : SameUpToOrder (.object es)
          (.object (es.map fun e => (e.1, (find? fs e.1).getD e.2))) := by
        refine .object (List.forall₂_map_right_iff.2 (List.forall₂_same.2 fun e he => ⟨rfl, ?_⟩))
        obtain ⟨d, hd, hsame⟩ := hfind e he
        rw [hd]
        exact ih e he (hfs _ (mem_of_find? hd)) hsame
      refine hvalues.tail (.here ?_)
      have hsub : (es.map fun e => (e.1, (find? fs e.1).getD e.2)) ⊆ fs := by
        intro f hf
        obtain ⟨e, he, rfl⟩ := List.mem_map.1 hf
        obtain ⟨d, hd, -⟩ := hfind e he
        rw [hd]
        exact mem_of_find? hd
      have hnodup : (es.map fun e => (e.1, (find? fs e.1).getD e.2)).Nodup := by
        refine List.Nodup.of_map Prod.fst ?_
        rwa [List.map_map]
      exact (hnodup.subperm hsub).perm_of_length_le (by rw [List.length_map, hlength])

/-! ## Rounded documents -/

mutual

def mapNumbers (f : Number → Number) : Document → Document
  | .number x => .number (f x)
  | .array items => .array (mapItemNumbers f items)
  | .object entries => .object (mapEntryNumbers f entries)
  | .null => .null
  | .bool value => .bool value
  | .string s => .string s

def mapItemNumbers (f : Number → Number) : List Document → List Document
  | [] => []
  | d :: rest => d.mapNumbers f :: mapItemNumbers f rest

def mapEntryNumbers (f : Number → Number) :
    List (String × Document) → List (String × Document)
  | [] => []
  | (key, d) :: rest => (key, d.mapNumbers f) :: mapEntryNumbers f rest

end

/-- The document with its whole numbers rounded to doubles. -/
def rounded : Document → Document := mapNumbers Number.rounded

variable {f : Number → Number}

theorem mapItemNumbers_eq_map (items : List Document) :
    mapItemNumbers f items = items.map (mapNumbers f) := by
  induction items with
  | nil => rfl
  | cons d items ih => exact congrArg (d.mapNumbers f :: ·) ih

theorem mapEntryNumbers_eq_map (entries : List (String × Document)) :
    mapEntryNumbers f entries = entries.map fun e => (e.1, e.2.mapNumbers f) := by
  induction entries with
  | nil => rfl
  | cons e entries ih => exact congrArg ((e.1, e.2.mapNumbers f) :: ·) ih

theorem EachNode.mapNumbers {keys : List String → Prop} (h : EachNode keys number a)
    (hf : ∀ x, number x → number' (f x)) : EachNode keys number' (a.mapNumbers f) := by
  induction h with
  | null => exact .null
  | bool value => exact .bool value
  | number hx => exact .number (hf _ hx)
  | string s => exact .string s
  | array _ ih =>
    rw [Document.mapNumbers, mapItemNumbers_eq_map]
    exact .array (List.forall_mem_map.2 ih)
  | object hkeys _ ih =>
    rw [Document.mapNumbers, mapEntryNumbers_eq_map]
    refine .object ?_ (List.forall_mem_map.2 ih)
    rwa [List.map_map]

theorem find?_mapEntryNumbers (entries : List (String × Document)) (key : String) :
    find? (mapEntryNumbers f entries) key = (find? entries key).map (mapNumbers f) := by
  rw [mapEntryNumbers_eq_map]
  exact find?_mapValues (fun _ => mapNumbers f) entries key

mutual

/-- Changed documents are the same if the documents are, with the change made before numbers are
compared. -/
theorem sameBy_mapNumbers (a b : Document) :
    sameBy numbers (a.mapNumbers f) (b.mapNumbers f)
      = sameBy (fun x y => numbers (f x) (f y)) a b := by
  match a, b with
  | .array as, .array bs => exact sameItems_mapItemNumbers as bs
  | .object es, .object fs =>
    rw [mapNumbers, mapNumbers, sameBy, sameBy, sameEntries_mapEntryNumbers es fs,
      mapEntryNumbers_eq_map, mapEntryNumbers_eq_map, List.length_map, List.length_map]
  | .null, b | .bool _, b | .number _, b | .string _, b => cases b <;> rfl
  | .array _, .null | .array _, .bool _ | .array _, .number _ | .array _, .string _
  | .array _, .object _ | .object _, .null | .object _, .bool _ | .object _, .number _
  | .object _, .string _ | .object _, .array _ => rfl

theorem sameItems_mapItemNumbers (as bs : List Document) :
    sameItems numbers (mapItemNumbers f as) (mapItemNumbers f bs)
      = sameItems (fun x y => numbers (f x) (f y)) as bs := by
  match as, bs with
  | [], [] | [], _ :: _ | _ :: _, [] => rfl
  | a :: as, b :: bs =>
    rw [mapItemNumbers, mapItemNumbers, sameItems, sameItems, sameBy_mapNumbers a b,
      sameItems_mapItemNumbers as bs]

theorem sameEntries_mapEntryNumbers (es fs : List (String × Document)) :
    sameEntries numbers (mapEntryNumbers f es) (mapEntryNumbers f fs)
      = sameEntries (fun x y => numbers (f x) (f y)) es fs := by
  match es with
  | [] => rfl
  | (key, d) :: es =>
    rw [mapEntryNumbers, sameEntries, sameEntries, find?_mapEntryNumbers,
      sameEntries_mapEntryNumbers es fs]
    cases find? fs key with
    | none => rfl
    | some e =>
      rw [Option.map_some]
      dsimp only
      rw [sameBy_mapNumbers d e]

end

/-! ## Documents of whole numbers -/

/-- Each number is a whole number of 64 bits. -/
def OfWords : Document → Prop := EachNode List.Nodup Number.IsWord

/-- Each number is a whole number of at most 53 binary digits. -/
def OfShorts : Document → Prop := EachNode List.Nodup Number.IsShort

theorem equivalent_iff
    (hnumbers : ∀ x y, number x → number' y → x.toExtended.same y.toExtended = true → x = y)
    (ha : EachNode List.Nodup number a) (hb : EachNode List.Nodup number' b) :
    a.equivalent b = true ↔ SameUpToOrder a b :=
  ⟨sameUpToOrder_of_sameBy hnumbers ha hb,
    SameUpToOrder.sameBy Number.same_self (fun _ _ _ => Extended.same_trans)
      (ha.imp (fun _ hkeys => hkeys) fun _ _ => trivial)⟩

theorem equivalent_rounded (a b : Document) :
    a.rounded.equivalent b.rounded = a.equivalent b := by
  unfold rounded equivalent
  rw [sameBy_mapNumbers]
  simp only [Number.toExtended_rounded]

theorem equivalent_iff_rounded (ha : a.OfWords) (hb : b.OfWords) :
    a.equivalent b = true ↔ a.rounded.SameUpToOrder b.rounded := by
  have hrounded {d : Document} (hd : d.OfWords) :
      EachNode List.Nodup (fun x => ∃ w : Number, w.IsWord ∧ w.rounded = x) d.rounded :=
    hd.mapNumbers fun w hw => ⟨w, hw, rfl⟩
  rw [← equivalent_rounded]
  refine equivalent_iff ?_ (hrounded ha) (hrounded hb)
  rintro _ _ ⟨x, hx, rfl⟩ ⟨y, hy, rfl⟩
  exact Number.rounded_eq_of_same hx hy

theorem equivalent_iff_of_shorts (ha : a.OfWords) (hb : b.OfWords)
    (h : a.OfShorts ∨ b.OfShorts) : a.equivalent b = true ↔ a.SameUpToOrder b := by
  rcases h with h | h
  · exact equivalent_iff
      (fun x y hx hy hxy => (Number.eq_of_same hy hx (Extended.same_symm hxy)).symm) h hb
  · exact equivalent_iff (fun x y => Number.eq_of_same) ha h

end Document

open Document (SameUpToOrder)

theorem Operation.contains_eq_true_iff {b root : Document} {items : List Document}
    {others : List Argument} :
    Operation.contains ⟨.json (.array items) :: .json b :: others, root⟩ = .ok (.bool true)
      ↔ ∃ d ∈ items, d.equivalent b = true := by
  show Except.ok (Document.bool (items.any fun d => d.equivalent b)) = _ ↔ _
  rw [Except.ok.injEq, Document.bool.injEq, List.any_eq_true]

/-- Documents of whole numbers are told to be equal just if they are the same up to order with each
number rounded to a double, and an array to contain a document just if this is so of an item. So
whatever is the same up to order is told to be, and nothing else is where one of the documents has
only numbers of at most 53 binary digits. -/
theorem equality_rounds_whole_numbers (a b root : Document) (items : List Document)
    (others : List Argument) (ha : a.OfWords) (hb : b.OfWords) (hitems : ∀ d ∈ items, d.OfWords) :
    (Operation.Equal root a b ↔ a.rounded.SameUpToOrder b.rounded) ∧
    (Operation.contains ⟨.json (.array items) :: .json b :: others, root⟩ = .ok (.bool true)
      ↔ ∃ d ∈ items, d.rounded.SameUpToOrder b.rounded) ∧
    (a.SameUpToOrder b → Operation.Equal root a b) ∧
    ((∃ d ∈ items, d.SameUpToOrder b) →
      Operation.contains ⟨.json (.array items) :: .json b :: others, root⟩ = .ok (.bool true)) ∧
    (a.OfShorts ∨ b.OfShorts → (Operation.Equal root a b ↔ a.SameUpToOrder b)) ∧
    (b.OfShorts ∨ (∀ d ∈ items, d.OfShorts) →
      (Operation.contains ⟨.json (.array items) :: .json b :: others, root⟩ = .ok (.bool true)
        ↔ ∃ d ∈ items, d.SameUpToOrder b)) := by
  simp only [Operation.equal_iff, Operation.contains_eq_true_iff]
  have hreordered {d : Document} (hd : d.OfWords) (h : d.SameUpToOrder b) :
      d.equivalent b = true :=
    h.sameBy Number.same_self (fun _ _ _ => Extended.same_trans)
      (hd.imp (fun _ hkeys => hkeys) fun _ _ => trivial)
  refine ⟨Document.equivalent_iff_rounded ha hb, ?_, hreordered ha, ?_,
    Document.equivalent_iff_of_shorts ha hb, fun hshort => ?_⟩
  · exact exists_congr fun d => and_congr_right fun hd =>
      Document.equivalent_iff_rounded (hitems d hd) hb
  · rintro ⟨d, hd, hsame⟩
    exact ⟨d, hd, hreordered (hitems d hd) hsame⟩
  · refine exists_congr fun d => and_congr_right fun hd =>
      Document.equivalent_iff_of_shorts (hitems d hd) hb ?_
    exact hshort.elim .inr fun h => .inl (h d hd)

/-- Two objects with a number of 64 bits, and an array of short numbers. -/
theorem equality_rounds_whole_numbers_reordered :
    let a := Document.object [("id", .whole 9223372036854775809), ("n", .whole 1)]
    let b := Document.object [("n", .whole 1), ("id", .whole 9223372036854775809)]
    let items := [Document.whole 1, .whole 2]
    (a.OfWords ∧ b.OfWords ∧ ∀ d ∈ items, d.OfWords) ∧ a.SameUpToOrder b ∧
      (∀ d ∈ items, d.OfShorts) ∧ Operation.Equal .null a b ∧
      (Operation.contains ⟨[.json (.array items), .json b], .null⟩ = .ok (.bool true)
        ↔ ∃ d ∈ items, d.SameUpToOrder b) := by
  intro a b items
  have ha : a.OfWords := .object (by decide)
    (List.forall_mem_cons.2 ⟨.number rfl, List.forall_mem_singleton.2 (.number rfl)⟩)
  have hb : b.OfWords := .object (by decide)
    (List.forall_mem_cons.2 ⟨.number rfl, List.forall_mem_singleton.2 (.number rfl)⟩)
  have hitems : ∀ d ∈ items, d.OfWords :=
    List.forall_mem_cons.2 ⟨.number rfl, List.forall_mem_singleton.2 (.number rfl)⟩
  have hshort : ∀ d ∈ items, d.OfShorts :=
    List.forall_mem_cons.2 ⟨.number (by decide : (1 : Int).natAbs < 2 ^ 53),
      List.forall_mem_singleton.2 (.number (by decide : (2 : Int).natAbs < 2 ^ 53))⟩
  have hsame : a.SameUpToOrder b := .single (.here (List.Perm.swap ..))
  obtain ⟨-, -, hequal, -, -, hcontains⟩ :=
    equality_rounds_whole_numbers a b .null items [] ha hb hitems
  exact ⟨⟨ha, hb, hitems⟩, hsame, hshort, hequal hsame, hcontains (.inr hshort)⟩

/-- Two neighbours of 54 binary digits that round to one double are told to be equal. -/
theorem neighbours_are_told_equal :
    let a := Document.whole 9007199254740993
    let b := Document.whole 9007199254740992
    a.OfWords ∧ b.OfWords ∧ ¬ a.SameUpToOrder b ∧ Operation.Equal .null a b ∧
      Operation.contains ⟨[.json (.array [a]), .json b], .null⟩ = .ok (.bool true) := by
  intro a b
  refine ⟨.number rfl, .number rfl, fun h => ?_, rfl, rfl⟩
  exact absurd h.eq_of_number (by decide)

end Reshape
