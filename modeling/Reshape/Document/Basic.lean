import Reshape.Number

/-!
# Documents

A document is a JSON value. Objects keep the order of their entries, and no
operation of the library gives an object two entries of one key.
-/

namespace Reshape

inductive Document where
  | null
  | bool (value : Bool)
  | number (value : Number)
  | string (value : String)
  | array (items : List Document)
  | object (entries : List (String × Document))
  deriving Repr, Inhabited

namespace Document

inductive Kind where
  | null | boolean | number | string | array | object
  deriving DecidableEq, Repr

def Kind.name : Kind → String
  | null => "null"
  | boolean => "boolean"
  | number => "number"
  | string => "string"
  | array => "array"
  | object => "object"

def kind : Document → Kind
  | .null => .null
  | .bool _ => .boolean
  | .number _ => .number
  | .string _ => .string
  | .array _ => .array
  | .object _ => .object

def whole (n : Int) : Document := .number (.whole n)

def ofNat (n : Nat) : Document := .number (.whole n)

/-- A calculated value as a document; null if it is not finite. -/
def ofExtended (x : Extended) : Document :=
  match x.toNumber? with
  | some n => .number n
  | none => .null

/-! ## Entries -/

def find? (entries : List (String × Document)) (key : String) : Option Document :=
  (entries.find? fun e => e.1 == key).map Prod.snd

def field? (key : String) : Document → Option Document
  | .object entries => find? entries key
  | _ => none

/-- Puts a value under a key: in place of the old one, or at the end. -/
def put (entries : List (String × Document)) (key : String) (value : Document) :
    List (String × Document) :=
  match entries with
  | [] => [(key, value)]
  | (k, v) :: rest => if k = key then (k, value) :: rest else (k, v) :: put rest key value

/-! ## Size -/

mutual

def size : Document → Nat
  | .array items => 1 + itemSizes items
  | .object entries => 1 + entrySizes entries
  | _ => 1

def itemSizes : List Document → Nat
  | [] => 0
  | d :: rest => d.size + itemSizes rest

def entrySizes : List (String × Document) → Nat
  | [] => 0
  | (_, d) :: rest => d.size + entrySizes rest

end

theorem size_le_itemSizes {d : Document} {items : List Document} (h : d ∈ items) :
    d.size ≤ itemSizes items := by
  induction items with
  | nil => simp at h
  | cons e rest ih =>
    rcases List.mem_cons.1 h with rfl | h
    · simp [itemSizes]
    · have := ih h
      simp only [itemSizes]
      omega

theorem size_le_entrySizes {e : String × Document} {entries : List (String × Document)}
    (h : e ∈ entries) : e.2.size ≤ entrySizes entries := by
  induction entries with
  | nil => simp at h
  | cons f rest ih =>
    rcases List.mem_cons.1 h with rfl | h
    · simp [entrySizes]
    · have := ih h
      simp only [entrySizes]
      omega

theorem mem_of_find? {entries : List (String × Document)} {key : String} {d : Document}
    (h : find? entries key = some d) : (key, d) ∈ entries := by
  simp only [find?, Option.map_eq_some_iff] at h
  obtain ⟨⟨k, v⟩, hf, rfl⟩ := h
  have hk : k = key := by simpa using List.find?_some hf
  exact hk ▸ List.mem_of_find?_eq_some hf

/-- Under a key stands what the value there is replaced by. -/
theorem find?_mapValues (g : String → Document → Document)
    (es : List (String × Document)) (key : String) :
    find? (es.map fun e => (e.1, g e.1 e.2)) key = (find? es key).map (g key) := by
  unfold find?
  rw [List.find?_map, Option.map_map, Option.map_map]
  show (es.find? fun e => e.1 == key).map (fun e => g e.1 e.2)
    = (es.find? fun e => e.1 == key).map fun e => g key e.2
  cases h : es.find? fun e => e.1 == key with
  | none => rfl
  | some e =>
    have hkey : e.1 = key := by simpa using List.find?_some h
    rw [Option.map_some, Option.map_some, hkey]

theorem size_lt_of_find? {entries : List (String × Document)} {key : String} {d : Document}
    (h : find? entries key = some d) : d.size < (Document.object entries).size := by
  have : d.size ≤ entrySizes entries := size_le_entrySizes (mem_of_find? h)
  simp only [size]
  omega

theorem size_lt_of_mem {items : List Document} {d : Document} (h : d ∈ items) :
    d.size < (Document.array items).size := by
  have := size_le_itemSizes h
  simp only [size]
  omega

/-! ## Decidable equality -/

mutual

def decideEq : (a b : Document) → Decidable (a = b)
  | .null, .null => isTrue rfl
  | .bool a, .bool b =>
    if h : a = b then isTrue (h ▸ rfl) else isFalse fun e => h (Document.bool.inj e)
  | .number a, .number b =>
    if h : a = b then isTrue (h ▸ rfl) else isFalse fun e => h (Document.number.inj e)
  | .string a, .string b =>
    if h : a = b then isTrue (h ▸ rfl) else isFalse fun e => h (Document.string.inj e)
  | .array a, .array b =>
    match decideItemsEq a b with
    | isTrue h => isTrue (h ▸ rfl)
    | isFalse h => isFalse fun e => h (Document.array.inj e)
  | .object a, .object b =>
    match decideEntriesEq a b with
    | isTrue h => isTrue (h ▸ rfl)
    | isFalse h => isFalse fun e => h (Document.object.inj e)
  | .null, .bool _ | .null, .number _ | .null, .string _ | .null, .array _ | .null, .object _
  | .bool _, .null | .bool _, .number _ | .bool _, .string _ | .bool _, .array _
  | .bool _, .object _ | .number _, .null | .number _, .bool _ | .number _, .string _
  | .number _, .array _ | .number _, .object _ | .string _, .null | .string _, .bool _
  | .string _, .number _ | .string _, .array _ | .string _, .object _ | .array _, .null
  | .array _, .bool _ | .array _, .number _ | .array _, .string _ | .array _, .object _
  | .object _, .null | .object _, .bool _ | .object _, .number _ | .object _, .string _
  | .object _, .array _ => isFalse nofun

def decideItemsEq : (a b : List Document) → Decidable (a = b)
  | [], [] => isTrue rfl
  | [], _ :: _ | _ :: _, [] => isFalse nofun
  | a :: as, b :: bs =>
    match decideEq a b, decideItemsEq as bs with
    | isTrue h, isTrue t => isTrue (h ▸ t ▸ rfl)
    | isFalse h, _ => isFalse fun e => h (List.cons.inj e).1
    | _, isFalse t => isFalse fun e => t (List.cons.inj e).2

def decideEntriesEq : (a b : List (String × Document)) → Decidable (a = b)
  | [], [] => isTrue rfl
  | [], _ :: _ | _ :: _, [] => isFalse nofun
  | (k, a) :: as, (l, b) :: bs =>
    match decEq k l, decideEq a b, decideEntriesEq as bs with
    | isTrue g, isTrue h, isTrue t => isTrue (g ▸ h ▸ t ▸ rfl)
    | isFalse g, _, _ => isFalse fun e => g (Prod.mk.inj (List.cons.inj e).1).1
    | _, isFalse h, _ => isFalse fun e => h (Prod.mk.inj (List.cons.inj e).1).2
    | _, _, isFalse t => isFalse fun e => t (List.cons.inj e).2

end

instance : DecidableEq Document := decideEq

end Document

end Reshape
