import Reshape.Document.Basic

/-!
# Positions in documents

A position is the branches that lead from the root to a node. A `Place` is a
node together with its position, so that two places of equal content are still
told apart.
-/

namespace Reshape

inductive Branch where
  | member (key : String)
  | item (index : Nat)
  deriving DecidableEq, Repr

def Branch.text : Branch → String
  | .member key => "." ++ key
  | .item index => "[" ++ decimalText index ++ "]"

/-- The branches from the root down to a node. -/
abbrev Position := List Branch

def Position.textFrom (start : String) (p : Position) : String :=
  p.foldl (fun s b => s ++ b.text) start

def Position.text (p : Position) : String := Position.textFrom "$" p

namespace Document

def child? : Document → Branch → Option Document
  | .object entries, .member key => find? entries key
  | .array items, .item index => items[index]?
  | _, _ => none

def at? (d : Document) : Position → Option Document
  | [] => some d
  | b :: p => (d.child? b).bind fun c => c.at? p

theorem size_lt_of_child? {d c : Document} {b : Branch} (h : d.child? b = some c) :
    c.size < d.size := by
  cases d <;> cases b <;> simp only [child?, reduceCtorEq] at h
  · exact size_lt_of_mem (List.mem_of_getElem? h)
  · exact size_lt_of_find? h

theorem at?_append (d : Document) (p q : Position) :
    d.at? (p ++ q) = (d.at? p).bind fun c => c.at? q := by
  induction p generalizing d with
  | nil => rfl
  | cons b p ih => cases h : d.child? b <;> simp [at?, h, ih]

end Document

/-- A node of a document and where it stands. -/
structure Place where
  node : Document
  position : Position
  deriving DecidableEq, Repr

namespace Place

def root (d : Document) : Place := ⟨d, []⟩

def child? (p : Place) (b : Branch) : Option Place :=
  (p.node.child? b).map fun d => ⟨d, p.position ++ [b]⟩

def items (p : Place) (ds : List Document) : List Place :=
  ds.mapIdx fun i d => ⟨d, p.position ++ [.item i]⟩

/-! ## Places below a place -/

/-- A path leads down from the first place to the second; it may be empty. -/
def Reaches (p q : Place) : Prop :=
  ∃ path, p.node.at? path = some q.node ∧ q.position = p.position ++ path

theorem Reaches.refl (p : Place) : p.Reaches p := ⟨[], rfl, (List.append_nil _).symm⟩

theorem Reaches.trans {p q r : Place} (h₁ : p.Reaches q) (h₂ : q.Reaches r) : p.Reaches r := by
  obtain ⟨s, hs, hq⟩ := h₁
  obtain ⟨t, ht, hr⟩ := h₂
  refine ⟨s ++ t, ?_, by rw [hr, hq, List.append_assoc]⟩
  rw [Document.at?_append, hs]
  exact ht

theorem Reaches.of_child {p : Place} {b : Branch} {d : Document} (h : p.node.child? b = some d) :
    p.Reaches ⟨d, p.position ++ [b]⟩ := by
  refine ⟨[b], ?_, rfl⟩
  simp only [Document.at?, h]
  rfl

/-- The place that a position leads to is the only one of that position. -/
theorem Reaches.eq_of_position {d : Document} {p q : Place}
    (hp : (root d).Reaches p) (hq : (root d).Reaches q)
    (h : p.position = q.position) : p = q := by
  obtain ⟨path, hn, hpos⟩ := hp
  obtain ⟨path', hn', hpos'⟩ := hq
  obtain ⟨node, position⟩ := p
  obtain ⟨node', position'⟩ := q
  dsimp only at hn hpos hn' hpos' h
  have hpath : path = path' := by
    rw [hpos, hpos'] at h
    exact h
  subst hpath h
  rw [hn] at hn'
  rw [Option.some.inj hn']

/-- What is true of each branch down is true of a path. -/
theorem Reaches.eq_or_lt {measure : Document → Nat}
    (hm : ∀ {d c : Document} {b : Branch}, d.child? b = some c → measure c < measure d)
    {p q : Place} (h : p.Reaches q) : q = p ∨ measure q.node < measure p.node := by
  obtain ⟨path, hn, hp⟩ := h
  induction path generalizing p with
  | nil =>
    left
    obtain ⟨node, position⟩ := q
    simp only [Document.at?, Option.some.injEq] at hn
    simp only [List.append_nil] at hp
    rw [← hn, hp]
  | cons b path ih =>
    right
    simp only [Document.at?, Option.bind_eq_some_iff] at hn
    obtain ⟨c, hc, hn⟩ := hn
    have hlt := hm hc
    rcases ih (p := ⟨c, p.position ++ [b]⟩) hn (by simp [hp]) with rfl | h
    · exact hlt
    · exact Nat.lt_trans h hlt

theorem Reaches.eq_or_size_lt {p q : Place} (h : p.Reaches q) :
    q = p ∨ q.node.size < p.node.size :=
  h.eq_or_lt Document.size_lt_of_child?

theorem reaches_of_mem_items {p q : Place} {ds : List Document} (hp : p.node = .array ds)
    (hq : q ∈ p.items ds) : p.Reaches q := by
  obtain ⟨i, hi, rfl⟩ := List.mem_mapIdx.1 hq
  exact Reaches.of_child (by rw [hp]; exact List.getElem?_eq_getElem hi)

end Place

end Reshape
