import Reshape.Selector.Basic

/-!
# Reading selectors

`Selector.readStep?` takes the step at the start of a text, as long as it can be.
`Selector.read` reads steps to the end of the text; a text where no step can be
read is refused with the byte offset and the fault there.
-/

namespace Reshape

namespace Selector

/-- An index has to fit 64 bits. -/
def indexLimit : Nat := Nat.pow 2 64

def readStep? : List Char → Option (Step × List Char)
  | '.' :: cs =>
    if (cs.takeWhile Text.isNameChar).isEmpty then none
    else some (.property (String.ofList (cs.takeWhile Text.isNameChar)),
      cs.dropWhile Text.isNameChar)
  | '[' :: '*' :: ']' :: cs => some (.every, cs)
  | '[' :: cs =>
    match cs.takeWhile Digits.isDigit, cs.dropWhile Digits.isDigit with
    | d :: ds, ']' :: rest =>
      if Digits.value (d :: ds) < indexLimit then some (.index (Digits.value (d :: ds)), rest)
      else none
    | _, _ => none
  | _ => none

theorem length_lt_of_readStep? {cs rest : List Char} {s : Step}
    (h : readStep? cs = some (s, rest)) : rest.length < cs.length := by
  unfold readStep? at h
  split at h
  · rename_i tail
    have := (List.dropWhile_sublist (l := tail) Text.isNameChar).length_le
    split at h
    · simp at h
    · simp only [Option.some.injEq, Prod.mk.injEq] at h
      rw [← h.2, List.length_cons]
      omega
  · simp only [Option.some.injEq, Prod.mk.injEq] at h
    simp only [← h.2, List.length_cons]
    omega
  · rename_i tail _
    have hd := (List.dropWhile_sublist (l := tail) Digits.isDigit).length_le
    split at h
    · rename_i hc
      rw [hc, List.length_cons] at hd
      split at h
      · simp only [Option.some.injEq, Prod.mk.injEq] at h
        rw [← h.2, List.length_cons]
        omega
      · simp at h
    · simp at h
  · simp at h

def faultAt : List Char → Fault
  | ['.'] => .nameAtEnd
  | '.' :: c :: _ => .nameBefore c
  | '[' :: cs =>
    if ']' ∈ cs then
      match cs.takeWhile (· ≠ ']') with
      | [] => .emptyBracket
      | content => .bracketContent content
    else .openBracket
  | c :: _ => .unexpected c
  | [] => .noRoot

/-- The steps that make up a text, or the text left where none can be read. -/
def readSteps (cs : List Char) : Except (List Char) (List Step) :=
  if cs.isEmpty then .ok []
  else match h : readStep? cs with
    | none => .error cs
    | some (s, rest) =>
      have : rest.length < cs.length := length_lt_of_readStep? h
      match readSteps rest with
      | .ok steps => .ok (s :: steps)
      | .error left => .error left
termination_by cs.length

def read (text : String) : Except Error Selector :=
  let cs := Text.trim text.toList
  let source := String.ofList cs
  match cs with
  | '$' :: path =>
    match readSteps path with
    | .ok steps => .ok ⟨source, steps⟩
    | .error left =>
      .error (.unreadable source (Text.byteCount cs - Text.byteCount left) (faultAt left))
  | _ => .error (.unreadable source 0 .noRoot)

def looksLikeOne (text : String) : Bool := (Text.trimStart text.toList).head? == some '$'

end Selector

end Reshape
