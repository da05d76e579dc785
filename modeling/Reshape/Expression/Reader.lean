import Reshape.Expression.Basic
import Reshape.Expression.Scan
import Reshape.Selector.Reader

/-!
# Reading expressions

An expression is a term or several with bars between them; a term is recognized
by how it starts. `Expression.read` reads a whole text and reports, with the
text, the first fault it meets.
-/

namespace Reshape

namespace Expression

structure ReadError where
  text : String
  fault : Fault
  deriving DecidableEq, Repr

def ReadError.message (e : ReadError) : String :=
  "Expression parse error in '" ++ e.text ++ "': " ++ e.fault.message

/-! ## Terms without parts -/

def unescape (c : Char) : Char :=
  if c = 'n' then '\n' else if c = 't' then '\t' else if c = 'r' then '\r' else c

/-- The characters up to the closing quote, which ends the text. -/
def stringBody (quote : Char) : List Char → Except Fault (List Char)
  | [] => .error .openString
  | ['\\'] => .error .openString
  | '\\' :: c :: cs => (stringBody quote cs).map (unescape c :: ·)
  | c :: cs =>
    if c = quote then if cs.isEmpty then .ok [] else .error (.textAfterString cs)
    else (stringBody quote cs).map (c :: ·)

/-- Whole numbers in an expression are signed and have 64 bits. -/
def fitsSigned (n : Int) : Bool := -(Nat.pow 2 63 : Nat) ≤ n && n < (Nat.pow 2 63 : Nat)

/-- The number that makes up a text; none if the text is not a number. -/
def number? (cs : List Char) : Option (Except Fault Number) :=
  let (n, rest) := Numeral.scan cs
  if rest.isEmpty && n.isLoose then
    if n.isWhole && fitsSigned n.toInt then some (.ok (.whole n.toInt))
    else match n.toDecimal.toExtended with
      | .finite d => some (.ok (.double d))
      | _ => some (.error (.numberOutOfRange cs))
  else none

def identifier? : List Char → Option (List Char × List Char)
  | [] => none
  | c :: cs =>
    if Text.isIdentifierStart c then
      some (c :: cs.takeWhile Text.isIdentifierRest, cs.dropWhile Text.isIdentifierRest)
    else none

inductive Head where
  | done (e : Expression)
  | application (function : String) (arguments : List Char)

/-- An identifier alone, or the call of a function with the text of its arguments. -/
def nameOrCall (cs : List Char) : Except Fault Head :=
  match identifier? cs with
  | none => .error (.unrecognized cs)
  | some (id, rest) =>
    if rest.isEmpty then .ok (.done (.name (String.ofList id)))
    else match Text.trimStart rest with
      | '(' :: after =>
        match Scan.close ⟨.plain, 1⟩ after with
        | none => .error (.openCall (String.ofList id))
        | some (inner, behind) =>
          if behind.isEmpty then .ok (.application (String.ofList id) (Text.trim inner))
          else .error (.textAfterCall (String.ofList id) behind)
      | _ => .error (.unrecognized cs)

/-- The term that makes up a text, its arguments still unread. -/
def head (cs : List Char) : Except Fault Head :=
  match cs with
  | [] => .error .emptyTerm
  | '\'' :: body => (stringBody '\'' body).map fun s => .done (.literal (.string (String.ofList s)))
  | '"' :: body => (stringBody '"' body).map fun s => .done (.literal (.string (String.ofList s)))
  | ['t', 'r', 'u', 'e'] => .ok (.done (.literal (.bool true)))
  | ['f', 'a', 'l', 's', 'e'] => .ok (.done (.literal (.bool false)))
  | ['n', 'u', 'l', 'l'] => .ok (.done (.literal .null))
  | '$' :: path =>
    match Selector.read (String.ofList ('$' :: path)) with
    | .ok s => .ok (.done (.selector s))
    | .error e => .error (.badSelector e)
  | cs =>
    match number? cs with
    | some (.ok n) => .ok (.done (.literal (.number n)))
    | some (.error fault) => .error fault
    | none => nameOrCall cs

theorem length_dropWhile_le {α : Type} (p : α → Bool) (l : List α) :
    (l.dropWhile p).length ≤ l.length :=
  (List.dropWhile_sublist p).length_le

theorem length_lt_of_nameOrCall {cs arguments : List Char} {function : String}
    (h : nameOrCall cs = .ok (.application function arguments)) :
    arguments.length < cs.length := by
  unfold nameOrCall at h
  split at h
  · cases h
  · rename_i id rest hi
    have hr : rest.length ≤ cs.length := by
      unfold identifier? at hi
      split at hi
      · cases hi
      · split at hi
        · cases hi
          have := length_dropWhile_le Text.isIdentifierRest
          simp only [List.length_cons]
          grind
        · cases hi
    split at h
    · cases h
    · split at h
      · rename_i after ht
        have hl := length_dropWhile_le Text.isBlank rest
        have : Text.trimStart rest = rest.dropWhile Text.isBlank := rfl
        rw [← this, ht, List.length_cons] at hl
        split at h
        · cases h
        · rename_i inner behind hc
          have hc := Scan.length_lt_of_close hc
          have := Scan.length_trim_le inner
          split at h
          · cases h
            omega
          · cases h
      · cases h

theorem length_lt_of_head {cs arguments : List Char} {function : String}
    (h : head cs = .ok (.application function arguments)) : arguments.length < cs.length := by
  unfold head at h
  split at h
  · cases h
  · rename_i body
    cases hs : stringBody '\'' body <;> simp [hs, Except.map] at h
  · rename_i body
    cases hs : stringBody '"' body <;> simp [hs, Except.map] at h
  · cases h
  · cases h
  · cases h
  · split at h <;> cases h
  · split at h
    · cases h
    · cases h
    · exact length_lt_of_nameOrCall h

/-! ## Terms and pipes -/

mutual

def readTerm (cs : List Char) : Except Fault Expression :=
  match h : head cs with
  | .error fault => .error fault
  | .ok (.done e) => .ok e
  | .ok (.application function arguments) =>
    have : arguments.length < cs.length := length_lt_of_head h
    if arguments.isEmpty then .ok (.call function [])
    else match hs : Scan.split ',' arguments with
      | .error fault => .error fault
      | .ok parts => do
        let es ← parts.attach.mapM fun ⟨part, hp⟩ =>
          have : part.length ≤ arguments.length := Scan.length_le_of_mem_split hs hp
          if part.isEmpty then throw (.emptyArgument function) else readPipe part
        return .call function es
termination_by (cs.length, 0)
decreasing_by exact Prod.Lex.left _ _ (by omega)

def readPipe (cs : List Char) : Except Fault Expression :=
  if cs.isEmpty then .error .emptyExpression
  else match h : Scan.split '|' cs with
    | .error fault => .error fault
    | .ok parts => do
      let es ← parts.attach.mapM fun ⟨part, hp⟩ =>
        have : part.length ≤ cs.length := Scan.length_le_of_mem_split h hp
        if part.isEmpty ∧ 1 < parts.length then throw .emptyStep else readTerm part
      match es with
      | [e] => return e
      | es => return .pipe es
termination_by (cs.length, 1)
decreasing_by
  rcases Nat.lt_or_eq_of_le this with h | h
  · exact Prod.Lex.left _ _ h
  · rw [h]
    exact Prod.Lex.right _ (by decide)

end

def read (text : String) : Except ReadError Expression :=
  match readPipe (Text.trim text.toList) with
  | .ok e => .ok e
  | .error fault => .error ⟨text, fault⟩

end Expression

end Reshape
