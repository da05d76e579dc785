import Reshape.Expression.Reader
import Reshape.Proofs.Trimming

/-!
# The grammar of expressions

`Grammar.Derives` relates a text to the expression that it writes, without saying how
to read it:

    Expr  := Term ('|' Term)*
    Term  := String | 'true' | 'false' | 'null' | Selector | Number | Name | Call
    Call  := Name '(' [Expr (',' Expr)*] ')'

Blanks may stand around the bars and the commas, inside the parentheses of a call and
before them.
-/

namespace Reshape

namespace Expression

namespace Grammar

open Text (Blanks)

/-! ## Words -/

/-- An ASCII letter or an underscore, then letters and numeric characters of all scripts
and underscores. -/
inductive Name : List Char → Prop where
  | mk {c : Char} {cs : List Char} (hc : Text.isIdentifierStart c = true)
      (hcs : ∀ x ∈ cs, Text.isIdentifierRest x = true) : Name (c :: cs)

inductive Constant : List Char → Literal → Prop where
  | true : Constant ['t', 'r', 'u', 'e'] (.bool true)
  | false : Constant ['f', 'a', 'l', 's', 'e'] (.bool false)
  | null : Constant ['n', 'u', 'l', 'l'] .null

inductive Escape : Char → Char → Prop where
  | lineBreak : Escape 'n' '\n'
  | tab : Escape 't' '\t'
  | carriageReturn : Escape 'r' '\r'
  | other {c : Char} (h : c ∉ ['n', 't', 'r']) : Escape c c

inductive Quoted (quote : Char) : List Char → List Char → Prop where
  | nil : Quoted quote [] []
  | plain {c : Char} {body s : List Char} (hq : c ≠ quote) (hb : c ≠ '\\')
      (h : Quoted quote body s) : Quoted quote (c :: body) (c :: s)
  | escaped {c x : Char} {body s : List Char} (hx : Escape c x) (h : Quoted quote body s) :
      Quoted quote ('\\' :: c :: body) (x :: s)

/-! ## Numbers -/

def AllDigits (cs : List Char) : Prop := ∀ c ∈ cs, Digits.isDigit c = true

inductive Sign : List Char → Option Char → Prop where
  | none : Sign [] none
  | plus : Sign ['+'] (some '+')
  | minus : Sign ['-'] (some '-')

inductive Fraction : List Char → Option (List Char) → Prop where
  | none : Fraction [] none
  | some {ds : List Char} (h : AllDigits ds) : Fraction ('.' :: ds) (some ds)

inductive Exponent : List Char → Option (Option Char × List Char) → Prop where
  | none : Exponent [] none
  | some {c : Char} {s ds : List Char} {sign : Option Char} (hc : c = 'e' ∨ c = 'E')
      (hs : Sign s sign) (hd : AllDigits ds) (hne : ds ≠ []) :
      Exponent (c :: (s ++ ds)) (some (sign, ds))

/-- The text of a numeral: a sign, digits or a fraction or both, an exponent. Sign and
exponent may be missing, and one side of the point may be empty. -/
inductive Spells : List Char → Numeral → Prop where
  | mk {s w f x : List Char} {sign : Option Char} {fraction : Option (List Char)}
      {exponent : Option (Option Char × List Char)} (hs : Sign s sign) (hw : AllDigits w)
      (hf : Fraction f fraction) (hx : Exponent x exponent)
      (hne : w ≠ [] ∨ ∃ ds, fraction = some ds ∧ ds ≠ []) :
      Spells (s ++ (w ++ (f ++ x))) ⟨sign, w, fraction, exponent⟩

/-- The whole number that a numeral without point and exponent writes, in 64 bits with
sign. -/
inductive IsWord (n : Numeral) : Int → Prop where
  | mk (hf : n.fraction = none) (hx : n.exponent = none)
      (hlow : -(Nat.pow 2 63 : Nat) ≤ n.toInt) (hhigh : n.toInt < (Nat.pow 2 63 : Nat)) :
      IsWord n n.toInt

/-- The text of a number: of a signed word, or else of a finite double. -/
inductive IsNumber : List Char → Number → Prop where
  | word {cs : List Char} {n : Numeral} {k : Int} (hn : Spells cs n) (hk : IsWord n k) :
      IsNumber cs (.whole k)
  | double {cs : List Char} {n : Numeral} {d : Double} (hn : Spells cs n)
      (hk : ∀ k, ¬ IsWord n k) (hd : n.toDecimal.toExtended = .finite d) :
      IsNumber cs (.double d)

/-! ## Trees -/

/-- One term is that term; two and more are the steps of a pipe. -/
def ofSteps : List Expression → Expression
  | [e] => e
  | es => .pipe es

mutual

/-- A text that is one term. -/
inductive Term : List Char → Expression → Prop where
  | string {quote : Char} {body s : List Char} (hq : quote = '\'' ∨ quote = '"')
      (h : Quoted quote body s) :
      Term (quote :: (body ++ [quote])) (.literal (.string (String.ofList s)))
  | constant {cs : List Char} {value : Literal} (h : Constant cs value) :
      Term cs (.literal value)
  -- the source of a path has lost the blanks around the text that it was read from
  | selector {text : String} {path : Selector} (h : Selector.read text = .ok path) :
      Term path.source.toList (.selector path)
  | number {cs : List Char} {n : Number} (h : IsNumber cs n) : Term cs (.literal (.number n))
  | name {cs : List Char} (h : Name cs) (hc : ∀ value, ¬ Constant cs value) :
      Term cs (.name (String.ofList cs))
  | call {f u v : List Char} (hf : Name f) (hu : Blanks u) (hv : Blanks v) :
      Term (f ++ (u ++ '(' :: (v ++ [')']))) (.call (String.ofList f) [])
  | callOn {f u v cs w : List Char} {es : List Expression} (hf : Name f) (hu : Blanks u)
      (hv : Blanks v) (h : Items cs es) (hw : Blanks w) :
      Term (f ++ (u ++ '(' :: (v ++ (cs ++ w) ++ [')']))) (.call (String.ofList f) es)

/-- A text of terms with bars between them. -/
inductive Steps : List Char → List Expression → Prop where
  | one {cs : List Char} {e : Expression} (h : Term cs e) : Steps cs [e]
  | more {cs v w ds : List Char} {e : Expression} {es : List Expression} (h : Term cs e)
      (hv : Blanks v) (hw : Blanks w) (ht : Steps ds es) :
      Steps (cs ++ (v ++ '|' :: (w ++ ds))) (e :: es)

inductive Items : List Char → List Expression → Prop where
  | one {cs : List Char} {es : List Expression} (h : Steps cs es) : Items cs [ofSteps es]
  | more {cs v w ds : List Char} {es fs : List Expression} (h : Steps cs es)
      (hv : Blanks v) (hw : Blanks w) (ht : Items ds fs) :
      Items (cs ++ (v ++ ',' :: (w ++ ds))) (ofSteps es :: fs)

end

def Derives (cs : List Char) (e : Expression) : Prop := ∃ es, Steps cs es ∧ e = ofSteps es

end Grammar

end Expression

end Reshape
