import Reshape.Calendar.Date
import Reshape.Text.Search

/-!
# Writing moments

A layout is a text with tokens for the parts of a moment; what is no token is
copied.
-/

namespace Reshape

namespace Moment

def padded (width n : Nat) : List Char :=
  List.replicate (width - (Digits.ofNat n).length) '0' ++ Digits.ofNat n

/-- A year in at least four places, of which a sign takes one. -/
def yearText (year : Int) : List Char :=
  if year < 0 then '-' :: padded 3 year.natAbs else padded 4 year.natAbs

def tokens (m : Moment) : List (List Char × List Char) := [
  (['Y', 'Y', 'Y', 'Y'], yearText m.date.year),
  (['M', 'M'], padded 2 m.date.month),
  (['D', 'D'], padded 2 m.date.day),
  (['h', 'h'], padded 2 m.hour),
  (['m', 'm'], padded 2 m.minute),
  (['s', 's'], padded 2 m.second)]

/-- The part for the token at the start of a text, and the rest. -/
def token? (m : Moment) (cs : List Char) : Option (List Char × List Char) :=
  m.tokens.findSome? fun (token, part) => (Text.after? token cs).map fun rest => (part, rest)

theorem length_lt_of_token? {m : Moment} {cs part rest : List Char}
    (h : m.token? cs = some (part, rest)) : rest.length < cs.length := by
  simp only [token?, tokens, List.findSome?_eq_some_iff] at h
  obtain ⟨_, ⟨token, p⟩, _, hl, hf, _⟩ := h
  obtain ⟨r, hr, he⟩ := Option.map_eq_some_iff.1 hf
  cases he
  have hm : (token, p) ∈ m.tokens := by
    rw [tokens, hl]
    simp
  have ht : 0 < token.length := by
    simp only [tokens, List.mem_cons, Prod.mk.injEq, List.not_mem_nil, or_false] at hm
    rcases hm with h | h | h | h | h | h <;> simp [h.1]
  simp only [Text.after?_eq_some_iff.1 hr, List.length_append]
  omega

def render (m : Moment) (layout : List Char) : List Char :=
  match h : m.token? layout with
  | some (part, rest) =>
    have : rest.length < layout.length := length_lt_of_token? h
    part ++ m.render rest
  | none =>
    match layout with
    | [] => []
    | c :: cs => c :: m.render cs
termination_by layout.length

def defaultLayout : List Char := ['Y', 'Y', 'Y', 'Y', '-', 'M', 'M', '-', 'D', 'D']

end Moment

end Reshape
