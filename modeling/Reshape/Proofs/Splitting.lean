import Reshape.Expression.Scan
import Reshape.Proofs.Results
import Reshape.Proofs.Trimming
import Reshape.Text.Search

/-!
# Splitting and its reverse

`Scan.run?` follows the quotes and parentheses of a whole text, `Scan.skim?` stops at
a separator that counts. What a scan passes over on its own it passes over within
parentheses too, `skim?_nested`, so that the two scanners of the reader agree.
`Separated` is the text of parts with separators between them: splitting it gives the
parts, `split_of_separated`, and only such a text is split into them,
`separated_of_split`.
-/

namespace Reshape

theorem Text.join_cons (separator part : List Char) {parts : List (List Char)} (h : parts ≠ []) :
    join separator (part :: parts) = part ++ (separator ++ join separator parts) := by
  obtain ⟨next, rest, rfl⟩ := List.exists_cons_of_ne_nil h
  simp [join]

theorem Text.not_mem_of_all_not {p : Char → Bool} {cs : List Char}
    (hp : (cs.all fun c => !p c) = true) {c : Char} (h : p c = true) : c ∉ cs := by
  intro hc
  have hnot := List.all_eq_true.1 hp c hc
  rw [h] at hnot
  cases hnot

namespace Scan

open Text (Blanks Tight)

variable {separator : Char} {s t : Scan} {cs : List Char}

/-- After all characters of a text; none if a parenthesis among them closes nothing. -/
def run? (s : Scan) (cs : List Char) : Option Scan := cs.foldlM next? s

/-- After all characters of a text; none also if a separator among them counts. -/
def skim? (separator : Char) (s : Scan) : List Char → Option Scan
  | [] => some s
  | c :: cs =>
    if c = separator ∧ s.isTop then none else (s.next? c).bind fun t => t.skim? separator cs

theorem run?_cons (s : Scan) (c : Char) (cs : List Char) :
    s.run? (c :: cs) = (s.next? c).bind fun t => t.run? cs := rfl

theorem run?_append (s : Scan) (as bs : List Char) :
    s.run? (as ++ bs) = (s.run? as).bind fun t => t.run? bs :=
  List.foldlM_append

theorem skim?_append (separator : Char) (s : Scan) (as bs : List Char) :
    s.skim? separator (as ++ bs) = (s.skim? separator as).bind fun t => t.skim? separator bs := by
  induction as generalizing s with
  | nil => rfl
  | cons a as ih =>
    simp only [List.cons_append, skim?]
    split
    · rfl
    · cases s.next? a with
      | none => rfl
      | some t => exact ih t

theorem run?_of_skim? (h : s.skim? separator cs = some t) : s.run? cs = some t := by
  induction cs generalizing s with
  | nil => exact h
  | cons c cs ih =>
    simp only [skim?] at h
    split at h
    · cases h
    · obtain ⟨u, hu, h⟩ := Option.bind_eq_some_iff.1 h
      rw [run?_cons, hu]
      exact ih h

/-! ## Within parentheses -/

def nested (s : Scan) : Scan := ⟨s.quoting, s.depth + 1⟩

theorem isTop_nested (s : Scan) : s.nested.isTop = false := by
  simp [isTop, nested]

/-- What follows does not depend on the depth, unless a parenthesis closes nothing. -/
theorem next?_nested {c : Char} (h : s.next? c = some t) : s.nested.next? c = some t.nested := by
  obtain ⟨quoting, depth⟩ := s
  unfold nested
  cases quoting with
  | afterBackslash q =>
    cases h
    rfl
  | within q =>
    unfold next? at h ⊢
    dsimp only at h ⊢
    by_cases hb : c = '\\'
    · rw [if_pos hb] at h ⊢
      cases h
      rfl
    · rw [if_neg hb] at h ⊢
      by_cases hq : c = q
      · rw [if_pos hq] at h ⊢
        cases h
        rfl
      · rw [if_neg hq] at h ⊢
        cases h
        rfl
  | plain =>
    unfold next? at h ⊢
    dsimp only at h ⊢
    by_cases hq : c = '\'' ∨ c = '"'
    · rw [if_pos hq] at h ⊢
      cases h
      rfl
    · rw [if_neg hq] at h ⊢
      by_cases ho : c = '('
      · rw [if_pos ho] at h ⊢
        cases h
        rfl
      · rw [if_neg ho] at h ⊢
        by_cases hc : c = ')'
        · rw [if_pos hc] at h ⊢
          cases depth with
          | zero => cases h
          | succ depth =>
            cases h
            rfl
        · rw [if_neg hc] at h ⊢
          cases h
          rfl

theorem skim?_nested (h : s.run? cs = some t) : s.nested.skim? separator cs = some t.nested := by
  induction cs generalizing s with
  | nil =>
    cases h
    rfl
  | cons c cs ih =>
    obtain ⟨u, hu, h⟩ := Option.bind_eq_some_iff.1 h
    rw [skim?, if_neg (by simp [isTop_nested]), next?_nested hu]
    exact ih h

theorem depth_pos_of_next?_close (h : s.next? ')' = some t) (hq : s.quoting = .plain) :
    0 < s.depth := by
  obtain ⟨quoting, depth⟩ := s
  obtain rfl : quoting = .plain := hq
  cases depth with
  | zero => cases h
  | succ depth => exact Nat.succ_pos _

/-- The parenthesis that is open is not closed by a text that closes nothing of its own. -/
theorem close_nested (h : s.run? cs = some t) (rest : List Char) :
    s.nested.close (cs ++ rest)
      = (t.nested.close rest).map fun (inner, behind) => (cs ++ inner, behind) := by
  induction cs generalizing s with
  | nil =>
    cases h
    simp
  | cons c cs ih =>
    obtain ⟨u, hu, h⟩ := Option.bind_eq_some_iff.1 h
    have hc : ¬(c = ')' ∧ s.nested.quoting = .plain ∧ s.nested.depth = 1) := by
      rintro ⟨rfl, hq, hd⟩
      have := depth_pos_of_next?_close hu hq
      simp only [nested] at hd
      omega
    rw [List.cons_append, close, if_neg hc, next?_nested hu]
    show (u.nested.close (cs ++ rest)).map _ = _
    rw [ih h, Option.map_map]
    rfl

theorem close_of_run? (h : start.run? cs = some start) (rest : List Char) :
    Scan.close ⟨.plain, 1⟩ (cs ++ ')' :: rest) = some (cs, rest) := by
  have hc : start.nested.close (')' :: rest) = some ([], rest) := rfl
  have hn := close_nested h (')' :: rest)
  rw [hc, Option.map_some] at hn
  dsimp only at hn
  rwa [List.append_nil] at hn

/-- Closing takes out the parenthesis only. -/
theorem eq_of_close {inner rest : List Char} (h : s.close cs = some (inner, rest)) :
    cs = inner ++ ')' :: rest := by
  induction cs generalizing s inner with
  | nil => cases h
  | cons c cs ih =>
    rw [close] at h
    split at h
    · rename_i hc
      cases h
      rw [hc.1]
      rfl
    · split at h
      · cases h
      · obtain ⟨⟨inner, rest⟩, hi, h⟩ := Option.map_eq_some_iff.1 h
        cases h
        rw [ih hi]
        rfl

/-! ## Ordinary characters -/

/-- The characters that a scan looks at. -/
def special : List Char := ['\'', '"', '(', ')', ',', '|']

theorem next?_of_not_special {c : Char} (h : c ∉ special) (depth : Nat) :
    next? ⟨.plain, depth⟩ c = some ⟨.plain, depth⟩ := by
  simp only [special, List.mem_cons, List.not_mem_nil, or_false, not_or] at h
  obtain ⟨hs, hd, ho, hc, -⟩ := h
  simp [next?, hs, hd, ho, hc]

theorem skim?_of_not_special (hs : separator ∈ special) (h : ∀ c ∈ cs, c ∉ special) (depth : Nat) :
    skim? separator ⟨.plain, depth⟩ cs = some ⟨.plain, depth⟩ := by
  induction cs with
  | nil => rfl
  | cons c cs ih =>
    obtain ⟨hc, h⟩ := List.forall_mem_cons.1 h
    have hne : c ≠ separator := fun he => hc (he ▸ hs)
    rw [skim?, if_neg fun he => hne he.1, next?_of_not_special hc]
    exact ih h

theorem not_special_of_isBlank {c : Char} (h : Text.isBlank c = true) : c ∉ special :=
  Text.not_mem_of_all_not (by decide) h

/-! ## Splitting -/

/-- A text that is left as it was entered, with no separator in it that counts. -/
def Unbroken (separator : Char) (cs : List Char) : Prop :=
  start.skim? separator cs = some start

theorem unbroken_of_blanks (hs : separator ∈ special) (h : Blanks cs) : Unbroken separator cs :=
  skim?_of_not_special hs (fun c hc => not_special_of_isBlank (h c hc)) 0

theorem Unbroken.append {as bs : List Char} (ha : Unbroken separator as)
    (hb : Unbroken separator bs) : Unbroken separator (as ++ bs) := by
  unfold Unbroken at *
  rw [skim?_append, ha]
  exact hb

/-- What a scan passes over joins the first of the parts that follow. -/
theorem splitFrom_append (h : s.skim? separator cs = some t) {rest part : List Char}
    {parts : List (List Char)}
    (hr : ∀ position, splitFrom separator t position rest = .ok (part :: parts))
    (position : Nat) :
    splitFrom separator s position (cs ++ rest) = .ok ((cs ++ part) :: parts) := by
  induction cs generalizing s position with
  | nil =>
    cases h
    exact hr position
  | cons c cs ih =>
    simp only [skim?] at h
    split at h
    · cases h
    · rename_i hc
      obtain ⟨u, hu, h⟩ := Option.bind_eq_some_iff.1 h
      rw [List.cons_append, splitFrom, if_neg hc, hu]
      show (splitFrom separator u _ (cs ++ rest)).map _ = _
      rw [ih h]
      rfl

theorem splitFrom_separator {rest : List Char} {parts : List (List Char)}
    (hr : ∀ position, splitFrom separator start position rest = .ok parts) (position : Nat) :
    splitFrom separator start position (separator :: rest) = .ok ([] :: parts) := by
  rw [splitFrom, if_pos ⟨rfl, rfl⟩, hr]
  rfl

/-- Parts in order, with separators between them and blanks around the separators. -/
inductive Separated (separator : Char) : List (List Char) → List Char → Prop where
  | one (part : List Char) : Separated separator [part] part
  | more (part : List Char) {v w cs : List Char} {parts : List (List Char)} (hv : Blanks v)
      (hw : Blanks w) (h : Separated separator parts cs) :
      Separated separator (part :: parts) (part ++ (v ++ separator :: (w ++ cs)))

theorem splitFrom_of_separated (hs : separator ∈ special) {parts : List (List Char)}
    (h : Separated separator parts cs) (hp : ∀ p ∈ parts, Unbroken separator p ∧ Tight p)
    {u : List Char} (hu : Blanks u) :
    ∃ part rest, (∀ position, splitFrom separator start position (u ++ cs) = .ok (part :: rest)) ∧
      (part :: rest).map Text.trim = parts := by
  induction h generalizing u with
  | one part =>
    obtain ⟨hunbroken, htight⟩ := hp part (List.mem_singleton_self _)
    refine ⟨u ++ part, [], fun position => ?_, ?_⟩
    · have hall := (unbroken_of_blanks hs hu).append hunbroken
      have hend (position : Nat) : splitFrom separator start position [] = .ok [[]] := rfl
      simpa using splitFrom_append hall hend position
    · simpa using Text.trim_padded hu htight .nil
  | @more part v w cs parts hv hw _ ih =>
    obtain ⟨⟨hunbroken, htight⟩, hp⟩ := List.forall_mem_cons.1 hp
    obtain ⟨next, rest, hsplit, htrim⟩ := ih hp hw
    refine ⟨u ++ (part ++ v), next :: rest, fun position => ?_, ?_⟩
    · have hall := (unbroken_of_blanks hs hu).append
        (hunbroken.append (unbroken_of_blanks hs hv))
      have := splitFrom_append hall (splitFrom_separator hsplit) position
      simpa using this
    · rw [List.map_cons, Text.trim_padded hu htight hv, htrim]

theorem split_of_separated (hs : separator ∈ special) {parts : List (List Char)}
    (h : Separated separator parts cs) (hp : ∀ p ∈ parts, Unbroken separator p ∧ Tight p) :
    split separator cs = .ok parts := by
  obtain ⟨part, rest, hsplit, htrim⟩ := splitFrom_of_separated hs h hp .nil
  unfold split
  rw [← htrim]
  exact congrArg _ (hsplit 0)

/-! ## What splitting says about a text -/

theorem join_consFirst (c : Char) {parts : List (List Char)} (h : parts ≠ []) :
    Text.join [separator] (consFirst c parts) = c :: Text.join [separator] parts := by
  obtain ⟨part, rest, rfl⟩ := List.exists_cons_of_ne_nil h
  cases rest with
  | nil => rfl
  | cons next rest => rfl

theorem join_of_splitFrom {position : Nat} {parts : List (List Char)}
    (h : splitFrom separator s position cs = .ok parts) :
    parts ≠ [] ∧ Text.join [separator] parts = cs := by
  induction cs generalizing s position parts with
  | nil =>
    simp only [splitFrom] at h
    split at h
    · cases h
    · split at h
      · cases h
      · cases h
        exact ⟨List.cons_ne_nil _ _, rfl⟩
  | cons c cs ih =>
    simp only [splitFrom] at h
    split at h
    · rename_i hc
      obtain ⟨rest, hr, rfl⟩ := map_eq_ok_iff.1 h
      obtain ⟨hne, hjoin⟩ := ih hr
      refine ⟨List.cons_ne_nil _ _, ?_⟩
      rw [Text.join_cons _ _ hne, hjoin, hc.1]
      rfl
    · split at h
      · cases h
      · obtain ⟨rest, hr, rfl⟩ := map_eq_ok_iff.1 h
        obtain ⟨hne, hjoin⟩ := ih hr
        refine ⟨?_, by rw [join_consFirst c hne, hjoin]⟩
        obtain ⟨part, rest, rfl⟩ := List.exists_cons_of_ne_nil hne
        exact List.cons_ne_nil _ _

theorem exists_separated {parts : List (List Char)} (h : parts ≠ []) :
    ∃ v cs w, Blanks v ∧ Blanks w ∧ Text.join [separator] parts = v ++ (cs ++ w) ∧
      Separated separator (parts.map Text.trim) cs := by
  induction parts with
  | nil => exact absurd rfl h
  | cons part parts ih =>
    obtain ⟨v, w, hv, hw, hpart⟩ := Text.exists_padding part
    by_cases hp : parts = []
    · subst hp
      exact ⟨v, Text.trim part, w, hv, hw, hpart, .one _⟩
    · obtain ⟨v', cs, w', hv', hw', hjoin, hsep⟩ := ih hp
      refine ⟨v, Text.trim part ++ (w ++ separator :: (v' ++ cs)), w', hv, hw', ?_, ?_⟩
      · rw [Text.join_cons _ _ hp, hjoin]
        calc part ++ separator :: (v' ++ (cs ++ w'))
            = v ++ (Text.trim part ++ w) ++ separator :: (v' ++ (cs ++ w')) := by rw [← hpart]
          _ = _ := by simp
      · exact .more _ hw hv' hsep

theorem tight_of_mem_split {parts : List (List Char)} (h : split separator cs = .ok parts)
    {p : List Char} (hp : p ∈ parts) (hne : p ≠ []) : Tight p := by
  obtain ⟨raw, -, rfl⟩ := map_eq_ok_iff.1 h
  obtain ⟨q, -, rfl⟩ := List.mem_map.1 hp
  exact Text.tight_trim hne

theorem Separated.tight {parts : List (List Char)} (h : Separated separator parts cs)
    (hp : ∀ p ∈ parts, Tight p) : Tight cs := by
  induction h with
  | one part => exact hp part (List.mem_singleton_self _)
  | @more part v w cs parts _ _ _ ih =>
    obtain ⟨hpart, hp⟩ := List.forall_mem_cons.1 hp
    have := hpart.append (v ++ separator :: w) (ih hp)
    simpa using this

/-- A text without blanks around it that is split is put together from the parts, if none
of them is empty. -/
theorem separated_of_split {parts : List (List Char)} (h : split separator cs = .ok parts)
    (ht : Tight cs) (hp : ∀ p ∈ parts, p ≠ []) : Separated separator parts cs := by
  obtain ⟨raw, hr, rfl⟩ := map_eq_ok_iff.1 h
  obtain ⟨hne, hjoin⟩ := join_of_splitFrom hr
  obtain ⟨v, ds, w, hv, hw, hds, hsep⟩ := exists_separated hne
  rw [hjoin] at hds
  have htight : Tight ds := hsep.tight fun p hm => tight_of_mem_split h hm (hp p hm)
  have heq : cs = ds := by
    rw [← Text.trim_of_tight ht, hds, Text.trim_padded hv htight hw]
  rwa [heq]

end Scan

end Reshape
