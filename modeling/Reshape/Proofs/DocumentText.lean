import Reshape.Document.Reader
import Reshape.Proofs.Printing

/-!
# Document text says which document it is

The compact text of a document is that of no other, `Document.text_injective`: kinds of numbers,
order of entries and the sign of zero included. Strings are read back from their quoted text,
numbers are spelled by it, and a text that goes on behind a document shows where the document ends
unless it goes on like a numeral, `Document.readable_render`.
-/

namespace Reshape

namespace Document

open Expression.Grammar (IsNumeralChar Opens Spells)

/-! ## Strings -/

/-- A piece is read, with this value and this rest. -/
def Gives {α : Type} {cs : List Char} (x : Except Halt (Piece α cs)) (value : α)
    (rest : List Char) : Prop :=
  ∃ h, x = .ok ⟨value, rest, h⟩

section Strings

variable {c x : Char} {cs xs rest : List Char} {n : Nat}

theorem hexValue?_hexDigit (n : Nat) : hexValue? (hexDigit n) = some (n % 16) := by
  have hsmall : ∀ m < 16, hexValue? (hexDigit m) = some m := by decide
  have hmod : hexDigit n = hexDigit (n % 16) := by
    unfold hexDigit
    rw [Nat.mod_mod]
  rw [hmod]
  exact hsmall _ (Nat.mod_lt n (by decide))

theorem gives_hexUnit (h : n < 32) (rest : List Char) :
    Gives (hexUnit ('0' :: '0' :: hexDigit (n / 16) :: hexDigit n :: rest)) n rest := by
  have hzero : hexValue? '0' = some 0 := rfl
  have hvalue : ((0 * 16 + 0) * 16 + n / 16 % 16) * 16 + n % 16 = n := by omega
  unfold hexUnit
  simp only [hzero, hexValue?_hexDigit, hvalue]
  exact ⟨_, rfl⟩

theorem gives_escaped_code (h : n < 32) :
    Gives (escaped ('u' :: '0' :: '0' :: hexDigit (n / 16) :: hexDigit n :: rest))
      (Char.ofNat n) rest := by
  obtain ⟨hshorter, hunit⟩ := gives_hexUnit h rest
  have hcode : unicodeEscape ('0' :: '0' :: hexDigit (n / 16) :: hexDigit n :: rest)
      = .ok ⟨Char.ofNat n, rest, hshorter⟩ := by
    unfold unicodeEscape
    rw [hunit]
    show (if 0xDC00 ≤ n ∧ n ≤ 0xDFFF then _ else if 0xD800 ≤ n ∧ n ≤ 0xDBFF then _ else _) = _
    rw [if_neg (by omega), if_neg (by omega)]
    rfl
  unfold escaped
  dsimp only
  rw [if_pos rfl, hcode]
  exact ⟨_, rfl⟩

theorem gives_escaped_letter (hu : x ≠ 'u') (hx : simpleEscape? x = some c) :
    Gives (escaped (x :: rest)) c rest := by
  unfold escaped
  dsimp only
  rw [if_neg hu, hx]
  exact ⟨_, rfl⟩

theorem gives_stringBody_escaped (hx : Gives (escaped xs) c cs)
    {body : List Char} (hbody : Gives (stringBody cs) body rest) :
    Gives (stringBody ('\\' :: xs)) (c :: body) rest := by
  obtain ⟨hc, hx⟩ := hx
  obtain ⟨hb, hbody⟩ := hbody
  rw [stringBody, hx]
  show Gives (stringBody cs >>= _) _ _
  rw [hbody]
  exact ⟨_, rfl⟩

theorem gives_stringBody_plain (hq : c ≠ '"') (hb : c ≠ '\\') (hc : ¬ c.toNat < 32)
    {body : List Char} (hbody : Gives (stringBody cs) body rest) :
    Gives (stringBody (c :: cs)) (c :: body) rest := by
  obtain ⟨hb, hbody⟩ := hbody
  rw [stringBody, if_neg hc, hbody]
  · exact ⟨_, rfl⟩
  · exact hq
  · assumption

def escapeLetters : List (Char × Char) :=
  [('"', '"'), ('\\', '\\'), ('\n', 'n'), ('\r', 'r'), ('\t', 't'), ('\x08', 'b'), ('\x0c', 'f')]

theorem escape_of_letter : ∀ p ∈ escapeLetters,
    p.2 ≠ 'u' ∧ simpleEscape? p.2 = some p.1 ∧ escape p.1 = ['\\', p.2] := by
  decide

/-- A character is escaped by a letter or by its code, or stands for itself. -/
theorem escape_eq (c : Char) :
    (∃ x, x ≠ 'u' ∧ simpleEscape? x = some c ∧ escape c = ['\\', x]) ∨
      (c.toNat < 32 ∧
        escape c = ['\\', 'u', '0', '0', hexDigit (c.toNat / 16), hexDigit c.toNat]) ∨
      (c ≠ '"' ∧ c ≠ '\\' ∧ ¬ c.toNat < 32 ∧ escape c = [c]) := by
  by_cases hletter : ∀ p ∈ escapeLetters, c ≠ p.1
  · simp only [escapeLetters, List.forall_mem_cons] at hletter
    obtain ⟨hq, hb, hn, hr, ht, hback, hfeed, -⟩ := hletter
    rw [escape, if_neg hq, if_neg hb, if_neg hn, if_neg hr, if_neg ht, if_neg hback, if_neg hfeed]
    by_cases hcode : c.toNat < 32
    · exact .inr (.inl ⟨hcode, if_pos hcode⟩)
    · exact .inr (.inr ⟨hq, hb, hcode, if_neg hcode⟩)
  · simp only [not_forall, not_not] at hletter
    obtain ⟨p, hp, rfl⟩ := hletter
    exact .inl ⟨p.2, escape_of_letter p hp⟩

theorem gives_stringBody_escape (c : Char) {body : List Char}
    (hbody : Gives (stringBody cs) body rest) :
    Gives (stringBody (escape c ++ cs)) (c :: body) rest := by
  obtain ⟨x, hu, hx, hc⟩ | ⟨hcode, hc⟩ | ⟨hq, hb, hcode, hc⟩ := escape_eq c
  · rw [hc]
    exact gives_stringBody_escaped (gives_escaped_letter hu hx) hbody
  · have hread := gives_stringBody_escaped (gives_escaped_code hcode) hbody
    rw [Char.ofNat_toNat] at hread
    rwa [hc]
  · rw [hc]
    exact gives_stringBody_plain hq hb hcode hbody

/-- Reading undoes quoting, whatever comes behind the closing quote. -/
theorem gives_stringBody_escapes (cs rest : List Char) :
    Gives (stringBody (cs.flatMap escape ++ '"' :: rest)) cs rest := by
  induction cs with
  | nil =>
    rw [List.flatMap_nil, List.nil_append, stringBody]
    exact ⟨_, rfl⟩
  | cons c cs ih =>
    rw [List.flatMap_cons, List.append_assoc]
    exact gives_stringBody_escape c ih

end Strings

/-! ## Readable texts -/

/-- The text of a value tells the value and where it ends, unless it goes on like a numeral. -/
def Readable {α : Type} (f : α → List Char) (a : α) : Prop :=
  ∀ (b : α) {rest rest' : List Char}, Opens (fun c => ¬ IsNumeralChar c) rest →
    Opens (fun c => ¬ IsNumeralChar c) rest' → f a ++ rest = f b ++ rest' → a = b ∧ rest = rest'

theorem readable_quote (s : String) : Readable quote s := by
  intro t rest rest' _ _ h
  have hs := gives_stringBody_escapes s.toList rest
  have ht := gives_stringBody_escapes t.toList rest'
  unfold quote at h
  simp only [List.cons_append, List.append_assoc, List.nil_append, List.cons.injEq,
    true_and] at h
  rw [h] at hs
  obtain ⟨_, hs⟩ := hs
  obtain ⟨_, ht⟩ := ht
  obtain ⟨hst, hrest⟩ := Piece.mk.inj (Except.ok.inj (hs.symm.trans ht))
  exact ⟨String.toList_inj.1 hst, hrest⟩

/-! ## Numbers -/

/-- A numeral is of the kind and the value of a number. -/
def Writes (n : Numeral) : Number → Prop
  | .whole k => n.isWhole = true ∧ n.toInt = k
  | .double d => n.isWhole = false ∧ n.toDecimal.toExtended = .finite d

theorem exists_spells_render (x : Number) : ∃ n, Spells x.render n ∧ Writes n x := by
  cases x with
  | whole k =>
    obtain ⟨n, hspells, hf, hx, hk⟩ := Expression.Grammar.exists_spells_ofInt k
    exact ⟨n, hspells, by rw [Numeral.isWhole, hf, hx]; rfl, hk⟩
  | double d => exact Layout.exists_spells_text (l := Number.layout) rfl d

theorem Writes.eq {n : Numeral} {x y : Number} (hx : Writes n x) (hy : Writes n y) : x = y := by
  cases x with
  | whole k =>
    cases y with
    | whole l => exact congrArg Number.whole (hx.2.symm.trans hy.2)
    | double d => exact absurd (hx.1.symm.trans hy.1) (by decide)
  | double d =>
    cases y with
    | whole l => exact absurd (hy.1.symm.trans hx.1) (by decide)
    | double e => exact congrArg Number.double (Extended.finite.inj (hx.2.symm.trans hy.2))

theorem append_inj_of_class {P : Char → Prop} {as bs rest rest' : List Char}
    (ha : ∀ c ∈ as, P c) (hb : ∀ c ∈ bs, P c) (hr : Opens (fun c => ¬ P c) rest)
    (hr' : Opens (fun c => ¬ P c) rest') (h : as ++ rest = bs ++ rest') :
    as = bs ∧ rest = rest' := by
  classical
  have hspan {as rest : List Char} (ha : ∀ c ∈ as, P c) (hr : Opens (fun c => ¬ P c) rest) :=
    Expression.Grammar.span_append (p := fun c => decide (P c))
      (fun c hc => decide_eq_true (ha c hc)) (hr.mono fun _ hc => decide_eq_false hc)
  have has := hspan ha hr
  have hbs := hspan hb hr'
  rw [h] at has
  exact ⟨has.1.symm.trans hbs.1, has.2.symm.trans hbs.2⟩

theorem readable_number (x : Number) : Readable Number.render x := by
  intro y rest rest' hr hr' h
  obtain ⟨n, hn, hx⟩ := exists_spells_render x
  obtain ⟨m, hm, hy⟩ := exists_spells_render y
  obtain ⟨hxy, hrest⟩ := append_inj_of_class hn.isNumeralChar hm.isNumeralChar hr hr' h
  rw [hxy] at hn
  have hnm : n = m :=
    congrArg Prod.fst ((Expression.Grammar.spells_iff.1 hn).1.symm.trans
      (Expression.Grammar.spells_iff.1 hm).1)
  exact ⟨hx.eq (hnm ▸ hy), hrest⟩

/-! ## Lists -/

section Lists

variable {α : Type} {f : α → List Char} {close : Char}

/-- What comes behind an item: the end of the list, or a comma and the items that follow. -/
def behind (f : α → List Char) (close : Char) (rest : List Char) : List α → List Char
  | [] => close :: rest
  | a :: as => ',' :: (Text.join [','] ((a :: as).map f) ++ close :: rest)

theorem join_cons_append (a : α) (as : List α) (rest : List Char) :
    Text.join [','] ((a :: as).map f) ++ close :: rest = f a ++ behind f close rest as := by
  cases as with
  | nil => rfl
  | cons b as =>
    rw [List.map_cons, Text.join_cons _ _ (by simp), List.append_assoc, List.append_assoc]
    rfl

theorem opens_behind (hclose : ¬ IsNumeralChar close) (rest : List Char) (as : List α) :
    Opens (fun c => ¬ IsNumeralChar c) (behind f close rest as) := by
  cases as with
  | nil => exact fun _ hc => Option.some.inj hc ▸ hclose
  | cons a as =>
    have hcomma : ¬ IsNumeralChar ',' := by decide
    exact fun _ hc => Option.some.inj hc ▸ hcomma

/-- The items of a list are read one after the other, up to a closing character that none of them
starts with. -/
theorem readable_list (hclose : ¬ IsNumeralChar close) (hcomma : close ≠ ',')
    (hopen : ∀ a rest rest', f a ++ rest = close :: rest' → False) {as bs : List α}
    {rest rest' : List Char} (hf : ∀ a ∈ as, Readable f a)
    (h : Text.join [','] (as.map f) ++ close :: rest
      = Text.join [','] (bs.map f) ++ close :: rest') : as = bs ∧ rest = rest' := by
  induction as generalizing bs with
  | nil =>
    cases bs with
    | nil => exact ⟨rfl, (List.cons.inj h).2⟩
    | cons b bs =>
      rw [join_cons_append] at h
      exact (hopen _ _ _ h.symm).elim
  | cons a as ih =>
    rw [join_cons_append] at h
    cases bs with
    | nil => exact (hopen _ _ _ h).elim
    | cons b bs =>
      rw [join_cons_append] at h
      obtain ⟨rfl, hbehind⟩ := hf a List.mem_cons_self b (opens_behind hclose rest as)
        (opens_behind hclose rest' bs) h
      suffices hrest : as = bs ∧ rest = rest' from ⟨congrArg _ hrest.1, hrest.2⟩
      cases as with
      | nil =>
        cases bs with
        | nil => exact ⟨rfl, (List.cons.inj hbehind).2⟩
        | cons b bs => exact absurd (List.cons.inj hbehind).1 hcomma
      | cons a' as =>
        cases bs with
        | nil => exact absurd (List.cons.inj hbehind).1.symm hcomma
        | cons b bs =>
          exact ih (fun a ha => hf a (List.mem_cons_of_mem _ ha)) (List.cons.inj hbehind).2

end Lists

/-! ## Documents -/

/-- The kind of the documents whose text starts with a character. -/
def Kind.ofLead : Char → Kind
  | 'n' => .null
  | 't' | 'f' => .boolean
  | '"' => .string
  | '[' => .array
  | '\x7b' => .object
  | _ => .number

theorem ofLead_of_isNumeralChar {c : Char} (h : IsNumeralChar c) :
    Kind.ofLead c = .number ∧ c ≠ ']' := by
  have hnot {x : Char} (hx : ¬ IsNumeralChar x) : c ≠ x := fun heq => hx (heq ▸ h)
  refine ⟨?_, hnot (by decide)⟩
  unfold Kind.ofLead
  split
  all_goals first | rfl | exact absurd rfl (hnot (by decide))

/-- The first character of a text says of which kind the document is. -/
theorem exists_lead (d : Document) :
    ∃ c cs, d.render = c :: cs ∧ Kind.ofLead c = d.kind ∧ c ≠ ']' := by
  cases d with
  | number x =>
    obtain ⟨n, hn, -⟩ := exists_spells_render x
    obtain ⟨c, hc, -⟩ := hn.exists_head
    exact ⟨c, x.render.tail, List.eq_cons_of_mem_head? hc,
      ofLead_of_isNumeralChar (hn.isNumeralChar c (List.mem_of_mem_head? hc))⟩
  | bool value => cases value <;> exact ⟨_, _, rfl, rfl, by decide⟩
  | _ => exact ⟨_, _, rfl, rfl, by decide⟩

theorem kind_eq_of_render {a b : Document} {rest rest' : List Char}
    (h : a.render ++ rest = b.render ++ rest') : a.kind = b.kind := by
  obtain ⟨c, cs, ha, hac, -⟩ := exists_lead a
  obtain ⟨d, ds, hb, hbd, -⟩ := exists_lead b
  rw [ha, hb] at h
  rw [← hac, ← hbd, (List.cons.inj h).1]

theorem renderItems_eq_map (items : List Document) : renderItems items = items.map render := by
  induction items with
  | nil => rfl
  | cons d items ih => exact congrArg (d.render :: ·) ih

def renderEntry (e : String × Document) : List Char := quote e.1 ++ ':' :: e.2.render

theorem renderEntries_eq_map (entries : List (String × Document)) :
    renderEntries entries = entries.map renderEntry := by
  induction entries with
  | nil => rfl
  | cons e entries ih => exact congrArg (renderEntry e :: ·) ih

theorem readable_entry {e : String × Document} (h : Readable render e.2) :
    Readable renderEntry e := by
  intro f rest rest' hr hr' heq
  have hcolon (cs : List Char) : Opens (fun c => ¬ IsNumeralChar c) (':' :: cs) :=
    fun _ hc => Option.some.inj hc ▸ (by decide : ¬ IsNumeralChar ':')
  unfold renderEntry at heq
  rw [List.append_assoc, List.append_assoc] at heq
  obtain ⟨hkey, heq⟩ := readable_quote e.1 f.1 (hcolon _) (hcolon _) heq
  obtain ⟨hvalue, hrest⟩ := h f.2 hr hr' (List.cons.inj heq).2
  exact ⟨Prod.ext hkey hvalue, hrest⟩

/-- The text of a document tells the document and where it ends. -/
theorem readable_render (d : Document) : Readable render d := by
  intro b rest rest' hr hr' h
  have hkind := kind_eq_of_render h
  match d, b, hkind with
  | .null, .null, _ => exact ⟨rfl, List.append_cancel_left h⟩
  | .bool true, .bool true, _ => exact ⟨rfl, List.append_cancel_left h⟩
  | .bool false, .bool false, _ => exact ⟨rfl, List.append_cancel_left h⟩
  | .number x, .number y, _ =>
    obtain ⟨rfl, hrest⟩ := readable_number x y hr hr' h
    exact ⟨rfl, hrest⟩
  | .string s, .string t, _ =>
    obtain ⟨rfl, hrest⟩ := readable_quote s t hr hr' h
    exact ⟨rfl, hrest⟩
  | .array as, .array bs, _ =>
    have hopen (a : Document) (cs ds : List Char) : a.render ++ cs = ']' :: ds → False := by
      obtain ⟨c, _, ha, -, hc⟩ := exists_lead a
      exact fun h => hc (List.cons.inj (ha ▸ h)).1
    rw [render, render, renderItems_eq_map, renderItems_eq_map] at h
    simp only [List.cons_append, List.append_assoc, List.nil_append, List.cons.injEq,
      true_and] at h
    obtain ⟨rfl, hrest⟩ := readable_list (by decide) (by decide) hopen
      (fun a _ => readable_render a) h
    exact ⟨rfl, hrest⟩
  | .object es, .object fs, _ =>
    have hopen (e : String × Document) (cs ds : List Char) :
        renderEntry e ++ cs = '\x7d' :: ds → False := fun h => by cases h
    rw [render, render, renderEntries_eq_map, renderEntries_eq_map] at h
    simp only [List.cons_append, List.append_assoc, List.nil_append, List.cons.injEq,
      true_and] at h
    obtain ⟨rfl, hrest⟩ := readable_list (by decide) (by decide) hopen
      (fun e _ => readable_entry (readable_render e.2)) h
    exact ⟨rfl, hrest⟩
termination_by d.size
decreasing_by
  · exact size_lt_of_mem ‹_›
  · have hsize := size_le_entrySizes ‹e ∈ es›
    simp only [size]
    omega

/-- Documents with one text are one document. -/
theorem text_injective {a b : Document} (h : a.text = b.text) : a = b := by
  have hrender : a.render ++ [] = b.render ++ [] := by
    rw [List.append_nil, List.append_nil]
    exact String.ofList_injective h
  have hnil : Opens (fun c => ¬ IsNumeralChar c) [] := fun _ hc => nomatch hc
  exact (readable_render a b hnil hnil hrender).1

end Document

end Reshape
