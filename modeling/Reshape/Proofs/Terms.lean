import Reshape.Proofs.Numerals
import Reshape.Proofs.Words

/-!
# The start of a term

What `head` makes of a text: a term without parts, or a name before parentheses,
`shown_of_head`. The other way round, `head` shows each term of the grammar for what it
is: `head_of_application` and those beside it.
-/

namespace Reshape

namespace Expression

namespace Grammar

open Text (Blanks Tight)
open Scan (Unbroken Ordinary)

variable {cs f u inner : List Char}

/-! ## Names and calls -/

theorem nameOrCall_of_name (h : Name cs) : nameOrCall cs = .ok (.done (.name (String.ofList cs))) := by
  have hend : ∀ c ∈ ([] : List Char).head?, Text.isIdentifierRest c = false := nofun
  have hid := identifier?_append h hend
  rw [List.append_nil] at hid
  unfold nameOrCall
  rw [hid]
  rfl

theorem opens_application (hu : Blanks u) (rest : List Char) :
    ∀ c ∈ (u ++ '(' :: rest).head?, Text.isIdentifierRest c = false := by
  intro c hc
  refine Bool.eq_false_iff.2 fun hid => ?_
  have hordinary := Scan.ordinary_of_isNameChar (Text.isNameChar_of_isIdentifierRest hid)
  cases u with
  | nil =>
    obtain rfl := Option.some.inj hc
    exact hordinary.2 (by decide)
  | cons d ds =>
    obtain rfl := Option.some.inj hc
    have hblank := hu d (List.mem_cons_self ..)
    rw [hordinary.1] at hblank
    cases hblank

theorem nameOrCall_of_application (hf : Name f) (hu : Blanks u)
    (h : Scan.start.run? inner = some Scan.start) :
    nameOrCall (f ++ (u ++ '(' :: (inner ++ [')'])))
      = .ok (.application (String.ofList f) (Text.trim inner)) := by
  have htrim : Text.trimStart (u ++ '(' :: (inner ++ [')'])) = '(' :: (inner ++ [')']) := by
    rw [Text.trimStart_append hu]
    exact Text.trimStart_of_head? rfl (by decide)
  unfold nameOrCall
  rw [identifier?_append hf (opens_application hu _)]
  dsimp only
  rw [if_neg (by simp), htrim]
  simp only [Scan.close_of_run? h, List.isEmpty_nil, ↓reduceIte]

/-- Nothing else is read as a name or as a call. -/
theorem shown_of_nameOrCall {shown : Head} (h : nameOrCall cs = .ok shown) :
    (Name cs ∧ shown = .done (.name (String.ofList cs))) ∨
      ∃ f u inner, Name f ∧ Blanks u ∧ cs = f ++ (u ++ '(' :: (inner ++ [')'])) ∧
        shown = .application (String.ofList f) (Text.trim inner) := by
  unfold nameOrCall at h
  split at h
  · cases h
  · rename_i f rest hid
    obtain ⟨hf, rfl⟩ := name_of_identifier? hid
    split at h
    · rename_i hend
      obtain rfl := List.isEmpty_iff.1 hend
      cases h
      rw [List.append_nil]
      exact .inl ⟨hf, rfl⟩
    · split at h
      · rename_i after ht
        split at h
        · cases h
        · rename_i inner behind hclose
          split at h
          · rename_i hend
            obtain rfl := List.isEmpty_iff.1 hend
            cases h
            refine .inr ⟨f, rest.takeWhile Text.isBlank, inner, hf,
              fun c hc => List.mem_takeWhile_imp hc, ?_, rfl⟩
            rw [← Scan.eq_of_close hclose, ← ht]
            exact congrArg _ List.takeWhile_append_dropWhile.symm
          · cases h
      · cases h

/-! ## All terms -/

/-- The text does not start as a string or a selector does and is no value with a name. -/
structure Plain (cs : List Char) : Prop where
  opens : ∃ c ∈ cs.head?, c ∉ ['\'', '"', '$']
  notConstant : ∀ value, ¬ Constant cs value

theorem head_of_plain (h : Plain cs) :
    head cs = match number? cs with
      | some (.ok n) => .ok (.done (.literal (.number n)))
      | some (.error fault) => .error fault
      | none => nameOrCall cs := by
  obtain ⟨⟨c, hc, ho⟩, hconstant⟩ := h
  unfold head
  split
  · cases hc
  · cases hc
    exact absurd (by decide) ho
  · cases hc
    exact absurd (by decide) ho
  · exact absurd .true (hconstant _)
  · exact absurd .false (hconstant _)
  · exact absurd .null (hconstant _)
  · cases hc
    exact absurd (by decide) ho
  · rfl

theorem Constant.exists_head {value : Literal} (h : Constant cs value) :
    ∃ c ∈ cs.head?, c ∈ ['t', 'f', 'n'] := by
  cases h
  · exact ⟨_, rfl, by decide⟩
  · exact ⟨_, rfl, by decide⟩
  · exact ⟨_, rfl, by decide⟩

/-- A numeral starts as no other term does. -/
theorem Spells.plain {n : Numeral} (h : Spells cs n) : Plain cs := by
  obtain ⟨c, hc, hn⟩ := h.exists_head
  have hapart : ∀ d ∈ ['\'', '"', '$', 't', 'f', 'n'],
      ¬(Digits.isDigit d = true ∨ d ∈ ['+', '-', '.']) := List.all_iff_forall_prop.1 (by decide)
  refine ⟨⟨c, hc, fun hm => hapart c (List.mem_append_left ['t', 'f', 'n'] hm) hn⟩, fun value hv => ?_⟩
  obtain ⟨d, hd, hm⟩ := hv.exists_head
  obtain rfl : c = d := Option.mem_unique hc hd
  exact hapart c (List.mem_append_right ['\'', '"', '$'] hm) hn

theorem not_isIdentifierStart_of_isDigit {c : Char} (h : Digits.isDigit c = true) :
    Text.isIdentifierStart c = false := by
  refine Bool.eq_false_iff.2 fun hc => ?_
  simp only [Text.isIdentifierStart, Bool.or_eq_true, beq_iff_eq, Text.isAlpha_iff] at hc
  have hdigit := (Scan.isDigit_iff c).1 h
  rcases hc with hc | rfl
  · omega
  · exact absurd h (by decide)

/-- What starts with a name is no numeral, string or selector. -/
theorem Name.opens (hf : Name f) (rest : List Char) :
    (∃ c ∈ (f ++ rest).head?, c ∉ ['\'', '"', '$']) ∧ ∀ n, ¬ Spells (f ++ rest) n := by
  obtain @⟨c, ds, hc, -⟩ := hf
  refine ⟨⟨c, rfl, fun hm => ?_⟩, fun n hn => ?_⟩
  · exact Text.not_mem_of_all_not (by decide) hc hm
  · obtain ⟨d, hd, hn⟩ := hn.exists_head
    obtain rfl : c = d := Option.some.inj hd
    rcases hn with hn | hn
    · rw [not_isIdentifierStart_of_isDigit hn] at hc
      cases hc
    · exact Text.not_mem_of_all_not (by decide) hc hn

theorem head_of_string {quote : Char} (hq : quote = '\'' ∨ quote = '"') {body s : List Char}
    (h : Quoted quote body s) :
    head (quote :: (body ++ [quote])) = .ok (.done (.literal (.string (String.ofList s)))) := by
  rcases hq with rfl | rfl
  · rw [head, stringBody_append (by decide) h]
    rfl
  · rw [head, stringBody_append (by decide) h]
    rfl

theorem head_of_constant {value : Literal} (h : Constant cs value) :
    head cs = .ok (.done (.literal value)) := by
  cases h
  · rfl
  · rfl
  · rfl

theorem head_of_selector {text : String} {path : Selector} (h : Selector.read text = .ok path) :
    head path.source.toList = .ok (.done (.selector path)) := by
  obtain ⟨-, hdollar, -, hread⟩ := Selector.read_source h
  obtain ⟨rest, hrest⟩ := List.head?_eq_some_iff.1 hdollar
  rw [hrest, head, ← hrest, String.ofList_toList, hread]

theorem head_of_number {n : Number} (h : IsNumber cs n) :
    head cs = .ok (.done (.literal (.number n))) := by
  have hplain : Plain cs := by
    rcases h with ⟨hn, -⟩ | ⟨hn, -, -⟩
    · exact hn.plain
    · exact hn.plain
  rw [head_of_plain hplain, number?_eq_ok_iff.2 h]

theorem head_of_name (h : Name cs) (hc : ∀ value, ¬ Constant cs value) :
    head cs = .ok (.done (.name (String.ofList cs))) := by
  obtain ⟨hopens, hspells⟩ := h.opens []
  rw [List.append_nil] at hopens hspells
  rw [head_of_plain ⟨hopens, hc⟩, number?_eq_none hspells]
  exact nameOrCall_of_name h

theorem head_of_application (hf : Name f) (hu : Blanks u)
    (h : Scan.start.run? inner = some Scan.start) :
    head (f ++ (u ++ '(' :: (inner ++ [')'])))
      = .ok (.application (String.ofList f) (Text.trim inner)) := by
  obtain ⟨hopens, hspells⟩ := hf.opens (u ++ '(' :: (inner ++ [')']))
  have hconstant : ∀ value, ¬ Constant (f ++ (u ++ '(' :: (inner ++ [')']))) value := by
    intro value hv
    have hm : '(' ∈ f ++ (u ++ '(' :: (inner ++ [')'])) := by simp
    have hno : ∀ cs, Constant cs value → '(' ∉ cs := by
      rintro _ (_ | _ | _)
      · decide
      · decide
      · decide
    exact hno _ hv hm
  rw [head_of_plain ⟨hopens, hconstant⟩, number?_eq_none hspells]
  exact nameOrCall_of_application hf hu h

/-- A text whose reading ends with its start is a term without parts; any other is a name
and parentheses. -/
theorem shown_of_head (ht : Tight cs) {shown : Head} (h : head cs = .ok shown) :
    (∃ e, Term cs e ∧ shown = .done e) ∨
      ∃ f u inner, Name f ∧ Blanks u ∧ cs = f ++ (u ++ '(' :: (inner ++ [')'])) ∧
        shown = .application (String.ofList f) (Text.trim inner) := by
  unfold head at h
  split at h
  · cases h
  · obtain ⟨s, hs, rfl⟩ := map_eq_ok_iff.1 h
    obtain ⟨body, rfl, hbody⟩ := quoted_of_stringBody (by decide) hs
    exact .inl ⟨_, .string (.inl rfl) hbody, rfl⟩
  · obtain ⟨s, hs, rfl⟩ := map_eq_ok_iff.1 h
    obtain ⟨body, rfl, hbody⟩ := quoted_of_stringBody (by decide) hs
    exact .inl ⟨_, .string (.inr rfl) hbody, rfl⟩
  · cases h
    exact .inl ⟨_, .constant .true, rfl⟩
  · cases h
    exact .inl ⟨_, .constant .false, rfl⟩
  · cases h
    exact .inl ⟨_, .constant .null, rfl⟩
  · split at h
    · rename_i path s hs
      cases h
      obtain ⟨hsource, -, -, -⟩ := Selector.read_source hs
      rw [String.toList_ofList, Text.trim_of_tight ht] at hsource
      rw [← hsource]
      exact .inl ⟨_, .selector hs, rfl⟩
    · cases h
  · rename_i htrue hfalse hnull _
    split at h
    · rename_i n hn
      cases h
      exact .inl ⟨_, .number (number?_eq_ok_iff.1 hn), rfl⟩
    · cases h
    · have hconstant : ∀ value, ¬ Constant cs value := by
        rintro _ (_ | _ | _)
        · exact htrue rfl
        · exact hfalse rfl
        · exact hnull rfl
      rcases shown_of_nameOrCall h with ⟨hname, rfl⟩ | happlication
      · exact .inl ⟨_, .name hname hconstant, rfl⟩
      · exact .inr happlication

end Grammar

end Expression

end Reshape
