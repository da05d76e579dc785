import Reshape.Expression.Printer
import Reshape.Proofs.Accepting
import Reshape.Proofs.Layouts

/-!
# Printing undoes reading

What the grammar derives it also derives from the printed text: `Term.rendered`. The
escapes stand for the quote and the backslash, whole numbers keep their digits, and a
double is written in a numeral that is rounded to it.
-/

namespace Reshape

namespace Expression

open Grammar

namespace Grammar

/-! ## Literals -/

theorem quoted_escape (cs : List Char) : Quoted '\'' (cs.flatMap Literal.escape) cs := by
  induction cs with
  | nil => exact .nil
  | cons c cs ih =>
    rw [List.flatMap_cons]
    unfold Literal.escape
    by_cases hb : c = '\\'
    · subst hb
      exact .escaped (.other (by decide)) ih
    · rw [if_neg hb]
      by_cases hq : c = '\''
      · subst hq
        exact .escaped (.other (by decide)) ih
      · rw [if_neg hq]
        exact .plain hq hb ih

theorem Constant.rendered {cs : List Char} {value : Literal} (h : Constant cs value) :
    Constant value.render value := by
  cases h
  · exact .true
  · exact .false
  · exact .null

/-- The digits of a whole number spell it. -/
theorem exists_spells_ofInt (k : Int) :
    ∃ n, Spells (Digits.ofInt k) n ∧ n.fraction = none ∧ n.exponent = none ∧ n.toInt = k := by
  have hds : AllDigits (Digits.ofNat k.natAbs) := fun _ hc => Digits.isDigit_of_mem_ofNat hc
  have hne := Digits.ofNat_ne_nil k.natAbs
  have hspells := Spells.mk .none hds .none .none (.inl hne)
  rw [List.nil_append, List.append_nil, List.append_nil] at hspells
  unfold Digits.ofInt
  by_cases hneg : k < 0
  · rw [if_pos hneg]
    refine ⟨_, hspells.minus rfl, rfl, rfl, ?_⟩
    show -(Digits.value (Digits.ofNat k.natAbs) : Int) = k
    rw [Digits.value_ofNat]
    omega
  · rw [if_neg hneg]
    refine ⟨_, hspells, rfl, rfl, ?_⟩
    show (Digits.value (Digits.ofNat k.natAbs) : Int) = k
    rw [Digits.value_ofNat]
    omega

/-- A number is printed as a text of that number. -/
theorem IsNumber.rendered {cs : List Char} {n : Number} (h : IsNumber cs n) :
    IsNumber n.render n := by
  cases h with
  | @word m _ _ hk =>
    obtain ⟨-, -, hlow, hhigh⟩ := hk
    obtain ⟨n, hspells, hf, hx, hn⟩ := exists_spells_ofInt m.toInt
    rw [← hn] at hlow hhigh hspells ⊢
    exact .word hspells (.mk hf hx hlow hhigh)
  | @double _ d _ _ _ =>
    obtain ⟨n, hspells, hw, hd⟩ := Layout.exists_spells_text (l := Number.layout) rfl d
    refine .double hspells (fun k hk => ?_) hd
    obtain ⟨hf, hx, -, -⟩ := hk
    rw [Numeral.isWhole, hf, hx] at hw
    cases hw

/-! ## Trees -/

theorem Steps.ne_nil {cs : List Char} {es : List Expression} (h : Steps cs es) : es ≠ [] := by
  cases h
  · exact List.cons_ne_nil _ _
  · exact List.cons_ne_nil _ _

theorem Items.ne_nil {cs : List Char} {es : List Expression} (h : Items cs es) : es ≠ [] := by
  cases h
  · exact List.cons_ne_nil _ _
  · exact List.cons_ne_nil _ _

theorem renderAll_ne_nil {es : List Expression} (h : es ≠ []) : renderAll es ≠ [] := by
  obtain ⟨e, rest, rfl⟩ := List.exists_cons_of_ne_nil h
  exact List.cons_ne_nil _ _

theorem render_ofSteps (es : List Expression) :
    (ofSteps es).render = Text.join [' ', '|', ' '] (renderAll es) := by
  unfold ofSteps
  split
  · rfl
  · rw [render]

theorem blanks_space : Text.Blanks [' '] := by
  intro c hc
  rw [List.mem_singleton.1 hc]
  decide

mutual

/-- A term is printed as a text of that term. -/
theorem Term.rendered {cs : List Char} {e : Expression} (h : Term cs e) : Term e.render e := by
  match h with
  | .string (s := s) _ _ =>
    rw [render, Literal.render, String.toList_ofList]
    exact .string (.inl rfl) (quoted_escape s)
  | .constant hc => exact .constant hc.rendered
  | .selector hpath => exact .selector hpath
  | .number hn => exact .number hn.rendered
  | .name hname hc =>
    rw [render, String.toList_ofList]
    exact .name hname hc
  | .call hf _ _ =>
    rw [render, String.toList_ofList]
    exact .call hf .nil .nil
  | .callOn hf _ _ hitems _ =>
    have hcall := Term.callOn hf .nil .nil hitems.rendered .nil
    rw [render, String.toList_ofList]
    simpa using hcall

theorem Steps.rendered {cs : List Char} {es : List Expression} (h : Steps cs es) :
    Steps (Text.join [' ', '|', ' '] (renderAll es)) es := by
  match h with
  | .one hterm => exact .one hterm.rendered
  | .more hterm _ _ hsteps =>
    rw [renderAll, Text.join_cons _ _ (renderAll_ne_nil hsteps.ne_nil)]
    exact .more hterm.rendered blanks_space blanks_space hsteps.rendered

theorem Items.rendered {cs : List Char} {es : List Expression} (h : Items cs es) :
    Items (Text.join [',', ' '] (renderAll es)) es := by
  match h with
  | .one hsteps =>
    have hrendered := hsteps.rendered
    rw [← render_ofSteps] at hrendered
    exact .one hrendered
  | .more hsteps _ _ hitems =>
    have hrendered := hsteps.rendered
    rw [← render_ofSteps] at hrendered
    rw [renderAll, Text.join_cons _ _ (renderAll_ne_nil hitems.ne_nil)]
    exact .more hrendered .nil blanks_space hitems.rendered

end

end Grammar

/-- The printed text of what was read reads as the same expression: the same literals, whole
numbers and doubles kept apart, selectors with their texts and steps, names, arguments and
steps. -/
theorem read_text {s : String} {e : Expression} (h : read s = .ok e) : read e.text = .ok e := by
  have hpipe := read_eq_ok_iff.1 h
  have hne : Text.trim s.toList ≠ [] := fun hnil => readPipe_nil (hnil ▸ hpipe)
  obtain ⟨es, hsteps, rfl⟩ := derives_of_readPipe (Text.tight_trim hne) hpipe
  have hrendered := hsteps.rendered
  rw [← render_ofSteps] at hrendered
  refine read_eq_ok_iff.2 ?_
  rw [text, String.toList_ofList, Text.trim_of_tight hrendered.whole.1]
  exact readPipe_of_derives ⟨es, hrendered, rfl⟩

theorem read_text_quoted :
    read " \"it's\" |f" = .ok (.pipe [.literal (.string "it's"), .name "f"]) ∧
      read "'it\\'s' | f" = .ok (.pipe [.literal (.string "it's"), .name "f"]) := by
  have h : read " \"it's\" |f" = .ok (.pipe [.literal (.string "it's"), .name "f"]) := by cbv
  have hprinted : (pipe [.literal (.string "it's"), .name "f"]).text = "'it\\'s' | f" := rfl
  exact ⟨h, hprinted ▸ read_text h⟩

end Expression

end Reshape
