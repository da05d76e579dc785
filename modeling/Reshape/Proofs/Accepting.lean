import Reshape.Proofs.Terms

/-!
# Reading accepts the grammar

`read` gives an expression exactly when the grammar derives it from the text without
the blanks around it. Both scanners pass over every text of the grammar as a whole,
`Term.whole` and `Items.balanced`, so that they cut only where the grammar has a
separator; what they cut otherwise does not read.
-/

namespace Reshape

namespace Expression

open Text (Blanks Tight)
open Scan (Unbroken Ordinary Separated)
open Grammar

variable {cs f u inner : List Char} {separator : Char} {e : Expression} {es : List Expression}

/-! ## The reader, part by part -/

theorem mapM_attach {ε α β : Type} (as : List α) (read : α → Except ε β) :
    (as.attach.mapM fun a => read a.1) = as.mapM read := by
  calc (as.attach.mapM fun a => read a.1) = (as.attach.map Subtype.val).mapM read := by
        rw [List.mapM_map]
        rfl
    _ = as.mapM read := by rw [List.attach_map_subtype_val]

theorem readTerm_of_error {fault : Fault} (h : head cs = .error fault) : readTerm cs ≠ .ok e := by
  intro hread
  rw [readTerm] at hread
  split at hread
  · cases hread
  · rename_i hd
    cases h.symm.trans hd
  · rename_i hd
    cases h.symm.trans hd

theorem readTerm_of_done (h : head cs = .ok (.done e)) : readTerm cs = .ok e := by
  rw [readTerm]
  split
  · rename_i hd
    cases h.symm.trans hd
  · rename_i hd
    cases h.symm.trans hd
    rfl
  · rename_i hd
    cases h.symm.trans hd

theorem readTerm_nil : readTerm [] ≠ .ok e := by
  have hhead : head [] = .error .emptyTerm := rfl
  exact readTerm_of_error hhead

theorem readPipe_nil : readPipe [] ≠ .ok e := by
  intro h
  rw [readPipe] at h
  cases h

/-- A check for what fails anyway changes no result. -/
theorem guard_eq_ok_iff {c : Prop} [Decidable c] {fault : Fault} {read : Except Fault Expression}
    (h : c → read ≠ .ok e) : (if c then throw fault else read) = .ok e ↔ read = .ok e := by
  by_cases hc : c
  · rw [if_pos hc]
    exact iff_of_false (error_ne_ok _ _) (h hc)
  · rw [if_neg hc]

/-- The parts of a text are read one by one, whatever is checked of them before. -/
theorem mapM_guarded_eq_ok_iff {parts : List (List Char)} {es : List Expression} {fault : Fault}
    {c : List Char → Prop} [DecidablePred c] {read : List Char → Except Fault Expression}
    (h : ∀ p, c p → ∀ e, read p ≠ .ok e) :
    (parts.attach.mapM fun a => if c a.1 then throw fault else read a.1) = .ok es ↔
      List.Forall₂ (fun p e => read p = .ok e) parts es := by
  rw [mapM_attach parts fun p => if c p then throw fault else read p]
  simp only [mapM_eq_ok_iff, guard_eq_ok_iff (h _ · _)]

theorem ofSteps_eq (es : List Expression) :
    (match es with
      | [e] => Except.ok e
      | es => .ok (.pipe es) : Except Fault Expression) = .ok (ofSteps es) := by
  cases es with
  | nil => rfl
  | cons e es =>
    cases es with
    | nil => rfl
    | cons => rfl

theorem readPipe_eq_ok_iff : readPipe cs = .ok e ↔
    ∃ parts es, Scan.split '|' cs = .ok parts ∧
      List.Forall₂ (fun p e => readTerm p = .ok e) parts es ∧ e = ofSteps es := by
  rw [readPipe]
  split
  · rename_i hend
    obtain rfl := List.isEmpty_iff.1 hend
    refine iff_of_false (error_ne_ok _ _) ?_
    rintro ⟨parts, es, hparts, hes, -⟩
    cases hparts
    obtain - | ⟨hp, -⟩ := hes
    exact readTerm_nil hp
  · split
    · rename_i hs
      refine iff_of_false (error_ne_ok _ _) ?_
      rintro ⟨parts, es, hparts, -⟩
      cases hs.symm.trans hparts
    · rename_i parts hs
      have hempty (p : List Char) (hp : p.isEmpty = true ∧ 1 < parts.length) (e : Expression) :
          readTerm p ≠ .ok e := List.isEmpty_iff.1 hp.1 ▸ readTerm_nil
      rw [bind_eq_ok_iff]
      simp only [mapM_guarded_eq_ok_iff hempty, hs]
      constructor
      · rintro ⟨es, hes, h⟩
        refine ⟨parts, es, rfl, hes, ?_⟩
        have := h.symm.trans (ofSteps_eq es)
        exact Except.ok.inj this
      · rintro ⟨_, es, ⟨⟩, hes, rfl⟩
        exact ⟨es, hes, ofSteps_eq es⟩

theorem readTerm_eq_ok_iff {f : String} {arguments : List Char}
    (h : head cs = .ok (.application f arguments)) : readTerm cs = .ok e ↔
      (arguments = [] ∧ e = .call f []) ∨ ∃ parts es, Scan.split ',' arguments = .ok parts ∧
        List.Forall₂ (fun p e => readPipe p = .ok e) parts es ∧ e = .call f es := by
  rw [readTerm]
  split
  · rename_i hd
    cases h.symm.trans hd
  · rename_i hd
    cases h.symm.trans hd
  · rename_i hd
    cases h.symm.trans hd
    split
    · rename_i hend
      obtain rfl := List.isEmpty_iff.1 hend
      constructor
      · rintro ⟨⟩
        exact .inl ⟨rfl, rfl⟩
      · rintro (⟨-, rfl⟩ | ⟨parts, es, hparts, hes, -⟩)
        · rfl
        · cases hparts
          obtain - | ⟨hp, -⟩ := hes
          exact absurd hp readPipe_nil
    · rename_i hend
      have hne : arguments ≠ [] := fun he => hend (List.isEmpty_iff.2 he)
      simp only [hne, false_and, false_or]
      split
      · rename_i hs
        refine iff_of_false (error_ne_ok _ _) ?_
        rintro ⟨parts, es, hparts, -⟩
        cases hs.symm.trans hparts
      · rename_i parts hs
        have hempty (p : List Char) (hp : p.isEmpty = true) (e : Expression) :
            readPipe p ≠ .ok e := List.isEmpty_iff.1 hp ▸ readPipe_nil
        rw [bind_eq_ok_iff]
        simp only [mapM_guarded_eq_ok_iff hempty, hs]
        constructor
        · rintro ⟨es, hes, h⟩
          obtain rfl := Except.ok.inj h
          exact ⟨parts, es, rfl, hes, rfl⟩
        · rintro ⟨_, es, ⟨⟩, hes, rfl⟩
          exact ⟨es, hes, rfl⟩

/-! ## What the scanners make of the grammar -/

theorem unbroken_application (hs : separator = ',' ∨ separator = '|') (hf : Name f)
    (hu : Blanks u) (h : Scan.start.run? inner = some Scan.start) :
    Unbroken separator (f ++ (u ++ '(' :: (inner ++ [')']))) := by
  have hspecial : separator ∈ Scan.special := by
    rcases hs with rfl | rfl
    · decide
    · decide
  have hparens : Unbroken separator ('(' :: (inner ++ [')'])) := by
    have hopen : '(' ≠ separator := by
      rcases hs with rfl | rfl
      · decide
      · decide
    unfold Unbroken
    rw [Scan.skim?, if_neg fun h => hopen h.1]
    show Scan.skim? separator Scan.start.nested (inner ++ [')']) = some Scan.start
    rw [Scan.skim?_append, Scan.skim?_nested h]
    show Scan.skim? separator Scan.start.nested [')'] = some Scan.start
    rw [Scan.skim?, if_neg (by simp [Scan.isTop_nested])]
    rfl
  exact (Scan.unbroken_of_ordinary hspecial hf.ordinary).append
    ((Scan.unbroken_of_blanks hspecial hu).append hparens)

theorem tight_application (hf : Name f) (u inner : List Char) :
    Tight (f ++ (u ++ '(' :: (inner ++ [')']))) := by
  have hclose : Tight [')'] := ⟨⟨_, rfl, by decide⟩, _, rfl, by decide⟩
  have := (Scan.tight_of_ordinary hf.ordinary hf.ne_nil).append (u ++ '(' :: inner) hclose
  simpa using this

/-- All that the text opens it closes. -/
def Balanced (cs : List Char) : Prop := Scan.start.run? cs = some Scan.start

theorem balanced_of_unbroken (h : Unbroken separator cs) : Balanced cs := Scan.run?_of_skim? h

theorem Balanced.append {ds : List Char} (hc : Balanced cs) (hd : Balanced ds) :
    Balanced (cs ++ ds) := by
  unfold Balanced at *
  rw [Scan.run?_append, hc]
  exact hd

theorem balanced_of_blanks (h : Blanks cs) : Balanced cs := by
  have hcomma : Unbroken ',' cs := Scan.unbroken_of_blanks (by decide) h
  exact balanced_of_unbroken hcomma

theorem ordinary_of_spells {n : Numeral} (h : Spells cs n) : ∀ c ∈ cs, Ordinary c := by
  intro c hc
  rcases h.isNumeralChar c hc with hdigit | hother
  · exact Scan.ordinary_of_isDigit hdigit
  · exact Scan.ordinary_of_all (by decide) c hother

theorem ordinary_of_constant {value : Literal} (h : Constant cs value) :
    ∀ c ∈ cs, Ordinary c := by
  cases h
  · exact Scan.ordinary_of_all (by decide)
  · exact Scan.ordinary_of_all (by decide)
  · exact Scan.ordinary_of_all (by decide)

namespace Grammar

theorem Spells.ne_nil {n : Numeral} (h : Spells cs n) : cs ≠ [] := by
  rintro rfl
  obtain ⟨c, hc, -⟩ := h.exists_head
  cases hc

theorem Constant.ne_nil {value : Literal} (h : Constant cs value) : cs ≠ [] := by
  rintro rfl
  obtain ⟨c, hc, -⟩ := h.exists_head
  cases hc

/-- A word is passed over as a whole. -/
theorem whole_of_ordinary (hs : separator = ',' ∨ separator = '|') (h : ∀ c ∈ cs, Ordinary c)
    (hne : cs ≠ []) : Tight cs ∧ Unbroken separator cs := by
  have hspecial : separator ∈ Scan.special := by
    rcases hs with rfl | rfl
    · decide
    · decide
  exact ⟨Scan.tight_of_ordinary h hne, Scan.unbroken_of_ordinary hspecial h⟩

mutual

/-- A term is passed over as a whole. -/
theorem Term.whole {cs : List Char} {e : Expression} (h : Term cs e) {separator : Char}
    (hs : separator = ',' ∨ separator = '|') : Tight cs ∧ Unbroken separator cs := by
  match h with
  | @Term.string quote _ _ hq hbody =>
    have hne : separator ≠ quote := by
      rintro rfl
      rcases hs with rfl | rfl
      · exact absurd hq (by decide)
      · exact absurd hq (by decide)
    exact ⟨tight_string hq _, unbroken_string hne hq hbody⟩
  | .constant hc => exact whole_of_ordinary hs (ordinary_of_constant hc) hc.ne_nil
  | .selector hpath =>
    obtain ⟨-, hdollar, hordinary, -⟩ := Selector.read_source hpath
    exact whole_of_ordinary hs hordinary fun hnil => by simp [hnil] at hdollar
  | .number (.word hn _) => exact whole_of_ordinary hs (ordinary_of_spells hn) hn.ne_nil
  | .number (.double hn _ _) => exact whole_of_ordinary hs (ordinary_of_spells hn) hn.ne_nil
  | .name hname _ => exact whole_of_ordinary hs hname.ordinary hname.ne_nil
  | .call hf hu hv =>
    exact ⟨tight_application hf _ _, unbroken_application hs hf hu (balanced_of_blanks hv)⟩
  | .callOn hf hu hv hitems hw =>
    have hinner := (balanced_of_blanks hv).append
      (hitems.balanced.2.append (balanced_of_blanks hw))
    exact ⟨tight_application hf _ _, unbroken_application hs hf hu hinner⟩

/-- In the steps of a pipe no comma counts. -/
theorem Steps.whole {cs : List Char} {es : List Expression} (h : Steps cs es) :
    Tight cs ∧ Unbroken ',' cs := by
  match h with
  | .one hterm => exact hterm.whole (.inl rfl)
  | .more (v := v) (w := w) hterm hv hw hsteps =>
    obtain ⟨htight, hunbroken⟩ := hterm.whole (.inl rfl)
    obtain ⟨htight', hunbroken'⟩ := hsteps.whole
    have hbar : Unbroken ',' ['|'] := rfl
    have hblanks {v : List Char} (h : Blanks v) : Unbroken ',' v :=
      Scan.unbroken_of_blanks (by decide) h
    refine ⟨by simpa using htight.append (v ++ '|' :: w) htight', ?_⟩
    exact hunbroken.append ((hblanks hv).append (hbar.append ((hblanks hw).append hunbroken')))

/-- Between parentheses the items leave nothing open. -/
theorem Items.balanced {cs : List Char} {es : List Expression} (h : Items cs es) :
    Tight cs ∧ Balanced cs := by
  match h with
  | .one hsteps => exact ⟨hsteps.whole.1, balanced_of_unbroken hsteps.whole.2⟩
  | .more (v := v) (w := w) hsteps hv hw hitems =>
    obtain ⟨htight, hunbroken⟩ := hsteps.whole
    obtain ⟨htight', hbalanced'⟩ := hitems.balanced
    have hcomma : Balanced [','] := rfl
    refine ⟨by simpa using htight.append (v ++ ',' :: w) htight', ?_⟩
    exact (balanced_of_unbroken hunbroken).append ((balanced_of_blanks hv).append
      (hcomma.append ((balanced_of_blanks hw).append hbalanced')))

end

/-! ## From parts to trees -/

theorem steps_of_separated {parts : List (List Char)} (h : Separated '|' parts cs)
    (hp : List.Forall₂ Term parts es) : Steps cs es := by
  induction h generalizing es with
  | one part =>
    obtain - | ⟨he, ⟨⟩⟩ := hp
    exact .one he
  | more part hv hw _ ih =>
    obtain - | ⟨he, hes⟩ := hp
    exact .more he hv hw (ih hes)

theorem items_of_separated {parts : List (List Char)} (h : Separated ',' parts cs)
    (hp : List.Forall₂ Derives parts es) : Items cs es := by
  induction h generalizing es with
  | one part =>
    obtain - | ⟨⟨steps, hsteps, rfl⟩, ⟨⟩⟩ := hp
    exact .one hsteps
  | more part hv hw _ ih =>
    obtain - | ⟨⟨steps, hsteps, rfl⟩, hes⟩ := hp
    exact .more hsteps hv hw (ih hes)

end Grammar

/-! ## What reads is derived -/

mutual

theorem term_of_readTerm {cs : List Char} {e : Expression} (ht : Tight cs)
    (h : readTerm cs = .ok e) : Term cs e := by
  match hd : head cs with
  | .error _ => exact absurd h (readTerm_of_error hd)
  | .ok shown =>
    rcases shown_of_head ht hd with ⟨e', he', rfl⟩ | ⟨f, u, inner, hf, hu, hcs, rfl⟩
    · rw [readTerm_of_done hd] at h
      cases h
      exact he'
    · obtain ⟨v, w, hv, hw, hinner⟩ := Text.exists_padding inner
      have hlength := length_lt_of_head hd
      rcases (readTerm_eq_ok_iff hd).1 h with ⟨hnil, rfl⟩ | ⟨parts, es, hsplit, hes, rfl⟩
      · rw [hnil, List.nil_append] at hinner
        rw [hcs, hinner]
        exact .call hf hu (hv.append hw)
      · have hne := forall_mem_of_forall₂ (P := (· ≠ [])) hes fun p e hp he =>
          readPipe_nil (he ▸ hp)
        have htight : Tight (Text.trim inner) := Text.tight_trim fun hnil => by
          rw [hnil] at hsplit
          cases hsplit
          exact hne [] (List.mem_singleton_self _) rfl
        have hitems : List.Forall₂ Derives parts es := by
          refine ((List.forall₂_and_left ..).2 ⟨fun _ hp => hp, hes⟩).imp fun p e hpe => ?_
          obtain ⟨hp, he⟩ := hpe
          have := Scan.length_le_of_mem_split hsplit hp
          exact derives_of_readPipe (Scan.tight_of_mem_split hsplit hp (hne p hp)) he
        have hseparated := Scan.separated_of_split hsplit htight hne
        rw [hcs, hinner]
        exact .callOn hf hu hv (items_of_separated hseparated hitems) hw
termination_by (cs.length, 0)
decreasing_by exact Prod.Lex.left _ _ (by omega)

theorem derives_of_readPipe {cs : List Char} {e : Expression} (ht : Tight cs)
    (h : readPipe cs = .ok e) : Derives cs e := by
  obtain ⟨parts, es, hsplit, hes, rfl⟩ := readPipe_eq_ok_iff.1 h
  have hne := forall_mem_of_forall₂ (P := (· ≠ [])) hes fun p e hp he => readTerm_nil (he ▸ hp)
  have hterms : List.Forall₂ Term parts es := by
    refine ((List.forall₂_and_left ..).2 ⟨fun _ hp => hp, hes⟩).imp fun p e hpe => ?_
    obtain ⟨hp, he⟩ := hpe
    have hlength := Scan.length_le_of_mem_split hsplit hp
    exact term_of_readTerm (Scan.tight_of_mem_split hsplit hp (hne p hp)) he
  exact ⟨es, steps_of_separated (Scan.separated_of_split hsplit ht hne) hterms, rfl⟩
termination_by (cs.length, 1)
decreasing_by
  rcases Nat.lt_or_eq_of_le hlength with h | h
  · exact Prod.Lex.left _ _ h
  · rw [h]
    exact Prod.Lex.right _ (by decide)

end

/-! ## What is derived reads -/

theorem readPipe_of_separated {parts : List (List Char)} (hs : Separated '|' parts cs)
    (h : List.Forall₂ (fun p e => Term p e ∧ readTerm p = .ok e) parts es) :
    readPipe cs = .ok (ofSteps es) := by
  have hsplit := Scan.split_of_separated (by decide) hs
    (forall_mem_of_forall₂ h fun p e hp => (hp.1.whole (.inr rfl)).symm)
  exact readPipe_eq_ok_iff.2 ⟨parts, es, hsplit, h.imp fun _ _ => And.right, rfl⟩

mutual

theorem readTerm_of_term {cs : List Char} {e : Expression} (h : Term cs e) :
    readTerm cs = .ok e := by
  match h with
  | .string hq hbody => exact readTerm_of_done (head_of_string hq hbody)
  | .constant hc => exact readTerm_of_done (head_of_constant hc)
  | .selector hpath => exact readTerm_of_done (head_of_selector hpath)
  | .number hn => exact readTerm_of_done (head_of_number hn)
  | .name hname hc => exact readTerm_of_done (head_of_name hname hc)
  | .call hf hu hv =>
    have hd := head_of_application hf hu (balanced_of_blanks hv)
    exact (readTerm_eq_ok_iff hd).2 (.inl ⟨Text.trim_of_blanks hv, rfl⟩)
  | .callOn hf hu hv hitems hw =>
    obtain ⟨htight, hbalanced⟩ := hitems.balanced
    have hd := head_of_application hf hu
      ((balanced_of_blanks hv).append (hbalanced.append (balanced_of_blanks hw)))
    rw [Text.trim_padded hv htight hw] at hd
    obtain ⟨parts, hs, hparts⟩ := exists_parts_of_items hitems
    have hsplit := Scan.split_of_separated (by decide) hs
      (forall_mem_of_forall₂ hparts fun p e hp => hp.1)
    exact (readTerm_eq_ok_iff hd).2
      (.inr ⟨parts, _, hsplit, hparts.imp fun _ _ => And.right, rfl⟩)

theorem exists_parts_of_steps {cs : List Char} {es : List Expression} (h : Steps cs es) :
    ∃ parts, Separated '|' parts cs ∧
      List.Forall₂ (fun p e => Term p e ∧ readTerm p = .ok e) parts es := by
  match h with
  | .one hterm => exact ⟨_, .one _, .cons ⟨hterm, readTerm_of_term hterm⟩ .nil⟩
  | .more hterm hv hw hsteps =>
    obtain ⟨parts, hs, hparts⟩ := exists_parts_of_steps hsteps
    exact ⟨_, .more _ hv hw hs, .cons ⟨hterm, readTerm_of_term hterm⟩ hparts⟩

theorem exists_parts_of_items {cs : List Char} {es : List Expression} (h : Items cs es) :
    ∃ parts, Separated ',' parts cs ∧
      List.Forall₂ (fun p e => (Unbroken ',' p ∧ Tight p) ∧ readPipe p = .ok e) parts es := by
  match h with
  | .one hsteps =>
    obtain ⟨steps, hs, hsteps'⟩ := exists_parts_of_steps hsteps
    exact ⟨_, .one _, .cons ⟨hsteps.whole.symm, readPipe_of_separated hs hsteps'⟩ .nil⟩
  | .more hsteps hv hw hitems =>
    obtain ⟨steps, hs, hsteps'⟩ := exists_parts_of_steps hsteps
    obtain ⟨parts, hs', hparts⟩ := exists_parts_of_items hitems
    exact ⟨_, .more _ hv hw hs', .cons ⟨hsteps.whole.symm, readPipe_of_separated hs hsteps'⟩ hparts⟩

end

theorem readPipe_of_derives (h : Derives cs e) : readPipe cs = .ok e := by
  obtain ⟨es, hsteps, rfl⟩ := h
  obtain ⟨parts, hs, hparts⟩ := exists_parts_of_steps hsteps
  exact readPipe_of_separated hs hparts

theorem read_eq_ok_iff {text : String} :
    read text = .ok e ↔ readPipe (Text.trim text.toList) = .ok e := by
  unfold read
  split
  · rename_i hread
    rw [hread]
    exact ⟨fun h => congrArg _ (Except.ok.inj h), fun h => congrArg _ (Except.ok.inj h)⟩
  · rename_i hread
    rw [hread]
    exact iff_of_false (error_ne_ok _ _) (error_ne_ok _ _)

/-- A text reads as an expression exactly when the grammar derives the expression from the
text without the blanks around it. -/
theorem read_iff_derives (text : String) (e : Expression) :
    read text = .ok e ↔ Derives (Text.trim text.toList) e := by
  rw [read_eq_ok_iff]
  constructor
  · intro h
    have hne : Text.trim text.toList ≠ [] := fun hnil => readPipe_nil (hnil ▸ h)
    exact derives_of_readPipe (Text.tight_trim hne) h
  · exact readPipe_of_derives

/-- A bar within quotes is text. -/
example : read "'a|b' |f" = .ok (.pipe [.literal (.string "a|b"), .name "f"]) := by cbv

end Expression

end Reshape
