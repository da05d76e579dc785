import Reshape.Document.Skip
import Reshape.Proofs.DocumentText
import Reshape.Proofs.Results

/-!
# Values that are passed over

Passing over a value checks less than reading it, and takes the same piece of the text:
`Document.skip_of_value`. The cases are those of the reader, container by container; a pair of
escapes that is read as one character is passed over one by one, `skipString_of_escaped`.
-/

namespace Reshape

namespace Document

/-! ## Pieces -/

section Pieces

variable {α β : Type} {cs mid rest : List Char} {a a' : α} {b : β} {x : Except Halt (Piece α cs)}

theorem gives_of_eq {p : Piece α cs} (h : x = .ok p) : Gives x p.value p.rest :=
  ⟨p.shorter, h⟩

theorem Gives.widen {ds : List Char} {hle : cs.length ≤ ds.length} (h : Gives x a rest) :
    Gives (x.map fun p => p.widen hle) a rest := by
  obtain ⟨hr, rfl⟩ := h
  exact ⟨Nat.lt_of_lt_of_le hr hle, rfl⟩

theorem Gives.andThen {next : (p : Piece α cs) → Except Halt (Piece β p.rest)}
    (hx : Gives x a mid) (hnext : ∀ h, Gives (next ⟨a, mid, h⟩) b rest) :
    Gives (andThen x next) b rest := by
  obtain ⟨hm, rfl⟩ := hx
  obtain ⟨hr, hnext⟩ := hnext hm
  refine ⟨Nat.lt_trans hr hm, ?_⟩
  show (next ⟨a, mid, hm⟩ >>= _) = _
  rw [hnext]
  rfl

/-! ## Brackets -/

variable {close : Char} {fault : ReadFault}

theorem gives_emptyOr_closed (h : skipSpace cs = close :: rest) :
    Gives (emptyOr a close fault x) a rest := by
  unfold emptyOr
  split
  · rename_i hnil
    cases hnil.symm.trans h
  · rename_i c after hafter
    obtain ⟨rfl, rfl⟩ := List.cons.inj (hafter.symm.trans h)
    exact ⟨_, if_pos rfl⟩

theorem gives_emptyOr_open (hnil : skipSpace cs ≠ [])
    (hopen : ∀ after, skipSpace cs ≠ close :: after) (h : Gives x a' rest) :
    Gives (emptyOr a close fault x) a' rest := by
  unfold emptyOr
  split
  · rename_i hnil'
    exact absurd hnil' hnil
  · rename_i c after hafter
    have hne : c ≠ close := fun hc => hopen after (hc ▸ hafter)
    rw [if_neg hne]
    exact h

end Pieces

/-! ## Passing over what can be read -/

section Skip

variable {cs rest : List Char} {c : Char}

theorem skipString_escape {q : Piece Unit cs} (hq : skipEscape cs = .ok q)
    (h : Gives (skipString q.rest) () rest) : Gives (skipString ('\\' :: cs)) () rest := by
  rw [skipString]
  exact ((gives_of_eq hq).andThen fun _ => h).widen

theorem skipEscape_code {q : Piece Nat cs} (hq : hexUnit cs = .ok q) :
    skipEscape ('u' :: cs) = .ok ⟨(), q.rest, Nat.lt_succ_of_lt q.shorter⟩ := by
  unfold skipEscape
  dsimp only
  rw [if_pos rfl, hq]
  rfl

/-- A character behind a backslash, or the two halves of one, are passed over. -/
theorem skipString_of_escaped {p : Piece Char cs} (h : escaped cs = .ok p)
    (hrest : Gives (skipString p.rest) () rest) : Gives (skipString ('\\' :: cs)) () rest := by
  unfold escaped at h
  split at h
  · cases h
  · rename_i x xs
    split_ifs at h with hx
    · subst hx
      obtain ⟨q, hq, rfl⟩ := map_eq_ok_iff.1 h
      obtain ⟨high, hhigh, hq⟩ := bind_eq_ok_iff.1 hq
      refine skipString_escape (skipEscape_code hhigh) ?_
      dsimp only
      split_ifs at hq
      · split at hq
        · rename_i more hmore
          obtain ⟨low, hlow, hq⟩ := bind_eq_ok_iff.1 hq
          split_ifs at hq
          have hlast : low.rest = q.rest := congrArg Piece.rest (Except.ok.inj hq)
          rw [hmore]
          exact skipString_escape (skipEscape_code hlow) (hlast ▸ hrest)
        all_goals cases hq
      · cases hq
        exact hrest
    · split at h
      · rename_i d hd
        cases h
        have hskip : skipEscape (x :: xs) = .ok ⟨(), xs, Nat.lt_succ_self _⟩ := by
          unfold skipEscape
          dsimp only
          rw [if_neg hx, if_pos (by rw [hd]; rfl)]
        exact skipString_escape hskip hrest
      · cases h

theorem skipString_of_stringBody {p : Piece (List Char) cs} (h : stringBody cs = .ok p) :
    Gives (skipString cs) () p.rest := by
  induction cs using stringBody.induct with
  | case1 =>
    rw [stringBody] at h
    cases h
  | case2 rest =>
    rw [stringBody] at h
    cases h
    rw [skipString]
    exact ⟨_, rfl⟩
  | case3 xs ih =>
    rw [stringBody] at h
    obtain ⟨c, hc, h⟩ := bind_eq_ok_iff.1 h
    obtain ⟨body, hbody, h⟩ := bind_eq_ok_iff.1 h
    cases h
    exact skipString_of_escaped hc (ih c hbody)
  | case4 c xs hquote hslash hcontrol =>
    rw [stringBody, if_pos hcontrol] at h
    · cases h
    · exact hquote
    · exact hslash
  | case5 c xs hquote hslash hcontrol ih =>
    rw [stringBody, if_neg hcontrol] at h
    · obtain ⟨body, hbody, h⟩ := bind_eq_ok_iff.1 h
      cases h
      rw [skipString, if_neg hcontrol]
      · exact (ih hbody).widen
      · exact hquote
      · exact hslash
    · exact hquote
    · exact hslash

theorem word_congr {α β : Type} {a v : α} {ws : List Char} (b : β)
    (h : word a ws cs = .ok (v, rest)) : word b ws cs = .ok (b, rest) := by
  induction ws generalizing cs with
  | nil =>
    cases h
    rfl
  | cons w ws ih =>
    cases cs with
    | nil => cases h
    | cons c cs =>
      unfold word at h ⊢
      split_ifs at h with hw
      rw [if_pos hw]
      exact ih h

theorem skip_word {d : Document} {ws : List Char} {p : Piece Document (c :: cs)}
    (h : fixedWord d ws c cs = .ok p) : Gives (fixedWord () ws c cs) () p.rest := by
  unfold fixedWord at h ⊢
  split at h
  · rename_i v left hword
    cases h
    have hunit := word_congr () hword
    split
    · rename_i v' left' hword'
      cases hunit.symm.trans hword'
      exact ⟨_, rfl⟩
    · rename_i e herror
      cases hunit.symm.trans herror
  · cases h

theorem skipNumeral_of_numeral {p : Piece Document cs} (h : numeral cs = .ok p) :
    Gives (skipNumeral cs) () p.rest := by
  unfold numeral at h
  unfold skipNumeral
  dsimp only at h ⊢
  split at h
  · rename_i hstrict
    split at h
    · split at h
      · rename_i hshorter
        cases h
        rw [dif_pos ⟨hstrict, hshorter⟩]
        exact ⟨_, rfl⟩
      · cases h
    · cases h
  · cases h

/-- A number out of range is passed over as well. -/
example : (skipNumeral "1e999".toList).isOk = true ∧ (numeral "1e999".toList).isOk = false := by
  decide +kernel

end Skip

mutual

/-- Whatever is read as a document is passed over. -/
theorem skip_of_value {room : Nat} {cs : List Char} {p : Piece Document cs}
    (h : value room cs = .ok p) : Gives (skip cs) () p.rest := by
  have hword {d : Document} {letters rest : List Char} {c : Char}
      {hr : (c :: rest).length ≤ cs.length}
      (h : (fixedWord d letters c rest).map (fun q => q.widen hr) = .ok p) :
      Gives ((fixedWord () letters c rest).map fun q => q.widen hr) () p.rest := by
    obtain ⟨q, hq, rfl⟩ := map_eq_ok_iff.1 h
    exact (skip_word hq).widen
  unfold skip
  split
  · rename_i hnil
    unfold value at h
    split at h
    · cases h
    · rename_i hcs
      cases hnil.symm.trans hcs
  · rename_i c rest hcs
    have hr : rest.length < cs.length := length_le_of_skipSpace hcs
    unfold value at h
    split at h
    · cases h
    · rename_i c' rest' hcs'
      cases hcs.symm.trans hcs'
      dsimp only
      split_ifs at h ⊢
      · exact hword h
      · exact hword h
      · exact hword h
      · obtain ⟨body, hbody, h⟩ := bind_eq_ok_iff.1 h
        cases h
        exact (skipString_of_stringBody hbody).widen
      · split at h
        · cases h
        · cases h
        · rename_i after hafter
          cases h
          exact (gives_emptyOr_closed hafter).widen
        · rename_i hnil hopen
          obtain ⟨list, hlist, h⟩ := bind_eq_ok_iff.1 h
          cases h
          exact (gives_emptyOr_open hnil hopen (skipItems_of_items hlist)).widen
      · split at h
        · cases h
        · cases h
        · rename_i after hafter
          cases h
          exact (gives_emptyOr_closed hafter).widen
        · rename_i hnil hopen
          obtain ⟨list, hlist, h⟩ := bind_eq_ok_iff.1 h
          cases h
          exact (gives_emptyOr_open hnil hopen (skipEntries_of_entries hlist)).widen
      · obtain ⟨q, hq, rfl⟩ := map_eq_ok_iff.1 h
        exact (skipNumeral_of_numeral hq).widen
      · cases h
termination_by (cs.length, 0)

theorem skipItems_of_items {room : Nat} {cs : List Char} {p : Piece (List Document) cs}
    (h : items room cs = .ok p) : Gives (skipItems cs) () p.rest := by
  unfold items at h
  obtain ⟨item, hitem, h⟩ := bind_eq_ok_iff.1 h
  have hi := item.shorter
  unfold skipItems
  refine (skip_of_value hitem).andThen fun _ => ?_
  dsimp only
  split
  · rename_i hnil
    split at h
    · cases h
    · rename_i hrest
      cases hnil.symm.trans hrest
  · rename_i c rest hrest
    have hr : rest.length < cs.length := by
      have := length_le_of_skipSpace hrest
      omega
    split at h
    · cases h
    · rename_i c' rest' hrest'
      cases hrest.symm.trans hrest'
      split_ifs at h ⊢
      · cases h
        exact ⟨_, rfl⟩
      · cases h
      · obtain ⟨more, hmore, h⟩ := bind_eq_ok_iff.1 h
        cases h
        exact (skipItems_of_items hmore).widen
      · cases h
termination_by (cs.length, 1)

theorem skipEntries_of_entries {room : Nat} {cs : List Char}
    {p : Piece (List (String × Document)) cs} (h : entries room cs = .ok p) :
    Gives (skipEntries cs) () p.rest := by
  unfold skipEntries
  split
  · rename_i hnil
    unfold entries at h
    split at h
    · cases h
    · rename_i hcs
      cases hnil.symm.trans hcs
  · rename_i q rest hcs
    unfold entries at h
    split at h
    · cases h
    · rename_i q' rest' hcs'
      cases hcs.symm.trans hcs'
      split_ifs at h ⊢
      · obtain ⟨key, hkey, h⟩ := bind_eq_ok_iff.1 h
        obtain ⟨mark, hmark, h⟩ := bind_eq_ok_iff.1 h
        have hv : mark.rest.length < cs.length := by
          have := length_le_of_skipSpace hcs
          have := key.shorter
          have := mark.shorter
          omega
        obtain ⟨member, hmember, h⟩ := bind_eq_ok_iff.1 h
        refine Gives.widen ((skipString_of_stringBody hkey).andThen fun _ =>
          (gives_of_eq hmark).andThen fun _ => (skip_of_value hmember).andThen fun _ => ?_)
        dsimp only
        split
        · rename_i hnil
          split at h
          · cases h
          · rename_i hafter
            cases hnil.symm.trans hafter
        · rename_i c after hafter
          have hr : after.length < cs.length := by
            have := length_le_of_skipSpace hafter
            have := member.shorter
            omega
          split at h
          · cases h
          · rename_i c' after' hafter'
            cases hafter.symm.trans hafter'
            split_ifs at h ⊢
            · cases h
              exact ⟨_, rfl⟩
            · cases h
            · obtain ⟨more, hmore, h⟩ := bind_eq_ok_iff.1 h
              cases h
              exact (skipEntries_of_entries hmore).widen
            · cases h
      · cases h
termination_by (cs.length, 0)

end

end Document

end Reshape
