import Reshape.Proofs.Skipping
import Reshape.Transform.Config

/-!
# Configurations in text

A configuration is read back from its written form, `Config.read_toDocument`. Behind another key
than `mode` and `maxDepth` may stand whatever can be passed over, which leaves the configuration as
it is: `Config.gives_readField_skip`.
-/

namespace Reshape

theorem Digits.eq_zero_of_head_ofNat {n : Nat} (h : (Digits.ofNat n).head? = some '0') : n = 0 := by
  induction n using Nat.strongRecOn with
  | ind n ih =>
    rw [ofNat] at h
    split at h
    · have hvalue := congrArg valueOf (Option.some.inj h)
      rw [valueOf_digit] at hvalue
      have hzero : valueOf '0' = 0 := rfl
      omega
    · rw [List.head?_append_of_ne_nil _ (ofNat_ne_nil _)] at h
      have := ih (n / 10) (by omega) h
      omega

namespace Config

open Document (Gives Halt Piece gives_emptyOr_open gives_stringBody_escapes)
open Expression.Grammar (takeSign_append takeDigits_append)

variable {cs rest : List Char}

theorem gives_readName (expected s : String) (rest : List Char) :
    Gives (readName expected (Document.quote s ++ rest)) s rest := by
  obtain ⟨hr, hs⟩ := gives_stringBody_escapes s.toList rest
  unfold Document.quote
  rw [List.cons_append, List.append_assoc, List.singleton_append]
  unfold readName
  split
  · rename_i cs h
    cases (List.cons.inj h).2
    rw [hs]
    refine ⟨Nat.lt_succ_of_lt hr, ?_⟩
    show Except.ok (Piece.mk (String.ofList s.toList) rest _) = _
    rw [String.ofList_toList]
  · rename_i h
    exact absurd rfl (h _)

theorem gives_readMode (m : Mode) (rest : List Char) :
    Gives (readMode (Document.quote m.name ++ rest)) m rest := by
  have hname : Mode.ofName? m.name = some m := by cases m <;> rfl
  have hread : Gives (readModeName (Document.quote m.name ++ rest)) m rest := by
    obtain ⟨hr, hs⟩ := gives_readName "variant identifier" m.name rest
    unfold readModeName
    rw [hs]
    dsimp only [bind, Except.bind]
    rw [hname]
    exact ⟨hr, rfl⟩
  unfold readMode
  split
  · rename_i h
    cases h
  · rename_i c cs h
    obtain ⟨rfl, rfl⟩ := List.cons.inj h
    rw [if_pos rfl]
    exact hread.widen

theorem ne_of_isDigit {c x : Char} (hc : Digits.isDigit c = true) (hx : Digits.isDigit x = false) :
    c ≠ x :=
  fun h => Bool.false_ne_true ((h ▸ hx).symm.trans hc)

theorem skipSpace_of_isDigit {c : Char} (hc : Digits.isDigit c = true) (cs : List Char) :
    Document.skipSpace (c :: cs) = c :: cs := by
  have hspace : ¬ Document.isSpace c = true := by
    unfold Document.isSpace
    simp [ne_of_isDigit hc (x := ' ') rfl, ne_of_isDigit hc (x := '\n') rfl,
      ne_of_isDigit hc (x := '\t') rfl, ne_of_isDigit hc (x := '\r') rfl]
  exact List.dropWhile_cons_of_neg hspace

theorem exists_digit (n : Nat) : ∃ c ds, Digits.ofNat n = c :: ds ∧ Digits.isDigit c = true := by
  obtain ⟨c, ds, hds⟩ := List.exists_cons_of_ne_nil (Digits.ofNat_ne_nil n)
  exact ⟨c, ds, hds, Digits.isDigit_of_mem_ofNat (n := n) (hds ▸ List.mem_cons_self)⟩

/-- The digits of a number up to a closing brace. -/
theorem scan_ofNat (n : Nat) (rest : List Char) :
    Numeral.scan (Digits.ofNat n ++ '\x7d' :: rest)
      = (⟨none, Digits.ofNat n, none, none⟩, '\x7d' :: rest) := by
  have hsign : Numeral.takeSign (Digits.ofNat n ++ '\x7d' :: rest)
      = (none, Digits.ofNat n ++ '\x7d' :: rest) := by
    obtain ⟨c, ds, hds, hc⟩ := exists_digit n
    refine takeSign_append .none fun x hx => ?_
    rw [hds] at hx
    cases hx
    simp [ne_of_isDigit hc (x := '+') rfl, ne_of_isDigit hc (x := '-') rfl]
  have hwhole : Numeral.takeDigits (Digits.ofNat n ++ '\x7d' :: rest)
      = (Digits.ofNat n, '\x7d' :: rest) :=
    takeDigits_append (fun _ hc => Digits.isDigit_of_mem_ofNat hc) fun c hc => by cases hc; rfl
  unfold Numeral.scan
  rw [hsign]
  dsimp only
  rw [hwhole]
  rfl

theorem isStrict_ofNat (n : Nat) :
    (⟨none, Digits.ofNat n, none, none⟩ : Numeral).isStrict = true := by
  have hhead : (Digits.ofNat n == ['0'] || (Digits.ofNat n).head? != some '0') = true := by
    by_cases h : (Digits.ofNat n).head? = some '0'
    · rw [Digits.eq_zero_of_head_ofNat h, Digits.ofNat]
      rfl
    · rw [bne_iff_ne.2 h, Bool.or_true]
  have hne : (Digits.ofNat n).isEmpty = false := List.isEmpty_eq_false_iff.2 (Digits.ofNat_ne_nil n)
  unfold Numeral.isStrict
  rw [hne, hhead]
  rfl

theorem ofNumeral_ofNat {n : Nat} (hn : n < 2 ^ 64) :
    Number.ofNumeral ⟨none, Digits.ofNat n, none, none⟩ = .ok (.whole n) := by
  have hint : (⟨none, Digits.ofNat n, none, none⟩ : Numeral).toInt = n :=
    congrArg Nat.cast (Digits.value_ofNat n)
  have hfits : Number.fitsWord n = true := by
    unfold Number.fitsWord
    simp
    omega
  unfold Number.ofNumeral
  rw [hint, hfits]
  rfl

theorem gives_numeral_ofNat {n : Nat} (hn : n < 2 ^ 64) (rest : List Char) :
    Gives (Document.numeral (Digits.ofNat n ++ '\x7d' :: rest)) (Document.ofNat n)
      ('\x7d' :: rest) := by
  have hshorter : ('\x7d' :: rest).length < (Digits.ofNat n ++ '\x7d' :: rest).length := by
    rw [List.length_append]
    exact Nat.lt_add_of_pos_left (List.length_pos_of_ne_nil (Digits.ofNat_ne_nil n))
  unfold Document.numeral
  rw [scan_ofNat]
  dsimp only
  rw [if_pos (isStrict_ofNat n), ofNumeral_ofNat hn]
  dsimp only
  rw [dif_pos hshorter]
  exact ⟨_, rfl⟩

theorem gives_value_ofNat {n : Nat} (hn : n < 2 ^ 64) (room : Nat) (rest : List Char) :
    Gives (Document.value room (Digits.ofNat n ++ '\x7d' :: rest)) (Document.ofNat n)
      ('\x7d' :: rest) := by
  have hnumeral := gives_numeral_ofNat hn rest
  obtain ⟨c, ds, hds, hc⟩ := exists_digit n
  have hne {x : Char} (hx : Digits.isDigit x = false) : c ≠ x := ne_of_isDigit hc hx
  rw [hds, List.cons_append] at hnumeral ⊢
  have hspace := skipSpace_of_isDigit hc (ds ++ '\x7d' :: rest)
  unfold Document.value
  split
  · rename_i h
    cases hspace.symm.trans h
  · rename_i c' cs' h
    cases hspace.symm.trans h
    dsimp only
    rw [if_neg (hne rfl), if_neg (hne rfl), if_neg (hne rfl), if_neg (hne rfl), if_neg (hne rfl),
      if_neg (hne rfl), if_pos (.inr hc)]
    exact hnumeral.widen

theorem gives_readLimit {n : Nat} (hn : n < 2 ^ 64) (rest : List Char) :
    Gives (readLimit (Digits.ofNat n ++ '\x7d' :: rest)) (some n) ('\x7d' :: rest) := by
  obtain ⟨hr, hvalue⟩ := gives_value_ofNat hn 0 rest
  obtain ⟨c, ds, hds, hc⟩ := exists_digit n
  revert hvalue hr
  rw [hds, List.cons_append]
  intro hr hvalue
  have hspace := skipSpace_of_isDigit hc (ds ++ '\x7d' :: rest)
  unfold readLimit
  split
  · rename_i h
    cases hspace.symm.trans h
  · rename_i c' cs' h
    cases hspace.symm.trans h
    dsimp only
    rw [if_neg (ne_of_isDigit hc rfl), hvalue]
    exact ⟨_, if_pos (Int.natCast_nonneg n)⟩

/-! ## Entries -/

variable {f g e : Fields} {key : String} {cs ds rest : List Char}

theorem gives_field {reader : (cs : List Char) → Except Halt (Piece Fields cs)}
    (h : Gives (reader cs) g rest) :
    Gives (readField.field key (':' :: cs) false reader) g rest := by
  have hcolon : Gives (Document.colon (':' :: cs)) () cs := ⟨Nat.lt_succ_self _, rfl⟩
  unfold readField.field
  rw [if_neg Bool.false_ne_true]
  exact hcolon.andThen fun _ => h

theorem gives_readField_mode (m : Mode) (h : f.mode = none) (rest : List Char) :
    Gives (readField f "mode" (':' :: (Document.quote m.name ++ rest))) { f with mode := some m }
      rest := by
  obtain ⟨hr, hmode⟩ := gives_readMode m rest
  unfold readField
  rw [if_pos rfl, h]
  refine gives_field ⟨hr, ?_⟩
  rw [hmode]
  rfl

theorem gives_readField_limit {n : Nat} (hn : n < 2 ^ 64) (h : f.limit = none) :
    Gives (readField f "maxDepth" (':' :: (Digits.ofNat n ++ '\x7d' :: rest)))
      { f with limit := some (some n) } ('\x7d' :: rest) := by
  obtain ⟨hr, hlimit⟩ := gives_readLimit hn rest
  unfold readField
  rw [if_neg (by decide), if_pos rfl, h]
  refine gives_field ⟨hr, ?_⟩
  rw [hlimit]
  rfl

/-- The value of another key only has to be passed over. -/
theorem gives_readField_skip (hmode : key ≠ "mode") (hlimit : key ≠ "maxDepth")
    (h : Gives (Document.skip cs) () rest) : Gives (readField f key (':' :: cs)) f rest := by
  obtain ⟨hr, hskip⟩ := h
  unfold readField
  rw [if_neg hmode, if_neg hlimit]
  refine gives_field ⟨hr, ?_⟩
  rw [hskip]
  rfl

theorem gives_readEntries_last (h : Gives (readField f key cs) g ('\x7d' :: rest)) :
    Gives (readEntries f (Document.quote key ++ cs)) g rest := by
  have hkey := gives_stringBody_escapes key.toList cs
  rw [← String.ofList_toList (s := key)] at h
  unfold Document.quote
  rw [List.cons_append, List.append_assoc, List.singleton_append]
  unfold readEntries
  split
  · rename_i h
    cases h
  · rename_i q qs hq
    obtain ⟨rfl, rfl⟩ := List.cons.inj hq
    dsimp only
    rw [if_pos rfl]
    refine Gives.widen (hkey.andThen fun _ => h.andThen fun _ => ?_)
    exact ⟨_, rfl⟩

theorem gives_readEntries_more {next : String}
    (h : Gives (readField f key cs) g (',' :: (Document.quote next ++ ds)))
    (hmore : Gives (readEntries g (Document.quote next ++ ds)) e rest) :
    Gives (readEntries f (Document.quote key ++ cs)) e rest := by
  have hkey := gives_stringBody_escapes key.toList cs
  rw [← String.ofList_toList (s := key)] at h
  unfold Document.quote
  rw [List.cons_append, List.append_assoc, List.singleton_append]
  unfold readEntries
  split
  · rename_i h
    cases h
  · rename_i q qs hq
    obtain ⟨rfl, rfl⟩ := List.cons.inj hq
    dsimp only
    rw [if_pos rfl]
    refine Gives.widen (hkey.andThen fun _ => h.andThen fun _ => ?_)
    exact hmore.widen

theorem gives_piece (h : Gives (readEntries ⟨none, none⟩ (Document.quote key ++ cs)) f rest) :
    Gives (piece ('\x7b' :: (Document.quote key ++ cs))) f.config rest := by
  obtain ⟨hr, h⟩ := h
  have hquote : Document.skipSpace (Document.quote key ++ cs) = Document.quote key ++ cs := rfl
  unfold piece
  split
  · rename_i hnil
    cases hnil
  · rename_i c text hc
    obtain ⟨rfl, rfl⟩ := List.cons.inj hc
    dsimp only
    rw [if_pos rfl, h]
    have hclosed (after : List Char) :
        Document.skipSpace (Document.quote key ++ cs) ≠ '\x7d' :: after := by
      rw [hquote]
      exact fun h => absurd (List.cons.inj h).1 (by decide)
    exact (gives_emptyOr_open (hquote ▸ List.cons_ne_nil _ _) hclosed ⟨hr, rfl⟩).widen

theorem read_eq {text : String} {c : Config} (h : Gives (piece text.toList) c []) :
    read text = .ok c := by
  obtain ⟨hr, h⟩ := h
  unfold read Document.readAll
  rw [h]
  rfl

theorem render_mode (m : Mode) : (toDocument ⟨m, none⟩).render
    = '\x7b' :: (Document.quote "mode" ++ ':' :: (Document.quote m.name ++ ['\x7d'])) := by
  simp [toDocument, Document.render, Document.renderEntries, Text.join]

theorem render_mode_limit (m : Mode) (n : Nat) : (toDocument ⟨m, some n⟩).render
    = '\x7b' :: (Document.quote "mode" ++ ':' :: (Document.quote m.name
      ++ ',' :: (Document.quote "maxDepth" ++ ':' :: (Digits.ofNat n ++ ['\x7d'])))) := by
  have hn : (Document.ofNat n).render = Digits.ofNat n := by
    show Digits.ofInt n = _
    exact if_neg (Int.natCast_nonneg n).not_gt
  simp [toDocument, Document.render, Document.renderEntries, Text.join, hn]

/-- A configuration is read back from its written form. -/
theorem read_toDocument {c : Config} (h : ∀ n ∈ c.limit, n < 2 ^ 64) :
    read c.toDocument.text = .ok c := by
  obtain ⟨m, limit⟩ := c
  have hmode := gives_readField_mode (f := ⟨none, none⟩) m rfl
  refine read_eq ?_
  rw [Document.text, String.toList_ofList]
  cases limit with
  | none =>
    rw [render_mode]
    exact gives_piece (gives_readEntries_last (hmode ['\x7d']))
  | some n =>
    rw [render_mode_limit]
    exact gives_piece (gives_readEntries_more (hmode _)
      (gives_readEntries_last (gives_readField_limit (h n rfl) rfl)))

end Config

end Reshape
