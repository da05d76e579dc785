import Mathlib.Data.List.TakeWhile
import Reshape.Text.Blank

/-!
# Texts without blanks around them

`Text.trim` takes off the blanks at both ends and nothing else: `exists_padding`. A
text that starts and ends with other characters is `Tight`; it is what is left of any
padding around it, `trim_padded`.
-/

namespace Reshape

namespace Text

/-- Nothing but blanks. -/
def Blanks (cs : List Char) : Prop := ∀ c ∈ cs, isBlank c = true

/-- The text starts and ends with characters that are not blank. -/
def Tight (cs : List Char) : Prop :=
  (∃ c ∈ cs.head?, isBlank c = false) ∧ ∃ c ∈ cs.getLast?, isBlank c = false

theorem Blanks.nil : Blanks [] := nofun

theorem Blanks.append {v w : List Char} (hv : Blanks v) (hw : Blanks w) : Blanks (v ++ w) := by
  intro c hc
  exact (List.mem_append.1 hc).elim (hv c) (hw c)

theorem Blanks.reverse {v : List Char} (hv : Blanks v) : Blanks v.reverse :=
  fun c hc => hv c (List.mem_reverse.1 hc)

theorem Tight.ne_nil {cs : List Char} (h : Tight cs) : cs ≠ [] := by
  rintro rfl
  obtain ⟨⟨c, hc, -⟩, -⟩ := h
  cases hc

theorem Tight.reverse {cs : List Char} (h : Tight cs) : Tight cs.reverse := by
  unfold Tight
  rw [List.head?_reverse, List.getLast?_reverse]
  exact h.symm

theorem Tight.append {a b : List Char} (ha : Tight a) (m : List Char) (hb : Tight b) :
    Tight (a ++ (m ++ b)) := by
  obtain ⟨⟨c, hc, hcb⟩, -⟩ := ha
  obtain ⟨-, d, hd, hdb⟩ := hb
  refine ⟨⟨c, ?_, hcb⟩, d, ?_, hdb⟩
  · rw [List.head?_append, Option.mem_def.1 hc]
    rfl
  · rw [List.getLast?_append, List.getLast?_append, Option.mem_def.1 hd]
    rfl

theorem trimStart_append {v : List Char} (hv : Blanks v) (cs : List Char) :
    trimStart (v ++ cs) = trimStart cs :=
  List.dropWhile_append_of_pos hv

theorem trimStart_of_head? {cs : List Char} {c : Char} (hc : c ∈ cs.head?)
    (hb : isBlank c = false) : trimStart cs = cs := by
  obtain ⟨rest, rfl⟩ := List.head?_eq_some_iff.1 hc
  exact List.dropWhile_cons_of_neg (by simp [hb])

theorem trimEnd_eq (cs : List Char) : trimEnd cs = (trimStart cs.reverse).reverse := rfl

/-- A tight text is what is left of any padding around it. -/
theorem trim_padded {v cs w : List Char} (hv : Blanks v) (h : Tight cs) (hw : Blanks w) :
    trim (v ++ (cs ++ w)) = cs := by
  obtain ⟨c, hc, hcb⟩ := h.1
  obtain ⟨d, hd, hdb⟩ := h.reverse.1
  have hstart : trimStart (v ++ (cs ++ w)) = cs ++ w := by
    rw [trimStart_append hv, trimStart_of_head? (c := c) ?_ hcb]
    rw [List.head?_append, Option.mem_def.1 hc]
    rfl
  unfold trim
  rw [hstart, trimEnd_eq, List.reverse_append, trimStart_append hw.reverse,
    trimStart_of_head? hd hdb, List.reverse_reverse]

theorem trim_of_tight {cs : List Char} (h : Tight cs) : trim cs = cs := by
  simpa using trim_padded .nil h .nil

theorem trim_of_blanks {cs : List Char} (h : Blanks cs) : trim cs = [] := by
  have hstart : trimStart cs = [] := List.dropWhile_eq_nil_iff.2 h
  rw [trim, hstart]
  rfl

theorem exists_trailing (cs : List Char) : ∃ w, Blanks w ∧ trimStart cs = trim cs ++ w := by
  refine ⟨((trimStart cs).reverse.takeWhile isBlank).reverse, ?_, ?_⟩
  · exact fun c hc => List.mem_takeWhile_imp (List.mem_reverse.1 hc)
  · unfold trim trimEnd
    rw [← List.reverse_append, List.takeWhile_append_dropWhile, List.reverse_reverse]

/-- Trimming takes off blanks only. -/
theorem exists_padding (cs : List Char) :
    ∃ v w, Blanks v ∧ Blanks w ∧ cs = v ++ (trim cs ++ w) := by
  obtain ⟨w, hw, h⟩ := exists_trailing cs
  refine ⟨cs.takeWhile isBlank, w, fun c hc => List.mem_takeWhile_imp hc, hw, ?_⟩
  rw [← h]
  exact List.takeWhile_append_dropWhile.symm

theorem head?_trimStart {cs : List Char} (h : trimStart cs ≠ []) :
    ∃ c ∈ (trimStart cs).head?, isBlank c = false := by
  refine ⟨_, List.head?_eq_some_head h, ?_⟩
  exact List.head_dropWhile_not isBlank h

/-- What is left of trimming, if anything, is tight. -/
theorem tight_trim {cs : List Char} (h : trim cs ≠ []) : Tight (trim cs) := by
  have hstart : trimStart cs ≠ [] := by
    intro hs
    rw [trim, hs] at h
    exact h rfl
  have hend : trimStart (trimStart cs).reverse ≠ [] := by
    simpa [trim, trimEnd_eq] using h
  obtain ⟨w, -, hw⟩ := exists_trailing cs
  obtain ⟨c, hc, hcb⟩ := head?_trimStart hstart
  obtain ⟨d, hd, hdb⟩ := head?_trimStart hend
  refine ⟨⟨c, ?_, hcb⟩, d, ?_, hdb⟩
  · obtain ⟨b, rest, hb⟩ := List.exists_cons_of_ne_nil h
    rw [hw, hb] at hc
    rwa [hb]
  · rw [trim, trimEnd_eq, List.getLast?_reverse]
    exact hd

end Text

end Reshape
