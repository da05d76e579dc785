/-!
# Searching text

`Text.cutAt?` cuts a text around the first place where a word stands. Splitting,
replacing and searching find the same places: from left to right, and on from
behind each one.
-/

namespace Reshape

namespace Text

/-- What follows a word at the start of a text. -/
def after? : (word cs : List Char) → Option (List Char)
  | [], cs => some cs
  | _ :: _, [] => none
  | w :: ws, c :: cs => if w = c then after? ws cs else none

theorem after?_eq_some_iff {word cs rest : List Char} :
    after? word cs = some rest ↔ cs = word ++ rest := by
  induction word generalizing cs with
  | nil => simp [after?]
  | cons w ws ih =>
    cases cs with
    | nil => simp [after?]
    | cons c cs =>
      simp only [after?]
      split
      · simp_all
      · simp_all [eq_comm]

def cutAt? (word : List Char) : List Char → Option (List Char × List Char)
  | [] => (after? word []).map fun rest => ([], rest)
  | c :: cs =>
    match after? word (c :: cs) with
    | some rest => some ([], rest)
    | none => (cutAt? word cs).map fun (before, rest) => (c :: before, rest)

theorem eq_of_cutAt? {word cs before rest : List Char} (h : cutAt? word cs = some (before, rest)) :
    cs = before ++ word ++ rest := by
  induction cs generalizing before with
  | nil =>
    obtain ⟨r, hr, hp⟩ := Option.map_eq_some_iff.1 h
    cases hp
    simpa using after?_eq_some_iff.1 hr
  | cons c cs ih =>
    simp only [cutAt?] at h
    split at h
    · rename_i r hr
      cases h
      simpa using after?_eq_some_iff.1 hr
    · obtain ⟨⟨b, r⟩, hb, hp⟩ := Option.map_eq_some_iff.1 h
      cases hp
      simp [ih hb]

theorem length_lt_of_cutAt? {word cs before rest : List Char} (hw : word ≠ [])
    (h : cutAt? word cs = some (before, rest)) : rest.length < cs.length := by
  have := List.length_pos_iff.2 hw
  simp only [eq_of_cutAt? h, List.length_append]
  omega

def hasWord (word cs : List Char) : Bool := (cutAt? word cs).isSome

/-- The texts between the places of a separator; an empty separator stands
between all characters. -/
def split (separator cs : List Char) : List (List Char) :=
  if hs : separator = [] then cs.map fun c => [c]
  else match h : cutAt? separator cs with
    | none => [cs]
    | some (before, rest) =>
      have : rest.length < cs.length := length_lt_of_cutAt? hs h
      before :: split separator rest
termination_by cs.length

def replace (word other cs : List Char) : List Char :=
  if hw : word = [] then cs
  else match h : cutAt? word cs with
    | none => cs
    | some (before, rest) =>
      have : rest.length < cs.length := length_lt_of_cutAt? hw h
      before ++ other ++ replace word other rest
termination_by cs.length

def join (separator : List Char) : List (List Char) → List Char
  | [] => []
  | [t] => t
  | t :: ts => t ++ separator ++ join separator ts

end Text

end Reshape
