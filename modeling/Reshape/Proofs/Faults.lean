import Reshape.Proofs.Results
import Reshape.Spec.Compile

/-!
# The first fault of a specification

`Spec.IsBody` says which documents are bodies of templates, and `Spec.FirstFault` what is
at fault in a document of which all that stands before is in order. Reading a body gives
a result in the first case and this fault in the second one. `compile_exact` extends both
to whole specifications, where a name that is given twice comes before all other faults.
-/

namespace Reshape

/-- An item of a list is at fault, and all items before it are in order. -/
def HasFirst {α : Type} (good : α → Prop) (bad : Nat → α → Prop) (as : List α) : Prop :=
  ∃ before a after, as = before ++ a :: after ∧ (∀ x ∈ before, good x) ∧ bad before.length a

theorem not_hasFirst_nil {α : Type} {good : α → Prop} {bad : Nat → α → Prop} :
    ¬ HasFirst good bad [] := by
  rintro ⟨before, a, after, h, -⟩
  cases before <;> cases h

theorem hasFirst_cons {α : Type} {good : α → Prop} {bad : Nat → α → Prop} {a : α}
    {as : List α} :
    HasFirst good bad (a :: as) ↔ bad 0 a ∨ good a ∧ HasFirst good (fun i => bad (i + 1)) as := by
  constructor
  · rintro ⟨before, b, after, h, hgood, hbad⟩
    cases before with
    | nil =>
      obtain ⟨rfl, rfl⟩ := List.cons.inj h
      exact .inl hbad
    | cons c before =>
      obtain ⟨rfl, rfl⟩ := List.cons.inj h
      rw [List.forall_mem_cons] at hgood
      exact .inr ⟨hgood.1, before, b, after, rfl, hgood.2, hbad⟩
  · rintro (hbad | ⟨hgood, before, b, after, rfl, hbefore, hbad⟩)
    · exact ⟨[], a, as, rfl, nofun, hbad⟩
    · exact ⟨a :: before, b, after, rfl, List.forall_mem_cons.2 ⟨hgood, hbefore⟩, hbad⟩

namespace Spec

/-! ## Bodies -/

def IsSelector (text : String) : Prop := ∃ path, Selector.read text = .ok path

def IsExpression (text : String) : Prop := ∃ e, Expression.read text = .ok e

def HasText (es : List (String × Document)) (key : String) : Prop :=
  ∃ text, Document.find? es key = some (.string text)

/-- A document that is the body of a template: all selectors and expressions in it can be
read. Beside an expression or the name of a template, no other entries are looked at. -/
inductive IsBody : Document → Prop
  | null : IsBody .null
  | bool (b : Bool) : IsBody (.bool b)
  | number (n : Number) : IsBody (.number n)
  | text {s : String} (h : ¬ Selector.looksLikeOne s) : IsBody (.string s)
  | selector {s : String} (h : Selector.looksLikeOne s) (hs : IsSelector s) : IsBody (.string s)
  | array {ds : List Document} (h : ∀ d ∈ ds, IsBody d) : IsBody (.array ds)
  | expression {es : List (String × Document)} {text : String}
      (h : Document.find? es "expr" = some (.string text)) (ht : IsExpression text) :
      IsBody (.object es)
  | apply {es : List (String × Document)} (he : ¬ HasText es "expr") (h : HasText es "apply")
      (hs : ∀ d, Document.find? es "from" = some d → ∃ text, d = .string text ∧ IsSelector text) :
      IsBody (.object es)
  | entries {es : List (String × Document)} (he : ¬ HasText es "expr")
      (ha : ¬ HasText es "apply") (h : ∀ e ∈ es, IsBody e.2) : IsBody (.object es)

/-- The error at a location in a document, with all that stands before it in order. -/
inductive FirstFault : Location → Document → Error → Prop
  | selector {l : Location} {s : String} {error : Selector.Error}
      (h : Selector.looksLikeOne s) (hs : Selector.read s = .error error) :
      FirstFault l (.string s) (.badSelector l error)
  | item {l : Location} {before after : List Document} {d : Document} {e : Error}
      (hb : ∀ x ∈ before, IsBody x) (h : FirstFault (l.item before.length) d e) :
      FirstFault l (.array (before ++ d :: after)) e
  | expression {l : Location} {es : List (String × Document)} {text : String}
      {error : Expression.ReadError} (h : Document.find? es "expr" = some (.string text))
      (ht : Expression.read text = .error error) :
      FirstFault l (.object es) (.badExpression l error)
  | source {l : Location} {es : List (String × Document)} {text : String}
      {error : Selector.Error} (he : ¬ HasText es "expr") (ha : HasText es "apply")
      (h : Document.find? es "from" = some (.string text))
      (ht : Selector.read text = .error error) :
      FirstFault l (.object es) (.badSelector (l.member "from") error)
  | noSource {l : Location} {es : List (String × Document)} {d : Document}
      (he : ¬ HasText es "expr") (ha : HasText es "apply")
      (h : Document.find? es "from" = some d) (hd : ∀ text, d ≠ .string text) :
      FirstFault l (.object es) (.notSelector (l.member "from") d.kind)
  | entry {l : Location} {before after : List (String × Document)} {key : String}
      {d : Document} {e : Error} (he : ¬ HasText (before ++ (key, d) :: after) "expr")
      (ha : ¬ HasText (before ++ (key, d) :: after) "apply")
      (hb : ∀ x ∈ before, IsBody x.2) (h : FirstFault (l.member key) d e) :
      FirstFault l (.object (before ++ (key, d) :: after)) e

theorem readSelector_ok_iff {l : Location} {text : String} :
    (∃ path, readSelector l text = .ok path) ↔ IsSelector text := by
  unfold readSelector IsSelector
  simp only [mapError_eq_ok_iff]

theorem readSelector_error_iff {l : Location} {text : String} {e : Error} :
    readSelector l text = .error e
      ↔ ∃ error, Selector.read text = .error error ∧ .badSelector l error = e :=
  mapError_eq_error_iff

/-- What an object in a body says, for all that can be read from it. -/
theorem ObjectForm.cases (es : List (String × Document)) :
    (∃ text, Document.find? es "expr" = some (.string text) ∧ ObjectForm.of es = .expression text) ∨
      (¬ HasText es "expr" ∧ ∃ name, Document.find? es "apply" = some (.string name) ∧
        ObjectForm.of es = .apply name (Document.find? es "from")) ∨
      (¬ HasText es "expr" ∧ ¬ HasText es "apply" ∧ ObjectForm.of es = .entries) := by
  by_cases he : HasText es "expr"
  · obtain ⟨text, h⟩ := he
    exact .inl ⟨text, h, ObjectForm.of_expression h⟩
  · have he' : ∀ text, Document.find? es "expr" ≠ some (.string text) := fun text h => he ⟨text, h⟩
    by_cases ha : HasText es "apply"
    · obtain ⟨name, h⟩ := ha
      exact .inr (.inl ⟨he, name, h, ObjectForm.of_apply he' h⟩)
    · exact .inr (.inr ⟨he, ha, ObjectForm.of_entries he' fun name h => ha ⟨name, h⟩⟩)

theorem readSource_ok_iff {l : Location} {source : Option Document} :
    (∃ path, readSource l source = .ok path)
      ↔ ∀ d, source = some d → ∃ text, d = .string text ∧ IsSelector text := by
  unfold readSource
  split
  · exact ⟨fun _ => nofun, fun _ => ⟨none, rfl⟩⟩
  · rw [exists_map_ok_iff, readSelector_ok_iff]
    simp
  · rename_i d hd
    refine ⟨nofun, fun h => ?_⟩
    obtain ⟨text, rfl, -⟩ := h d rfl
    exact absurd rfl (hd text)

/-- A source is at fault if it is no text, or a text that is no selector. -/
theorem readSource_error_iff {l : Location} {source : Option Document} {e : Error} :
    readSource l source = .error e ↔
      (∃ text error, source = some (.string text) ∧ Selector.read text = .error error ∧
        e = .badSelector l error) ∨
      ∃ d, source = some d ∧ (∀ text, d ≠ .string text) ∧ e = .notSelector l d.kind := by
  unfold readSource
  split
  · simp
  · rw [map_eq_error_iff, readSelector_error_iff]
    simp [eq_comm]
  · rename_i d hd
    simp only [Except.error.injEq, Option.some.injEq]
    constructor
    · rintro rfl
      exact .inr ⟨d, rfl, hd, rfl⟩
    · rintro (⟨text, _, rfl, -⟩ | ⟨_, rfl, -, rfl⟩)
      · exact absurd rfl (hd text)
      · rfl

/-! ## Bodies that can be read -/

theorem isBody_string {s : String} :
    IsBody (.string s) ↔ (Selector.looksLikeOne s → IsSelector s) := by
  constructor
  · rintro (_ | _ | _ | h | ⟨-, h⟩) hs
    · exact absurd hs h
    · exact h
  · intro h
    by_cases hs : Selector.looksLikeOne s
    · exact .selector hs (h hs)
    · exact .text hs

theorem isBody_array {ds : List Document} : IsBody (.array ds) ↔ ∀ d ∈ ds, IsBody d :=
  ⟨fun | .array h => h, .array⟩

theorem isBody_expression {es : List (String × Document)} {text : String}
    (he : Document.find? es "expr" = some (.string text)) :
    IsBody (.object es) ↔ IsExpression text := by
  constructor
  · intro h
    cases h with
    | expression h ht =>
      obtain rfl := Document.string.inj (Option.some.inj (h.symm.trans he))
      exact ht
    | apply hne => exact absurd ⟨text, he⟩ hne
    | entries hne => exact absurd ⟨text, he⟩ hne
  · exact .expression he

theorem isBody_apply {es : List (String × Document)} (he : ¬ HasText es "expr")
    (ha : HasText es "apply") :
    IsBody (.object es) ↔
      ∀ d, Document.find? es "from" = some d → ∃ text, d = .string text ∧ IsSelector text := by
  constructor
  · intro h
    cases h with
    | expression h => exact absurd ⟨_, h⟩ he
    | apply _ _ hs => exact hs
    | entries _ hna => exact absurd ha hna
  · exact .apply he ha

theorem isBody_entries {es : List (String × Document)} (he : ¬ HasText es "expr")
    (ha : ¬ HasText es "apply") : IsBody (.object es) ↔ ∀ e ∈ es, IsBody e.2 := by
  constructor
  · intro h
    cases h with
    | expression h => exact absurd ⟨_, h⟩ he
    | apply _ h => exact absurd h ha
    | entries _ _ h => exact h
  · exact .entries he ha

mutual

theorem readOutput_ok_iff (l : Location) (d : Document) :
    (∃ o, readOutput l d = .ok o) ↔ IsBody d := by
  match d with
  | .null => exact ⟨fun _ => .null, fun _ => ⟨_, rfl⟩⟩
  | .bool b => exact ⟨fun _ => .bool b, fun _ => ⟨_, rfl⟩⟩
  | .number n => exact ⟨fun _ => .number n, fun _ => ⟨_, rfl⟩⟩
  | .string s =>
    unfold readOutput
    rw [isBody_string]
    split
    · rename_i hs
      rw [exists_map_ok_iff, readSelector_ok_iff]
      exact ⟨fun h _ => h, fun h => h hs⟩
    · rename_i hs
      exact ⟨fun _ h => absurd h hs, fun _ => ⟨_, rfl⟩⟩
  | .array ds =>
    unfold readOutput
    rw [exists_map_ok_iff, isBody_array, readItems_ok_iff]
  | .object es =>
    unfold readOutput
    rcases ObjectForm.cases es with ⟨text, he, hform⟩ | ⟨he, name, ha, hform⟩ | ⟨he, ha, hform⟩
    · rw [isBody_expression he, hform]
      dsimp only
      unfold IsExpression
      cases Expression.read text <;> simp
    · rw [isBody_apply he ⟨name, ha⟩, hform]
      dsimp only
      rw [exists_map_ok_iff, readSource_ok_iff]
    · rw [isBody_entries he ha, hform]
      dsimp only
      rw [exists_map_ok_iff, readEntries_ok_iff]

theorem readItems_ok_iff (l : Location) (i : Nat) (ds : List Document) :
    (∃ os, readItems l i ds = .ok os) ↔ ∀ d ∈ ds, IsBody d := by
  match ds with
  | [] => exact ⟨fun _ => nofun, fun _ => ⟨[], rfl⟩⟩
  | d :: ds =>
    rw [List.forall_mem_cons, ← readOutput_ok_iff (l.item i) d, ← readItems_ok_iff l (i + 1) ds]
    exact exists_both_ok_iff

theorem readEntries_ok_iff (l : Location) (es : List (String × Document)) :
    (∃ os, readEntries l es = .ok os) ↔ ∀ e ∈ es, IsBody e.2 := by
  match es with
  | [] => exact ⟨fun _ => nofun, fun _ => ⟨[], rfl⟩⟩
  | (key, d) :: es =>
    rw [List.forall_mem_cons, ← readOutput_ok_iff (l.member key) d, ← readEntries_ok_iff l es]
    exact exists_both_ok_iff

end

/-! ## First faults -/

theorem firstFault_string {l : Location} {s : String} {e : Error} :
    FirstFault l (.string s) e ↔
      Selector.looksLikeOne s ∧
        ∃ error, Selector.read s = .error error ∧ .badSelector l error = e := by
  constructor
  · rintro ⟨hs, hr⟩
    exact ⟨hs, _, hr, rfl⟩
  · rintro ⟨hs, error, hr, rfl⟩
    exact .selector hs hr

theorem firstFault_array {l : Location} {ds : List Document} {e : Error} :
    FirstFault l (.array ds) e ↔ HasFirst IsBody (fun i d => FirstFault (l.item i) d e) ds := by
  constructor
  · intro h
    cases h with
    | item hb h => exact ⟨_, _, _, rfl, hb, h⟩
  · rintro ⟨before, d, after, rfl, hb, h⟩
    exact .item hb h

theorem firstFault_expression {l : Location} {es : List (String × Document)} {text : String}
    {e : Error} (he : Document.find? es "expr" = some (.string text)) :
    FirstFault l (.object es) e
      ↔ ∃ error, Expression.read text = .error error ∧ e = .badExpression l error := by
  constructor
  · intro h
    cases h with
    | expression h ht =>
      obtain rfl := Document.string.inj (Option.some.inj (h.symm.trans he))
      exact ⟨_, ht, rfl⟩
    | source hne => exact absurd ⟨text, he⟩ hne
    | noSource hne => exact absurd ⟨text, he⟩ hne
    | entry hne => exact absurd ⟨text, he⟩ hne
  · rintro ⟨error, ht, rfl⟩
    exact .expression he ht

theorem firstFault_apply {l : Location} {es : List (String × Document)} {e : Error}
    (he : ¬ HasText es "expr") (ha : HasText es "apply") :
    FirstFault l (.object es) e
      ↔ readSource (l.member "from") (Document.find? es "from") = .error e := by
  rw [readSource_error_iff]
  constructor
  · intro h
    cases h with
    | expression h => exact absurd ⟨_, h⟩ he
    | source _ _ h ht => exact .inl ⟨_, _, h, ht, rfl⟩
    | noSource _ _ h hd => exact .inr ⟨_, h, hd, rfl⟩
    | entry _ hna => exact absurd ha hna
  · rintro (⟨text, error, h, ht, rfl⟩ | ⟨d, h, hd, rfl⟩)
    · exact .source he ha h ht
    · exact .noSource he ha h hd

theorem firstFault_entries {l : Location} {es : List (String × Document)} {e : Error}
    (he : ¬ HasText es "expr") (ha : ¬ HasText es "apply") :
    FirstFault l (.object es) e
      ↔ HasFirst (fun x => IsBody x.2) (fun _ x => FirstFault (l.member x.1) x.2 e) es := by
  constructor
  · intro h
    cases h with
    | expression h => exact absurd ⟨_, h⟩ he
    | source _ h => exact absurd h ha
    | noSource _ h => exact absurd h ha
    | entry _ _ hb h => exact ⟨_, _, _, rfl, hb, h⟩
  · rintro ⟨before, ⟨key, d⟩, after, rfl, hb, h⟩
    exact .entry he ha hb h

mutual

theorem readOutput_error_iff (l : Location) (d : Document) (e : Error) :
    readOutput l d = .error e ↔ FirstFault l d e := by
  match d with
  | .null | .bool _ | .number _ => exact ⟨nofun, nofun⟩
  | .string s =>
    unfold readOutput
    rw [firstFault_string]
    split
    · rename_i hs
      rw [map_eq_error_iff, readSelector_error_iff]
      exact ⟨fun h => ⟨hs, h⟩, fun h => h.2⟩
    · rename_i hs
      exact ⟨nofun, fun h => absurd h.1 hs⟩
  | .array ds =>
    unfold readOutput
    rw [map_eq_error_iff, firstFault_array, readItems_error_iff]
    simp only [Nat.zero_add]
  | .object es =>
    unfold readOutput
    rcases ObjectForm.cases es with ⟨text, he, hform⟩ | ⟨he, name, ha, hform⟩ | ⟨he, ha, hform⟩
    · rw [firstFault_expression he, hform]
      dsimp only
      cases Expression.read text <;> simp [eq_comm]
    · rw [firstFault_apply he ⟨name, ha⟩, hform]
      exact map_eq_error_iff
    · rw [firstFault_entries he ha, hform]
      dsimp only
      rw [map_eq_error_iff, readEntries_error_iff]

theorem readItems_error_iff (l : Location) (i : Nat) (ds : List Document) (e : Error) :
    readItems l i ds = .error e
      ↔ HasFirst IsBody (fun j d => FirstFault (l.item (i + j)) d e) ds := by
  match ds with
  | [] => exact ⟨nofun, fun h => absurd h not_hasFirst_nil⟩
  | d :: ds =>
    rw [hasFirst_cons, Nat.add_zero, ← readOutput_error_iff (l.item i) d,
      ← readOutput_ok_iff (l.item i) d]
    refine both_eq_error_iff.trans ?_
    rw [readItems_error_iff l (i + 1) ds]
    simp only [Nat.add_assoc, Nat.add_comm 1]

theorem readEntries_error_iff (l : Location) (es : List (String × Document)) (e : Error) :
    readEntries l es = .error e
      ↔ HasFirst (fun x => IsBody x.2) (fun _ x => FirstFault (l.member x.1) x.2 e) es := by
  match es with
  | [] => exact ⟨nofun, fun h => absurd h not_hasFirst_nil⟩
  | (key, d) :: es =>
    rw [hasFirst_cons, ← readOutput_error_iff (l.member key) d,
      ← readOutput_ok_iff (l.member key) d]
    refine both_eq_error_iff.trans ?_
    rw [readEntries_error_iff l es]

end

end Spec

/-! ## Templates -/

/-- A template as written of which all can be read. -/
structure TemplateSource.WellFormed (t : TemplateSource) : Prop where
  picks : ∀ text, t.picks = some text → Spec.IsSelector text
  output : Spec.IsBody t.output

/-- The first fault of a template as written; what it picks comes before its body. -/
inductive TemplateSource.FirstFault (l : Location) (t : TemplateSource) : Spec.Error → Prop
  | picks {text : String} {error : Selector.Error} (h : t.picks = some text)
      (hs : Selector.read text = .error error) :
      FirstFault l t (.badSelector (l.member "match") error)
  | output {e : Spec.Error} (hp : ∀ text, t.picks = some text → Spec.IsSelector text)
      (h : Spec.FirstFault (l.member "output") t.output e) : FirstFault l t e

namespace Spec

/-- What a template picks is read as the source of an application is. -/
theorem readTemplate_eq (l : Location) (t : TemplateSource) :
    readTemplate l t = (readSource (l.member "match") (t.picks.map .string) >>= fun picks =>
      readOutput (l.member "output") t.output >>= fun output => .ok ⟨t.name, picks, output⟩) := by
  unfold readTemplate
  cases t.picks <;> rfl

theorem readPicks_ok_iff {l : Location} {picks : Option String} :
    (∃ path, readSource l (picks.map .string) = .ok path)
      ↔ ∀ text, picks = some text → IsSelector text := by
  rw [readSource_ok_iff]
  cases picks <;> simp

theorem readTemplate_ok_iff (l : Location) (t : TemplateSource) :
    (∃ template, readTemplate l t = .ok template) ↔ t.WellFormed := by
  rw [readTemplate_eq, exists_both_ok_iff, readPicks_ok_iff, readOutput_ok_iff]
  exact ⟨fun h => ⟨h.1, h.2⟩, fun h => ⟨h.picks, h.output⟩⟩

theorem readTemplate_error_iff (l : Location) (t : TemplateSource) (e : Error) :
    readTemplate l t = .error e ↔ t.FirstFault l e := by
  rw [readTemplate_eq, both_eq_error_iff, readPicks_ok_iff, readOutput_error_iff,
    readSource_error_iff]
  constructor
  · rintro ((⟨text, error, h, hs, rfl⟩ | ⟨d, h, hd, -⟩) | ⟨hp, h⟩)
    · obtain ⟨_, hp, heq⟩ := Option.map_eq_some_iff.1 h
      cases heq
      exact .picks hp hs
    · obtain ⟨text, -, rfl⟩ := Option.map_eq_some_iff.1 h
      exact absurd rfl (hd text)
    · exact .output hp h
  · rintro (⟨h, hs⟩ | ⟨hp, h⟩)
    · exact .inl (.inl ⟨_, _, by rw [h]; rfl, hs, rfl⟩)
    · exact .inr ⟨hp, h⟩

theorem readTemplates_ok_iff (lts : List (Location × TemplateSource)) :
    (∃ ts, readTemplates lts = .ok ts) ↔ ∀ x ∈ lts, x.2.WellFormed := by
  induction lts with
  | nil => exact ⟨fun _ => nofun, fun _ => ⟨[], rfl⟩⟩
  | cons x lts ih =>
    rw [List.forall_mem_cons, ← readTemplate_ok_iff x.1, ← ih]
    exact exists_both_ok_iff

theorem readTemplates_error_iff (lts : List (Location × TemplateSource)) (e : Error) :
    readTemplates lts = .error e
      ↔ HasFirst (fun x => x.2.WellFormed) (fun _ x => x.2.FirstFault x.1 e) lts := by
  induction lts with
  | nil => exact ⟨nofun, fun h => absurd h not_hasFirst_nil⟩
  | cons x lts ih =>
    rw [hasFirst_cons, ← readTemplate_error_iff x.1, ← readTemplate_ok_iff x.1, ← ih]
    exact both_eq_error_iff

def locatedFrom (n : Nat) (ts : List TemplateSource) : List (Location × TemplateSource) :=
  ts.mapIdx fun i t => (.ofTemplate (n + i) t.name, t)

theorem locatedFrom_cons (n : Nat) (t : TemplateSource) (ts : List TemplateSource) :
    locatedFrom n (t :: ts) = (.ofTemplate n t.name, t) :: locatedFrom (n + 1) ts := by
  simp [locatedFrom, List.mapIdx_cons, Nat.add_assoc, Nat.add_comm 1]

theorem located_eq (ts : List TemplateSource) : located ts = locatedFrom 0 ts := by
  simp [located, locatedFrom]

theorem hasFirst_locatedFrom (good : TemplateSource → Prop)
    (bad : Location → TemplateSource → Prop) (n : Nat) (ts : List TemplateSource) :
    HasFirst (fun x => good x.2) (fun _ x => bad x.1 x.2) (locatedFrom n ts)
      ↔ HasFirst good (fun i t => bad (.ofTemplate (n + i) t.name) t) ts := by
  induction ts generalizing n with
  | nil => exact ⟨fun h => absurd h not_hasFirst_nil, fun h => absurd h not_hasFirst_nil⟩
  | cons t ts ih =>
    rw [locatedFrom_cons, hasFirst_cons, hasFirst_cons, ih (n + 1)]
    simp only [Nat.add_zero, Nat.add_assoc, Nat.add_comm 1]

/-! ## Names -/

def nameAt (ts : List TemplateSource) (i : Nat) : Option String :=
  ts[i]?.bind TemplateSource.name

/-- No two templates share a name. -/
def DistinctNames (ts : List TemplateSource) : Prop :=
  ∀ i j name, nameAt ts i = some name → nameAt ts j = some name → i = j

/-- The first index `i` whose name has occurred before, and the first one `j` of that name. -/
structure IsFirstDuplicate (ts : List TemplateSource) (i j : Nat) (name : String) : Prop where
  again : nameAt ts i = some name
  first : nameAt ts j = some name
  lt : j < i
  again_least : ∀ k < i, ∀ l < k, ∀ other, nameAt ts k = some other → nameAt ts l ≠ some other
  first_least : ∀ k < j, nameAt ts k ≠ some name

def duplicateAt (i j : Nat) (name : String) : Error :=
  .duplicateTemplate name (.ofTemplate i (some name)) (.ofTemplate j (some name))

theorem nameAt_append_iff {before after : List TemplateSource} {t : TemplateSource} {i : Nat}
    {name : String} (hi : i ≤ before.length) :
    nameAt (before ++ t :: after) i = some name
      ↔ nameAt before i = some name ∨ i = before.length ∧ t.name = some name := by
  unfold nameAt
  rcases Nat.lt_or_eq_of_le hi with h | rfl
  · rw [List.getElem?_append_left h]
    simp [Nat.ne_of_lt h]
  · simp

theorem IsFirstDuplicate.unique {ts : List TemplateSource} {i j k l : Nat} {name other : String}
    (h : IsFirstDuplicate ts i j name) (h' : IsFirstDuplicate ts k l other) :
    i = k ∧ j = l ∧ name = other := by
  have hik : i = k := by
    rcases Nat.lt_trichotomy i k with hlt | heq | hlt
    · exact absurd h.first (h'.again_least i hlt j h.lt name h.again)
    · exact heq
    · exact absurd h'.first (h.again_least k hlt l h'.lt other h'.again)
  subst hik
  obtain rfl := Option.some.inj (h.again.symm.trans h'.again)
  refine ⟨rfl, ?_, rfl⟩
  rcases Nat.lt_trichotomy j l with hlt | heq | hlt
  · exact absurd h.first (h'.first_least j hlt)
  · exact heq
  · exact absurd h'.first (h.first_least l hlt)

theorem lt_length_of_nameAt {ts : List TemplateSource} {i : Nat} {name : String}
    (h : nameAt ts i = some name) : i < ts.length := by
  obtain ⟨t, ht, -⟩ := Option.bind_eq_some_iff.1 h
  exact (List.getElem?_eq_some_iff.1 ht).1

theorem nameAt_concat_iff {before : List TemplateSource} {t : TemplateSource} {i : Nat}
    {name : String} : nameAt (before ++ [t]) i = some name
      ↔ nameAt before i = some name ∨ i = before.length ∧ t.name = some name := by
  by_cases hi : i ≤ before.length
  · exact nameAt_append_iff hi
  · constructor
    · intro h
      have := lt_length_of_nameAt h
      simp only [List.length_append, List.length_singleton] at this
      omega
    · rintro (h | ⟨rfl, -⟩)
      · exact absurd (Nat.le_of_lt (lt_length_of_nameAt h)) hi
      · exact absurd (Nat.le_refl _) hi

/-- The names of a list with their locations. -/
def Records (seen : List (String × Location)) (ts : List TemplateSource) : Prop :=
  ∀ name entry, seen.find? (fun e => e.1 == name) = some entry
    ↔ ∃ j, nameAt ts j = some name ∧ entry = (name, .ofTemplate j (some name))

variable {seen : List (String × Location)} {before : List TemplateSource} {t : TemplateSource}

theorem Records.concat_of_none (h : Records seen before) (ht : t.name = none) :
    Records seen (before ++ [t]) := by
  intro name entry
  simp [h name entry, nameAt_concat_iff, ht]

theorem Records.concat_of_some {name : String} (h : Records seen before) (ht : t.name = some name)
    (hnew : ∀ j, nameAt before j ≠ some name) :
    Records ((name, .ofTemplate before.length (some name)) :: seen) (before ++ [t]) := by
  intro other entry
  rw [List.find?_cons]
  by_cases hname : name = other
  · subst hname
    simp only [BEq.rfl, nameAt_concat_iff, hnew, ht, false_or, and_true, Option.some.injEq]
    constructor
    · rintro rfl
      exact ⟨_, rfl, rfl⟩
    · rintro ⟨_, rfl, rfl⟩
      rfl
  · have hbeq : (name == other) = false := by simpa using hname
    simp [hbeq, h other entry, nameAt_concat_iff, ht, hname]

theorem distinctNames_concat (h : DistinctNames before)
    (hnew : ∀ name, t.name = some name → ∀ j, nameAt before j ≠ some name) :
    DistinctNames (before ++ [t]) := by
  intro i j name hi hj
  rw [nameAt_concat_iff] at hi hj
  rcases hi with hi | ⟨rfl, hi⟩ <;> rcases hj with hj | ⟨rfl, hj⟩
  · exact h i j name hi hj
  · exact absurd hi (hnew name hj i)
  · exact absurd hj (hnew name hi j)
  · rfl

/-- A name that is given again is the first one to be, if those before are distinct. -/
theorem isFirstDuplicate_append {after : List TemplateSource} {name : String} {j : Nat}
    (h : DistinctNames before) (ht : t.name = some name) (hj : nameAt before j = some name) :
    IsFirstDuplicate (before ++ t :: after) before.length j name := by
  have hlt := lt_length_of_nameAt hj
  refine ⟨(nameAt_append_iff (Nat.le_refl _)).2 (.inr ⟨rfl, ht⟩),
    (nameAt_append_iff (Nat.le_of_lt hlt)).2 (.inl hj), hlt, ?_, ?_⟩
  · intro k hk l hl other hko hlo
    rw [nameAt_append_iff (by omega)] at hko hlo
    rcases hko with hko | ⟨rfl, -⟩
    · rcases hlo with hlo | ⟨rfl, -⟩
      · exact absurd (h k l other hko hlo) (by omega)
      · omega
    · omega
  · intro k hk hko
    rw [nameAt_append_iff (by omega)] at hko
    rcases hko with hko | ⟨rfl, -⟩
    · exact absurd (h k j name hko hj) (by omega)
    · omega

/-- The names that come before are recorded, so that the first one to come again is found. -/
theorem duplicate?_cases (rest : List TemplateSource) (hr : Records seen before)
    (hd : DistinctNames before) :
    let found := duplicate? seen (locatedFrom before.length rest)
    (found = none ∧ DistinctNames (before ++ rest)) ∨
      ∃ i j name, IsFirstDuplicate (before ++ rest) i j name ∧
        found = some (duplicateAt i j name) := by
  -- each template without a new fault moves from the rest to those before, which stay distinct
  induction rest generalizing seen before with
  | nil => exact .inl ⟨rfl, by rwa [List.append_nil]⟩
  | cons t rest ih =>
    have hlength : before.length + 1 = (before ++ [t]).length := by simp
    rw [locatedFrom_cons, hlength]
    unfold duplicate?
    cases ht : t.name with
    | none =>
      have h := ih (hr.concat_of_none ht) (distinctNames_concat hd fun name hn => by
        cases ht.symm.trans hn)
      rwa [List.append_assoc] at h
    | some name =>
      cases hf : seen.find? fun e => e.1 == name with
      | some entry =>
        obtain ⟨j, hj, rfl⟩ := (hr name entry).1 hf
        exact .inr ⟨_, j, name, isFirstDuplicate_append hd ht hj, by simp [hf, duplicateAt]⟩
      | none =>
        have hnew : ∀ j, nameAt before j ≠ some name := by
          intro j hj
          rw [(hr name _).2 ⟨j, hj, rfl⟩] at hf
          cases hf
        have h := ih (hr.concat_of_some ht hnew) (distinctNames_concat hd fun other hn => by
          obtain rfl := Option.some.inj (ht.symm.trans hn)
          exact hnew)
        simp only [hf]
        rwa [List.append_assoc] at h

theorem duplicate?_located (ts : List TemplateSource) :
    (duplicate? [] (located ts) = none ∧ DistinctNames ts) ∨
      ∃ i j name, IsFirstDuplicate ts i j name ∧
        duplicate? [] (located ts) = some (duplicateAt i j name) := by
  have hr : Records [] ([] : List TemplateSource) := by
    intro name entry
    simp [nameAt]
  rw [located_eq]
  exact duplicate?_cases ts hr nofun

end Spec

/-! ## Specifications -/

/-- A specification as written that compiles. -/
structure SpecSource.WellFormed (s : SpecSource) : Prop where
  names : Spec.DistinctNames s.templates
  templates : ∀ t ∈ s.templates, t.WellFormed
  root : Spec.IsBody s.root

/-- The first fault of a specification as written: a name that is given twice, whatever
else is at fault; then that of the templates in order; then that of the root. -/
inductive SpecSource.FirstFault (s : SpecSource) : Spec.Error → Prop
  | duplicate {i j : Nat} {name : String} (h : Spec.IsFirstDuplicate s.templates i j name) :
      FirstFault s (Spec.duplicateAt i j name)
  | template {before after : List TemplateSource} {t : TemplateSource} {e : Spec.Error}
      (hn : Spec.DistinctNames s.templates) (hs : s.templates = before ++ t :: after)
      (hb : ∀ u ∈ before, u.WellFormed)
      (h : t.FirstFault (.ofTemplate before.length t.name) e) : FirstFault s e
  | root {e : Spec.Error} (hn : Spec.DistinctNames s.templates)
      (ht : ∀ t ∈ s.templates, t.WellFormed) (h : Spec.FirstFault .root s.root e) : FirstFault s e

namespace Spec

theorem IsFirstDuplicate.not_distinct {ts : List TemplateSource} {i j : Nat} {name : String}
    (h : IsFirstDuplicate ts i j name) : ¬ DistinctNames ts := by
  intro hd
  have := h.lt
  have := hd i j name h.again h.first
  omega

theorem readLocated_ok_iff (ts : List TemplateSource) :
    (∃ templates, readTemplates (located ts) = .ok templates) ↔ ∀ t ∈ ts, t.WellFormed := by
  rw [readTemplates_ok_iff]
  conv => rhs; rw [← map_snd_located ts]
  exact List.forall_mem_map.symm

theorem readLocated_error_iff (ts : List TemplateSource) (e : Error) :
    readTemplates (located ts) = .error e ↔
      HasFirst TemplateSource.WellFormed (fun i t => t.FirstFault (.ofTemplate i t.name) e) ts := by
  rw [readTemplates_error_iff, located_eq,
    hasFirst_locatedFrom TemplateSource.WellFormed (fun l t => t.FirstFault l e)]
  simp only [Nat.zero_add]

/-- Without a name that is given twice, the templates are read before the root. -/
theorem ofSource_eq {source : SpecSource} (h : duplicate? [] (located source.templates) = none) :
    ∃ g : List Template → Output → Spec, ofSource source
      = (readTemplates (located source.templates) >>= fun templates =>
        readOutput .root source.root >>= fun root => .ok (g templates root)) := by
  refine ⟨fun templates root => ⟨templates, root, allIgnoredKeys source
    ++ unknownTargets (templates.filterMap Template.name) (allTargets templates root)⟩, ?_⟩
  unfold ofSource
  rw [h]
  rfl

theorem ofSource_ok_iff (source : SpecSource) :
    (∃ spec, ofSource source = .ok spec) ↔ source.WellFormed := by
  rcases duplicate?_located source.templates with ⟨hnone, hd⟩ | ⟨i, j, name, hdup, hsome⟩
  · obtain ⟨g, hg⟩ := ofSource_eq hnone
    rw [hg, exists_both_ok_iff, readLocated_ok_iff, readOutput_ok_iff]
    exact ⟨fun h => ⟨hd, h.1, h.2⟩, fun h => ⟨h.templates, h.root⟩⟩
  · unfold ofSource
    rw [hsome]
    exact ⟨nofun, fun h => absurd h.names hdup.not_distinct⟩

theorem ofSource_error_iff (source : SpecSource) (e : Error) :
    ofSource source = .error e ↔ source.FirstFault e := by
  rcases duplicate?_located source.templates with ⟨hnone, hd⟩ | ⟨i, j, name, hdup, hsome⟩
  · obtain ⟨g, hg⟩ := ofSource_eq hnone
    rw [hg, both_eq_error_iff, readLocated_ok_iff, readLocated_error_iff, readOutput_error_iff]
    constructor
    · rintro (⟨before, t, after, hs, hb, h⟩ | ⟨ht, h⟩)
      · exact .template hd hs hb h
      · exact .root hd ht h
    · intro h
      cases h with
      | duplicate hdup => exact absurd hd hdup.not_distinct
      | template _ hs hb h => exact .inl ⟨_, _, _, hs, hb, h⟩
      | root _ ht h => exact .inr ⟨ht, h⟩
  · have hthrow : ofSource source = .error (duplicateAt i j name) := by
      unfold ofSource
      rw [hsome]
      rfl
    rw [hthrow]
    constructor
    · rintro ⟨⟩
      exact .duplicate hdup
    · intro h
      cases h with
      | duplicate h =>
        obtain ⟨rfl, rfl, rfl⟩ := hdup.unique h
        rfl
      | template hd => exact absurd hd hdup.not_distinct
      | root hd => exact absurd hd hdup.not_distinct

/-- A document that passes the check and has the form of a specification compiles just if
it is well-formed; else the error is its first fault. -/
theorem compile_exact {check : Conformance} {raw : Document} {source : SpecSource}
    (hc : check raw = .ok ()) (hs : SpecSource.ofDocument? raw = some source) :
    ((∃ spec, compileWith check raw = .ok spec) ↔ source.WellFormed) ∧
      ∀ e, compileWith check raw = .error e ↔ source.FirstFault e := by
  have h : compileWith check raw = ofSource source := by
    unfold compileWith
    rw [hc, hs]
  rw [h]
  exact ⟨ofSource_ok_iff source, ofSource_error_iff source⟩

/-- A name that is given again is reported, and not the selector that cannot be read. -/
theorem compile_exact_named_twice :
    let first : TemplateSource := ⟨some "a", some "x", .null⟩
    let again : TemplateSource := ⟨some "a", none, .null⟩
    let raw : Document := .object [
      ("templates", .array [
        .object [("name", .string "a"), ("match", .string "x"), ("output", .null)],
        .object [("name", .string "a"), ("output", .null)]]),
      ("root", .null)]
    unchecked raw = .ok () ∧ SpecSource.ofDocument? raw = some ⟨[first, again], .null⟩ ∧
      ¬ IsSelector "x" ∧ compileWith unchecked raw = .error (duplicateAt 1 0 "a") := by
  intro first again raw
  have hs : SpecSource.ofDocument? raw = some ⟨[first, again], .null⟩ := rfl
  have hdup : IsFirstDuplicate [first, again] 1 0 "a" := by
    refine ⟨rfl, rfl, by decide, ?_, nofun⟩
    intro k hk l hl
    omega
  have hx : ¬ IsSelector "x" := by
    rintro ⟨path, h⟩
    cases h
  exact ⟨rfl, hs, hx, ((compile_exact rfl hs).2 _).2 (.duplicate hdup)⟩

end Spec

end Reshape
