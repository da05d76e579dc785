import Reshape.Proofs.Accepting
import Reshape.Proofs.Compilation
import Reshape.Proofs.Conforming
import Reshape.Proofs.SelectorExpressions
import Reshape.Proofs.Strictness

/-!
# Spelling selectors as expressions

Where a text that is a selector stands in a body, the object with that text under `expr` may stand
instead. A `Respelling` writes it so at some locations of a specification. It changes neither
whether the specification compiles nor what is compiled, up to bare selectors, so that the runs
of the two have the same words for everything: `respelling_exact`.
-/

namespace Reshape

/-- A text, and the locations where it is written as an expression. -/
structure Respelling where
  text : String
  chosen : Location → Bool

namespace Respelling

variable (r : Respelling)

mutual

/-- The body at a location, spelled so. What an expression or an application is made of is no
body, and stays as it is. -/
def body (l : Location) : Document → Document
  | .string text =>
    if text = r.text ∧ r.chosen l then .object [("expr", .string text)] else .string text
  | .array ds => .array (items l 0 ds)
  | .object es =>
    match Spec.ObjectForm.of es with
    | .entries => .object (entries l es)
    | _ => .object es
  | .null => .null
  | .bool b => .bool b
  | .number n => .number n

def items (l : Location) (i : Nat) : List Document → List Document
  | [] => []
  | d :: ds => body (l.item i) d :: items l (i + 1) ds

def entries (l : Location) : List (String × Document) → List (String × Document)
  | [] => []
  | (key, d) :: es => (key, body (l.member key) d) :: entries l es

end

end Respelling

namespace Raw

def mapEntry (key : String) (f : Document → Document) (es : List (String × Document)) :
    List (String × Document) :=
  es.map fun e => (e.1, if e.1 = key then f e.2 else e.2)

/-- The record with one of its parts replaced. -/
def mapPart (key : String) (index : Nat) (f : Document → Document) : Document → Document
  | .object es => .object (mapEntry key f es)
  | .array ds => .array (ds.modify index f)
  | d => d

end Raw

namespace Respelling

variable (r : Respelling)

/-- The template at an index, with its body spelled so. -/
def template (index : Nat) (t : Document) : Document :=
  Raw.mapPart "output" 2 (r.body ((Location.ofTemplate index (Raw.name? t)).member "output")) t

def templates : Document → Document
  | .array ts => .array (ts.mapIdx r.template)
  | d => d

/-- The specification document, with the bodies of its templates and its root spelled so. -/
def document (raw : Document) : Document :=
  Raw.mapPart "root" 1 (r.body .root) (Raw.mapPart "templates" 0 r.templates raw)

/-- The same for a template that has been taken out of its document. -/
def templateSource (l : Location) (t : TemplateSource) : TemplateSource :=
  { t with output := r.body (l.member "output") t.output }

/-- The same for a specification that has been taken out of its document. -/
def source (s : SpecSource) : SpecSource :=
  ⟨(Spec.located s.templates).map fun x => r.templateSource x.1 x.2, r.body .root s.root⟩

end Respelling

/-! ## Results with their parts replaced -/

section Maps

variable {ε α β γ α' β' γ' : Type}

theorem map_map_congr {x y : Except ε α} {f : α → α'} {g : α → β} {h : β → β'} {k : α' → β'}
    (hxy : x.map f = y.map f) (hk : ∀ a, h (g a) = k (f a)) :
    (x.map g).map h = (y.map g).map h := by
  have hmap (z : Except ε α) : (z.map g).map h = (z.map f).map k := by
    cases z with
    | error e => rfl
    | ok a => exact congrArg Except.ok (hk a)
  rw [hmap, hmap, hxy]

theorem map_both {x : Except ε α} {y : Except ε β} {f : α → α'} {g : β → β'} {put : α → β → γ}
    {h : γ → γ'} (put' : α' → β' → γ') (hput : ∀ a b, h (put a b) = put' (f a) (g b)) :
    (x >>= fun a => y >>= fun b => .ok (put a b)).map h
      = (x.map f >>= fun a => y.map g >>= fun b => .ok (put' a b)) := by
  cases x with
  | error e => rfl
  | ok a =>
    cases y with
    | error e => rfl
    | ok b => exact congrArg Except.ok (hput a b)

theorem map_both_congr {x x' : Except ε α} {y y' : Except ε β} {f : α → α'} {g : β → β'}
    {put : α → β → γ} {h : γ → γ'} (put' : α' → β' → γ') (hx : x.map f = x'.map f)
    (hy : y.map g = y'.map g) (hput : ∀ a b, h (put a b) = put' (f a) (g b)) :
    (x >>= fun a => y >>= fun b => .ok (put a b)).map h
      = (x' >>= fun a => y' >>= fun b => .ok (put a b)).map h := by
  rw [map_both put' hput, map_both put' hput, hx, hy]

theorem mapM_mapIdx {read : α → Option β} {f : Nat → α → α} {g : Nat → β → β}
    (h : ∀ i a, read (f i a) = (read a).map (g i)) (as : List α) :
    (as.mapIdx f).mapM read = (as.mapM read).map (List.mapIdx g) := by
  induction as generalizing f g with
  | nil => rfl
  | cons a as ih =>
    rw [List.mapIdx_cons, List.mapM_cons, List.mapM_cons, h 0 a, ih fun i a => h (i + 1) a]
    cases read a with
    | none => rfl
    | some b =>
      cases as.mapM read with
      | none => rfl
      | some bs => exact congrArg some List.mapIdx_cons.symm

end Maps

namespace Raw

variable {key other : String} {f : Document → Document} {es : List (String × Document)}

theorem keys_mapEntry : (mapEntry key f es).map Prod.fst = es.map Prod.fst := by
  unfold mapEntry
  rw [List.map_map]
  rfl

theorem forall_keys_mapEntry {P : String → Prop} :
    (∀ e ∈ mapEntry key f es, P e.1) ↔ ∀ e ∈ es, P e.1 :=
  List.forall_mem_map

theorem find?_mapEntry_self :
    Document.find? (mapEntry key f es) key = (Document.find? es key).map f := by
  refine (Document.find?_mapValues (fun k d => if k = key then f d else d) es key).trans ?_
  simp only [if_true]

theorem find?_mapEntry_of_ne (h : other ≠ key) :
    Document.find? (mapEntry key f es) other = Document.find? es other := by
  refine (Document.find?_mapValues (fun k d => if k = key then f d else d) es other).trans ?_
  simp only [if_neg h, Option.map_id']

end Raw

/-! ## Selectors read as expressions -/

theorem Expression.read_of_selector {text : String} {path : Selector}
    (h : Selector.read text = .ok path) : Expression.read text = .ok (.selector path) := by
  obtain ⟨hsource, -⟩ := Selector.read_source h
  rw [Expression.read_iff_derives, ← hsource]
  exact ⟨[.selector path], .one (.selector h), rfl⟩

theorem Selector.looksLikeOne_of_read {text : String} {path : Selector}
    (h : read text = .ok path) : looksLikeOne text = true := by
  obtain ⟨hsource, hdollar, -⟩ := read_source h
  obtain ⟨w, -, hw⟩ := Text.exists_trailing text.toList
  unfold looksLikeOne
  rw [hw, ← hsource, List.head?_append, hdollar]
  rfl

namespace Spec

variable {text : String} {path : Selector} (hs : Selector.read text = .ok path) (l : Location)

include hs

theorem readOutput_selector : readOutput l (.string text) = .ok (.selector path) := by
  unfold readOutput readSelector
  rw [if_pos (Selector.looksLikeOne_of_read hs), hs]
  rfl

theorem readOutput_selectorExpression :
    readOutput l (.object [("expr", .string text)]) = .ok (.expression text (.selector path)) := by
  have hform : ObjectForm.of [("expr", .string text)] = .expression text := rfl
  unfold readOutput
  rw [hform]
  dsimp only
  rw [Expression.read_of_selector hs]

end Spec

namespace Respelling

variable {r : Respelling} {path : Selector} (hs : Selector.read r.text = .ok path)

/-! ## Bodies -/

theorem body_eq_string {l : Location} {d : Document} {text : String}
    (h : r.body l d = .string text) : d = .string text := by
  cases d with
  | string s =>
    unfold body at h
    split at h
    · cases h
    · exact h
  | object es =>
    unfold body at h
    split at h <;> cases h
  | array ds =>
    unfold body at h
    cases h
  | _ =>
    unfold body at h
    exact h

theorem entries_eq_map (l : Location) (es : List (String × Document)) :
    r.entries l es = es.map fun e => (e.1, r.body (l.member e.1) e.2) := by
  induction es with
  | nil => rfl
  | cons e es ih => exact congrArg _ ih

/-- The entries of an object stay entries. -/
theorem hasText_of_entries {l : Location} {es : List (String × Document)} {key : String}
    (h : Spec.HasText (r.entries l es) key) : Spec.HasText es key := by
  obtain ⟨text, h⟩ := h
  rw [entries_eq_map, Document.find?_mapValues fun k => r.body (l.member k)] at h
  obtain ⟨d, hd, htext⟩ := Option.map_eq_some_iff.1 h
  exact ⟨text, body_eq_string htext ▸ hd⟩

theorem form_entries {l : Location} {es : List (String × Document)}
    (he : ¬ Spec.HasText es "expr") (ha : ¬ Spec.HasText es "apply") :
    Spec.ObjectForm.of (r.entries l es) = .entries :=
  Spec.ObjectForm.of_entries (fun text h => he (hasText_of_entries ⟨text, h⟩))
    fun name h => ha (hasText_of_entries ⟨name, h⟩)

mutual

/-- The same is read from a body in both spellings, up to bare selectors, or the same is at
fault: neither spelling of the selector ever is, and all else keeps its location. -/
theorem readOutput_body (hs : Selector.read r.text = .ok path) (l : Location) (d : Document) :
    (Spec.readOutput l (r.body l d)).map Output.bare = (Spec.readOutput l d).map Output.bare := by
  match d with
  | .null | .bool _ | .number _ =>
    unfold body
    rfl
  | .string text =>
    unfold body
    split
    · rename_i hchosen
      obtain ⟨rfl, -⟩ := hchosen
      rw [Spec.readOutput_selector hs, Spec.readOutput_selectorExpression hs]
      rfl
    · rfl
  | .array ds =>
    unfold body Spec.readOutput
    exact map_map_congr (readItems_items hs l 0 ds) fun _ => rfl
  | .object es =>
    unfold body
    rcases Spec.ObjectForm.cases es with ⟨text, -, hform⟩ | ⟨-, name, -, hform⟩ | ⟨he, ha, hform⟩
    · rw [hform]
    · rw [hform]
    · rw [hform]
      unfold Spec.readOutput
      rw [hform, form_entries he ha]
      exact map_map_congr (readEntries_entries hs l es) fun _ => rfl

theorem readItems_items (hs : Selector.read r.text = .ok path) (l : Location) (i : Nat)
    (ds : List Document) :
    (Spec.readItems l i (r.items l i ds)).map Output.bareItems
      = (Spec.readItems l i ds).map Output.bareItems := by
  match ds with
  | [] => rfl
  | d :: ds =>
    exact map_both_congr List.cons (readOutput_body hs (l.item i) d)
      (readItems_items hs l (i + 1) ds) fun _ _ => rfl

theorem readEntries_entries (hs : Selector.read r.text = .ok path) (l : Location)
    (es : List (String × Document)) :
    (Spec.readEntries l (r.entries l es)).map Output.bareEntries
      = (Spec.readEntries l es).map Output.bareEntries := by
  match es with
  | [] => rfl
  | (key, d) :: es =>
    exact map_both_congr (fun o os => (key, o) :: os) (readOutput_body hs (l.member key) d)
      (readEntries_entries hs l es) fun _ _ => rfl

end

include hs

/-! ## Specifications as written -/

theorem readTemplate_templateSource (l : Location) (t : TemplateSource) :
    (Spec.readTemplate l (r.templateSource l t)).map Template.bare
      = (Spec.readTemplate l t).map Template.bare := by
  have hpicks : (Spec.readSource (l.member "match") (t.picks.map .string)).map id = _ := rfl
  rw [Spec.readTemplate_eq, Spec.readTemplate_eq]
  exact map_both_congr (fun picks o => ⟨t.name, picks, o⟩) hpicks (readOutput_body hs _ t.output)
    fun _ _ => rfl

theorem readTemplates_templateSources (lts : List (Location × TemplateSource)) :
    (Spec.readTemplates (lts.map fun x => (x.1, r.templateSource x.1 x.2))).map
        (List.map Template.bare)
      = (Spec.readTemplates lts).map (List.map Template.bare) := by
  induction lts with
  | nil => rfl
  | cons x lts ih =>
    exact map_both_congr List.cons (readTemplate_templateSource hs x.1 x.2) ih fun _ _ => rfl

omit hs in
theorem duplicate?_templateSources (seen : List (String × Location))
    (lts : List (Location × TemplateSource)) :
    Spec.duplicate? seen (lts.map fun x => (x.1, r.templateSource x.1 x.2))
      = Spec.duplicate? seen lts := by
  induction lts generalizing seen with
  | nil => rfl
  | cons x lts ih =>
    unfold templateSource at ih ⊢
    rw [List.map_cons, Spec.duplicate?, Spec.duplicate?]
    simp only [ih]

omit hs in
theorem located_source (s : SpecSource) : Spec.located (r.source s).templates
    = (Spec.located s.templates).map fun x => (x.1, r.templateSource x.1 x.2) := by
  refine List.ext_getElem? fun i => ?_
  simp only [source, Spec.located, List.getElem?_mapIdx, List.getElem?_map, Option.map_map]
  rfl

omit hs in
/-- What is compiled, up to bare selectors and warnings, unless a name is given twice. -/
theorem ofSource_bare {s : SpecSource}
    (h : Spec.duplicate? [] (Spec.located s.templates) = none) :
    (Spec.ofSource s).map Spec.bare
      = ((Spec.readTemplates (Spec.located s.templates)).map (List.map Template.bare) >>= fun ts =>
        (Spec.readOutput .root s.root).map Output.bare >>= fun root => .ok ⟨ts, root, []⟩) := by
  let compiled (templates : List Template) (root : Output) : Spec := ⟨templates, root,
    Spec.allIgnoredKeys s
      ++ Spec.unknownTargets (templates.filterMap Template.name) (Spec.allTargets templates root)⟩
  have hsource : Spec.ofSource s = (Spec.readTemplates (Spec.located s.templates) >>= fun ts =>
      Spec.readOutput .root s.root >>= fun root => .ok (compiled ts root)) := by
    unfold Spec.ofSource
    rw [h]
    rfl
  rw [hsource]
  exact map_both (fun ts root => (⟨ts, root, []⟩ : Spec)) fun _ _ => rfl

theorem ofSource_source (s : SpecSource) :
    (Spec.ofSource (r.source s)).map Spec.bare = (Spec.ofSource s).map Spec.bare := by
  have hdup : Spec.duplicate? [] (Spec.located (r.source s).templates)
      = Spec.duplicate? [] (Spec.located s.templates) := by
    rw [located_source, duplicate?_templateSources]
  cases h : Spec.duplicate? [] (Spec.located s.templates) with
  | some e =>
    rw [h] at hdup
    unfold Spec.ofSource
    rw [h, hdup]
    rfl
  | none =>
    rw [h] at hdup
    rw [ofSource_bare h, ofSource_bare hdup, located_source, readTemplates_templateSources hs]
    exact congrArg _ (funext fun ts => congrArg (· >>= _) (readOutput_body hs .root s.root))

/-! ## Specification documents -/

omit hs

theorem ofDocument?_template (i : Nat) (d : Document) :
    TemplateSource.ofDocument? (r.template i d)
      = (TemplateSource.ofDocument? d).map fun t => r.templateSource (.ofTemplate i t.name) t := by
  unfold template
  match d with
  | .object es =>
    unfold Raw.mapPart TemplateSource.ofDocument?
    dsimp only
    rw [Raw.find?_mapEntry_of_ne (by decide), Raw.find?_mapEntry_of_ne (by decide),
      Raw.find?_mapEntry_self]
    cases hn : TemplateSource.optionalText? (Document.find? es "name") with
    | none => rfl
    | some name =>
      have hname : Raw.name? (.object es) = name := text?_of_optionalText? hn
      rw [hname]
      cases TemplateSource.optionalText? (Document.find? es "match") with
      | none => rfl
      | some picks => cases Document.find? es "output" <;> rfl
  | .array [first, picks, output] =>
    show TemplateSource.ofDocument? (.array [first, picks, _]) = _
    unfold TemplateSource.ofDocument?
    dsimp only
    cases hn : TemplateSource.optionalText? (some first) with
    | none => rfl
    | some name =>
      have hname : Raw.name? (.array [first, picks, output]) = name := text?_of_optionalText? hn
      rw [hname]
      cases TemplateSource.optionalText? (some picks) <;> rfl
  | .array [] | .array [_] | .array [_, _] | .array (_ :: _ :: _ :: _ :: _) => rfl
  | .null | .bool _ | .number _ | .string _ => rfl

theorem map_located (ts : List TemplateSource) :
    (Spec.located ts).map (fun x => r.templateSource x.1 x.2)
      = ts.mapIdx fun i t => r.templateSource (.ofTemplate i t.name) t := by
  refine List.ext_getElem? fun i => ?_
  simp only [Spec.located, List.getElem?_mapIdx, List.getElem?_map, Option.map_map]
  rfl

theorem templates?_templates (d : Document) :
    SpecSource.templates? (r.templates d) = (SpecSource.templates? d).map fun ts =>
      (Spec.located ts).map fun x => r.templateSource x.1 x.2 := by
  cases d with
  | array ts =>
    simp only [map_located]
    exact mapM_mapIdx ofDocument?_template ts
  | _ => rfl

theorem ofDocument?_document (raw : Document) :
    SpecSource.ofDocument? (r.document raw) = (SpecSource.ofDocument? raw).map r.source := by
  unfold document
  match raw with
  | .object es =>
    unfold Raw.mapPart SpecSource.ofDocument?
    dsimp only
    rw [Raw.find?_mapEntry_self, Raw.find?_mapEntry_of_ne (by decide), Raw.find?_mapEntry_self,
      Raw.find?_mapEntry_of_ne (by decide)]
    cases Document.find? es "templates" with
    | none => rfl
    | some d =>
      simp only [Option.map_some, Option.bind_eq_bind, Option.bind_some, templates?_templates]
      cases SpecSource.templates? d with
      | none => rfl
      | some ts => cases Document.find? es "root" <;> rfl
  | .array [templates, root] =>
    show SpecSource.ofDocument? (.array [r.templates templates, _]) = _
    unfold SpecSource.ofDocument?
    dsimp only
    rw [templates?_templates]
    cases SpecSource.templates? templates <;> rfl
  | .array [] | .array [_] | .array (_ :: _ :: _ :: _) => rfl
  | .null | .bool _ | .number _ | .string _ => rfl

/-! ## Checking -/

theorem templateEntries_iff {f : Document → Document} {es : List (String × Document)} :
    Spec.TemplateEntries (Raw.mapEntry "output" f es) ↔ Spec.TemplateEntries es := by
  have hname : Document.find? (Raw.mapEntry "output" f es) "name" = Document.find? es "name" :=
    Raw.find?_mapEntry_of_ne (by decide)
  have hpicks : Document.find? (Raw.mapEntry "output" f es) "match" = Document.find? es "match" :=
    Raw.find?_mapEntry_of_ne (by decide)
  have houtput : (∃ d, Document.find? (Raw.mapEntry "output" f es) "output" = some d)
      ↔ ∃ d, Document.find? es "output" = some d := by
    rw [Spec.exists_find?_iff, Spec.exists_find?_iff, Raw.keys_mapEntry]
  constructor
  · rintro ⟨hk, hn, hp, ho⟩
    exact ⟨Raw.forall_keys_mapEntry.1 hk, hname ▸ hn, hpicks ▸ hp, houtput.1 ho⟩
  · rintro ⟨hk, hn, hp, ho⟩
    exact ⟨Raw.forall_keys_mapEntry.2 hk, hname ▸ hn, hpicks ▸ hp, houtput.2 ho⟩

theorem isTemplate_template_iff (i : Nat) (d : Document) :
    Spec.IsTemplate (r.template i d) ↔ Spec.IsTemplate d := by
  unfold template
  cases d with
  | object es =>
    unfold Raw.mapPart Spec.IsTemplate
    simp only [Document.object.injEq, exists_eq_left', templateEntries_iff]
  | _ => exact ⟨nofun, nofun⟩

theorem forall_isTemplate_iff (ts : List Document) :
    (∀ t ∈ ts.mapIdx r.template, Spec.IsTemplate t) ↔ ∀ t ∈ ts, Spec.IsTemplate t := by
  constructor
  · intro h t ht
    obtain ⟨i, hi, rfl⟩ := List.mem_iff_getElem.1 ht
    exact (isTemplate_template_iff i _).1 (h _ (List.mem_mapIdx.2 ⟨i, hi, rfl⟩))
  · intro h t ht
    obtain ⟨i, hi, rfl⟩ := List.mem_mapIdx.1 ht
    exact (isTemplate_template_iff i _).2 (h _ (List.getElem_mem hi))

theorem templates_eq_array_iff (d : Document) :
    (∃ ts, r.templates d = .array ts ∧ ∀ t ∈ ts, Spec.IsTemplate t)
      ↔ ∃ ts, d = .array ts ∧ ∀ t ∈ ts, Spec.IsTemplate t := by
  unfold templates
  cases d with
  | array ts => simp only [Document.array.injEq, exists_eq_left', forall_isTemplate_iff]
  | _ => exact ⟨nofun, nofun⟩

theorem isSpecification_document_iff (raw : Document) :
    Spec.IsSpecification (r.document raw) ↔ Spec.IsSpecification raw := by
  unfold document
  cases raw with
  | object es =>
    have hkeys : ((Raw.mapEntry "root" (r.body .root) (Raw.mapEntry "templates" r.templates es)).map
        Prod.fst) = es.map Prod.fst := Raw.keys_mapEntry.trans Raw.keys_mapEntry
    have hfind : Document.find? (Raw.mapEntry "root" (r.body .root)
        (Raw.mapEntry "templates" r.templates es)) "templates"
          = (Document.find? es "templates").map r.templates :=
      (Raw.find?_mapEntry_of_ne (by decide)).trans Raw.find?_mapEntry_self
    have htemplates : (∃ ts, (Document.find? es "templates").map r.templates = some (.array ts) ∧
        ∀ t ∈ ts, Spec.IsTemplate t) ↔ ∃ ts, Document.find? es "templates" = some (.array ts) ∧
        ∀ t ∈ ts, Spec.IsTemplate t := by
      cases Document.find? es "templates" with
      | none => simp
      | some d => simpa using templates_eq_array_iff d
    unfold Raw.mapPart Spec.IsSpecification
    simp only [Document.object.injEq, exists_eq_left']
    constructor
    · rintro ⟨hk, ht⟩
      exact ⟨hkeys ▸ hk, htemplates.1 (hfind ▸ ht)⟩
    · rintro ⟨hk, ht⟩
      exact ⟨hkeys ▸ hk, hfind ▸ htemplates.2 ht⟩
  | _ => exact ⟨nofun, nofun⟩

theorem conformance_document_iff (raw : Document) :
    Spec.conformance (r.document raw) = .ok () ↔ Spec.conformance raw = .ok () := by
  rw [Spec.conformance_ok_iff, Spec.conformance_ok_iff, isSpecification_document_iff]

include hs

/-- Where a check passes both spellings or neither, both compile or neither does. -/
theorem compileWith_document_iff {check : Spec.Conformance} {raw : Document}
    (hc : check (r.document raw) = .ok () ↔ check raw = .ok ()) :
    (∃ spec, Spec.compileWith check (r.document raw) = .ok spec)
      ↔ ∃ spec, Spec.compileWith check raw = .ok spec := by
  unfold Spec.compileWith
  cases h : check raw with
  | error violations =>
    cases h' : check (r.document raw) with
    | error _ => exact ⟨nofun, nofun⟩
    | ok _ => exact absurd (h.symm.trans (hc.1 h')) nofun
  | ok _ =>
    rw [hc.2 h, ofDocument?_document]
    cases SpecSource.ofDocument? raw with
    | none => exact ⟨nofun, nofun⟩
    | some s =>
      show (∃ spec, Spec.ofSource (r.source s) = .ok spec) ↔ ∃ spec, Spec.ofSource s = .ok spec
      rw [← exists_map_ok_iff (f := Spec.bare), ofSource_source hs, exists_map_ok_iff]

/-- The two spellings compile to the same, up to bare selectors and warnings. -/
theorem bare_eq_bare {check : Spec.Conformance} {raw : Document} {spec spec' : Spec}
    (h : Spec.compileWith check raw = .ok spec)
    (h' : Spec.compileWith check (r.document raw) = .ok spec') : spec'.bare = spec.bare := by
  obtain ⟨s, hsource, hspec⟩ := Spec.source_of_compileWith h
  obtain ⟨s', hsource', hspec'⟩ := Spec.source_of_compileWith h'
  rw [ofDocument?_document, hsource] at hsource'
  obtain rfl := Option.some.inj hsource'
  have hbare := ofSource_source hs s
  rw [hspec, hspec'] at hbare
  exact Except.ok.inj hbare

end Respelling

/-! ## Runs -/

open Transform

theorem Transformer.run_error {t : Transformer} {spec : Spec} {options : RunOptions}
    {d : Document} {e : Failure} (h : (t.run spec options d).result = .error e) :
    options.mode.getD t.config.mode = .strict ∨
      ∃ name, options.start = some name ∧ name ∉ spec.names := by
  by_contra hnot
  obtain ⟨hmode, hstart⟩ := not_or.1 hnot
  have hdefined : spec.Defines options.start :=
    fun name hname => by_contra fun hmem => hstart ⟨name, hname, hmem⟩
  obtain ⟨v, hv⟩ := start_permissive hdefined (t.conditions (options.mode.getD t.config.mode)) d
  cases hm : options.mode.getD t.config.mode with
  | strict => exact hmode hm
  | permissive =>
    rw [hm] at hv
    unfold Transformer.run Transformer.setting at h
    rw [hm] at h
    exact absurd (h.symm.trans hv) nofun

/-- A selector that stands in a body as a text may be spelled as an expression. A specification
in which it is so at some locations compiles just if it does with the selectors as they were.
Runs of the two pass over failures of the same messages. They have the same result, or both fail
with the same message: in the strict mode, or for a template to start with that is not defined. -/
theorem respelling_exact {r : Respelling} {path : Selector} (hs : Selector.read r.text = .ok path)
    (raw : Document) :
    ((∃ spec, Spec.compile (r.document raw) = .ok spec) ↔ ∃ spec, Spec.compile raw = .ok spec) ∧
    ∀ check spec spec', Spec.compileWith check raw = .ok spec →
      Spec.compileWith check (r.document raw) = .ok spec' →
      ∀ (t : Transformer) (options : RunOptions) (d : Document),
        let x := t.run spec options d
        let y := t.run spec' options d
        x.dropped.map Failure.message = y.dropped.map Failure.message ∧
        ((∃ v, x.result = .ok v ∧ y.result = .ok v) ∨
          (options.mode.getD t.config.mode = .strict ∨
            ∃ name, options.start = some name ∧ name ∉ spec.names) ∧
          ∃ e e', x.result = .error e ∧ y.result = .error e' ∧ e.message = e'.message) := by
  refine ⟨Respelling.compileWith_document_iff hs (Respelling.conformance_document_iff raw), ?_⟩
  intro check spec spec' h h' t options d x y
  let c := t.conditions (options.mode.getD t.config.mode)
  have hx : SameWords _ x (Setting.start ⟨c, spec.bare⟩ options.start d) :=
    start_sameWords c spec ..
  have hy : SameWords _ y (Setting.start ⟨c, spec'.bare⟩ options.start d) :=
    start_sameWords c spec' ..
  rw [Respelling.bare_eq_bare hs h h'] at hy
  obtain ⟨hdropped, hresult⟩ := SameWords.cases (hx.trans hy.symm)
  refine ⟨hdropped, hresult.imp_right ?_⟩
  rintro ⟨e, e', he, he', hmessage⟩
  exact ⟨Transformer.run_error he, e, e', he, he', hmessage⟩

/-- A specification that defines no templates compiles if its root can be read. -/
theorem Spec.compileWith_root {check : Conformance} {root : Document} {o : Output}
    (hc : check (.object [("templates", .array []), ("root", root)]) = .ok ())
    (h : readOutput .root root = .ok o)
    (hw : ignoredKeys .root root ++ unknownTargets [] (o.targets .root) = []) :
    compileWith check (.object [("templates", .array []), ("root", root)])
      = .ok ⟨[], o, []⟩ := by
  unfold compileWith
  rw [hc]
  show ofSource ⟨[], root⟩ = _
  unfold ofSource
  dsimp only
  rw [h]
  exact congrArg (fun ws => Except.ok (⟨[], o, ws⟩ : Spec)) hw

/-- The second of two selectors that find nothing, spelled as an expression. -/
theorem respelling_exact_missing :
    let text := " $.x"
    let path : Selector := ⟨"$.x", [.property "x"]⟩
    let r : Respelling := ⟨text, fun l => l = Location.root.item 1⟩
    let raw (second : Document) : Document :=
      .object [("templates", .array []), ("root", .array [.string text, second])]
    let compiled (second : Output) : Spec := ⟨[], .array [.selector path, second], []⟩
    let run (spec : Spec) : Attempt Failure Document :=
      (Transformer.standard "").run spec .none (.object [])
    let missing : Selector.Error := .missingKey "$.x" [] "x"
    Selector.read r.text = .ok path ∧
      r.document (raw (.string text)) = raw (.object [("expr", .string text)]) ∧
      run (compiled (.selector path))
        = ⟨.ok (.array [.null, .null]), [.selector missing, .selector missing]⟩ ∧
      (run (compiled (.expression text (.selector path)))).dropped.map Failure.message
        = [missing.message, missing.message] := by
  intro text path r raw compiled run missing
  have hs : Selector.read r.text = .ok path := by decide +kernel
  have hraw : r.document (raw (.string text)) = raw (.object [("expr", .string text)]) := rfl
  have hroot {second : Document} {o : Output}
      (h : Spec.readOutput (Location.root.item 1) second = .ok o) :
      Spec.readOutput .root (.array [.string text, second])
        = .ok (.array [.selector path, o]) := by
    have hitems : Spec.readItems .root 0 [.string text, second] = .ok [.selector path, o] := by
      rw [Spec.readItems, Spec.readOutput_selector hs, Spec.readItems, h]
      rfl
    rw [Spec.readOutput, hitems]
    rfl
  have hrun : run (compiled (.selector path))
      = ⟨.ok (.array [.null, .null]), [.selector missing, .selector missing]⟩ :=
    start_of_startWithin 1 rfl
  have hspec : Spec.compileWith Spec.unchecked (raw (.string text)) = .ok _ :=
    Spec.compileWith_root rfl (hroot (Spec.readOutput_selector hs _)) rfl
  have hspec' : Spec.compileWith Spec.unchecked (r.document (raw (.string text))) = .ok _ :=
    Spec.compileWith_root rfl (hroot (Spec.readOutput_selectorExpression hs _)) rfl
  obtain ⟨-, hboth⟩ := respelling_exact hs (raw (.string text))
  obtain ⟨hdropped, -⟩ := hboth _ _ _ hspec hspec' (.standard "") .none (.object [])
  refine ⟨hs, hraw, hrun, hdropped.symm.trans ?_⟩
  exact congrArg (fun x => x.dropped.map Failure.message) hrun

/-- A start with a template that is not defined fails in both modes, in either spelling. -/
theorem respelling_unknown_start :
    let r : Respelling := ⟨"$", fun _ => true⟩
    let raw (root : Document) : Document := .object [("templates", .array []), ("root", root)]
    let spec : Spec := ⟨[], .selector .identity, []⟩
    let spec' : Spec := ⟨[], .expression "$" (.selector .identity), []⟩
    let options : RunOptions := ⟨some .permissive, some "none"⟩
    let run (spec : Spec) : Attempt Failure Document :=
      (Transformer.standard "").run spec options (.object [])
    Selector.read r.text = .ok .identity ∧
      Spec.compile (raw (.string "$")) = .ok spec ∧
      Spec.compile (r.document (raw (.string "$"))) = .ok spec' ∧
      run spec = ⟨.error (.unknownTemplate "none"), []⟩ ∧
      run spec' = ⟨.error (.unknownTemplate "none"), []⟩ ∧
      ¬ ((∃ v, (run spec).result = .ok v ∧ (run spec').result = .ok v) ∨
        options.mode = some .strict ∧ ∃ e e', (run spec).result = .error e ∧
          (run spec').result = .error e' ∧ e.message = e'.message) := by
  intro r raw spec spec' options run
  have hs : Selector.read r.text = .ok .identity := by decide +kernel
  have hspec : Spec.compile (raw (.string "$")) = .ok spec :=
    Spec.compileWith_root (by decide +kernel) (Spec.readOutput_selector hs _) rfl
  have hspec' : Spec.compile (r.document (raw (.string "$"))) = .ok spec' :=
    Spec.compileWith_root (by decide +kernel) (Spec.readOutput_selectorExpression hs _) rfl
  refine ⟨hs, hspec, hspec', rfl, rfl, ?_⟩
  rintro (⟨v, hv, -⟩ | ⟨hmode, -⟩)
  · cases hv
  · cases hmode

end Reshape
