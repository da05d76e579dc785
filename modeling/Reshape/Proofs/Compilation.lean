import Reshape.Proofs.Interpreter
import Reshape.Proofs.Results
import Reshape.Spec.Compile

/-!
# Compilation preserves meaning

What `Spec.readOutput` makes of a node evaluates to what the node as written does:
`walk_eq_body`. The templates of a compiled specification stand in the order of
those as written, with the same names, so that looking one up gives bodies that
correspond. By induction on what is left to a run, all applications do.
-/

namespace Reshape

/-! ## What is compiled -/

theorem text?_of_optionalText? {d : Option Document} {text : Option String}
    (h : TemplateSource.optionalText? d = some text) : Raw.text? d = text := by
  unfold TemplateSource.optionalText? at h
  split at h <;> cases h <;> rfl

theorem template_parts {d : Document} {t : TemplateSource}
    (h : TemplateSource.ofDocument? d = some t) :
    Raw.name? d = t.name ∧ Raw.part? "output" 2 d = some t.output := by
  unfold TemplateSource.ofDocument? at h
  split at h
  · simp only [Option.bind_eq_bind, Option.bind_eq_some_iff, Option.some.injEq] at h
    obtain ⟨name, hn, picks, -, output, ho, rfl⟩ := h
    exact ⟨text?_of_optionalText? hn, ho⟩
  · simp only [Option.bind_eq_bind, Option.bind_eq_some_iff, Option.some.injEq] at h
    obtain ⟨name, hn, picks, -, rfl⟩ := h
    exact ⟨text?_of_optionalText? hn, rfl⟩
  · cases h

theorem templates_parts {d : Document} {ts : List TemplateSource}
    (h : SpecSource.templates? d = some ts) :
    ∃ ds, d = .array ds ∧
      List.Forall₂ (fun d t => TemplateSource.ofDocument? d = some t) ds ts := by
  unfold SpecSource.templates? at h
  split at h
  · exact ⟨_, rfl, forall₂_of_mapM h⟩
  · cases h

theorem specification_parts {raw : Document} {source : SpecSource}
    (h : SpecSource.ofDocument? raw = some source) :
    List.Forall₂ (fun d t => TemplateSource.ofDocument? d = some t) (Raw.templates raw)
      source.templates ∧ Raw.root raw = source.root := by
  unfold SpecSource.ofDocument? at h
  split at h
  · rename_i es
    simp only [Option.bind_eq_bind, Option.bind_eq_some_iff, Option.some.injEq] at h
    obtain ⟨d, hd, templates, ht, root, hr, rfl⟩ := h
    obtain ⟨ds, rfl, hds⟩ := templates_parts ht
    simp only [Raw.templates, Raw.root, Raw.part?, hd, hr]
    exact ⟨hds, rfl⟩
  · simp only [Option.bind_eq_bind, Option.bind_eq_some_iff, Option.some.injEq] at h
    obtain ⟨templates, ht, rfl⟩ := h
    obtain ⟨ds, rfl, hds⟩ := templates_parts ht
    exact ⟨hds, rfl⟩
  · cases h

namespace Spec

theorem readTemplate_parts {l : Location} {t : TemplateSource} {template : Template}
    (h : readTemplate l t = .ok template) :
    template.name = t.name ∧ readOutput (l.member "output") t.output = .ok template.output := by
  have hbody : ∃ picks, (readOutput (l.member "output") t.output >>= fun output =>
      .ok ⟨t.name, picks, output⟩) = Except.ok template := by
    unfold readTemplate at h
    dsimp only at h
    split at h
    · exact ⟨none, h⟩
    · obtain ⟨picks, -, h⟩ := bind_eq_ok_iff.1 h
      exact ⟨picks, h⟩
  obtain ⟨picks, h⟩ := hbody
  obtain ⟨output, ho, h⟩ := bind_eq_ok_iff.1 h
  obtain rfl := Except.ok.inj h
  exact ⟨rfl, ho⟩

/-- The body is what is read from the node, at some place in the specification. -/
def Reads (d : Document) (o : Output) : Prop := ∃ l, readOutput l d = .ok o

/-- The template is what is compiled from one as written. -/
def Compiles (d : Document) (t : Template) : Prop :=
  Raw.name? d = t.name ∧ ∃ body, Raw.part? "output" 2 d = some body ∧ Reads body t.output

theorem compiles_of_readTemplates {ds : List Document} {ts : List TemplateSource}
    (hd : List.Forall₂ (fun d t => TemplateSource.ofDocument? d = some t) ds ts)
    {lts : List (Location × TemplateSource)} (hl : lts.map Prod.snd = ts)
    {templates : List Template} (h : readTemplates lts = .ok templates) :
    List.Forall₂ Compiles ds templates := by
  induction hd generalizing lts templates with
  | nil =>
    obtain rfl := List.map_eq_nil_iff.1 hl
    cases h
    exact .nil
  | cons hd _ ih =>
    obtain ⟨⟨l, t⟩, lts, rfl, rfl, hl'⟩ := List.map_eq_cons_iff.1 hl
    obtain ⟨template, ht, h⟩ := bind_eq_ok_iff.1 h
    obtain ⟨rest, hr, h⟩ := bind_eq_ok_iff.1 h
    obtain rfl := Except.ok.inj h
    obtain ⟨hname, hout⟩ := template_parts hd
    obtain ⟨hname', hread⟩ := readTemplate_parts ht
    exact .cons ⟨hname.trans hname'.symm, _, hout, _, hread⟩ (ih hl' hr)

theorem source_of_compileWith {check : Conformance} {raw : Document} {spec : Spec}
    (h : compileWith check raw = .ok spec) :
    ∃ source, SpecSource.ofDocument? raw = some source ∧ ofSource source = .ok spec := by
  unfold compileWith at h
  split at h
  · cases h
  · split at h
    · cases h
    · exact ⟨_, ‹_›, h⟩

theorem parts_of_compileWith {check : Conformance} {raw : Document} {spec : Spec}
    (h : compileWith check raw = .ok spec) : ∃ source, SpecSource.ofDocument? raw = some source ∧
      readTemplates (located source.templates) = .ok spec.templates ∧
      readOutput .root source.root = .ok spec.root ∧
      spec.warnings = allIgnoredKeys source
        ++ unknownTargets spec.names (allTargets spec.templates spec.root) := by
  obtain ⟨source, hs, h⟩ := source_of_compileWith h
  unfold ofSource at h
  dsimp only at h
  split at h
  · cases h
  · obtain ⟨templates, ht, h⟩ := bind_eq_ok_iff.1 h
    obtain ⟨root, hr, h⟩ := bind_eq_ok_iff.1 h
    obtain rfl := Except.ok.inj h
    exact ⟨source, hs, ht, hr, rfl⟩

theorem compiles_of_compileWith {check : Conformance} {raw : Document} {spec : Spec}
    (h : compileWith check raw = .ok spec) :
    List.Forall₂ Compiles (Raw.templates raw) spec.templates ∧ Reads (Raw.root raw) spec.root := by
  obtain ⟨source, hs, ht, hr, -⟩ := parts_of_compileWith h
  obtain ⟨hts, hroot⟩ := specification_parts hs
  exact ⟨compiles_of_readTemplates hts (map_snd_located _) ht, _, hroot ▸ hr⟩

theorem rel_find? {α β : Type} {R : α → β → Prop} {p : α → Bool} {q : β → Bool}
    (hpq : ∀ a b, R a b → p a = q b) {l : List α} {k : List β} (h : List.Forall₂ R l k) :
    Option.Rel R (l.find? p) (k.find? q) := by
  induction h with
  | nil => exact .none
  | cons hab _ ih =>
    rw [List.find?_cons, List.find?_cons, hpq _ _ hab]
    split
    · exact .some hab
    · exact ih

/-- A name has a body in both, and these correspond, or in neither. -/
theorem body?_cases {raw : Document} {spec : Spec}
    (h : List.Forall₂ Compiles (Raw.templates raw) spec.templates) (name : String) :
    (Raw.body? raw name = none ∧ spec.template? name = none) ∨
      ∃ body t, Raw.body? raw name = some body ∧ spec.template? name = some t ∧
        Reads body t.output := by
  have hfind := rel_find? (p := fun d => Raw.name? d == some name)
    (q := fun t => t.name == some name) (fun d t hc => by rw [hc.1]) h
  unfold Raw.body? template?
  generalize (Raw.templates raw).find? _ = d, spec.templates.find? _ = t at hfind
  cases hfind with
  | none => exact .inl ⟨rfl, rfl⟩
  | some hc =>
    obtain ⟨-, body, hb, hr⟩ := hc
    exact .inr ⟨body, _, hb, rfl, hr⟩

end Spec

/-! ## Bodies -/

open Transform

section Body

variable {m : Type → Type} [Settling m] [Failing Failure m] {c : Conditions} {spec : Spec}
  {raw : Document} {v : View} {apply : Known spec → Option (Reach v.place) → m (Option Document)}
  {apply' : Raw.Named raw → Option (Reach v.place) → m (Option Document)}

omit [Settling m] [Failing Failure m] in
theorem source_of_readSource {l : Location} {d : Option Document} {path : Option Selector}
    (h : Spec.readSource l d = .ok path) : Raw.source d = .ok path := by
  unfold Spec.readSource at h
  split at h
  · exact congrArg _ (Except.ok.inj h)
  · obtain ⟨q, hq, rfl⟩ := map_eq_ok_iff.1 h
    show (Selector.read _).map some = _
    rw [mapError_eq_ok_iff.1 hq]
    rfl
  · cases h

theorem walk_object (es : List (String × Document)) :
    Raw.walk c raw v apply' (.object es)
      = match Spec.ObjectForm.of es with
        | .expression text =>
          match Expression.read text with
          | .ok e => (c.frame v).evaluate e
          | .error e => fail (Failure.expression (.unreadable e))
        | .apply name source =>
          match Raw.source source with
          | .ok path => c.application name path (Raw.named? raw name) apply'
          | .error e => fail (Failure.selector e)
        | .entries => do
          let out ← Raw.walkEntries c raw v apply' es
          return some (.object out) := by
  unfold Raw.walk
  split
  · rename_i he
    rewrite [Spec.ObjectForm.of_expression he]
    rfl
  · rename_i he
    split
    · rename_i hap
      rewrite [Spec.ObjectForm.of_apply he hap]
      rfl
    · rename_i hap
      rewrite [Spec.ObjectForm.of_entries he hap]
      rfl

/-- The applications of the templates of a specification come to what those of the bodies as
written come to. -/
def AppliesAsWritten (c : Conditions) {spec : Spec} {raw : Document} {p : Place}
    (apply : Known spec → Option (Reach p) → m (Option Document))
    (apply' : Raw.Named raw → Option (Reach p) → m (Option Document)) : Prop :=
  ∀ name path, c.application name path (Raw.named? raw name) apply'
    = c.application name path (Setting.known? ⟨c, spec⟩ name) apply

mutual

/-- A node as written is evaluated to what the body read from it is evaluated to. -/
theorem walk_eq_body (ha : AppliesAsWritten c apply apply') {l : Location} {d : Document}
    {o : Output} (h : Spec.readOutput l d = .ok o) :
    Raw.walk c raw v apply' d = Setting.body ⟨c, spec⟩ v apply o := by
  match d with
  | .null | .bool _ | .number _ =>
    obtain rfl := Except.ok.inj h
    unfold Raw.walk Setting.body
    rfl
  | .string text =>
    unfold Spec.readOutput at h
    unfold Raw.walk
    split at h
    · rename_i hs
      obtain ⟨path, hp, rfl⟩ := map_eq_ok_iff.1 h
      rw [if_pos hs, mapError_eq_ok_iff.1 hp]
      unfold Setting.body
      rfl
    · rename_i hs
      obtain rfl := Except.ok.inj h
      rw [if_neg hs]
      unfold Setting.body
      rfl
  | .object es =>
    unfold Spec.readOutput at h
    rw [walk_object]
    cases hform : Spec.ObjectForm.of es with
    | expression text =>
      simp only [hform] at h ⊢
      cases he : Expression.read text with
      | ok e =>
        rw [he] at h
        obtain rfl := Except.ok.inj h
        unfold Setting.body
        rfl
      | error e =>
        rw [he] at h
        cases h
    | apply name source =>
      simp only [hform] at h ⊢
      obtain ⟨path, hp, rfl⟩ := map_eq_ok_iff.1 h
      rw [source_of_readSource hp]
      unfold Setting.body
      exact ha name path
    | entries =>
      simp only [hform] at h ⊢
      obtain ⟨os, hos, rfl⟩ := map_eq_ok_iff.1 h
      unfold Setting.body
      rw [walkEntries_eq_bodyEntries ha hos]
  | .array ds =>
    unfold Spec.readOutput at h
    obtain ⟨os, hos, rfl⟩ := map_eq_ok_iff.1 h
    unfold Raw.walk Setting.body
    rw [walkItems_eq_bodyItems ha hos]

theorem walkEntries_eq_bodyEntries (ha : AppliesAsWritten c apply apply') {l : Location}
    {es : List (String × Document)} {os : List (String × Output)}
    (h : Spec.readEntries l es = .ok os) :
    Raw.walkEntries c raw v apply' es = Setting.bodyEntries ⟨c, spec⟩ v apply os := by
  match es with
  | [] =>
    obtain rfl := Except.ok.inj h
    unfold Raw.walkEntries Setting.bodyEntries
    rfl
  | (key, d) :: es =>
    obtain ⟨o, ho, h⟩ := bind_eq_ok_iff.1 h
    obtain ⟨os, hos, h⟩ := bind_eq_ok_iff.1 h
    obtain rfl := Except.ok.inj h
    unfold Raw.walkEntries Setting.bodyEntries
    rewrite [walk_eq_body ha ho, walkEntries_eq_bodyEntries ha hos]
    rfl

theorem walkItems_eq_bodyItems (ha : AppliesAsWritten c apply apply') {l : Location} {i : Nat}
    {ds : List Document} {os : List Output} (h : Spec.readItems l i ds = .ok os) :
    Raw.walkItems c raw v apply' ds = Setting.bodyItems ⟨c, spec⟩ v apply os := by
  match ds with
  | [] =>
    obtain rfl := Except.ok.inj h
    unfold Raw.walkItems Setting.bodyItems
    rfl
  | d :: ds =>
    obtain ⟨o, ho, h⟩ := bind_eq_ok_iff.1 h
    obtain ⟨os, hos, h⟩ := bind_eq_ok_iff.1 h
    obtain rfl := Except.ok.inj h
    unfold Raw.walkItems Setting.bodyItems
    rw [walk_eq_body ha ho, walkItems_eq_bodyItems ha hos]

end

end Body

/-! ## Runs -/

section Run

variable {m : Type → Type} [Settling m] [Failing Failure m] (c : Conditions) {spec : Spec}
  {raw : Document} (hts : List.Forall₂ Spec.Compiles (Raw.templates raw) spec.templates)

include hts

theorem interpret_eq_run (chain : Chain) (v : View) {d : Document} {o : Output}
    (h : Spec.Reads d o) :
    (Raw.interpret c raw chain v d : m (Option Document)) = Setting.run ⟨c, spec⟩ chain v o := by
  obtain ⟨l, h⟩ := h
  rw [Raw.interpret, Setting.run]
  refine walk_eq_body (fun name path => ?_) h
  unfold Conditions.application
  congr 1
  funext source
  rcases Spec.body?_cases hts name with ⟨hb, ht⟩ | ⟨body, t, hb, ht, hread⟩
  · rw [Raw.named?_of_none hb, Setting.known?_of_none ht]
  · rw [Raw.named?_of_some hb, Setting.known?_of_some ht]
    dsimp only
    congr 1
    funext q
    split
    · rfl
    · exact interpret_eq_run _ (v.goTo q.1) hread
termination_by rank (Raw.names raw) chain v.place
decreasing_by exact rank_lt (Raw.mem_names_of_body? hb) q ‹_›

/-- The bodies to start with correspond, or there is none on both sides. -/
theorem startBody_cases (hroot : Spec.Reads (Raw.root raw) spec.root) (template : Option String) :
    (∃ d o, (Raw.startBody raw template : m Document) = pure d ∧
      (Setting.startBody ⟨c, spec⟩ template : m Output) = pure o ∧ Spec.Reads d o) ∨
    ∃ e : Failure, (Raw.startBody raw template : m Document) = fail e ∧
      (Setting.startBody ⟨c, spec⟩ template : m Output) = fail e := by
  unfold Raw.startBody Setting.startBody
  cases template with
  | none => exact .inl ⟨_, _, rfl, rfl, hroot⟩
  | some name =>
    dsimp only
    rcases Spec.body?_cases hts name with ⟨hb, ht⟩ | ⟨body, t, hb, ht, hread⟩
    · rw [hb, ht]
      exact .inr ⟨_, rfl, rfl⟩
    · rw [hb, ht]
      exact .inl ⟨_, _, rfl, rfl, hread⟩

theorem start_eq_start (hroot : Spec.Reads (Raw.root raw) spec.root) (template : Option String)
    (d : Document) :
    (Raw.start c raw template d : Attempt Failure Document)
      = Setting.start ⟨c, spec⟩ template d := by
  unfold Raw.start Setting.start Setting.startWith
  rcases startBody_cases (m := Attempt Failure) c hts hroot template with
    ⟨body, o, hd, ho, hread⟩ | ⟨e, hd, ho⟩
  · rw [hd, ho]
    show (Raw.interpret c raw [] _ body >>= _) = Setting.run ⟨c, spec⟩ [] _ o >>= _
    rw [interpret_eq_run c hts [] _ hread]
  · rw [hd, ho]
    rfl

end Run

/-- A specification that compiles gives on every document, with every choice of
mode, operations, limit and start, what its interpretation gives: the same result,
and the same failures passed over. -/
theorem compile_preserves_meaning {check : Spec.Conformance} {raw : Document} {spec : Spec}
    (h : Spec.compileWith check raw = .ok spec) (t : Transformer) (options : RunOptions)
    (d : Document) : t.run spec options d = t.interpret raw options d := by
  obtain ⟨hts, hroot⟩ := Spec.compiles_of_compileWith h
  exact (start_eq_start _ hts hroot options.start d).symm

/-- A template that applies itself and one that is not defined. -/
theorem compile_preserves_meaning_looping :
    let raw : Document := .object [
      ("templates", .array [.object [("name", .string "list"), ("output", .object [
        ("self", .object [("apply", .string "list")]),
        ("other", .object [("apply", .string "none"), ("expr", .null)])])]]),
      ("root", .array [.object [("apply", .string "list")], .string "text"])]
    ∃ spec, Spec.compileWith Spec.unchecked raw = .ok spec ∧
      (Transformer.standard "").run spec .none raw
        = (Transformer.standard "").interpret raw .none raw := by
  intro raw
  obtain ⟨spec, h⟩ : ∃ spec, Spec.compileWith Spec.unchecked raw = .ok spec := ⟨_, rfl⟩
  exact ⟨spec, h, compile_preserves_meaning h _ _ _⟩

end Reshape
