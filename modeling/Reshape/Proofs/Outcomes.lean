import Reshape.CommandLine.Outcome
import Reshape.Proofs.DocumentText
import Reshape.Proofs.Results
import Reshape.Proofs.Strictness

/-!
# What commands come to

A transformation succeeds just if each of its steps does: `Transforms` says so of what
the files hold, without an order in which they are read. Then the result is printed or
is to be written; else nothing is printed or written. Validating and compiling succeed
on the same files, and on these a permissive transformation from the root body does:
`transform_outcome_exact`. A command depends on no files but those it reads,
`outcome_congr`.
-/

namespace Reshape

namespace CommandLine

/-! ## What files hold -/

namespace Files

variable (files : Files)

/-- The file can be read as a document. -/
def HoldsDocument (path : String) (d : Document) : Prop :=
  ∃ text, files path = .ok text ∧ Document.read text = .ok d

/-- The file can be read as a document that compiles. -/
def HoldsSpec (path : String) (spec : Spec) : Prop :=
  ∃ raw, files.HoldsDocument path raw ∧ Spec.compile raw = .ok spec

/-- The file, if one is named, can be read as a configuration; the standard one needs no file. -/
def HoldsConfig (path : Option String) (c : Config) : Prop :=
  match path with
  | some path => ∃ text, files path = .ok text ∧ Config.read text = .ok c
  | none => c = .standard

end Files

/-- The files hold a configuration, a specification and an input, and the run in the mode and
with the limit that are configured, unless it is made strict, has the result. -/
def Transforms (files : Files) (present template input : String) (strict : Bool)
    (start config : Option String) (d : Document) : Prop :=
  ∃ c spec source, files.HoldsConfig config c ∧ files.HoldsSpec template spec ∧
    files.HoldsDocument input source ∧
    ((Transformer.mk (.standard present) c).run spec
      ⟨some (if strict then .strict else c.mode), start⟩ source).result = .ok d

/-! ## Steps that succeed -/

variable {files : Files} {present template input path : String} {strict : Bool}
  {start config output : Option String}

theorem readDocument_eq_ok_iff {d : Document} :
    readDocument files path = .ok d ↔ files.HoldsDocument path d := by
  unfold readDocument Files.HoldsDocument
  simp only [bind_eq_ok_iff, mapError_eq_ok_iff]

theorem readSpec_eq_ok_iff {spec : Spec} :
    readSpec files path = .ok spec ↔ files.HoldsSpec path spec := by
  unfold readSpec Files.HoldsSpec
  simp only [bind_eq_ok_iff, mapError_eq_ok_iff, readDocument_eq_ok_iff]

theorem readConfig_eq_ok_iff {c : Config} :
    readConfig files path = .ok c ↔ files.HoldsConfig (some path) c := by
  unfold readConfig Files.HoldsConfig
  simp only [bind_eq_ok_iff, mapError_eq_ok_iff]

theorem elim_readConfig_eq_ok_iff {c : Config} :
    config.elim (.ok .standard) (readConfig files) = .ok c ↔ files.HoldsConfig config c := by
  cases config with
  | none => exact ⟨fun h => (Except.ok.inj h).symm, congrArg Except.ok ∘ Eq.symm⟩
  | some path => exact readConfig_eq_ok_iff

theorem run_configured (c : Config) (spec : Spec) (d : Document) :
    (Transformer.mk (.standard present)
        (if strict then { c with mode := .strict } else c)).run spec ⟨none, start⟩ d
      = (Transformer.mk (.standard present) c).run spec
          ⟨some (if strict then .strict else c.mode), start⟩ d := by
  cases strict <;> rfl

theorem transformed_eq_ok_iff {d : Document} :
    transformed files present template input strict start config = .ok d
      ↔ Transforms files present template input strict start config d := by
  unfold transformed configuration Transforms
  simp only [bind_eq_ok_iff, mapError_eq_ok_iff, readDocument_eq_ok_iff, readSpec_eq_ok_iff,
    elim_readConfig_eq_ok_iff]
  constructor
  · rintro ⟨_, ⟨c, hc, ⟨⟩⟩, spec, hspec, source, hsource, hrun⟩
    rw [run_configured] at hrun
    exact ⟨c, spec, source, hc, hspec, hsource, hrun⟩
  · rintro ⟨c, spec, source, hc, hspec, hsource, hrun⟩
    rw [← run_configured] at hrun
    exact ⟨_, ⟨c, hc, rfl⟩, spec, hspec, source, hsource, hrun⟩

/-- Without a template to start with, a permissive run of what compiles has a result. -/
theorem exists_transforms_of_permissive {c : Config} (hc : files.HoldsConfig config c)
    (hmode : c.mode = .permissive) {spec : Spec} (hspec : files.HoldsSpec template spec)
    {source : Document} (hsource : files.HoldsDocument input source) :
    ∃ d, Transforms files present template input false none config d := by
  let t : Transformer := ⟨.standard present, c⟩
  have hdefines : spec.Defines none := nofun
  obtain ⟨d, hd⟩ := Transform.start_permissive hdefines (t.conditions .permissive) source
  refine ⟨d, c, spec, source, hc, hspec, hsource, ?_⟩
  rw [hmode]
  exact hd

/-! ## Outcomes -/

namespace Outcome

variable {α : Type} {f : α → Outcome} {x : Except Failure α}

theorem status_ofExcept_eq_zero_iff (hf : ∀ a, (f a).status = 0) :
    (ofExcept f x).status = 0 ↔ ∃ a, x = .ok a := by
  cases x with
  | error failure => exact ⟨nofun, nofun⟩
  | ok a => exact ⟨fun _ => ⟨a, rfl⟩, fun _ => hf a⟩

theorem ofExcept_of_no_result (h : ¬ ∃ a, x = .ok a) :
    (ofExcept f x).status = 1 ∧ (ofExcept f x).printed = "" ∧ (ofExcept f x).writes = none := by
  cases x with
  | error failure => exact ⟨rfl, rfl, rfl⟩
  | ok a => exact absurd ⟨a, rfl⟩ h

theorem status_emits (path : Option String) (d : Document) : (emits path d).status = 0 := by
  cases path <;> rfl

end Outcome

theorem status_validate_eq_zero_iff :
    ((Command.validate template).outcome files present).status = 0
      ↔ ∃ spec, files.HoldsSpec template spec := by
  simp only [Command.outcome, ← readSpec_eq_ok_iff]
  exact Outcome.status_ofExcept_eq_zero_iff fun _ => rfl

theorem status_compile_eq_zero_iff :
    ((Command.compile template output).outcome files present).status = 0
      ↔ ∃ spec, files.HoldsSpec template spec := by
  simp only [Command.outcome, ← readSpec_eq_ok_iff]
  exact Outcome.status_ofExcept_eq_zero_iff fun _ => Outcome.status_emits ..

theorem status_transform_eq_zero_iff :
    ((Command.transform template input output strict start config).outcome files present).status = 0
      ↔ ∃ d, Transforms files present template input strict start config d := by
  simp only [Command.outcome, ← transformed_eq_ok_iff]
  exact Outcome.status_ofExcept_eq_zero_iff fun _ => Outcome.status_emits ..

/-- A transformation succeeds just if its steps do. It prints the result or has it written, and
if it does not succeed, it exits with one and neither prints nor writes anything. Validating and
compiling succeed for the same templates, and for these so does each permissive transformation
from the root body, whatever the input is. -/
theorem transform_outcome_exact (files : Files) (present template : String) :
    (∀ input output strict start config,
      let o := (Command.transform template input output strict start config).outcome files present
      let result := Transforms files present template input strict start config
      (o.status = 0 ↔ ∃ d, result d) ∧
      (∀ d, result d →
        o.printed = (if output.isNone then d.pretty ++ "\n" else "") ∧
        o.writes = output.map fun path => (path, d.pretty ++ "\n")) ∧
      ((¬ ∃ d, result d) → o.status = 1 ∧ o.printed = "" ∧ o.writes = none)) ∧
    (∀ output, ((Command.validate template).outcome files present).status = 0
      ↔ ((Command.compile template output).outcome files present).status = 0) ∧
    (((Command.validate template).outcome files present).status = 0 →
      ∀ input output config c, files.HoldsConfig config c → c.mode = .permissive →
        (∃ source, files.HoldsDocument input source) →
        ((Command.transform template input output false none config).outcome files present).status
          = 0) := by
  refine ⟨fun input output strict start config => ⟨status_transform_eq_zero_iff, ?_, ?_⟩,
    fun output => status_validate_eq_zero_iff.trans status_compile_eq_zero_iff.symm, ?_⟩
  · intro d hd
    simp only [Command.outcome, transformed_eq_ok_iff.2 hd]
    cases output <;> exact ⟨rfl, rfl⟩
  · intro hnone
    simp only [← transformed_eq_ok_iff] at hnone
    exact Outcome.ofExcept_of_no_result hnone
  · intro hvalid input output config c hc hmode
    rintro ⟨source, hsource⟩
    obtain ⟨spec, hspec⟩ := status_validate_eq_zero_iff.1 hvalid
    exact status_transform_eq_zero_iff.2 (exists_transforms_of_permissive hc hmode hspec hsource)

/-- A specification without templates: it can be run from its root body, and not from a template. -/
theorem transform_outcome_exact_root_only :
    let text := "\x7b\"templates\":[],\"root\":[]\x7d"
    let files : Files := fun path =>
      if path = "t" then .ok text else if path = "i" then .ok "[]" else .error "no file"
    let transform (start : Option String) : Outcome :=
      (Command.transform "t" "i" (some "o") false start none).outcome files ""
    ((Command.validate "t").outcome files "").status = 0 ∧
      (transform none).status = 0 ∧ (transform none).writes = some ("o", "[]\n") ∧
      (transform (some "a")).status = 1 ∧ (transform (some "a")).writes = none := by
  intro text files transform
  let raw : Document := .object [("templates", .array []), ("root", .array [])]
  let spec : Spec := ⟨[], .array [], []⟩
  have hread : Document.read text = .ok raw := by
    let afterRoot : List Char := [':', '[', ']', '\x7d']
    let afterTemplates : List Char :=
      ':' :: '[' :: ']' :: ',' :: '"' :: ("root".toList.flatMap Document.escape ++ '"' :: afterRoot)
    have htext : text.toList = '\x7b' :: '"' ::
        ("templates".toList.flatMap Document.escape ++ '"' :: afterTemplates) := by decide
    obtain ⟨_, htemplates⟩ := Document.gives_stringBody_escapes "templates".toList afterTemplates
    obtain ⟨_, hroot⟩ := Document.gives_stringBody_escapes "root".toList afterRoot
    unfold Document.read Document.readWithin Document.readAll
    rw [htext]
    unfold Document.value Document.entries
    show ((((Document.stringBody _ >>= _) >>= _).bind Document.toEnd).mapError _) = _
    rw [htemplates]
    unfold Document.value Document.entries
    show (((((Document.stringBody _ >>= _) >>= _) >>= _).bind Document.toEnd).mapError _) = _
    rw [hroot]
    unfold Document.value
    rfl
  have hempty : Document.read "[]" = .ok (.array []) := by
    have htext : "[]".toList = ['[', ']'] := by decide
    unfold Document.read Document.readWithin Document.readAll
    rw [htext]
    unfold Document.value
    rfl
  have hcompile : Spec.compile raw = .ok spec := by
    have hconforms : Spec.conformance raw = .ok () := by decide +kernel
    unfold Spec.compile Spec.compileWith
    rw [hconforms]
    rfl
  have hspec : files.HoldsSpec "t" spec := ⟨raw, ⟨text, rfl, hread⟩, hcompile⟩
  have hinput : files.HoldsDocument "i" (.array []) := ⟨"[]", rfl, hempty⟩
  have hresult : Transforms files "" "t" "i" false none none (.array []) := by
    refine ⟨.standard, spec, .array [], rfl, hspec, hinput, ?_⟩
    show (Transform.Setting.run _ [] _ spec.root >>= _ : Attempt _ _).result = _
    rw [Transform.Setting.run]
    rfl
  have hfails : ¬ ∃ d, Transforms files "" "t" "i" false (some "a") none d := by
    simp only [← transformed_eq_ok_iff]
    unfold transformed
    rw [readSpec_eq_ok_iff.2 hspec, readDocument_eq_ok_iff.2 hinput]
    rintro ⟨d, ⟨⟩⟩
  obtain ⟨htransform, -, hpermissive⟩ := transform_outcome_exact files "" "t"
  have hvalid : ((Command.validate "t").outcome files "").status = 0 :=
    status_validate_eq_zero_iff.2 ⟨spec, hspec⟩
  obtain ⟨-, hwrites, -⟩ := htransform "i" (some "o") false none none
  obtain ⟨-, -, hnone⟩ := htransform "i" (some "o") false (some "a") none
  exact ⟨hvalid, hpermissive hvalid "i" (some "o") none .standard rfl rfl ⟨_, hinput⟩,
    (hwrites _ hresult).2, (hnone hfails).1, (hnone hfails).2.2⟩

/-! ## Files that matter -/

theorem readDocument_congr {files' : Files} (h : files path = files' path) :
    readDocument files path = readDocument files' path := by
  unfold readDocument
  rw [h]

theorem readSpec_congr {files' : Files} (h : files path = files' path) :
    readSpec files path = readSpec files' path := by
  unfold readSpec
  rw [readDocument_congr h]

theorem configuration_congr {files' : Files} (h : ∀ path ∈ config, files path = files' path) :
    configuration files config strict = configuration files' config strict := by
  cases config with
  | none => rfl
  | some path =>
    unfold configuration readConfig
    simp only [Option.elim_some, h path rfl]

/-- The outcome of a command depends on the files that it reads, and on no others. -/
theorem outcome_congr {files' : Files} (c : Command)
    (h : ∀ path ∈ c.reads, files path = files' path) :
    c.outcome files present = c.outcome files' present := by
  cases c with
  | transform template input output strict start config =>
    have hconfig : ∀ path ∈ config, files path = files' path := fun path hpath =>
      h path (List.mem_append_left _ (Option.mem_toList.2 hpath))
    have hfiles : ∀ path ∈ [template, input], files path = files' path := fun path hpath =>
      h path (List.mem_append_right _ hpath)
    rw [List.forall_mem_cons, List.forall_mem_singleton] at hfiles
    simp only [Command.outcome, transformed]
    rw [configuration_congr hconfig, readSpec_congr hfiles.1, readDocument_congr hfiles.2]
  | validate template | compile template output =>
    simp only [Command.outcome]
    rw [readSpec_congr (h template (List.mem_singleton_self _))]
  | debug template input =>
    simp only [Command.outcome]
    rw [readDocument_congr (h template List.mem_cons_self),
      readDocument_congr (h input (List.mem_cons_of_mem _ (List.mem_singleton_self _)))]

end CommandLine

end Reshape
