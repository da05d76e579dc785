import Reshape.Schema.Report

/-!
# Reports are made by appending

A pass over a document only puts violations behind those found before it, whatever they are:
`Adds`. What it adds are the findings of `Schema.check`, written from the path where the pass
starts, `collect_adds`, since the trial of an option leaves nothing behind, `tried_of_adds`.
-/

namespace Reshape

/-- A finding in a node, seen from a document that has the node at a position. -/
def Finding.under (p : Position) (f : Finding) : Finding := ⟨p ++ f.path, f.cause⟩

namespace Position

theorem textFrom_nil (start : String) : textFrom start [] = start := rfl

theorem textFrom_append (start : String) (p q : Position) :
    textFrom start (p ++ q) = textFrom (textFrom start p) q := by
  simp [textFrom]

theorem textFrom_concat (start : String) (p : Position) (b : Branch) :
    textFrom start (p ++ [b]) = textFrom start p ++ b.text := textFrom_append start p [b]

theorem textFrom_eq (start : String) (p : Position) : p.textFrom start = start ++ p.textFrom "" := by
  induction p generalizing start with
  | nil => simp [textFrom]
  | cons b p ih =>
    show textFrom (start ++ b.text) p = start ++ textFrom ("" ++ b.text) p
    rw [ih, ih ("" ++ b.text), String.append_assoc, String.empty_append]

end Position

theorem Finding.below_under (start : String) (p : Position) (f : Finding) :
    (f.under p).below start = f.below (p.textFrom start) := by
  unfold below under
  rw [Position.textFrom_append]

namespace Schema

variable {w : Vocabulary} {start : String} {p : Position}

/-! ## Passes that add violations -/

/-- The pass puts these violations behind those found already, and changes nothing else. -/
def Adds (pass : List Violation → List Violation) (added : List Violation) : Prop :=
  ∀ found, pass found = found ++ added

section Adds

variable {pass next : List Violation → List Violation} {added more : List Violation}

theorem Adds.nothing : Adds (fun found => found) [] := fun found => (List.append_nil found).symm

theorem Adds.comp (h : Adds pass added) (hn : Adds next more) :
    Adds (fun found => next (pass found)) (added ++ more) := by
  intro found
  show next (pass found) = _
  rw [hn, h, List.append_assoc]

theorem Adds.foldl {α : Type} {pass : List Violation → α → List Violation}
    {added : α → List Violation} (h : ∀ x, Adds (fun found => pass found x) (added x))
    (xs : List α) : Adds (fun found => xs.foldl pass found) (xs.flatMap added) := by
  induction xs with
  | nil => exact .nothing
  | cons x xs ih => exact (h x).comp ih

theorem adds_report (path : String) (findings : List Finding) :
    Adds (report path findings) (findings.map (Finding.below path)) := fun _ => rfl

theorem report_reportIf (path : String) (broken : Bool) (cause : Finding.Cause)
    (found : List Violation) :
    report path (reportIf broken [] cause) found
      = found ++ if broken then [⟨path, cause.message⟩] else [] := by
  unfold reportIf
  cases broken <;> rfl

/-- A trial finds out whether something would be added, and adds nothing itself. -/
theorem tried_of_adds (h : Adds pass added) (found : List Violation) :
    tried found (pass found) = (added.isEmpty, found) := by
  unfold tried
  rw [h, List.take_left]
  cases added <;> simp

end Adds

/-! ## Findings at the node itself -/

theorem map_under_reportIf (broken : Bool) (q : Position) (cause : Finding.Cause) :
    (reportIf broken q cause).map (Finding.under p) = reportIf broken (p ++ q) cause := by
  unfold reportIf
  cases broken <;> rfl

/-- What is reported below a node at a path is what is found below its position. -/
theorem Adds.report_under {findings : List Finding} {found : List Finding}
    (h : findings.map (Finding.under p) = found) :
    Adds (report (p.textFrom start) findings) (found.map (Finding.below start)) := by
  have hbelow : found.map (Finding.below start)
      = findings.map (Finding.below (p.textFrom start)) := by
    rw [← h, List.map_map]
    exact List.map_congr_left fun f _ => Finding.below_under start p f
  rw [hbelow]
  exact adds_report _ _

theorem Adds.reportIf (broken : Bool) (cause : Finding.Cause) :
    Adds (report (p.textFrom start) (reportIf broken [] cause))
      ((Schema.reportIf broken p cause).map (Finding.below start)) := by
  refine .report_under ?_
  rw [map_under_reportIf, List.append_nil]

/-- Findings that are listed one by one, at the node or one step below it. -/
theorem map_under_flatMap {α : Type} (xs : List α) (broken : α → Bool) (q : α → Position)
    (cause : α → Finding.Cause) :
    (xs.flatMap fun x => Schema.reportIf (broken x) (q x) (cause x)).map (Finding.under p)
      = xs.flatMap fun x => Schema.reportIf (broken x) (p ++ q x) (cause x) := by
  rw [List.map_flatMap]
  exact congrArg List.flatten (List.map_congr_left fun _ _ => map_under_reportIf _ _ _)

theorem map_under_badPatterns (patterns : List (WrittenPattern × Schema)) :
    (badPatterns w [] patterns).map (Finding.under p) = badPatterns w p patterns := by
  unfold badPatterns
  rw [List.map_flatMap]
  congr 1
  funext pattern
  cases w.pattern pattern.1 with
  | ok matching => rfl
  | error explanation => exact congrArg (fun q => [(⟨q, _⟩ : Finding)]) (List.append_nil p)

theorem map_under_checkValue (rule : Rule Schema) (v : Document) :
    (checkValue w [] rule v).map (Finding.under p) = checkValue w p rule v := by
  have hnode : ∀ broken cause, (Schema.reportIf broken [] cause).map (Finding.under p)
      = Schema.reportIf broken p cause := by
    intro broken cause
    rw [map_under_reportIf, List.append_nil]
  unfold checkValue
  split <;> try exact hnode _ _
  case h_7 =>
    split
    · exact hnode true _
    · exact hnode _ _
  case h_8 =>
    split
    · exact hnode _ _
    · exact hnode _ _
  case h_17 => exact map_under_flatMap _ _ _ _
  case h_18 => rfl

/-! ## Findings below the node -/

/-- Items are passed over with their places. -/
theorem Adds.items {pass : Nat → Document → List Violation → List Violation}
    {found : Nat → Document → List Finding}
    (h : ∀ i d, Adds (pass i d) ((found i d).map (Finding.below start))) (ds : List Document) :
    Adds (fun fs => ds.zipIdx.foldl (fun fs (d, i) => pass i d fs) fs)
      ((ds.mapIdx found).flatten.map (Finding.below start)) := by
  have hfold := Adds.foldl (fun x : Document × Nat => h x.2 x.1) ds.zipIdx
  rw [List.mapIdx_eq_zipIdx_map, ← List.flatMap_def, List.map_flatMap]
  exact hfold

theorem Adds.entries {pass : String × Document → List Violation → List Violation}
    {found : String × Document → List Finding}
    (h : ∀ e, Adds (pass e) ((found e).map (Finding.below start)))
    (es : List (String × Document)) :
    Adds (fun fs => es.foldl (fun fs e => pass e fs) fs)
      ((es.flatMap found).map (Finding.below start)) := by
  rw [List.map_flatMap]
  exact Adds.foldl h es

theorem countPassing_eq (ss : List Schema) (v : Document) :
    countPassing w p ss v = ss.countP fun s => (check w p s v).isEmpty := by
  induction ss with
  | nil => rfl
  | cons s ss ih => rw [countPassing, List.countP_cons, ih, Nat.add_comm]

/-- No option is met just if none of them is found to be. -/
theorem countPassing_eq_zero (ss : List Schema) (v : Document) :
    (countPassing w p ss v == 0) = !ss.any fun s => (check w p s v).isEmpty := by
  rw [countPassing_eq, Bool.eq_iff_iff, beq_iff_eq, List.countP_eq_zero, Bool.not_eq_true',
    List.any_eq_false]

mutual

theorem collect_adds (w : Vocabulary) (start : String) (p : Position) :
    ∀ (s : Schema) (v : Document),
      Adds (collect w (p.textFrom start) s v) ((check w p s v).map (Finding.below start))
  | .verdict accepts, v => .reportIf _ _
  | .node nullable rules, v => by
    intro found
    rw [collect, check]
    split
    · exact Adds.nothing found
    · exact collectRules_adds w start p rules v found

theorem collectRules_adds (w : Vocabulary) (start : String) (p : Position) :
    ∀ (rules : List (Rule Schema)) (v : Document),
      Adds (collectRules w (p.textFrom start) rules v)
        ((checkRules w p rules v).map (Finding.below start))
  | [], v => .nothing
  | rule :: rest, v => by
    intro found
    have hrule := collectRule_adds w start p rule v
    have hrest := collectRules_adds w start p rest v
    have hlength : ((collectRule w (p.textFrom start) rule v found).length != found.length)
        = !(checkRule w p rule v).isEmpty := by
      rw [hrule]
      cases checkRule w p rule v <;> simp
    rw [collectRules, checkRules, hlength]
    split
    · exact hrule found
    · rw [List.map_append]
      exact hrule.comp hrest found

theorem collectRule_adds (w : Vocabulary) (start : String) (p : Position) :
    ∀ (rule : Rule Schema) (v : Document),
      Adds (collectRule w (p.textFrom start) rule v)
        ((checkRule w p rule v).map (Finding.below start))
  | .items s, v => by
    cases v with
    | array ds =>
      have hitem (i : Nat) (d : Document) := collect_adds w start (p ++ [.item i]) s d
      simp only [Position.textFrom_concat] at hitem
      exact Adds.items hitem ds
    | _ => exact .report_under (map_under_checkValue _ _)
  | .tuple ss extra, v => by
    cases v with
    | array ds =>
      rw [checkRule, List.map_append]
      exact (collectTuple_adds w start p 0 ss ds).comp
        (collectExtraItems_adds w start p ss.length extra ds)
    | _ => exact .report_under (map_under_checkValue _ _)
  | .entries properties patterns extra, v => by
    cases v with
    | object es =>
      have hbad : Adds (report (p.textFrom start) (badPatterns w [] patterns))
          ((badPatterns w p patterns).map (Finding.below start)) :=
        .report_under (map_under_badPatterns patterns)
      rw [checkRule, List.map_append, List.map_append, List.map_append]
      exact (((collectProperties_adds w start p properties es).comp hbad).comp
        (collectPatterns_adds w start p patterns es)).comp
        (collectExtraEntries_adds w start p patterns extra (unlisted properties es))
    | _ => exact .report_under (map_under_checkValue _ _)
  | .oneOf options, v => by
    intro found
    rw [collectRule, countMatching_eq w start p options v found, checkRule]
    exact Adds.reportIf _ _ found
  | .anyOf options, v => by
    intro found
    rw [collectRule, anyMatching_eq w start p options v found, checkRule, countPassing_eq_zero]
    exact Adds.reportIf _ _ found
  | .allOf all, v => collectAll_adds w start p all v
  | .type _, v | .typeAmong _, v | .enum _, v | .const _, v | .minLength _, v | .maxLength _, v
  | .pattern _, v | .format _, v | .minimum _, v | .maximum _, v | .exclusiveMinimum _, v
  | .exclusiveMaximum _, v | .multipleOf _, v | .minItems _, v | .maxItems _, v
  | .uniqueItems, v | .required _, v => .report_under (map_under_checkValue _ _)

theorem collectTuple_adds (w : Vocabulary) (start : String) (p : Position) (i : Nat) :
    ∀ (ss : List Schema) (ds : List Document),
      Adds (collectTuple w (p.textFrom start) i ss ds)
        ((checkTuple w p i ss ds).map (Finding.below start))
  | s :: ss, d :: ds => by
    have hs := collect_adds w start (p ++ [.item i]) s d
    rw [Position.textFrom_concat] at hs
    rw [checkTuple, List.map_append]
    exact hs.comp (collectTuple_adds w start p (i + 1) ss ds)
  | [], _ => .nothing
  | _ :: _, [] => .nothing

theorem collectExtraItems_adds (w : Vocabulary) (start : String) (p : Position) (places : Nat) :
    ∀ (extra : Extra Schema) (ds : List Document),
      Adds (collectExtraItems w (p.textFrom start) places extra ds)
        ((checkExtraItems w p places extra ds).map (Finding.below start))
  | .open, _ => .nothing
  | .forbidden, _ => .reportIf _ _
  | .schema s, ds => by
    have hitem (i : Nat) (d : Document) := collect_adds w start (p ++ [.item (places + i)]) s d
    simp only [Position.textFrom_concat] at hitem
    exact Adds.items hitem (ds.drop places)

theorem collectProperties_adds (w : Vocabulary) (start : String) (p : Position) :
    ∀ (properties : List (String × Schema)) (es : List (String × Document)),
      Adds (collectProperties w (p.textFrom start) properties es)
        ((checkProperties w p properties es).map (Finding.below start))
  | [], _ => .nothing
  | (key, s) :: rest, es => by
    have hrest := collectProperties_adds w start p rest es
    intro found
    rw [collectProperties, checkProperties, List.map_append]
    cases Document.find? es key with
    | none => exact Adds.nothing.comp hrest found
    | some d =>
      have hs := collect_adds w start (p ++ [.member key]) s d
      rw [Position.textFrom_concat] at hs
      exact hs.comp hrest found

theorem collectPatterns_adds (w : Vocabulary) (start : String) (p : Position) :
    ∀ (patterns : List (WrittenPattern × Schema)) (es : List (String × Document)),
      Adds (collectPatterns w (p.textFrom start) patterns es)
        ((checkPatterns w p patterns es).map (Finding.below start))
  | [], _ => .nothing
  | (pattern, s) :: rest, es => by
    have hentry (e : String × Document) := collect_adds w start (p ++ [.member e.1]) s e.2
    simp only [Position.textFrom_concat] at hentry
    rw [checkPatterns, List.map_append]
    exact (Adds.entries hentry _).comp (collectPatterns_adds w start p rest es)

theorem collectExtraEntries_adds (w : Vocabulary) (start : String) (p : Position)
    (patterns : List (WrittenPattern × Schema)) :
    ∀ (extra : Extra Schema) (es : List (String × Document)),
      Adds (collectExtraEntries w (p.textFrom start) patterns extra es)
        ((checkExtraEntries w p patterns extra es).map (Finding.below start))
  | .open, _ => .nothing
  | .forbidden, es => .report_under (map_under_flatMap _ _ _ _)
  | .schema s, es => by
    have hentry (e : String × Document) := collect_adds w start (p ++ [.member e.1]) s e.2
    simp only [Position.textFrom_concat] at hentry
    exact Adds.entries hentry es

theorem countMatching_eq (w : Vocabulary) (start : String) (p : Position) :
    ∀ (ss : List Schema) (v : Document) (found : List Violation),
      countMatching w (p.textFrom start) ss v found = (countPassing w p ss v, found)
  | [], _, _ => rfl
  | s :: ss, v, found => by
    have htried := tried_of_adds (collect_adds w start p s v) found
    have hrest := countMatching_eq w start p ss v found
    rw [List.isEmpty_map] at htried
    rw [countMatching, htried]
    dsimp only
    rw [hrest, countPassing]
    cases (check w p s v).isEmpty
    · exact congrArg (·, found) (Nat.zero_add _).symm
    · exact congrArg (·, found) (Nat.add_comm _ _)

theorem anyMatching_eq (w : Vocabulary) (start : String) (p : Position) :
    ∀ (ss : List Schema) (v : Document) (found : List Violation),
      anyMatching w (p.textFrom start) ss v found
        = (ss.any fun s => (check w p s v).isEmpty, found)
  | [], _, _ => rfl
  | s :: ss, v, found => by
    have htried := tried_of_adds (collect_adds w start p s v) found
    have hrest := anyMatching_eq w start p ss v found
    rw [List.isEmpty_map] at htried
    rw [anyMatching, htried]
    dsimp only
    rw [hrest, List.any_cons]
    cases (check w p s v).isEmpty <;> rfl

theorem collectAll_adds (w : Vocabulary) (start : String) (p : Position) :
    ∀ (ss : List Schema) (v : Document),
      Adds (collectAll w (p.textFrom start) ss v) ((checkAll w p ss v).map (Finding.below start))
  | [], _ => .nothing
  | s :: ss, v => by
    rw [checkAll, List.map_append]
    exact (collect_adds w start p s v).comp (collectAll_adds w start p ss v)

end

/-! ## Reports of whole documents -/

/-- Nothing is wrong with a document. -/
def accepts (w : Vocabulary) (s : Schema) (v : Document) : Bool := (s.violationsIn w v).isEmpty

variable {path : String} {s : Schema} {v : Document}

theorem collect_eq (found : List Violation) :
    collect w path s v found = found ++ (check w [] s v).map (Finding.below path) :=
  collect_adds w path [] s v found

theorem violationsIn_eq : s.violationsIn w v = (check w [] s v).map (Finding.below "$") := by
  rw [violationsIn, collect_eq, List.nil_append]

/-- Where the document stands does not matter for what is found in it. -/
theorem map_below_check (start : String) (p : Position) :
    (check w p s v).map (Finding.below start)
      = (check w [] s v).map (Finding.below (p.textFrom start)) := by
  have hadds := collect_adds w start p s v []
  rw [collect_eq, List.nil_append, List.nil_append] at hadds
  exact hadds.symm

theorem check_isEmpty (p : Position) :
    (check w p s v).isEmpty = accepts w s v := by
  have hempty := congrArg List.isEmpty (map_below_check (w := w) (s := s) (v := v) "$" p)
  rw [List.isEmpty_map, List.isEmpty_map] at hempty
  rw [accepts, violationsIn_eq, List.isEmpty_map, hempty]

theorem check_eq_nil_iff {p : Position} : check w p s v = [] ↔ s.violationsIn w v = [] := by
  rw [← List.isEmpty_iff, check_isEmpty, accepts, List.isEmpty_iff]

end Schema

/-- The violation with a path in place of the dollar sign that starts its own. -/
def Violation.movedTo (path : String) (e : Violation) : Violation :=
  ⟨path ++ String.ofList (e.path.toList.drop 1), e.message⟩

theorem Finding.below_root (f : Finding) : (f.below "$").path = "$" ++ f.path.textFrom "" :=
  Position.textFrom_eq "$" f.path

theorem Finding.movedTo_below (path : String) (f : Finding) :
    (f.below "$").movedTo path = f.below path := by
  unfold Violation.movedTo
  rw [below_root, String.toList_append]
  show Violation.mk (path ++ String.ofList (f.path.textFrom "").toList) _ = _
  rw [String.ofList_toList, ← Position.textFrom_eq]
  rfl

namespace Schema

theorem movedTo_violationsIn (path : String) {w : Vocabulary} {s : Schema} {v : Document} :
    (s.violationsIn w v).map (Violation.movedTo path)
      = (check w [] s v).map (Finding.below path) := by
  rw [violationsIn_eq, List.map_map]
  exact List.map_congr_left fun f _ => f.movedTo_below path

/-- A pass leaves what was found before it as it is, and adds what the same document breaks as
a root, with the path in place of the dollar sign. An option of a choice is met just if the
document breaks nothing of it, and what is found in an option that is tried is dropped. -/
theorem collect_exact (w : Vocabulary) (path : String) (v : Document) (found : List Violation) :
    (∀ s : Schema,
      collect w path s v found = found ++ (s.violationsIn w v).map (Violation.movedTo path) ∧
        ∀ e ∈ s.violationsIn w v, e.path.toList.head? = some '$') ∧
    ∀ options : List Schema,
      countMatching w path options v found = (options.countP (accepts w · v), found) ∧
        anyMatching w path options v found = (options.any (accepts w · v), found) ∧
        collectRule w path (.oneOf options) v found = found ++
          (if options.countP (accepts w · v) = 1 then []
            else [⟨path, (Finding.Cause.notExactlyOne (options.countP (accepts w · v))).message⟩]) ∧
        collectRule w path (.anyOf options) v found = found ++
          (if options.any (accepts w · v) then [] else [⟨path, Finding.Cause.noneOfAny.message⟩]) := by
  refine ⟨fun s => ⟨?_, ?_⟩, fun options => ?_⟩
  · rw [collect_eq, movedTo_violationsIn]
  · intro e he
    rw [violationsIn_eq] at he
    obtain ⟨f, -, rfl⟩ := List.mem_map.1 he
    rw [f.below_root, String.toList_append]
    rfl
  · have hcount := countMatching_eq w path [] options v found
    have hany := anyMatching_eq w path [] options v found
    simp only [Position.textFrom_nil, countPassing_eq, check_isEmpty] at hcount hany
    refine ⟨hcount, hany, ?_, ?_⟩
    · rw [collectRule, hcount]
      refine (report_reportIf path _ _ found).trans ?_
      by_cases hone : options.countP (accepts w · v) = 1 <;> simp [hone]
    · rw [collectRule, hany]
      refine (report_reportIf path _ _ found).trans ?_
      cases options.any (accepts w · v) <;> rfl

end Schema

end Reshape
