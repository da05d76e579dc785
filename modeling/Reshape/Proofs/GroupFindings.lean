import Mathlib.Data.List.Nodup
import Reshape.Proofs.KeywordGroups

/-!
# What one group finds

The rules of a group stand between those of the groups before it and behind it, and only a type can
end a node. So exchanging what a schema says in one group exchanges what the rules of this group
find, if the check comes to them, and leaves all else that is found as it was: `check_around`.
-/

namespace Reshape

namespace Schema

variable {w : Vocabulary} {path : Position} {es fs : List (String × Document)} {v : Document}

/-- The check of a document goes on behind the type of a schema. -/
def goesOn (es : List (String × Document)) (v : Document) : Bool :=
  (text? es "type").all fun name => hasType name v

/-! ## Rules that end a node -/

theorem KeywordGroup.stops_of_mem_rules {g : KeywordGroup} {r : Rule Schema} (hg : g ≠ type)
    (hr : r ∈ g.rules es) : stops r = false := by
  cases g
  case type => exact absurd rfl hg
  case enum =>
    rw [rules, enumRules] at hr
    split at hr <;> simp_all [stops]
  case uniqueItems =>
    rw [rules] at hr
    split at hr <;> simp_all [stops]
  case items =>
    rw [rules, itemRules] at hr
    split at hr <;> simp_all [stops]
  case properties =>
    rw [rules, requiredRules, entryRule] at hr
    split at hr
    · rcases List.mem_append.1 hr with hr | hr <;> cases List.mem_singleton.1 hr <;> rfl
    · cases List.mem_singleton.1 hr
      rfl
  case oneOf | anyOf | allOf =>
    rw [rules, choiceRules] at hr
    split at hr <;> simp_all [stops]
  all_goals
    simp only [rules, constRules, Option.mem_toList, Option.map_eq_some_iff] at hr
    obtain ⟨_, _, rfl⟩ := hr
    rfl

/-- Rules that do not end a node leave those behind them to be checked. -/
theorem checkRules_append {rules : List (Rule Schema)} (rest : List (Rule Schema))
    (hgo : ∀ r ∈ rules, stops r = true → checkRule w path r v = []) :
    checkRules w path (rules ++ rest) v
      = checkRules w path rules v ++ checkRules w path rest v := by
  induction rules with
  | nil => simp [checkRules]
  | cons r rules ih =>
    have hr : (stops r && !(checkRule w path r v).isEmpty) = false := by
      cases hs : stops r with
      | false => rfl
      | true => rw [hgo r List.mem_cons_self hs]; rfl
    have ih := ih fun r hr => hgo r (List.mem_cons_of_mem _ hr)
    simp only [List.cons_append, checkRules, hr, ih, List.append_assoc, Bool.false_eq_true,
      if_false]

theorem KeywordGroup.checkRules_append_of_ne_type {g : KeywordGroup} (hg : g ≠ type)
    (rest : List (Rule Schema)) :
    checkRules w path (g.rules es ++ rest) v
      = checkRules w path (g.rules es) v ++ checkRules w path rest v :=
  checkRules_append rest fun r hr hs => by
    rw [stops_of_mem_rules hg hr] at hs
    cases hs

theorem checkRules_flatMap_append {gs : List KeywordGroup} (hgs : ∀ g ∈ gs, g ≠ .type)
    (rest : List (Rule Schema)) :
    checkRules w path (gs.flatMap (KeywordGroup.rules es) ++ rest) v
      = checkRules w path (gs.flatMap (KeywordGroup.rules es)) v ++ checkRules w path rest v :=
  checkRules_append rest fun r hr hs => by
    obtain ⟨g, hg, hr⟩ := List.mem_flatMap.1 hr
    rw [KeywordGroup.stops_of_mem_rules (hgs g hg) hr] at hs
    cases hs

theorem checkRules_typeRules_append (h : goesOn es v = true) (rest : List (Rule Schema)) :
    checkRules w path (typeRules es ++ rest) v
      = checkRules w path (typeRules es) v ++ checkRules w path rest v := by
  refine checkRules_append rest fun r hr hs => ?_
  rw [typeRules] at hr
  split at hr
  case h_1 name hname =>
    cases List.mem_singleton.1 hr
    rw [checkRule_type_eq_nil]
    simpa [goesOn, text?, hname] using h
  case h_2 =>
    cases List.mem_singleton.1 hr
    cases hs
  case h_3 => cases hr

theorem checkRules_typeRules_append_of_not (h : goesOn es v = false) (rest : List (Rule Schema)) :
    checkRules w path (typeRules es ++ rest) v = checkRules w path (typeRules es) v := by
  unfold goesOn text? at h
  unfold typeRules
  split
  case h_1 name hname =>
    have hmiss : hasType name v = false := by simpa [hname] using h
    simp [checkRules, checkRule, checkValue, reportIf, stops, hmiss]
  all_goals simp_all

/-! ## The groups around -/

/-- Two schemas have the same entries but for the keywords of a group. -/
def AgreeOutside (g : KeywordGroup) (es fs : List (String × Document)) : Prop :=
  ∀ key, key ∉ g.keys → Document.find? fs key = Document.find? es key

namespace KeywordGroup

theorem rules_of_agreeOutside {g h : KeywordGroup} (hagree : AgreeOutside g es fs) (hne : h ≠ g) :
    h.rules fs = h.rules es :=
  rules_congr fun key hkey => hagree key fun hg => hne (eq_of_mem_keys hkey hg)

theorem flatMap_rules_of_agreeOutside {g : KeywordGroup} (hagree : AgreeOutside g es fs)
    {gs : List KeywordGroup} (hgs : ∀ h ∈ gs, h ≠ g) :
    gs.flatMap (rules fs) = gs.flatMap (rules es) :=
  List.flatMap_congr fun h hh => rules_of_agreeOutside hagree (hgs h hh)

/-- The groups before another one, of which the first is the type, and those behind it. -/
theorem exists_around {g : KeywordGroup} (hg : g ≠ type) :
    ∃ gs hs : List KeywordGroup, all = type :: (gs ++ g :: hs) ∧ (∀ h ∈ gs, h ≠ type) ∧
      (∀ h ∈ gs, h ≠ g) ∧ ∀ h ∈ hs, h ≠ g := by
  have hmem : g ∈ all.tail := (List.mem_cons.1 g.mem_all).resolve_left hg
  have hnodup : (type :: all.tail).Nodup := by decide
  obtain ⟨gs, hs, htail⟩ := List.append_of_mem hmem
  rw [htail] at hnodup
  obtain ⟨htype, hnodup⟩ := List.nodup_cons.1 hnodup
  have hmiddle : g ∉ gs ++ hs := (List.nodup_middle.1 hnodup).notMem
  refine ⟨gs, hs, congrArg (type :: ·) htail, ?_, ?_, ?_⟩
  · rintro h hh rfl
    exact htype (List.mem_append_left _ hh)
  · rintro h hh rfl
    exact hmiddle (List.mem_append_left _ hh)
  · rintro h hh rfl
    exact hmiddle (List.mem_append_right _ hh)

end KeywordGroup

/-- A group adds what its rules find to findings that do not depend on it. -/
theorem check_around {g : KeywordGroup} (hg : g ≠ .type) (w : Vocabulary) (path : Position)
    (es : List (String × Document)) (hv : v.isNull = false) :
    ∃ before after : List Finding, ∀ fs, AgreeOutside g es fs →
      check w path (ofDocument (.object fs)) v
        = before ++ (if goesOn es v then checkRules w path (g.rules fs) v else []) ++ after := by
  obtain ⟨gs, hs, hall, htype, hgs, hhs⟩ := KeywordGroup.exists_around hg
  have hcheck (fs : List (String × Document)) (hagree : AgreeOutside g es fs) :
      check w path (ofDocument (.object fs)) v
        = checkRules w path (typeRules es ++ (gs.flatMap (KeywordGroup.rules es)
            ++ (g.rules fs ++ hs.flatMap (KeywordGroup.rules es)))) v := by
    have hrules : KeywordGroup.all.flatMap (KeywordGroup.rules fs)
        = typeRules es ++ (gs.flatMap (KeywordGroup.rules es)
            ++ (g.rules fs ++ hs.flatMap (KeywordGroup.rules es))) := by
      rw [hall, List.flatMap_cons, List.flatMap_append, List.flatMap_cons,
        KeywordGroup.rules_of_agreeOutside hagree hg.symm,
        KeywordGroup.flatMap_rules_of_agreeOutside hagree hgs,
        KeywordGroup.flatMap_rules_of_agreeOutside hagree hhs]
      rfl
    rw [ofDocument_object, hrules, check, hv, Bool.and_false]
    rfl
  cases hgo : goesOn es v with
  | false =>
    refine ⟨checkRules w path (typeRules es) v, [], fun fs hagree => ?_⟩
    rw [hcheck fs hagree, checkRules_typeRules_append_of_not hgo, if_neg Bool.false_ne_true,
      List.append_nil, List.append_nil]
  | true =>
    refine ⟨checkRules w path (typeRules es) v
        ++ checkRules w path (gs.flatMap (KeywordGroup.rules es)) v,
      checkRules w path (hs.flatMap (KeywordGroup.rules es)) v, fun fs hagree => ?_⟩
    rw [hcheck fs hagree, checkRules_typeRules_append hgo, checkRules_flatMap_append htype,
      KeywordGroup.checkRules_append_of_ne_type hg, if_pos rfl]
    simp only [List.append_assoc]

end Schema

end Reshape
