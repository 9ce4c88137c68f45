import TemplateAudit.Proofs.Audit.Completeness
import TemplateAudit.Proofs.Path.Canonical
import TemplateAudit.Proofs.Yaml.Blank

/-!
# Rules that a file suppresses

The ids that a file lists are trimmed, the ids of a configuration are not. So a full run leaves out
the rules whose id is a listed one without the blanks around it. A rule whose own id has blanks
around it is run, even when the file lists that id as it is.
-/

namespace TemplateAudit

set_option autoImplicit false

namespace Baseline

open Yaml (Value Scalar)

theorem listed?_scalar {scalar : Scalar} {value : Value} (h : scalar.value? = some value) :
    listed? value = none := by
  cases scalar with
  | wide => cases h
  | _ =>
    cases h
    rfl

theorem not_blank_of_listed {content : String} {listed : List String}
    (h : (Value.read? content).bind listed? = some listed) : Text.isBlankText content = false := by
  by_contra hblank
  rw [Bool.not_eq_false] at hblank
  obtain ⟨value, hvalue, hlisted⟩ := Option.bind_eq_some_iff.mp h
  obtain ⟨scalar, hscalar⟩ := Yaml.scalar_of_blank hblank hvalue
  rw [listed?_scalar hscalar] at hlisted
  cases hlisted

theorem idsOfText_of_listed {content : String} {listed : List String}
    (h : (Value.read? content).bind listed? = some listed) : idsOfText content = tidy listed := by
  rw [idsOfText, not_blank_of_listed h]
  simp only [Bool.false_eq_true, if_false, h]

theorem mem_tidy {id : String} {listed : List String} :
    id ∈ tidy listed ↔ id ≠ "" ∧ ∃ s ∈ listed, Text.trim s = id := by
  rw [tidy, List.mem_eraseDups, List.mem_filter, List.mem_map]
  constructor
  · rintro ⟨hlisted, hne⟩
    exact ⟨by simpa using hne, hlisted⟩
  · rintro ⟨hne, hlisted⟩
    exact ⟨hlisted, by simpa using hne⟩

end Baseline

theorem Text.trim_trim (s : String) : Text.trim (Text.trim s) = Text.trim s := by
  rw [Text.trim, Text.trim, String.toList_ofList, Path.trimChars_trimChars]

namespace Audit

theorem baseline_of_ofConfig {c : Config} {selection : Selection} {home : String} {a : Audit}
    (h : ofConfig c selection home = .ok a) : a.baseline = .ofFile (c.baselinePath home) := by
  unfold ofConfig at h
  split at h
  · simp at h
  · rw [← Except.ok.inj h]

section File
variable {c : Config} {home content : String} {a : Audit} {read : FileReader Id}
  {listed : List String}
variable (ha : ofConfig c .full home = .ok a)
  (hfile : Id.run (read (c.baselinePath home)) = .ok content)
  (hlisted : (Yaml.Value.read? content).bind Baseline.listed? = some listed)
include ha hfile hlisted

theorem activeRules_load :
    (Id.run (a.load read)).activeRules = c.auditedRules .full (Baseline.tidy listed) := by
  have hload : Id.run (a.load read) =
      a.withBaseline (Id.run (a.baseline.load read)) := rfl
  rw [hload]
  apply activeRules_eq ha
  rw [baseline_of_ofConfig ha]
  show some (Baseline.idsOfFile (Id.run (read (c.baselinePath home)))) = _
  rw [hfile, Baseline.idsOfFile, Baseline.idsOfText_of_listed hlisted]

/-- An enabled rule is evaluated, unless its id is a listed one without the blanks around it. -/
theorem evaluated_iff_not_listed (engine : Engine) (t : Template) (lineOf : String → UInt32)
    {rule : Rule} (hrule : rule ∈ c.enabledRules) :
    (∃ e ∈ (Id.run (a.load read)).activeRules.map (evaluate engine t lineOf),
      e.ruleId = rule.id) ↔ ¬ ∃ s ∈ listed, Text.trim s = rule.id := by
  obtain ⟨hmem, henabled⟩ := List.mem_filter.mp hrule
  obtain ⟨hvalid, -⟩ := ofConfig_eq_ok ha
  have hsound := (Config.consistent_of_validate hvalid).sound rule hmem
  have hnonempty : rule.id ≠ "" := by
    intro hempty
    apply hsound.filled ("id", rule.id) List.mem_cons_self
    rw [hempty]
    rfl
  rw [activeRules_load ha hfile hlisted]
  constructor
  · rintro ⟨e, he, hid⟩ hlisted
    obtain ⟨other, hother, rfl⟩ := List.mem_map.mp he
    rw [evaluate_ruleId] at hid
    have hrun := (List.mem_filter.mp hother).2
    rw [decide_eq_true_eq, hid] at hrun
    exact hrun.2.2 ⟨rfl, Baseline.mem_tidy.mpr ⟨hnonempty, hlisted⟩⟩
  · intro hunlisted
    refine ⟨evaluate engine t lineOf rule, List.mem_map.mpr ⟨rule, ?_, rfl⟩, evaluate_ruleId ..⟩
    apply List.mem_filter.mpr
    refine ⟨hmem, decide_eq_true ⟨henabled, rfl, ?_⟩⟩
    rintro ⟨-, htidy⟩
    exact hunlisted (Baseline.mem_tidy.mp htidy).2

end File

/-- A full run that reads its baseline from a file leaves out the enabled rules whose id is a listed
one without the blanks around it. An id that is listed and has no blanks around it is never
evaluated, and a rule that is not listed, up to such blanks, always is. But a rule whose own id has
blanks around it is evaluated whatever the file lists. -/
theorem evaluations_of_listed (c : Config) (home content : String) (read : FileReader Id)
    (listed : List String) (hvalid : c.validate = .ok ())
    (hfile : Id.run (read (c.baselinePath home)) = .ok content)
    (hlisted : (Yaml.Value.read? content).bind Baseline.listed? = some listed) :
    ∃ a, ofConfig c .full home = .ok a ∧ ∀ (engine : Engine) (t : Template), ¬ t.Unusable →
      ∃ es, ((Id.run (a.load read)).withEngine engine).evaluations t = .ok es ∧
        (∀ rule ∈ c.enabledRules,
          (∃ e ∈ es, e.ruleId = rule.id) ↔ ¬ ∃ s ∈ listed, Text.trim s = rule.id) ∧
        (∀ s ∈ listed, Text.trim s = s → ∀ e ∈ es, e.ruleId ≠ s) ∧
        (∀ rule ∈ c.enabledRules, (∀ s ∈ listed, Text.trim s ≠ Text.trim rule.id) →
          ∃ e ∈ es, e.ruleId = rule.id) ∧
        ∀ rule ∈ c.enabledRules, Text.trim rule.id ≠ rule.id → ∃ e ∈ es, e.ruleId = rule.id := by
  obtain ⟨a, ha⟩ := exists_ofConfig hvalid .full home
  refine ⟨a, ha, ?_⟩
  intro engine t husable
  obtain ⟨lineOf, hevaluations⟩ := evaluations_of_usable (Id.run (a.load read)) husable
  have hiff : ∀ rule ∈ c.enabledRules, _ := fun rule hrule =>
    evaluated_iff_not_listed ha hfile hlisted engine t lineOf hrule
  refine ⟨_, hevaluations engine, hiff, ?_, ?_, ?_⟩
  · intro s hs htrim e he hid
    obtain ⟨rule, hrule, rfl⟩ := List.mem_map.mp he
    have henabled : rule ∈ c.enabledRules := by
      rw [activeRules_load ha hfile hlisted] at hrule
      obtain ⟨hmem, hrun⟩ := List.mem_filter.mp hrule
      exact List.mem_filter.mpr ⟨hmem, (decide_eq_true_eq.mp hrun).1⟩
    rw [evaluate_ruleId] at hid
    apply (hiff rule henabled).mp ⟨_, he, evaluate_ruleId ..⟩
    exact ⟨s, hs, htrim.trans hid.symm⟩
  · intro rule hrule hunlisted
    apply (hiff rule hrule).mpr
    rintro ⟨s, hs, htrim⟩
    apply hunlisted s hs
    rw [← htrim, Text.trim_trim]
  · intro rule hrule hblanks
    apply (hiff rule hrule).mpr
    rintro ⟨s, -, htrim⟩
    apply hblanks
    rw [← htrim, Text.trim_trim]

/-- Of the two listed rules only the one without blanks around its id is left out. -/
theorem evaluations_of_listed_two :
    let rule (id : String) : Rule := {
      id := id, name := "n", description := "d", helpUri := "h", recommendation := "r",
      severity := .info, category := .general, check := ⟨"p", .present true, none⟩ }
    let c : Config := { rulesDir := some "rc", rules := [rule "A", rule "B", rule " C"] }
    let read : FileReader Id := fun path =>
      if path = "rc/baselines/RepeatedRulesBaseline.Rule.json" then .ok "[\"A \", \" C\"]"
      else .error .notFound
    let t : Template := { identifier := "t", expanded := .bool true }
    c.validate = .ok () ∧ ¬ t.Unusable ∧
      (Yaml.Value.read? "[\"A \", \" C\"]").bind Baseline.listed? = some ["A ", " C"] ∧
      ∃ a es, ofConfig c .full "" = .ok a ∧ (Id.run (a.load read)).evaluations t = .ok es ∧
        (¬ ∃ e ∈ es, e.ruleId = "A") ∧ (∃ e ∈ es, e.ruleId = "B") ∧
        ∃ e ∈ es, e.ruleId = " C" := by
  intro rule c read t
  have hvalid : c.validate = .ok () := by decide +kernel
  have hpath : c.baselinePath "" = "rc/baselines/RepeatedRulesBaseline.Rule.json" := by
    decide +kernel
  have hfile : Id.run (read (c.baselinePath "")) = .ok "[\"A \", \" C\"]" := by
    rw [hpath]
    rfl
  have hlisted : (Yaml.Value.read? "[\"A \", \" C\"]").bind Baseline.listed? =
      some ["A ", " C"] := by decide +kernel
  have husable : ¬ t.Unusable := Template.not_unusable (by decide) rfl (by simp [t])
  obtain ⟨a, ha, haudit⟩ := evaluations_of_listed c "" _ read _ hvalid hfile hlisted
  obtain ⟨es, hes, hiff, -, -, hblanks⟩ := haudit a.engine t husable
  have hrules : c.enabledRules = [rule "A", rule "B", rule " C"] := rfl
  rw [hrules] at hiff hblanks
  refine ⟨hvalid, husable, hlisted, a, es, ha, hes, ?_, ?_, ?_⟩
  · intro hevaluated
    exact (hiff (rule "A") (by simp)).mp hevaluated ⟨"A ", by simp, by decide +kernel⟩
  · exact (hiff (rule "B") (by simp)).mpr (by decide +kernel)
  · exact hblanks (rule " C") (by simp) (by decide +kernel)

/-- A rule is evaluated although the file lists its id exactly as the configuration has it. -/
theorem evaluated_though_listed :
    let rule : Rule := {
      id := " A", name := "n", description := "d", helpUri := "h", recommendation := "r",
      severity := .info, category := .general, check := ⟨"p", .present true, none⟩ }
    let c : Config := { rulesDir := some "rc", rules := [rule] }
    let read : FileReader Id := fun _ => .ok "[\" A\"]"
    let t : Template := { identifier := "t", expanded := .bool true }
    c.validate = .ok () ∧ rule ∈ c.enabledRules ∧ ¬ t.Unusable ∧
      (Yaml.Value.read? "[\" A\"]").bind Baseline.listed? = some [rule.id] ∧
      ∃ a es, ofConfig c .full "" = .ok a ∧ (Id.run (a.load read)).evaluations t = .ok es ∧
        ∃ e ∈ es, e.ruleId = rule.id := by
  intro rule c read t
  have hvalid : c.validate = .ok () := by decide +kernel
  have hrule : rule ∈ c.enabledRules := List.mem_singleton_self rule
  have husable : ¬ t.Unusable := Template.not_unusable (by decide) rfl (by simp [t])
  have hlisted : (Yaml.Value.read? "[\" A\"]").bind Baseline.listed? = some [rule.id] := by
    decide +kernel
  obtain ⟨a, ha⟩ := exists_ofConfig hvalid .full ""
  obtain ⟨lineOf, hevaluations⟩ := evaluations_of_usable (Id.run (a.load read)) husable
  have hfile : Id.run (read (c.baselinePath "")) = .ok "[\" A\"]" := rfl
  have hiff := evaluated_iff_not_listed ha hfile hlisted a.engine t lineOf hrule
  have hevaluated := hiff.mpr (by decide +kernel)
  exact ⟨hvalid, hrule, husable, hlisted, a, _, ha, hevaluations a.engine, hevaluated⟩

end Audit

end TemplateAudit
