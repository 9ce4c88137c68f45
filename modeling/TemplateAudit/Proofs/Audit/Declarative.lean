import TemplateAudit.Proofs.Audit.Completeness
import TemplateAudit.Proofs.Engine.Patterns

/-!
# Audits with the built-in engine

A configuration is accepted only when all its patterns can be read, so the built-in engine runs every
selected rule and no evaluation carries a fault. What it does on a rule does not depend on the rules
it was prepared for; a full run and a security run therefore evaluate their common rules alike and
differ only by the rules that they leave out.
-/

namespace TemplateAudit

set_option autoImplicit false

/-! ## No faults -/

namespace Audit

theorem diagnostic_evaluate {rule : Rule} (h : rule.Sound) (e : DeclarativeEngine) (t : Template)
    (lineOf : String → UInt32) : (evaluate e.toEngine t lineOf rule).diagnostic = none := by
  obtain ⟨found, hrun⟩ := DeclarativeEngine.run_of_sound h e t.expanded
  have hexplained := evaluate_explained e.toEngine t lineOf rule
  rw [hrun t rfl] at hexplained
  exact hexplained

theorem engine_of_ofConfig {c : Config} {selection : Selection} {home : String} {a : Audit}
    (ha : ofConfig c selection home = .ok a) (baseline : Baseline) :
    (a.withBaseline baseline).engine = (DeclarativeEngine.forRules a.rules).toEngine := by
  obtain ⟨-, -, -, hengine⟩ := ofConfig_eq_ok ha
  exact hengine

/-- An accepted configuration never faults under the built-in engine. Each selected rule is run on
every template, whichever rules the engine was prepared for, and an audit gives each rule that it
runs an evaluation without a diagnostic. -/
theorem evaluations_faultless (c : Config) (selection : Selection) (home : String)
    (hvalid : c.validate = .ok ()) :
    ∃ a, ofConfig c selection home = .ok a ∧
      (∀ rule ∈ a.rules, ∀ (prepared : List Rule) (t : Template),
        ∃ found, (DeclarativeEngine.forRules prepared).evaluate rule t = .ok found) ∧
      ∀ (baseline : Baseline) (t : Template) (es : List Evaluation),
        (a.withBaseline baseline).evaluations t = .ok es →
          es.map Evaluation.ruleId = (a.withBaseline baseline).activeRules.map Rule.id ∧
            ∀ e ∈ es, e.diagnostic = none := by
  obtain ⟨a, ha⟩ := exists_ofConfig hvalid selection home
  refine ⟨a, ha, ?_, ?_⟩
  · intro rule hrule prepared t
    obtain ⟨check, hcheck⟩ := DeclarativeEngine.exists_ready (sound_of_mem_rules ha rule hrule)
      (DeclarativeEngine.forRules prepared)
    simp only [DeclarativeEngine.evaluate, hcheck]
    exact ⟨_, rfl⟩
  · intro baseline t es hes
    obtain ⟨-, lineOf, -, rfl⟩ := (evaluations_eq_ok_iff _ t es).mp hes
    refine ⟨map_ruleId _ _, ?_⟩
    intro e he
    obtain ⟨rule, hrule, rfl⟩ := List.mem_map.mp he
    rw [engine_of_ofConfig ha baseline]
    exact diagnostic_evaluate (sound_of_mem_activeRules ha baseline rule hrule) _ t lineOf

/-- A security run with two patterns in its configuration, of which it needs one; an engine prepared
for the other rule runs the selected one as well. -/
theorem evaluations_faultless_other_pattern :
    let rule (id pattern : String) (category : Category) : Rule := {
      id := id, name := "n", description := "d", helpUri := "h", recommendation := "r",
      severity := .info, category := category, check := ⟨"p", .matching pattern, none⟩ }
    let selected := rule "A" "^a+$" .security
    let other := rule "B" "[b-d]{2}" .general
    let c : Config := { rules := [selected, other] }
    let t : Template := { identifier := "t", expanded := .object [("p", .string "ab")] }
    c.validate = .ok () ∧ ∃ a es, ofConfig c .securityOnly "" = .ok a ∧
      (∃ found, (DeclarativeEngine.forRules [other]).evaluate selected t = .ok found) ∧
      (a.withBaseline .empty).evaluations t = .ok es ∧ es.map Evaluation.ruleId = ["A"] ∧
      ∀ e ∈ es, e.diagnostic = none := by
  intro rule selected other c t
  have hvalid : c.validate = .ok () := by decide +kernel
  obtain ⟨a, ha, hruns, haudit⟩ := evaluations_faultless c .securityOnly "" hvalid
  have hrules : (a.withBaseline .empty).activeRules = [selected] := (activeRules_eq ha rfl).trans rfl
  have hselected : selected ∈ a.rules := by
    have hactive : selected ∈ (a.withBaseline .empty).activeRules := by
      rw [hrules]
      exact List.mem_cons_self
    exact (List.mem_filter.mp hactive).1
  have hes := evaluations_of_unmapped (a.withBaseline .empty) (t := t) (by decide +kernel) rfl
  obtain ⟨hids, hdiagnostics⟩ := haudit .empty t _ hes
  have hids := hids.trans (congrArg (List.map Rule.id) hrules)
  exact ⟨hvalid, a, _, ha, hruns selected hselected [other] t, hes, hids, hdiagnostics⟩

end Audit

/-! ## Full runs and security runs -/

namespace Config

/-- The ids of the security rules, enabled or not. -/
def securityIds (c : Config) : List String :=
  (c.rules.filter fun r => r.category = .security).map Rule.id

theorem mem_securityIds_iff {c : Config} (h : c.Consistent) {rule : Rule} (hrule : rule ∈ c.rules) :
    rule.id ∈ c.securityIds ↔ rule.category = .security := by
  constructor
  · intro hmem
    obtain ⟨other, hother, hid⟩ := List.mem_map.mp hmem
    obtain ⟨hother, hsecurity⟩ := List.mem_filter.mp hother
    rw [← h.eq_of_id hother hrule hid]
    simpa using hsecurity
  · intro hsecurity
    exact List.mem_map.mpr ⟨rule, List.mem_filter.mpr ⟨hrule, by simpa using hsecurity⟩, rfl⟩

theorem mem_auditedRules_iff (c : Config) (selection : Selection) (ids : List String) (rule : Rule) :
    rule ∈ c.auditedRules selection ids ↔ rule ∈ c.rules ∧ rule.enabled = true ∧
      selection.includes rule = true ∧ ¬ (selection = .full ∧ rule.id ∈ ids) := by
  rw [auditedRules, List.mem_filter, decide_eq_true_eq]

/-- A full run leaves out rules of the security run only when the baseline lists them. -/
theorem mem_of_left_out (c : Config) {ids : List String} {id : String}
    (hid : id ∈ (c.auditedRules .securityOnly ids).map Rule.id)
    (hmissing : id ∉ (c.auditedRules .full ids).map Rule.id) : id ∈ ids := by
  obtain ⟨rule, hrule, rfl⟩ := List.mem_map.mp hid
  obtain ⟨hmem, henabled, -, -⟩ := (c.mem_auditedRules_iff _ ids rule).mp hrule
  by_contra hfresh
  apply hmissing
  refine List.mem_map.mpr ⟨rule, (c.mem_auditedRules_iff _ ids rule).mpr ?_, rfl⟩
  exact ⟨hmem, henabled, rfl, fun hsuppressed => hfresh hsuppressed.2⟩

/-- The security rules of a full run are those of a security run that the baseline does not list. -/
theorem auditedRules_security {c : Config} (h : c.Consistent) (ids : List String) :
    (c.auditedRules .full ids).filter (fun r => r.id ∈ c.securityIds) =
      (c.auditedRules .securityOnly ids).filter (fun r => r.id ∉ ids) := by
  unfold auditedRules
  rw [List.filter_filter, List.filter_filter]
  apply List.filter_congr
  intro r hr
  rw [Bool.eq_iff_iff]
  simp only [Bool.and_eq_true, decide_eq_true_eq, mem_securityIds_iff h hr, Selection.includes,
    beq_iff_eq]
  tauto

end Config

namespace Audit

/-- With the built-in engine, the evaluation of a rule does not depend on the rules beside it. -/
theorem evaluations_declarative {c : Config} {selection : Selection} {home : String} {a : Audit}
    (ha : ofConfig c selection home = .ok a) {baseline : Baseline} {ids : List String}
    (hids : baseline.ids = some ids) {t : Template} {lineOf : String → UInt32}
    (hvalid : t.validate = .ok ()) (hlines : t.lines = .ok lineOf) :
    (a.withBaseline baseline).evaluations t = .ok ((c.auditedRules selection ids).map
      (evaluate ({} : DeclarativeEngine).toEngine t lineOf)) := by
  refine (evaluations_eq_ok_iff _ t _).mpr ⟨hvalid, lineOf, hlines, ?_⟩
  rw [activeRules_eq ha hids, engine_of_ofConfig ha baseline,
    (DeclarativeEngine.faithful_forRules a.rules).toEngine_eq]

/-- A full run and a security run of one configuration tell the same: up to order, the evaluations
of security rules in the full run are the evaluations of the security run that the baseline does not
list. -/
theorem evaluations_full_security (c : Config) (home : String) (baseline : Baseline)
    (ids : List String) (t : Template) (hvalid : c.validate = .ok ())
    (hids : baseline.ids = some ids) (husable : ¬ t.Unusable) :
    ∃ full security fullRun securityRun,
      ofConfig c .full home = .ok full ∧ ofConfig c .securityOnly home = .ok security ∧
      (full.withBaseline baseline).evaluations t = .ok fullRun ∧
      (security.withBaseline baseline).evaluations t = .ok securityRun ∧
      (fullRun.filter fun e => e.ruleId ∈ c.securityIds).Perm
        (securityRun.filter fun e => e.ruleId ∉ ids) ∧
      (∀ id ∈ securityRun.map Evaluation.ruleId, id ∉ fullRun.map Evaluation.ruleId → id ∈ ids) ∧
      (ids = [] → securityRun.map Evaluation.ruleId ⊆ fullRun.map Evaluation.ruleId) := by
  have hconsistent := Config.consistent_of_validate hvalid
  obtain ⟨full, hfull⟩ := exists_ofConfig hvalid .full home
  obtain ⟨security, hsecurity⟩ := exists_ofConfig hvalid .securityOnly home
  obtain ⟨husable, lineOf, hlines⟩ := Template.lines_of_usable husable
  refine ⟨full, security, _, _, hfull, hsecurity, evaluations_declarative hfull hids husable hlines,
    evaluations_declarative hsecurity hids husable hlines, ?_, ?_, ?_⟩
  · rw [List.filter_map, List.filter_map]
    simp only [Function.comp_def, evaluate_ruleId]
    rw [Config.auditedRules_security hconsistent]
  · rw [map_ruleId, map_ruleId]
    exact fun id => c.mem_of_left_out
  · intro hnone
    rw [map_ruleId, map_ruleId]
    intro id hid
    by_contra hmissing
    have hlisted := c.mem_of_left_out hid hmissing
    rw [hnone] at hlisted
    cases hlisted

/-- The baseline lists one of two security rules, and the two runs are prepared for different
patterns. -/
theorem evaluations_full_security_listed :
    let rule (id pattern : String) (category : Category) : Rule := {
      id := id, name := "n", description := "d", helpUri := "h", recommendation := "r",
      severity := .info, category := category, check := ⟨"p", .matching pattern, none⟩ }
    let c : Config := {
      rules := [rule "A" "^a+$" .security, rule "B" "c$" .security, rule "G" "[b-d]{2}" .general] }
    let t : Template := { identifier := "t", expanded := .object [("p", .string "ab")] }
    c.validate = .ok () ∧ ¬ t.Unusable ∧ ∃ full security fullRun securityRun,
      ofConfig c .full "" = .ok full ∧ ofConfig c .securityOnly "" = .ok security ∧
      (full.withBaseline (.ofIds ["A"])).evaluations t = .ok fullRun ∧
      (security.withBaseline (.ofIds ["A"])).evaluations t = .ok securityRun ∧
      fullRun.map Evaluation.ruleId = ["B", "G"] ∧ securityRun.map Evaluation.ruleId = ["A", "B"] ∧
      (fullRun.filter fun e => e.ruleId ∈ c.securityIds).Perm
        (securityRun.filter fun e => e.ruleId ∉ ["A"]) := by
  intro rule c t
  have hvalid : c.validate = .ok () := by decide +kernel
  have hids : (Baseline.ofIds ["A"]).ids = some ["A"] := rfl
  have husable : ¬ t.Unusable := Template.not_unusable (by decide) rfl (by simp [t])
  obtain ⟨full, security, fullRun, securityRun, hfull, hsecurity, hfullRun, hsecurityRun, hperm, -⟩ :=
    evaluations_full_security c "" (.ofIds ["A"]) ["A"] t hvalid hids husable
  have ids_of {selection : Selection} {a : Audit} {es : List Evaluation}
      (ha : ofConfig c selection "" = .ok a)
      (hes : (a.withBaseline (.ofIds ["A"])).evaluations t = .ok es) :
      es.map Evaluation.ruleId = (c.auditedRules selection ["A"]).map Rule.id := by
    rw [evaluations_declarative ha hids (by decide +kernel) (Template.lines_of_unmapped rfl)] at hes
    rw [← Except.ok.inj hes, map_ruleId]
  exact ⟨hvalid, husable, full, security, fullRun, securityRun, hfull, hsecurity, hfullRun,
    hsecurityRun, ids_of hfull hfullRun, ids_of hsecurity hsecurityRun, hperm⟩

end Audit

end TemplateAudit
