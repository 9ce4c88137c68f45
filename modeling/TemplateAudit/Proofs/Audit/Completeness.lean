import Mathlib.Data.List.Perm.Basic
import TemplateAudit.Audit
import TemplateAudit.Proofs.Config

/-!
# Every rule is evaluated

An audit refuses a template that cannot be used and otherwise evaluates each rule that is enabled,
selected and not suppressed, once. What the engine does on one rule, a crash included, shows in the
evaluation of that rule and nowhere else.
-/

namespace TemplateAudit

set_option autoImplicit false

/-! ## Templates that are refused -/

/-- A template without a name, without anything to run rules on, or with a source map that does not
list its own entrypoint. -/
inductive Template.Unusable (t : Template) : Prop where
  | unnamed : Text.trim t.identifier = "" → t.Unusable
  | empty : t.expanded = .null ∨ t.expanded = .object [] ∨ t.expanded = .array [] ∨
      t.expanded = .string "" → t.Unusable
  | unmapped {m : SourceMap} : t.sourceMap = some m →
      (∀ file ∈ m.files, file.path ≠ m.entrypoint) → t.Unusable

namespace Template

theorem isEmptyDocument_iff (value : Json) : isEmptyDocument value = true ↔
    value = .null ∨ value = .object [] ∨ value = .array [] ∨ value = .string "" := by
  cases value <;> simp [isEmptyDocument]

theorem validate_cases (t : Template) :
    (∃ e, t.validate = .error e ∧ e.kind = .argument ∧ t.Unusable) ∨
      (t.validate = .ok () ∧ Text.trim t.identifier ≠ "" ∧ isEmptyDocument t.expanded = false) := by
  unfold validate
  split
  · rename_i hblank
    exact Or.inl ⟨_, rfl, rfl, .unnamed ((Text.isBlankText_iff _).mp hblank)⟩
  · rename_i hnamed
    split
    · rename_i hempty
      exact Or.inl ⟨_, rfl, rfl, .empty ((isEmptyDocument_iff _).mp hempty)⟩
    · rename_i hfull
      refine Or.inr ⟨rfl, ?_, by simpa using hfull⟩
      intro htrim
      exact hnamed ((Text.isBlankText_iff _).mpr htrim)

theorem lines_of_unmapped {t : Template} (h : t.sourceMap = none) :
    t.lines = .ok t.lineIndex.resolve := by
  simp [lines, h]

theorem lines_of_mapped {t : Template} {m : SourceMap} {file : FileMap} (h : t.sourceMap = some m)
    (hfile : m.file? m.entrypoint = some file) :
    t.lines = .ok fun path => sourceLine file.mappings (t.lineIndex.resolve path) := by
  simp [lines, mappedLines, entrypointMappings, SourceMap.entrypointMappings, h, hfile]

theorem lines_of_missing {t : Template} {m : SourceMap} (h : t.sourceMap = some m)
    (hfile : m.file? m.entrypoint = none) : t.lines = .error (.entrypointMissing m.entrypoint) := by
  simp [lines, mappedLines, entrypointMappings, SourceMap.entrypointMappings, h, hfile]

theorem lines_cases (t : Template) :
    (∃ e, t.lines = .error e ∧ e.kind = .argument ∧ t.Unusable) ∨
      ((∃ lineOf, t.lines = .ok lineOf) ∧
        ∀ m, t.sourceMap = some m → ∃ file ∈ m.files, file.path = m.entrypoint) := by
  cases hmap : t.sourceMap with
  | none => exact Or.inr ⟨⟨_, lines_of_unmapped hmap⟩, by simp⟩
  | some m =>
    cases hfile : m.file? m.entrypoint with
    | none =>
      refine Or.inl ⟨_, lines_of_missing hmap hfile, rfl, .unmapped hmap ?_⟩
      intro file hmem
      simpa using List.find?_eq_none.mp hfile file hmem
    | some file =>
      refine Or.inr ⟨⟨_, lines_of_mapped hmap hfile⟩, ?_⟩
      intro other hother
      obtain rfl := Option.some.inj hother
      exact ⟨file, List.mem_of_find?_eq_some hfile, by simpa using List.find?_some hfile⟩

theorem not_unusable {t : Template} (hnamed : Text.trim t.identifier ≠ "")
    (hfull : isEmptyDocument t.expanded = false)
    (hmapped : ∀ m, t.sourceMap = some m → ∃ file ∈ m.files, file.path = m.entrypoint) :
    ¬ t.Unusable := by
  intro h
  cases h with
  | unnamed hblank => exact hnamed hblank
  | empty hempty =>
    rw [(isEmptyDocument_iff _).mpr hempty] at hfull
    exact Bool.noConfusion hfull
  | unmapped hmap hmissing =>
    obtain ⟨file, hfile, hpath⟩ := hmapped _ hmap
    exact hmissing file hfile hpath

theorem lines_of_usable {t : Template} (h : ¬ t.Unusable) :
    t.validate = .ok () ∧ ∃ lineOf, t.lines = .ok lineOf := by
  rcases t.validate_cases with ⟨e, -, -, hunusable⟩ | ⟨hvalid, -, -⟩
  · exact absurd hunusable h
  · rcases t.lines_cases with ⟨e, -, -, hunusable⟩ | ⟨hlines, -⟩
    · exact absurd hunusable h
    · exact ⟨hvalid, hlines⟩

end Template

/-! ## Rules that are run -/

/-- The enabled rules of a configuration that a selection includes, less those with one of the given
ids when the run is a full one. -/
def Config.auditedRules (c : Config) (selection : Selection) (ids : List String) : List Rule :=
  c.rules.filter fun r =>
    r.enabled ∧ selection.includes r ∧ ¬ (selection = .full ∧ r.id ∈ ids)

theorem Selection.appliesBaseline_iff (s : Selection) : s.appliesBaseline = true ↔ s = .full := by
  cases s <;> simp [appliesBaseline]

/-- What an outcome asks of the evaluation of its rule. -/
def Outcome.Explains : Outcome → Evaluation → Prop
  | .findings _, e => e.diagnostic = none
  | .failed _, e => e.passed = false ∧ e.diagnostic.isSome = true
  | .crashed _, e => e.passed = false ∧ e.diagnostic.isSome = true

namespace Audit

theorem ofConfig_eq_ok {c : Config} {selection : Selection} {home : String} {a : Audit}
    (h : ofConfig c selection home = .ok a) :
    c.validate = .ok () ∧ a.selection = selection ∧
      a.rules = c.enabledRules.filter selection.includes ∧
      a.engine = (DeclarativeEngine.forRules a.rules).toEngine := by
  unfold ofConfig at h
  split at h
  · simp at h
  · rename_i hvalid
    obtain rfl := Except.ok.inj h
    exact ⟨hvalid, rfl, rfl, rfl⟩

theorem exists_ofConfig {c : Config} (h : c.validate = .ok ()) (selection : Selection)
    (home : String) : ∃ a, ofConfig c selection home = .ok a := by
  unfold ofConfig
  rw [h]
  exact ⟨_, rfl⟩

theorem rules_sublist {c : Config} {selection : Selection} {home : String} {a : Audit}
    (h : ofConfig c selection home = .ok a) : a.rules.Sublist c.rules := by
  obtain ⟨-, -, hrules, -⟩ := ofConfig_eq_ok h
  rw [hrules]
  exact List.filter_sublist.trans List.filter_sublist

theorem sound_of_mem_rules {c : Config} {selection : Selection} {home : String} {a : Audit}
    (h : ofConfig c selection home = .ok a) : ∀ rule ∈ a.rules, rule.Sound := by
  obtain ⟨hvalid, -⟩ := ofConfig_eq_ok h
  intro rule hrule
  exact (Config.consistent_of_validate hvalid).sound rule ((rules_sublist h).subset hrule)

theorem sound_of_mem_activeRules {c : Config} {selection : Selection} {home : String} {a : Audit}
    (h : ofConfig c selection home = .ok a) (baseline : Baseline) :
    ∀ rule ∈ (a.withBaseline baseline).activeRules, rule.Sound := by
  intro rule hrule
  exact sound_of_mem_rules h rule (List.mem_filter.mp hrule).1

/-- The three filters that rules go through are one. -/
theorem activeRules_eq {c : Config} {selection : Selection} {home : String} {a : Audit}
    (h : ofConfig c selection home = .ok a) {baseline : Baseline} {ids : List String}
    (hids : baseline.ids = some ids) :
    (a.withBaseline baseline).activeRules = c.auditedRules selection ids := by
  obtain ⟨-, hselection, hrules, -⟩ := ofConfig_eq_ok h
  have hsuppressed : ∀ r, (a.withBaseline baseline).isSuppressed r = true ↔
      selection = .full ∧ r.id ∈ ids := by
    intro r
    simp [isSuppressed, withBaseline, hselection, Baseline.known, hids,
      Selection.appliesBaseline_iff]
  unfold activeRules Config.auditedRules
  rw [show (a.withBaseline baseline).rules = a.rules from rfl, hrules, Config.enabledRules,
    List.filter_filter, List.filter_filter]
  apply List.filter_congr
  intro r _
  rw [Bool.eq_iff_iff]
  simp only [Bool.and_eq_true, Bool.not_eq_true', decide_eq_true_eq, ← hsuppressed,
    Bool.not_eq_true]
  tauto

theorem evaluations_eq_ok_iff (a : Audit) (t : Template) (es : List Evaluation) :
    a.evaluations t = .ok es ↔ t.validate = .ok () ∧ ∃ lineOf, t.lines = .ok lineOf ∧
      es = a.activeRules.map (evaluate a.engine t lineOf) := by
  unfold evaluations
  cases hvalid : t.validate with
  | error e => simp
  | ok _ =>
    cases hlines : t.lines with
    | error e => simp
    | ok lineOf =>
      constructor
      · intro h
        exact ⟨rfl, lineOf, rfl, (Except.ok.inj h).symm⟩
      · rintro ⟨-, other, heq, rfl⟩
        rw [Except.ok.inj heq]

theorem evaluations_of_unmapped (a : Audit) {t : Template} (hvalid : t.validate = .ok ())
    (h : t.sourceMap = none) :
    a.evaluations t = .ok (a.activeRules.map (evaluate a.engine t t.lineIndex.resolve)) :=
  (evaluations_eq_ok_iff a t _).mpr ⟨hvalid, _, Template.lines_of_unmapped h, rfl⟩

theorem evaluations_cases (a : Audit) (t : Template) :
    (∃ e, a.evaluations t = .error e ∧ e.kind = .argument ∧ t.Unusable) ∨
      ((∃ es, a.evaluations t = .ok es) ∧ ¬ t.Unusable) := by
  rcases t.validate_cases with ⟨e, hvalid, hkind, hunusable⟩ | ⟨hvalid, hnamed, hfull⟩
  · refine Or.inl ⟨e, ?_, hkind, hunusable⟩
    simp only [evaluations, hvalid]
  · rcases t.lines_cases with ⟨e, hlines, hkind, hunusable⟩ | ⟨⟨lineOf, hlines⟩, hmapped⟩
    · refine Or.inl ⟨e, ?_, hkind, hunusable⟩
      simp only [evaluations, hvalid, hlines]
    · have hok := (evaluations_eq_ok_iff a t _).mpr ⟨hvalid, lineOf, hlines, rfl⟩
      exact Or.inr ⟨⟨_, hok⟩, Template.not_unusable hnamed hfull hmapped⟩

/-- An audit fails on templates that cannot be used, and on no others. -/
theorem evaluations_error_iff (a : Audit) (t : Template) :
    (∃ e, a.evaluations t = .error e) ↔ t.Unusable := by
  rcases a.evaluations_cases t with ⟨e, herror, -, hunusable⟩ | ⟨⟨es, hok⟩, husable⟩
  · exact ⟨fun _ => hunusable, fun _ => ⟨e, herror⟩⟩
  · rw [hok]
    exact ⟨by simp, fun hunusable => absurd hunusable husable⟩

theorem evaluations_error_kind {a : Audit} {t : Template} {e : Error}
    (h : a.evaluations t = .error e) : e.kind = .argument := by
  rcases a.evaluations_cases t with ⟨other, herror, hkind, -⟩ | ⟨⟨es, hok⟩, -⟩
  · rw [herror] at h
    rw [← Except.error.inj h]
    exact hkind
  · rw [hok] at h
    simp at h

/-- Whether a template is accepted and how it is located do not depend on the engine. -/
theorem evaluations_of_usable (a : Audit) {t : Template} (h : ¬ t.Unusable) :
    ∃ lineOf, ∀ engine, (a.withEngine engine).evaluations t =
      .ok (a.activeRules.map (evaluate engine t lineOf)) := by
  obtain ⟨hvalid, lineOf, hlines⟩ := Template.lines_of_usable h
  refine ⟨lineOf, ?_⟩
  intro engine
  exact (evaluations_eq_ok_iff _ t _).mpr ⟨hvalid, lineOf, hlines, rfl⟩

/-! ## One rule -/

@[simp] theorem evaluate_ruleId (engine : Engine) (t : Template) (lineOf : String → UInt32)
    (rule : Rule) : (evaluate engine t lineOf rule).ruleId = rule.id := by
  unfold evaluate
  cases engine.run rule t <;> rfl

theorem evaluate_explained (engine : Engine) (t : Template) (lineOf : String → UInt32) (rule : Rule) :
    (engine.run rule t).Explains (evaluate engine t lineOf rule) := by
  unfold evaluate
  cases engine.run rule t with
  | findings found => rfl
  | failed cause => exact ⟨rfl, rfl⟩
  | crashed message => exact ⟨rfl, rfl⟩

/-- The evaluation of a rule depends on the engine through its name and what it does on that rule. -/
theorem evaluate_congr {engine other : Engine} {t : Template} {rule : Rule}
    (hname : engine.name = other.name) (hrun : engine.run rule t = other.run rule t)
    (lineOf : String → UInt32) :
    evaluate engine t lineOf rule = evaluate other t lineOf rule := by
  simp only [evaluate, crash, hrun, hname]

/-! ## The whole batch -/

section Batch
variable {c : Config} {rules : List Rule} {t : Template} {lineOf : String → UInt32}

theorem map_ruleId (rules : List Rule) (engine : Engine) :
    (rules.map (evaluate engine t lineOf)).map Evaluation.ruleId = rules.map Rule.id := by
  rw [List.map_map]
  apply List.map_congr_left
  intro rule _
  exact evaluate_ruleId engine t lineOf rule

variable (hconsistent : c.Consistent) (hrules : rules.Sublist c.rules)
include hconsistent hrules

theorem mem_evaluations_iff {rule : Rule} (hrule : rule ∈ c.rules) (engine : Engine)
    {e : Evaluation} (hid : e.ruleId = rule.id) :
    e ∈ rules.map (evaluate engine t lineOf) ↔
      rule ∈ rules ∧ e = evaluate engine t lineOf rule := by
  constructor
  · intro hmem
    obtain ⟨other, hother, rfl⟩ := List.mem_map.mp hmem
    rw [evaluate_ruleId] at hid
    obtain rfl := hconsistent.eq_of_id (hrules.subset hother) hrule hid
    exact ⟨hother, rfl⟩
  · rintro ⟨hmem, rfl⟩
    exact List.mem_map.mpr ⟨rule, hmem, rfl⟩

/-- Engines that do the same on a rule give it the same evaluation, whatever they do on others. -/
theorem mem_evaluations_congr {engine other : Engine} {rule : Rule} (hrule : rule ∈ c.rules)
    (hname : engine.name = other.name) (hrun : engine.run rule t = other.run rule t)
    {e : Evaluation} (hid : e.ruleId = rule.id) :
    e ∈ rules.map (evaluate engine t lineOf) ↔ e ∈ rules.map (evaluate other t lineOf) := by
  rw [mem_evaluations_iff hconsistent hrules hrule engine hid,
    mem_evaluations_iff hconsistent hrules hrule other hid, evaluate_congr hname hrun lineOf]

end Batch

/-- An audit of a consistent configuration fails exactly on unusable templates, and then blames its
argument. On every other template it evaluates each audited rule once, whatever the engine does:
changing the engine on one rule leaves the evaluations of the others alone, and a rule that fails or
crashes has a failed evaluation that says so. -/
theorem evaluations_complete (c : Config) (selection : Selection) (home : String)
    (baseline : Baseline) (ids : List String) (hvalid : c.validate = .ok ())
    (hids : baseline.ids = some ids) :
    ∃ a, ofConfig c selection home = .ok a ∧ ∀ (engine : Engine) (t : Template),
      let audit := (a.withBaseline baseline).withEngine engine
      ((∃ e, audit.evaluations t = .error e) ↔ t.Unusable) ∧
      (∀ e, audit.evaluations t = .error e → e.kind = .argument) ∧
      (¬ t.Unusable → ∃ es, audit.evaluations t = .ok es ∧
        (es.map Evaluation.ruleId).Perm ((c.auditedRules selection ids).map Rule.id) ∧
        (es.map Evaluation.ruleId).Nodup ∧
        (∀ rule ∈ c.rules, ∀ e ∈ es, e.ruleId = rule.id → (engine.run rule t).Explains e) ∧
        ∀ (odd : Rule) (run : Rule → Template → Outcome),
          (∀ rule, rule ≠ odd → run rule t = engine.run rule t) →
          ∃ es', (audit.withEngine { engine with run := run }).evaluations t = .ok es' ∧
            ∀ rule ∈ c.rules, rule ≠ odd → ∀ e, e.ruleId = rule.id → (e ∈ es ↔ e ∈ es')) := by
  obtain ⟨a, ha⟩ := exists_ofConfig hvalid selection home
  have hconsistent := Config.consistent_of_validate hvalid
  have hsublist : (c.auditedRules selection ids).Sublist c.rules := List.filter_sublist
  refine ⟨a, ha, ?_⟩
  intro engine t audit
  refine ⟨evaluations_error_iff audit t, fun e => evaluations_error_kind, ?_⟩
  intro husable
  obtain ⟨lineOf, hevaluations⟩ := evaluations_of_usable (a.withBaseline baseline) husable
  rw [activeRules_eq ha hids] at hevaluations
  refine ⟨_, hevaluations engine, ?_, ?_, ?_, ?_⟩
  · rw [map_ruleId]
  · rw [map_ruleId]
    exact hconsistent.distinct.sublist (hsublist.map Rule.id)
  · intro rule hrule e he hid
    obtain ⟨-, rfl⟩ := (mem_evaluations_iff hconsistent hsublist hrule engine hid).mp he
    exact evaluate_explained engine t lineOf rule
  · intro odd run hagree
    let other : Engine := { engine with run := run }
    refine ⟨_, hevaluations other, ?_⟩
    intro rule hrule hne e hid
    have hname : engine.name = other.name := rfl
    have hrun : engine.run rule t = other.run rule t := (hagree rule hne).symm
    exact mem_evaluations_congr hconsistent hsublist hrule hname hrun hid

/-- Of three rules one is suppressed and one not enabled; the engine crashes on the third. -/
theorem evaluations_complete_crash :
    let rule (id : String) (enabled : Bool) : Rule := {
      id := id, name := "n", description := "d", helpUri := "h", recommendation := "r",
      severity := .info, category := .general, enabled := enabled,
      check := ⟨"p", .present true, none⟩ }
    let c : Config := { rules := [rule "A" true, rule "B" true, rule "C" false] }
    let t : Template := { identifier := "t", expanded := .bool true }
    let engine : Engine := ⟨"e", fun r _ => if r.id = "A" then .crashed none else .findings []⟩
    c.validate = .ok () ∧ ∃ a es, ofConfig c .full "" = .ok a ∧
      ((a.withBaseline (.ofIds ["B"])).withEngine engine).evaluations t = .ok es ∧
      (es.map Evaluation.ruleId).Perm ["A"] ∧
      ∀ e ∈ es, e.ruleId = "A" → e.passed = false ∧ e.diagnostic.isSome = true := by
  intro rule c t engine
  have hvalid : c.validate = .ok () := by decide +kernel
  obtain ⟨a, ha, haudit⟩ := evaluations_complete c .full "" (.ofIds ["B"]) ["B"] hvalid rfl
  have husable : ¬ t.Unusable := Template.not_unusable (by decide) rfl (by simp [t])
  obtain ⟨es, hes, hperm, -, hexplains, -⟩ := (haudit engine t).2.2 husable
  refine ⟨hvalid, a, es, ha, hes, hperm, ?_⟩
  intro e he hid
  exact hexplains (rule "A" true) List.mem_cons_self e he hid

end Audit

end TemplateAudit
