import TemplateAudit.Proofs.Audit.Completeness
import TemplateAudit.Proofs.Evaluation
import TemplateAudit.Proofs.LineIndex.Extent
import TemplateAudit.Proofs.SourceMap

/-!
# Evaluations are well formed

Whatever an engine does, the evaluations of an audit describe their rules, carry a verdict that
agrees with their result, and give only lines that exist: lines of the layout in use, or those that a
source map leads to.
-/

namespace TemplateAudit

set_option autoImplicit false

/-- What every evaluation of an audit has, whatever the template. -/
structure Evaluation.WellFormed (e : Evaluation) : Prop extends e.Coherent where
  described : ∀ text ∈ [e.ruleId, e.ruleName, e.description, e.helpUri, e.recommendation],
    Text.trim text ≠ ""
  faulted : e.diagnostic.isSome = true → e.passed = false

namespace Template

/-- Places are located inside the layout in use, or where a source map leads to. -/
theorem lines_within {t : Template} {lineOf : String → UInt32} (h : t.lines = .ok lineOf)
    (path : String) : (t.sourceMap = none → LineIndex.LineBetween 0
      (LineIndex.lineCount t.layoutText.toList) (lineOf path)) ∧
        (t.sourceMap.isSome = true → 1 ≤ lineOf path) := by
  cases hmap : t.sourceMap with
  | none =>
    rw [lines_of_unmapped hmap] at h
    obtain rfl := Except.ok.inj h
    exact ⟨fun _ => t.resolve_within_layout path, by simp⟩
  | some m =>
    cases hfile : m.file? m.entrypoint with
    | none =>
      rw [lines_of_missing hmap hfile] at h
      simp at h
    | some file =>
      rw [lines_of_mapped hmap hfile] at h
      obtain rfl := Except.ok.inj h
      exact ⟨by simp, fun _ => one_le_sourceLine _ _⟩

end Template

namespace Audit

theorem evaluate_wellFormed {rule : Rule} (h : rule.Sound) (engine : Engine) (t : Template)
    (lineOf : String → UInt32) :
    (evaluate engine t lineOf rule).WellFormed ∧
      (evaluate engine t lineOf rule).template = t.identifier := by
  have hdescribed : ∀ text ∈ [rule.id, rule.name, rule.description, rule.helpUri,
      rule.recommendation], Text.trim text ≠ "" := by
    simpa [Rule.descriptiveFields] using h.filled
  unfold evaluate
  cases engine.run rule t with
  | findings found =>
    refine ⟨⟨Evaluation.coherent_withResults _ _, hdescribed, ?_⟩, rfl⟩
    intro hdiagnostic
    exact Bool.noConfusion hdiagnostic
  | failed cause => exact ⟨⟨Evaluation.coherent_withFault _ _, hdescribed, fun _ => rfl⟩, rfl⟩
  | crashed message => exact ⟨⟨Evaluation.coherent_withFault _ _, hdescribed, fun _ => rfl⟩, rfl⟩

theorem place_evaluate (engine : Engine) (t : Template) (lineOf : String → UInt32) (rule : Rule) :
    ∀ node ∈ (evaluate engine t lineOf rule).result.nodes,
      node.place = firstLine ∨ ∃ path, node.place = lineOf path := by
  unfold evaluate
  cases engine.run rule t with
  | findings found => exact Evaluation.place_withResults _ lineOf found
  | failed cause => exact fun node hnode => Or.inl (Evaluation.place_withFault _ _ node hnode)
  | crashed message => exact fun node hnode => Or.inl (Evaluation.place_withFault _ _ node hnode)

/-- Every evaluation that leaves an audit is well formed and belongs to the template. Without a
source map all its lines are lines of the layout in use; they are at least one when there is a source
map, and when that layout has no line beyond 32 bits. -/
theorem evaluations_wellFormed (c : Config) (selection : Selection) (home : String) (a : Audit)
    (baseline : Baseline) (engine : Engine) (t : Template) (es : List Evaluation)
    (ha : ofConfig c selection home = .ok a)
    (hes : ((a.withBaseline baseline).withEngine engine).evaluations t = .ok es) :
    ∀ e ∈ es, e.WellFormed ∧ e.template = t.identifier ∧ ∀ node ∈ e.result.nodes,
      (t.sourceMap.isSome = true ∨ LineIndex.lineCount t.layoutText.toList < UInt32.size →
        1 ≤ node.place) ∧
      (t.sourceMap = none → node.place.toNat ≤ LineIndex.lineCount t.layoutText.toList) := by
  obtain ⟨-, lineOf, hlines, rfl⟩ := (evaluations_eq_ok_iff _ t es).mp hes
  intro e he
  obtain ⟨rule, hrule, rfl⟩ := List.mem_map.mp he
  have hsound : rule.Sound := sound_of_mem_activeRules ha baseline rule hrule
  obtain ⟨hwellFormed, htemplate⟩ := evaluate_wellFormed hsound engine t lineOf
  refine ⟨hwellFormed, htemplate, ?_⟩
  intro node hnode
  rcases place_evaluate engine t lineOf rule node hnode with hplace | ⟨path, hplace⟩
  · rw [hplace]
    exact ⟨fun _ => by decide, fun _ => t.one_le_layout⟩
  · obtain ⟨hunmapped, hmapped⟩ := Template.lines_within hlines path
    rw [hplace]
    refine ⟨?_, fun hnone => (hunmapped hnone).toNat_le⟩
    rintro (hsome | hfits)
    · exact hmapped hsome
    · cases hmap : t.sourceMap with
      | none => exact LineIndex.one_le_of_within (hunmapped hmap) hfits
      | some m => exact hmapped (by rw [hmap, Option.isSome_some])

/-- An engine that reports a failure at a path that cannot be read, below a place that passed, on a
text of two lines. -/
theorem evaluations_wellFormed_two_lines :
    let rule : Rule := {
      id := "R", name := "n", description := "d", helpUri := "h", recommendation := "r",
      severity := .info, category := .general, check := ⟨"p", .present true, none⟩ }
    let c : Config := { rules := [rule] }
    let t : Template := {
      identifier := "t", expanded := .array [.bool true], text := some "[\ntrue]\n" }
    let engine : Engine := ⟨"e", fun _ _ => .findings [.node true "[0]" [.node false "[x]" []]]⟩
    ∃ a e, ofConfig c .full "" = .ok a ∧
      ((a.withBaseline .empty).withEngine engine).evaluations t = .ok [e] ∧
      e.WellFormed ∧ e.template = "t" ∧
      ∀ node ∈ e.result.nodes, 1 ≤ node.place ∧ node.place ≤ 2 := by
  intro rule c t engine
  obtain ⟨a, ha⟩ := exists_ofConfig (by decide +kernel : c.validate = .ok ()) .full ""
  have hrules : (a.withBaseline .empty).activeRules = [rule] := (activeRules_eq ha rfl).trans rfl
  have hes : ((a.withBaseline .empty).withEngine engine).evaluations t =
      .ok ([rule].map (evaluate engine t t.lineIndex.resolve)) := by
    rw [← hrules]
    exact evaluations_of_unmapped _ (by decide +kernel) rfl
  have hcount : LineIndex.lineCount t.layoutText.toList = 2 := by decide +kernel
  obtain ⟨hwellFormed, htemplate, hplaces⟩ :=
    evaluations_wellFormed c .full "" a .empty engine t _ ha hes _ List.mem_cons_self
  refine ⟨a, _, ha, hes, hwellFormed, htemplate, ?_⟩
  intro node hnode
  obtain ⟨hfirst, hlast⟩ := hplaces node hnode
  rw [hcount] at hfirst hlast
  refine ⟨hfirst (Or.inr (by decide)), ?_⟩
  rw [UInt32.le_iff_toNat_le]
  exact hlast rfl

end Audit

end TemplateAudit
