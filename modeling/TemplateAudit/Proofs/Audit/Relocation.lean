import TemplateAudit.Proofs.Audit.Completeness
import TemplateAudit.Proofs.Engine.Patterns
import TemplateAudit.Proofs.Evaluation
import TemplateAudit.Proofs.SourceMap

/-!
# Locations change lines only

The text and the source map of a template say where its places lie and nothing about what is found
there. The built-in engine looks at neither, so an audit with a source map is the audit without it,
every line below the root of a result carried over by the map; the line of the root follows, being
that of the first failure.
-/

namespace TemplateAudit

set_option autoImplicit false

/-- The line of the entrypoint that a line was compiled from. It comes from the first mapping, in the
first entry of the entrypoint, whose target is that line counted from zero; without one, or when one
more than its source does not fit 32 bits, it is the first line. -/
def SourceMap.lineOf (map : SourceMap) (line : UInt32) : UInt32 :=
  match (map.files.find? fun file => file.path == map.entrypoint).bind fun file =>
      file.mappings.find? fun m => m.target.toNat == line.toNat - 1 with
  | some m => if m.source.toNat < 4294967295 then m.source + 1 else 1
  | none => 1

theorem Template.sourceLine_eq_lineOf {map : SourceMap} {file : FileMap}
    (h : map.file? map.entrypoint = some file) (line : UInt32) :
    Template.sourceLine file.mappings line = map.lineOf line := by
  have htarget : (fun m : LineMapping => m.target == zeroBased line) =
      fun m => m.target.toNat == line.toNat - 1 := by
    funext m
    rw [Bool.eq_iff_iff, beq_iff_eq, beq_iff_eq, ← UInt32.toNat_inj, toNat_zeroBased]
  unfold SourceMap.file? at h
  unfold Template.sourceLine SourceMap.lineOf LineMapping.lookup?
  rw [h, Option.bind_some, htarget]
  cases file.mappings.find? fun m => m.target.toNat == line.toNat - 1 with
  | none => rfl
  | some m =>
    have hsize : UInt32.size = 4294967295 + 1 := rfl
    simp only [Option.map_some, hsize, Nat.add_lt_add_iff_right]
    rfl

namespace Evaluation

/-- The evaluation with every line below the root of its result replaced, and with it the line of
the root unless the evaluation passed. -/
def relocate (f : UInt32 → UInt32) (e : Evaluation) : Evaluation :=
  { e with
    result := .node e.result.passed (if e.passed then 1 else f e.result.place)
      (Finding.mapList f e.result.children) }

/-- Evaluations that differ in line numbers at most. -/
structure SameButLines (e other : Evaluation) : Prop where
  fields : { e with result := other.result } = other
  shape : e.result.map (fun _ => ()) = other.result.map (fun _ => ())

theorem withResults_relocate {α : Type} (e : Evaluation) (f : UInt32 → UInt32) (lineOf : α → UInt32)
    (found : List (Finding α)) :
    e.withResults (Finding.mapList (fun place => f (lineOf place)) found) =
      relocate f (e.withResults (Finding.mapList lineOf found)) := by
  rw [withResults_mapList, withResults_mapList]
  have hfails : ∀ x ∈ found.filter Finding.hasFailure, x.hasFailure = true :=
    fun x hx => (List.mem_filter.mp hx).2
  cases hkept : found.filter Finding.hasFailure with
  | nil => rfl
  | cons child rest =>
    rw [hkept] at hfails
    obtain ⟨place, hplace⟩ := Finding.exists_firstFailure (by simp) hfails
    simp only [relocate, Finding.passed, Finding.place, Finding.children, hplace, Option.map_some,
      Option.getD_some, List.isEmpty_cons, Bool.false_eq_true, if_false, Finding.mapList_mapList]

theorem withResults_sameButLines {α : Type} (e : Evaluation) (lineOf other : α → UInt32)
    (found : List (Finding α)) :
    (e.withResults (Finding.mapList lineOf found)).SameButLines
      (e.withResults (Finding.mapList other found)) := by
  rw [withResults_mapList, withResults_mapList]
  constructor
  · rfl
  · simp only [Finding.map, Finding.mapList_mapList]

end Evaluation

namespace Audit

section Located
variable {t other : Template} {rule : Rule} {e : DeclarativeEngine}
variable (hsound : rule.Sound) (hname : other.identifier = t.identifier)
  (hexpanded : other.expanded = t.expanded)
include hsound hname hexpanded

theorem evaluate_relocate (lineOf : String → UInt32) (f : UInt32 → UInt32) :
    evaluate e.toEngine other (fun path => f (lineOf path)) rule =
      (evaluate e.toEngine t lineOf rule).relocate f := by
  obtain ⟨found, hrun⟩ := DeclarativeEngine.run_of_sound hsound e t.expanded
  simp only [evaluate, hrun t rfl, hrun other hexpanded, hname]
  exact Evaluation.withResults_relocate _ f lineOf found

theorem evaluate_sameButLines (lineOf otherLineOf : String → UInt32) :
    (evaluate e.toEngine t lineOf rule).SameButLines
      (evaluate e.toEngine other otherLineOf rule) := by
  obtain ⟨found, hrun⟩ := DeclarativeEngine.run_of_sound hsound e t.expanded
  simp only [evaluate, hrun t rfl, hrun other hexpanded, hname]
  exact Evaluation.withResults_sameButLines _ lineOf otherLineOf found

end Located

/-- With a source map, a template is evaluated as without one and its lines are carried over by the
map; with another text, or none, nothing but lines can change. -/
theorem evaluations_relocate (c : Config) (selection : Selection) (home : String) (a : Audit)
    (baseline : Baseline) (t : Template) (es : List Evaluation)
    (ha : ofConfig c selection home = .ok a) (hunmapped : t.sourceMap = none)
    (hes : (a.withBaseline baseline).evaluations t = .ok es) :
    (∀ map : SourceMap, (∃ file ∈ map.files, file.path = map.entrypoint) →
      (a.withBaseline baseline).evaluations { t with sourceMap := some map } =
        .ok (es.map (Evaluation.relocate map.lineOf))) ∧
    ∀ text : Option String, ∃ es',
      (a.withBaseline baseline).evaluations { t with text := text } = .ok es' ∧
        List.Forall₂ Evaluation.SameButLines es es' := by
  have hsound := sound_of_mem_activeRules ha baseline
  obtain ⟨-, -, -, hengine⟩ := ofConfig_eq_ok ha
  obtain ⟨hvalid, -⟩ := (evaluations_eq_ok_iff _ t es).mp hes
  rw [evaluations_of_unmapped _ hvalid hunmapped] at hes
  obtain rfl := Except.ok.inj hes
  have hrun : (a.withBaseline baseline).engine = (DeclarativeEngine.forRules a.rules).toEngine :=
    hengine
  rw [hrun]
  constructor
  · rintro map ⟨entry, hentry, hpath⟩
    have hfile : ∃ file, map.file? map.entrypoint = some file := by
      rw [← Option.isSome_iff_exists, SourceMap.file?, List.find?_isSome]
      exact ⟨entry, hentry, by simpa using hpath⟩
    obtain ⟨file, hfile⟩ := hfile
    have hmapped := Template.lines_of_mapped (t := { t with sourceMap := some map }) rfl hfile
    refine (evaluations_eq_ok_iff _ _ _).mpr ⟨hvalid, _, hmapped, ?_⟩
    rw [hrun, List.map_map]
    apply List.map_congr_left
    intro rule hrule
    simp only [Template.sourceLine_eq_lineOf hfile]
    exact (evaluate_relocate (hsound rule hrule) rfl rfl _ _).symm
  · intro text
    refine ⟨_, evaluations_of_unmapped _ (t := { t with text := text }) hvalid hunmapped, ?_⟩
    rw [hrun, List.forall₂_map_left_iff, List.forall₂_map_right_iff, List.forall₂_same]
    intro rule hrule
    exact evaluate_sameButLines (hsound rule hrule) rfl rfl _ _

/-- A forbidden property in the second line, which the source map takes to line 8: of two mappings for
that line the first counts. -/
theorem evaluations_relocate_second_line :
    let rule : Rule := {
      id := "R", name := "n", description := "d", helpUri := "h", recommendation := "r",
      severity := .info, category := .general, check := ⟨"a", .present false, none⟩ }
    let c : Config := { rules := [rule] }
    let t : Template := { identifier := "t", expanded := .object [("a", .null)] }
    let map : SourceMap := ⟨"main", [⟨"main", [⟨0, 3⟩, ⟨1, 7⟩, ⟨1, 9⟩]⟩]⟩
    ∃ a es, ofConfig c .full "" = .ok a ∧ (a.withBaseline .empty).evaluations t = .ok es ∧
      es.map Evaluation.line = [2] ∧
      (a.withBaseline .empty).evaluations { t with sourceMap := some map } =
        .ok (es.map (Evaluation.relocate map.lineOf)) ∧
      (es.map (Evaluation.relocate map.lineOf)).map Evaluation.line = [8] := by
  intro rule c t map
  obtain ⟨a, ha⟩ := exists_ofConfig (by decide +kernel : c.validate = .ok ()) .full ""
  obtain ⟨-, -, -, hengine⟩ := ofConfig_eq_ok ha
  have hrules : (a.withBaseline .empty).activeRules = [rule] := (activeRules_eq ha rfl).trans rfl
  have hes : (a.withBaseline .empty).evaluations t =
      .ok ([rule].map (evaluate a.engine t t.lineIndex.resolve)) := by
    rw [← hrules]
    exact evaluations_of_unmapped _ (by decide +kernel) rfl
  have hviolation : (⟨Text.trim "a", .present false, none, none⟩ : ReadyCheck).violation?
      t.expanded "" = some "a" := by decide +kernel
  have hrun : a.engine.run rule t = .findings [.node false "a" []] := by
    rw [hengine]
    simp only [DeclarativeEngine.toEngine, DeclarativeEngine.evaluate, DeclarativeEngine.ready, rule,
      Condition.pattern?, ReadyCheck.findings, hviolation, Option.map_some, Option.toList]
  have hline : t.lineIndex.resolve "a" = 2 := by
    have hparse : Path.parse? "a" = some [.key "a"] := by decide +kernel
    have hentry : t.lineIndex.line? [.key "a"] = some 2 := by
      have hindex : t.lineIndex = LineIndex.ofEntries [("a", 2)] := rfl
      rw [LineIndex.line?, hindex, LineIndex.ofEntries_getElem?]
      decide +kernel
    simp [LineIndex.resolve, hparse, LineIndex.nearestLine, hentry]
  obtain ⟨hmapped, -⟩ := evaluations_relocate c .full "" a .empty t _ ha rfl hes
  refine ⟨a, _, ha, hes, ?_, hmapped map ⟨_, List.mem_cons_self, rfl⟩, ?_⟩
  · simp only [List.map_cons, List.map_nil, evaluate, hrun, Finding.mapList, Finding.map, hline]
    rfl
  · simp only [List.map_cons, List.map_nil, evaluate, hrun, Finding.mapList, Finding.map, hline]
    rfl

end Audit

end TemplateAudit
