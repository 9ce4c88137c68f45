import TemplateAudit.CommandLine.Run
import TemplateAudit.Proofs.Audit.Declarative
import TemplateAudit.Proofs.Audit.Suppression
import TemplateAudit.Proofs.Config.Lookup
import TemplateAudit.Proofs.Engine.Reordering
import TemplateAudit.Proofs.Loading
import TemplateAudit.Proofs.Report.Counts
import TemplateAudit.Proofs.Report.Order

/-!
# The verdict of an analysis

The exit code is read off the counters of the report, and these count the evaluations. So an
analysis that comes to a report exits with 1 exactly when some rule that was run fails with severity
`error`. What is shown of the report is chosen afterwards and has no say in it.
-/

namespace TemplateAudit

set_option autoImplicit false

/-- Whether the rule cannot be run on a template, or finds a failure there. -/
def Rule.failsOn (rule : Rule) (t : Template) : Bool :=
  match ({} : DeclarativeEngine).evaluate rule t with
  | .ok found => Finding.anyFailure found
  | .error _ => true

namespace Audit

theorem evaluate_severity (engine : Engine) (t : Template) (lineOf : String → UInt32) (rule : Rule) :
    (evaluate engine t lineOf rule).severity = rule.severity := by
  unfold evaluate
  cases engine.run rule t <;> rfl

theorem evaluate_passed (t : Template) (lineOf : String → UInt32) (rule : Rule) :
    (evaluate ({} : DeclarativeEngine).toEngine t lineOf rule).passed = !rule.failsOn t := by
  cases hrun : ({} : DeclarativeEngine).evaluate rule t with
  | ok found =>
    rw [DeclarativeEngine.passed_evaluate hrun]
    simp only [Rule.failsOn, hrun, Finding.anyFailure_eq, Bool.not_not]
  | error cause =>
    simp [evaluate, DeclarativeEngine.toEngine, Rule.failsOn, hrun, Evaluation.withFault]

theorem evaluate_isBlocking (t : Template) (lineOf : String → UInt32) (rule : Rule) :
    (evaluate ({} : DeclarativeEngine).toEngine t lineOf rule).isBlocking = true ↔
      rule.severity = .error ∧ rule.failsOn t = true := by
  rw [Evaluation.isBlocking, evaluate_passed, evaluate_severity, Severity.isBlocking,
    Bool.not_not, Bool.and_eq_true, beq_iff_eq, and_comm]

theorem reached_of_report {a : Audit} {t : Template} {analyzedAt : Timestamp} {r : Report}
    (h : a.report t analyzedAt = .ok r) : r.Reached := by
  unfold report at h
  split at h
  · obtain rfl := Except.ok.inj h
    exact ((Report.Reached.start _ _).foldl_add _).sort
  · simp at h

/-- The report has errors exactly when a rule that is run fails with severity `error`. -/
theorem hasErrors_of_report {c : Config} {selection : Selection} {home : String} {a : Audit}
    (ha : ofConfig c selection home = .ok a) {baseline : Baseline} {ids : List String}
    (hids : baseline.ids = some ids) {t : Template} {analyzedAt : Timestamp} {r : Report}
    (h : (a.withBaseline baseline).report t analyzedAt = .ok r) :
    r.hasErrors = true ↔ ∃ rule ∈ c.auditedRules selection ids,
      rule.severity = .error ∧ rule.failsOn t = true := by
  have hreached := reached_of_report h
  unfold report at h
  split at h
  · rename_i es hes
    obtain ⟨hvalid, lineOf, hlines, -⟩ := (evaluations_eq_ok_iff _ t es).mp hes
    rw [evaluations_declarative ha hids hvalid hlines] at hes
    obtain rfl := Except.ok.inj hes
    obtain rfl := Except.ok.inj h
    -- The report lists the evaluations of the audited rules, sorted.
    rw [hreached.counted.hasErrors_iff, Report.ofEvaluations_eq]
    simp only [List.mem_mergeSort, List.mem_map, exists_exists_and_eq_and, evaluate_isBlocking]
  · simp at h

theorem load_eq {c : Config} {selection : Selection} {home : String} {a : Audit}
    (ha : ofConfig c selection home = .ok a) {m : Type → Type} [Monad m] [LawfulMonad m]
    (read : FileReader m) :
    a.load read =
      (fun file => a.withBaseline ⟨some (c.baselinePath home), some (Baseline.idsOfFile file)⟩) <$>
        read (c.baselinePath home) := by
  simp [load, baseline_of_ofConfig ha, Baseline.load, Baseline.ofFile]

end Audit

namespace CommandLine

/-- What an analysis works with, and what it comes to. -/
structure Analysis where
  config : Config
  /-- The ids that the baseline lists. -/
  suppressed : List String
  template : Template
  report : Report

/-- Some rule of severity `error` that is selected and not suppressed fails. -/
def Analysis.Blocked (x : Analysis) (selection : Selection) : Prop :=
  ∃ rule ∈ x.config.auditedRules selection x.suppressed,
    rule.severity = .error ∧ rule.failsOn x.template = true

section

variable {m : Type → Type} [Monad m]

theorem mk_pure_ok {α : Type} (a : α) :
    (ExceptT.mk (pure (.ok a)) : ExceptT Error m α) = pure a := rfl

theorem bind_congr_ok [LawfulMonad m] {α β : Type} {x : Except Error α}
    {next other : α → ExceptT Error m β} (h : ∀ a, x = .ok a → next a = other a) :
    ExceptT.mk (pure x) >>= next = ExceptT.mk (pure x) >>= other := by
  cases x with
  | ok a => rw [mk_pure_ok, pure_bind, pure_bind, h a rfl]
  | error e =>
    ext
    simp [ExceptT.run_bind]

theorem lift_map [LawfulMonad m] {α β : Type} (f : α → β) (x : m α) :
    (ExceptT.lift (f <$> x) : ExceptT Error m β) = f <$> ExceptT.lift x := by
  ext
  simp [Except.map]

/-- An analysis up to its report. -/
def gather (host : Host m) (config : Option String) (template : String)
    (sourceMap authored : Option String) (selection : Selection) : ExceptT Error m Analysis := do
  let c ← loadConfig host.read config
  let audit ← ExceptT.mk (pure (Audit.ofConfig c selection host.home))
  let t ← Template.load host.read template sourceMap authored
  let file ← ExceptT.lift (host.read (c.baselinePath host.home))
  let suppressed := Baseline.idsOfFile file
  let audit := audit.withBaseline ⟨some (c.baselinePath host.home), some suppressed⟩
  let started ← ExceptT.lift host.clock
  let now ← ExceptT.lift host.now
  let report ← ExceptT.mk (pure (audit.report t now))
  let finished ← ExceptT.lift host.clock
  return ⟨c, suppressed, t, report.setTime (finished - started)⟩

/-- What is shown of an analysis, with the exit code of its report. -/
def Analysis.shown (x : Analysis) (format : ReportFormat) (options : ReportOptions) : Output :=
  { exitCode := exitCode x.report, out := linesText [x.report.render options format] }

theorem Analysis.exitCode_shown {x : Analysis} {selection : Selection}
    (h : x.report.hasErrors = true ↔ x.Blocked selection) (format : ReportFormat)
    (options : ReportOptions) :
    ((x.shown format options).exitCode = 1 ↔ x.Blocked selection) ∧
      ((x.shown format options).exitCode = 0 ↔ ¬ x.Blocked selection) := by
  rw [← h]
  simp [shown, exitCode]

variable [LawfulMonad m] (host : Host m) (config : Option String) (template : String)
  (sourceMap authored : Option String) (selection : Selection)

/-- The format and the options are looked at when everything else is done. -/
theorem analyze_eq (format : ReportFormat) (options : ReportOptions) :
    analyze host config template sourceMap authored selection format options =
      (fun x => x.shown format options) <$>
        gather host config template sourceMap authored selection := by
  unfold analyze gather
  simp only [map_bind, map_pure]
  apply bind_congr
  intro c
  -- That the audit is one of this configuration says which file its baseline is read from.
  apply bind_congr_ok
  intro a ha
  apply bind_congr
  intro t
  rw [Audit.load_eq ha, lift_map, bind_map_left]
  rfl

/-- A report that is gathered can be reached, and what is shown of it exits as its rules demand. -/
theorem gather_returns_judged :
    Returns (gather host config template sourceMap authored selection) fun x =>
      x.report.Reached ∧ ∀ format options,
        ((x.shown format options).exitCode = 1 ↔ x.Blocked selection) ∧
        ((x.shown format options).exitCode = 0 ↔ ¬ x.Blocked selection) := by
  refine Returns.after fun c => ?_
  refine Returns.bind (Returns.ofExcept fun a ha => ha) fun a ha => ?_
  refine Returns.after fun t => Returns.after fun file => ?_
  refine Returns.after fun started => Returns.after fun now => ?_
  refine Returns.bind (Returns.ofExcept fun r hr => hr) fun r hr => ?_
  refine Returns.after fun finished => Returns.pure ?_
  have herrors := Audit.hasErrors_of_report ha rfl hr
  exact ⟨(Audit.reached_of_report hr).setTime _, Analysis.exitCode_shown herrors⟩

end

/-- The counters of every report match its evaluations, however it was made. An analysis that comes
to a report therefore exits with 1 when some rule of severity `error` that is selected and not
suppressed fails, and with 0 otherwise, whatever is shown of the report. -/
theorem exitCode_by_counts :
    (∀ r : Report, r.Reached →
      r.summary.rulesEvaluated = r.evaluations.length ∧
      r.summary.passed = r.evaluations.countP Evaluation.passed ∧
      (∀ severity, r.summary.failures.of severity =
        r.evaluations.countP (Evaluation.failedWith severity)) ∧
      r.summary.rulesEvaluated = r.summary.passed + r.summary.failures.total ∧
      (r.hasFailures = true ↔ r.failed ≠ []) ∧
      (r.hasErrors = true ↔ ∃ e ∈ r.evaluations, e.isBlocking = true)) ∧
    ∀ (m : Type → Type) [Monad m] [LawfulMonad m] (host : Host m) (config : Option String)
      (template : String) (sourceMap authored : Option String) (selection : Selection),
      (∀ format options,
        analyze host config template sourceMap authored selection format options =
          (fun x => x.shown format options) <$>
            gather host config template sourceMap authored selection) ∧
      Returns (gather host config template sourceMap authored selection) fun x =>
        x.report.Reached ∧ ∀ format options,
          ((x.shown format options).exitCode = 1 ↔ x.Blocked selection) ∧
          ((x.shown format options).exitCode = 0 ↔ ¬ x.Blocked selection) := by
  constructor
  · intro r hr
    have h := hr.counted
    exact ⟨h.evaluated, h.passed, h.failures, h.evaluated_eq, h.hasFailures_iff, h.hasErrors_iff⟩
  · intro m _ _ host config template sourceMap authored selection
    exact ⟨analyze_eq host config template sourceMap authored selection,
      gather_returns_judged host config template sourceMap authored selection⟩

/-- A template lacks what an error rule asks for: the exit code is 1, whatever is shown. -/
theorem exitCode_by_counts_blocked :
    let text := "['1.0',~,[[A,n,d,h,r,error,general,true,~,[q,\x7bexists: true\x7d]]," ++
      "[B,n,d,h,r,info,general,true,~,[p,\x7bexists: true\x7d]]]]"
    let files : FileReader Id := fun path =>
      if path = "config" then .ok text
      else if path = "main.json" then .ok "\x7b\"p\":null\x7d"
      else .error .notFound
    let host : Host Id := {
      read := files, home := "", now := Timestamp.epoch, clock := (0 : Nat) }
    ∃ x, gather host (some "config") "main.json" none none .full = pure x ∧ x.report.Reached ∧
      x.report.summary.rulesEvaluated = x.report.summary.passed + x.report.summary.failures.total ∧
      ∀ format options,
        analyze host (some "config") "main.json" none none .full format options =
          pure (x.shown format options) ∧ (x.shown format options).exitCode = 1 := by
  intro text files host
  let value : Json := .object [("p", .null)]
  let t : Template := {
    identifier := "main.json", expanded := value, text := some "\x7b\"p\":null\x7d" }
  have hconfig : ((Config.parse? text).map fun c => (c.validate, c.rulesDir,
      (c.auditedRules .full []).any fun rule => rule.severity == .error && rule.failsOn t)) =
        some (.ok (), none, true) := by decide +kernel
  obtain ⟨c, hparse, hc⟩ := Option.map_eq_some_iff.mp hconfig
  obtain ⟨hvalid, hc⟩ := Prod.mk.inj hc
  obtain ⟨hdir, hblocked⟩ := Prod.mk.inj hc
  have hbaseline : host.read (c.baselinePath host.home) = pure (.error .notFound) := by
    have hpath : c.baselinePath host.home = "baselines/RepeatedRulesBaseline.Rule.json" := by
      rw [Config.baselinePath, hdir]
      decide +kernel
    rw [hpath]
    rfl
  have hload : loadConfig host.read (some "config") = pure c :=
    Config.load_of_parse? rfl hparse hvalid
  have htemplate : Template.load host.read "main.json" none none = pure t := by
    have hread : Json.read? "\x7b\"p\":null\x7d" = some value := by
      simp [value, Json.read?, Json.Written.read?, Json.Written.value?, Json.Written.members?,
        Json.Written.skipBlanks, Json.Written.stringUnits?, Text.isJsonBlank,
        Json.Written.toJson?, Json.Written.membersToJson?, Json.decodeString?, Json.decodeUnits?,
        Json.Members.ofList, Json.Members.set]
    have hmake : Template.make "main.json" value =
        .ok { identifier := "main.json", expanded := value } := by
      rw [Template.make, show Template.validate _ = .ok () by decide +kernel]
    have htext : host.read.text "main.json" = pure "\x7b\"p\":null\x7d" := rfl
    simp [Template.load, htext, hread, hmake, mk_pure_ok, t]
  obtain ⟨a, ha⟩ := Audit.exists_ofConfig hvalid .full host.home
  obtain ⟨r, hr⟩ : ∃ r, (a.withBaseline ⟨some (c.baselinePath host.home), some []⟩).report t
      .epoch = .ok r := by
    rw [Audit.report, Audit.evaluations_of_unmapped _ (by decide +kernel) rfl]
    exact ⟨_, rfl⟩
  have hgather : gather host (some "config") "main.json" none none .full =
      pure ⟨c, [], t, r.setTime 0⟩ := by
    have hclock : host.clock = pure 0 := rfl
    have hnow : host.now = pure .epoch := rfl
    simp [gather, hload, ha, htemplate, hbaseline, Baseline.idsOfFile, hclock, hnow, hr, mk_pure_ok]
  obtain ⟨hcounts, hanalyses⟩ := exitCode_by_counts
  obtain ⟨hanalyze, hreturns⟩ := hanalyses Id host (some "config") "main.json" none none .full
  obtain ⟨hreached, hverdict⟩ := hreturns.of_run (congrArg ExceptT.run hgather)
  have hblocks : Analysis.Blocked ⟨c, [], t, r.setTime 0⟩ .full := by
    simpa [Analysis.Blocked] using hblocked
  obtain ⟨-, -, -, hsum, -⟩ := hcounts _ hreached
  refine ⟨_, hgather, hreached, hsum, fun format options => ⟨?_, ?_⟩⟩
  · rw [hanalyze, hgather, map_pure]
  · exact (hverdict format options).1.mpr hblocks

end CommandLine

end TemplateAudit
