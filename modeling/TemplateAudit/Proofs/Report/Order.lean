import Mathlib.Data.List.Sort
import Mathlib.Data.Prod.Lex
import Mathlib.Data.String.Basic
import TemplateAudit.Proofs.Audit.Completeness

/-!
# Reports and the order of delivery

Rules may be evaluated in any order. A report counts the evaluations as they are added, and its
counts are those of the list, whatever the order. Sorting puts failures first, then goes by line and
by rule id: a linear order of the three, in which evaluations of different rules never tie. There is
therefore one sorted list, and a report does not depend on the order in which its evaluations were
delivered.
-/

namespace TemplateAudit

set_option autoImplicit false

namespace Evaluation

/-! ## The order of evaluations -/

inductive Before (a b : Evaluation) : Prop where
  | verdict : a.passed = false → b.passed = true → a.Before b
  | line : a.passed = b.passed → a.line < b.line → a.Before b
  | ruleId : a.passed = b.passed → a.line = b.line → a.ruleId < b.ruleId → a.Before b

/-- What evaluations are compared by, from left to right; `false` is less than `true`. -/
def sortKey (e : Evaluation) : Bool ×ₗ Nat ×ₗ String :=
  toLex (e.passed, toLex (e.line.toNat, e.ruleId))

theorem before_iff (a b : Evaluation) : a.Before b ↔ a.sortKey < b.sortKey := by
  simp only [sortKey, Prod.Lex.toLex_lt_toLex, Bool.lt_iff, ← UInt32.lt_iff_toNat_lt,
    UInt32.toNat_inj]
  constructor
  · intro h
    cases h with
    | verdict hfailed hpassed => exact Or.inl ⟨hfailed, hpassed⟩
    | line hverdict hline => exact Or.inr ⟨hverdict, Or.inl hline⟩
    | ruleId hverdict hline hid => exact Or.inr ⟨hverdict, Or.inr ⟨hline, hid⟩⟩
  · rintro (⟨hfailed, hpassed⟩ | ⟨hverdict, hline | ⟨hline, hid⟩⟩)
    · exact .verdict hfailed hpassed
    · exact .line hverdict hline
    · exact .ruleId hverdict hline hid

theorem precedes_iff (a b : Evaluation) : a.precedes b = true ↔ a.sortKey ≤ b.sortKey := by
  simp only [precedes, sortKey, Prod.Lex.toLex_le_toLex, Bool.lt_iff, ← UInt32.lt_iff_toNat_lt,
    UInt32.toNat_inj]
  by_cases hverdict : a.passed = b.passed
  · by_cases hline : a.line = b.line
    · simp [hverdict, hline]
    · simp [hverdict, hline, UInt32.le_iff_lt_or_eq]
  · cases hpassed : a.passed <;> cases hother : b.passed <;> simp_all

theorem pairwise_precedes (es : List Evaluation) :
    (es.mergeSort precedes).Pairwise fun a b => a.precedes b = true := by
  apply List.pairwise_mergeSort
  · intro a b c hab hbc
    rw [precedes_iff] at hab hbc ⊢
    exact hab.trans hbc
  · intro a b
    rw [Bool.or_eq_true, precedes_iff, precedes_iff]
    exact le_total a.sortKey b.sortKey

section Distinct
variable {es : List Evaluation} (hdistinct : (es.map ruleId).Nodup)
include hdistinct

/-- Evaluations of different rules never tie. -/
theorem pairwise_before : (es.mergeSort precedes).Pairwise Before := by
  have hperm := (List.mergeSort_perm es precedes).map ruleId
  have hids : (es.mergeSort precedes).Pairwise fun a b => a.ruleId ≠ b.ruleId :=
    List.pairwise_map.mp (hperm.nodup_iff.mpr hdistinct)
  -- Equal keys would have equal ids.
  apply ((pairwise_precedes es).and hids).imp
  intro a b ⟨hprecedes, hid⟩
  rw [before_iff]
  apply lt_of_le_of_ne ((precedes_iff a b).mp hprecedes)
  intro hkey
  exact hid (congrArg (fun key => (ofLex (ofLex key).2).2) hkey)

/-- There is only one way to sort. -/
theorem mergeSort_eq_of_perm {others : List Evaluation} (hperm : others.Perm es) :
    others.mergeSort precedes = es.mergeSort precedes := by
  have hothers : (others.map ruleId).Nodup := (hperm.map ruleId).nodup_iff.mpr hdistinct
  have hsorted : (others.mergeSort precedes).Perm (es.mergeSort precedes) :=
    (List.mergeSort_perm others precedes).trans
      (hperm.trans (List.mergeSort_perm es precedes).symm)
  -- Both lists are strictly sorted, so no two places can be exchanged.
  refine List.Perm.eq_of_pairwise ?_ (pairwise_before hothers) (pairwise_before hdistinct) hsorted
  intro a b _ _ hab hba
  rw [before_iff] at hab hba
  exact absurd hba hab.not_gt

end Distinct

end Evaluation

/-! ## Counts -/

def Summary.counting (s : Summary) (es : List Evaluation) : Summary :=
  let failed (severity : Severity) := es.countP fun e => !e.passed && e.severity == severity
  { s with
    rulesEvaluated := s.rulesEvaluated + es.length
    passed := s.passed + es.countP Evaluation.passed
    failures := ⟨s.failures.error + failed .error, s.failures.warning + failed .warning,
      s.failures.info + failed .info⟩ }

theorem Summary.counting_eq_of_perm (s : Summary) {es others : List Evaluation}
    (h : others.Perm es) : s.counting others = s.counting es := by
  simp only [counting, h.length_eq, h.countP_eq]

namespace Report

theorem add_counting (r : Report) (e : Evaluation) (rest : List Evaluation) :
    (r.add e).summary.counting rest = r.summary.counting (e :: rest) := by
  cases hpassed : e.passed with
  | true => simp [add, Summary.counting, hpassed, Nat.add_assoc, Nat.add_comm 1]
  | false =>
    cases hseverity : e.severity <;>
      simp [add, Summary.counting, SeverityCounts.add, hpassed, hseverity, Nat.add_assoc,
        Nat.add_comm 1]

theorem foldl_add (r : Report) (es : List Evaluation) :
    es.foldl add r =
      { r with evaluations := r.evaluations ++ es, summary := r.summary.counting es } := by
  induction es generalizing r with
  | nil => simp [Summary.counting]
  | cons e rest ih =>
    rw [List.foldl_cons, ih, add_counting]
    simp [add]

theorem ofEvaluations_eq (template : String) (analyzedAt : Timestamp) (es : List Evaluation) :
    ofEvaluations template analyzedAt es =
      { template := template
        evaluations := es.mergeSort Evaluation.precedes
        summary := Summary.counting { analyzedAt := analyzedAt } es } := by
  simp [ofEvaluations, foldl_add, sort, start]

def untimed (r : Report) : Report :=
  { r with summary := { r.summary with milliseconds := 0, analyzedAt := .epoch } }

@[simp] theorem untimed_setTime (r : Report) (milliseconds : Nat) :
    (r.setTime milliseconds).untimed = r.untimed := rfl

theorem untimed_ofEvaluations (template : String) (analyzedAt now : Timestamp)
    (es : List Evaluation) :
    (ofEvaluations template analyzedAt es).untimed = (ofEvaluations template now es).untimed := by
  simp only [ofEvaluations_eq, untimed, Summary.counting]

theorem ofEvaluations_eq_of_perm {es others : List Evaluation}
    (hdistinct : (es.map Evaluation.ruleId).Nodup) (hperm : others.Perm es) (template : String)
    (analyzedAt : Timestamp) :
    ofEvaluations template analyzedAt others = ofEvaluations template analyzedAt es := by
  rw [ofEvaluations_eq, ofEvaluations_eq, Evaluation.mergeSort_eq_of_perm hdistinct hperm,
    Summary.counting_eq_of_perm _ hperm]

end Report

/-! ## Reports of audits -/

namespace Audit

theorem nodup_ruleId {c : Config} {selection : Selection} {home : String} {a : Audit}
    (ha : ofConfig c selection home = .ok a) {baseline : Baseline} {engine : Engine} {t : Template}
    {es : List Evaluation}
    (hes : ((a.withBaseline baseline).withEngine engine).evaluations t = .ok es) :
    (es.map Evaluation.ruleId).Nodup := by
  obtain ⟨hvalid, -⟩ := ofConfig_eq_ok ha
  obtain ⟨-, lineOf, -, rfl⟩ := (evaluations_eq_ok_iff _ t es).mp hes
  rw [map_ruleId]
  have hactive : (a.withBaseline baseline).activeRules.Sublist a.rules := List.filter_sublist
  exact (Config.consistent_of_validate hvalid).distinct.sublist
    ((hactive.trans (rules_sublist ha)).map Rule.id)

/-- A report does not depend on the order in which the evaluations of different rules are added. It
lists them all, failures before passes, then by line, then by rule id, and sorting it again changes
nothing. Hence all orders in which an audit can deliver its evaluations lead to the same report, its
times aside. -/
theorem report_of_any_order :
    (∀ (template : String) (analyzedAt : Timestamp) (es others : List Evaluation),
      (es.map Evaluation.ruleId).Nodup → others.Perm es →
        let r := Report.ofEvaluations template analyzedAt es
        Report.ofEvaluations template analyzedAt others = r ∧ r.evaluations.Perm es ∧
          r.evaluations.Pairwise Evaluation.Before ∧ r.sort = r) ∧
    ∀ (c : Config) (selection : Selection) (home : String) (a : Audit) (baseline : Baseline)
      (engine : Engine) (t : Template) (es delivered : List Evaluation),
      let audit := (a.withBaseline baseline).withEngine engine
      ofConfig c selection home = .ok a → audit.evaluations t = .ok es → delivered.Perm es →
        ∀ (analyzedAt now : Timestamp) (milliseconds : Nat),
          ∃ r, audit.report t analyzedAt = .ok r ∧
            ((Report.ofEvaluations t.identifier now delivered).setTime milliseconds).untimed =
              r.untimed := by
  constructor
  · intro template analyzedAt es others hdistinct hperm r
    have hr : r.evaluations = es.mergeSort Evaluation.precedes := by
      simp only [r, Report.ofEvaluations_eq]
    refine ⟨Report.ofEvaluations_eq_of_perm hdistinct hperm template analyzedAt, ?_, ?_, ?_⟩
    · rw [hr]
      exact List.mergeSort_perm es _
    · rw [hr]
      exact Evaluation.pairwise_before hdistinct
    · rw [Report.sort, hr, List.mergeSort_of_pairwise (Evaluation.pairwise_precedes es), ← hr]
  · intro c selection home a baseline engine t es delivered audit ha hes hperm analyzedAt now
      milliseconds
    refine ⟨Report.ofEvaluations t.identifier analyzedAt es, by simp only [report, hes], ?_⟩
    rw [Report.untimed_setTime, Report.ofEvaluations_eq_of_perm (nodup_ruleId ha hes) hperm]
    exact Report.untimed_ofEvaluations t.identifier now analyzedAt es

/-- Two failures at one line and a pass, added in two orders. Of the failures the one with the lesser
id comes first; an audit of two rules may deliver their evaluations in either order. -/
theorem report_of_any_order_three :
    let late := (Evaluation.start "B" .error "t").withFault "late"
    let early := (Evaluation.start "A" .info "t").withFault "early"
    let pass := Evaluation.start "0" .warning "t"
    let rule (id : String) : Rule := {
      id := id, name := "n", description := "d", helpUri := "h", recommendation := "r",
      severity := .info, category := .general, check := ⟨"p", .present true, none⟩ }
    let c : Config := { rules := [rule "A", rule "B"] }
    let t : Template := { identifier := "t", expanded := .bool true }
    let engine : Engine := ⟨"e", fun r _ => if r.id = "A" then .crashed none else .findings []⟩
    Report.ofEvaluations "t" .epoch [pass, late, early] =
        Report.ofEvaluations "t" .epoch [early, late, pass] ∧
      (Report.ofEvaluations "t" .epoch [early, late, pass]).evaluations = [early, late, pass] ∧
      ∃ a es, ofConfig c .full "" = .ok a ∧
        ((a.withBaseline .empty).withEngine engine).evaluations t = .ok es ∧
        es.map Evaluation.ruleId = ["A", "B"] ∧
        ∃ r, ((a.withBaseline .empty).withEngine engine).report t .epoch = .ok r ∧
          ((Report.ofEvaluations "t" .epoch es.reverse).setTime 7).untimed = r.untimed := by
  intro late early pass rule c t engine
  obtain ⟨hlists, haudits⟩ := report_of_any_order
  have hdistinct : ([early, late, pass].map Evaluation.ruleId).Nodup := by decide +kernel
  have hperm : [pass, late, early].Perm [early, late, pass] := List.reverse_perm [early, late, pass]
  obtain ⟨hsame, -⟩ := hlists "t" .epoch [early, late, pass] [pass, late, early] hdistinct hperm
  have hsorted : [early, late, pass].Pairwise fun a b => a.precedes b = true := by
    decide +kernel
  obtain ⟨a, ha⟩ := exists_ofConfig (by decide +kernel : c.validate = .ok ()) .full ""
  have hrules : (a.withBaseline .empty).activeRules = [rule "A", rule "B"] :=
    (activeRules_eq ha rfl).trans rfl
  have hes : ((a.withBaseline .empty).withEngine engine).evaluations t =
      .ok ([rule "A", rule "B"].map (evaluate engine t t.lineIndex.resolve)) := by
    rw [← hrules]
    exact evaluations_of_unmapped _ (by decide +kernel) rfl
  refine ⟨hsame, ?_, a, _, ha, hes, rfl, ?_⟩
  · rw [Report.ofEvaluations_eq, List.mergeSort_of_pairwise hsorted]
  · exact haudits c .full "" a .empty engine t _ _ ha hes (List.reverse_perm _) .epoch .epoch 7

end Audit

end TemplateAudit
