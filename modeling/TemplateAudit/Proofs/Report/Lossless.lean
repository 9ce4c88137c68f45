import TemplateAudit.Proofs.Finding
import TemplateAudit.Proofs.Json.ReadBack
import TemplateAudit.Report.Format

/-!
# Reports that are read back

A JSON report is a text from which the listed evaluations can be read again: an empty list of nested
results and an absent diagnostic are left out of the text and put back by the reader. Counts are
words of 64 bits, as they are wherever a report is kept.
-/

namespace TemplateAudit

set_option autoImplicit false

open Json (Members)

/-! ## Numbers -/

theorem fits64_of_lt {n : Nat} (h : n < UInt64.size) : Fits64 n := by
  have hsize : UInt64.size = 18446744073709551616 := rfl
  omega

theorem Json.ofNat_eq {n : Nat} (h : n < UInt64.size) :
    Json.ofNat n = .number (.int ⟨n, fits64_of_lt h⟩) := by
  rw [Json.ofNat, Json.Number.ofInt, dif_pos (fits64_of_lt h)]

theorem Json.integral_ofNat {n : Nat} (h : n < UInt64.size) : (Json.ofNat n).Integral := by
  rw [Json.ofNat_eq h]
  exact .int _

theorem Json.nat?_ofNat {n : Nat} (h : n < UInt64.size) : (Json.ofNat n).nat? = some n := by
  rw [Json.ofNat_eq h, Json.nat?, Json.Number.toNat?, if_pos (Int.natCast_nonneg n),
    Int.toNat_natCast]

theorem Json.distinctKeys_ofNat (n : Nat) : (Json.ofNat n).DistinctKeys :=
  Json.everywhere_scalar trivial fun s => by cases s <;> rfl

theorem Json.distinctKeys_string (s : String) : (Json.string s).DistinctKeys :=
  Json.everywhere_scalar trivial fun s => by cases s <;> rfl

theorem Json.distinctKeys_bool (b : Bool) : (Json.bool b).DistinctKeys :=
  Json.everywhere_scalar trivial fun s => by cases s <;> rfl

theorem toNat_lt_size64 (n : UInt32) : n.toNat < UInt64.size :=
  Nat.lt_trans n.toNat_lt_size (by decide)

/-! ## Results -/

namespace Finding

theorem toJsonList_eq_map {α : Type} (format : Format α) (found : List (Finding α)) :
    toJsonList format found = found.map (toJson format) := by
  induction found with
  | nil => rfl
  | cons child rest ih => rw [toJsonList, ih, List.map_cons]

theorem word32?_ofNat {n : Nat} (h : n < UInt32.size) :
    Tree.word32? (Json.ofNat n) = some (UInt32.ofNat n) := by
  have hnat : Tree.nat? (Json.ofNat n) = some n := Json.nat?_ofNat (Nat.lt_trans h (by decide))
  rw [Tree.word32?, hnat]
  exact if_pos h

theorem lineFormat_read? (line : UInt32) : lineFormat.read? (.ofNat line.toNat) = some line := by
  simp only [lineFormat, word32?_ofNat line.toNat_lt_size, UInt32.ofNat_toNat]

/-- The members of a written finding: nested ones are given only if there are any. -/
theorem toJson_lineFormat (passed : Bool) (line : UInt32) (children : List (Finding UInt32)) :
    (node passed line children).toJson lineFormat =
      .object ([("passed", .bool passed), ("line_number", .ofNat line.toNat)] ++
        if children.isEmpty then []
        else [("children", .array (children.map (toJson lineFormat)))]) := by
  rw [toJson, toJsonList_eq_map]
  simp [lineFormat]

mutual

theorem integral_toJson : ∀ finding : Finding UInt32, (finding.toJson lineFormat).Integral
  | .node passed line children => by
    have hnested := integral_toJsonList children
    rw [toJson_lineFormat]
    refine .object fun member hmember => ?_
    rw [List.mem_append, List.mem_pair] at hmember
    rcases hmember with (rfl | rfl) | hmember
    · exact .bool passed
    · exact Json.integral_ofNat (toNat_lt_size64 line)
    · split at hmember
      · cases hmember
      · obtain rfl := List.mem_singleton.mp hmember
        exact .array hnested

theorem integral_toJsonList : ∀ found : List (Finding UInt32),
    ∀ value ∈ found.map (toJson lineFormat), value.Integral
  | [] => by simp
  | child :: rest => by
    rw [List.map_cons, List.forall_mem_cons]
    exact ⟨integral_toJson child, integral_toJsonList rest⟩

end

mutual

theorem distinctKeys_toJson : ∀ finding : Finding UInt32,
    (finding.toJson lineFormat).DistinctKeys
  | .node passed line children => by
    have hnested := distinctKeys_toJsonList children
    rw [toJson_lineFormat]
    refine Json.everywhere_object ?_ fun member hmember => ?_
    · show List.Nodup _
      split <;> simp
    · rw [List.mem_append, List.mem_pair] at hmember
      rcases hmember with (rfl | rfl) | hmember
      · exact Json.distinctKeys_bool passed
      · exact Json.distinctKeys_ofNat line.toNat
      · split at hmember
        · cases hmember
        · obtain rfl := List.mem_singleton.mp hmember
          exact Json.everywhere_array trivial hnested

theorem distinctKeys_toJsonList : ∀ found : List (Finding UInt32),
    ∀ value ∈ found.map (toJson lineFormat), value.DistinctKeys
  | [] => by simp
  | child :: rest => by
    rw [List.map_cons, List.forall_mem_cons]
    exact ⟨distinctKeys_toJson child, distinctKeys_toJsonList rest⟩

end

theorem fields?_toJson (passed : Bool) (line : UInt32) (children : List (Finding UInt32)) :
    Tree.fields? [["passed"], ["line_number"], ["children"]]
        ((node passed line children).toJson lineFormat) =
      some [some (.bool passed), some (.ofNat line.toNat),
        if children.isEmpty then none else some (.array (children.map (toJson lineFormat)))] := by
  rw [toJson_lineFormat]
  split <;> rfl

mutual

/-- A finding is read back from what is written, given room for its nesting. -/
theorem read?_toJson : ∀ (finding : Finding UInt32) (fuel : Nat),
    (finding.toJson lineFormat).depth ≤ fuel →
    read? lineFormat fuel (finding.toJson lineFormat) = some finding
  | .node passed line children, 0, hdepth => by
    rw [toJson_lineFormat, Json.depth] at hdepth
    omega
  | .node passed line children, fuel + 1, hdepth => by
    have hplace : Tree.required? lineFormat.read? (some (Json.ofNat line.toNat)) = some line := by
      rw [Tree.required?, Option.bind_some, lineFormat_read?]
    have hpassed : Tree.required? Tree.bool? (some (Json.bool passed)) = some passed := rfl
    have hnested : Tree.defaulted? [] (Tree.list? (read? lineFormat fuel))
        (if children.isEmpty then none
          else some (Json.array (children.map (toJson lineFormat)))) = some children := by
      split
      · rename_i hempty
        rw [Tree.defaulted?, List.isEmpty_iff.mp hempty]
      · rename_i hne
        refine mapM_read?_toJson children fuel ?_
        simp only [toJson_lineFormat, hne, if_false, Json.depth, List.cons_append, List.nil_append,
          Json.membersDepth, Bool.false_eq_true] at hdepth
        omega
    have hname : lineFormat.placeName = "line_number" := rfl
    simp only [read?, hname, fields?_toJson, hpassed, hplace, hnested, Option.bind_eq_bind,
      Option.bind_some, Option.pure_def]

theorem mapM_read?_toJson : ∀ (found : List (Finding UInt32)) (fuel : Nat),
    Json.itemsDepth (found.map (toJson lineFormat)) ≤ fuel →
    (found.map (toJson lineFormat)).mapM (read? lineFormat fuel) = some found
  | [], _, _ => rfl
  | child :: rest, fuel, hdepth => by
    rw [List.map_cons, Json.itemsDepth] at hdepth
    have hread := read?_toJson child fuel (by omega)
    have hmore := mapM_read?_toJson rest fuel (by omega)
    simp [hread, hmore]

end

theorem ofJson?_toJson (finding : Finding UInt32) :
    ofJson? lineFormat (finding.toJson lineFormat) = some finding :=
  read?_toJson finding _ (Nat.le_succ _)

end Finding

/-! ## Evaluations -/

namespace Evaluation

theorem integral_toJson (e : Evaluation) : e.toJson.Integral := by
  refine .object fun member hmember => ?_
  simp only [List.mem_append, List.mem_cons, List.not_mem_nil, or_false] at hmember
  rcases hmember with (rfl | rfl | rfl | rfl | rfl | rfl | rfl | rfl | rfl | rfl) | hmember
  iterate 7 exact .string _
  iterate 2 exact .bool _
  · exact Finding.integral_toJson _
  · split at hmember
    · obtain rfl := List.mem_singleton.mp hmember
      exact .string _
    · cases hmember

theorem distinctKeys_toJson (e : Evaluation) : e.toJson.DistinctKeys := by
  refine Json.everywhere_object ?_ fun member hmember => ?_
  · show List.Nodup _
    split <;> simp
  · simp only [List.mem_append, List.mem_cons, List.not_mem_nil, or_false] at hmember
    rcases hmember with (rfl | rfl | rfl | rfl | rfl | rfl | rfl | rfl | rfl | rfl) | hmember
    iterate 7 exact Json.distinctKeys_string _
    iterate 2 exact Json.distinctKeys_bool _
    · exact Finding.distinctKeys_toJson _
    · split at hmember
      · obtain rfl := List.mem_singleton.mp hmember
        exact Json.distinctKeys_string _
      · cases hmember

theorem severity_ofTree? (s : Severity) :
    Tree.required? Severity.ofTree? (some (Json.string s.name)) = some s := by
  cases s <;> rfl

/-- An evaluation is read back from what is written of it. -/
theorem ofJson?_toJson (e : Evaluation) : ofJson? e.toJson = some e := by
  have hfields : Tree.fields? fieldNames e.toJson =
      some [some (.string e.ruleId), some (.string e.ruleName), some (.string e.description),
        some (.string e.helpUri), some (.string e.recommendation), some (.string e.severity.name),
        some (.string e.template), some (.bool e.passed), some (.bool e.hasResults),
        some (e.result.toJson Finding.lineFormat), e.diagnostic.map .string] := by
    rw [toJson]
    cases e.diagnostic <;> rfl
  have hstring : ∀ s : String, Tree.required? Tree.string? (some (Json.string s)) = some s :=
    fun _ => rfl
  have hbool : ∀ b : Bool, Tree.required? Tree.bool? (some (Json.bool b)) = some b := fun _ => rfl
  have hresult : Tree.required? (Finding.ofJson? Finding.lineFormat)
      (some (e.result.toJson Finding.lineFormat)) = some e.result :=
    Finding.ofJson?_toJson e.result
  have hdiagnostic : Tree.optionalField? Tree.string? (e.diagnostic.map Json.string) =
      some e.diagnostic := by
    cases e.diagnostic <;> rfl
  rw [ofJson?, hfields]
  simp only [hstring, hbool, severity_ofTree?, hresult, hdiagnostic, Option.bind_eq_bind,
    Option.bind_some, Option.pure_def]

end Evaluation

/-! ## Reports -/

namespace Report

/-- The counts of the report and its time fit the words that hold them. -/
structure FitsWords (r : Report) : Prop where
  evaluated : r.summary.rulesEvaluated < UInt64.size
  passed : r.summary.passed < UInt64.size
  errors : r.summary.failures.error < UInt64.size
  warnings : r.summary.failures.warning < UInt64.size
  infos : r.summary.failures.info < UInt64.size
  time : r.summary.milliseconds < UInt64.size

section Written
variable {r : Report} (h : r.FitsWords)
include h

theorem integral_summary : r.summary.toJson.Integral := by
  refine .object fun member hmember => ?_
  simp only [List.mem_cons, List.not_mem_nil, or_false] at hmember
  rcases hmember with rfl | rfl | rfl | rfl | rfl
  · exact Json.integral_ofNat h.evaluated
  · exact Json.integral_ofNat h.passed
  · refine .object fun count hcount => ?_
    simp only [List.mem_cons, List.not_mem_nil, or_false] at hcount
    rcases hcount with rfl | rfl | rfl
    · exact Json.integral_ofNat h.errors
    · exact Json.integral_ofNat h.warnings
    · exact Json.integral_ofNat h.infos
  · exact Json.integral_ofNat h.time
  · exact .string _

theorem integral_toJson (options : ReportOptions) : (r.toJson options).Integral := by
  refine .object fun member hmember => ?_
  simp only [List.mem_cons, List.not_mem_nil, or_false] at hmember
  rcases hmember with rfl | rfl | rfl
  · exact .string _
  · refine .array fun value hvalue => ?_
    obtain ⟨e, -, rfl⟩ := List.mem_map.mp hvalue
    exact e.integral_toJson
  · exact integral_summary h

end Written

theorem list?_toJson (es : List Evaluation) :
    Tree.list? Evaluation.ofJson? (Json.array (es.map Evaluation.toJson)) = some es := by
  show (es.map Evaluation.toJson).mapM Evaluation.ofJson? = some es
  induction es with
  | nil => rfl
  | cons e rest ih => simp [Evaluation.ofJson?_toJson, ih]

theorem distinctKeys_summary (s : Summary) : s.toJson.DistinctKeys := by
  refine Json.everywhere_object ?_ fun member hmember => ?_
  · show List.Nodup _
    simp
  · simp only [List.mem_cons, List.not_mem_nil, or_false] at hmember
    rcases hmember with rfl | rfl | rfl | rfl | rfl
    · exact Json.distinctKeys_ofNat _
    · exact Json.distinctKeys_ofNat _
    · refine Json.everywhere_object (by show List.Nodup _; simp) fun count hcount => ?_
      simp only [List.mem_cons, List.not_mem_nil, or_false] at hcount
      rcases hcount with rfl | rfl | rfl <;> exact Json.distinctKeys_ofNat _
    · exact Json.distinctKeys_ofNat _
    · exact Json.distinctKeys_string _

theorem distinctKeys_toJson (r : Report) (options : ReportOptions) :
    (r.toJson options).DistinctKeys := by
  refine Json.everywhere_object (by show List.Nodup _; simp) fun member hmember => ?_
  simp only [List.mem_cons, List.not_mem_nil, or_false] at hmember
  rcases hmember with rfl | rfl | rfl
  · exact Json.distinctKeys_string _
  · refine Json.everywhere_array trivial fun value hvalue => ?_
    obtain ⟨e, -, rfl⟩ := List.mem_map.mp hvalue
    exact Evaluation.distinctKeys_toJson e
  · exact distinctKeys_summary r.summary

theorem listed_eq_filter (r : Report) (options : ReportOptions) :
    r.listed options = r.evaluations.filter fun e => (!e.passed || options.showPassed) &&
      options.leastSeverity.all fun least => least.rank ≤ e.severity.rank := by
  refine List.filter_congr fun e _ => ?_
  rw [lists, Bool.or_comm]
  cases options.leastSeverity <;> rfl

theorem bind_nat? {value : Option Json} {n : Nat} (hvalue : value = some (.ofNat n))
    (hfits : n < UInt64.size) : value.bind Json.nat? = some n := by
  rw [hvalue, Option.bind_some, Json.nat?_ofNat hfits]

/-- The JSON report of any report whose results nest no deeper than the reader allows is a JSON
object with the template, the counts and the evaluations that the options ask for, and the
evaluations are read back as they were. -/
theorem json_reads_back (r : Report) (options : ReportOptions) (hfits : r.FitsWords)
    (hdepth : (r.toJson options).depth ≤ 127) :
    ∃ members : Members, Json.read? (r.render options .json) = some (.object members) ∧
      members.get? "template" = some (.string r.template) ∧
      (∃ summary failures, members.get? "summary" = some summary ∧
        (summary.get? "rules_evaluated").bind Json.nat? = some r.summary.rulesEvaluated ∧
        (summary.get? "passed").bind Json.nat? = some r.summary.passed ∧
        summary.get? "failures_by_severity" = some failures ∧
        (failures.get? "error").bind Json.nat? = some r.summary.failures.error ∧
        (failures.get? "warning").bind Json.nat? = some r.summary.failures.warning ∧
        (failures.get? "info").bind Json.nat? = some r.summary.failures.info ∧
        (summary.get? "execution_time_ms").bind Json.nat? = some r.summary.milliseconds) ∧
      ∃ evaluations, members.get? "evaluations" = some evaluations ∧
        Tree.list? Evaluation.ofJson? evaluations =
          some (r.evaluations.filter fun e => (!e.passed || options.showPassed) &&
            options.leastSeverity.all fun least => least.rank ≤ e.severity.rank) := by
  have hread : Json.read? (r.render options .json) = some (r.toJson options) :=
    Json.read?_layout (integral_toJson hfits options) (distinctKeys_toJson r options) hdepth
      (Or.inr rfl)
  refine ⟨_, hread, rfl, ⟨r.summary.toJson, r.summary.failures.toJson, rfl,
    bind_nat? rfl hfits.evaluated, bind_nat? rfl hfits.passed, rfl, bind_nat? rfl hfits.errors,
    bind_nat? rfl hfits.warnings, bind_nat? rfl hfits.infos, bind_nat? rfl hfits.time⟩, _, rfl, ?_⟩
  rw [← listed_eq_filter]
  exact list?_toJson (r.listed options)

/-- A failure below a node that passed, with text to escape, beside one that is not severe enough. -/
theorem json_reads_back_nested :
    let found : List (Finding UInt32) := [.node true 4294967295 [.node false 3 []]]
    let failed := ((Evaluation.start "A \"1\"" .error "m").withName "tab\there").withResults found
    let r : Report :=
      ((start "m" .epoch).add failed).add ((Evaluation.start "B" .info "m").withFault "stuck")
    let options : ReportOptions := { showPassed := true, leastSeverity := some .warning }
    r.FitsWords ∧ (r.toJson options).depth ≤ 127 ∧
      ∃ members evaluations, Json.read? (r.render options .json) = some (.object members) ∧
        Json.Members.get? members "evaluations" = some evaluations ∧
        Tree.list? Evaluation.ofJson? evaluations = some [failed] := by
  intro found failed r options
  have hfits : r.FitsWords := by
    constructor <;> decide
  have hdepth : (r.toJson options).depth ≤ 127 := by decide
  obtain ⟨members, hread, -, -, evaluations, hmember, hlist⟩ :=
    json_reads_back r options hfits hdepth
  exact ⟨hfits, hdepth, members, evaluations, hread, hmember, hlist⟩

end Report

end TemplateAudit
