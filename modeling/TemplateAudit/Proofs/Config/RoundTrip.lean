import TemplateAudit.Proofs.Config.Defects
import TemplateAudit.Proofs.Yaml.Records

/-!
# Configurations that are written and loaded again

All of a configuration but the JSON values of its rules is written in a form that is read as itself.
A JSON value is not when one of its strings is misread, and a configuration cannot be read at all
when a value has a key that is too long to be found.
-/

namespace TemplateAudit

set_option autoImplicit false

open Json (Fits WrittenBack)
open Yaml (Document Value View)
open Yaml.View (ofValue)

/-! ## Values of rules -/

namespace Condition

/-- The JSON value that a condition compares with, or the list of those that it allows. -/
def values : Condition → List Json
  | .equals value => [value]
  | .differs value => [value]
  | .oneOf allowed => [.array allowed]
  | _ => []

theorem fits_of_ofTree? {v : View} {c : Condition} (h : ofTree? v = some c) :
    ∀ value ∈ c.values, value.Fits v.room := by
  intro value hvalue
  rw [ofTree?] at h
  split at h
  · rename_i name payload hvariant
    have hroom : payload.room = v.room := Yaml.View.room_of_variant? hvariant
    split at h
    · obtain ⟨read, hread, rfl⟩ := Option.map_eq_some_iff.mp h
      obtain rfl := List.mem_singleton.mp hvalue
      exact hroom ▸ Yaml.View.fits_of_json? hread
    · obtain ⟨read, hread, rfl⟩ := Option.map_eq_some_iff.mp h
      obtain rfl := List.mem_singleton.mp hvalue
      exact hroom ▸ Yaml.View.fits_of_json? hread
    · obtain ⟨read, -, rfl⟩ := Option.map_eq_some_iff.mp h
      cases hvalue
    · obtain ⟨allowed, hread, rfl⟩ := Option.map_eq_some_iff.mp h
      obtain rfl := List.mem_singleton.mp hvalue
      obtain ⟨hpos, hitems⟩ := Yaml.View.exists_of_list? hread
      rw [← hroom, ← Nat.sub_add_cancel hpos, Json.fits_array_iff]
      intro item hitem
      obtain ⟨w, hw, hitem⟩ := hitems item hitem
      exact hw ▸ Yaml.View.fits_of_json? hitem
    · obtain ⟨read, -, rfl⟩ := Option.map_eq_some_iff.mp h
      cases hvalue
    · obtain ⟨read, -, rfl⟩ := Option.map_eq_some_iff.mp h
      cases hvalue
    · cases h
  · cases h

end Condition

namespace Check

def values (c : Check) : List Json :=
  c.condition.values ++ c.default.toList

theorem fits_of_ofTree? {v : View} {c : Check} (h : ofTree? v = some c) :
    ∀ value ∈ c.values, value.Fits (v.room - 1) := by
  intro value hvalue
  rw [ofTree?] at h
  split at h
  · rename_i path condition default hfields
    simp only [Option.bind_eq_bind, Option.bind_eq_some_iff, Option.pure_def, Option.some.injEq] at h
    obtain ⟨_, -, read, hcondition, fallback, hdefault, rfl⟩ := h
    rcases List.mem_append.mp hvalue with hvalue | hvalue
    · obtain ⟨w, rfl, hread⟩ := Option.bind_eq_some_iff.mp hcondition
      have hroom := Yaml.View.room_of_fields? hfields (w := w) (by simp)
      exact hroom ▸ Condition.fits_of_ofTree? hread value hvalue
    · obtain rfl : fallback = some value := Option.mem_toList.mp hvalue
      obtain ⟨w, rfl, hread⟩ := Yaml.View.exists_of_optionalField? hdefault
      have hroom := Yaml.View.room_of_fields? hfields (w := w) (by simp)
      exact hroom ▸ Yaml.View.fits_of_json? hread
  · cases h

end Check

namespace Rule

theorem fits_of_ofTree? {v : View} {r : Rule} (h : ofTree? v = some r) :
    ∀ value ∈ r.check.values, value.Fits (v.room - 1 - 1) := by
  rw [ofTree?] at h
  split at h
  · rename_i check hfields
    simp only [Option.bind_eq_bind, Option.bind_eq_some_iff, Option.pure_def, Option.some.injEq] at h
    obtain ⟨_, -, _, -, _, -, _, -, _, -, _, -, _, -, _, -, _, -, _, hcheck, rfl⟩ := h
    obtain ⟨w, rfl, hread⟩ := Option.bind_eq_some_iff.mp hcheck
    have hroom := Yaml.View.room_of_fields? hfields (w := w) (by simp)
    exact hroom ▸ Check.fits_of_ofTree? hread
  · cases h

end Rule

namespace Config

/-- The values of the rules that have been read fit in where they were found. -/
theorem fits_of_parse? {text : String} {c : Config} (h : parse? text = some c) :
    ∀ rule ∈ c.rules, ∀ value ∈ rule.check.values, value.Fits 124 := by
  obtain ⟨d, -, h⟩ := Option.bind_eq_some_iff.mp h
  rw [ofTree?] at h
  split at h
  · rename_i rules hfields
    simp only [Option.bind_eq_bind, Option.bind_eq_some_iff, Option.pure_def, Option.some.injEq] at h
    obtain ⟨_, -, _, -, read, hrules, rfl⟩ := h
    intro rule hrule
    cases rules with
    | none =>
      cases hrules
      cases hrule
    | some w =>
      have hroom := Yaml.View.room_of_fields? hfields (w := w) (by simp)
      obtain ⟨-, hitems⟩ := Yaml.View.exists_of_list? hrules
      obtain ⟨item, hitem, hread⟩ := hitems rule hrule
      have hfits := Rule.fits_of_ofTree? hread
      rwa [hitem, hroom] at hfits
  · cases h

end Config

/-! ## Written again -/

section Written
variable {d : Document} {room : Nat}

open Yaml.View (Rereads rereads_exact rereads_ofJson rereads_list variant?_record fields?_record)

namespace Condition

/-- A condition is its name applied to its argument, and so is what is read of it. -/
theorem rereads_argument {α : Type} {read : View → Option α} {toJson : α → Json} {written : Value}
    {value : α} {faithful : Prop} (name : String) (make : α → Condition) (hname : name ∈ names)
    (hargument : Rereads d room read toJson written value faithful)
    (hread : ofTree? (ofValue d room (.record [(name, written)])) =
      (read (ofValue d room written)).map make)
    (hform : ∀ argument, (make argument).toForm = Json.object [(name, toJson argument)]) :
    Rereads d room ofTree? toForm (.record [(name, written)]) (make value) faithful := by
  obtain ⟨other, hother, hself⟩ := hargument
  have hshort : ∀ name ∈ names, (Yaml.stringChars name).length ≤ 1024 := by decide
  refine ⟨make other, by rw [hread, hother, Option.map_some], ?_⟩
  rw [Value.keysFit_record (by simpa using hshort name hname), hform, hform, ← hself]
  simp

theorem rereads (c : Condition) (h : ∀ value ∈ c.values, value.Fits room) :
    Rereads d room ofTree? toForm c.toForm c
      (∀ value ∈ c.values, value.Everywhere WrittenBack) := by
  cases c with
  | equals value =>
    have hvalue := rereads_ofJson d room (h value (List.mem_singleton_self value))
    have hread := rereads_argument "equals" .equals (by decide) hvalue
      (by simp only [ofTree?, variant?_record]) fun _ => rfl
    exact hread.congr (by simp [values])
  | differs value =>
    have hvalue := rereads_ofJson d room (h value (List.mem_singleton_self value))
    have hread := rereads_argument "not_equals" .differs (by decide) hvalue
      (by simp only [ofTree?, variant?_record]) fun _ => rfl
    exact hread.congr (by simp [values])
  | oneOf allowed =>
    obtain ⟨room, rfl⟩ : ∃ inner, room = inner + 1 := by
      have hdepth := (h _ (List.mem_singleton_self _)).1
      rw [Json.depth] at hdepth
      exact ⟨room - 1, by omega⟩
    have hfits := Json.fits_array_iff.mp (h _ (List.mem_singleton_self _))
    have hallowed := rereads_list d room fun value hvalue =>
      rereads_ofJson d room (hfits value hvalue)
    have hread := rereads_argument "one_of" .oneOf (by decide) hallowed
      (by simp only [ofTree?, variant?_record]) fun _ => rfl
    exact hread.congr (by simp [values, Json.everywhere_array_iff, WrittenBack])
  | present expected =>
    have hexpected := rereads_exact .bool (Yaml.View.bool?_ofValue d room expected)
      (Value.keysFit_of_scalar? rfl)
    have hread := rereads_argument "exists" .present (by decide) hexpected
      (by simp only [ofTree?, variant?_record]) fun _ => rfl
    exact hread.congr (by simp [values])
  | matching pattern =>
    have hpattern := rereads_exact .string (Yaml.View.string?_ofValue d room pattern)
      (Value.keysFit_of_scalar? rfl)
    have hread := rereads_argument "matches" .matching (by decide) hpattern
      (by simp only [ofTree?, variant?_record]) fun _ => rfl
    exact hread.congr (by simp [values])
  | atLeast bound =>
    have hbound := rereads_exact Form.jsonDouble (Yaml.View.double?_ofValue d room bound)
      (Value.keysFit_of_scalar? rfl)
    have hread := rereads_argument "min" .atLeast (by decide) hbound
      (by simp only [ofTree?, variant?_record]) fun _ => rfl
    exact hread.congr (by simp [values])

end Condition

namespace Check

/-- A default of null is read as none, which has the same form. -/
theorem rereads_default (default : Option Json) (h : ∀ value ∈ default.toList, value.Fits room) :
    Rereads d room (fun v => Tree.optionalField? Tree.json? (some v))
      (fun read => Form.optional (read.map Form.json)) (Form.optional (default.map Form.json))
      default (∀ value ∈ default.toList, value.Everywhere WrittenBack) := by
  cases default with
  | none => exact ⟨none, rfl, by simp [Form.optional, Form.json, Value.ofJson, Value.keysFit]⟩
  | some value =>
    rw [Option.toList_some, List.forall_mem_singleton] at h ⊢
    by_cases hnull : value = .null
    · subst hnull
      refine ⟨none, rfl, ?_⟩
      rw [Json.everywhere_scalar_iff fun s => by cases s <;> rfl]
      simp [Form.optional, Form.json, Value.ofJson, Value.keysFit, WrittenBack]
    · obtain ⟨other, hother, hself⟩ := rereads_ofJson d room h
      refine ⟨some other, ?_, hself⟩
      show Tree.optionalField? Tree.json? (some (ofValue d room (.ofJson value))) = _
      simp only [Tree.optionalField?, Yaml.View.optional?_ofJson d room hnull, hother,
        Option.map_some]

/-- The fields of a written check, given what is written of its values. -/
def writtenFields {α : Type} [Form α] (c : Check) (condition default : α) : List (String × α) :=
  [("path", Form.string c.path), ("condition", condition), ("default", default)]

theorem rereads (c : Check) (h : ∀ value ∈ c.values, value.Fits room) :
    Rereads d (room + 1) ofTree? toForm c.toForm c
      (∀ value ∈ c.values, value.Everywhere WrittenBack) := by
  rw [values, List.forall_mem_append] at h ⊢
  obtain ⟨condition, hcondition, hsame⟩ := @Condition.rereads d room c.condition h.1
  obtain ⟨default, hdefault, hother⟩ := @rereads_default d room c.default h.2
  have hform : c.toForm = Value.record (c.writtenFields c.condition.toForm
    (Form.optional (c.default.map Form.json))) := rfl
  have hfields := fields?_record d room (c.writtenFields c.condition.toForm
    (Form.optional (c.default.map Form.json))) (by simp [writtenFields])
  rw [← hform] at hfields
  refine ⟨⟨c.path, condition, default⟩, ?_, ?_⟩
  · simp only [writtenFields, List.map_cons, List.map_nil] at hfields
    rw [ofTree?, hfields]
    simp [Tree.required?, hcondition, hdefault, Form.string]
  · show _ ∧ Json.object (c.writtenFields condition.toForm
        (Form.optional (default.map Form.json))) =
      .object (c.writtenFields c.condition.toForm (Form.optional (c.default.map Form.json))) ↔ _
    rw [hform, Value.keysFit_record (by simp [writtenFields]; decide), ← hsame, ← hother]
    simp [writtenFields, Value.keysFit, Form.string]
    tauto

end Check

namespace Rule

def writtenFields {α : Type} [Form α] (r : Rule) (check : α) : List (String × α) :=
  [("id", Form.string r.id), ("name", Form.string r.name),
    ("description", Form.string r.description), ("help_uri", Form.string r.helpUri),
    ("recommendation", Form.string r.recommendation),
    ("severity", Form.string r.severity.name), ("category", Form.string r.category.name),
    ("enabled", Form.bool r.enabled),
    ("resource_type", Form.optional (r.resourceType.map Form.string)), ("check", check)]

theorem rereads (r : Rule) (h : ∀ value ∈ r.check.values, value.Fits room) :
    Rereads d (room + 2) ofTree? toForm r.toForm r
      (∀ value ∈ r.check.values, value.Everywhere WrittenBack) := by
  obtain ⟨check, hcheck, hsame⟩ := @Check.rereads d room r.check h
  have hform : r.toForm = Value.record (r.writtenFields r.check.toForm) := rfl
  have hfields := fields?_record d (room + 1) (r.writtenFields r.check.toForm)
    (by simp [writtenFields])
  rw [← hform] at hfields
  have hseverity : Severity.ofTree? (ofValue d (room + 1) (.string r.severity.name)) =
      some r.severity := by
    cases r.severity <;> rfl
  have hcategory : Category.ofTree? (ofValue d (room + 1) (.string r.category.name)) =
      some r.category := by
    cases r.category <;> rfl
  refine ⟨{ r with check := check }, ?_, ?_⟩
  · simp only [writtenFields, List.map_cons, List.map_nil] at hfields
    rw [ofTree?, fieldNames, hfields]
    simp [Tree.required?, Tree.defaulted?, hcheck, hseverity, hcategory, Form.string,
      Form.bool]
  · show _ ∧ Json.object (r.writtenFields check.toForm) =
      .object (r.writtenFields r.check.toForm) ↔ _
    rw [hform, Value.keysFit_record (by simp [writtenFields]; decide), ← hsame]
    simp [writtenFields, Value.keysFit, Form.string, Form.bool]

end Rule

namespace Config

def writtenFields {α : Type} [Form α] (c : Config) (rules : α) : List (String × α) :=
  [("version", Form.string c.version),
    ("rules_dir", Form.optional (c.rulesDir.map Form.string)), ("rules", rules)]

theorem rereads (c : Config) (h : ∀ rule ∈ c.rules, ∀ value ∈ rule.check.values, value.Fits 124) :
    Rereads d 128 ofTree? toForm c.toForm c
      (∀ rule ∈ c.rules, ∀ value ∈ rule.check.values, value.Everywhere WrittenBack) := by
  obtain ⟨rules, hrules, hsame⟩ := rereads_list d 126 fun rule hrule =>
    Rule.rereads rule (h rule hrule)
  have hform : c.toForm =
    Value.record (c.writtenFields (.sequence (c.rules.map Rule.toForm))) := rfl
  have hfields := fields?_record d 127 (c.writtenFields (.sequence (c.rules.map Rule.toForm)))
    (by simp [writtenFields])
  rw [← hform] at hfields
  refine ⟨⟨c.version, c.rulesDir, rules⟩, ?_, ?_⟩
  · simp only [writtenFields, List.map_cons, List.map_nil] at hfields
    rw [ofTree?, hfields]
    simp [Tree.required?, Tree.defaulted?, hrules, Form.string]
  · show _ ∧ Json.object (c.writtenFields (.array (rules.map Rule.toForm))) =
      .object (c.writtenFields (.array (c.rules.map Rule.toForm))) ↔ _
    rw [hform, Value.keysFit_record (by simp [writtenFields]; decide), ← hsame]
    simp [writtenFields, Value.keysFit, Form.string]

end Config

end Written

/-! ## Keys -/

theorem Condition.keyed_toForm (c : Condition) : Value.Keyed c.toForm := by
  have hrecord (name : String) {argument : Value} (h : argument.Keyed) :
      (Value.record [(name, argument)]).Keyed := .record (by simpa using h)
  cases c with
  | equals value => exact hrecord "equals" (Value.keyed_ofJson value)
  | differs value => exact hrecord "not_equals" (Value.keyed_ofJson value)
  | present => exact hrecord "exists" (.scalar rfl)
  | oneOf allowed =>
    exact hrecord "one_of" (.sequence (List.forall_mem_map.mpr fun _ _ => Value.keyed_ofJson _))
  | matching => exact hrecord "matches" (.scalar rfl)
  | atLeast => exact hrecord "min" (.scalar rfl)

theorem Check.keyed_toForm (c : Check) : Value.Keyed c.toForm := by
  have hdefault : Value.Keyed (Form.optional (c.default.map Form.json)) := by
    cases c.default with
    | none => exact .scalar rfl
    | some value => exact Value.keyed_ofJson value
  refine .record ?_
  simp only [List.forall_mem_cons]
  exact ⟨.scalar rfl, c.condition.keyed_toForm, hdefault, List.forall_mem_nil _⟩

theorem Value.keyed_optional (s : Option String) :
    Value.Keyed (Form.optional (s.map Form.string)) := by
  cases s <;> exact .scalar rfl

theorem Rule.keyed_toForm (r : Rule) : Value.Keyed r.toForm := by
  refine .record ?_
  simp only [List.forall_mem_cons]
  exact ⟨.scalar rfl, .scalar rfl, .scalar rfl, .scalar rfl, .scalar rfl, .scalar rfl, .scalar rfl,
    .scalar rfl, Value.keyed_optional r.resourceType, r.check.keyed_toForm, List.forall_mem_nil _⟩

/-! ## Loaded again -/

/-- The pattern of a condition shows in its form. -/
theorem Condition.pattern?_of_toForm {a b : Condition} (h : (a.toForm : Json) = b.toForm) :
    a.pattern? = b.pattern? := by
  have hform (c : Condition) :
      c.pattern? = ((c.toForm : Json).get? "matches").bind Json.string? := by
    cases c <;> rfl
  rw [hform, hform, h]

/-- What is found wrong with a rule depends on its form. -/
theorem Rule.defect?_of_toForm {a b : Rule} (h : (a.toForm : Json) = b.toForm)
    (earlier : List String) : a.id = b.id ∧ a.defect? earlier = b.defect? earlier := by
  simp only [toForm, Check.toForm, Form.record, Form.string, Json.object.injEq, List.cons.injEq,
    Prod.mk.injEq, true_and, and_true, Json.string.injEq] at h
  obtain ⟨hid, hname, hdescription, huri, hrecommendation, -, -, -, -, -, hcondition, -⟩ := h
  have hblank : a.blankField? = b.blankField? := by
    simp only [blankField?, descriptiveFields, hid, hname, hdescription, huri, hrecommendation]
  have hbad : a.hasBadPattern = b.hasBadPattern := by
    simp only [hasBadPattern, Condition.pattern?_of_toForm hcondition]
  exact ⟨hid, by rw [defect?, defect?, hid, hblank, hbad]⟩

namespace Config

theorem firstDefect?_of_toForm {rules others : List Rule}
    (h : rules.map (Rule.toForm (α := Json)) = others.map Rule.toForm) (earlier : List String) :
    firstDefect? earlier rules = firstDefect? earlier others := by
  induction rules generalizing others earlier with
  | nil =>
    obtain rfl := List.map_eq_nil_iff.mp h.symm
    rfl
  | cons rule rules ih =>
    obtain ⟨other, others, rfl, hother, hothers⟩ := List.map_eq_cons_iff.mp h.symm
    obtain ⟨hid, hdefect⟩ := Rule.defect?_of_toForm hother earlier
    simp only [firstDefect?, hid, hdefect, ih hothers.symm]

theorem validate_of_toJson {c d : Config} (h : c.toJson = d.toJson) : c.validate = d.validate := by
  simp only [toJson, toForm, Form.record, Form.string, Form.list, Json.object.injEq, List.cons.injEq,
    Prod.mk.injEq, true_and, and_true, Json.string.injEq, Json.array.injEq] at h
  simp only [validate, h.1, firstDefect?_of_toForm h.2.2]

theorem document_toYaml (c : Config) :
    Document.read? c.toYaml =
      if Value.keysFit c.toForm then some ⟨Value.node c.toForm, []⟩ else none := by
  refine Value.read?_render (List.cons_ne_nil _ _) ?_
  simp only [List.forall_mem_cons]
  exact ⟨.scalar rfl, Value.keyed_optional c.rulesDir,
    .sequence (List.forall_mem_map.mpr fun rule _ => rule.keyed_toForm), List.forall_mem_nil _⟩

/-- A written configuration is read with the same form exactly when all of its values are written
back. -/
theorem parse?_toYaml (c : Config)
    (hfits : ∀ rule ∈ c.rules, ∀ value ∈ rule.check.values, value.Fits 124) :
    (∃ d, parse? c.toYaml = some d ∧ d.toJson = c.toJson) ↔
      ∀ rule ∈ c.rules, ∀ value ∈ rule.check.values, value.Everywhere WrittenBack := by
  obtain ⟨d, hread, hsame⟩ := @rereads ⟨Value.node c.toForm, []⟩ c hfits
  rw [← hsame, parse?, document_toYaml]
  cases hkeys : Value.keysFit c.toForm with
  | false => simp
  | true =>
    have hparse : ofTree? (View.ofDocument ⟨Value.node c.toForm, []⟩) = some d := hread
    simp [hparse, toJson]

/-- An accepted configuration that is written and loaded again is accepted and has the same form,
unless a value of one of its rules holds a string that is misread or a key that is too long. -/
theorem reloads_iff_writtenBack (text : String) (c : Config) (h : ofYaml text = .ok c) :
    (∃ d, ofYaml c.toYaml = .ok d ∧ d.toJson = c.toJson) ↔
      ∀ rule ∈ c.rules, ∀ value ∈ rule.check.values, value.Everywhere WrittenBack := by
  obtain ⟨hparse, hvalid⟩ := (ofYaml_eq_ok_iff text c).mp h
  rw [← parse?_toYaml c (fits_of_parse? hparse)]
  -- Whether a configuration is accepted shows in its form, so only reading it could go wrong.
  constructor
  · rintro ⟨d, hd, hsame⟩
    exact ⟨d, ((ofYaml_eq_ok_iff _ d).mp hd).1, hsame⟩
  · rintro ⟨d, hd, hsame⟩
    exact ⟨d, (ofYaml_eq_ok_iff _ d).mpr ⟨hd, validate_of_toJson hsame ▸ hvalid⟩, hsame⟩

theorem exists_of_strings {text s : String}
    (h : ((parse? text).map fun c =>
      (c.validate, c.rules.map fun r => r.check.values.map Json.string?)) =
        some (.ok (), [[some s]])) :
    ∃ c rule, ofYaml text = .ok c ∧ c.rules = [rule] ∧ rule.check.values = [.string s] := by
  obtain ⟨c, hparse, hc⟩ := Option.map_eq_some_iff.mp h
  obtain ⟨hvalid, hrules⟩ := Prod.mk.inj hc
  obtain ⟨rule, hrule, hvalues⟩ := List.map_eq_singleton_iff.mp hrules
  obtain ⟨value, hvalue, hstring⟩ := List.map_eq_singleton_iff.mp hvalues
  have hs : value = .string s := by
    cases value <;> simp_all [Json.string?]
  exact ⟨c, rule, (ofYaml_eq_ok_iff text c).mpr ⟨hparse, hvalid⟩, hrule, hs ▸ hvalue⟩

/-- A string that could be taken for a number is quoted, and loaded again. -/
theorem reloads_iff_writtenBack_quoted :
    let text := "[\"1.0\", ~, [[A, n, d, h, r, info, general, true, ~, [p, \x7bequals: \"15\"\x7d]]]]"
    ∃ c d, ofYaml text = .ok c ∧ ofYaml c.toYaml = .ok d ∧ d.toJson = c.toJson := by
  intro text
  obtain ⟨c, rule, hload, hrules, hvalues⟩ := @exists_of_strings text "15" (by decide +kernel)
  have hback : WrittenBack (.string "15") := by
    intro other hmisread
    have hquotes := (Yaml.needsQuotes_eq_false_iff "15").mpr hmisread.unquoted
    exact absurd hquotes (by decide)
  obtain ⟨d, hd, hsame⟩ := (reloads_iff_writtenBack text c hload).mpr (by
    rw [hrules, List.forall_mem_singleton, hvalues, List.forall_mem_singleton,
      Json.everywhere_scalar_iff fun _ => rfl]
    exact hback)
  exact ⟨c, d, hload, hd, hsame⟩

/-- A string that is an integer in base eight is written without quotes, and not loaded again. -/
theorem octal_string_changed :
    let text := "[\"1.0\", ~, [[A, n, d, h, r, info, general, true, ~, [p, \x7bequals: \"0o17\"\x7d]]]]"
    ∃ c rule, ofYaml text = .ok c ∧ c.rules = [rule] ∧ rule.check.values = [.string "0o17"] ∧
      ¬ ∃ d, ofYaml c.toYaml = .ok d ∧ d.toJson = c.toJson := by
  intro text
  obtain ⟨c, rule, hload, hrules, hvalues⟩ := @exists_of_strings text "0o17" (by decide +kernel)
  have hmisread : Yaml.Misread "0o17".toList (.number (.int ⟨15, by decide⟩)) :=
    @Yaml.Misread.based [] [] ['1', '7'] 'o' 8 15 (by decide) (.inl rfl) (.inl rfl) rfl (by decide)
      rfl
  refine ⟨c, rule, hload, hrules, hvalues, ?_⟩
  rintro ⟨d, hd, hsame⟩
  have hfits := fits_of_parse? ((ofYaml_eq_ok_iff text c).mp hload).1
  have hback := (parse?_toYaml c hfits).mp ⟨d, ((ofYaml_eq_ok_iff _ d).mp hd).1, hsame⟩
  have hstring := hback rule (by simp [hrules]) (.string "0o17") (by simp [hvalues])
  exact hstring.root _ hmisread

end Config

end TemplateAudit
