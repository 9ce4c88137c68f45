import TemplateAudit.Config.Builtin
import TemplateAudit.Config.Text
import TemplateAudit.Proofs.Audit.Completeness
import TemplateAudit.Proofs.Loading

/-!
# The defect that is blamed

A configuration that is refused has its version blamed, or else the first of its rules that has a
defect, where a rule is compared with the rules before it. A rule with several defects is blamed for
a repeated id before a blank field, for blank fields in their order, and for its pattern last. Every
way to obtain a configuration or an audit leads through this check.
-/

namespace TemplateAudit

set_option autoImplicit false

namespace Rule

structure Filled (r : Rule) : Prop where
  id : Text.trim r.id ≠ ""
  name : Text.trim r.name ≠ ""
  description : Text.trim r.description ≠ ""
  helpUri : Text.trim r.helpUri ≠ ""
  recommendation : Text.trim r.recommendation ≠ ""

def Readable (r : Rule) : Prop :=
  ∀ text, r.check.condition = .matching text → ∃ pattern, Pattern.compile? text = some pattern

/-- What a rule is blamed for when it comes after others with the given ids. -/
inductive Defect (r : Rule) (earlier : List String) : Error → Prop where
  | repeated : r.id ∈ earlier → r.Defect earlier (.ruleRepeated r.id)
  | blank {before after : List (String × String)} {field text : String} :
      r.id ∉ earlier →
      [("id", r.id), ("name", r.name), ("description", r.description), ("help_uri", r.helpUri),
        ("recommendation", r.recommendation)] = before ++ (field, text) :: after →
      (∀ other ∈ before, Text.trim other.2 ≠ "") → Text.trim text = "" →
      r.Defect earlier (.fieldBlank r.id field)
  | pattern {text : String} :
      r.id ∉ earlier → r.Filled → r.check.condition = .matching text →
      Pattern.compile? text = none → r.Defect earlier (.patternInvalid r.id)

theorem filled_iff (r : Rule) :
    r.Filled ↔ ∀ field ∈ r.descriptiveFields, Text.trim field.2 ≠ "" := by
  simp only [descriptiveFields, List.forall_mem_cons]
  constructor
  · intro h
    exact ⟨h.id, h.name, h.description, h.helpUri, h.recommendation, by simp⟩
  · rintro ⟨hid, hname, hdescription, huri, hrecommendation, -⟩
    exact ⟨hid, hname, hdescription, huri, hrecommendation⟩

theorem blankField?_eq_some_iff (r : Rule) (field : String) :
    r.blankField? = some field ↔ ∃ before text after,
      r.descriptiveFields = before ++ (field, text) :: after ∧
        (∀ other ∈ before, Text.trim other.2 ≠ "") ∧ Text.trim text = "" := by
  rw [blankField?, Option.map_eq_some_iff]
  constructor
  · rintro ⟨⟨_, text⟩, hfind, rfl⟩
    obtain ⟨hblank, before, after, hsplit, hbefore⟩ := List.find?_eq_some_iff_append.mp hfind
    refine ⟨before, text, after, hsplit, ?_, (Text.isBlankText_iff text).mp hblank⟩
    intro other hother htrim
    have hfilled := hbefore other hother
    simp [(Text.isBlankText_iff other.2).mpr htrim] at hfilled
  · rintro ⟨before, text, after, hsplit, hbefore, hblank⟩
    refine ⟨(field, text), List.find?_eq_some_iff_append.mpr ?_, rfl⟩
    refine ⟨(Text.isBlankText_iff text).mpr hblank, before, after, hsplit, ?_⟩
    intro other hother
    have hfilled := hbefore other hother
    rw [ne_eq, ← Text.isBlankText_iff, Bool.not_eq_true] at hfilled
    rw [hfilled, Bool.not_false]

theorem hasBadPattern_iff (r : Rule) :
    r.hasBadPattern = true ↔
      ∃ text, r.check.condition = .matching text ∧ Pattern.compile? text = none := by
  unfold hasBadPattern
  cases r.check.condition <;> simp [Condition.pattern?]

theorem readable_iff (r : Rule) : r.Readable ↔ r.hasBadPattern = false := by
  rw [← Bool.not_eq_true, hasBadPattern_iff, Readable]
  simp only [not_exists, not_and, Option.ne_none_iff_exists', ← ne_eq]

theorem sound_iff (r : Rule) : r.Sound ↔ r.Filled ∧ r.Readable := by
  rw [filled_iff, readable_iff]
  exact ⟨fun h => ⟨h.filled, h.readable⟩, fun h => ⟨h.1, h.2⟩⟩

theorem defect?_eq_some_iff (r : Rule) (earlier : List String) (e : Error) :
    r.defect? earlier = some e ↔ r.Defect earlier e := by
  constructor
  · intro h
    unfold defect? at h
    split at h
    · rename_i hmem
      obtain rfl := Option.some.inj h
      exact .repeated (by simpa using hmem)
    · rename_i hfresh
      have hfresh : r.id ∉ earlier := by simpa using hfresh
      split at h
      · rename_i field hblank
        obtain rfl := Option.some.inj h
        obtain ⟨before, text, after, hsplit, hbefore, htext⟩ :=
          (blankField?_eq_some_iff r field).mp hblank
        exact .blank hfresh hsplit hbefore htext
      · rename_i hfilled
        split at h
        · rename_i hbad
          obtain rfl := Option.some.inj h
          obtain ⟨text, hcondition, hcompile⟩ := (hasBadPattern_iff r).mp hbad
          exact .pattern hfresh ((filled_iff r).mpr ((blankField?_eq_none_iff r).mp hfilled))
            hcondition hcompile
        · simp at h
  · intro h
    cases h with
    | repeated hmem => simp [defect?, hmem]
    | blank hfresh hsplit hbefore htext =>
      have hblank := (blankField?_eq_some_iff r _).mpr ⟨_, _, _, hsplit, hbefore, htext⟩
      simp [defect?, hfresh, hblank]
    | pattern hfresh hfilled hcondition hcompile =>
      have hblank := (blankField?_eq_none_iff r).mpr ((filled_iff r).mp hfilled)
      have hbad := (hasBadPattern_iff r).mpr ⟨_, hcondition, hcompile⟩
      simp [defect?, hfresh, hblank, hbad]

theorem Defect.congr {r : Rule} {earlier others : List String} {e : Error}
    (h : r.Defect earlier e) (hsame : ∀ id, id ∈ earlier ↔ id ∈ others) : r.Defect others e := by
  cases h with
  | repeated hmem => exact .repeated ((hsame r.id).mp hmem)
  | blank hfresh hsplit hbefore htext =>
    exact .blank (mt (hsame r.id).mpr hfresh) hsplit hbefore htext
  | pattern hfresh hfilled hcondition hcompile =>
    exact .pattern (mt (hsame r.id).mpr hfresh) hfilled hcondition hcompile

theorem Defect.kind {r : Rule} {earlier : List String} {e : Error} (h : r.Defect earlier e) :
    e.kind = .configuration := by
  cases h <;> rfl

end Rule

namespace Config

/-- The rule at a position has this defect, given ids from before the list and those of the rules
before it in the list. -/
def DefectAt (earlier : List String) (rules : List Rule) (position : Nat) (e : Error) : Prop :=
  ∃ r, rules[position]? = some r ∧
    r.Defect (earlier ++ (rules.take position).map Rule.id) e

/-- What a configuration is blamed for: its version, else the first rule that has any defect. -/
inductive Blames (c : Config) : Error → Prop where
  | version : c.version ≠ "1.0" → c.Blames (.versionUnsupported c.version)
  | rule {position : Nat} {e : Error} :
      c.version = "1.0" → DefectAt [] c.rules position e →
      (∀ before < position, ∀ other, ¬ DefectAt [] c.rules before other) → c.Blames e

theorem defectAt_zero {earlier : List String} {r : Rule} {rest : List Rule} {e : Error} :
    DefectAt earlier (r :: rest) 0 e ↔ r.Defect earlier e := by
  simp [DefectAt]

theorem defectAt_succ {earlier : List String} {r : Rule} {rest : List Rule} {position : Nat}
    {e : Error} :
    DefectAt earlier (r :: rest) (position + 1) e ↔ DefectAt (r.id :: earlier) rest position e := by
  -- The ids before are collected in another order.
  have hsame : ∀ id, id ∈ earlier ++ ((r :: rest).take (position + 1)).map Rule.id ↔
      id ∈ r.id :: earlier ++ (rest.take position).map Rule.id := by
    intro id
    simp only [List.take_succ_cons, List.map_cons, List.mem_append, List.mem_cons]
    tauto
  constructor
  · rintro ⟨found, hfound, hdefect⟩
    exact ⟨found, hfound, hdefect.congr hsame⟩
  · rintro ⟨found, hfound, hdefect⟩
    exact ⟨found, hfound, hdefect.congr fun id => (hsame id).symm⟩

/-- The search stops at the first rule with a defect. -/
theorem firstDefect?_eq_some_iff (earlier : List String) (rules : List Rule) (e : Error) :
    firstDefect? earlier rules = some e ↔ ∃ position, DefectAt earlier rules position e ∧
      ∀ before < position, ∀ other, ¬ DefectAt earlier rules before other := by
  induction rules generalizing earlier with
  | nil => simp [firstDefect?, DefectAt]
  | cons r rest ih =>
    rw [firstDefect?]
    cases hdefect : r.defect? earlier with
    | some found =>
      have hfound := (Rule.defect?_eq_some_iff r earlier found).mp hdefect
      constructor
      · intro h
        obtain rfl := Option.some.inj h
        exact ⟨0, defectAt_zero.mpr hfound, by simp⟩
      · rintro ⟨position, hat, hfirst⟩
        -- A later position would have this rule before it.
        cases position with
        | zero =>
          have hsame := (Rule.defect?_eq_some_iff r earlier e).mpr (defectAt_zero.mp hat)
          rw [← hdefect, hsame]
        | succ position => exact absurd (defectAt_zero.mpr hfound) (hfirst 0 (by omega) found)
    | none =>
      have hsound : ∀ other, ¬ DefectAt earlier (r :: rest) 0 other := by
        intro other hat
        rw [(Rule.defect?_eq_some_iff r earlier other).mpr (defectAt_zero.mp hat)] at hdefect
        cases hdefect
      simp only [ih]
      constructor
      · rintro ⟨position, hat, hfirst⟩
        refine ⟨position + 1, defectAt_succ.mpr hat, ?_⟩
        intro before hbefore other
        cases before with
        | zero => exact hsound other
        | succ before => exact mt defectAt_succ.mp (hfirst before (by omega) other)
      · rintro ⟨position, hat, hfirst⟩
        cases position with
        | zero => exact absurd hat (hsound e)
        | succ position =>
          refine ⟨position, defectAt_succ.mp hat, ?_⟩
          intro before hbefore other
          exact mt defectAt_succ.mpr (hfirst (before + 1) (by omega) other)

theorem supported_iff (c : Config) : supportedVersions.contains c.version = true ↔
    c.version = "1.0" := by
  simp [supportedVersions]

theorem validate_eq_ok_iff (c : Config) : c.validate = .ok () ↔
    c.version = "1.0" ∧ (c.rules.map Rule.id).Nodup ∧ ∀ r ∈ c.rules, r.Filled ∧ r.Readable := by
  have hdefect : firstDefect? [] c.rules = none ↔
      (c.rules.map Rule.id).Nodup ∧ ∀ r ∈ c.rules, r.Filled ∧ r.Readable := by
    simp only [firstDefect?_eq_none_iff, List.not_mem_nil, not_false_eq_true, true_and,
      Rule.sound_iff]
  rw [← hdefect, ← supported_iff]
  unfold validate
  cases supportedVersions.contains c.version with
  | false => simp
  | true => cases firstDefect? [] c.rules <;> simp

theorem validate_eq_error_iff (c : Config) (e : Error) :
    c.validate = .error e ↔ c.Blames e := by
  unfold validate
  by_cases hversion : c.version = "1.0"
  · rw [(supported_iff c).mpr hversion]
    have hsearch : c.Blames e ↔ firstDefect? [] c.rules = some e := by
      rw [firstDefect?_eq_some_iff]
      constructor
      · intro h
        cases h with
        | version hother => exact absurd hversion hother
        | rule _ hat hfirst => exact ⟨_, hat, hfirst⟩
      · rintro ⟨position, hat, hfirst⟩
        exact .rule hversion hat hfirst
    rw [hsearch]
    cases firstDefect? [] c.rules <;> simp
  · have hunsupported : supportedVersions.contains c.version = false := by
      rwa [← Bool.not_eq_true, supported_iff]
    simp only [hunsupported, Bool.not_false, if_true]
    constructor
    · intro h
      obtain rfl := Except.error.inj h
      exact .version hversion
    · intro h
      cases h with
      | version _ => rfl
      | rule hsupported => exact absurd hsupported hversion

theorem Blames.kind {c : Config} {e : Error} (h : c.Blames e) : e.kind = .configuration := by
  cases h with
  | version _ => rfl
  | rule _ hat _ =>
    obtain ⟨r, -, hdefect⟩ := hat
    exact hdefect.kind

/-! ## Every way to a configuration -/

theorem checked_eq_ok_iff (c d : Config) : c.checked = .ok d ↔ d = c ∧ c.validate = .ok () := by
  unfold checked
  cases c.validate with
  | error e => simp
  | ok _ => simp [eq_comm]

theorem ofYaml_eq_ok_iff (text : String) (c : Config) :
    ofYaml text = .ok c ↔ parse? text = some c ∧ c.validate = .ok () := by
  unfold ofYaml
  cases parse? text with
  | none => simp
  | some found =>
    rw [checked_eq_ok_iff]
    constructor
    · rintro ⟨rfl, hvalid⟩
      exact ⟨rfl, hvalid⟩
    · rintro ⟨hfound, hvalid⟩
      obtain rfl := Option.some.inj hfound
      exact ⟨rfl, hvalid⟩

theorem load_returns_valid {m : Type → Type} [Monad m] [LawfulMonad m] (read : FileReader m)
    (path : String) : Returns (load read path) fun c => c.validate = .ok () := by
  refine Returns.mk_bind fun content => ?_
  cases content with
  | error cause => exact Returns.ofExcept (by simp)
  | ok text =>
    cases hparse : parse? text with
    | none =>
      simp only [hparse]
      exact Returns.ofExcept (by simp)
    | some found =>
      simp only [hparse]
      refine Returns.ofExcept fun c hc => ?_
      obtain ⟨rfl, hvalid⟩ := (checked_eq_ok_iff found c).mp hc
      exact hvalid

/-- Configurations that are put together step by step, from the built-in one with or without its
rules. -/
inductive Assembled : Config → Prop where
  | builtin : Assembled builtin
  | withoutRules : Assembled withoutRules
  | withRulesDir {c : Config} (dir : String) : Assembled c → Assembled (c.withRulesDir dir)
  | addRule {c : Config} (rule : Rule) : Assembled c → Assembled (c.addRule rule)

theorem Assembled.version_eq {c : Config} (h : c.Assembled) : c.version = "1.0" := by
  induction h with
  | builtin => rfl
  | withoutRules => rfl
  | withRulesDir _ _ ih => exact ih
  | addRule _ _ ih => exact ih

/-- A configuration is accepted exactly when its version is supported, its ids are distinct and each
of its rules, enabled or not, is filled in and readable. Otherwise the version is blamed, or else
the first rule with a defect, for the first of its defects. Reading a text, loading a file,
assembling a configuration and preparing an audit succeed on accepted configurations only. -/
theorem validate_blames_first_defect :
    (∀ c : Config,
      (c.validate = .ok () ↔ c.version = "1.0" ∧ (c.rules.map Rule.id).Nodup ∧
        ∀ r ∈ c.rules, r.Filled ∧ r.Readable) ∧
      (∀ e, c.validate = .error e ↔ c.Blames e) ∧
      ∀ e, c.Blames e → e.kind = .configuration) ∧
    (∀ (text : String) (c : Config),
      ofYaml text = .ok c ↔ parse? text = some c ∧ c.validate = .ok ()) ∧
    (∀ (m : Type → Type) [Monad m] [LawfulMonad m] (read : FileReader m) (path : String),
      Returns (load read path) fun c => c.validate = .ok ()) ∧
    (∀ c : Config, c.Assembled →
      c.version = "1.0" ∧ ∀ d, c.checked = .ok d ↔ d = c ∧ c.validate = .ok ()) ∧
    ∀ (c : Config) (selection : Selection) (home : String) (a : Audit),
      Audit.ofConfig c selection home = .ok a → c.validate = .ok () := by
  refine ⟨?_, ofYaml_eq_ok_iff, ?_, ?_, ?_⟩
  · intro c
    exact ⟨c.validate_eq_ok_iff, c.validate_eq_error_iff, fun e => Blames.kind⟩
  · intro m _ _ read path
    exact load_returns_valid read path
  · intro c h
    exact ⟨h.version_eq, c.checked_eq_ok_iff⟩
  · intro c selection home a h
    exact (Audit.ofConfig_eq_ok h).1

/-- The second rule has a blank field and a pattern that cannot be read, the third repeats an id.
Without the two the configuration is accepted. -/
theorem validate_blames_first_defect_second_rule :
    let rule (id description pattern : String) : Rule := {
      id := id, name := "n", description := description, helpUri := "h", recommendation := "r",
      severity := .info, category := .general, check := ⟨"p", .matching pattern, none⟩ }
    let good := withoutRules.addRule (rule "A" "d" "a+")
    let bad := (good.addRule (rule "B" " \t" "(")).addRule (rule "A" "" "a")
    bad.Blames (.fieldBlank "B" "description") ∧
      bad.validate = .error (.fieldBlank "B" "description") ∧
      good.Assembled ∧ good.checked = .ok good ∧ ∃ a, Audit.ofConfig good .full "" = .ok a ∧
        good.validate = .ok () ∧ ∀ (read : FileReader Id) (path : String),
          Returns (load read path) fun c => c.validate = .ok () := by
  intro rule good bad
  obtain ⟨hvalidate, -, hload, hassembled, haudit⟩ := validate_blames_first_defect
  have hbad : bad.validate = .error (.fieldBlank "B" "description") := by decide +kernel
  have hgood : good.Assembled := .addRule _ .withoutRules
  obtain ⟨a, ha⟩ := Audit.exists_ofConfig (by decide +kernel : good.validate = .ok ()) .full ""
  have hvalid := haudit good .full "" a ha
  exact ⟨((hvalidate bad).2.1 _).mp hbad, hbad, hgood,
    ((hassembled good hgood).2 good).mpr ⟨rfl, hvalid⟩, a, ha, hvalid, hload Id⟩

end Config

end TemplateAudit
