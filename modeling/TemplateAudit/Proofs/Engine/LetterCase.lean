import TemplateAudit.Proofs.Engine.Location
import TemplateAudit.Proofs.Json.KeyCase
import TemplateAudit.Proofs.Text.Case

/-!
# Rules up to letter case

A rule names a resource type and a path in whatever case. In a template whose keys stay apart up to
case, a step of the path finds the same member in every case, so the lookup, and with it the whole
visit of the resources, is the same. The reported places are spelled with the keys of the template.
-/

namespace TemplateAudit

set_option autoImplicit false

/-! ## Texts in lower case -/

namespace Text

def folded (s : String) : String :=
  String.ofList (s.toList.map asciiLower)

theorem toList_folded (s : String) : (folded s).toList = s.toList.map asciiLower := by
  rw [folded, String.toList_ofList]

theorem asciiEq_iff_folded (a b : String) : asciiEq a b = true ↔ folded a = folded b := by
  rw [asciiEq_iff, folded, folded, String.ofList_inj]

theorem asciiLower_asciiLower (c : Char) : asciiLower (asciiLower c) = asciiLower c := by
  rcases asciiLower_cases (asciiLower c) with hsame | ⟨hfirst, hlast, -⟩
  · exact hsame
  · rcases asciiLower_cases c with hsame | ⟨hcapital, -, hlower⟩
    · rw [hsame, hsame]
    · omega

/-- What holds of all letters or of none does not change with the case. -/
theorem asciiLower_congr {p : Char → Bool} {b : Bool}
    (h : ∀ c : Char, 65 ≤ c.toNat → c.toNat ≤ 122 → p c = b) (c : Char) :
    p (asciiLower c) = p c := by
  rcases asciiLower_cases c with hsame | ⟨hfirst, hlast, hlower⟩
  · rw [hsame]
  · rw [h (asciiLower c) (by omega) (by omega), h c (by omega) (by omega)]

theorem asciiLower_eq_iff {d : Char} (hd : d.toNat < 65) (c : Char) :
    asciiLower c = d ↔ c = d := by
  have h := asciiLower_congr (p := (· == d)) (b := false) (by
    intro c hfirst hlast
    rw [beq_eq_false_iff_ne]
    rintro rfl
    omega) c
  rw [Bool.eq_iff_iff, beq_iff_eq, beq_iff_eq] at h
  exact h

theorem isBlank_asciiLower (c : Char) : isBlank (asciiLower c) = isBlank c := by
  apply asciiLower_congr (b := false)
  intro c hfirst hlast
  simp [isBlank]
  omega

theorem folded_folded (s : String) : folded (folded s) = folded s := by
  have hfold : asciiLower ∘ asciiLower = asciiLower := funext asciiLower_asciiLower
  rw [folded, toList_folded, List.map_map, hfold, folded]

theorem asciiEq_folded (a b : String) : asciiEq a (folded b) = asciiEq a b := by
  rw [Bool.eq_iff_iff, asciiEq_iff_folded, asciiEq_iff_folded, folded_folded]

theorem trim_folded (s : String) : trim (folded s) = folded (trim s) := by
  have hblank : isBlank ∘ asciiLower = isBlank := funext isBlank_asciiLower
  simp only [trim, trimChars, folded, String.toList_ofList, ← List.map_reverse, List.dropWhile_map,
    hblank]

end Text

namespace Path

theorem splitPoints_map (cs : List Char) :
    splitPoints (cs.map Text.asciiLower) = (splitPoints cs).map (List.map Text.asciiLower) := by
  induction cs with
  | nil => rfl
  | cons c cs ih =>
    rw [List.map_cons, splitPoints, splitPoints, ih]
    simp only [Text.asciiLower_eq_iff (d := '.') (by decide)]
    split
    · rfl
    · cases splitPoints cs <;> rfl

def isDigit (c : Char) : Bool :=
  48 ≤ c.toNat && c.toNat ≤ 57

def unsigned (cs : List Char) : List Char :=
  match cs with
  | '+' :: rest => rest
  | other => other

theorem position?_eq (cs : List Char) :
    position? cs =
      if (unsigned cs).isEmpty || !(unsigned cs).all isDigit then none
      else
        let value := (unsigned cs).foldl (fun n c => n * 10 + (c.toNat - 48)) 0
        if value < UInt64.size then some value else none := rfl

theorem unsigned_map (cs : List Char) :
    unsigned (cs.map Text.asciiLower) = (unsigned cs).map Text.asciiLower := by
  cases cs with
  | nil => rfl
  | cons c cs =>
    by_cases hplus : c = '+'
    · subst hplus
      rfl
    · have hlower : Text.asciiLower c ≠ '+' := by
        rw [Ne, Text.asciiLower_eq_iff (by decide)]
        exact hplus
      simp [unsigned, hplus, hlower]

theorem isDigit_asciiLower (c : Char) : isDigit (Text.asciiLower c) = isDigit c := by
  apply Text.asciiLower_congr (b := false)
  intro c hfirst hlast
  simp [isDigit]
  omega

theorem map_asciiLower_of_digits {cs : List Char} (h : cs.all isDigit = true) :
    cs.map Text.asciiLower = cs := by
  rw [List.all_eq_true] at h
  rw [List.map_congr_left (g := id), List.map_id]
  intro c hc
  have hdigit := h c hc
  rw [isDigit, Bool.and_eq_true, decide_eq_true_eq, decide_eq_true_eq] at hdigit
  rcases Text.asciiLower_cases c with hsame | ⟨hfirst, -, -⟩
  · exact hsame
  · omega

theorem position?_map (cs : List Char) : position? (cs.map Text.asciiLower) = position? cs := by
  have hdigit : isDigit ∘ Text.asciiLower = isDigit := funext isDigit_asciiLower
  rw [position?_eq, position?_eq, unsigned_map, List.isEmpty_map, List.all_map, hdigit]
  cases hall : (unsigned cs).all isDigit with
  | true => rw [map_asciiLower_of_digits hall]
  | false => simp

end Path

namespace ReadyCheck

open Json

theorem steps_folded (path : String) : steps (Text.folded path) = (steps path).map Text.folded := by
  rw [steps, steps, Text.toList_folded, Path.splitPoints_map, List.filter_map]
  simp [Function.comp_def, Text.folded]

/-- Where keys stay apart up to case, looking for the exact key first makes no difference. -/
theorem member?_eq_find? {members : Members} (h : KeysApart (.object members)) (key : String) :
    member? members key = members.find? fun m => Text.asciiEq m.1 key := by
  rw [member?]
  split
  · rename_i m hfind
    have hkey : m.1 = key := by simpa using List.find?_some hfind
    symm
    apply (find?_eq_some_iff_of_unique (h.unique Text.asciiEq_of_both)).mpr
    refine ⟨List.mem_of_find?_eq_some hfind, ?_⟩
    rw [hkey]
    exact Text.asciiEq_refl key
  · rfl

theorem stepDown?_folded {value : Json} (h : value.CaseApart) (step : String) :
    stepDown? value (Text.folded step) = stepDown? value step := by
  cases value with
  | object members =>
    simp only [stepDown?, member?_eq_find? h.keys, Text.asciiEq_folded]
  | array items => simp only [stepDown?, Text.toList_folded, Path.position?_map]
  | _ => rfl

theorem follow?_folded {names : List String} {value : Json} {path : String}
    (h : value.CaseApart) :
    follow? (names.map Text.folded) value path = follow? names value path := by
  induction names generalizing value path with
  | nil => rfl
  | cons name rest ih =>
    rw [List.map_cons, follow?, follow?, down?_eq, down?_eq, stepDown?_folded h]
    cases hdown : stepDown? value name with
    | none => rfl
    | some below =>
      exact ih (h.child (child?_of_stepDown? h.distinctKeys hdown))

theorem lookup?_folded {value : Json} (h : value.CaseApart) (path : String) :
    lookup? value (Text.folded path) = lookup? value path := by
  rw [lookup?, lookup?, steps_folded, follow?_folded h]

theorem lookup?_congr {value : Json} (h : value.CaseApart) {path other : String}
    (hpath : Text.asciiEq path other = true) :
    lookup? value (Text.trim path) = lookup? value (Text.trim other) := by
  rw [← lookup?_folded h, ← lookup?_folded h (Text.trim other), ← Text.trim_folded,
    ← Text.trim_folded, (Text.asciiEq_iff_folded path other).mp hpath]

theorem isOfType_congr (resource : Json) {type other : String}
    (htype : Text.asciiEq type other = true) : isOfType resource type = isOfType resource other := by
  rw [isOfType, isOfType]
  congr 1
  funext t
  rw [← Text.asciiEq_folded t type, (Text.asciiEq_iff_folded type other).mp htype,
    Text.asciiEq_folded]

theorem visit_congr {c other : ReadyCheck} {type otherType path : String} {value : Json}
    (hvalue : value.CaseApart)
    (hagree : ∀ path resource, resource.CaseApart →
      c.resourceViolation? type path resource = other.resourceViolation? otherType path resource) :
    visit c type path value = visit other otherType path value := by
  rw [visit_eq, visit_eq]
  apply List.flatMap_congr
  intro entry hentry
  have hresource : entry.2.CaseApart :=
    everywhere_resourceEntries hvalue.distinctKeys hvalue entry hentry
  rw [resourceFinding, resourceFinding, hagree entry.1 entry.2 hresource,
    visit_congr hresource hagree]
termination_by sizeOf value
decreasing_by exact sizeOf_resourceEntries hentry

theorem violation?_congr {c other : ReadyCheck} {value : Json}
    (hsatisfied : c.isSatisfied = other.isSatisfied)
    (hlookup : lookup? value c.path = lookup? value other.path) (base : String) :
    c.violation? value base = other.violation? value base := by
  rw [violation?_eq, violation?_eq, violationPlace, violationPlace, hlookup, hsatisfied]

/-- The findings do not depend on the case of the resource type and of the path. -/
theorem findings_congr (c : ReadyCheck) {value : Json} (hvalue : value.CaseApart)
    {path other : String} {resourceType otherType : Option String}
    (hpath : Text.asciiEq path other = true) (hcpath : c.path = Text.trim path)
    (htype : Option.Rel (fun a b => Text.asciiEq a b = true) resourceType otherType) :
    c.findings resourceType value =
      ReadyCheck.findings { c with path := Text.trim other } otherType value := by
  have hviolation : ∀ base resource, resource.CaseApart →
      c.violation? resource base =
        ReadyCheck.violation? { c with path := Text.trim other } resource base := by
    intro base resource hresource
    apply violation?_congr
    · rfl
    · rw [hcpath]
      exact lookup?_congr hresource hpath
  cases htype with
  | none => rw [findings, findings, hviolation "" value hvalue]
  | @some type otherType heq =>
    rw [findings, findings]
    apply visit_congr hvalue
    intro base resource hresource
    rw [resourceViolation?, resourceViolation?, isOfType_congr resource heq,
      hviolation base resource hresource]

end ReadyCheck

/-- Rules that differ in the letter case of the resource type and of the path only. -/
structure Rule.SameButCase (rule other : Rule) : Prop where
  rest : other = { rule with
    resourceType := other.resourceType
    check := { rule.check with path := other.check.path } }
  resourceType : Option.Rel (fun a b => Text.asciiEq a b = true) rule.resourceType
    other.resourceType
  path : Text.asciiEq rule.check.path other.check.path = true

namespace DeclarativeEngine

theorem ready_path {e : DeclarativeEngine} {rule : Rule} {check : ReadyCheck}
    (h : e.ready rule = .ok check) : check.path = Text.trim rule.check.path := by
  rw [ready] at h
  cases hpattern : rule.check.condition.pattern? with
  | none =>
    rw [hpattern] at h
    rw [← Except.ok.inj h]
  | some text =>
    rw [hpattern] at h
    cases hread : e.pattern? text with
    | none => simp [hread] at h
    | some pattern =>
      simp only [hread] at h
      rw [← Except.ok.inj h]

theorem ready_of_sameButCase (e : DeclarativeEngine) {rule other : Rule}
    (h : rule.SameButCase other) :
    e.ready other = (e.ready rule).map fun check =>
      { check with path := Text.trim other.check.path } := by
  rw [h.rest, ready, ready]
  cases rule.check.condition.pattern? with
  | none => rfl
  | some text => cases hpattern : e.pattern? text <;> simp [hpattern, Except.map]

/-- In a template whose keys stay apart up to case, the case in which a rule writes its resource
type and its path does not matter, and places are reported with the keys of the template. -/
theorem evaluate_letterCase (e : DeclarativeEngine) (rule other : Rule) (template : Template)
    (hapart : template.expanded.CaseApart) (h : rule.SameButCase other) :
    e.evaluate rule template = e.evaluate other template ∧
      ∀ found, e.evaluate rule template = .ok found → ∀ node ∈ Finding.nodesIn found,
        ∃ base below target, template.expanded.at? (base ++ below) = some target ∧
          (node.place = Path.join (Path.render base) (Path.render below) ∨
            below = [] ∧ node.place = Path.render base) := by
  rw [evaluate, evaluate, e.ready_of_sameButCase h]
  cases hready : e.ready rule with
  | error cause =>
    refine ⟨rfl, ?_⟩
    rintro found ⟨⟩
  | ok check =>
    refine ⟨congrArg Except.ok ?_, ?_⟩
    · exact check.findings_congr hapart h.path (ready_path hready) h.resourceType
    · rintro found ⟨⟩ node hnode
      obtain ⟨a, hmeans⟩ := ReadyCheck.exists_means hapart.distinctKeys node hnode
      obtain ⟨base, below, target, rfl, hat, hplace⟩ := hmeans.place_eq hapart.distinctKeys
      exact ⟨base, below, target, hat, hplace⟩

/-- One rule in small letters and in capitals, for a property that is written in neither way. -/
theorem evaluate_letterCase_capitals :
    let rule : Rule := {
      id := "R", name := "", description := "", helpUri := "", recommendation := "",
      severity := .info, category := .general, resourceType := some "store",
      check := ⟨"props.https", .present false, none⟩ }
    let other : Rule := { rule with
      resourceType := some "STORE", check := ⟨"PROPS.HTTPS", .present false, none⟩ }
    let props : Json := .object [("Https", .null)]
    let resource : Json := .object [("type", .string "Store"), ("Props", props)]
    let template : Template := {
      expanded := .object [("resources", .object [("S", resource)])] }
    template.expanded.CaseApart ∧ rule.SameButCase other ∧
      ∃ found, ({} : DeclarativeEngine).evaluate rule template = .ok found ∧
        ({} : DeclarativeEngine).evaluate other template = .ok found ∧
        Finding.failuresIn found = ["resources.S.Props.Https"] := by
  intro rule other props resource template
  have hapart : template.expanded.CaseApart := by
    simp [template, resource, props, Json.caseApart_object_iff, Json.KeysApart]
    decide
  have hsame : rule.SameButCase other := ⟨rfl, .some (by decide), by decide⟩
  obtain ⟨heq, -⟩ := evaluate_letterCase {} rule other template hapart hsame
  exact ⟨hapart, hsame, _, rfl, heq.symm, by decide +kernel⟩

end DeclarativeEngine

end TemplateAudit
