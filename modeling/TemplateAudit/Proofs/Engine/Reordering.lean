import Mathlib.Data.List.Forall2
import TemplateAudit.Proofs.Engine.LetterCase
import TemplateAudit.Proofs.Evaluation
import TemplateAudit.Proofs.Json.Reordering

/-!
# Templates with members in another order

On a template with members in another order a lookup finds the same property at the same place, and
a condition holds of it or not as before. So each resource has the same verdict. The findings nest as
before, and only those of resources that are given by name may change their order.
-/

namespace TemplateAudit.ReadyCheck

set_option autoImplicit false

open Json TemplateAudit.Path

/-! ## Lookups -/

theorem stepDown?_of_sameButOrder {value other : Json} (h : value.SameButOrder other)
    (step : String) :
    Option.Rel (fun x y => x.1 = y.1 ∧ x.2.SameButOrder y.2) (stepDown? value step)
      (stepDown? other step) := by
  cases value with
  | object members =>
    obtain ⟨_, others, rfl, _⟩ := h.reordered.eq_object
    rw [stepDown?, stepDown?, member?_eq_find? h.apart.keys, member?_eq_find? h.keys_other]
    apply optionRel_map (h.find? Text.asciiEq_of_both)
    rintro m n ⟨hkey, hsame⟩
    exact ⟨congrArg Segment.key hkey, hsame⟩
  | array items =>
    obtain ⟨others, rfl, hitems⟩ := h.reordered.eq_array
    rw [stepDown?, stepDown?]
    cases position? step.toList with
    | none => exact .none
    | some position =>
      apply optionRel_map (hitems.getElem? (caseApart_array_iff.mp h.apart) position)
      intro item other hsame
      exact ⟨rfl, hsame⟩
  | _ =>
    cases h.reordered
    exact .none

theorem follow?_of_sameButOrder {names : List String} {value other : Json} {path : String}
    (h : value.SameButOrder other) :
    Option.Rel (fun x y => x.1.SameButOrder y.1 ∧ x.2 = y.2) (follow? names value path)
      (follow? names other path) := by
  induction names generalizing value other path with
  | nil => exact .some ⟨h, rfl⟩
  | cons name rest ih =>
    rw [follow?, follow?, down?_eq, down?_eq]
    rcases optionRel_cases (stepDown?_of_sameButOrder h name) with
      ⟨hnone, hother⟩ | ⟨found, otherFound, hfound, hother, hstep, hnext⟩
    · rw [hnone, hother]
      exact .none
    · simp only [hfound, hother, Option.map_some, hstep]
      exact ih hnext

theorem lookup?_of_sameButOrder {value other : Json} (h : value.SameButOrder other)
    (path : String) :
    Option.Rel (fun x y => x.1.SameButOrder y.1 ∧ x.2 = y.2) (lookup? value path)
      (lookup? other path) :=
  follow?_of_sameButOrder h

/-! ## Verdicts -/

theorem isSatisfied_of_sameButOrder (c : ReadyCheck) {value other : Option Json}
    (h : Option.Rel SameButOrder value other) : c.isSatisfied value = c.isSatisfied other := by
  cases h with
  | none => rfl
  | @some v w hsame =>
    rw [isSatisfied, isSatisfied]
    cases c.condition with
    | equals expected => simp [hsame.reordered.same_left]
    | differs unexpected => simp [hsame.reordered.same_left]
    | present expected => rfl
    | oneOf allowed => simp [hsame.same_right]
    | matching pattern => simp [hsame.reordered.string?_eq]
    | atLeast bound => simp [hsame.reordered.finite?_eq]

theorem violation?_of_sameButOrder (c : ReadyCheck) {value other : Json}
    (h : value.SameButOrder other) (base : String) :
    c.violation? value base = c.violation? other base := by
  have hlookup := lookup?_of_sameButOrder h c.path
  have hsatisfied : c.isSatisfied ((lookup? value c.path).map (·.1)) =
      c.isSatisfied ((lookup? other c.path).map (·.1)) := by
    apply isSatisfied_of_sameButOrder
    apply optionRel_map hlookup
    intro x y hsame
    exact hsame.1
  have hplace : c.violationPlace base value = c.violationPlace base other := by
    rw [violationPlace, violationPlace]
    rcases optionRel_cases hlookup with
      ⟨hnone, hother⟩ | ⟨found, otherFound, hfound, hother, -, hplace⟩
    · rw [hnone, hother]
    · simp only [hfound, hother, hplace]
  rw [violation?_eq, violation?_eq, hsatisfied, hplace]

theorem isOfType_of_sameButOrder {resource other : Json} (h : resource.SameButOrder other)
    (type : String) : isOfType resource type = isOfType other type := by
  rw [isOfType, isOfType]
  rcases optionRel_cases (h.get? "type") with
    ⟨hnone, hother⟩ | ⟨found, otherFound, hfound, hother, hsame⟩
  · rw [hnone, hother]
  · simp only [hfound, hother, Option.bind_some, hsame.reordered.string?_eq]

theorem resourceFinding_of_sameButOrder (c : ReadyCheck) (type path : String)
    {resource other : Json} (h : resource.SameButOrder other) (children : List (Finding String)) :
    c.resourceFinding type path resource children = c.resourceFinding type path other children := by
  rw [resourceFinding, resourceFinding, resourceViolation?, resourceViolation?,
    isOfType_of_sameButOrder h, c.violation?_of_sameButOrder h]

/-! ## Visits -/

mutual

/-- `Rearranged c type path value found others`: the findings of the resources under a value, and
the same findings with those of resources given by name in another order, at any depth. -/
inductive Rearranged (c : ReadyCheck) (type : String) :
    String → Json → List (Finding String) → List (Finding String) → Prop where
  | listed {path : String} {value : Json} {found others : List (Finding String)} :
      Paired c type (resourceEntries path value) found others →
      Rearranged c type path value found others
  | named {path : String} {value : Json} {named : Members}
      {found inner others : List (Finding String)} :
      value.get? "resources" = some (.object named) →
      Paired c type (resourceEntries path value) found inner → inner.Perm others →
      Rearranged c type path value found others

/-- The findings of some resources in their order, each around rearranged ones. -/
inductive Paired (c : ReadyCheck) (type : String) :
    List (String × Json) → List (Finding String) → List (Finding String) → Prop where
  | nil : Paired c type [] [] []
  | cons {path : String} {resource : Json} {entries : List (String × Json)}
      {children otherChildren found others : List (Finding String)} :
      Rearranged c type path resource children otherChildren →
      Paired c type entries found others →
      Paired c type ((path, resource) :: entries)
        (c.resourceFinding type path resource children ++ found)
        (c.resourceFinding type path resource otherChildren ++ others)

end

mutual

theorem Rearranged.failures_perm {c : ReadyCheck} {type : String} :
    ∀ {path : String} {value : Json} {found others : List (Finding String)},
      c.Rearranged type path value found others →
      (Finding.failuresIn found).Perm (Finding.failuresIn others)
  | _, _, _, _, .listed hpaired => hpaired.failures_perm
  | _, _, _, _, .named _ hpaired hperm => hpaired.failures_perm.trans (Finding.failuresIn_perm hperm)

theorem Paired.failures_perm {c : ReadyCheck} {type : String} :
    ∀ {entries : List (String × Json)} {found others : List (Finding String)},
      c.Paired type entries found others →
      (Finding.failuresIn found).Perm (Finding.failuresIn others)
  | _, _, _, .nil => .refl _
  | _, _, _, .cons hresource hrest => by
    have hchildren := hresource.failures_perm
    have hothers := hrest.failures_perm
    rw [Finding.failuresIn_append, Finding.failuresIn_append, failuresIn_resourceFinding,
      failuresIn_resourceFinding]
    exact (hchildren.append_left _).append hothers

end

theorem itemEntries_of_reorderedItems {path : String} {items others : List Json}
    (h : ReorderedItems items others) (hapart : ∀ item ∈ items, item.CaseApart) (position : Nat) :
    List.Forall₂ SameMember ((items.zipIdx position).map fun i => (Path.item path i.2, i.1))
      ((others.zipIdx position).map fun i => (Path.item path i.2, i.1)) := by
  induction items generalizing others position with
  | nil =>
    cases h
    exact .nil
  | cons item rest ih =>
    cases h with
    | cons hitem hrest =>
      rw [List.forall_mem_cons] at hapart
      exact .cons ⟨rfl, hapart.1, hitem⟩ (ih hrest hapart.2 (position + 1))

theorem namedEntries_of_reorderedMembers {path : String} {named others : Members}
    (h : ReorderedMembers named others) (hapart : ∀ m ∈ named, m.2.CaseApart) :
    List.Forall₂ SameMember (named.map fun m => (Path.join path m.1, m.2))
      (others.map fun m => (Path.join path m.1, m.2)) := by
  induction named generalizing others with
  | nil =>
    cases h
    exact .nil
  | cons m rest ih =>
    cases h with
    | cons hvalue hrest =>
      rw [List.forall_mem_cons] at hapart
      exact .cons ⟨rfl, hapart.1, hvalue⟩ (ih hrest hapart.2)

theorem resourceEntries_of_sameButOrder {value other : Json} (h : value.SameButOrder other)
    (path : String) :
    ∃ inner, List.Forall₂ SameMember (resourceEntries path value) inner ∧
      (inner = resourceEntries path other ∨
        inner.Perm (resourceEntries path other) ∧
          ∃ named, value.get? "resources" = some (.object named)) := by
  rw [resourceEntries, resourceEntries]
  rcases optionRel_cases (h.get? "resources") with
    ⟨hnone, hother⟩ | ⟨resources, others, hresources, hother, hsame⟩
  · rw [hnone, hother]
    exact ⟨[], .nil, Or.inl rfl⟩
  · rw [hresources, hother]
    cases resources with
    | array items =>
      obtain ⟨others, rfl, hitems⟩ := hsame.reordered.eq_array
      have hapart := caseApart_array_iff.mp hsame.apart
      exact ⟨_, itemEntries_of_reorderedItems hitems hapart 0, Or.inl rfl⟩
    | object named =>
      obtain ⟨inner, others, rfl, hmembers, hperm⟩ := hsame.reordered.eq_object
      have hapart := (caseApart_object_iff.mp hsame.apart).2
      refine ⟨_, namedEntries_of_reorderedMembers hmembers hapart, Or.inr ⟨?_, named, rfl⟩⟩
      exact hperm.map _
    | _ =>
      cases hsame.reordered
      exact ⟨[], .nil, Or.inl rfl⟩

theorem paired_flatMap (c : ReadyCheck) (type : String) {entries others : List (String × Json)}
    (hsame : List.Forall₂ SameMember entries others)
    (h : ∀ entry ∈ entries, ∀ other, SameMember entry other →
      c.Rearranged type entry.1 entry.2 (visit c type entry.1 entry.2)
        (visit c type other.1 other.2)) :
    c.Paired type entries
      (entries.flatMap fun entry =>
        c.resourceFinding type entry.1 entry.2 (visit c type entry.1 entry.2))
      (others.flatMap fun entry =>
        c.resourceFinding type entry.1 entry.2 (visit c type entry.1 entry.2)) := by
  induction hsame with
  | nil => exact .nil
  | @cons entry other rest otherRest hentry hrest ih =>
    rw [List.forall_mem_cons] at h
    rw [List.flatMap_cons, List.flatMap_cons, ← hentry.1,
      ← c.resourceFinding_of_sameButOrder type entry.1 hentry.2]
    have hvisit := h.1 other hentry
    rw [← hentry.1] at hvisit
    exact .cons hvisit (ih h.2)

/-- A visit finds the same in every order, up to the order of resources given by name. -/
theorem rearranged_visit (c : ReadyCheck) (type path : String) {value other : Json}
    (h : value.SameButOrder other) :
    c.Rearranged type path value (visit c type path value) (visit c type path other) := by
  rw [visit_eq c type path value, visit_eq c type path other]
  obtain ⟨inner, hsame, hshape⟩ := resourceEntries_of_sameButOrder h path
  have hpaired := paired_flatMap c type hsame (by
    intro entry hentry other hmember
    rw [← hmember.1]
    exact rearranged_visit c type entry.1 hmember.2)
  rcases hshape with rfl | ⟨hperm, named, hnamed⟩
  · exact .listed hpaired
  · exact .named hnamed hpaired (hperm.flatMap_right _)
termination_by sizeOf value
decreasing_by exact sizeOf_resourceEntries hentry

/-- Findings of a check that differ in the order of resources given by name only. -/
def FoundAlike (c : ReadyCheck) (resourceType : Option String) (template : Json)
    (found others : List (Finding String)) : Prop :=
  match resourceType with
  | none => found = others
  | some type => c.Rearranged type "" template found others

theorem FoundAlike.failures_perm {c : ReadyCheck} {resourceType : Option String} {template : Json}
    {found others : List (Finding String)} (h : c.FoundAlike resourceType template found others) :
    (Finding.failuresIn found).Perm (Finding.failuresIn others) := by
  cases resourceType with
  | none =>
    obtain rfl : found = others := h
    exact .refl _
  | some type => exact Rearranged.failures_perm h

theorem foundAlike_findings (c : ReadyCheck) (resourceType : Option String) {value other : Json}
    (h : value.SameButOrder other) :
    c.FoundAlike resourceType value (c.findings resourceType value)
      (c.findings resourceType other) := by
  cases resourceType with
  | none =>
    show c.findings none value = c.findings none other
    rw [findings, findings, c.violation?_of_sameButOrder h]
  | some type => exact c.rearranged_visit type "" h

end TemplateAudit.ReadyCheck

namespace TemplateAudit.DeclarativeEngine

set_option autoImplicit false

open Json

theorem passed_evaluate {e : DeclarativeEngine} {rule : Rule} {template : Template}
    {found : List (Finding String)} (h : e.evaluate rule template = .ok found)
    (lineOf : String → UInt32) :
    (Audit.evaluate e.toEngine template lineOf rule).passed =
      (Finding.failuresIn found).isEmpty := by
  have hrun : e.toEngine.run rule template = .findings found := by simp only [toEngine, h]
  rw [Audit.evaluate, hrun, Evaluation.passed_withResults, Finding.failuresIn_mapList,
    List.isEmpty_map]

/-- A rule has the same failures on a template with its members in another order, in findings that
nest alike, and so the same verdict. Equality forgets the order of members as well, but keeps
integers apart from floats. -/
theorem evaluate_memberOrder (e : DeclarativeEngine) (rule : Rule) (template other : Template)
    (check : ReadyCheck) (hapart : template.expanded.CaseApart)
    (hreordered : template.expanded.Reordered other.expanded) (hready : e.ready rule = .ok check) :
    ∃ found others, e.evaluate rule template = .ok found ∧ e.evaluate rule other = .ok others ∧
      (Finding.failuresIn found).Perm (Finding.failuresIn others) ∧
      check.FoundAlike rule.resourceType template.expanded found others ∧
      (∀ lineOf otherLineOf, (Audit.evaluate e.toEngine template lineOf rule).passed =
        (Audit.evaluate e.toEngine other otherLineOf rule).passed) ∧
      (∀ a b : Json, a.CaseApart → a.Reordered b → ∀ value,
        a.same value = b.same value ∧ value.same a = value.same b) ∧
      ∀ n x, (Json.number (.int n)).same (.number (.float x)) = false ∧
        (Json.number (.float x)).same (.number (.int n)) = false := by
  have hfound : e.evaluate rule template =
      .ok (check.findings rule.resourceType template.expanded) := by
    simp only [evaluate, hready]
  have hothers : e.evaluate rule other =
      .ok (check.findings rule.resourceType other.expanded) := by
    simp only [evaluate, hready]
  have halike := check.foundAlike_findings rule.resourceType ⟨hapart, hreordered⟩
  refine ⟨_, _, hfound, hothers, halike.failures_perm, halike, ?_, ?_, ?_⟩
  · intro lineOf otherLineOf
    rw [passed_evaluate hfound, passed_evaluate hothers]
    exact halike.failures_perm.isEmpty_eq
  · intro a b ha hab value
    have hsame : a.SameButOrder b := ⟨ha, hab⟩
    exact ⟨hab.same_left value, hsame.same_right value⟩
  · intro n x
    exact ⟨rfl, rfl⟩

/-- Resources given by name, the last of which comes first in the other order. The value that is
asked for has its own members in a third order. -/
theorem evaluate_memberOrder_last_first :
    let rule : Rule := {
      id := "R", name := "", description := "", helpUri := "", recommendation := "",
      severity := .info, category := .general, resourceType := some "S",
      check := ⟨"props", .equals (.object [("b", .null), ("a", .string "x")]), none⟩ }
    let resource (props : Json) : Json := .object [("type", .string "S"), ("Props", props)]
    let good : Json := resource (.object [("a", .string "x"), ("b", .null)])
    let bad : Json := resource (.object [("a", .string "x"), ("c", .null)])
    let worse : Json := resource .null
    let otherBad : Json :=
      .object [("Props", .object [("c", .null), ("a", .string "x")]), ("type", .string "S")]
    let template : Template := {
      expanded := .object [("resources", .object [("p", good), ("q", bad), ("r", worse)])] }
    let other : Template := {
      expanded := .object [("resources", .object [("r", worse), ("q", otherBad), ("p", good)])] }
    template.expanded.CaseApart ∧ template.expanded.Reordered other.expanded ∧
      ∃ found others, ({} : DeclarativeEngine).evaluate rule template = .ok found ∧
        ({} : DeclarativeEngine).evaluate rule other = .ok others ∧
        Finding.failuresIn found = ["resources.q.Props", "resources.r.Props"] ∧
        Finding.failuresIn others = ["resources.r.Props", "resources.q.Props"] ∧
        (Finding.failuresIn found).Perm (Finding.failuresIn others) := by
  intro rule resource good bad worse otherBad template other
  have hapart : template.expanded.CaseApart := by
    simp [template, resource, good, bad, worse, caseApart_object_iff, KeysApart]
    decide
  have hbad : bad.Reordered otherBad :=
    .object (.cons (.refl _) (.cons (.object (.refl _) (.swap _ _ [])) .nil)) (.swap _ _ [])
  have hresources : Reordered (.object [("p", good), ("q", bad), ("r", worse)])
      (.object [("r", worse), ("q", otherBad), ("p", good)]) :=
    .object (.cons (.refl _) (.cons hbad (.cons (.refl _) .nil))) (List.reverse_perm _).symm
  have hreordered : template.expanded.Reordered other.expanded :=
    .object (.cons hresources .nil) (.refl _)
  obtain ⟨found, others, hfound, hothers, hperm, -⟩ :=
    evaluate_memberOrder {} rule template other _ hapart hreordered rfl
  obtain rfl := Except.ok.inj hfound
  obtain rfl := Except.ok.inj hothers
  exact ⟨hapart, hreordered, _, _, rfl, rfl, by decide +kernel, by decide +kernel, hperm⟩

end TemplateAudit.DeclarativeEngine
