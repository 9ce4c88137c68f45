import Mathlib.Data.List.Basic
import TemplateAudit.Audit
import TemplateAudit.Proofs.Finding

/-!
# Findings of resources

The resources of a value are the entries of its member `resources`, as a list or by name, and the
resources nested in them. A check on resources reports the violations among them in pre-order; its
findings nest as the resources do, and a passing one is kept for the failures below it.
-/

namespace TemplateAudit.ReadyCheck

set_option autoImplicit false

def resourceEntries (path : String) (value : Json) : List (String × Json) :=
  match value.get? "resources" with
  | some (.array items) =>
    items.zipIdx.map fun i => (Path.item (Path.join path "resources") i.2, i.1)
  | some (.object named) =>
    named.map fun m => (Path.join (Path.join path "resources") m.1, m.2)
  | _ => []

theorem sizeOf_resources {value resources : Json} (h : value.get? "resources" = some resources) :
    sizeOf resources < sizeOf value := by
  cases value with
  | object members =>
    obtain ⟨m, hfind, rfl⟩ := Option.map_eq_some_iff.mp h
    have hmem := List.sizeOf_lt_of_mem (List.mem_of_find?_eq_some hfind)
    cases m
    simp only [Json.object.sizeOf_spec, Prod.mk.sizeOf_spec] at hmem ⊢
    omega
  | _ => simp [Json.get?] at h

theorem sizeOf_resourceEntries {path : String} {value : Json} {entry : String × Json}
    (h : entry ∈ resourceEntries path value) : sizeOf entry.2 < sizeOf value := by
  rw [resourceEntries] at h
  split at h
  · rename_i items hitems
    obtain ⟨i, hmem, rfl⟩ := List.mem_map.mp h
    have hsize := List.sizeOf_lt_of_mem (List.fst_mem_of_mem_zipIdx hmem)
    have hresources := sizeOf_resources hitems
    simp only [Json.array.sizeOf_spec] at hresources ⊢
    omega
  · rename_i named hnamed
    obtain ⟨⟨name, item⟩, hmem, rfl⟩ := List.mem_map.mp h
    have hsize := List.sizeOf_lt_of_mem hmem
    have hresources := sizeOf_resources hnamed
    simp only [Json.object.sizeOf_spec, Prod.mk.sizeOf_spec] at hresources hsize ⊢
    omega
  · simp at h

/-- All resources under a value at `path` with their paths, in pre-order. -/
def resources (path : String) (value : Json) : List (String × Json) :=
  (resourceEntries path value).attach.flatMap fun entry =>
    entry.val :: resources entry.val.1 entry.val.2
termination_by sizeOf value
decreasing_by exact sizeOf_resourceEntries entry.property

theorem resources_eq (path : String) (value : Json) :
    resources path value =
      (resourceEntries path value).flatMap fun entry => entry :: resources entry.1 entry.2 := by
  rw [resources, List.flatMap_subtype (g := fun entry => entry :: resources entry.1 entry.2)
    (fun _ _ => rfl), List.unattach_attach]

/-! ## Visits follow the resources -/

theorem visitItems_eq (c : ReadyCheck) (type path : String) (position : Nat) (items : List Json) :
    visitItems c type path position items =
      (items.zipIdx position).flatMap fun i =>
        c.resourceFinding type (Path.item path i.2) i.1 (visit c type (Path.item path i.2) i.1) := by
  induction items generalizing position with
  | nil => rfl
  | cons item rest ih => rw [visitItems, ih, List.zipIdx_cons, List.flatMap_cons]

theorem visitNamed_eq (c : ReadyCheck) (type path : String) (named : List (String × Json)) :
    visitNamed c type path named =
      named.flatMap fun m =>
        c.resourceFinding type (Path.join path m.1) m.2 (visit c type (Path.join path m.1) m.2) := by
  induction named with
  | nil => rfl
  | cons m rest ih => rw [visitNamed, ih, List.flatMap_cons]

theorem visitMembers_eq (c : ReadyCheck) (type path : String) (members : Json.Members) :
    visitMembers c type path members =
      match Json.Members.get? members "resources" with
      | some resources => visitContainer c type (Path.join path "resources") resources
      | none => [] := by
  induction members with
  | nil => rfl
  | cons m rest ih =>
    rw [visitMembers, ih]
    by_cases hkey : m.1 = "resources" <;> simp [Json.Members.get?, hkey]

/-- A visit goes through the entries of the member `resources` and, for each, visits its value. -/
theorem visit_eq (c : ReadyCheck) (type path : String) (value : Json) :
    visit c type path value =
      (resourceEntries path value).flatMap fun entry =>
        c.resourceFinding type entry.1 entry.2 (visit c type entry.1 entry.2) := by
  cases value with
  | object members =>
    rw [visit, visitMembers_eq, resourceEntries, Json.get?]
    cases hget : Json.Members.get? members "resources" with
    | none => rfl
    | some resources =>
      cases resources with
      | array items => simp only [visitContainer, visitItems_eq, List.flatMap_map]
      | object named => simp only [visitContainer, visitNamed_eq, List.flatMap_map]
      | _ => simp [visitContainer]
  | _ => simp [visit, resourceEntries, Json.get?]

/-! ## Violations -/

/-- Whether a resource is of the type that is checked and does not satisfy the check. -/
def violates (c : ReadyCheck) (type : String) (resource : Json) : Bool :=
  isOfType resource type && !c.isSatisfied ((lookup? resource c.path).map (·.1))

/-- Where a violation by the resource at `path` is reported: at the property that was found, else at
the resource. -/
def violationPlace (c : ReadyCheck) (path : String) (resource : Json) : String :=
  match lookup? resource c.path with
  | some (_, found) => Path.join path found
  | none => path

/-- The places of the violations among the resources of a template, in pre-order. -/
def violations (c : ReadyCheck) (type : String) (template : Json) : List String :=
  ((resources "" template).filter fun r => c.violates type r.2).map fun r =>
    c.violationPlace r.1 r.2

theorem violation?_eq (c : ReadyCheck) (value : Json) (path : String) :
    c.violation? value path =
      if c.isSatisfied ((lookup? value c.path).map (·.1)) then none
      else some (c.violationPlace path value) := by
  rw [violation?, violationPlace]
  cases lookup? value c.path with
  | none => rfl
  | some found => rfl

theorem resourceViolation?_eq (c : ReadyCheck) (type path : String) (resource : Json) :
    c.resourceViolation? type path resource =
      if c.violates type resource then some (c.violationPlace path resource) else none := by
  rw [resourceViolation?, violation?_eq, violates]
  cases isOfType resource type <;>
    cases c.isSatisfied ((lookup? resource c.path).map (·.1)) <;> simp

theorem failuresIn_resourceFinding (c : ReadyCheck) (type path : String) (resource : Json)
    (children : List (Finding String)) :
    Finding.failuresIn (c.resourceFinding type path resource children) =
      (if c.violates type resource then [c.violationPlace path resource] else []) ++
        Finding.failuresIn children := by
  rw [resourceFinding, resourceViolation?_eq]
  cases c.violates type resource with
  | true => simp [Finding.failuresIn, Finding.failures]
  | false =>
    cases children with
    | nil => simp [Finding.failuresIn]
    | cons child rest => simp [Finding.failuresIn, Finding.failures]

/-- What a visit finds failing are the violations among the resources. -/
theorem failuresIn_visit (c : ReadyCheck) (type path : String) (value : Json) :
    Finding.failuresIn (visit c type path value) =
      ((resources path value).filter fun r => c.violates type r.2).map fun r =>
        c.violationPlace r.1 r.2 := by
  rw [visit_eq, resources_eq, Finding.failuresIn_flatMap, List.filter_flatMap, List.map_flatMap]
  apply List.flatMap_congr
  intro entry hentry
  rw [failuresIn_resourceFinding, failuresIn_visit c type entry.1 entry.2, List.filter_cons]
  split <;> simp
termination_by sizeOf value
decreasing_by exact sizeOf_resourceEntries hentry

/-! ## Nesting -/

/-- Findings that belong, in order, to some of the given resources, and the findings nested in each
to the resources nested in its own. A passing one has a failure below it. -/
inductive Mirrors (c : ReadyCheck) (type : String) :
    List (String × Json) → List (Finding String) → Prop where
  | nil : Mirrors c type [] []
  | silent {entry : String × Json} {entries : List (String × Json)}
      {found : List (Finding String)} :
      Mirrors c type entries found → Mirrors c type (entry :: entries) found
  | failing {path : String} {resource : Json} {entries : List (String × Json)}
      {children found : List (Finding String)} :
      c.violates type resource = true → Mirrors c type (resourceEntries path resource) children →
      Mirrors c type entries found →
      Mirrors c type ((path, resource) :: entries)
        (.node false (c.violationPlace path resource) children :: found)
  | passing {path : String} {resource : Json} {entries : List (String × Json)}
      {children found : List (Finding String)} :
      Finding.anyFailure children = true → Mirrors c type (resourceEntries path resource) children →
      Mirrors c type entries found →
      Mirrors c type ((path, resource) :: entries) (.node true path children :: found)

theorem Mirrors.hasFailure {c : ReadyCheck} {type : String} {entries : List (String × Json)}
    {found : List (Finding String)} (h : c.Mirrors type entries found) :
    ∀ f ∈ found, f.hasFailure = true := by
  induction h with
  | nil => simp
  | silent _ ih => exact ih
  | failing _ _ _ _ ih => exact List.forall_mem_cons.mpr ⟨by simp [Finding.hasFailure], ih⟩
  | passing hbelow _ _ _ ih =>
    exact List.forall_mem_cons.mpr ⟨by simp [Finding.hasFailure, hbelow], ih⟩

/-- One resource adds its own finding, if any, in front of those of the resources after it. -/
theorem mirrors_resourceFinding {c : ReadyCheck} {type path : String} {resource : Json}
    {entries : List (String × Json)} {children found : List (Finding String)}
    (hchildren : c.Mirrors type (resourceEntries path resource) children)
    (hfound : c.Mirrors type entries found) :
    c.Mirrors type ((path, resource) :: entries)
      (c.resourceFinding type path resource children ++ found) := by
  rw [resourceFinding, resourceViolation?_eq]
  cases hviolates : c.violates type resource with
  | true => exact .failing hviolates hchildren hfound
  | false =>
    cases children with
    | nil => exact .silent hfound
    | cons child rest =>
      have hbelow : Finding.anyFailure (child :: rest) = true := by
        rw [Finding.anyFailure, hchildren.hasFailure child List.mem_cons_self, Bool.true_or]
      exact .passing hbelow hchildren hfound

theorem mirrors_flatMap {c : ReadyCheck} {type : String} (entries : List (String × Json))
    (h : ∀ entry ∈ entries,
      c.Mirrors type (resourceEntries entry.1 entry.2) (visit c type entry.1 entry.2)) :
    c.Mirrors type entries (entries.flatMap fun entry =>
      c.resourceFinding type entry.1 entry.2 (visit c type entry.1 entry.2)) := by
  induction entries with
  | nil => exact .nil
  | cons entry rest ih =>
    rw [List.flatMap_cons]
    have hrest := ih fun other hother => h other (List.mem_cons_of_mem entry hother)
    exact mirrors_resourceFinding (h entry List.mem_cons_self) hrest

/-- A visit nests its findings as the resources are nested. -/
theorem mirrors_visit (c : ReadyCheck) (type path : String) (value : Json) :
    c.Mirrors type (resourceEntries path value) (visit c type path value) := by
  rw [visit_eq]
  exact mirrors_flatMap _ fun entry hentry => mirrors_visit c type entry.1 entry.2
termination_by sizeOf value
decreasing_by exact sizeOf_resourceEntries hentry

end TemplateAudit.ReadyCheck

namespace TemplateAudit.DeclarativeEngine

set_option autoImplicit false

theorem filter_hasFailure_mapList {α β : Type} (f : α → β) {found : List (Finding α)}
    (h : ∀ x ∈ found, x.hasFailure = true) :
    (Finding.mapList f found).filter Finding.hasFailure = Finding.mapList f found := by
  rw [Finding.filter_mapList, List.filter_eq_self.mpr h]

theorem isEmpty_of_hasFailure {α : Type} {found : List (Finding α)}
    (h : ∀ x ∈ found, x.hasFailure = true) : found.isEmpty = (Finding.failuresIn found).isEmpty := by
  cases found with
  | nil => rfl
  | cons child rest =>
    have hany : Finding.anyFailure (child :: rest) = true := by
      rw [Finding.anyFailure, h child List.mem_cons_self, Bool.true_or]
    rw [Finding.anyFailure_eq] at hany
    simpa using hany

theorem evaluate_ok {e : DeclarativeEngine} {rule : Rule} {type : String} {check : ReadyCheck}
    (htype : rule.resourceType = some type) (hcheck : e.ready rule = .ok check)
    (template : Template) :
    e.evaluate rule template = .ok (check.visit type "" template.expanded) := by
  simp only [evaluate, hcheck, htype, ReadyCheck.findings]

/-- A check on resources reports each violation once, in pre-order, and nothing else. Its findings
nest as the resources do, so that an evaluation drops none of them and passes exactly when there is
no violation. -/
theorem evaluate_reports_violations (e : DeclarativeEngine) (rule : Rule) (template : Template)
    (type : String) (check : ReadyCheck) (htype : rule.resourceType = some type)
    (hcheck : e.ready rule = .ok check) :
    ∃ found, e.evaluate rule template = .ok found ∧
      Finding.failuresIn found = check.violations type template.expanded ∧
      check.Mirrors type (ReadyCheck.resourceEntries "" template.expanded) found ∧
      ∀ lineOf : String → UInt32,
        let evaluation := Audit.evaluate e.toEngine template lineOf rule
        evaluation.passed = (check.violations type template.expanded).isEmpty ∧
        evaluation.result.children = Finding.mapList lineOf found ∧
        Finding.failuresIn evaluation.result.children =
          (check.violations type template.expanded).map lineOf ∧
        evaluation.diagnostic = none := by
  have hevaluate := evaluate_ok htype hcheck template
  have hmirrors := check.mirrors_visit type "" template.expanded
  have hfailures := check.failuresIn_visit type "" template.expanded
  refine ⟨_, hevaluate, hfailures, hmirrors, ?_⟩
  intro lineOf
  have hrun : e.toEngine.run rule template = .findings (check.visit type "" template.expanded) := by
    simp only [toEngine, hevaluate]
  have hkept := filter_hasFailure_mapList lineOf hmirrors.hasFailure
  simp only [Audit.evaluate, hrun, Evaluation.withResults, hkept, Finding.children]
  refine ⟨?_, trivial, ?_, rfl⟩
  · rw [Finding.mapList_eq_map, List.isEmpty_map, isEmpty_of_hasFailure hmirrors.hasFailure,
      hfailures]
    rfl
  · rw [Finding.failuresIn_mapList, hfailures]
    rfl

/-- A resource nested by name in one of another type, which is kept as a passing place. -/
theorem evaluate_reports_violations_nested :
    let rule : Rule := {
      id := "R", name := "", description := "", helpUri := "", recommendation := "",
      severity := .info, category := .general, resourceType := some "Store",
      check := ⟨"https", .present true, none⟩ }
    let inner : Json := .object [("type", .string "STORE")]
    let outer : Json := .object [("type", .string "Site"), ("resources", .object [("s", inner)])]
    let template : Template := { expanded := .object [("resources", .array [outer])] }
    ∃ found, ({} : DeclarativeEngine).evaluate rule template = .ok found ∧
      Finding.failuresIn found = ["resources[0].resources.s"] ∧
      ∀ lineOf, (Audit.evaluate (toEngine {}) template lineOf rule).passed = false := by
  intro rule inner outer template
  obtain ⟨found, hfound, hfailures, -, hevaluation⟩ := evaluate_reports_violations {} rule template
    "Store" ⟨Text.trim "https", .present true, none, none⟩ rfl rfl
  have hviolations : ReadyCheck.violations ⟨Text.trim "https", .present true, none, none⟩ "Store"
      template.expanded = ["resources[0].resources.s"] := by
    rw [ReadyCheck.violations, ← ReadyCheck.failuresIn_visit]
    decide +kernel
  refine ⟨found, hfound, hfailures.trans hviolations, ?_⟩
  intro lineOf
  rw [(hevaluation lineOf).1, hviolations]
  rfl

end TemplateAudit.DeclarativeEngine
