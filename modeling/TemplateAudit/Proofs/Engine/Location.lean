import TemplateAudit.Proofs.Engine.Resources
import TemplateAudit.Proofs.LineIndex.Resolution

/-!
# Places lead to the nodes they mean

The places that a check reports are paths put together from keys and positions. Each of them is read
back as the address of the node that it was put together for: the property that was looked up, or
the resource or the template where there is none. In a safe template it therefore resolves to the
line of that node.
-/

namespace TemplateAudit.ReadyCheck

set_option autoImplicit false

open TemplateAudit.Path

/-- One step of a lookup: where it leads and what it finds. -/
def stepDown? (value : Json) (step : String) : Option (Segment × Json) :=
  match value with
  | .object members => (member? members step).map fun m => (.key m.1, m.2)
  | .array items =>
    (position? step.toList).bind fun position =>
      items[position]?.map fun item => (.index position, item)
  | _ => none

def followAddress? : List String → Json → Option (List Segment)
  | [], _ => some []
  | step :: rest, value =>
    (stepDown? value step).bind fun (s, next) => (followAddress? rest next).map (s :: ·)

def propertyAddress? (value : Json) (path : String) : Option (List Segment) :=
  followAddress? (steps path) value

theorem down?_eq (value : Json) (path step : String) :
    down? value path step = (stepDown? value step).map fun found =>
      (found.2, Path.step path found.1) := by
  cases value with
  | object members => simp [down?, stepDown?, Path.step, Function.comp_def]
  | array items =>
    simp only [down?, stepDown?]
    cases position? step.toList with
    | none => rfl
    | some position => cases hitem : items[position]? <;> simp [hitem, Path.step]
  | _ => rfl

theorem mem_of_member? {members : Json.Members} {key : String} {m : String × Json}
    (h : member? members key = some m) : m ∈ members := by
  rw [member?] at h
  split at h
  · rename_i hfind
    obtain rfl := Option.some.inj h
    exact List.mem_of_find?_eq_some hfind
  · exact List.mem_of_find?_eq_some h

theorem child?_of_stepDown? {value next : Json} {step : String} {s : Segment}
    (hdistinct : value.DistinctKeys) (h : stepDown? value step = some (s, next)) :
    value.child? s = some next := by
  cases value with
  | object members =>
    obtain ⟨m, hm, heq⟩ := Option.map_eq_some_iff.mp h
    obtain ⟨rfl, rfl⟩ := Prod.mk.inj heq
    exact Json.Members.get?_of_mem hdistinct.keys (mem_of_member? hm)
  | array items =>
    obtain ⟨position, -, h⟩ := Option.bind_eq_some_iff.mp h
    obtain ⟨item, hitem, heq⟩ := Option.map_eq_some_iff.mp h
    obtain ⟨rfl, rfl⟩ := Prod.mk.inj heq
    exact hitem
  | _ => simp [stepDown?] at h

/-- A lookup finds the value at the address that it follows, and writes the address down. -/
theorem follow?_eq_some {names : List String} {value found : Json} {path place : String}
    (hdistinct : value.DistinctKeys) (h : follow? names value path = some (found, place)) :
    ∃ a, followAddress? names value = some a ∧ value.at? a = some found ∧
      place = a.foldl step path := by
  induction names generalizing value path with
  | nil =>
    obtain ⟨rfl, rfl⟩ : value = found ∧ path = place := by simpa [follow?] using h
    exact ⟨[], rfl, rfl, rfl⟩
  | cons name rest ih =>
    rw [follow?, down?_eq] at h
    cases hdown : stepDown? value name with
    | none => simp [hdown] at h
    | some below =>
      obtain ⟨s, next⟩ := below
      have hchild := child?_of_stepDown? hdistinct hdown
      simp only [hdown, Option.map_some] at h
      obtain ⟨a, hfollow, ha, hplace⟩ := ih (hdistinct.child hchild) h
      refine ⟨s :: a, ?_, Json.at?_cons_eq_some.mpr ⟨next, hchild, ha⟩, hplace⟩
      simp [followAddress?, hdown, hfollow]

theorem follow?_eq_none {names : List String} {value : Json} {path : String}
    (h : follow? names value path = none) : followAddress? names value = none := by
  induction names generalizing value path with
  | nil => simp [follow?] at h
  | cons name rest ih =>
    rw [follow?, down?_eq] at h
    cases hdown : stepDown? value name with
    | none => simp [followAddress?, hdown]
    | some below =>
      simp only [hdown, Option.map_some] at h
      simp [followAddress?, hdown, ih h]

theorem lookup?_cases {value : Json} (hdistinct : value.DistinctKeys) (path : String) :
    (lookup? value path = none ∧ propertyAddress? value path = none) ∨
      ∃ a found, lookup? value path = some (found, render a) ∧
        propertyAddress? value path = some a ∧ value.at? a = some found := by
  cases h : lookup? value path with
  | none => exact Or.inl ⟨rfl, follow?_eq_none h⟩
  | some below =>
    obtain ⟨found, place⟩ := below
    obtain ⟨a, hfollow, ha, rfl⟩ := follow?_eq_some hdistinct h
    exact Or.inr ⟨a, found, rfl, hfollow, ha⟩

/-! ## Addresses of resources -/

theorem mem_resourceEntries {path : String} {value : Json} {entry : String × Json}
    (hdistinct : value.DistinctKeys) (h : entry ∈ resourceEntries path value) :
    ∃ s, entry.1 = [.key "resources", s].foldl step path ∧
      value.at? [.key "resources", s] = some entry.2 := by
  have hchild : ∀ resources, value.get? "resources" = some resources →
      value.child? (.key "resources") = some resources := by
    intro resources hget
    cases value with
    | object members => exact hget
    | _ => simp [Json.get?] at hget
  rw [resourceEntries] at h
  split at h
  · rename_i items hitems
    obtain ⟨i, hmem, rfl⟩ := List.mem_map.mp h
    refine ⟨.index i.2, rfl, ?_⟩
    refine Json.at?_cons_eq_some.mpr ⟨_, hchild _ hitems, Json.at?_cons_eq_some.mpr ⟨i.1, ?_, rfl⟩⟩
    exact List.mem_zipIdx_iff_getElem?.mp hmem
  · rename_i named hnamed
    obtain ⟨m, hmem, rfl⟩ := List.mem_map.mp h
    have hobject : (Json.object named).DistinctKeys := hdistinct.child (hchild _ hnamed)
    refine ⟨.key m.1, rfl, ?_⟩
    refine Json.at?_cons_eq_some.mpr ⟨_, hchild _ hnamed, Json.at?_cons_eq_some.mpr ⟨m.2, ?_, rfl⟩⟩
    exact Json.Members.get?_of_mem hobject.keys hmem
  · simp at h

theorem everywhere_resourceEntries {P : Json → Prop} {path : String} {value : Json}
    (hdistinct : value.DistinctKeys) (hvalue : value.Everywhere P) :
    ∀ entry ∈ resourceEntries path value, entry.2.Everywhere P := by
  intro entry hentry
  obtain ⟨s, -, hat⟩ := mem_resourceEntries hdistinct hentry
  exact hvalue.at? hat

/-- The path of a resource is its written address. -/
theorem mem_resources {template value : Json} {a : List Segment} {r : String × Json}
    (hdistinct : template.DistinctKeys) (ha : template.at? a = some value)
    (h : r ∈ resources (render a) value) :
    ∃ b, r.1 = render b ∧ template.at? b = some r.2 := by
  rw [resources_eq] at h
  obtain ⟨entry, hentry, hr⟩ := List.mem_flatMap.mp h
  obtain ⟨s, hpath, hvalue⟩ := mem_resourceEntries (hdistinct.at? ha) hentry
  rw [← render_append] at hpath
  have hat : template.at? (a ++ [.key "resources", s]) = some entry.2 := by
    rw [Json.at?_append ha, hvalue]
  rcases List.mem_cons.mp hr with rfl | hbelow
  · exact ⟨_, hpath, hat⟩
  · rw [hpath] at hbelow
    exact mem_resources hdistinct hat hbelow
termination_by sizeOf value
decreasing_by exact sizeOf_resourceEntries hentry

/-! ## What a finding means -/

/-- The object that a check looks at: a resource of the template, or the template itself when the
check is not about resources. -/
def Subject (resourceType : Option String) (template : Json) (a : List Segment) (value : Json) :
    Prop :=
  template.at? a = some value ∧
    match resourceType with
    | none => a = []
    | some _ => (render a, value) ∈ resources "" template

/-- `Means c resourceType template finding a`: the finding is about the node at the address `a`. -/
inductive Means (c : ReadyCheck) (resourceType : Option String) (template : Json) :
    Finding String → List Segment → Prop where
  /-- A violation at the property that a lookup finds. -/
  | property {base a : List Segment} {value found : Json} {path : String}
      {children : List (Finding String)} :
      Subject resourceType template base value → lookup? value c.path = some (found, path) →
      propertyAddress? value c.path = some a → value.at? a = some found →
      Means c resourceType template (.node false (join (render base) path) children) (base ++ a)
  /-- A violation where there is no such property. -/
  | absent {base : List Segment} {value : Json} {children : List (Finding String)} :
      Subject resourceType template base value → lookup? value c.path = none →
      Means c resourceType template (.node false (render base) children) base
  /-- A resource with violations below it only. -/
  | parent {base : List Segment} {value : Json} {children : List (Finding String)} :
      Subject resourceType template base value →
      Means c resourceType template (.node true (render base) children) base

/-- A violation is reported for the property that a lookup finds, else for the subject. -/
theorem means_violationPlace {c : ReadyCheck} {resourceType : Option String} {template value : Json}
    {base : List Segment} (hdistinct : template.DistinctKeys)
    (hsubject : Subject resourceType template base value) (children : List (Finding String)) :
    ∃ a, c.Means resourceType template
      (.node false (c.violationPlace (render base) value) children) a := by
  rcases lookup?_cases (hdistinct.at? hsubject.1) c.path with
    ⟨hnone, -⟩ | ⟨a, found, hsome, haddress, ha⟩
  · refine ⟨base, ?_⟩
    rw [violationPlace, hnone]
    exact .absent hsubject hnone
  · refine ⟨base ++ a, ?_⟩
    rw [violationPlace, hsome]
    exact .property hsubject hsome haddress ha

/-- A finding about one of some resources: a violation by it, or the resource in passing. -/
def About (c : ReadyCheck) (found : List (String × Json)) (node : Finding String) : Prop :=
  ∃ r ∈ found, ∃ children, node = .node true r.1 children ∨
    node = .node false (c.violationPlace r.1 r.2) children

theorem About.mono {c : ReadyCheck} {found others : List (String × Json)} {node : Finding String}
    (h : c.About found node) (hsub : found ⊆ others) : c.About others node := by
  obtain ⟨r, hr, hnode⟩ := h
  exact ⟨r, hsub hr, hnode⟩

/-- A finding of one resource, with the findings nested in it, in front of those of others. -/
theorem about_cons {c : ReadyCheck} {path : String} {resource : Json} {passed : Bool}
    {place : String} {children found : List (Finding String)} {others : List (String × Json)}
    (hhead : c.About [(path, resource)] (.node passed place children))
    (hchildren : ∀ node ∈ Finding.nodesIn children, c.About (resources path resource) node)
    (hfound : ∀ node ∈ Finding.nodesIn found, c.About others node) :
    ∀ node ∈ Finding.nodesIn (.node passed place children :: found),
      c.About ((path, resource) :: resources path resource ++ others) node := by
  intro node hnode
  rcases Finding.mem_nodesIn_cons.mp hnode with rfl | hbelow | hafter
  · exact hhead.mono (by simp)
  · exact (hchildren node hbelow).mono fun r hr =>
      List.mem_append_left _ (List.mem_cons_of_mem _ hr)
  · exact (hfound node hafter).mono (List.subset_append_right _ _)

/-- Every finding that mirrors resources is about one of them or of those nested in them. -/
theorem Mirrors.about {c : ReadyCheck} {type : String} {entries : List (String × Json)}
    {found : List (Finding String)} (h : c.Mirrors type entries found) :
    ∀ node ∈ Finding.nodesIn found,
      c.About (entries.flatMap fun entry => entry :: resources entry.1 entry.2) node := by
  induction h with
  | nil => simp [Finding.nodesIn]
  | silent _ ih =>
    intro node hnode
    rw [List.flatMap_cons]
    exact (ih node hnode).mono (List.subset_append_right _ _)
  | @failing path resource entries children found _ _ _ ihchildren ihfound =>
    rw [← resources_eq] at ihchildren
    exact about_cons ⟨_, List.mem_cons_self, children, Or.inr rfl⟩ ihchildren ihfound
  | @passing path resource entries children found _ _ _ ihchildren ihfound =>
    rw [← resources_eq] at ihchildren
    exact about_cons ⟨_, List.mem_cons_self, children, Or.inl rfl⟩ ihchildren ihfound

/-- Every finding of a check means a node of the template. -/
theorem exists_means {c : ReadyCheck} {resourceType : Option String} {template : Json}
    (hdistinct : template.DistinctKeys) :
    ∀ node ∈ Finding.nodesIn (c.findings resourceType template),
      ∃ a, c.Means resourceType template node a := by
  intro node hnode
  cases resourceType with
  | none =>
    have hsubject : Subject none template [] template := ⟨rfl, rfl⟩
    rw [findings, violation?_eq] at hnode
    split at hnode
    · simp [Finding.nodesIn] at hnode
    · obtain rfl : node = .node false (c.violationPlace "" template) [] := by
        simpa [Finding.nodesIn, Finding.nodes] using hnode
      exact means_violationPlace hdistinct hsubject []
  | some type =>
    have habout := (c.mirrors_visit type "" template).about node hnode
    rw [← resources_eq] at habout
    obtain ⟨⟨path, value⟩, hr, children, hnode⟩ := habout
    obtain ⟨base, rfl, hbase⟩ := mem_resources hdistinct (a := []) rfl hr
    have hsubject : Subject (some type) template base value := ⟨hbase, hr⟩
    rcases hnode with rfl | rfl
    · exact ⟨base, .parent hsubject⟩
    · exact means_violationPlace hdistinct hsubject children

/-- A reported place is written with the keys of the template: the path of a subject, with the path
of the property under it where there is one. -/
theorem Means.place_eq {c : ReadyCheck} {resourceType : Option String} {template : Json}
    {node : Finding String} {a : List Segment} (h : c.Means resourceType template node a)
    (hdistinct : template.DistinctKeys) :
    ∃ base below target, a = base ++ below ∧ template.at? a = some target ∧
      (node.place = join (render base) (render below) ∨
        below = [] ∧ node.place = render base) := by
  cases h with
  | @property base a value found path children hsubject hlookup haddress ha =>
    have hat : template.at? (base ++ a) = some found := by
      rw [Json.at?_append hsubject.1, ha]
    have hpath : path = render a := by
      rcases lookup?_cases (hdistinct.at? hsubject.1) c.path with
        ⟨hnone, -⟩ | ⟨b, _, hsome, hb, -⟩
      · simp [hnone] at hlookup
      · obtain ⟨-, rfl⟩ := Prod.mk.inj (Option.some.inj (hsome.symm.trans hlookup))
        rw [Option.some.inj (hb.symm.trans haddress)]
    rw [hpath]
    exact ⟨base, a, found, rfl, hat, Or.inl rfl⟩
  | absent hsubject hlookup =>
    exact ⟨_, [], _, (List.append_nil _).symm, hsubject.1, Or.inr ⟨rfl, rfl⟩⟩
  | parent hsubject =>
    exact ⟨_, [], _, (List.append_nil _).symm, hsubject.1, Or.inr ⟨rfl, rfl⟩⟩

/-- A reported place is read as the address of the node that it means. -/
theorem Means.parse {c : ReadyCheck} {resourceType : Option String} {template : Json}
    {node : Finding String} {a : List Segment} (h : c.Means resourceType template node a)
    (hsafe : template.PathSafe) (hfit : template.Addressable) :
    (∃ target, template.at? a = some target) ∧
      parse? node.place = some (a.map Segment.canonical) := by
  obtain ⟨base, below, target, rfl, hat, hplace⟩ := h.place_eq hsafe.distinctKeys
  refine ⟨⟨target, hat⟩, ?_⟩
  have hplain := Json.plain_of_at? hsafe hfit hat
  rcases hplace with hjoin | ⟨rfl, hbase⟩
  · rw [List.forall_mem_append] at hplain
    rw [hjoin]
    exact parse?_join_render hplain.1 hplain.2
  · rw [hbase, List.append_nil]
    rw [List.append_nil] at hplain
    exact parse?_render hplain

end TemplateAudit.ReadyCheck

namespace TemplateAudit.DeclarativeEngine

set_option autoImplicit false

open Json LineIndex

/-- Every place that the engine reports on a safe template resolves to the line of the node that it
means: in the pretty layout of the template, and in a text with safe keys that it was read from,
unless an array has more items than the scan of a text can count. -/
theorem evaluate_places_resolve (e : DeclarativeEngine) (rule : Rule) (template : Template)
    (found : List (Finding String)) (hsafe : template.expanded.PathSafe)
    (hfit : template.expanded.Addressable) (hfound : e.evaluate rule template = .ok found) :
    ∃ check, e.ready rule = .ok check ∧ ∀ node ∈ Finding.nodesIn found,
      ∃ a, check.Means rule.resourceType template.expanded node a ∧
        Locates (LineIndex.ofValue template.expanded) node.place
          template.expanded.pretty.toList a ∧
        ∀ text, template.text = some text → Json.read? text = some template.expanded →
          SafeText text → template.expanded.longest ≤ itemLimit →
            Locates template.lineIndex node.place text.toList a := by
  rw [evaluate] at hfound
  split at hfound
  · rename_i check hready
    obtain rfl := Except.ok.inj hfound
    refine ⟨check, hready, ?_⟩
    intro node hnode
    obtain ⟨a, hmeans⟩ := ReadyCheck.exists_means hsafe.distinctKeys node hnode
    obtain ⟨⟨target, ha⟩, hparse⟩ := hmeans.parse hsafe hfit
    refine ⟨a, hmeans, locates_pretty hsafe ha hparse, ?_⟩
    intro text htext hread hsafeText hlong
    exact locates_text htext hread hsafeText hlong ha hparse
  · simp at hfound

/-- A property of a resource, found in another case and located in a text of another layout. -/
theorem evaluate_places_resolve_property :
    let rule : Rule := {
      id := "R", name := "", description := "", helpUri := "", recommendation := "",
      severity := .info, category := .general, resourceType := some "S",
      check := ⟨"https", .present false, none⟩ }
    let resource : Json := .object [("type", .string "S"), ("Https", .null)]
    let template : Template := {
      expanded := .object [("resources", .array [resource])],
      text := some "\x7b\"resources\":[\n\x7b\"type\":\"S\",\"Https\":null\x7d]\x7d" }
    ∃ found, ({} : DeclarativeEngine).evaluate rule template = .ok found ∧
      Finding.failuresIn found = ["resources[0].Https"] ∧
      ∀ node ∈ Finding.nodesIn found, ∃ a text, template.text = some text ∧
        Locates (LineIndex.ofValue template.expanded) node.place
          template.expanded.pretty.toList a ∧
        Locates template.lineIndex node.place text.toList a := by
  intro rule resource template
  have hnodes : ∀ {P : Json → Prop}, P template.expanded → P (.array [resource]) → P resource →
      P (.string "S") → P .null → template.expanded.Everywhere P := by
    intro P hroot harray hresource hstring hnull
    have hinner : resource.Everywhere P := by
      refine everywhere_object hresource ?_
      simp [everywhere_scalar hstring fun _ => rfl, everywhere_scalar hnull fun _ => rfl]
    refine everywhere_object hroot ?_
    simp [everywhere_array harray (by simpa using hinner)]
  have hsafe : template.expanded.PathSafe :=
    hnodes (by decide +kernel : SafeKeys ["resources"]) trivial
      (by decide +kernel : SafeKeys ["type", "Https"]) trivial trivial
  have hfit : template.expanded.Addressable :=
    hnodes trivial (by decide : [resource].length ≤ UInt64.size) trivial trivial trivial
  have hwritten : Written.read?
      "\x7b\"resources\":[\n\x7b\"type\":\"S\",\"Https\":null\x7d]\x7d".toList =
        some (.object [("resources".toList.map .char, .array [.object
          [("type".toList.map .char, .string [.char 'S']), ("Https".toList.map .char, .null)]])]) := by
    simp [Written.read?, Written.value?, Written.items?, Written.members?, Written.skipBlanks,
      Written.stringUnits?, Text.isJsonBlank]
  have hread : Json.read? "\x7b\"resources\":[\n\x7b\"type\":\"S\",\"Https\":null\x7d]\x7d" =
      some template.expanded := by
    rw [Json.read?, hwritten]
    simp [template, resource, Written.toJson?, Written.itemsToJson?, Written.membersToJson?,
      decodeString?, decodeUnits?, Members.ofList, Members.set]
  have hsafeText : SafeText
      "\x7b\"resources\":[\n\x7b\"type\":\"S\",\"Https\":null\x7d]\x7d" := by
    intro written hread
    obtain rfl := Option.some.inj (hwritten.symm.trans hread)
    simp only [Written.HasSafeKeys, Written.ItemsSafe, Written.MembersSafe, and_true]
    decide +kernel
  obtain ⟨check, hready, hplaces⟩ :=
    evaluate_places_resolve {} rule template _ hsafe hfit rfl
  refine ⟨_, rfl, by decide +kernel, ?_⟩
  intro node hnode
  obtain ⟨a, -, hpretty, htext⟩ := hplaces node hnode
  exact ⟨a, _, rfl, hpretty, htext _ rfl hread hsafeText (by decide +kernel)⟩

end TemplateAudit.DeclarativeEngine
