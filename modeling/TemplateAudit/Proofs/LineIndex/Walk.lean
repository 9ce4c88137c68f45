import TemplateAudit.Proofs.Json.KeyCase
import TemplateAudit.Proofs.LineIndex.Nodes
import TemplateAudit.Proofs.LineIndex.Resolution

/-!
# Walking along a path

Steps that do not all exist still lead somewhere: to the last node that is reached by following them
from the root, keys up to lower case. In the index of a safe value, which has one entry for each
node, a path resolves to the line of that node, and it has a line of its own exactly when the whole walk
succeeds. The index knows paths by their written form only; that shorter and shorter written forms
hit the nodes of the walk and nothing else rests on written forms of different nodes being
different.
-/

namespace TemplateAudit

set_option autoImplicit false

open TemplateAudit.Path

/-- Steps as the paths of safe values have them: they can be read back from a path, and stay so in
lower case. -/
def Path.Segment.Safe (s : Segment) : Prop :=
  s.Plain ∧ s.canonical.Named

namespace Json

mutual

def nodeCount : Json → Nat
  | .array items => itemsNodeCount items + 1
  | .object members => membersNodeCount members + 1
  | _ => 1

def itemsNodeCount : List Json → Nat
  | [] => 0
  | item :: rest => nodeCount item + itemsNodeCount rest

def membersNodeCount : List (String × Json) → Nat
  | [] => 0
  | (_, value) :: rest => nodeCount value + membersNodeCount rest

end

/-- The child that a step means, with the step as the value has it: a member whose key is the same
in lower case, or the item at a position. -/
def meant? : Json → Segment → Option (Segment × Json)
  | .object members, .key name =>
    (members.find? fun m => Text.lowercase m.1 == Text.lowercase name).map fun m => (.key m.1, m.2)
  | .array items, .index position => items[position]?.map fun item => (.index position, item)
  | _, _ => none

/-- The address of the last node that is reached by following steps for as long as they exist. -/
def walk : Json → List Segment → List Segment
  | _, [] => []
  | value, s :: rest =>
    match value.meant? s with
    | some (taken, next) => taken :: walk next rest
    | none => []

theorem child?_of_meant? {value next : Json} {s taken : Segment} (hdistinct : value.DistinctKeys)
    (h : value.meant? s = some (taken, next)) :
    value.child? taken = some next ∧ taken.canonical = s.canonical := by
  cases value with
  | object members =>
    cases s with
    | index position => simp [meant?] at h
    | key name =>
      obtain ⟨m, hfind, heq⟩ := Option.map_eq_some_iff.mp h
      obtain ⟨rfl, rfl⟩ := Prod.mk.inj heq
      have hlower : Text.lowercase m.1 = Text.lowercase name := by
        simpa using List.find?_some hfind
      refine ⟨Members.get?_of_mem hdistinct.keys (List.mem_of_find?_eq_some hfind), ?_⟩
      rw [Segment.canonical, Segment.canonical, hlower]
  | array items =>
    cases s with
    | key name => simp [meant?] at h
    | index position =>
      obtain ⟨item, hitem, heq⟩ := Option.map_eq_some_iff.mp h
      obtain ⟨rfl, rfl⟩ := Prod.mk.inj heq
      exact ⟨hitem, rfl⟩
  | _ => simp [meant?] at h

/-- In a safe value a step that agrees with that of a child means this child. -/
theorem meant?_of_child? {value next : Json} {s t : Segment} (hsafe : value.PathSafe)
    (hs : value.child? s = some next) (hst : s.canonical = t.canonical) :
    value.meant? t = some (s, next) := by
  cases value with
  | object members =>
    cases s with
    | index position => simp [child?] at hs
    | key name =>
      cases t with
      | index position => simp [Segment.canonical] at hst
      | key other =>
        have hlower : Text.lowercase name = Text.lowercase other := by
          simpa [Segment.canonical] using hst
        have hunique : ∀ m ∈ members, ∀ n ∈ members,
            (Text.lowercase m.1 == Text.lowercase other) = true →
            (Text.lowercase n.1 == Text.lowercase other) = true → m = n := by
          intro m hm n hn hmother hnother
          rw [beq_iff_eq] at hmother hnother
          have hkeys := hsafe.keys
          have hkey : m.1 = n.1 := hkeys.eq_of_lowercase (List.mem_map.mpr ⟨m, hm, rfl⟩)
            (List.mem_map.mpr ⟨n, hn, rfl⟩) (hmother.trans hnother.symm)
          exact List.inj_on_of_nodup_map hkeys.nodup hm hn hkey
        have hfind := (find?_eq_some_iff_of_unique hunique).mpr
          ⟨Members.mem_of_get? hs, beq_iff_eq.mpr hlower⟩
        rw [meant?, hfind, Option.map_some]
  | array items =>
    cases s with
    | key name => simp [child?] at hs
    | index position =>
      obtain rfl : t = .index position := by
        cases t with
        | key name => simp [Segment.canonical] at hst
        | index other => exact hst.symm
      have hitem : items[position]? = some next := hs
      rw [meant?, hitem, Option.map_some]
  | _ => simp [child?] at hs

theorem at?_walk {value : Json} (hdistinct : value.DistinctKeys) (steps : List Segment) :
    (∃ node, value.at? (value.walk steps) = some node) ∧
      (value.walk steps).map Segment.canonical <+: steps.map Segment.canonical := by
  induction steps generalizing value with
  | nil => exact ⟨⟨value, rfl⟩, List.prefix_rfl⟩
  | cons s rest ih =>
    rw [walk]
    split
    · rename_i taken next hmeant
      obtain ⟨hchild, hcanonical⟩ := child?_of_meant? hdistinct hmeant
      obtain ⟨⟨node, hnode⟩, htaken⟩ := ih (hdistinct.child hchild)
      refine ⟨⟨node, at?_cons_eq_some.mpr ⟨next, hchild, hnode⟩⟩, ?_⟩
      rw [List.map_cons, List.map_cons, hcanonical, List.cons_prefix_cons]
      exact ⟨rfl, htaken⟩
    · exact ⟨⟨value, rfl⟩, List.nil_prefix⟩

theorem length_le_walk {value node : Json} (hsafe : value.PathSafe) {b steps : List Segment}
    (hb : value.at? b = some node)
    (h : b.map Segment.canonical <+: steps.map Segment.canonical) :
    b.length ≤ (value.walk steps).length := by
  induction b generalizing value steps with
  | nil => exact Nat.zero_le _
  | cons s b ih =>
    cases steps with
    | nil => simp at h
    | cons t rest =>
      rw [List.map_cons, List.map_cons, List.cons_prefix_cons] at h
      obtain ⟨next, hnext, hrest⟩ := at?_cons_eq_some.mp hb
      have hbound := ih (hsafe.child hnext) hrest h.2
      rw [walk, meant?_of_child? hsafe hnext h.1, List.length_cons, List.length_cons]
      omega

end Json

namespace LineIndex

open Json

/-! ## Outlines of values -/

namespace Outline

mutual

theorem length_descents_ofValue (line : Nat) : ∀ value : Json,
    (Outline.ofValue line value).descents.length + 1 = value.nodeCount
  | .null => by simp [Outline.ofValue, descents, nodeCount]
  | .bool _ => by simp [Outline.ofValue, descents, nodeCount]
  | .number _ => by simp [Outline.ofValue, descents, nodeCount]
  | .string _ => by simp [Outline.ofValue, descents, nodeCount]
  | .array items => by
    rw [Outline.ofValue, descents, nodeCount, length_itemDescents_ofItems line 0 items]
  | .object members => by
    rw [Outline.ofValue, descents, nodeCount, length_memberDescents_ofMembers line members]

theorem length_itemDescents_ofItems (line position : Nat) : ∀ items : List Json,
    (itemDescents position (Outline.ofItems line items)).length = itemsNodeCount items
  | [] => by simp [Outline.ofItems, itemDescents, itemsNodeCount]
  | item :: rest => by
    have hitem := length_descents_ofValue (line + 1) item
    have hrest := length_itemDescents_ofItems (line + 1 + item.breaks) (position + 1) rest
    simp only [Outline.ofItems, itemDescents, itemsNodeCount, behind, List.length_append,
      List.length_cons, List.length_map]
    omega

theorem length_memberDescents_ofMembers (line : Nat) : ∀ members : List (String × Json),
    (memberDescents (Outline.ofMembers line members)).length = membersNodeCount members
  | [] => by simp [Outline.ofMembers, memberDescents, membersNodeCount]
  | (key, value) :: rest => by
    have hvalue := length_descents_ofValue (line + 1) value
    have hrest := length_memberDescents_ofMembers (line + 1 + value.breaks) rest
    simp only [Outline.ofMembers, memberDescents, membersNodeCount, behind, List.length_append,
      List.length_cons, List.length_map]
    omega

end

theorem getElem?_ofItems {line position : Nat} {items : List Json} {node : Outline}
    (h : (Outline.ofItems line items)[position]? = some node) :
    ∃ start item, items[position]? = some item ∧ node = Outline.ofValue start item := by
  induction items generalizing line position with
  | nil => simp [Outline.ofItems] at h
  | cons item rest ih =>
    rw [Outline.ofItems] at h
    cases position with
    | zero =>
      obtain rfl := Option.some.inj h
      exact ⟨line + 1, item, rfl, rfl⟩
    | succ position => exact ih (by simpa using h)

theorem mem_ofMembers {line : Nat} {members : Members} {key : String} {node : Outline}
    (h : (key, node) ∈ Outline.ofMembers line members) :
    ∃ start value, (key, value) ∈ members ∧ node = Outline.ofValue start value := by
  induction members generalizing line with
  | nil => simp [Outline.ofMembers] at h
  | cons m rest ih =>
    rw [Outline.ofMembers] at h
    rcases List.mem_cons.mp h with heq | hrest
    · obtain ⟨rfl, rfl⟩ := Prod.mk.inj heq
      exact ⟨line + 1, m.2, List.mem_cons_self, rfl⟩
    · obtain ⟨start, value, hmem, hnode⟩ := ih hrest
      exact ⟨start, value, List.mem_cons_of_mem m hmem, hnode⟩

theorem child?_ofValue {line : Nat} {value : Json} {s : Segment} {node : Outline}
    (hdistinct : value.DistinctKeys) (h : (Outline.ofValue line value).child? s = some node) :
    ∃ start next, value.child? s = some next ∧ node = Outline.ofValue start next := by
  cases value with
  | array items =>
    rw [Outline.ofValue] at h
    cases s with
    | key name => simp [child?] at h
    | index position => exact getElem?_ofItems h
  | object members =>
    rw [Outline.ofValue] at h
    cases s with
    | index position => simp [child?] at h
    | key name =>
      obtain ⟨start, next, hmem, hnode⟩ := mem_ofMembers (mem_of_memberAt? h)
      exact ⟨start, next, Members.get?_of_mem hdistinct.keys hmem, hnode⟩
  | _ => simp [Outline.ofValue, child?] at h

/-- The outline of a value has no nodes besides those of the value. -/
theorem at?_ofValue {line : Nat} {value : Json} {b : List Segment} {node : Outline}
    (hdistinct : value.DistinctKeys) (h : (Outline.ofValue line value).at? b = some node) :
    ∃ found, value.at? b = some found := by
  induction b generalizing line value with
  | nil => exact ⟨value, rfl⟩
  | cons s b ih =>
    obtain ⟨next, hnext, hrest⟩ := at?_cons_eq_some.mp h
    obtain ⟨start, child, hchild, rfl⟩ := child?_ofValue hdistinct hnext
    obtain ⟨found, hfound⟩ := ih (hdistinct.child hchild) hrest
    exact ⟨found, Json.at?_cons_eq_some.mpr ⟨child, hchild, hfound⟩⟩

end Outline

/-! ## Lines along a walk -/

section Walk
variable {value : Json} {steps : List Segment} (hsafe : value.PathSafe)
  (hsteps : ∀ s ∈ steps, s.Safe)
include hsafe hsteps

/-- Beyond the end of a walk no initial part of the steps has an entry. -/
theorem line?_beyond_walk {k : Nat} (hbeyond : (value.walk steps).length < k)
    (hk : k ≤ steps.length) :
    (LineIndex.ofValue value).line? ((steps.map Segment.canonical).take k) = none := by
  have hpath := (located_ofValue 1 value hsafe).2
  have hnamed : ∀ s ∈ (steps.map Segment.canonical).take k, s.Named := by
    intro s hs
    obtain ⟨t, ht, rfl⟩ := List.mem_map.mp (List.mem_of_mem_take hs)
    exact (hsteps t ht).2
  have hlength : ((steps.map Segment.canonical).take k).length = k := by
    rw [List.length_take, List.length_map]
    omega
  by_contra hsome
  obtain ⟨line, hline⟩ := Option.ne_none_iff_exists'.mp hsome
  rw [ofValue_eq_ofEntries] at hline
  rcases Outline.exists_descent hline with hempty | ⟨a, ha, hrender⟩
  · refine render_ne_empty hnamed ?_ hempty
    intro hnil
    rw [hnil] at hlength
    simp at hlength
    omega
  · -- The entry is that of a node, whose address the walk could have followed further.
    obtain rfl := render_injective (Outline.named_of_mem_descents hpath ha) hnamed hrender
    obtain ⟨b, node, hb, hcanonical⟩ := Outline.at?_of_mem_descents hpath ha
    obtain ⟨found, hfound⟩ := Outline.at?_ofValue hsafe.distinctKeys hb
    have hbound := length_le_walk hsafe hfound (hcanonical ▸ List.take_prefix k _)
    rw [← hcanonical, List.length_map] at hlength
    omega

/-- Steps resolve to the line of the node at the end of their walk, and have it as their own when
the walk took them all. -/
theorem lines_of_walk : ∃ line,
    (Outline.ofValue 1 value).lineAt? (value.walk steps) = some line ∧
      (LineIndex.ofValue value).nearestLine (steps.map Segment.canonical).reverse =
        UInt32.ofNat line ∧
      (LineIndex.ofValue value).line? (steps.map Segment.canonical) =
        if (value.walk steps).length = steps.length then some (UInt32.ofNat line) else none := by
  obtain ⟨hcovers, hpath⟩ := located_ofValue 1 value hsafe
  obtain ⟨⟨found, hfound⟩, htaken⟩ := at?_walk hsafe.distinctKeys steps
  obtain ⟨node, hnode⟩ := hcovers _ found hfound
  have hlength : (value.walk steps).length ≤ steps.length := by simpa using htaken.length_le
  have htake := List.prefix_iff_eq_take.mp htaken
  have hhit : (LineIndex.ofValue value).line?
      ((steps.map Segment.canonical).take (value.walk steps).length) =
        some (UInt32.ofNat node.line) := by
    rw [List.length_map] at htake
    rw [← htake, ofValue_eq_ofEntries]
    exact Outline.line?_of_at? hpath (line_ofValue 1 value) hnode
  refine ⟨node.line, ?_, ?_, ?_⟩
  · rw [Outline.lineAt?, hnode, Option.map_some]
  · apply nearestLine_of_take (n := (value.walk steps).length) (by simpa using hlength) hhit
    intro k hbeyond hk
    exact line?_beyond_walk hsafe hsteps hbeyond (by simpa using hk)
  · have hall : (steps.map Segment.canonical).take steps.length = steps.map Segment.canonical :=
      List.take_of_length_le (by simp)
    split
    · rename_i hcomplete
      rwa [hcomplete, hall] at hhit
    · rename_i hshort
      have hnone := line?_beyond_walk hsafe hsteps (k := steps.length) (by omega) (Nat.le_refl _)
      rwa [hall] at hnone

end Walk

/-- The index of a safe value has one entry for each node. A path, with or without the mark of the
root, resolves to the line, in 32 bits, on which the last node on its way starts in the pretty
layout, and has this line as its own exactly when all of its steps exist. A path that cannot be read
resolves to the first line. -/
theorem ofValue_resolves_walk (value : Json) (hsafe : value.PathSafe) :
    (LineIndex.ofValue value).size = value.nodeCount ∧
    (∃ limit outline, Document limit value.pretty.toList outline ∧
      ∀ steps : List Segment, (∀ s ∈ steps, s.Safe) →
        ∀ path ∈ [render steps, "$." ++ render steps],
          (outline.lineAt? (value.walk steps)).map UInt32.ofNat =
            some ((LineIndex.ofValue value).resolve path) ∧
          (LineIndex.ofValue value).exactLine? path =
            if (value.walk steps).length = steps.length
              then some ((LineIndex.ofValue value).resolve path) else none) ∧
    ∀ path, parse? path = none → (LineIndex.ofValue value).resolve path = firstLine := by
  refine ⟨?_, ⟨value.nesting, Outline.ofValue 1 value, document_pretty (Nat.le_refl _), ?_⟩, ?_⟩
  · rw [ofValue_eq_ofEntries, Outline.size_index (located_ofValue 1 value hsafe).2,
      Outline.length_descents_ofValue]
  · intro steps hsteps path hpath
    have hplain : ∀ s ∈ steps, s.Plain := fun s hs => (hsteps s hs).1
    have hparse : parse? path = some (steps.map Segment.canonical) := by
      rcases List.mem_pair.mp hpath with rfl | rfl
      · exact parse?_render hplain
      · exact parse?_rooted_render hplain
    obtain ⟨line, hline, hnearest, hown⟩ := lines_of_walk hsafe hsteps
    have hresolve : (LineIndex.ofValue value).resolve path = UInt32.ofNat line := by
      rw [resolve, hparse]
      exact hnearest
    rw [hresolve, exactLine?, hparse, hline]
    exact ⟨rfl, hown⟩
  · intro path hunreadable
    rw [resolve, hunreadable]

/-- A path in another case whose last step does not exist, and one with a letter for a position. -/
theorem ofValue_resolves_walk_missing_member :
    let value : Json := .object [("A", .array [.null, .object [("b", .bool true)]])]
    value.PathSafe ∧ (LineIndex.ofValue value).size = 5 ∧
    (∃ limit outline, Document limit value.pretty.toList outline ∧
      (outline.lineAt? [.key "A", .index 1]).map UInt32.ofNat =
        some ((LineIndex.ofValue value).resolve "$.a[1].C")) ∧
    (LineIndex.ofValue value).exactLine? "$.a[1].C" = none ∧
    (LineIndex.ofValue value).resolve "a[x]" = firstLine := by
  intro value
  have hsafe : value.PathSafe := by
    have hinner : (Json.object [("b", .bool true)]).PathSafe := by
      refine everywhere_object (by decide +kernel : SafeKeys ["b"]) ?_
      simpa using everywhere_scalar trivial fun _ => rfl
    refine everywhere_object (by decide +kernel : SafeKeys ["A"]) ?_
    rw [List.forall_mem_singleton]
    refine everywhere_array trivial (List.forall_mem_cons.mpr ⟨?_, ?_⟩)
    · exact everywhere_scalar trivial fun _ => rfl
    · rw [List.forall_mem_singleton]
      exact hinner
  have hsteps : ∀ s ∈ [Segment.key "a", .index 1, .key "C"], s.Safe := by
    simp only [List.mem_cons, List.not_mem_nil, or_false, forall_eq_or_imp, forall_eq]
    exact ⟨⟨(by decide +kernel : PlainName "a"), (by decide +kernel : PlainName "a")⟩,
      ⟨(by decide : 1 < UInt64.size), trivial⟩,
      ⟨(by decide +kernel : PlainName "C"), (by decide +kernel : PlainName "c")⟩⟩
  have hpath : "$.a[1].C" ∈ [render [.key "a", .index 1, .key "C"],
      "$." ++ render [.key "a", .index 1, .key "C"]] := by decide +kernel
  have hwalk : value.walk [.key "a", .index 1, .key "C"] = [.key "A", .index 1] := by
    decide +kernel
  obtain ⟨hsize, ⟨limit, outline, hdocument, hwalks⟩, hunreadable⟩ :=
    ofValue_resolves_walk value hsafe
  obtain ⟨hline, hown⟩ := hwalks _ hsteps _ hpath
  rw [hwalk] at hline hown
  exact ⟨hsafe, hsize.trans (by decide), ⟨limit, outline, hdocument, hline⟩, hown,
    hunreadable "a[x]" (by decide +kernel)⟩

end LineIndex

end TemplateAudit
