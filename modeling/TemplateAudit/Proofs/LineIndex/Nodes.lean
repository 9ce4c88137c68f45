import Mathlib.Data.List.Nodup
import TemplateAudit.Proofs.LineIndex.Outline

/-!
# Nodes and entries

Every entry of an index is the written form of the steps to a node, whatever the keys are, so that a
path can be looked up by comparing it with the steps below the root. With safe keys no two nodes are
written alike, and an index has exactly one entry for each node. A path without an entry is given
the line of its longest initial part that has one.
-/

namespace TemplateAudit.LineIndex

set_option autoImplicit false

open TemplateAudit.Path

/-- The steps to a node behind `s` and to the nodes below it. -/
def behind (s : Segment) (below : List (List Segment)) : List (List Segment) :=
  [s] :: below.map (s :: ·)

theorem mem_behind {s : Segment} {below : List (List Segment)} {a : List Segment} :
    a ∈ behind s below ↔ ∃ b, a = s :: b ∧ (b = [] ∨ b ∈ below) := by
  rw [behind, List.mem_cons, List.mem_map]
  constructor
  · rintro (rfl | ⟨b, hb, rfl⟩)
    · exact ⟨[], rfl, Or.inl rfl⟩
    · exact ⟨b, rfl, Or.inr hb⟩
  · rintro ⟨b, rfl, rfl | hb⟩
    · exact Or.inl rfl
    · exact Or.inr ⟨b, hb, rfl⟩

theorem nodup_behind {s : Segment} {below : List (List Segment)} (hnil : [] ∉ below)
    (h : below.Nodup) : (behind s below).Nodup := by
  rw [behind, List.nodup_cons]
  refine ⟨?_, h.map fun a b hab => (List.cons.inj hab).2⟩
  intro hmem
  obtain ⟨b, hb, heq⟩ := List.mem_map.mp hmem
  obtain rfl : b = [] := (List.cons.inj heq).2
  exact hnil hb

theorem disjoint_behind {s : Segment} {below others : List (List Segment)}
    (h : ∀ b, s :: b ∉ others) : (behind s below).Disjoint others := by
  intro a ha hother
  obtain ⟨b, rfl, -⟩ := mem_behind.mp ha
  exact h b hother

namespace Outline

mutual

/-- The canonical steps to the nodes below a node, in document order. -/
def descents : Outline → List (List Segment)
  | .leaf _ => []
  | .array _ items => itemDescents 0 items
  | .object _ members => memberDescents members

def itemDescents (position : Nat) : List Outline → List (List Segment)
  | [] => []
  | item :: rest => behind (.index position) (descents item) ++ itemDescents (position + 1) rest

def memberDescents : List (String × Outline) → List (List Segment)
  | [] => []
  | (key, value) :: rest =>
    behind (.key (Text.lowercase key)) (descents value) ++ memberDescents rest

end

section Written
variable (itemPath : ItemPath)

mutual

/-- Entries are kept under the written forms of the steps to their nodes. -/
theorem paths_entries (path : String) : ∀ o : Outline,
    (o.entries itemPath path).map Prod.fst = o.descents.map (List.foldl (stepBy itemPath) path)
  | .leaf _ => by simp only [entries, descents, List.map_nil]
  | .array _ items => by
    simp only [entries, descents]
    exact paths_itemEntries path 0 items
  | .object _ members => by
    simp only [entries, descents]
    exact paths_memberEntries path members

theorem paths_itemEntries (path : String) (position : Nat) : ∀ items : List Outline,
    (itemEntries itemPath path position items).map Prod.fst =
      (itemDescents position items).map (List.foldl (stepBy itemPath) path)
  | [] => by simp only [itemEntries, itemDescents, List.map_nil]
  | item :: rest => by
    have hitem := paths_entries (itemPath path position) item
    have hrest := paths_itemEntries path (position + 1) rest
    simp [itemEntries, itemDescents, behind, hitem, hrest, stepBy, Function.comp_def]

theorem paths_memberEntries (path : String) : ∀ members : List (String × Outline),
    (memberEntries itemPath path members).map Prod.fst =
      (memberDescents members).map (List.foldl (stepBy itemPath) path)
  | [] => by simp only [memberEntries, memberDescents, List.map_nil]
  | (key, value) :: rest => by
    have hvalue := paths_entries (Path.member path key) value
    have hrest := paths_memberEntries path rest
    have hstep : stepBy itemPath path (.key (Text.lowercase key)) = Path.member path key := rfl
    simp [memberEntries, memberDescents, behind, hvalue, hrest, hstep, Function.comp_def]

end

theorem exists_descent_of_mem {o : Outline} {path : String} {e : Entry}
    (he : e ∈ o.entries itemPath path) :
    ∃ a ∈ o.descents, a.foldl (stepBy itemPath) path = e.1 := by
  have hwritten : e.1 ∈ o.descents.map (List.foldl (stepBy itemPath) path) := by
    rw [← paths_entries]
    exact List.mem_map.mpr ⟨e, he, rfl⟩
  exact List.mem_map.mp hwritten

end Written

/-- Where positions are written as they are, entries are kept under the canonical paths. -/
theorem renders_entries (o : Outline) :
    (o.entries Path.item "").map Prod.fst = o.descents.map render := by
  rw [paths_entries, stepBy_item]
  rfl

theorem mem_itemDescents {position : Nat} {items : List Outline} {a : List Segment} :
    a ∈ itemDescents position items ↔ ∃ i node, items[i]? = some node ∧
      a ∈ behind (.index (position + i)) node.descents :=
  mem_numbered itemDescents (fun position item => behind (.index position) item.descents)
    (fun _ => by rw [itemDescents]) (fun _ _ _ => by rw [itemDescents])

theorem mem_memberDescents {members : List (String × Outline)} {a : List Segment} :
    a ∈ memberDescents members ↔ ∃ key node, (key, node) ∈ members ∧
      a ∈ behind (.key (Text.lowercase key)) node.descents := by
  rw [mem_joined memberDescents (fun m => behind (.key (Text.lowercase m.1)) m.2.descents)
    (by rw [memberDescents]) (fun _ _ => by rw [memberDescents]), Prod.exists]

def firstSteps : Outline → List Segment
  | .leaf _ => []
  | .array _ items => (List.range items.length).map .index
  | .object _ members => members.map fun m => .key (Text.lowercase m.1)

theorem exists_firstStep {o : Outline} {a : List Segment} (h : a ∈ o.descents) :
    ∃ s ∈ o.firstSteps, ∃ b, a = s :: b := by
  cases o with
  | leaf line => simp [descents] at h
  | array line items =>
    rw [descents, mem_itemDescents] at h
    obtain ⟨i, node, hnode, ha⟩ := h
    obtain ⟨b, rfl, -⟩ := mem_behind.mp ha
    obtain ⟨hi, -⟩ := List.getElem?_eq_some_iff.mp hnode
    rw [Nat.zero_add]
    exact ⟨_, List.mem_map.mpr ⟨i, List.mem_range.mpr hi, rfl⟩, b, rfl⟩
  | object line members =>
    rw [descents, mem_memberDescents] at h
    obtain ⟨key, node, hmem, ha⟩ := h
    obtain ⟨b, rfl, -⟩ := mem_behind.mp ha
    exact ⟨_, List.mem_map.mpr ⟨_, hmem, rfl⟩, b, rfl⟩

theorem nil_not_mem_descents (o : Outline) : [] ∉ o.descents := by
  intro h
  obtain ⟨s, -, b, hcons⟩ := exists_firstStep h
  simp at hcons

/-! ## Safe keys -/

theorem at?_of_mem_descents {o : Outline} (hsafe : o.PathSafe) {a : List Segment}
    (h : a ∈ o.descents) : ∃ b node, o.at? b = some node ∧ b.map Segment.canonical = a := by
  induction o using child_induction generalizing a with
  | step o ih =>
    have hchild : ∃ s next, o.child? s = some next ∧ a ∈ behind s.canonical next.descents := by
      cases o with
      | leaf line => simp [descents] at h
      | array line items =>
        rw [descents, mem_itemDescents] at h
        obtain ⟨i, node, hnode, ha⟩ := h
        rw [Nat.zero_add] at ha
        exact ⟨.index i, node, hnode, ha⟩
      | object line members =>
        rw [descents, mem_memberDescents] at h
        obtain ⟨key, node, hmem, ha⟩ := h
        exact ⟨.key key, node, memberAt?_of_mem (hsafe [] line members rfl).nodup hmem, ha⟩
    obtain ⟨s, next, hnext, ha⟩ := hchild
    obtain ⟨b, rfl, rfl | hb⟩ := mem_behind.mp ha
    · exact ⟨[s], next, at?_cons_eq_some.mpr ⟨next, hnext, rfl⟩, rfl⟩
    · obtain ⟨rest, node, hrest, rfl⟩ := ih s next hnext (hsafe.child hnext) hb
      exact ⟨s :: rest, node, at?_cons_eq_some.mpr ⟨next, hnext, hrest⟩, rfl⟩

theorem named_of_mem_descents {o : Outline} (hsafe : o.PathSafe) {a : List Segment}
    (h : a ∈ o.descents) : ∀ s ∈ a, s.Named := by
  obtain ⟨b, node, hb, rfl⟩ := at?_of_mem_descents hsafe h
  exact canonical_named hsafe hb

theorem nodup_itemDescents {items : List Outline} (h : ∀ item ∈ items, item.descents.Nodup)
    (position : Nat) : (itemDescents position items).Nodup := by
  induction items generalizing position with
  | nil => simp [itemDescents]
  | cons item rest ih =>
    rw [List.forall_mem_cons] at h
    rw [itemDescents, List.nodup_append']
    refine ⟨nodup_behind (nil_not_mem_descents item) h.1, ih h.2 (position + 1), ?_⟩
    apply disjoint_behind
    intro b hb
    obtain ⟨i, node, -, hbehind⟩ := mem_itemDescents.mp hb
    obtain ⟨c, heq, -⟩ := mem_behind.mp hbehind
    have hposition : position = position + 1 + i := by simpa using congrArg List.head? heq
    omega

theorem nodup_memberDescents {members : List (String × Outline)}
    (hkeys : (members.map fun m => Text.lowercase m.1).Nodup)
    (h : ∀ m ∈ members, m.2.descents.Nodup) : (memberDescents members).Nodup := by
  induction members with
  | nil => simp [memberDescents]
  | cons m rest ih =>
    rw [List.map_cons, List.nodup_cons] at hkeys
    rw [List.forall_mem_cons] at h
    rw [memberDescents, List.nodup_append']
    refine ⟨nodup_behind (nil_not_mem_descents m.2) h.1, ih hkeys.2 h.2, ?_⟩
    apply disjoint_behind
    intro b hb
    obtain ⟨key, node, hmem, hbehind⟩ := mem_memberDescents.mp hb
    obtain ⟨c, heq, -⟩ := mem_behind.mp hbehind
    have hkey : Text.lowercase m.1 = Text.lowercase key := by simpa using congrArg List.head? heq
    exact hkeys.1 (List.mem_map.mpr ⟨_, hmem, hkey.symm⟩)

theorem nodup_descents {o : Outline} (hsafe : o.PathSafe) : o.descents.Nodup := by
  induction o using child_induction with
  | step o ih =>
    cases o with
    | leaf line => simp [descents]
    | array line items =>
      rw [descents]
      apply nodup_itemDescents
      intro item hitem
      obtain ⟨i, hi⟩ := List.mem_iff_getElem?.mp hitem
      exact ih (.index i) item hi (hsafe.child (s := .index i) hi)
    | object line members =>
      have hkeys := hsafe [] line members rfl
      rw [descents]
      apply nodup_memberDescents
      · simpa [List.map_map, Function.comp_def] using hkeys.distinct
      · intro m hm
        have hchild := memberAt?_of_mem hkeys.nodup hm
        exact ih (.key m.1) m.2 hchild (hsafe.child (s := .key m.1) hchild)

/-- The written forms of the steps below a safe root, and its own, are all different. -/
theorem nodup_paths {o : Outline} (hsafe : o.PathSafe) :
    ((o.entries Path.item "").map Prod.fst).Nodup ∧
      "" ∉ (o.entries Path.item "").map Prod.fst := by
  rw [renders_entries]
  constructor
  · refine (nodup_descents hsafe).map_on ?_
    intro a ha b hb hab
    exact render_injective (named_of_mem_descents hsafe ha) (named_of_mem_descents hsafe hb) hab
  · intro hmem
    obtain ⟨a, ha, hempty⟩ := List.mem_map.mp hmem
    refine render_ne_empty (named_of_mem_descents hsafe ha) ?_ hempty
    rintro rfl
    exact nil_not_mem_descents o ha

end Outline

/-! ## The index as a whole -/

theorem size_foldl_insert {entries : List Entry} {lines : Std.HashMap String UInt32}
    (hnodup : (entries.map Prod.fst).Nodup) (hfresh : ∀ e ∈ entries, e.1 ∉ lines) :
    (entries.foldl (fun lines e => lines.insert e.1 e.2) lines).size =
      lines.size + entries.length := by
  induction entries generalizing lines with
  | nil => rfl
  | cons e rest ih =>
    rw [List.map_cons, List.nodup_cons] at hnodup
    rw [List.forall_mem_cons] at hfresh
    have hrest : ∀ other ∈ rest, other.1 ∉ lines.insert e.1 e.2 := by
      intro other hother hmem
      rcases Std.HashMap.mem_insert.mp hmem with heq | hold
      · have hsame : e.1 = other.1 := by simpa using heq
        exact hnodup.1 (List.mem_map.mpr ⟨other, hother, hsame.symm⟩)
      · exact hfresh.2 other hother hold
    rw [List.foldl_cons, ih hnodup.2 hrest, Std.HashMap.size_insert, if_neg hfresh.1,
      List.length_cons]
    omega

theorem Outline.size_index {o : Outline} (hsafe : o.PathSafe) :
    (ofEntries (o.entries Path.item "")).size = o.descents.length + 1 := by
  obtain ⟨hnodup, hroot⟩ := nodup_paths hsafe
  have hlength : (o.entries Path.item "").length = o.descents.length := by
    simpa using congrArg List.length (renders_entries o)
  have hfresh : ∀ e ∈ o.entries Path.item "",
      e.1 ∉ (Std.HashMap.emptyWithCapacity.insert "" firstLine : Std.HashMap String UInt32) := by
    intro e he hmem
    have hempty : "" = e.1 := by simpa using hmem
    exact hroot (List.mem_map.mpr ⟨e, he, hempty.symm⟩)
  rw [size, ofEntries, size_foldl_insert hnodup hfresh, hlength, Std.HashMap.size_insert]
  simp
  omega

/-- Only the root and the entries have lines. -/
theorem exists_entry_of_line? {entries : List Entry} {steps : List Segment} {line : UInt32}
    (h : (ofEntries entries).line? steps = some line) :
    render steps = "" ∨ ∃ e ∈ entries, e.1 = render steps := by
  rw [line?, ofEntries_getElem?, latestLine?, Option.map_eq_some_iff] at h
  obtain ⟨e, hfind, -⟩ := h
  have hpath : e.1 = render steps := by simpa using List.find?_some hfind
  rcases List.mem_cons.mp (List.mem_reverse.mp (List.mem_of_find?_eq_some hfind)) with rfl | hmem
  · exact Or.inl hpath.symm
  · exact Or.inr ⟨e, hmem, hpath⟩

theorem Outline.exists_descent {o : Outline} {steps : List Segment} {line : UInt32}
    (h : (ofEntries (o.entries Path.item "")).line? steps = some line) :
    render steps = "" ∨ ∃ a ∈ o.descents, render a = render steps := by
  rcases exists_entry_of_line? h with hempty | ⟨e, hmem, hpath⟩
  · exact Or.inl hempty
  · obtain ⟨a, ha, hrender⟩ := exists_descent_of_mem Path.item hmem
    rw [stepBy_item] at hrender
    exact Or.inr ⟨a, ha, hrender.trans hpath⟩

/-- Steps are resolved to the line of an initial part with an entry that is at least as long as any
given one. -/
theorem exists_take_of_hit {index : LineIndex} {steps : List Segment} {n : Nat} {line : UInt32}
    (hn : n ≤ steps.length) (hhit : index.line? (steps.take n) = some line) :
    ∃ m, n ≤ m ∧ m ≤ steps.length ∧
      index.line? (steps.take m) = some (index.nearestLine steps.reverse) := by
  induction steps using List.reverseRecOn with
  | nil =>
    rw [List.take_nil] at hhit
    rw [List.reverse_nil, nearestLine, hhit]
    exact ⟨0, by simpa using hn, Nat.le_refl _, hhit⟩
  | append_singleton steps last ih =>
    rw [List.length_append, List.length_singleton] at hn ⊢
    have hall : (steps ++ [last]).take (steps.length + 1) = steps ++ [last] :=
      List.take_of_length_le (by simp)
    have hlast : (last :: steps.reverse).reverse = steps ++ [last] := by simp
    rw [List.reverse_append, List.reverse_singleton, List.singleton_append, nearestLine, hlast]
    split
    · rename_i found hfound
      exact ⟨steps.length + 1, hn, Nat.le_refl _, by rw [hall, hfound]⟩
    · rename_i hnone
      have hshorter : n ≤ steps.length := by
        by_contra hlong
        obtain rfl : n = steps.length + 1 := by omega
        rw [hall, hnone] at hhit
        simp at hhit
      have htake : ∀ k, k ≤ steps.length → (steps ++ [last]).take k = steps.take k := by
        intro k hk
        rw [List.take_append_of_le_length hk]
      rw [htake n hshorter] at hhit
      obtain ⟨m, hnm, hm, hfound⟩ := ih hshorter hhit
      exact ⟨m, hnm, by omega, by rw [htake m hm, hfound]⟩

theorem nearestLine_of_take {index : LineIndex} {steps : List Segment} {n : Nat} {line : UInt32}
    (hn : n ≤ steps.length) (hhit : index.line? (steps.take n) = some line)
    (hmiss : ∀ k, n < k → k ≤ steps.length → index.line? (steps.take k) = none) :
    index.nearestLine steps.reverse = line := by
  obtain ⟨m, hnm, hm, hfound⟩ := exists_take_of_hit hn hhit
  have hsame : m = n := by
    by_contra hne
    rw [hmiss m (by omega) hm] at hfound
    simp at hfound
  rw [hsame, hhit] at hfound
  exact (Option.some.inj hfound).symm

theorem resolve_of_line? {index : LineIndex} {path : String} {steps : List Segment}
    {line : UInt32} (hparse : parse? path = some steps) (hline : index.line? steps = some line) :
    index.resolve path = line := by
  rw [resolve, hparse]
  apply nearestLine_of_take (Nat.le_refl _)
  · rwa [List.take_length]
  · intro k hlonger hk
    omega

end TemplateAudit.LineIndex
