import TemplateAudit.LineIndex.Layout
import TemplateAudit.Proofs.LineIndex.Completeness
import TemplateAudit.Proofs.Listing
import TemplateAudit.Proofs.Path.Spelling

/-!
# Paths of nodes

The two ways to index a document extend the path of a node step by step on the way down, and each
keeps every node under the path that writing its steps as a whole gives, keys in lower case. This
asks nothing of the keys, and of two members with one key it holds of both. In a text it holds of the
nodes whose positions can be counted in 32 bits with a sign; the others stand under the positions that
the counter shows.
-/

namespace TemplateAudit

set_option autoImplicit false

open TemplateAudit.Path

namespace Json

mutual

/-- The nodes of a value with the steps to them, in document order. -/
def nodes : Json → List (List Segment × Json)
  | .array items => ([], .array items) :: itemNodes 0 items
  | .object members => ([], .object members) :: memberNodes members
  | value => [([], value)]

def itemNodes (position : Nat) : List Json → List (List Segment × Json)
  | [] => []
  | item :: rest => under (.index position) (nodes item) ++ itemNodes (position + 1) rest

def memberNodes : List (String × Json) → List (List Segment × Json)
  | [] => []
  | (key, value) :: rest => under (.key key) (nodes value) ++ memberNodes rest

end

theorem mem_itemNodes {position : Nat} {items : List Json} {a : List Segment} {node : Json} :
    (a, node) ∈ itemNodes position items ↔ ∃ i item, items[i]? = some item ∧
      (a, node) ∈ under (.index (position + i)) item.nodes :=
  mem_numbered itemNodes (fun position item => under (.index position) item.nodes)
    (fun _ => by rw [itemNodes]) (fun _ _ _ => by rw [itemNodes])

theorem mem_memberNodes {members : List (String × Json)} {a : List Segment} {node : Json} :
    (a, node) ∈ memberNodes members ↔ ∃ m ∈ members, (a, node) ∈ under (.key m.1) m.2.nodes :=
  mem_joined memberNodes (fun m => under (.key m.1) m.2.nodes) (by rw [memberNodes])
    (fun _ _ => by rw [memberNodes])

theorem mem_nodes_nil {value node : Json} : ([], node) ∈ value.nodes ↔ value = node := by
  rw [@eq_comm _ value]
  cases value <;> simp [nodes, mem_itemNodes, mem_memberNodes, mem_under]

theorem mem_nodes_cons {value node : Json} (hdistinct : value.DistinctKeys) {s : Segment}
    {a : List Segment} :
    (s :: a, node) ∈ value.nodes ↔ ∃ next, value.child? s = some next ∧ (a, node) ∈ next.nodes := by
  cases value with
  | array items =>
    simp only [nodes, List.mem_cons, Prod.mk.injEq, reduceCtorEq, false_and, false_or,
      mem_itemNodes, mem_under, Nat.zero_add, List.cons.injEq]
    constructor
    · rintro ⟨i, item, hitem, b, ⟨rfl, rfl⟩, hb⟩
      exact ⟨item, hitem, hb⟩
    · rintro ⟨next, hnext, ha⟩
      cases s with
      | key name => simp [child?] at hnext
      | index i => exact ⟨i, next, hnext, a, ⟨rfl, rfl⟩, ha⟩
  | object members =>
    simp only [nodes, List.mem_cons, Prod.mk.injEq, reduceCtorEq, false_and, false_or,
      mem_memberNodes, mem_under, List.cons.injEq]
    constructor
    · rintro ⟨m, hm, b, ⟨rfl, rfl⟩, hb⟩
      exact ⟨m.2, Members.get?_of_mem hdistinct.keys hm, hb⟩
    · rintro ⟨next, hnext, ha⟩
      cases s with
      | key name => exact ⟨(name, next), Members.mem_of_get? hnext, a, ⟨rfl, rfl⟩, ha⟩
      | index i => simp [child?] at hnext
  | _ => simp [nodes, child?]

/-- The listed nodes are those at the addresses of the value. -/
theorem mem_nodes {value node : Json} (hdistinct : value.DistinctKeys) {a : List Segment} :
    (a, node) ∈ value.nodes ↔ value.at? a = some node := by
  induction a generalizing value with
  | nil => rw [mem_nodes_nil, at?_nil, Option.some.injEq]
  | cons s a ih =>
    rw [mem_nodes_cons hdistinct, at?_cons_eq_some]
    refine exists_congr fun next => and_congr_right fun hnext => ?_
    exact ih (hdistinct.child hnext)

end Json

namespace LineIndex

/-- A path that is extended by some steps, keys in lower case. -/
def extended (itemPath : ItemPath) (path : String) (steps : List Segment) : String :=
  (steps.map Segment.canonical).foldl (Outline.stepBy itemPath) path

theorem extended_nil (itemPath : ItemPath) (path : String) : extended itemPath path [] = path := rfl

theorem extended_item (steps : List Segment) :
    extended Path.item "" steps = render (steps.map Segment.canonical) := by
  rw [extended, Outline.stepBy_item]
  rfl

theorem extended_scannedItem {steps : List Segment} (h : Counted steps) :
    extended scannedItem "" steps = render (steps.map Segment.canonical) :=
  Outline.foldl_stepBy_scannedItem h.canonical ""

/-! ## Values -/

mutual

/-- What is counted over a value stands under the paths of its nodes. The path is that of the value
itself, and changes with every step down. -/
theorem paths_layout (path : String) (line : UInt32) : ∀ value : Json,
    path :: (layout path line value).map Prod.fst =
      value.nodes.map fun entry => extended Path.item path entry.1
  | .null => rfl
  | .bool _ => rfl
  | .number _ => rfl
  | .string _ => rfl
  | .array items => by
    rw [layout, Json.nodes, List.map_cons, paths_layoutItems path line 0 items, extended_nil]
  | .object members => by
    rw [layout, Json.nodes, List.map_cons, paths_layoutMembers path line members, extended_nil]

theorem paths_layoutItems (path : String) (line : UInt32) (position : Nat) : ∀ items : List Json,
    (layoutItems path line position items).map Prod.fst =
      (Json.itemNodes position items).map fun entry => extended Path.item path entry.1
  | [] => rfl
  | item :: rest => by
    have hitem := paths_layout (Path.item path position) (line + 1) item
    have hrest := paths_layoutItems path (lastLine (line + 1) item) (position + 1) rest
    rw [layoutItems, Json.itemNodes, List.map_append, List.map_append, List.map_cons, hitem, hrest,
      under, List.map_map]
    rfl

theorem paths_layoutMembers (path : String) (line : UInt32) : ∀ members : List (String × Json),
    (layoutMembers path line members).map Prod.fst =
      (Json.memberNodes members).map fun entry => extended Path.item path entry.1
  | [] => rfl
  | (key, value) :: rest => by
    have hvalue := paths_layout (Path.member path key) (line + 1) value
    have hrest := paths_layoutMembers path (lastLine (line + 1) value) rest
    rw [layoutMembers, Json.memberNodes, List.map_append, List.map_append, List.map_cons, hvalue,
      hrest, under, List.map_map]
    rfl

end

/-! ## Texts -/

namespace Outline

mutual

def nodes : Outline → List (List Segment × Outline)
  | .leaf line => [([], .leaf line)]
  | .array line items => ([], .array line items) :: itemNodes 0 items
  | .object line members => ([], .object line members) :: memberNodes members

def itemNodes (position : Nat) : List Outline → List (List Segment × Outline)
  | [] => []
  | item :: rest => under (.index position) (nodes item) ++ itemNodes (position + 1) rest

def memberNodes : List (String × Outline) → List (List Segment × Outline)
  | [] => []
  | (key, value) :: rest => under (.key key) (nodes value) ++ memberNodes rest

end

section Written
variable (itemPath : ItemPath)

mutual

theorem entries_eq_nodes (path : String) : ∀ o : Outline,
    (path, UInt32.ofNat o.line) :: o.entries itemPath path =
      o.nodes.map fun entry => (extended itemPath path entry.1, UInt32.ofNat entry.2.line)
  | .leaf _ => rfl
  | .array _ items => by
    rw [entries, nodes, List.map_cons, itemEntries_eq_nodes path 0 items, extended_nil]
  | .object _ members => by
    rw [entries, nodes, List.map_cons, memberEntries_eq_nodes path members, extended_nil]

theorem itemEntries_eq_nodes (path : String) (position : Nat) : ∀ items : List Outline,
    itemEntries itemPath path position items = (itemNodes position items).map fun entry =>
      (extended itemPath path entry.1, UInt32.ofNat entry.2.line)
  | [] => rfl
  | item :: rest => by
    rw [itemEntries, itemNodes, List.map_append, entries_eq_nodes (itemPath path position) item,
      itemEntries_eq_nodes path (position + 1) rest, under, List.map_map]
    rfl

theorem memberEntries_eq_nodes (path : String) : ∀ members : List (String × Outline),
    memberEntries itemPath path members = (memberNodes members).map fun entry =>
      (extended itemPath path entry.1, UInt32.ofNat entry.2.line)
  | [] => rfl
  | (key, value) :: rest => by
    rw [memberEntries, memberNodes, List.map_append, entries_eq_nodes (Path.member path key) value,
      memberEntries_eq_nodes path rest, under, List.map_map]
    rfl

end

end Written

end Outline

theorem Document.root_cons_scanned {limit : Nat} {text : List Char} {outline : Outline}
    (h : Document limit text outline) :
    ("", firstLine) :: outline.scanned =
      outline.nodes.map fun entry =>
        (extended scannedItem "" entry.1, UInt32.ofNat entry.2.line) := by
  obtain ⟨_, _, _, _, _, _, hroot, _⟩ := h
  have hentries := outline.entries_eq_nodes scannedItem ""
  rwa [hroot] at hentries

/-- Canonical steps are read back from their written path, also behind the mark of the root and
between blanks, so that no two lists of them are written alike. In either index every node stands
under the written path of its steps, keys in lower case; and a written path is, for any steps, the
characters of the steps with their marks, less the empty keys and the point in front. The counter of
a scan leaves the paths alone whose positions it can hold. -/
theorem node_paths_read_back :
    (∀ steps : List Segment, (∀ s ∈ steps, s.Canonical) →
      ∀ lead trail, Text.isBlankText lead = true → Text.isBlankText trail = true →
        ∀ path ∈ [render steps, "$." ++ render steps],
          parse? (lead ++ path ++ trail) = some steps) ∧
    (∀ steps others : List Segment, (∀ s ∈ steps, s.Canonical) → (∀ s ∈ others, s.Canonical) →
      render steps = render others → steps = others) ∧
    (∀ value : Json,
      (value.DistinctKeys → ∀ a node, (a, node) ∈ value.nodes ↔ value.at? a = some node) ∧
      (("", firstLine) :: layout "" firstLine value).map Prod.fst =
        value.nodes.map fun entry => render (entry.1.map Segment.canonical)) ∧
    (∀ text entries, scan? text = some entries ↔ ∃ outline, Document deepest text outline ∧
      ("", firstLine) :: entries = outline.nodes.map fun entry =>
        (extended scannedItem "" entry.1, UInt32.ofNat entry.2.line)) ∧
    (∀ steps : List Segment, Counted steps →
      extended scannedItem "" steps = render (steps.map Segment.canonical)) ∧
    ∀ steps : List Segment,
      (render steps).toList = withoutPoint (marked (steps.dropWhile (· = .key ""))) := by
  refine ⟨fun _ hsteps _ _ hlead htrail => parse?_spelled hsteps hlead htrail,
    fun _ _ => render_injective_of_canonical,
    fun value => ⟨fun hdistinct _ _ => Json.mem_nodes hdistinct, ?_⟩,
    fun text entries => ⟨?_, ?_⟩, fun _ => extended_scannedItem, render_toList⟩
  · have hpaths := paths_layout "" firstLine value
    simp only [extended_item] at hpaths
    exact hpaths
  · intro hscan
    obtain ⟨outline, hdocument, rfl⟩ := document_of_scan? hscan
    exact ⟨outline, hdocument, hdocument.root_cons_scanned⟩
  · rintro ⟨outline, hdocument, hentries⟩
    have hsame := hentries.trans hdocument.root_cons_scanned.symm
    rw [scan?_of_document hdocument, (List.cons.inj hsame).2]

/-- The path of two positions in a row, of a key with a bracket that closes nothing and of one that
starts like the mark of the root; a value whose keys are empty or look like paths; and a text with a
key written twice, the second time in capitals. -/
theorem node_paths_read_back_between_blanks :
    let steps : List Segment :=
      [.index 0, .index 18446744073709551615, .key "a] b", .index 2, .key "$é"]
    let value : Json := .object [("", .object [("", .array [.null]), ("A[0].B", .bool true)])]
    let text := "\x7b\"é\":\n[0],\"É\":1\x7d".toList
    ((∀ s ∈ steps, s.Canonical) ∧
      parse? "\u2003\n$.[0][18446744073709551615].a] b[2].$é\t" = some steps) ∧
    (value.DistinctKeys ∧ ([.key "", .key "A[0].B"], Json.bool true) ∈ value.nodes ∧
      (("", firstLine) :: layout "" firstLine value).map Prod.fst = ["", "", "", "[0]", "a[0].b"]) ∧
    (∃ outline, Document deepest text outline ∧
      [("", 1), ("é", 1), ("é[0]", 2), ("é", 2)] = outline.nodes.map fun entry =>
        (extended scannedItem "" entry.1, UInt32.ofNat entry.2.line)) ∧
    extended scannedItem "" [.key "É", .index 0] = "é[0]" := by
  intro steps value text
  have hsteps : ∀ s ∈ steps, s.Canonical := by
    simp only [steps, List.mem_cons, List.not_mem_nil, or_false, forall_eq_or_imp, forall_eq]
    exact ⟨⟨(by decide : 0 < UInt64.size), rfl⟩,
      ⟨(by decide : 18446744073709551615 < UInt64.size), rfl⟩,
      ⟨(by decide +kernel : PlainName "a] b"), by decide +kernel⟩,
      ⟨(by decide : 2 < UInt64.size), rfl⟩,
      ⟨(by decide +kernel : PlainName "$é"), by decide +kernel⟩⟩
  have hdistinct : value.DistinctKeys := by
    refine Json.everywhere_object (by simp [Json.KeysDistinct]) ?_
    rw [List.forall_mem_singleton]
    refine Json.everywhere_object (by simp [Json.KeysDistinct]) (List.forall_mem_cons.mpr ⟨?_, ?_⟩)
    · refine Json.everywhere_array trivial ?_
      rw [List.forall_mem_singleton]
      exact Json.everywhere_scalar trivial fun _ => rfl
    · rw [List.forall_mem_singleton]
      exact Json.everywhere_scalar trivial fun _ => rfl
  obtain ⟨hread, -, hvalues, hscans, hcounted, -⟩ := node_paths_read_back
  obtain ⟨hnodes, hpaths⟩ := hvalues value
  refine ⟨⟨hsteps, ?_⟩, ⟨hdistinct, (hnodes hdistinct _ _).mpr rfl, ?_⟩, ?_, ?_⟩
  · exact hread steps hsteps "\u2003\n" "\t" (by decide) (by decide)
      "$.[0][18446744073709551615].a] b[2].$é" (by decide +kernel)
  · rw [hpaths]
    decide +kernel
  · have hscan : scan? text = some [("é", 1), ("é[0]", 2), ("é", 2)] := by decide +kernel
    exact (hscans text _).mp hscan
  · have hfew : Counted [.key "É", .index 0] := by simp [Counted, itemLimit]
    rw [hcounted _ hfew]
    decide +kernel

end LineIndex

end TemplateAudit
