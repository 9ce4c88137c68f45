import TemplateAudit.LineIndex.Scan
import TemplateAudit.Proofs.Json.Address
import TemplateAudit.Proofs.Listing

/-!
# Outlines

An outline is the structure of a document with the line on which each node starts; a member starts
with its key. The index of a document is built from the entries of its outline, in which the lines
are those of the outline in 32 bits. Positions are written as they are when a value is indexed, and
as a counter of 32 bits with a sign shows them when a text is scanned; for arrays that the counter
can hold this makes no difference. When the keys are safe, no two nodes share an entry, so that the
written path of a node leads back to its line.
-/

namespace TemplateAudit.Json

set_option autoImplicit false

mutual

/-- The most items that an array in a value has. -/
def longest : Json → Nat
  | .array items => max items.length (itemsLongest items)
  | .object members => membersLongest members
  | _ => 0

def itemsLongest : List Json → Nat
  | [] => 0
  | item :: rest => max (longest item) (itemsLongest rest)

def membersLongest : List (String × Json) → Nat
  | [] => 0
  | (_, value) :: rest => max (longest value) (membersLongest rest)

end

end TemplateAudit.Json

namespace TemplateAudit.LineIndex

set_option autoImplicit false

open TemplateAudit.Path

/-- The structure of a document; every node carries the line on which it starts. -/
inductive Outline where
  | leaf (line : Nat)
  | array (line : Nat) (items : List Outline)
  | object (line : Nat) (members : List (String × Outline))

/-- How the path of an item is written, from that of its array and the position. -/
abbrev ItemPath := String → Nat → String

/-- The same is written for all positions before some number. -/
def AgreeBelow (most : Nat) (itemPath other : ItemPath) : Prop :=
  ∀ path position, position < most → itemPath path position = other path position

/-- The position is counted from zero in 32 bits with a sign. -/
def scannedItem : ItemPath := fun path position =>
  countedItem path (Int32.ofNat position)

/-- How many items the counter of positions can tell from one another and show as they are. -/
def itemLimit : Nat := 2147483648

/-- All positions among some steps can be counted. -/
def Counted (steps : List Segment) : Prop :=
  ∀ position, .index position ∈ steps → position < itemLimit

theorem Counted.canonical {steps : List Segment} (h : Counted steps) :
    Counted (steps.map Segment.canonical) := by
  intro position hmem
  obtain ⟨s, hs, heq⟩ := List.mem_map.mp hmem
  cases s with
  | key name => simp [Segment.canonical] at heq
  | index other =>
    obtain rfl : other = position := by simpa [Segment.canonical] using heq
    exact h other hs

theorem toString_word (n : Int32) : toString n = toString n.toInt := rfl

theorem scannedItem_of_lt {position : Nat} (h : position < itemLimit) (path : String) :
    scannedItem path position = Path.item path position := by
  have hint : (Int32.ofNat position).toInt = position := Int32.toInt_ofNat_of_lt h
  have hnumeral : toString (Int32.ofNat position) = toString position := by
    rw [toString_word, hint]
    rfl
  rw [scannedItem, countedItem, hnumeral, Path.item]

namespace Outline

def line : Outline → Nat
  | .leaf line => line
  | .array line _ => line
  | .object line _ => line

section Entries
variable (itemPath : ItemPath)

mutual

/-- The entries of the nodes below a node with the rendered path `path`, in document order. -/
def entries (path : String) : Outline → List Entry
  | .leaf _ => []
  | .array _ items => itemEntries path 0 items
  | .object _ members => memberEntries path members

def itemEntries (path : String) (position : Nat) : List Outline → List Entry
  | [] => []
  | item :: rest =>
    (itemPath path position, UInt32.ofNat item.line) :: entries (itemPath path position) item ++
      itemEntries path (position + 1) rest

def memberEntries (path : String) : List (String × Outline) → List Entry
  | [] => []
  | (key, value) :: rest =>
    (Path.member path key, UInt32.ofNat value.line) :: entries (Path.member path key) value ++
      memberEntries path rest

end

def stepBy (path : String) : Segment → String
  | .key name => join path name
  | .index position => itemPath path position

end Entries

abbrev scanned (o : Outline) : List Entry :=
  o.entries scannedItem ""

mutual

def longest : Outline → Nat
  | .leaf _ => 0
  | .array _ items => max items.length (longestOfItems items)
  | .object _ members => longestOfMembers members

def longestOfItems : List Outline → Nat
  | [] => 0
  | item :: rest => max (longest item) (longestOfItems rest)

def longestOfMembers : List (String × Outline) → Nat
  | [] => 0
  | (_, value) :: rest => max (longest value) (longestOfMembers rest)

end

/-- The member with a key; of several the last one. -/
def memberAt? : List (String × Outline) → String → Option Outline
  | [], _ => none
  | (key, value) :: rest, name =>
    (memberAt? rest name).or (if key = name then some value else none)

def child? : Outline → Segment → Option Outline
  | .object _ members, .key name => memberAt? members name
  | .array _ items, .index position => items[position]?
  | _, _ => none

def at? : Outline → List Segment → Option Outline
  | node, [] => some node
  | node, s :: rest => (node.child? s).bind fun next => at? next rest

def lineAt? (o : Outline) (a : List Segment) : Option Nat :=
  (o.at? a).map line

def PathSafe (o : Outline) : Prop :=
  ∀ a line members, o.at? a = some (.object line members) → SafeKeys (members.map Prod.fst)

/-! ## Nodes and steps -/

@[simp] theorem at?_nil (o : Outline) : o.at? [] = some o := rfl

theorem at?_cons_eq_some {o node : Outline} {s : Segment} {rest : List Segment} :
    o.at? (s :: rest) = some node ↔ ∃ next, o.child? s = some next ∧ next.at? rest = some node := by
  rw [at?, Option.bind_eq_some_iff]

theorem PathSafe.child {o next : Outline} {s : Segment} (h : o.PathSafe)
    (hs : o.child? s = some next) : next.PathSafe := by
  intro a line members ha
  exact h (s :: a) line members (at?_cons_eq_some.mpr ⟨next, hs, ha⟩)

theorem mem_of_memberAt? {members : List (String × Outline)} {name : String} {value : Outline}
    (h : memberAt? members name = some value) : (name, value) ∈ members := by
  induction members with
  | nil => simp [memberAt?] at h
  | cons m rest ih =>
    rw [memberAt?, Option.or_eq_some_iff] at h
    rcases h with h | ⟨-, h⟩
    · exact List.mem_cons_of_mem m (ih h)
    · split at h
      · obtain ⟨rfl⟩ : m.2 = value := by simpa using h
        subst name
        exact List.mem_cons_self
      · simp at h

theorem memberAt?_of_mem {members : List (String × Outline)} {name : String} {value : Outline}
    (hdistinct : (members.map Prod.fst).Nodup) (h : (name, value) ∈ members) :
    memberAt? members name = some value := by
  induction members with
  | nil => simp at h
  | cons m rest ih =>
    rw [List.map_cons, List.nodup_cons] at hdistinct
    rcases List.mem_cons.mp h with rfl | hrest
    · have hnone : memberAt? rest name = none := by
        by_contra hsome
        obtain ⟨other, hother⟩ := Option.ne_none_iff_exists'.mp hsome
        exact hdistinct.1 (List.mem_map.mpr ⟨_, mem_of_memberAt? hother, rfl⟩)
      simp [memberAt?, hnone]
    · rw [memberAt?, ih hdistinct.2 hrest, Option.some_or]

theorem sizeOf_child {o next : Outline} {s : Segment} (h : o.child? s = some next) :
    sizeOf next < sizeOf o := by
  cases o with
  | leaf line => simp [child?] at h
  | array line items =>
    cases s with
    | key name => simp [child?] at h
    | index n =>
      have hmem := List.sizeOf_lt_of_mem (List.mem_of_getElem? h)
      simp only [array.sizeOf_spec]
      omega
  | object line members =>
    cases s with
    | key name =>
      have hmem := List.sizeOf_lt_of_mem (mem_of_memberAt? h)
      simp only [object.sizeOf_spec, Prod.mk.sizeOf_spec] at hmem ⊢
      omega
    | index n => simp [child?] at h

/-- What holds of a node when it holds of its children holds of every node. -/
theorem child_induction {motive : Outline → Prop}
    (step : ∀ o, (∀ s next, o.child? s = some next → motive next) → motive o) (o : Outline) :
    motive o :=
  step o fun _ next _ => child_induction step next
termination_by sizeOf o
decreasing_by exact sizeOf_child ‹_›

/-! ## Entries and nodes -/

theorem mem_itemEntries {itemPath : ItemPath} {path : String} {position : Nat}
    {items : List Outline} {e : Entry} :
    e ∈ itemEntries itemPath path position items ↔ ∃ i node, items[i]? = some node ∧
      (e = (itemPath path (position + i), UInt32.ofNat node.line) ∨
        e ∈ node.entries itemPath (itemPath path (position + i))) := by
  have hpart : ∀ position item rest, itemEntries itemPath path position (item :: rest) =
      ((itemPath path position, UInt32.ofNat item.line) ::
        item.entries itemPath (itemPath path position)) ++
          itemEntries itemPath path (position + 1) rest := fun _ _ _ => by rw [itemEntries]
  rw [mem_numbered (itemEntries itemPath path) _ (fun _ => by rw [itemEntries]) hpart]
  simp only [List.mem_cons]

theorem mem_memberEntries {itemPath : ItemPath} {path : String}
    {members : List (String × Outline)} {e : Entry} :
    e ∈ memberEntries itemPath path members ↔ ∃ key node, (key, node) ∈ members ∧
      (e = (Path.member path key, UInt32.ofNat node.line) ∨
        e ∈ node.entries itemPath (Path.member path key)) := by
  have hpart : ∀ (m : String × Outline) rest, memberEntries itemPath path (m :: rest) =
      ((Path.member path m.1, UInt32.ofNat m.2.line) ::
        m.2.entries itemPath (Path.member path m.1)) ++ memberEntries itemPath path rest :=
    fun _ _ => by rw [memberEntries]
  rw [mem_joined (memberEntries itemPath path) _ (by rw [memberEntries]) hpart]
  simp only [List.mem_cons, Prod.exists]

section Entries
variable {itemPath : ItemPath}

/-- The entries of a child and of the nodes below it are among those below its parent. -/
theorem mem_entries_of_child {o next : Outline} {s : Segment} (hs : o.child? s = some next)
    {path : String} {e : Entry}
    (h : e = (stepBy itemPath path s.canonical, UInt32.ofNat next.line) ∨
      e ∈ next.entries itemPath (stepBy itemPath path s.canonical)) :
    e ∈ o.entries itemPath path := by
  cases o with
  | leaf line => simp [child?] at hs
  | array line items =>
    cases s with
    | key name => simp [child?] at hs
    | index i =>
      rw [entries, mem_itemEntries]
      refine ⟨i, next, hs, ?_⟩
      rwa [Nat.zero_add]
  | object line members =>
    cases s with
    | key name =>
      rw [entries, mem_memberEntries]
      exact ⟨name, next, mem_of_memberAt? hs, h⟩
    | index i => simp [child?] at hs

/-- With safe keys there are no other entries below a node. -/
theorem mem_entries_iff {o : Outline} (hsafe : o.PathSafe) {path : String} {e : Entry} :
    e ∈ o.entries itemPath path ↔ ∃ s next, o.child? s = some next ∧
      (e = (stepBy itemPath path s.canonical, UInt32.ofNat next.line) ∨
        e ∈ next.entries itemPath (stepBy itemPath path s.canonical)) := by
  constructor
  · intro he
    cases o with
    | leaf line => simp [entries] at he
    | array line items =>
      rw [entries, mem_itemEntries] at he
      obtain ⟨i, node, hi, h⟩ := he
      rw [Nat.zero_add] at h
      exact ⟨.index i, node, hi, h⟩
    | object line members =>
      rw [entries, mem_memberEntries] at he
      obtain ⟨key, node, hmem, h⟩ := he
      have hdistinct := (hsafe [] line members rfl).nodup
      exact ⟨.key key, node, memberAt?_of_mem hdistinct hmem, h⟩
  · rintro ⟨s, next, hs, h⟩
    exact mem_entries_of_child hs h

variable (itemPath) in
theorem mem_entries_of_at? {o node : Outline} {a : List Segment} (ha : o.at? a = some node)
    (hne : a ≠ []) (path : String) :
    ((a.map Segment.canonical).foldl (stepBy itemPath) path, UInt32.ofNat node.line) ∈
      o.entries itemPath path := by
  induction a generalizing o path with
  | nil => exact absurd rfl hne
  | cons s a ih =>
    obtain ⟨next, hnext, hrest⟩ := at?_cons_eq_some.mp ha
    apply mem_entries_of_child hnext
    by_cases hlast : a = []
    · subst hlast
      obtain rfl : next = node := by simpa using hrest
      exact Or.inl rfl
    · exact Or.inr (ih hrest hlast _)

theorem at?_of_mem_entries {o : Outline} (hsafe : o.PathSafe) {path : String} {e : Entry}
    (h : e ∈ o.entries itemPath path) : ∃ a node, a ≠ [] ∧ o.at? a = some node ∧
      e = ((a.map Segment.canonical).foldl (stepBy itemPath) path, UInt32.ofNat node.line) := by
  induction o using child_induction generalizing path with
  | step o ih =>
    obtain ⟨s, next, hnext, rfl | hbelow⟩ := (mem_entries_iff hsafe).mp h
    · exact ⟨[s], next, by simp, at?_cons_eq_some.mpr ⟨next, hnext, rfl⟩, rfl⟩
    · obtain ⟨a, node, -, ha, rfl⟩ := ih s next hnext (hsafe.child hnext) hbelow
      exact ⟨s :: a, node, by simp, at?_cons_eq_some.mpr ⟨next, hnext, ha⟩, rfl⟩

end Entries

theorem stepBy_item : stepBy Path.item = step := by
  funext path s
  cases s <;> rfl

/-- Positions that can be counted are written as they are. -/
theorem foldl_stepBy_scannedItem {steps : List Segment} (h : Counted steps) (path : String) :
    steps.foldl (stepBy scannedItem) path = steps.foldl step path := by
  induction steps generalizing path with
  | nil => rfl
  | cons s steps ih =>
    have hstep : stepBy scannedItem path s = step path s := by
      cases s with
      | key name => rfl
      | index position => exact scannedItem_of_lt (h position List.mem_cons_self) path
    rw [List.foldl_cons, List.foldl_cons, hstep]
    exact ih (fun position hmem => h position (List.mem_cons_of_mem s hmem)) _

section Congruence
variable {itemPath other : ItemPath} {most : Nat}

mutual

/-- How positions are written matters only for those that there are. -/
theorem entries_congr (hsame : AgreeBelow most itemPath other) (path : String) :
    ∀ o : Outline, o.longest ≤ most → o.entries itemPath path = o.entries other path
  | .leaf _, _ => rfl
  | .array _ items, hmost => by
    rw [longest, Nat.max_le] at hmost
    rw [entries, entries, itemEntries_congr hsame path 0 items (by omega) hmost.2]
  | .object _ members, hmost => by
    rw [longest] at hmost
    rw [entries, entries, memberEntries_congr hsame path members hmost]

theorem itemEntries_congr (hsame : AgreeBelow most itemPath other) (path : String)
    (position : Nat) : ∀ items : List Outline, position + items.length ≤ most →
      longestOfItems items ≤ most →
      itemEntries itemPath path position items = itemEntries other path position items
  | [], _, _ => rfl
  | item :: rest, hlength, hmost => by
    rw [longestOfItems, Nat.max_le] at hmost
    rw [List.length_cons] at hlength
    have hitem := entries_congr hsame (other path position) item hmost.1
    have hrest := itemEntries_congr hsame path (position + 1) rest (by omega) hmost.2
    rw [itemEntries, itemEntries, hsame path position (by omega), hitem, hrest]

theorem memberEntries_congr (hsame : AgreeBelow most itemPath other) (path : String) :
    ∀ members : List (String × Outline), longestOfMembers members ≤ most →
      memberEntries itemPath path members = memberEntries other path members
  | [], _ => rfl
  | (key, value) :: rest, hmost => by
    rw [longestOfMembers, Nat.max_le] at hmost
    have hvalue := entries_congr hsame (Path.member path key) value hmost.1
    have hrest := memberEntries_congr hsame path rest hmost.2
    rw [memberEntries, memberEntries, hvalue, hrest]

end

end Congruence

/-- As long as the positions can be counted, a scan makes the entries with positions as they are. -/
theorem scanned_eq_entries {o : Outline} (h : o.longest ≤ itemLimit) :
    o.scanned = o.entries Path.item "" :=
  entries_congr (fun path _ hposition => scannedItem_of_lt hposition path) "" o h

mutual

theorem longest_le_entries (itemPath : ItemPath) (path : String) :
    ∀ o : Outline, o.longest ≤ (o.entries itemPath path).length
  | .leaf _ => Nat.le_refl 0
  | .array _ items => by
    rw [longest, entries, Nat.max_le]
    exact longest_le_itemEntries itemPath path 0 items
  | .object _ members => by
    rw [longest, entries]
    exact longest_le_memberEntries itemPath path members

theorem longest_le_itemEntries (itemPath : ItemPath) (path : String) (position : Nat) :
    ∀ items : List Outline, items.length ≤ (itemEntries itemPath path position items).length ∧
      longestOfItems items ≤ (itemEntries itemPath path position items).length
  | [] => ⟨Nat.le_refl 0, Nat.le_refl 0⟩
  | item :: rest => by
    have hitem := longest_le_entries itemPath (itemPath path position) item
    have hrest := longest_le_itemEntries itemPath path (position + 1) rest
    simp only [longestOfItems, itemEntries, List.length_append, List.length_cons]
    omega

theorem longest_le_memberEntries (itemPath : ItemPath) (path : String) :
    ∀ members : List (String × Outline),
      longestOfMembers members ≤ (memberEntries itemPath path members).length
  | [] => Nat.le_refl 0
  | (key, value) :: rest => by
    have hvalue := longest_le_entries itemPath (Path.member path key) value
    have hrest := longest_le_memberEntries itemPath path rest
    simp only [longestOfMembers, memberEntries, List.length_append, List.length_cons]
    omega

end

/-- The canonical steps of a node can be told apart in a path. -/
theorem canonical_named {o node : Outline} {a : List Segment} (hsafe : o.PathSafe)
    (ha : o.at? a = some node) : ∀ s ∈ a.map Segment.canonical, s.Named := by
  induction a generalizing o with
  | nil => simp
  | cons s a ih =>
    obtain ⟨next, hnext, hrest⟩ := at?_cons_eq_some.mp ha
    rw [List.map_cons, List.forall_mem_cons]
    refine ⟨?_, ih (hsafe.child hnext) hrest⟩
    cases s with
    | index n => trivial
    | key name =>
      cases o with
      | object line members =>
        have hmem : name ∈ members.map Prod.fst :=
          List.mem_map.mpr ⟨_, mem_of_memberAt? hnext, rfl⟩
        exact (hsafe [] line members rfl).lowerPlain name hmem
      | _ => simp [child?] at hnext

theorem step_eq_of_canonical {o next other : Outline} {s t : Segment} (hsafe : o.PathSafe)
    (hs : o.child? s = some next) (ht : o.child? t = some other) (h : s.canonical = t.canonical) :
    s = t := by
  cases s with
  | index m =>
    cases t with
    | index n => exact h
    | key name => simp [Segment.canonical] at h
  | key name =>
    cases t with
    | index n => simp [Segment.canonical] at h
    | key name' =>
      cases o with
      | object line members =>
        have hlower : Text.lowercase name = Text.lowercase name' := by
          simpa [Segment.canonical] using h
        have hname : name ∈ members.map Prod.fst := List.mem_map.mpr ⟨_, mem_of_memberAt? hs, rfl⟩
        have hname' : name' ∈ members.map Prod.fst := List.mem_map.mpr ⟨_, mem_of_memberAt? ht, rfl⟩
        rw [(hsafe [] line members rfl).eq_of_lowercase hname hname' hlower]
      | _ => simp [child?] at hs

/-- Nodes whose addresses agree in lower case are the same. -/
theorem eq_of_canonical {o node other : Outline} {a b : List Segment} (hsafe : o.PathSafe)
    (ha : o.at? a = some node) (hb : o.at? b = some other)
    (h : a.map Segment.canonical = b.map Segment.canonical) : node = other := by
  induction a generalizing o b with
  | nil =>
    obtain rfl : b = [] := by simpa using h.symm
    rw [ha] at hb
    exact Option.some.inj hb
  | cons s a ih =>
    cases b with
    | nil => simp at h
    | cons t b =>
      obtain ⟨hst, hab⟩ := List.cons.inj h
      obtain ⟨next, hnext, hrest⟩ := at?_cons_eq_some.mp ha
      obtain ⟨next', hnext', hrest'⟩ := at?_cons_eq_some.mp hb
      obtain rfl := step_eq_of_canonical hsafe hnext hnext' hst
      obtain rfl : next = next' := Option.some.inj (hnext.symm.trans hnext')
      exact ih (hsafe.child hnext) hrest hrest' hab

end Outline

/-! ## Looking up entries -/

/-- The line that a list of entries assigns to a path: that of the last entry for it. -/
def latestLine? (entries : List Entry) (path : String) : Option UInt32 :=
  (entries.reverse.find? fun e => e.1 == path).map Prod.snd

theorem foldl_insert_getElem? (entries : List Entry) (lines : Std.HashMap String UInt32)
    (path : String) :
    (entries.foldl (fun lines e => lines.insert e.1 e.2) lines)[path]? =
      (latestLine? entries path).or lines[path]? := by
  induction entries using List.reverseRecOn with
  | nil => rfl
  | append_singleton entries e ih =>
    rw [List.foldl_append, List.foldl_cons, List.foldl_nil, Std.HashMap.getElem?_insert, ih]
    by_cases he : (e.1 == path) = true <;> simp [latestLine?, he]

/-- An index knows the root and its entries, of which the last one for a path counts. -/
theorem ofEntries_getElem? (entries : List Entry) (path : String) :
    (ofEntries entries).lines[path]? = latestLine? (("", firstLine) :: entries) path := by
  rw [ofEntries, foldl_insert_getElem?, Std.HashMap.getElem?_insert]
  by_cases hroot : ("" == path) = true <;>
    cases h : entries.reverse.find? fun e => e.1 == path <;>
    simp [latestLine?, List.find?_append, h, hroot]

theorem getElem?_of_unique {entries : List Entry} {path : String} {line : UInt32}
    (hmem : (path, line) ∈ ("", firstLine) :: entries)
    (hunique : ∀ other, (path, other) ∈ ("", firstLine) :: entries → other = line) :
    (ofEntries entries).lines[path]? = some line := by
  rw [ofEntries_getElem?, latestLine?]
  cases hfind : (("", firstLine) :: entries).reverse.find? fun e => e.1 == path with
  | none =>
    have hnone := List.find?_eq_none.mp hfind (path, line) (List.mem_reverse.mpr hmem)
    simp at hnone
  | some e =>
    have hpath : e.1 = path := by simpa using List.find?_some hfind
    have hline := hunique e.2 (by
      rw [← hpath]
      exact List.mem_reverse.mp (List.mem_of_find?_eq_some hfind))
    rw [Option.map_some, hline]

namespace Outline

theorem line?_of_at? {o node : Outline} {a : List Segment} (hsafe : o.PathSafe)
    (hroot : o.line = 1) (ha : o.at? a = some node) :
    (ofEntries (o.entries Path.item "")).line? (a.map Segment.canonical) =
      some (UInt32.ofNat node.line) := by
  apply getElem?_of_unique
  · by_cases hne : a = []
    · subst hne
      obtain rfl : o = node := by simpa using ha
      rw [hroot]
      exact List.mem_cons_self
    · have hentry := mem_entries_of_at? Path.item ha hne ""
      rw [stepBy_item] at hentry
      exact List.mem_cons_of_mem _ hentry
  · intro other hother
    rcases List.mem_cons.mp hother with heq | hbelow
    · obtain ⟨hempty, rfl⟩ := Prod.mk.inj heq
      have hnil : a.map Segment.canonical = [] := by
        by_contra hne
        exact render_ne_empty (canonical_named hsafe ha) hne hempty
      obtain rfl : a = [] := by simpa using hnil
      obtain rfl : o = node := by simpa using ha
      rw [hroot]
      rfl
    · obtain ⟨b, found, -, hb, heq⟩ := at?_of_mem_entries hsafe hbelow
      rw [stepBy_item] at heq
      obtain ⟨hpath, rfl⟩ := Prod.mk.inj heq
      have hsteps := render_injective (canonical_named hsafe ha) (canonical_named hsafe hb) hpath
      rw [eq_of_canonical hsafe ha hb hsteps]

theorem exactLine?_of_at? {o node : Outline} {a : List Segment} {path : String}
    (hsafe : o.PathSafe) (hroot : o.line = 1) (ha : o.at? a = some node)
    (hparse : parse? path = some (a.map Segment.canonical)) :
    (ofEntries (o.entries Path.item "")).exactLine? path = some (UInt32.ofNat node.line) := by
  rw [exactLine?, hparse]
  exact line?_of_at? hsafe hroot ha

end Outline

end TemplateAudit.LineIndex
