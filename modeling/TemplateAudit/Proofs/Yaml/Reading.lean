import TemplateAudit.Form
import TemplateAudit.Proofs.Json.ReadBack
import TemplateAudit.Proofs.Yaml.Composing
import TemplateAudit.Yaml.View

/-!
# JSON values that are written as YAML and read back

A JSON value in a document nests no deeper than the reader allows and repeats no key. When such a
value is written, all of it is read back except strings that are misread, wherever they stand.
-/

namespace TemplateAudit

set_option autoImplicit false

open Json (Members)

/-! ## Values that have been read -/

namespace Json

theorem itemsDepth_le_iff {items : List Json} {n : Nat} :
    itemsDepth items ≤ n ↔ ∀ item ∈ items, depth item ≤ n := by
  induction items with
  | nil => simp [itemsDepth]
  | cons item rest ih => rw [itemsDepth, Nat.max_le, ih, List.forall_mem_cons]

theorem membersDepth_le_iff {members : List (String × Json)} {n : Nat} :
    membersDepth members ≤ n ↔ ∀ m ∈ members, depth m.2 ≤ n := by
  induction members with
  | nil => simp [membersDepth]
  | cons m rest ih => rw [membersDepth, Nat.max_le, ih, List.forall_mem_cons]

theorem Members.keys_set (members : Members) (key : String) (value : Json) :
    (Members.set members key value).map Prod.fst =
      if key ∈ members.map Prod.fst then members.map Prod.fst else members.map Prod.fst ++ [key] := by
  induction members with
  | nil => rfl
  | cons m rest ih =>
    by_cases hm : m.1 = key
    · simp [Members.set, hm]
    · have hne : key ≠ m.1 := Ne.symm hm
      simp only [Members.set, if_neg hm, List.map_cons, ih, List.mem_cons, hne, false_or]
      split <;> simp

theorem Members.mem_set {members : Members} {key : String} {value : Json} {m : String × Json}
    (h : m ∈ Members.set members key value) : m = (key, value) ∨ m ∈ members := by
  induction members with
  | nil => simpa [Members.set] using h
  | cons first rest ih =>
    rw [Members.set] at h
    split at h
    · exact (List.mem_cons.mp h).imp_right fun hrest => List.mem_cons_of_mem _ hrest
    · rcases List.mem_cons.mp h with rfl | hrest
      · exact .inr List.mem_cons_self
      · exact (ih hrest).imp_right fun hmem => List.mem_cons_of_mem _ hmem

/-- An object as it is held repeats no key and has no values but those written. -/
theorem Members.ofList_sound (written : List (String × Json)) :
    ((Members.ofList written).map Prod.fst).Nodup ∧ ∀ m ∈ Members.ofList written, m ∈ written := by
  suffices hfold : ∀ before : Members, (before.map Prod.fst).Nodup →
      ((written.foldl (fun ms m => Members.set ms m.1 m.2) before).map Prod.fst).Nodup ∧
        ∀ m ∈ written.foldl (fun ms m => Members.set ms m.1 m.2) before, m ∈ before ∨ m ∈ written by
    obtain ⟨hnodup, hmem⟩ := hfold [] List.nodup_nil
    exact ⟨hnodup, fun m hm => (hmem m hm).resolve_left List.not_mem_nil⟩
  induction written with
  | nil => exact fun before hnodup => ⟨hnodup, fun m hm => .inl hm⟩
  | cons first rest ih =>
    intro before hnodup
    have hkeys : ((Members.set before first.1 first.2).map Prod.fst).Nodup := by
      rw [Members.keys_set]
      split
      · exact hnodup
      · rename_i hfresh
        refine List.nodup_append.mpr ⟨hnodup, List.nodup_singleton _, fun a ha b hb => ?_⟩
        rintro rfl
        exact hfresh (List.mem_singleton.mp hb ▸ ha)
    obtain ⟨hlater, hmem⟩ := ih _ hkeys
    refine ⟨hlater, fun m hm => ?_⟩
    rcases hmem m hm with hset | hrest
    · rcases Members.mem_set hset with rfl | hbefore
      · exact .inr List.mem_cons_self
      · exact .inl hbefore
    · exact .inr (List.mem_cons_of_mem _ hrest)

end Json

namespace Yaml

section Lists
variable {α β : Type} {f : α → Option β}

/-- What is read from a list comes from its members. -/
theorem exists_of_mem_mapM {xs : List α} {ys : List β} (h : xs.mapM f = some ys) :
    ∀ y ∈ ys, ∃ x ∈ xs, f x = some y := by
  induction xs generalizing ys with
  | nil =>
    cases h
    simp
  | cons x xs ih =>
    rw [List.mapM_cons] at h
    obtain ⟨y, hy, h⟩ := Option.bind_eq_some_iff.mp h
    obtain ⟨rest, hrest, h⟩ := Option.bind_eq_some_iff.mp h
    cases h
    refine List.forall_mem_cons.mpr ⟨⟨x, List.mem_cons_self, hy⟩, fun other hother => ?_⟩
    obtain ⟨source, hsource, hread⟩ := ih hrest other hother
    exact ⟨source, List.mem_cons_of_mem _ hsource, hread⟩

end Lists

namespace Document
variable (d : Document)

open Json (Everywhere KeysDistinct)

theorem distinctKeys_scalar {scalar : Scalar} {value : Json} (h : scalar.json? = some value) :
    value.depth = 0 ∧ value.DistinctKeys := by
  have hscalar {value : Json} (hdepth : value.depth = 0) (hroot : KeysDistinct value)
      (hchild : ∀ s, value.child? s = none) : value.depth = 0 ∧ value.DistinctKeys :=
    ⟨hdepth, Json.everywhere_scalar hroot hchild⟩
  cases scalar with
  | wide => cases h
  | float x =>
    cases x with
    | _ =>
      cases h
      exact hscalar (by simp [Json.depth]) trivial fun s => by cases s <;> rfl
  | _ =>
    cases h
    exact hscalar (by simp [Json.depth]) trivial fun s => by cases s <;> rfl

/-- A value in a document nests no deeper than there is room and repeats no key. -/
theorem sound_of_jsonAt? (room : Nat) : ∀ (node : Node) (value : Json),
    d.jsonAt? room node = some value → value.depth ≤ room ∧ value.DistinctKeys := by
  induction room with
  | zero =>
    intro node value h
    unfold jsonAt? at h
    split at h
    · obtain ⟨scalar, -, hjson⟩ := Option.bind_eq_some_iff.mp h
      obtain ⟨hdepth, hdistinct⟩ := distinctKeys_scalar hjson
      exact ⟨by omega, hdistinct⟩
    · contradiction
    · contradiction
    · cases h
  | succ room ih =>
    intro node value h
    unfold jsonAt? at h
    split at h
    · obtain ⟨scalar, -, hjson⟩ := Option.bind_eq_some_iff.mp h
      obtain ⟨hdepth, hdistinct⟩ := distinctKeys_scalar hjson
      exact ⟨by omega, hdistinct⟩
    · rename_i items hroom _
      cases hroom
      obtain ⟨values, hvalues, rfl⟩ := Option.map_eq_some_iff.mp h
      have hall : ∀ value ∈ values, value.depth ≤ room ∧ value.DistinctKeys := by
        intro value hvalue
        obtain ⟨item, -, hitem⟩ := exists_of_mem_mapM hvalues value hvalue
        exact ih item value hitem
      refine ⟨?_, Json.everywhere_array trivial fun value hvalue => (hall value hvalue).2⟩
      rw [Json.depth]
      exact Nat.succ_le_succ (Json.itemsDepth_le_iff.mpr fun value hvalue => (hall value hvalue).1)
    · rename_i entries hroom _
      cases hroom
      obtain ⟨written, hwritten, h⟩ := Option.bind_eq_some_iff.mp h
      cases h
      obtain ⟨hnodup, hmem⟩ := Json.Members.ofList_sound written
      have hall : ∀ m ∈ Json.Members.ofList written, m.2.depth ≤ room ∧ m.2.DistinctKeys := by
        intro m hm
        obtain ⟨entry, -, hentry⟩ := exists_of_mem_mapM hwritten m (hmem m hm)
        obtain ⟨key, -, hentry⟩ := Option.bind_eq_some_iff.mp hentry
        obtain ⟨value, hvalue, hentry⟩ := Option.bind_eq_some_iff.mp hentry
        cases hentry
        exact ih entry.2 value hvalue
      refine ⟨?_, Json.everywhere_object hnodup fun m hm => (hall m hm).2⟩
      rw [Json.depth]
      exact Nat.succ_le_succ (Json.membersDepth_le_iff.mpr fun m hm => (hall m hm).1)
    · cases h

end Document

end Yaml

/-! ## Values that are written -/

namespace Json

/-- A value that is read back as itself, what is inside it apart: a string is not misread, and the
keys of an object are found. -/
def WrittenBack : Json → Prop
  | .string s => ∀ other, ¬ Yaml.Misread s.toList other
  | .object members => ∀ m ∈ members, (Yaml.stringChars m.1).length ≤ 1024
  | _ => True

theorem everywhere_array_iff {P : Json → Prop} {items : List Json} :
    Everywhere P (.array items) ↔ P (.array items) ∧ ∀ item ∈ items, item.Everywhere P := by
  refine ⟨fun h => ⟨h.root, fun item hitem => ?_⟩, fun h => everywhere_array h.1 h.2⟩
  obtain ⟨position, hposition⟩ := List.mem_iff_getElem?.mp hitem
  exact h.child (s := .index position) hposition

theorem everywhere_object_iff {P : Json → Prop} {members : Members}
    (hkeys : (members.map Prod.fst).Nodup) :
    Everywhere P (.object members) ↔ P (.object members) ∧ ∀ m ∈ members, m.2.Everywhere P := by
  refine ⟨fun h => ⟨h.root, fun m hm => ?_⟩, fun h => everywhere_object h.1 h.2⟩
  exact h.child (s := .key m.1) (Members.get?_of_mem hkeys hm)

theorem everywhere_scalar_iff {P : Json → Prop} {value : Json} (h : ∀ s, value.child? s = none) :
    value.Everywhere P ↔ P value :=
  ⟨Everywhere.root, fun hroot => everywhere_scalar hroot h⟩

end Json

namespace Yaml

namespace Value

theorem ofItems_eq_map (items : List Json) : ofItems items = items.map ofJson := by
  induction items with
  | nil => rw [ofItems, List.map_nil]
  | cons item rest ih => rw [ofItems, ih, List.map_cons]

theorem ofMembers_eq_map (members : List (String × Json)) :
    ofMembers members = (members.map fun m => (m.1, ofJson m.2)).map fun m => (.string m.1, m.2) := by
  induction members with
  | nil => rw [ofMembers, List.map_nil, List.map_nil]
  | cons m rest ih => rw [ofMembers, ih, List.map_cons, List.map_cons]

mutual

theorem keyed_ofJson : ∀ value : Json, Keyed (ofJson value)
  | .null => by rw [ofJson]; exact .scalar rfl
  | .bool _ => by rw [ofJson]; exact .scalar rfl
  | .number (.int _) => by rw [ofJson]; exact .scalar rfl
  | .number (.float _) => by rw [ofJson]; exact .scalar rfl
  | .string _ => by rw [ofJson]; exact .scalar rfl
  | .array items => by
    rw [ofJson, ofItems_eq_map]
    exact .sequence (List.forall_mem_map.mpr (keyed_items items))
  | .object members => by
    rw [ofJson, ofMembers_eq_map]
    exact .record (List.forall_mem_map.mpr (keyed_members members))

theorem keyed_items : ∀ (items : List Json), ∀ item ∈ items, Keyed (ofJson item)
  | [] => by simp
  | item :: rest => List.forall_mem_cons.mpr ⟨keyed_ofJson item, keyed_items rest⟩

theorem keyed_members : ∀ (members : List (String × Json)), ∀ m ∈ members, Keyed (ofJson m.2)
  | [] => by simp
  | m :: rest => List.forall_mem_cons.mpr ⟨keyed_ofJson m.2, keyed_members rest⟩

end

end Value

namespace Document
variable (d : Document)

open Json (WrittenBack)

theorem follow?_node (value : Value) : d.follow? value.node = some value.node := by
  cases value with
  | _ => simp [Value.node, Value.scalar?, follow?]

theorem text?_string (s : String) : d.text? (Value.string s).node = some s := by
  rw [text?, follow?_node]
  rfl

section Equations
variable {room : Nat} {value : Value}

theorem jsonAt?_scalar {plain : Bool} {text : String} (h : value.scalar? = some (plain, text)) :
    d.jsonAt? room value.node = (Scalar.read? plain none text).bind Scalar.json? := by
  rw [Value.node_of_scalar? h]
  unfold jsonAt?
  rfl

theorem jsonAt?_sequence (items : List Value) : d.jsonAt? (room + 1) (Value.sequence items).node =
    ((Value.itemNodes items).mapM (d.jsonAt? room)).map .array := by
  rw [Value.node]
  unfold jsonAt?
  rfl

def member? (room : Nat) (entry : Node × Node) : Option (String × Json) :=
  (d.text? entry.1).bind fun name => (d.jsonAt? room entry.2).map fun value => (name, value)

theorem jsonAt?_mapping (entries : List (Value × Value)) :
    d.jsonAt? (room + 1) (Value.mapping entries).node =
      ((Value.entryNodes entries).mapM (d.member? room)).map fun members =>
        .object (Json.Members.ofList members) := by
  rw [Value.node]
  unfold jsonAt?
  have hmember : (fun entry : Node × Node => do
      return (← d.text? entry.1, ← d.jsonAt? room entry.2)) = d.member? room := by
    funext entry
    rw [member?]
    cases d.text? entry.1 <;> cases d.jsonAt? room entry.2 <;> rfl
  rw [← hmember, Option.map_eq_bind]
  rfl

end Equations

mutual

/-- A written value is read as one value, and as itself exactly when all of it is written back. -/
theorem jsonAt?_ofJson : ∀ (value : Json) (room : Nat), value.DistinctKeys → value.depth ≤ room →
    ∃ other, d.jsonAt? room (Value.ofJson value).node = some other ∧
      (((Value.ofJson value).keysFit = true ∧ other = value) ↔ value.Everywhere WrittenBack)
  | .null, _, _, _ => by
    rw [Value.ofJson, jsonAt?_scalar d rfl, Json.everywhere_scalar_iff fun s => by cases s <;> rfl]
    exact ⟨.null, rfl, by simp [Value.keysFit, WrittenBack]⟩
  | .bool b, _, _, _ => by
    rw [Value.ofJson, jsonAt?_scalar d rfl, Json.everywhere_scalar_iff fun s => by cases s <;> rfl]
    exact ⟨.bool b, by cases b <;> rfl, by simp [Value.keysFit, WrittenBack]⟩
  | .number (.int n), _, _, _ => by
    rw [Value.ofJson, jsonAt?_scalar d rfl, Json.everywhere_scalar_iff fun s => by cases s <;> rfl]
    refine ⟨.number (.int n), ?_, by simp [Value.keysFit, WrittenBack]⟩
    rw [Scalar.read?, if_pos rfl, ofPlain_int]
    rfl
  | .number (.float x), _, _, _ => by
    rw [Value.ofJson, jsonAt?_scalar d rfl, Json.everywhere_scalar_iff fun s => by cases s <;> rfl]
    refine ⟨.number (.float x), ?_, by simp [Value.keysFit, WrittenBack]⟩
    rw [Scalar.read?, if_pos rfl, ofPlain_double]
    rfl
  | .string s, _, _, _ => by
    obtain ⟨other, hother, hself⟩ := read?_string s
    rw [Value.ofJson, jsonAt?_scalar d rfl, Json.everywhere_scalar_iff fun s => by cases s <;> rfl]
    exact ⟨other, hother, by simp [Value.keysFit, WrittenBack, hself]⟩
  | .array items, 0, _, hdepth => by simp [Json.depth] at hdepth
  | .array items, room + 1, hdistinct, hdepth => by
    rw [Json.depth, Nat.succ_le_succ_iff] at hdepth
    obtain ⟨others, hothers, hself⟩ := mapM_ofItems items room hdistinct.item hdepth
    rw [Value.ofJson, jsonAt?_sequence, Json.everywhere_array_iff, ← hself, hothers]
    exact ⟨.array others, rfl, by simp [Value.keysFit, WrittenBack]⟩
  | .object members, 0, _, hdepth => by simp [Json.depth] at hdepth
  | .object members, room + 1, hdistinct, hdepth => by
    rw [Json.depth, Nat.succ_le_succ_iff] at hdepth
    obtain ⟨others, hothers, hkeys, hself⟩ := mapM_ofMembers members room hdistinct.member hdepth
    have hheld : Json.Members.ofList others = others :=
      Json.Members.ofList_of_nodup (hkeys ▸ hdistinct.keys)
    rw [Value.ofJson, jsonAt?_mapping, Json.everywhere_object_iff hdistinct.keys, WrittenBack,
      ← hself, hothers, Option.map_some, hheld]
    exact ⟨.object others, rfl, by simp [Value.keysFit]⟩

theorem mapM_ofItems : ∀ (items : List Json) (room : Nat), (∀ item ∈ items, item.DistinctKeys) →
    Json.itemsDepth items ≤ room →
    ∃ others, (Value.itemNodes (Value.ofItems items)).mapM (d.jsonAt? room) = some others ∧
      ((Value.itemsFit (Value.ofItems items) = true ∧ others = items) ↔
        ∀ item ∈ items, item.Everywhere WrittenBack)
  | [], _, _, _ => by
    rw [Value.ofItems, Value.itemNodes, Value.itemsFit]
    exact ⟨[], rfl, by simp⟩
  | item :: rest, room, hdistinct, hdepth => by
    obtain ⟨hhead, htail⟩ := List.forall_mem_cons.mp hdistinct
    rw [Json.itemsDepth, Nat.max_le] at hdepth
    obtain ⟨other, hother, hself⟩ := jsonAt?_ofJson item room hhead hdepth.1
    obtain ⟨others, hothers, hselves⟩ := mapM_ofItems rest room htail hdepth.2
    rw [Value.ofItems, Value.itemNodes, Value.itemsFit, List.mapM_cons, hother, hothers,
      List.forall_mem_cons, ← hself, ← hselves, Bool.and_eq_true, and_and_and_comm]
    exact ⟨other :: others, rfl, by rw [List.cons.injEq]⟩

theorem mapM_ofMembers : ∀ (members : List (String × Json)) (room : Nat),
    (∀ m ∈ members, m.2.DistinctKeys) → Json.membersDepth members ≤ room →
    ∃ others, (Value.entryNodes (Value.ofMembers members)).mapM (d.member? room) = some others ∧
      others.map Prod.fst = members.map Prod.fst ∧
      ((Value.entriesFit (Value.ofMembers members) = true ∧ others = members) ↔
        (∀ m ∈ members, (stringChars m.1).length ≤ 1024) ∧
          ∀ m ∈ members, m.2.Everywhere WrittenBack)
  | [], _, _, _ => by
    rw [Value.ofMembers, Value.entryNodes, Value.entriesFit]
    exact ⟨[], rfl, rfl, by simp⟩
  | (key, value) :: rest, room, hdistinct, hdepth => by
    obtain ⟨hhead, htail⟩ := List.forall_mem_cons.mp hdistinct
    rw [Json.membersDepth, Nat.max_le] at hdepth
    obtain ⟨other, hother, hself⟩ := jsonAt?_ofJson value room hhead hdepth.1
    obtain ⟨others, hothers, hkeys, hselves⟩ := mapM_ofMembers rest room htail hdepth.2
    have hmember : d.member? room ((Value.string key).node, (Value.ofJson value).node) =
        some (key, other) := by
      rw [member?, text?_string, hother]
      rfl
    rw [Value.ofMembers, Value.entryNodes, Value.entriesFit, Value.chars, List.mapM_cons, hmember,
      hothers, List.forall_mem_cons, List.forall_mem_cons, ← hself]
    refine ⟨(key, other) :: others, rfl, by rw [List.map_cons, hkeys, List.map_cons], ?_⟩
    rw [and_and_and_comm, ← hselves]
    simp only [Bool.and_eq_true, decide_eq_true_eq, List.cons.injEq, Prod.mk.injEq, true_and]
    tauto

end

end Document

end Yaml

end TemplateAudit
