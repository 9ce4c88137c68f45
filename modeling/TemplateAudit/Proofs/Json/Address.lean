import Mathlib.Data.List.Nodup
import TemplateAudit.Json.Basic
import TemplateAudit.Proofs.Path.Canonical

/-!
# Addresses of nodes

An address is a list of steps into a JSON value, with keys as they are written. A value is path-safe
when the keys of its objects survive being written into paths and stay apart in lower case.
-/

namespace TemplateAudit

set_option autoImplicit false

open TemplateAudit.Path

/-- What the keys of one object are held to: each can stand in a path, as written and in lower case,
and no two are alike in lower case. -/
structure SafeKeys (keys : List String) : Prop where
  plain : ∀ key ∈ keys, PlainName key
  lowerPlain : ∀ key ∈ keys, PlainName (Text.lowercase key)
  distinct : (keys.map Text.lowercase).Nodup

instance (keys : List String) : Decidable (SafeKeys keys) :=
  decidable_of_iff ((∀ key ∈ keys, PlainName key) ∧
      (∀ key ∈ keys, PlainName (Text.lowercase key)) ∧ (keys.map Text.lowercase).Nodup)
    ⟨fun ⟨hplain, hlower, hdistinct⟩ => ⟨hplain, hlower, hdistinct⟩,
      fun h => ⟨h.plain, h.lowerPlain, h.distinct⟩⟩

theorem SafeKeys.eq_of_lowercase {keys : List String} (h : SafeKeys keys) {a b : String}
    (ha : a ∈ keys) (hb : b ∈ keys) (hab : Text.lowercase a = Text.lowercase b) : a = b :=
  List.inj_on_of_nodup_map h.distinct ha hb hab

theorem SafeKeys.nodup {keys : List String} (h : SafeKeys keys) : keys.Nodup :=
  h.distinct.of_map _

namespace Json

def child? : Json → Segment → Option Json
  | .object members, .key name => Members.get? members name
  | .array items, .index position => items[position]?
  | _, _ => none

def at? : Json → List Segment → Option Json
  | value, [] => some value
  | value, s :: rest => (value.child? s).bind fun next => at? next rest

@[simp] theorem at?_nil (value : Json) : value.at? [] = some value := rfl

theorem at?_cons_eq_some {value node : Json} {s : Segment} {rest : List Segment} :
    value.at? (s :: rest) = some node ↔
      ∃ next, value.child? s = some next ∧ next.at? rest = some node := by
  rw [at?, Option.bind_eq_some_iff]

theorem at?_append {value next : Json} {a : List Segment} (h : value.at? a = some next)
    (b : List Segment) : value.at? (a ++ b) = next.at? b := by
  induction a generalizing value with
  | nil =>
    obtain rfl : value = next := by simpa using h
    rfl
  | cons s a ih =>
    obtain ⟨child, hchild, hrest⟩ := at?_cons_eq_some.mp h
    rw [List.cons_append, at?, hchild]
    exact ih hrest

def Everywhere (P : Json → Prop) (value : Json) : Prop :=
  ∀ a node, value.at? a = some node → P node

theorem Everywhere.root {P : Json → Prop} {value : Json} (h : value.Everywhere P) : P value :=
  h [] value rfl

theorem Everywhere.at? {P : Json → Prop} {value node : Json} {a : List Segment}
    (h : value.Everywhere P) (ha : value.at? a = some node) : node.Everywhere P := by
  intro b inner hb
  apply h (a ++ b) inner
  rw [at?_append ha, hb]

theorem Everywhere.child {P : Json → Prop} {value next : Json} {s : Segment}
    (h : value.Everywhere P) (hs : value.child? s = some next) : next.Everywhere P :=
  h.at? (a := [s]) (at?_cons_eq_some.mpr ⟨next, hs, rfl⟩)

theorem everywhere_of_children {P : Json → Prop} {value : Json} (hroot : P value)
    (hchildren : ∀ s next, value.child? s = some next → next.Everywhere P) :
    value.Everywhere P := by
  intro a node ha
  cases a with
  | nil =>
    obtain rfl : value = node := by simpa using ha
    exact hroot
  | cons s a =>
    obtain ⟨next, hnext, hrest⟩ := at?_cons_eq_some.mp ha
    exact hchildren s next hnext a node hrest

theorem Everywhere.mono {P Q : Json → Prop} {value : Json} (h : value.Everywhere P)
    (hPQ : ∀ node, P node → Q node) : value.Everywhere Q := by
  intro a node ha
  exact hPQ node (h a node ha)

def KeysDistinct : Json → Prop
  | .object members => (members.map Prod.fst).Nodup
  | _ => True

def DistinctKeys (value : Json) : Prop :=
  value.Everywhere KeysDistinct

theorem DistinctKeys.keys {members : Members} (h : DistinctKeys (.object members)) :
    (members.map Prod.fst).Nodup :=
  h.root

def KeysSafe : Json → Prop
  | .object members => SafeKeys (members.map Prod.fst)
  | _ => True

def PathSafe (value : Json) : Prop :=
  value.Everywhere KeysSafe

def PositionsFit : Json → Prop
  | .array items => items.length ≤ UInt64.size
  | _ => True

/-- Every position in an array of the value fits 64 bits, as it does for arrays in memory. -/
def Addressable (value : Json) : Prop :=
  value.Everywhere PositionsFit

theorem PathSafe.keys {members : Members} (h : PathSafe (.object members)) :
    SafeKeys (members.map Prod.fst) :=
  h.root

theorem PathSafe.distinctKeys {value : Json} (h : value.PathSafe) : value.DistinctKeys := by
  apply Everywhere.mono (Q := KeysDistinct) h
  intro node hnode
  cases node with
  | object members => exact SafeKeys.nodup hnode
  | _ => trivial

theorem Members.mem_of_get? {members : Members} {key : String} {value : Json}
    (h : Members.get? members key = some value) : (key, value) ∈ members := by
  obtain ⟨⟨found, other⟩, hfind, rfl⟩ := Option.map_eq_some_iff.mp h
  have hkey : found = key := by simpa using List.find?_some hfind
  subst hkey
  exact List.mem_of_find?_eq_some hfind

theorem Members.get?_of_mem {members : Members} {key : String} {value : Json}
    (hdistinct : (members.map Prod.fst).Nodup) (h : (key, value) ∈ members) :
    Members.get? members key = some value := by
  induction members with
  | nil => simp at h
  | cons m rest ih =>
    rw [List.map_cons, List.nodup_cons] at hdistinct
    rcases List.mem_cons.mp h with rfl | hrest
    · simp [Members.get?]
    · have hne : m.1 ≠ key := by
        rintro rfl
        exact hdistinct.1 (List.mem_map.mpr ⟨_, hrest, rfl⟩)
      simpa [Members.get?, List.find?_cons, hne] using ih hdistinct.2 hrest

/-! ## Members as they are written -/

theorem Members.get?_set (members : Members) (key name : String) (value : Json) :
    Members.get? (Members.set members key value) name =
      if key = name then some value else Members.get? members name := by
  induction members with
  | nil => by_cases h : key = name <;> simp [Members.set, Members.get?, h]
  | cons m rest ih =>
    simp only [Members.get?] at ih ⊢
    by_cases hm : m.1 = key
    · simp only [Members.set, if_pos hm]
      by_cases h : key = name <;> simp [h, hm]
    · simp only [Members.set, if_neg hm]
      by_cases hname : m.1 = name
      · have h : key ≠ name := fun h => hm (hname.trans h.symm)
        simp [hname, h]
      · simpa [hname] using ih

theorem Members.set_of_not_mem {members : Members} {key : String}
    (h : key ∉ members.map Prod.fst) (value : Json) :
    Members.set members key value = members ++ [(key, value)] := by
  induction members with
  | nil => rfl
  | cons m rest ih =>
    rw [List.map_cons, List.mem_cons, not_or] at h
    rw [Members.set, if_neg (Ne.symm h.1), ih h.2, List.cons_append]

theorem Members.foldl_set_of_nodup (members before : Members)
    (h : ((before ++ members).map Prod.fst).Nodup) :
    members.foldl (fun ms m => Members.set ms m.1 m.2) before = before ++ members := by
  induction members generalizing before with
  | nil => simp
  | cons m rest ih =>
    have hfresh : m.1 ∉ before.map Prod.fst := by
      rw [List.map_append, List.map_cons] at h
      intro hmem
      exact (List.nodup_append.mp h).2.2 _ hmem _ List.mem_cons_self rfl
    rw [List.foldl_cons, Members.set_of_not_mem hfresh, ih]
    · simp
    · simpa using h

theorem Members.ofList_of_nodup {members : Members} (h : (members.map Prod.fst).Nodup) :
    Members.ofList members = members :=
  Members.foldl_set_of_nodup members [] h

/-! ## Safe values -/

theorem PathSafe.item {items : List Json} (h : PathSafe (.array items)) :
    ∀ item ∈ items, item.PathSafe := by
  intro item hitem
  obtain ⟨position, hposition⟩ := List.mem_iff_getElem?.mp hitem
  exact h.child (s := .index position) hposition

theorem PathSafe.member {members : Members} (h : PathSafe (.object members)) :
    ∀ m ∈ members, m.2.PathSafe := by
  intro m hm
  exact h.child (s := .key m.1) (Members.get?_of_mem h.keys.nodup hm)

/-- The steps of an address in a safe value can be read back from a path. -/
theorem plain_of_at? {value node : Json} {a : List Segment} (hsafe : value.PathSafe)
    (hfit : value.Addressable) (ha : value.at? a = some node) : ∀ s ∈ a, s.Plain := by
  induction a generalizing value with
  | nil => simp
  | cons s a ih =>
    obtain ⟨next, hnext, hrest⟩ := at?_cons_eq_some.mp ha
    have htail := ih (hsafe.child hnext) (hfit.child hnext) hrest
    refine List.forall_mem_cons.mpr ⟨?_, htail⟩
    cases value with
    | object members =>
      cases s with
      | key name =>
        have hmem := Members.mem_of_get? hnext
        exact hsafe.keys.plain name (List.mem_map.mpr ⟨_, hmem, rfl⟩)
      | index n => simp [child?] at hnext
    | array items =>
      cases s with
      | key name => simp [child?] at hnext
      | index n =>
        obtain ⟨hn, -⟩ := List.getElem?_eq_some_iff.mp hnext
        have hlength : items.length ≤ UInt64.size := hfit.root
        exact Nat.lt_of_lt_of_le hn hlength
    | _ => simp [child?] at hnext

theorem everywhere_scalar {P : Json → Prop} {value : Json} (hroot : P value)
    (h : ∀ s, value.child? s = none) : value.Everywhere P := by
  refine everywhere_of_children hroot fun s next hnext => ?_
  simp [h s] at hnext

theorem everywhere_object {P : Json → Prop} {members : Members} (hroot : P (.object members))
    (hmembers : ∀ m ∈ members, m.2.Everywhere P) : Everywhere P (.object members) := by
  refine everywhere_of_children hroot fun s next hnext => ?_
  cases s with
  | key name => exact hmembers _ (Members.mem_of_get? hnext)
  | index n => simp [child?] at hnext

theorem everywhere_array {P : Json → Prop} {items : List Json} (hroot : P (.array items))
    (hitems : ∀ item ∈ items, item.Everywhere P) : Everywhere P (.array items) := by
  refine everywhere_of_children hroot fun s next hnext => ?_
  cases s with
  | key name => simp [child?] at hnext
  | index n => exact hitems _ (List.mem_of_getElem? hnext)

end Json

end TemplateAudit
