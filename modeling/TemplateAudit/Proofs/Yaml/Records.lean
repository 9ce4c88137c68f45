import TemplateAudit.Proofs.Yaml.Reading

/-!
# Records in YAML documents

Reading a record goes one collection deeper with each of its fields, and what is read as a JSON
value still has room for all that nests in it. A written record is read field by field, whatever
room there is left.
-/

namespace TemplateAudit

set_option autoImplicit false

/-- The value nests no deeper than there is room and repeats no key. -/
def Json.Fits (room : Nat) (value : Json) : Prop :=
  value.depth ≤ room ∧ value.DistinctKeys

theorem Json.fits_array_iff {room : Nat} {items : List Json} :
    Json.Fits (room + 1) (.array items) ↔ ∀ item ∈ items, item.Fits room := by
  rw [Fits, depth, Nat.succ_le_succ_iff, itemsDepth_le_iff, DistinctKeys, everywhere_array_iff]
  exact ⟨fun h item hitem => ⟨h.1 item hitem, h.2.2 item hitem⟩,
    fun h => ⟨fun item hitem => (h item hitem).1, trivial, fun item hitem => (h item hitem).2⟩⟩

namespace Yaml

section Lists
variable {α β : Type}

theorem mapM_eq_some {xs : List α} {f : α → Option β} {g : α → β}
    (h : ∀ x ∈ xs, f x = some (g x)) : xs.mapM f = some (xs.map g) := by
  induction xs with
  | nil => rfl
  | cons x xs ih =>
    obtain ⟨hhead, htail⟩ := List.forall_mem_cons.mp h
    rw [List.mapM_cons, hhead, ih htail, List.map_cons]
    rfl

/-- When no name is repeated, a field is the member of its name. -/
theorem field?_of_mem {members : List (String × α)} (hkeys : (members.map Prod.fst).Nodup)
    {m : String × α} (hm : m ∈ members) : Tree.field? members [m.1] = some (some m.2) := by
  have hfilter : (members.filter fun other => [m.1].contains other.1) = [m] := by
    induction members with
    | nil => cases hm
    | cons first rest ih =>
      obtain ⟨hfresh, hrest⟩ := List.nodup_cons.mp hkeys
      rcases List.mem_cons.mp hm with rfl | hmem
      · have hnone : (rest.filter fun other => [m.1].contains other.1) = [] := by
          refine List.filter_eq_nil_iff.mpr fun other hother => ?_
          have hne : other.1 ≠ m.1 := fun heq => hfresh (heq ▸ List.mem_map_of_mem hother)
          simpa using hne
        rw [List.filter_cons_of_pos (by simp), hnone]
      · have hne : first.1 ≠ m.1 := fun heq => hfresh (heq ▸ List.mem_map_of_mem hmem)
        rw [List.filter_cons_of_neg (by simpa using hne), ih hrest hmem]
  rw [Tree.field?, hfilter]

end Lists

namespace Value

theorem itemNodes_eq_map (items : List Value) : itemNodes items = items.map node := by
  induction items with
  | nil => rw [itemNodes, List.map_nil]
  | cons item rest ih => rw [itemNodes, ih, List.map_cons]

theorem entryNodes_eq_map (entries : List (Value × Value)) :
    entryNodes entries = entries.map fun entry => (node entry.1, node entry.2) := by
  induction entries with
  | nil => rw [entryNodes, List.map_nil]
  | cons entry rest ih => rw [entryNodes, ih, List.map_cons]

/-- A record is written with all of its keys found when its names are short and its values are
written so. -/
theorem keysFit_record {members : List (String × Value)}
    (h : ∀ m ∈ members, (stringChars m.1).length ≤ 1024) :
    (record members).keysFit = true ↔ ∀ m ∈ members, m.2.keysFit = true := by
  rw [record, keysFit]
  induction members with
  | nil => simp [entriesFit]
  | cons m rest ih =>
    obtain ⟨hhead, htail⟩ := List.forall_mem_cons.mp h
    simp [entriesFit, chars, hhead, ih htail]

end Value

namespace View

open TemplateAudit.Tree (field? fields? required? defaulted? optionalField? list?)

/-! ## Records that are read -/

section Read
variable {v w : View}

theorem fits_of_json? {value : Json} (h : Tree.json? v = some value) : value.Fits v.room :=
  v.document.sound_of_jsonAt? v.room v.node value h

theorem room_of_members? {members : List (String × View)} (h : v.members? = some members) :
    ∀ m ∈ members, m.2.room = v.room - 1 := by
  intro m hm
  rw [members?] at h
  split at h
  · split at h
    · cases h
    · obtain ⟨entry, -, hentry⟩ := exists_of_mem_mapM h m hm
      obtain ⟨name, -, rfl⟩ := Option.map_eq_some_iff.mp hentry
      rfl
  · cases h

theorem room_of_items? {items : List View} (h : v.items? = some items) :
    0 < v.room ∧ ∀ item ∈ items, item.room = v.room - 1 := by
  rw [items?] at h
  split at h
  · split at h
    · cases h
    · rename_i hroom
      cases h
      exact ⟨Nat.pos_of_ne_zero hroom, List.forall_mem_map.mpr fun _ _ => rfl⟩
  · cases h

theorem mem_of_field? {members : List (String × View)} {names : List String}
    (h : field? members names = some (some w)) : ∃ name, (name, w) ∈ members := by
  rw [field?] at h
  split at h
  · cases h
  · rename_i m hfilter
    cases h
    exact ⟨m.1, List.mem_of_mem_filter (hfilter ▸ List.mem_singleton_self m)⟩
  · cases h

/-- The fields of a record lie one collection deeper. -/
theorem room_of_fields? {names : List (List String)} {fields : List (Option View)}
    (h : fields? names v = some fields) (hw : some w ∈ fields) : w.room = v.room - 1 := by
  rw [fields?] at h
  split at h
  · rename_i members hmembers
    obtain ⟨name, -, hfield⟩ := exists_of_mem_mapM h (some w) hw
    obtain ⟨key, hmem⟩ := mem_of_field? hfield
    exact room_of_members? hmembers _ hmem
  · split at h
    · rename_i items hitems
      split at h
      · cases h
        rcases List.mem_append.mp hw with hitem | hmissing
        · obtain ⟨item, hmem, hsome⟩ := List.mem_map.mp hitem
          exact Option.some.inj hsome ▸ (room_of_items? hitems).2 item hmem
        · cases List.eq_of_mem_replicate hmissing
      · cases h
    · cases h

theorem room_of_variant? {names : List String} {name : String}
    (h : v.variant? names = some (name, some w)) : w.room = v.room := by
  rw [variant?] at h
  split at h
  · split at h
    · split at h
      · cases h
        rfl
      · cases h
    · cases h
  · cases h
    rfl
  · cases h

theorem eq_of_optional? (h : v.optional? = some (some w)) : w = v := by
  rw [optional?] at h
  split at h
  · obtain ⟨absent, -, habsent⟩ := Option.map_eq_some_iff.mp h
    cases absent <;> cases habsent
    rfl
  · cases h
    rfl
  · cases h

theorem exists_of_optionalField? {β : Type} {read : View → Option β} {field : Option View}
    {value : β} (h : optionalField? read field = some (some value)) :
    ∃ w, field = some w ∧ read w = some value := by
  cases field with
  | none => cases h
  | some w =>
    simp only [optionalField?] at h
    split at h
    · cases h
    · cases h
    · rename_i w' hoptional
      obtain ⟨other, hread, hother⟩ := Option.map_eq_some_iff.mp h
      cases hother
      exact ⟨w, rfl, eq_of_optional? hoptional ▸ hread⟩

/-- What is read of a list comes from views one collection deeper. -/
theorem exists_of_list? {β : Type} {read : View → Option β} {values : List β}
    (h : list? read v = some values) :
    0 < v.room ∧ ∀ value ∈ values, ∃ w : View, w.room = v.room - 1 ∧ read w = some value := by
  obtain ⟨items, hitems, hvalues⟩ := Option.bind_eq_some_iff.mp h
  obtain ⟨hroom, hinside⟩ := room_of_items? hitems
  refine ⟨hroom, fun value hvalue => ?_⟩
  obtain ⟨w, hw, hread⟩ := exists_of_mem_mapM hvalues value hvalue
  exact ⟨w, hinside w hw, hread⟩

end Read

/-! ## Records that are written -/

def ofValue (d : Document) (room : Nat) (value : Value) : View :=
  ⟨d, value.node, room⟩

section Written
variable (d : Document) (room : Nat)

theorem target?_ofValue (value : Value) : (ofValue d room value).target? = some value.node :=
  d.follow?_node value

@[simp] theorem string?_ofValue (s : String) :
    Tree.string? (ofValue d room (.string s)) = some s :=
  d.text?_string s

@[simp] theorem bool?_ofValue (b : Bool) : Tree.bool? (ofValue d room (.bool b)) = some b := by
  cases b <;> rfl

@[simp] theorem double?_ofValue (x : Decimal.Double) :
    Tree.double? (ofValue d room (.float x)) = some x := by
  show (ofValue d room (.float x)).double? = some x
  rw [double?, scalar?, target?_ofValue, Value.node_of_scalar? rfl]
  simp only [Scalar.read?, if_true, ofPlain_double]

@[simp] theorem variant?_record (names : List String) (name : String) (value : Value) :
    Tree.variant? names (ofValue d room (.record [(name, value)])) =
      some (name, some (ofValue d room value)) := by
  show (ofValue d room (.record [(name, value)])).variant? names = _
  rw [variant?, target?_ofValue]
  rfl

/-- A value whose text does not stand for null is not taken for an absent one. -/
theorem optional?_ofValue {value : Value}
    (h : ∀ text, value.scalar? = some (true, text) → text ≠ "~" ∧ text ≠ "null") :
    Tree.optional? (ofValue d room value) = some (some (ofValue d room value)) := by
  show (ofValue d room value).optional? = _
  rw [optional?, target?_ofValue]
  cases hleaf : value.scalar? with
  | none => cases value <;> first | rfl | cases hleaf
  | some leaf =>
    obtain ⟨plain, text⟩ := leaf
    rw [Value.node_of_scalar? hleaf]
    cases plain with
    | false => rfl
    | true =>
      obtain ⟨htilde, hnull⟩ := h text hleaf
      simp [isAbsent?, htilde, hnull]

theorem optional?_string (s : String) : Tree.optional? (ofValue d room (.string s)) =
    some (some (ofValue d room (.string s))) := by
  refine optional?_ofValue d room fun text htext => ?_
  obtain ⟨hquotes, rfl⟩ : needsQuotes s = false ∧ s = text := by simpa [Value.scalar?] using htext
  have hword := ((needsQuotes_eq_false_iff s).mp hquotes).word
  exact ⟨fun h => hword (h ▸ by decide), fun h => hword (h ▸ by decide)⟩

@[simp] theorem optionalField?_string (s : Option String) :
    optionalField? Tree.string? (some (ofValue d room (Form.optional (s.map .string)))) =
      some s := by
  cases s with
  | none => rfl
  | some s =>
    show optionalField? Tree.string? (some (ofValue d room (.string s))) = some (some s)
    simp only [optionalField?, optional?_string, string?_ofValue, Option.map_some]

@[simp] theorem keysFit_optional (s : Option String) :
    Value.keysFit (Form.optional (s.map .string)) = true := by
  cases s <;> exact Value.keysFit_of_scalar? rfl

theorem optional?_ofJson {value : Json} (h : value ≠ .null) :
    Tree.optional? (ofValue d room (.ofJson value)) =
      some (some (ofValue d room (.ofJson value))) := by
  -- A number is written as a text that is read as a number.
  have hnumber {text : String} (hread : Scalar.ofPlain text ≠ .null) :
      text ≠ "~" ∧ text ≠ "null" :=
    ⟨fun htext => hread (htext ▸ rfl), fun htext => hread (htext ▸ rfl)⟩
  cases value with
  | null => exact absurd rfl h
  | string s =>
    rw [Value.ofJson]
    exact optional?_string d room s
  | bool b =>
    rw [Value.ofJson]
    cases b <;> rfl
  | array items =>
    rw [Value.ofJson]
    exact optional?_ofValue d room fun text htext => by cases htext
  | object members =>
    rw [Value.ofJson]
    exact optional?_ofValue d room fun text htext => by cases htext
  | number n =>
    cases n with
    | int n =>
      rw [Value.ofJson]
      refine optional?_ofValue d room fun text htext => hnumber ?_
      cases htext
      rw [ofPlain_int]
      nofun
    | float x =>
      rw [Value.ofJson]
      refine optional?_ofValue d room fun text htext => hnumber ?_
      cases htext
      rw [ofPlain_double]
      nofun

theorem list?_sequence {β : Type} (read : View → Option β) (items : List Value) :
    list? read (ofValue d (room + 1) (.sequence items)) =
      items.mapM fun item => read (ofValue d room item) := by
  have hitems : Tree.items? (ofValue d (room + 1) (.sequence items)) =
      some (items.map (ofValue d room)) := by
    show (ofValue d (room + 1) (.sequence items)).items? = _
    rw [items?, target?_ofValue, Value.node, Value.itemNodes_eq_map]
    simp [ofValue, inside]
  rw [list?, hitems, Option.bind_some, List.mapM_map]
  rfl

theorem members?_record (members : List (String × Value)) :
    Tree.members? (ofValue d (room + 1) (.record members)) =
      some (members.map fun m => (m.1, ofValue d room m.2)) := by
  show (ofValue d (room + 1) (.record members)).members? = _
  rw [members?, target?_ofValue, Value.record, Value.node, Value.entryNodes_eq_map]
  simp only [ofValue, Nat.add_one_ne_zero, if_false, List.map_map, List.mapM_map]
  refine mapM_eq_some fun m _ => ?_
  simp only [Function.comp_apply, d.text?_string, Option.map_some]
  rfl

/-- A written record gives each of its fields once. -/
theorem fields?_record (members : List (String × Value)) (hkeys : (members.map Prod.fst).Nodup) :
    fields? (members.map fun m => [m.1]) (ofValue d (room + 1) (.record members)) =
      some (members.map fun m => some (ofValue d room m.2)) := by
  have hnames : ((members.map fun m => (m.1, ofValue d room m.2)).map Prod.fst).Nodup := by
    simpa [Function.comp_def] using hkeys
  simp only [fields?, members?_record, List.mapM_map]
  refine mapM_eq_some fun m hm => ?_
  exact field?_of_mem hnames (List.mem_map_of_mem hm)

/-- What is written of a value is read again, and all of its keys are found and its form is that of
the value exactly on some condition. -/
def Rereads {α : Type} (read : View → Option α) (toJson : α → Json) (written : Value) (value : α)
    (faithful : Prop) : Prop :=
  ∃ other, read (ofValue d room written) = some other ∧
    ((written.keysFit = true ∧ toJson other = toJson value) ↔ faithful)

section Rereads
variable {d room} {α : Type} {read : View → Option α} {toJson : α → Json} {written : Value}
  {value : α} {faithful other : Prop}

theorem Rereads.congr (h : Rereads d room read toJson written value faithful)
    (hsame : faithful ↔ other) : Rereads d room read toJson written value other :=
  propext hsame ▸ h

theorem rereads_exact (toJson : α → Json) (hread : read (ofValue d room written) = some value)
    (hfits : written.keysFit = true) : Rereads d room read toJson written value True :=
  ⟨value, hread, by simp [hfits]⟩

end Rereads

theorem rereads_ofJson {value : Json} (h : value.Fits room) :
    Rereads d room Tree.json? id (.ofJson value) value (value.Everywhere Json.WrittenBack) :=
  d.jsonAt?_ofJson value room h.2 h.1

theorem rereads_list {α : Type} {read : View → Option α} {toJson : α → Json} {toValue : α → Value}
    {faithful : α → Prop} {values : List α}
    (h : ∀ value ∈ values, Rereads d room read toJson (toValue value) value (faithful value)) :
    Rereads d (room + 1) (list? read) (fun values => .array (values.map toJson))
      (.sequence (values.map toValue)) values (∀ value ∈ values, faithful value) := by
  simp only [Rereads, list?_sequence, Value.keysFit, List.mapM_map, Json.array.injEq]
  induction values with
  | nil => exact ⟨[], rfl, by simp [Value.itemsFit]⟩
  | cons value rest ih =>
    obtain ⟨hhead, htail⟩ := List.forall_mem_cons.mp h
    obtain ⟨other, hother, hself⟩ := hhead
    obtain ⟨others, hothers, hselves⟩ := ih htail
    refine ⟨other :: others, ?_, ?_⟩
    · rw [List.mapM_cons, Function.comp_apply, hother, hothers]
      rfl
    · rw [List.forall_mem_cons, ← hself, ← hselves]
      simp [Value.itemsFit]
      tauto

end Written

end View

end Yaml

end TemplateAudit
