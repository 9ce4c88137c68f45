import TemplateAudit.Proofs.Json.Printing
import TemplateAudit.Tree

/-!
# Records in JSON texts

The members of an object are known by the names that their keys stand for. A field of a record has
several names; it is read when one member has one of them, it is left out when none has, and the
record is refused when two have. What other members hold is never looked at.
-/

namespace TemplateAudit.Json

set_option autoImplicit false

open TemplateAudit.Tree (writtenMembers? field? fields?)

/-- The members of an object, with the names that their keys stand for. -/
def Named (members : List (List StringUnit × Written)) (named : List (String × Written)) : Prop :=
  List.Forall₂ (fun member entry => Denotes member.1 entry.1 ∧ member.2 = entry.2) members named

theorem writtenMembers?_eq_some_iff {members : List (List StringUnit × Written)}
    {named : List (String × Written)} :
    writtenMembers? members = some named ↔ List.Forall₂ (fun member entry =>
      decodeString? member.1 = some entry.1 ∧ member.2 = entry.2) members named := by
  induction members generalizing named with
  | nil =>
    rw [writtenMembers?, Option.some.injEq, List.forall₂_nil_left_iff]
    exact eq_comm
  | cons member rest ih =>
    rw [List.forall₂_cons_left_iff]
    constructor
    · intro h
      rw [writtenMembers?] at h
      split at h
      · rename_i name entries hname hentries
        exact ⟨(name, member.2), entries, ⟨hname, rfl⟩, ih.mp hentries, (Option.some.inj h).symm⟩
      · simp at h
    · rintro ⟨⟨name, value⟩, entries, ⟨hname, hvalue⟩, hentries, rfl⟩
      simp only at hname hvalue
      simp only [writtenMembers?, hname, ih.mpr hentries, hvalue]

theorem Named.writtenMembers? {members : List (List StringUnit × Written)}
    {named : List (String × Written)} (h : Named members named) :
    writtenMembers? members = some named :=
  writtenMembers?_eq_some_iff.mpr (h.imp fun _ _ hentry => ⟨hentry.1.decode, hentry.2⟩)

/-! ## Fields -/

def Absent (names : List String) (named : List (String × Written)) : Prop :=
  ∀ entry ∈ named, entry.1 ∉ names

/-- Exactly one member has one of the names, and holds the value. -/
def Once (names : List String) (named : List (String × Written)) (value : Written) : Prop :=
  ∃ before name after, named = before ++ (name, value) :: after ∧ name ∈ names ∧
    Absent names before ∧ Absent names after

def Twice (names : List String) (members : List (List StringUnit × Written)) : Prop :=
  ∃ first second, [first, second].Sublist members ∧ (∃ name ∈ names, Denotes first.1 name) ∧
    ∃ name ∈ names, Denotes second.1 name

section Fields
variable {names : List String} {named : List (String × Written)}

theorem filter_of_absent (h : Absent names named) :
    named.filter (fun entry => names.contains entry.1) = [] := by
  rw [List.filter_eq_nil_iff]
  intro entry hentry
  simpa using h entry hentry

theorem field?_of_absent (h : Absent names named) : field? named names = some none := by
  rw [field?, filter_of_absent h]

theorem field?_of_once {value : Written} (h : Once names named value) :
    field? named names = some (some value) := by
  obtain ⟨before, name, after, rfl, hname, hbefore, hafter⟩ := h
  rw [field?, List.filter_append, filter_of_absent hbefore,
    List.filter_cons_of_pos (by simpa using hname), filter_of_absent hafter]
  rfl

theorem filter_of_field? {field : Option Written} (h : field? named names = some field) :
    (named.filter fun entry => names.contains entry.1).map Prod.snd = field.toList := by
  rw [field?] at h
  split at h
  · rename_i hfilter
    rw [hfilter, ← Option.some.inj h]
    rfl
  · rename_i entry hfilter
    rw [hfilter, ← Option.some.inj h]
    rfl
  · simp at h

theorem field?_of_mem {field : Option Written} (h : field? named names = some field)
    {entry : String × Written} (hentry : entry ∈ named) (hname : entry.1 ∈ names) :
    field = some entry.2 := by
  have hmem : entry.2 ∈ field.toList := by
    rw [← filter_of_field? h]
    exact List.mem_map_of_mem (List.mem_filter.mpr ⟨hentry, by simpa using hname⟩)
  exact Option.mem_toList.mp hmem

/-- No field is read that two members have names of. -/
theorem field?_unique {field : Option Written} (h : field? named names = some field)
    {first second : String × Written} (hsub : [first, second].Sublist named)
    (hfirst : first.1 ∈ names) : second.1 ∉ names := by
  intro hsecond
  have hpair : [first, second].filter (fun entry => names.contains entry.1) = [first, second] := by
    simp [hfirst, hsecond]
  -- Both would pass the filter, and at most one entry does.
  have hlength := ((hsub.filter fun entry => names.contains entry.1).map Prod.snd).length_le
  rw [hpair, filter_of_field? h] at hlength
  cases field <;> simp at hlength

end Fields

/-! ## Records of two fields -/

/-- A record gives a field by one of its names, or by its position in a list. -/
inductive Gives (names : List String) (position : Nat) : Written → Written → Prop where
  | member {members : List (List StringUnit × Written)} {key : List StringUnit} {name : String}
      {value : Written} : (key, value) ∈ members → Denotes key name → name ∈ names →
      Gives names position (.object members) value
  | item {items : List Written} {value : Written} : items[position]? = some value →
      Gives names position (.array items) value

def Repeats (names : List String) (record : Written) : Prop :=
  ∃ members, record = .object members ∧ Twice names members

theorem exists_sublist_of_forall₂ {α β : Type} {R : α → β → Prop} {part xs : List α} {ys : List β}
    (hpart : part.Sublist xs) (h : List.Forall₂ R xs ys) :
    ∃ other, List.Forall₂ R part other ∧ other.Sublist ys := by
  induction hpart generalizing ys with
  | slnil => exact ⟨[], .nil, List.nil_sublist ys⟩
  | cons _ _ ih =>
    cases h with
    | cons _ hrest =>
      obtain ⟨other, hother, hsub⟩ := ih hrest
      exact ⟨other, hother, hsub.cons _⟩
  | cons_cons _ _ ih =>
    cases h with
    | cons hhead hrest =>
      obtain ⟨other, hother, hsub⟩ := ih hrest
      exact ⟨_ :: other, .cons hhead hother, hsub.cons_cons _⟩

section Two
variable {first second : List String}

theorem fields?_of_named {members : List (List StringUnit × Written)}
    {named : List (String × Written)} {a b : Option Written} (h : Named members named)
    (ha : field? named first = some a) (hb : field? named second = some b) :
    fields? [first, second] (Written.object members) = some [a, b] := by
  have hmembers : Tree.members? (Written.object members) = some named := h.writtenMembers?
  simp [fields?, hmembers, ha, hb]

theorem integral_pair {one other : String} {value next : Json} (h : value.Integral)
    (hnext : next.Integral) : Integral (.object [(one, value), (other, next)]) :=
  .object (by simp [h, hnext])

/-- The members of an object that spells a value, by name. -/
theorem exists_named {members : List (String × Json)} {trees : List (List StringUnit × Written)}
    (h : List.Forall₂ SpelledMember members trees) : ∃ named, Named trees named ∧
      List.Forall₂ (fun member entry => member.1 = entry.1 ∧ Spelled member.2 entry.2)
        members named := by
  induction h with
  | nil => exact ⟨[], .nil, .nil⟩
  | cons hmember _ ih =>
    obtain ⟨named, hnamed, hspelled⟩ := ih
    cases hmember with
    | @mk key _ _ tree hkey hvalue =>
      exact ⟨(key, tree) :: named, .cons ⟨hkey, rfl⟩ hnamed, .cons ⟨rfl, hvalue⟩ hspelled⟩

theorem named_of_spelled {one other : String} {value next : Json} {tree : Written}
    (h : Spelled (.object [(one, value), (other, next)]) tree) :
    ∃ members a b, tree = .object members ∧ Named members [(one, a), (other, b)] ∧
      Spelled value a ∧ Spelled next b := by
  obtain ⟨trees, rfl, hmembers⟩ := h.members
  obtain ⟨named, hnamed, hspelled⟩ := exists_named hmembers
  simp only [List.forall₂_cons_left_iff, List.forall₂_nil_left_iff] at hspelled
  obtain ⟨⟨_, a⟩, _, ⟨rfl, ha⟩, ⟨⟨_, b⟩, _, ⟨rfl, hb⟩, rfl, rfl⟩, rfl⟩ := hspelled
  exact ⟨trees, a, b, rfl, hnamed, ha, hb⟩

theorem once_first {one other : String} (hone : one ∈ first) (hother : other ∉ first)
    (a b : Written) : Once first [(one, a), (other, b)] a :=
  ⟨[], one, [(other, b)], rfl, hone, by simp [Absent], by simpa [Absent] using hother⟩

theorem once_second {one other : String} (hone : one ∉ second) (hother : other ∈ second)
    (a b : Written) : Once second [(one, a), (other, b)] b :=
  ⟨[(one, a)], other, [], rfl, hother, by simpa [Absent] using hone, by simp [Absent]⟩

theorem not_twice_of_field? {members : List (List StringUnit × Written)}
    {named : List (String × Written)} {names : List String} {field : Option Written}
    (hnamed : writtenMembers? members = some named) (h : field? named names = some field) :
    ¬ Twice names members := by
  rintro ⟨one, other, hsub, ⟨name, hname, hone⟩, ⟨name', hname', hother⟩⟩
  obtain ⟨entries, hentries, hsub⟩ :=
    exists_sublist_of_forall₂ hsub (writtenMembers?_eq_some_iff.mp hnamed)
  cases hentries with
  | cons hfirst hrest =>
    cases hrest with
    | cons hsecond hnil =>
      cases hnil
      rw [hone.decode, Option.some.injEq] at hfirst
      rw [hother.decode, Option.some.injEq] at hsecond
      exact field?_unique h hsub (hfirst.1 ▸ hname) (hsecond.1 ▸ hname')

theorem field?_of_gives {members : List (List StringUnit × Written)}
    {named : List (String × Written)} {names : List String} {field : Option Written}
    {position : Nat} {value : Written} (hnamed : writtenMembers? members = some named)
    (h : field? named names = some field) (hgives : Gives names position (.object members) value) :
    field = some value := by
  cases hgives with
  | @member _ key name _ hmember hkey hname =>
    obtain ⟨entries, hentries, hsub⟩ := exists_sublist_of_forall₂
      (List.singleton_sublist.mpr hmember) (writtenMembers?_eq_some_iff.mp hnamed)
    cases hentries with
    | @cons _ entry _ _ hentry hnil =>
      cases hnil
      simp only [hkey.decode, Option.some.injEq] at hentry
      rw [hentry.2]
      exact field?_of_mem h (List.singleton_sublist.mp hsub) (hentry.1 ▸ hname)

theorem fields?_object {members : List (List StringUnit × Written)} {fields : List (Option Written)}
    (h : fields? [first, second] (Written.object members) = some fields) :
    ∃ named a b, writtenMembers? members = some named ∧ field? named first = some a ∧
      field? named second = some b ∧ fields = [a, b] := by
  rw [fields?] at h
  split at h
  · rename_i named hnamed
    cases ha : field? named first with
    | none => simp [ha] at h
    | some a =>
      cases hb : field? named second with
      | none => simp [ha, hb] at h
      | some b => exact ⟨named, a, b, hnamed, ha, hb, by simpa [ha, hb] using h.symm⟩
  · simp [Tree.items?] at h

theorem fields?_array {items : List Written} {fields : List (Option Written)}
    (h : fields? [first, second] (Written.array items) = some fields) :
    fields = [items[0]?, items[1]?] := by
  have hfields : (if items.length ≤ 2 then
      some (items.map some ++ List.replicate (2 - items.length) none) else none) = some fields := h
  split at hfields
  · rename_i hlength
    rw [← Option.some.inj hfields]
    match items, hlength with
    | [], _ => rfl
    | [_], _ => rfl
    | [_, _], _ => rfl
  · simp at hfields

/-- What is read of a record: it repeats no field, and the values are those that it gives. -/
theorem fields?_eq_some {record : Written} {fields : List (Option Written)}
    (h : fields? [first, second] record = some fields) :
    ¬ Repeats first record ∧ ¬ Repeats second record ∧ ∃ a b, fields = [a, b] ∧
      ∀ value, Gives second 1 record value → b = some value := by
  cases record with
  | object members =>
    obtain ⟨named, a, b, hnamed, ha, hb, rfl⟩ := fields?_object h
    refine ⟨?_, ?_, a, b, rfl, fun value => field?_of_gives hnamed hb⟩
    · rintro ⟨_, hobject, htwice⟩
      cases hobject
      exact not_twice_of_field? hnamed ha htwice
    · rintro ⟨_, hobject, htwice⟩
      cases hobject
      exact not_twice_of_field? hnamed hb htwice
  | array items =>
    -- A list has no names to repeat: its fields are its first two items.
    refine ⟨by simp [Repeats], by simp [Repeats], items[0]?, items[1]?, fields?_array h, ?_⟩
    intro value hgives
    cases hgives with
    | item hitem => exact hitem
  | _ => simp [fields?, Tree.members?, Tree.items?] at h

end Two

/-! ## Lists -/

section Lists
variable {β : Type} {read : Written → Option β}

theorem list?_of_forall₂ {values : List β} {items : List Written}
    (h : List.Forall₂ (fun value item => read item = some value) values items) :
    Tree.list? read (Written.array items) = some values := by
  have hread : items.mapM read = some values := by
    induction h with
    | nil => rfl
    | cons hhead _ ih => simp [hhead, ih]
  exact hread

theorem exists_of_list? {items : List Written} {values : List β}
    (h : Tree.list? read (Written.array items) = some values) :
    ∀ item ∈ items, ∃ value, read item = some value := by
  have hread : items.mapM read = some values := h
  clear h
  induction items generalizing values with
  | nil => simp
  | cons item rest ih =>
    simp only [List.mapM_cons, Option.bind_eq_bind, Option.bind_eq_some_iff] at hread
    obtain ⟨value, hvalue, others, hothers, -⟩ := hread
    exact List.forall_mem_cons.mpr ⟨⟨value, hvalue⟩, ih hothers⟩

/-- When the second field of a record is read as a list, no field is repeated and every item of the
list is read. -/
theorem items_of_fields? {first second : List String} {record : Written} {a b : Option Written}
    {values : List β} (hfields : fields? [first, second] record = some [a, b])
    (hlist : Tree.defaulted? [] (Tree.list? read) b = some values) :
    ¬ Repeats first record ∧ ¬ Repeats second record ∧ ∀ items,
      Gives second 1 record (.array items) → ∀ item ∈ items, ∃ value, read item = some value := by
  obtain ⟨hfirst, hsecond, _, field, hboth, hgives⟩ := fields?_eq_some hfields
  obtain ⟨-, rfl⟩ : a = _ ∧ b = field := by simpa using hboth
  refine ⟨hfirst, hsecond, ?_⟩
  intro items hitems
  rw [hgives _ hitems] at hlist
  exact exists_of_list? hlist

/-- A list is given by a field, item by item, or left out when it is empty. -/
inductive ListGiven {α : Type} (names : List String) (named : List (String × Written))
    (writes : α → Written → Prop) : List α → Prop where
  | given {values : List α} {items : List Written} : Once names named (.array items) →
      List.Forall₂ writes values items → ListGiven names named writes values
  | absent : Absent names named → ListGiven names named writes []

theorem ListGiven.exists_field {names : List String} {named : List (String × Written)}
    {writes : β → Written → Prop} {values : List β} (h : ListGiven names named writes values)
    (hread : ∀ value item, writes value item → read item = some value) :
    ∃ field, field? named names = some field ∧
      Tree.defaulted? [] (Tree.list? read) field = some values := by
  cases h with
  | given honce hitems =>
    exact ⟨_, field?_of_once honce, list?_of_forall₂ (hitems.imp hread)⟩
  | absent habsent => exact ⟨none, field?_of_absent habsent, rfl⟩

end Lists

end TemplateAudit.Json
