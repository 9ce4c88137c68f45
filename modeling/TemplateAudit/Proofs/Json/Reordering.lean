import TemplateAudit.Proofs.Json.KeyCase

/-!
# Members in another order

A value with the members of some of its objects in another order, at any depth. Where keys stay
apart, the two values are equal to the same values, and a search for a key finds the same member in
both, again up to order.
-/

namespace TemplateAudit

set_option autoImplicit false

theorem optionRel_cases {α : Type} {r : α → α → Prop} {a b : Option α} (h : Option.Rel r a b) :
    (a = none ∧ b = none) ∨ ∃ x y, a = some x ∧ b = some y ∧ r x y := by
  cases h with
  | none => exact Or.inl ⟨rfl, rfl⟩
  | some hxy => exact Or.inr ⟨_, _, rfl, rfl, hxy⟩

theorem optionRel_map {α β : Type} {r : α → α → Prop} {s : β → β → Prop} {f : α → β}
    {a b : Option α} (h : Option.Rel r a b) (hf : ∀ x y, r x y → s (f x) (f y)) :
    Option.Rel s (a.map f) (b.map f) := by
  cases h with
  | none => exact .none
  | some hxy => exact .some (hf _ _ hxy)

namespace Json

mutual

/-- The same value with the members of its objects in another order. -/
inductive Reordered : Json → Json → Prop where
  | refl (value : Json) : Reordered value value
  | array {items others : List Json} :
      ReorderedItems items others → Reordered (.array items) (.array others)
  | object {members inner others : Members} :
      ReorderedMembers members inner → inner.Perm others →
      Reordered (.object members) (.object others)

inductive ReorderedItems : List Json → List Json → Prop where
  | nil : ReorderedItems [] []
  | cons {item other : Json} {items others : List Json} :
      Reordered item other → ReorderedItems items others →
      ReorderedItems (item :: items) (other :: others)

inductive ReorderedMembers : List (String × Json) → List (String × Json) → Prop where
  | nil : ReorderedMembers [] []
  | cons {key : String} {value other : Json} {members others : List (String × Json)} :
      Reordered value other → ReorderedMembers members others →
      ReorderedMembers ((key, value) :: members) ((key, other) :: others)

end

theorem ReorderedMembers.refl (members : Members) : ReorderedMembers members members := by
  induction members with
  | nil => exact .nil
  | cons m rest ih => exact .cons (.refl m.2) ih

theorem ReorderedItems.refl (items : List Json) : ReorderedItems items items := by
  induction items with
  | nil => exact .nil
  | cons item rest ih => exact .cons (.refl item) ih

theorem Reordered.eq_array {items : List Json} {other : Json} (h : Reordered (.array items) other) :
    ∃ others, other = .array others ∧ ReorderedItems items others := by
  cases h with
  | refl => exact ⟨items, rfl, .refl items⟩
  | array hitems => exact ⟨_, rfl, hitems⟩

theorem Reordered.eq_object {members : Members} {other : Json}
    (h : Reordered (.object members) other) :
    ∃ inner others, other = .object others ∧ ReorderedMembers members inner ∧
      inner.Perm others := by
  cases h with
  | refl => exact ⟨members, members, rfl, .refl members, .refl members⟩
  | object hmembers hperm => exact ⟨_, _, rfl, hmembers, hperm⟩

theorem ReorderedMembers.keys {members others : Members} (h : ReorderedMembers members others) :
    members.map Prod.fst = others.map Prod.fst := by
  induction members generalizing others with
  | nil =>
    cases h
    rfl
  | cons m rest ih =>
    cases h with
    | cons hvalue hrest => rw [List.map_cons, List.map_cons, ih hrest]

theorem ReorderedMembers.length {members others : Members} (h : ReorderedMembers members others) :
    members.length = others.length := by
  rw [← List.length_map (f := Prod.fst), h.keys, List.length_map]

/-! ## Equality -/

theorem sameMembers_eq_all (members others : Members) :
    sameMembers members others =
      members.all fun m => (Members.get? others m.1).any fun other => same m.2 other := by
  induction members with
  | nil => rfl
  | cons m rest ih =>
    rw [sameMembers, ih, List.all_cons]
    cases Members.get? others m.1 <;> rfl

mutual

theorem Reordered.same_left {a b : Json} (h : Reordered a b) (c : Json) : same a c = same b c := by
  cases h with
  | refl => rfl
  | array hitems =>
    cases c with
    | array cs => rw [same, same, hitems.sameItems_left cs]
    | _ => rfl
  | @object members inner others hmembers hperm =>
    cases c with
    | object cs =>
      have hinner : sameMembers inner cs = sameMembers others cs := by
        rw [sameMembers_eq_all, sameMembers_eq_all, hperm.all_eq]
      rw [same, same, hmembers.length, hperm.length_eq, hmembers.sameMembers_left cs, hinner]
    | _ => rfl

theorem ReorderedItems.sameItems_left {as bs : List Json} (h : ReorderedItems as bs)
    (cs : List Json) : sameItems as cs = sameItems bs cs := by
  cases h with
  | nil => rfl
  | cons hitem hrest =>
    cases cs with
    | nil => rfl
    | cons c cs => rw [sameItems, sameItems, hitem.same_left c, hrest.sameItems_left cs]

theorem ReorderedMembers.sameMembers_left {as bs : Members} (h : ReorderedMembers as bs)
    (cs : Members) : sameMembers as cs = sameMembers bs cs := by
  cases h with
  | nil => rfl
  | @cons key value other _ _ hvalue hrest =>
    rw [sameMembers, sameMembers, hrest.sameMembers_left cs]
    cases Members.get? cs key with
    | none => rfl
    | some c => simp only [hvalue.same_left c]

end

/-! ## Searches -/

/-- A value whose keys stay apart, and the same value with its members in another order. -/
structure SameButOrder (value other : Json) : Prop where
  apart : value.CaseApart
  reordered : Reordered value other

def SameMember (m other : String × Json) : Prop :=
  m.1 = other.1 ∧ SameButOrder m.2 other.2

theorem ReorderedMembers.find? {members others : Members} (h : ReorderedMembers members others)
    (hapart : ∀ m ∈ members, m.2.CaseApart) (p : String → Bool) :
    Option.Rel SameMember (members.find? fun m => p m.1) (others.find? fun m => p m.1) := by
  induction members generalizing others with
  | nil =>
    cases h
    exact .none
  | cons m rest ih =>
    cases h with
    | @cons key value other _ _ hvalue hrest =>
      rw [List.forall_mem_cons] at hapart
      rw [List.find?_cons, List.find?_cons]
      cases p key with
      | true => exact .some ⟨rfl, hapart.1, hvalue⟩
      | false => exact ih hrest hapart.2

theorem SameButOrder.keys_other {members others : Members}
    (h : SameButOrder (.object members) (.object others)) : KeysApart (.object others) := by
  obtain ⟨inner, _, hother, hmembers, hperm⟩ := h.reordered.eq_object
  obtain rfl := Json.object.inj hother
  apply keysApart_of_perm _ h.apart.keys
  rw [hmembers.keys]
  exact hperm.map Prod.fst

theorem SameButOrder.find? {members others : Members}
    (h : SameButOrder (.object members) (.object others)) {p : String → Bool}
    (hp : ∀ a b, p a = true → p b = true → Text.asciiEq a b = true) :
    Option.Rel SameMember (members.find? fun m => p m.1) (others.find? fun m => p m.1) := by
  obtain ⟨inner, _, hother, hmembers, hperm⟩ := h.reordered.eq_object
  obtain rfl := Json.object.inj hother
  obtain ⟨hkeys, hvalues⟩ := caseApart_object_iff.mp h.apart
  have hinner : KeysApart (.object inner) := keysApart_of_perm (by rw [hmembers.keys]) hkeys
  rw [← find?_eq_of_perm (hinner.unique hp) hperm]
  exact hmembers.find? hvalues p

theorem SameButOrder.get? {value other : Json} (h : SameButOrder value other) (key : String) :
    Option.Rel SameButOrder (value.get? key) (other.get? key) := by
  cases value with
  | object members =>
    obtain ⟨_, others, rfl, _⟩ := h.reordered.eq_object
    have hexact : ∀ a b, (a == key) = true → (b == key) = true → Text.asciiEq a b = true := by
      intro a b ha hb
      rw [beq_iff_eq.mp ha, beq_iff_eq.mp hb]
      exact Text.asciiEq_refl key
    apply optionRel_map (h.find? hexact)
    intro m n hsame
    exact hsame.2
  | array items =>
    obtain ⟨others, rfl, _⟩ := h.reordered.eq_array
    exact .none
  | _ =>
    cases h.reordered
    exact .none

theorem ReorderedItems.getElem? {items others : List Json} (h : ReorderedItems items others)
    (hapart : ∀ item ∈ items, item.CaseApart) (position : Nat) :
    Option.Rel SameButOrder items[position]? others[position]? := by
  induction items generalizing others position with
  | nil =>
    cases h
    exact .none
  | cons item rest ih =>
    cases h with
    | cons hitem hrest =>
      rw [List.forall_mem_cons] at hapart
      cases position with
      | zero => exact .some ⟨hapart.1, hitem⟩
      | succ position => exact ih hrest hapart.2 position

theorem Reordered.string?_eq {value other : Json} (h : Reordered value other) :
    value.string? = other.string? := by
  cases h <;> rfl

theorem Reordered.finite?_eq {value other : Json} (h : Reordered value other) :
    value.finite? = other.finite? := by
  cases h <;> rfl

mutual

theorem SameButOrder.same_right {a b : Json} (h : SameButOrder a b) : ∀ c, same c a = same c b
  | .array cs => by
    cases a with
    | array items =>
      obtain ⟨others, rfl, hitems⟩ := h.reordered.eq_array
      rw [same, same, hitems.sameItems_right (caseApart_array_iff.mp h.apart) cs]
    | object members =>
      obtain ⟨_, others, rfl, _⟩ := h.reordered.eq_object
      rfl
    | _ =>
      cases h.reordered
      rfl
  | .object cs => by
    cases a with
    | array items =>
      obtain ⟨others, rfl, hitems⟩ := h.reordered.eq_array
      rfl
    | object members =>
      obtain ⟨inner, others, rfl, hmembers, hperm⟩ := h.reordered.eq_object
      rw [same, same, h.sameMembers_right cs, hmembers.length, hperm.length_eq]
    | _ =>
      cases h.reordered
      rfl
  | .null => by cases h.reordered <;> rfl
  | .bool _ => by cases h.reordered <;> rfl
  | .number _ => by cases h.reordered <;> rfl
  | .string _ => by cases h.reordered <;> rfl

theorem ReorderedItems.sameItems_right {as bs : List Json} (h : ReorderedItems as bs)
    (hapart : ∀ a ∈ as, a.CaseApart) : ∀ cs, sameItems cs as = sameItems cs bs
  | [] => by cases h <;> rfl
  | c :: cs => by
    cases h with
    | nil => rfl
    | cons hitem hrest =>
      rw [List.forall_mem_cons] at hapart
      have hsame : SameButOrder _ _ := ⟨hapart.1, hitem⟩
      rw [sameItems, sameItems, hsame.same_right c, hrest.sameItems_right hapart.2 cs]

theorem SameButOrder.sameMembers_right {as bs : Members}
    (h : SameButOrder (.object as) (.object bs)) : ∀ cs, sameMembers cs as = sameMembers cs bs
  | [] => rfl
  | (key, c) :: cs => by
    rw [sameMembers, sameMembers, h.sameMembers_right cs]
    have hget : Option.Rel SameButOrder (Members.get? as key) (Members.get? bs key) := h.get? key
    rcases optionRel_cases hget with ⟨ha, hb⟩ | ⟨a, b, ha, hb, hsame⟩
    · rw [ha, hb]
    · simp only [ha, hb, SameButOrder.same_right hsame c]

end

end Json

end TemplateAudit
