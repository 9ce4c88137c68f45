import TemplateAudit.Proofs.Json.Printing

/-!
# Printed values are read back

The strict reader takes the layout of a value without floats to that value again, as long as no
object repeats a key and no more containers nest than the reader allows.
-/

namespace TemplateAudit.Json

set_option autoImplicit false

open Written

theorem DistinctKeys.item {items : List Json} (h : DistinctKeys (.array items)) :
    ∀ item ∈ items, item.DistinctKeys := by
  intro item hitem
  obtain ⟨position, hposition⟩ := List.mem_iff_getElem?.mp hitem
  exact h.child (s := .index position) hposition

theorem DistinctKeys.member {members : Members} (h : DistinctKeys (.object members)) :
    ∀ m ∈ members, m.2.DistinctKeys := by
  intro m hm
  exact h.child (s := .key m.1) (Members.get?_of_mem h.keys hm)

/-! ## Integers -/

theorem foldl_digitValues_toDigits (n : Nat) :
    (digitValues (Nat.toDigits 10 n)).foldl (fun value d => value * 10 + d) 0 = n := by
  have hvalue := Nat.ofDigitChars_ten_toDigits (n := n)
  rw [Nat.ofDigitChars_eq_foldl] at hvalue
  rw [digitValues, List.foldl_map]
  simpa [Nat.mul_comm] using hvalue

theorem number?_ofInt (n : Integer) : (NumberText.ofInt n.value).number? = some (.int n) := by
  have hinteger : (NumberText.ofInt n.value).integer? = some n := by
    obtain ⟨value, hfits⟩ := n
    cases value with
    | ofNat n =>
      simp only [NumberText.ofInt, NumberText.ofParts, NumberText.integer?, fractionDigits,
        exponentDigits, foldl_digitValues_toDigits, Option.isSome_none, Bool.false_and,
        Bool.or_self, Bool.false_eq_true, if_false]
      exact dif_pos hfits
    | negSucc n =>
      simp only [NumberText.ofInt, NumberText.ofParts, NumberText.integer?, fractionDigits,
        exponentDigits, foldl_digitValues_toDigits, Option.isSome_none, Bool.true_and,
        Bool.or_self, Bool.false_or, beq_iff_eq, Nat.succ_ne_zero, if_false, if_true]
      exact dif_pos hfits
  simp only [NumberText.number?, hinteger]

/-! ## Values -/

mutual

/-- A tree that spells a value stands for it, given room for its containers. -/
theorem toJson?_of_spelled : ∀ (value : Json) (tree : Written) (room : Nat), Spelled value tree →
    value.DistinctKeys → value.depth < room → tree.toJson? room = some value
  | .null, _, _, .null, _, _ => by simp only [toJson?]
  | .bool _, _, _, .bool b, _, _ => by simp only [toJson?]
  | .number _, _, _, .int n, _, _ => by simp only [toJson?, number?_ofInt, Option.map_some]
  | .string _, _, _, .string hdenotes, _, _ => by
    simp only [toJson?, hdenotes.decode, Option.map_some]
  | .array items, _, room, .array hitems, hdistinct, hdepth => by
    rw [depth] at hdepth
    have hread := itemsToJson?_of_spelled items _ (room - 1) hitems hdistinct.item (by omega)
    rw [toJson?, if_neg (by omega), hread, Option.map_some]
  | .object members, _, room, .object hmembers, hdistinct, hdepth => by
    rw [depth] at hdepth
    have hread := membersToJson?_of_spelled members _ (room - 1) hmembers hdistinct.member (by omega)
    rw [toJson?, if_neg (by omega), hread, Option.map_some, Members.ofList_of_nodup hdistinct.keys]

theorem itemsToJson?_of_spelled : ∀ (items : List Json) (trees : List Written) (room : Nat),
    List.Forall₂ Spelled items trees → (∀ item ∈ items, item.DistinctKeys) →
    itemsDepth items < room → itemsToJson? room trees = some items
  | [], _, _, .nil, _, _ => by rw [itemsToJson?]
  | item :: rest, _, room, .cons hitem hrest, hdistinct, hdepth => by
    obtain ⟨hhead, htail⟩ := List.forall_mem_cons.mp hdistinct
    rw [itemsDepth] at hdepth
    have hread := toJson?_of_spelled item _ room hitem hhead (by omega)
    have hmore := itemsToJson?_of_spelled rest _ room hrest htail (by omega)
    simp only [itemsToJson?, hread, hmore]

theorem membersToJson?_of_spelled : ∀ (members : List (String × Json))
    (trees : List (List StringUnit × Written)) (room : Nat),
    List.Forall₂ SpelledMember members trees → (∀ m ∈ members, m.2.DistinctKeys) →
    membersDepth members < room → membersToJson? room trees = some members
  | [], _, _, .nil, _, _ => by rw [membersToJson?]
  | (_, value) :: rest, _, room, .cons (.mk hkey hvalue) hrest, hdistinct, hdepth => by
    obtain ⟨hhead, htail⟩ := List.forall_mem_cons.mp hdistinct
    rw [membersDepth] at hdepth
    have hread := toJson?_of_spelled value _ room hvalue hhead (by omega)
    have hmore := membersToJson?_of_spelled rest _ room hrest htail (by omega)
    simp only [membersToJson?, hkey.decode, hread, hmore]

end

theorem read?_layout {value : Json} (hintegral : value.Integral) (hdistinct : value.DistinctKeys)
    (hdepth : value.depth ≤ 127) {text : String}
    (htext : text = value.compact ∨ text = value.pretty) : Json.read? text = some value := by
  obtain ⟨tree, htree, hspelled⟩ := exists_textOf hintegral htext
  simp only [Json.read?, htree.read?]
  exact toJson?_of_spelled value tree 128 hspelled hdistinct (by omega)

end TemplateAudit.Json
