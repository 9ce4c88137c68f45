import TemplateAudit.Proofs.Yaml.Layout
import TemplateAudit.Yaml.Node

/-!
# Nodes of written values

The tokens of a written value are composed to one node of the same structure, without anchors and
tags. Each level of nesting takes up some of the fuel, but never more than there are tokens.
-/

namespace TemplateAudit.Yaml

set_option autoImplicit false

/-! ## Values as nodes -/

namespace Value

mutual

def node : Value → Node
  | .sequence items => .sequence (itemNodes items)
  | .mapping entries => .mapping (entryNodes entries)
  | value =>
    match value.scalar? with
    | some (plain, text) => .scalar plain none text
    | none => .absent

def itemNodes : List Value → List Node
  | [] => []
  | item :: rest => node item :: itemNodes rest

def entryNodes : List (Value × Value) → List (Node × Node)
  | [] => []
  | (key, value) :: rest => (node key, node value) :: entryNodes rest

end

theorem node_of_scalar? {value : Value} {plain : Bool} {text : String}
    (h : value.scalar? = some (plain, text)) : value.node = .scalar plain none text := by
  cases value with
  | sequence => cases h
  | mapping => cases h
  | _ => simp [node, h]

end Value

namespace Compose

/-- An action takes some tokens, of which others are left, for its result; it changes nothing
else. -/
def Takes {α : Type} (action : Compose α) (tokens : List Token) (result : α) (left : List Token) :
    Prop :=
  ∀ names anchors, action.run ⟨tokens, names, anchors⟩ = some (result, ⟨left, names, anchors⟩)

theorem Takes.bind {α β : Type} {action : Compose α} {next : α → Compose β}
    {tokens more left : List Token} {result : α} {final : β} (h : Takes action tokens result more)
    (hnext : Takes (next result) more final left) : Takes (action >>= next) tokens final left := by
  intro names anchors
  rw [StateT.run_bind, h names anchors]
  exact hnext names anchors

theorem Takes.map {α β : Type} {action : Compose α} {tokens left : List Token} {result : α}
    (h : Takes action tokens result left) (f : α → β) :
    Takes (f <$> action) tokens (f result) left := by
  intro names anchors
  rw [StateT.run_map, h names anchors]
  rfl

theorem takes_pure {α : Type} (result : α) (tokens : List Token) :
    Takes (pure result) tokens result tokens :=
  fun _ _ => rfl

theorem takes_peek (tokens : List Token) : Takes peek tokens tokens.head? tokens :=
  fun _ _ => rfl

theorem takes_skip (token : Token) (tokens : List Token) : Takes skip (token :: tokens) () tokens :=
  fun _ _ => rfl

theorem takes_nextIn (marks : List Token) (token : Token) (tokens : List Token) :
    Takes (nextIn marks) (token :: tokens) (marks.contains token) (token :: tokens) :=
  fun _ _ => rfl

section Steps
variable {fuel : Nat} {block unindented : Bool} {tokens more left : List Token}

theorem takes_scalar (plain : Bool) (text : String) :
    Takes (node (fuel + 1) block unindented) (.scalar plain text :: left) (.scalar plain none text)
      left :=
  fun _ _ => rfl

theorem takes_emptySequence :
    Takes (node (fuel + 2) block unindented) (.flowSequenceStart :: .flowSequenceEnd :: left)
      (.sequence []) left :=
  fun _ _ => rfl

theorem takes_emptyMapping :
    Takes (node (fuel + 2) block unindented) (.flowMappingStart :: .flowMappingEnd :: left)
      (.mapping []) left :=
  fun _ _ => rfl

theorem takes_properties {token : Token} (hanchor : ∀ name, token ≠ .anchor name)
    (htag : ∀ tag, token ≠ .tag tag) :
    Takes properties (token :: tokens) (none, none) (token :: tokens) := by
  intro names anchors
  cases token with
  | anchor name => exact absurd rfl (hanchor name)
  | tag tag => exact absurd rfl (htag tag)
  | _ => rfl

theorem takes_sequence {items : List Node} (h : Takes (blockItems fuel) tokens items left) :
    Takes (node (fuel + 1) true unindented) (.blockSequenceStart :: tokens) (.sequence items)
      left := by
  rw [node]
  refine (takes_peek _).bind ?_
  refine (takes_properties (by simp) (by simp)).bind ?_
  refine (takes_peek _).bind ?_
  have hcontent : Takes (do skip; Node.sequence <$> blockItems fuel)
      (.blockSequenceStart :: tokens) (.sequence items) left :=
    (takes_skip _ _).bind (h.map Node.sequence)
  exact hcontent.bind (takes_pure _ _)

theorem takes_mapping {entries : List (Node × Node)}
    (h : Takes (blockEntries fuel) tokens entries left) :
    Takes (node (fuel + 1) true unindented) (.blockMappingStart :: tokens) (.mapping entries)
      left := by
  rw [node]
  refine (takes_peek _).bind ?_
  refine (takes_properties (by simp) (by simp)).bind ?_
  refine (takes_peek _).bind ?_
  have hcontent : Takes (do skip; Node.mapping <$> blockEntries fuel)
      (.blockMappingStart :: tokens) (.mapping entries) left :=
    (takes_skip _ _).bind (h.map Node.mapping)
  exact hcontent.bind (takes_pure _ _)

/-- Tokens before which no node is left out. -/
def separators : List Token :=
  [.blockEntry, .key, .value, .blockEnd, .directive, .documentStart, .documentEnd]

/-- Tokens that start a node, which then is not left out. -/
def Opens (tokens : List Token) : Prop :=
  ∃ token rest, tokens = token :: rest ∧ token ∉ separators

theorem Opens.takes_nextIn (h : Opens tokens) {marks : List Token}
    (hmarks : marks ⊆ separators) :
    Takes (nextIn marks) tokens false tokens := by
  obtain ⟨token, rest, rfl, htoken⟩ := h
  have hnot : marks.contains token = false := by
    rw [List.contains_eq_mem, decide_eq_false_iff_not]
    exact fun hmem => htoken (hmarks hmem)
  have htakes := Compose.takes_nextIn marks token rest
  rwa [hnot] at htakes

theorem takes_noItem : Takes (blockItems (fuel + 1)) (.blockEnd :: left) [] left :=
  fun _ _ => rfl

theorem takes_item {item : Node} {items : List Node} (hopens : Opens tokens)
    (hitem : Takes (node fuel true false) tokens item more)
    (hitems : Takes (blockItems fuel) more items left) :
    Takes (blockItems (fuel + 1)) (.blockEntry :: tokens) (item :: items) left := by
  rw [blockItems]
  refine (takes_peek _).bind ((takes_skip _ _).bind ?_)
  refine (hopens.takes_nextIn (by decide)).bind ?_
  exact hitem.bind (hitems.bind (takes_pure _ _))

theorem takes_noEntry : Takes (blockEntries (fuel + 1)) (.blockEnd :: left) [] left :=
  fun _ _ => rfl

theorem takes_value {value : Node} (hopens : Opens tokens)
    (hvalue : Takes (node fuel true true) tokens value left) :
    Takes (blockValue (fuel + 1)) (.value :: tokens) value left := by
  rw [blockValue]
  refine (takes_peek _).bind ((takes_skip _ _).bind ?_)
  exact (hopens.takes_nextIn (by decide)).bind hvalue

theorem takes_entry {key value : Node} {entries : List (Node × Node)} {rest : List Token}
    (hopens : Opens tokens) (hkey : Takes (node fuel true true) tokens key more)
    (hvalue : Takes (blockValue fuel) more value rest)
    (hentries : Takes (blockEntries fuel) rest entries left) :
    Takes (blockEntries (fuel + 1)) (.key :: tokens) ((key, value) :: entries) left := by
  rw [blockEntries]
  refine (takes_peek _).bind ((takes_skip _ _).bind ?_)
  refine (hopens.takes_nextIn (by decide)).bind ?_
  exact hkey.bind (hvalue.bind (hentries.bind (takes_pure _ _)))

end Steps

end Compose

/-! ## Written values -/

namespace Value

open Compose

theorem Keyed.opens {value : Value} (h : Keyed value) (left : List Token) :
    Opens (value.tokens ++ left) := by
  cases h with
  | @scalar value hscalar =>
    obtain ⟨⟨plain, text⟩, hleaf⟩ := Option.isSome_iff_exists.mp hscalar
    rw [tokens_of_scalar? hleaf]
    exact ⟨_, _, rfl, by simp [separators]⟩
  | @sequence items _ =>
    rw [tokens]
    split
    · exact ⟨_, _, rfl, by simp [separators]⟩
    · exact ⟨_, _, rfl, by simp [separators]⟩
  | @record members _ =>
    rw [Value.record, tokens]
    split
    · exact ⟨_, _, rfl, by simp [separators]⟩
    · exact ⟨_, _, rfl, by simp [separators]⟩

def Composes (value : Value) : Prop :=
  ∀ {fuel : Nat} (unindented : Bool) (left : List Token), value.tokens.length ≤ fuel →
    Takes (Compose.node fuel true unindented) (value.tokens ++ left) value.node left

theorem composes_scalar {value : Value} (h : value.scalar?.isSome) : Composes value := by
  intro fuel unindented left hfuel
  obtain ⟨⟨plain, text⟩, hleaf⟩ := Option.isSome_iff_exists.mp h
  rw [tokens_of_scalar? hleaf] at hfuel ⊢
  rw [node_of_scalar? hleaf]
  obtain ⟨fuel, rfl⟩ : ∃ k, fuel = k + 1 := ⟨fuel - 1, by simp at hfuel; omega⟩
  exact takes_scalar plain text

theorem composes_items {items : List Value} (hall : ∀ item ∈ items, Keyed item ∧ Composes item)
    {fuel : Nat} (left : List Token) (hfuel : (itemTokens items).length < fuel) :
    Takes (blockItems fuel) (itemTokens items ++ .blockEnd :: left) (itemNodes items) left := by
  obtain ⟨fuel, rfl⟩ : ∃ k, fuel = k + 1 := ⟨fuel - 1, by omega⟩
  induction items generalizing fuel with
  | nil => exact takes_noItem
  | cons item items ih =>
    obtain ⟨⟨hkeyed, hcomposes⟩, hrest⟩ := List.forall_mem_cons.mp hall
    simp only [itemTokens, List.length_cons, List.length_append] at hfuel
    obtain ⟨fuel, rfl⟩ : ∃ k, fuel = k + 1 := ⟨fuel - 1, by omega⟩
    rw [itemTokens, itemNodes, List.cons_append, List.append_assoc]
    exact takes_item (hkeyed.opens _) (hcomposes _ _ (by omega)) (ih hrest fuel (by omega))

theorem composes_entries {members : List (String × Value)}
    (hall : ∀ m ∈ members, Keyed m.2 ∧ Composes m.2) {fuel : Nat} (left : List Token)
    (hfuel : (entryTokens (members.map fun m => (.string m.1, m.2))).length < fuel) :
    Takes (blockEntries fuel)
      (entryTokens (members.map fun m => (.string m.1, m.2)) ++ .blockEnd :: left)
      (entryNodes (members.map fun m => (.string m.1, m.2))) left := by
  obtain ⟨fuel, rfl⟩ : ∃ k, fuel = k + 1 := ⟨fuel - 1, by omega⟩
  induction members generalizing fuel with
  | nil => exact takes_noEntry
  | cons m members ih =>
    obtain ⟨⟨hkeyed, hcomposes⟩, hrest⟩ := List.forall_mem_cons.mp hall
    simp only [List.map_cons, entryTokens, List.length_cons, List.length_append] at hfuel
    -- The value of an entry lies one level deeper than its key, and each has a token of its own.
    obtain ⟨fuel, rfl⟩ : ∃ k, fuel = k + 1 := ⟨fuel - 1, by omega⟩
    obtain ⟨fuel, rfl⟩ : ∃ k, fuel = k + 1 := ⟨fuel - 1, by omega⟩
    have hkey : Keyed (.string m.1) := .scalar rfl
    rw [List.map_cons, entryTokens, entryNodes, List.cons_append, List.append_assoc,
      List.cons_append, List.append_assoc]
    exact takes_entry (hkey.opens _) (composes_scalar rfl _ _ (by omega))
      (takes_value (hkeyed.opens _) (hcomposes _ _ (by omega))) (ih hrest _ (by omega))

theorem composes_of_keyed {value : Value} (h : Keyed value) : Composes value := by
  induction h with
  | scalar hscalar => exact composes_scalar hscalar
  | @sequence items hitems ih =>
    intro fuel unindented left hfuel
    cases items with
    | nil =>
      obtain ⟨fuel, rfl⟩ : ∃ k, fuel = k + 2 := ⟨fuel - 2, by simp [tokens] at hfuel; omega⟩
      simpa [tokens, node, itemNodes] using takes_emptySequence
    | cons item items =>
      simp only [tokens, List.isEmpty_cons, Bool.false_eq_true, if_false, List.length_cons,
        List.length_append, List.length_nil] at hfuel
      obtain ⟨fuel, rfl⟩ : ∃ k, fuel = k + 1 := ⟨fuel - 1, by omega⟩
      simp only [tokens, List.isEmpty_cons, Bool.false_eq_true, if_false, List.cons_append,
        List.append_assoc, List.nil_append, node]
      exact takes_sequence (composes_items (fun value hvalue => ⟨hitems value hvalue,
        ih value hvalue⟩) left (by omega))
  | @record members hmembers ih =>
    intro fuel unindented left hfuel
    cases members with
    | nil =>
      obtain ⟨fuel, rfl⟩ : ∃ k, fuel = k + 2 :=
        ⟨fuel - 2, by simp [record, tokens] at hfuel; omega⟩
      simpa [record, tokens, node, entryNodes] using takes_emptyMapping
    | cons m members =>
      simp only [record, tokens, List.map_cons, List.isEmpty_cons, Bool.false_eq_true, if_false,
        List.length_cons, List.length_append, List.length_nil] at hfuel
      obtain ⟨fuel, rfl⟩ : ∃ k, fuel = k + 1 := ⟨fuel - 1, by omega⟩
      simp only [record, tokens, List.map_cons, List.isEmpty_cons, Bool.false_eq_true, if_false,
        List.cons_append, List.append_assoc, List.nil_append, node]
      refine takes_mapping (@composes_entries (m :: members) (fun entry hentry =>
        ⟨hmembers entry hentry, ih entry hentry⟩) _ left ?_)
      rw [List.map_cons]
      omega

theorem run_document {value : Value} (h : Keyed value) :
    document.run { tokens := .documentStart :: value.tokens } =
      some (⟨value.node, []⟩, { tokens := [] }) := by
  have hopens := h.opens []
  have hnode := composes_of_keyed h false []
    (show value.tokens.length ≤ 3 * (value.tokens.length + 1) + 3 by omega)
  rw [List.append_nil] at hopens hnode
  have hstart : Takes (documentStart (value.tokens.length + 1 + 1))
      (.documentStart :: value.tokens) true value.tokens := fun _ _ => rfl
  have hempty : Takes (nextIn [.directive, .documentStart, .documentEnd]) value.tokens false
      value.tokens := hopens.takes_nextIn (by decide)
  have hsome : value.tokens.head?.isNone = false := by
    obtain ⟨token, rest, htokens, -⟩ := hopens
    rw [htokens]
    rfl
  have hpeek : Takes peek value.tokens value.tokens.head? value.tokens := takes_peek _
  simp only [document, StateT.run_bind, StateT.run_get, List.length_cons, Option.bind_eq_bind,
    Option.pure_def, Option.bind_some, hstart [] [], hempty [] [], hpeek [] [], hsome, Bool.or_self,
    Bool.and_false, Bool.false_eq_true, if_false, hnode [] []]
  rfl

/-- A record is read from its text as a document, unless one of its keys is too long. -/
theorem read?_render {members : List (String × Value)} (hne : members ≠ [])
    (hkeyed : ∀ m ∈ members, Keyed m.2) :
    Document.read? (record members).render =
      if (record members).keysFit then some ⟨(record members).node, []⟩ else none := by
  rw [Document.read?, scan?_render hne hkeyed]
  split
  · simp only [Option.bind_eq_bind, Option.bind_some, run_document (.record hkeyed)]
    rfl
  · rfl

end Value

end TemplateAudit.Yaml
