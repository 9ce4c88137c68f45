import TemplateAudit.Proofs.LineIndex.Coverage
import TemplateAudit.Proofs.LineIndex.Grammar

/-!
# Texts that are read are documents

Whatever the strict reader accepts is a document, and the outline of the text has a node for every
address of the value that was read: of several members with one key both take the last. The proof
follows the reader, by induction on its fuel.
-/

namespace TemplateAudit

set_option autoImplicit false

open TemplateAudit.Path

namespace Json

def Written.keys (members : List (List StringUnit × Written)) : List String :=
  members.filterMap fun m => decodeString? m.1

mutual

/-- Every object of a text has safe keys, also those that a repeated key hides. -/
def Written.HasSafeKeys : Written → Prop
  | .array items => Written.ItemsSafe items
  | .object members => SafeKeys (Written.keys members) ∧ Written.MembersSafe members
  | _ => True

def Written.ItemsSafe : List Written → Prop
  | [] => True
  | item :: rest => Written.HasSafeKeys item ∧ Written.ItemsSafe rest

def Written.MembersSafe : List (List StringUnit × Written) → Prop
  | [] => True
  | (_, value) :: rest => Written.HasSafeKeys value ∧ Written.MembersSafe rest

end

def SafeText (text : String) : Prop :=
  ∀ written, Written.read? text.toList = some written → written.HasSafeKeys

theorem Written.itemsToJson?_cons {room : Nat} {item : Written} {rest : List Written}
    {values : List Json} (h : Written.itemsToJson? room (item :: rest) = some values) :
    ∃ value others, item.toJson? room = some value ∧
      Written.itemsToJson? room rest = some others ∧ values = value :: others := by
  rw [Written.itemsToJson?] at h
  split at h
  · rename_i value others hvalue hothers
    exact ⟨value, others, hvalue, hothers, (Option.some.inj h).symm⟩
  · simp at h

theorem Written.membersToJson?_cons {room : Nat} {key : List StringUnit} {item : Written}
    {rest : List (List StringUnit × Written)} {values : List (String × Json)}
    (h : Written.membersToJson? room ((key, item) :: rest) = some values) :
    ∃ name value others, decodeString? key = some name ∧ item.toJson? room = some value ∧
      Written.membersToJson? room rest = some others ∧ values = (name, value) :: others := by
  rw [Written.membersToJson?] at h
  split at h
  · rename_i name value others hname hvalue hothers
    exact ⟨name, value, others, hname, hvalue, hothers, (Option.some.inj h).symm⟩
  · simp at h

end Json

namespace LineIndex

open Json

/-! ## Blanks and numbers as the reader takes them -/

theorem exists_blanks (cs : List Char) : ∃ ws, Blanks ws ∧ cs = ws ++ Written.skipBlanks cs := by
  refine ⟨cs.takeWhile Text.isJsonBlank, ?_, ?_⟩
  · exact blanks_iff.mpr fun c hc => List.mem_takeWhile_imp hc
  · rw [Written.skipBlanks, List.takeWhile_append_dropWhile]

/-- `after` is what some characters of numbers leave of `cs`. -/
def Leaves (cs after : List Char) : Prop :=
  ∃ text, cs = text ++ after ∧ ∀ c ∈ text, NumberChar c

theorem leaves_refl (cs : List Char) : Leaves cs cs :=
  ⟨[], rfl, by simp⟩

theorem Leaves.cons {c : Char} {cs after : List Char} (hc : NumberChar c) (h : Leaves cs after) :
    Leaves (c :: cs) after := by
  obtain ⟨text, rfl, htext⟩ := h
  exact ⟨c :: text, rfl, List.forall_mem_cons.mpr ⟨hc, htext⟩⟩

theorem Leaves.trans {cs mid after : List Char} (h : Leaves cs mid) (h' : Leaves mid after) :
    Leaves cs after := by
  obtain ⟨text, rfl, htext⟩ := h
  obtain ⟨more, rfl, hmore⟩ := h'
  exact ⟨text ++ more, by simp, List.forall_mem_append.mpr ⟨htext, hmore⟩⟩

theorem numberChar_of_digit? {c : Char} {d : Nat} (h : Written.digit? c = some d) :
    NumberChar c := by
  rw [Written.digit?] at h
  split at h
  · rename_i hbounds
    exact Or.inl hbounds
  · simp at h

theorem leaves_digits (cs : List Char) : Leaves cs (Written.digits cs).2 := by
  induction cs with
  | nil => exact leaves_refl []
  | cons c rest ih =>
    rw [Written.digits]
    split
    · rename_i d hd
      exact ih.cons (numberChar_of_digit? hd)
    · exact leaves_refl _

def LeavesFewer (cs after : List Char) : Prop :=
  ∃ c rest, cs = c :: rest ∧ NumberChar c ∧ Leaves rest after

theorem LeavesFewer.trans {cs mid after : List Char} (h : LeavesFewer cs mid)
    (h' : Leaves mid after) : LeavesFewer cs after := by
  obtain ⟨c, rest, rfl, hc, hrest⟩ := h
  exact ⟨c, rest, rfl, hc, hrest.trans h'⟩

theorem LeavesFewer.leaves {cs after : List Char} (h : LeavesFewer cs after) : Leaves cs after := by
  obtain ⟨c, rest, rfl, hc, hrest⟩ := h
  exact hrest.cons hc

theorem LeavesFewer.word {cs after : List Char} (h : LeavesFewer cs after) :
    ∃ text, Word text ∧ cs = text ++ after := by
  obtain ⟨c, rest, rfl, hc, text, rfl, htext⟩ := h
  exact ⟨c :: text, word_of_numberChars (by simp) (List.forall_mem_cons.mpr ⟨hc, htext⟩), rfl⟩

theorem digits1?_leaves {cs after : List Char} {ds : List Nat}
    (h : Written.digits1? cs = some (ds, after)) : LeavesFewer cs after := by
  rw [Written.digits1?] at h
  split at h
  · simp at h
  · rename_i found hne
    cases cs with
    | nil => exact absurd rfl (hne [])
    | cons c rest =>
      cases hd : Written.digit? c with
      | none => exact absurd (by simp [Written.digits, hd]) (hne (c :: rest))
      | some d =>
        have hafter : (Written.digits rest).2 = after := by
          simpa [Written.digits, hd] using congrArg (Option.map Prod.snd) h
        exact ⟨c, rest, rfl, numberChar_of_digit? hd, hafter ▸ leaves_digits rest⟩

theorem whole?_leaves {cs after : List Char} {ds : List Nat}
    (h : Written.whole? cs = some (ds, after)) : LeavesFewer cs after := by
  rw [Written.whole?.eq_def] at h
  split at h
  · rename_i rest
    obtain ⟨-, rfl⟩ : [0] = ds ∧ rest = after := by simpa using h
    exact ⟨'0', rest, rfl, by decide, leaves_refl rest⟩
  · exact digits1?_leaves h

theorem fraction?_leaves {cs after : List Char} {ds : Option (List Nat)}
    (h : Written.fraction? cs = some (ds, after)) : Leaves cs after := by
  rw [Written.fraction?.eq_def] at h
  split at h
  · obtain ⟨⟨digits, rest⟩, hdigits, heq⟩ := Option.map_eq_some_iff.mp h
    obtain ⟨-, rfl⟩ : some digits = ds ∧ rest = after := by simpa using heq
    exact (digits1?_leaves hdigits).leaves.cons (by decide)
  · obtain ⟨-, rfl⟩ : none = ds ∧ cs = after := by simpa using h
    exact leaves_refl cs

theorem exponentSign_leaves (cs : List Char) : Leaves cs (Written.exponentSign cs).2 := by
  rw [Written.exponentSign.eq_def]
  split
  · exact (leaves_refl _).cons (by decide)
  · exact (leaves_refl _).cons (by decide)
  · exact leaves_refl _

theorem exponent?_leaves {cs after : List Char} {e : Option (Bool × List Nat)}
    (h : Written.exponent? cs = some (e, after)) : Leaves cs after := by
  rw [Written.exponent?.eq_def] at h
  split at h
  · rename_i c rest
    split at h
    · rename_i hc
      obtain ⟨⟨digits, last⟩, hdigits, heq⟩ := Option.map_eq_some_iff.mp h
      obtain ⟨-, rfl⟩ : some _ = e ∧ last = after := by simpa using heq
      have hmark : NumberChar c := by
        rcases (by simpa using hc : c = 'e' ∨ c = 'E') with rfl | rfl <;> decide
      exact ((exponentSign_leaves rest).trans (digits1?_leaves hdigits).leaves).cons hmark
    · obtain ⟨-, rfl⟩ : none = e ∧ c :: rest = after := by simpa using h
      exact leaves_refl _
  · obtain ⟨-, rfl⟩ : none = e ∧ [] = after := by simpa using h
    exact leaves_refl _

theorem number?_leaves {negative : Bool} {cs after : List Char} {n : NumberText}
    (h : Written.number? negative cs = some (n, after)) : LeavesFewer cs after := by
  obtain ⟨⟨whole, afterWhole⟩, hwhole, h⟩ := Option.bind_eq_some_iff.mp h
  obtain ⟨⟨fraction, afterFraction⟩, hfraction, h⟩ := Option.bind_eq_some_iff.mp h
  obtain ⟨⟨exponent, rest⟩, hexponent, h⟩ := Option.bind_eq_some_iff.mp h
  obtain ⟨-, rfl⟩ : _ = n ∧ rest = after := by simpa using h
  exact ((whole?_leaves hwhole).trans (fraction?_leaves hfraction)).trans
    (exponent?_leaves hexponent)

/-! ## The reader follows the grammar -/

/-- What is known of the outline of a text that was read. With safe keys the value has lost no
members, and so none of the arrays in them. -/
structure Reflects (written : Written) (value : Json) (node : Outline) : Prop where
  covers : node.Covers value
  safe : written.HasSafeKeys → node.PathSafe
  longest : written.HasSafeKeys → node.longest = value.longest

structure ReflectsItems (written : List Written) (values : List Json) (nodes : List Outline) :
    Prop where
  covers : List.Forall₂ Outline.Covers nodes values
  safe : Written.ItemsSafe written → ∀ node ∈ nodes, node.PathSafe
  longest : Written.ItemsSafe written → Outline.longestOfItems nodes = itemsLongest values

structure ReflectsMembers (written : List (List StringUnit × Written))
    (values : List (String × Json)) (nodes : List (String × Outline)) : Prop where
  covers : List.Forall₂ (fun n m => n.1 = m.1 ∧ n.2.Covers m.2) nodes values
  keys : Written.keys written = nodes.map Prod.fst
  safe : Written.MembersSafe written → ∀ node ∈ nodes, node.2.PathSafe
  longest : Written.MembersSafe written → Outline.longestOfMembers nodes = membersLongest values

theorem ReflectsItems.nil : ReflectsItems [] [] [] where
  covers := .nil
  safe := by simp
  longest := fun _ => rfl

theorem ReflectsItems.cons {item : Written} {value : Json} {node : Outline}
    {written : List Written} {values : List Json} {nodes : List Outline}
    (h : Reflects item value node) (hrest : ReflectsItems written values nodes) :
    ReflectsItems (item :: written) (value :: values) (node :: nodes) where
  covers := .cons h.covers hrest.covers
  safe := by
    intro hsafe
    rw [Written.ItemsSafe] at hsafe
    exact List.forall_mem_cons.mpr ⟨h.safe hsafe.1, hrest.safe hsafe.2⟩
  longest := by
    intro hsafe
    rw [Written.ItemsSafe] at hsafe
    rw [Outline.longestOfItems, itemsLongest, h.longest hsafe.1, hrest.longest hsafe.2]

theorem ReflectsMembers.nil : ReflectsMembers [] [] [] where
  covers := .nil
  keys := rfl
  safe := by simp
  longest := fun _ => rfl

theorem ReflectsMembers.cons {key : List StringUnit} {name : String} {item : Written}
    {value : Json} {node : Outline} {written : List (List StringUnit × Written)}
    {values : List (String × Json)} {nodes : List (String × Outline)}
    (hname : decodeString? key = some name) (h : Reflects item value node)
    (hrest : ReflectsMembers written values nodes) :
    ReflectsMembers ((key, item) :: written) ((name, value) :: values) ((name, node) :: nodes) where
  covers := .cons ⟨rfl, h.covers⟩ hrest.covers
  keys := by simpa [Written.keys, hname] using hrest.keys
  safe := by
    intro hsafe
    rw [Written.MembersSafe] at hsafe
    exact List.forall_mem_cons.mpr ⟨h.safe hsafe.1, hrest.safe hsafe.2⟩
  longest := by
    intro hsafe
    rw [Written.MembersSafe] at hsafe
    rw [Outline.longestOfMembers, membersLongest, h.longest hsafe.1, hrest.longest hsafe.2]

theorem longest_of_childless {value : Json} (h : ∀ s, value.child? s = none) :
    value.longest = 0 := by
  cases value with
  | array items =>
    cases items with
    | nil => rfl
    | cons item rest => simpa [Json.child?] using h (.index 0)
  | object members =>
    cases members with
    | nil => rfl
    | cons m rest => simpa [Json.child?, Members.get?] using h (.key m.1)
  | _ => rfl

theorem reflects_leaf {written : Written} {value : Json} (line : Nat)
    (h : ∀ s, value.child? s = none) : Reflects written value (.leaf line) where
  covers := Outline.covers_step fun s next hnext => by simp [h s] at hnext
  safe := fun _ => Outline.pathSafe_leaf line
  longest := fun _ => (longest_of_childless h).symm

theorem reflects_array {written : List Written} {values : List Json} {nodes : List Outline}
    (line : Nat) (h : ReflectsItems written values nodes) :
    Reflects (.array written) (.array values) (.array line nodes) where
  covers := Outline.covers_array h.covers
  safe := fun hsafe => Outline.pathSafe_array (h.safe (by simpa [Written.HasSafeKeys] using hsafe))
  longest := by
    intro hsafe
    rw [Written.HasSafeKeys] at hsafe
    rw [Outline.longest, Json.longest, h.covers.length_eq, h.longest hsafe]

theorem reflects_object {written : List (List StringUnit × Written)}
    {values : List (String × Json)} {nodes : List (String × Outline)} (line : Nat)
    (h : ReflectsMembers written values nodes) :
    Reflects (.object written) (.object (Members.ofList values)) (.object line nodes) where
  covers := Outline.covers_object h.covers
  safe := by
    intro hsafe
    rw [Written.HasSafeKeys] at hsafe
    exact Outline.pathSafe_object (h.keys ▸ hsafe.1) (h.safe hsafe.2)
  longest := by
    intro hsafe
    rw [Written.HasSafeKeys] at hsafe
    have hnames : nodes.map Prod.fst = values.map Prod.fst := by
      rw [← List.forall₂_eq_eq_eq, List.forall₂_map_left_iff, List.forall₂_map_right_iff]
      exact h.covers.imp fun _ _ hpair => hpair.1
    have hdistinct : (values.map Prod.fst).Nodup := by
      rw [← hnames, ← h.keys]
      exact hsafe.1.nodup
    rw [Outline.longest, Members.ofList_of_nodup hdistinct, Json.longest, h.longest hsafe.2]

/-- Up to `after` the text is a value, with an outline for each line that it may be counted from. -/
def ReadsTo (limit depth : Nat) (before text after : List Char) (written : Written) (value : Json) :
    Prop :=
  ∃ front, text = front ++ after ∧ ∀ line, ∃ node : Outline, node.line = line ∧
    Derives limit depth before front (.value node) ∧ Reflects written value node

/-- What is read as a value is one; its value leaves `room` for further containers. -/
def ValueReads (limit fuel : Nat) : Prop :=
  ∀ cs written after, Written.value? fuel cs = some (written, after) →
    ∀ room value, written.toJson? room = some value → ∀ depth before, depth + room ≤ limit →
      ReadsTo limit depth before cs after written value

def ItemsRead (limit fuel : Nat) : Prop :=
  ∀ cs written after, Written.items? fuel cs = some (written, after) →
    ∀ room values, Written.itemsToJson? room written = some values →
      ∀ depth before lead, depth + 1 + room ≤ limit → Blanks lead →
        ∃ text nodes, cs = text ++ ']' :: after ∧
          Derives limit depth before (lead ++ text) (.items nodes) ∧
          ReflectsItems written values nodes

def MembersRead (limit fuel : Nat) : Prop :=
  ∀ cs written after, Written.members? fuel cs = some (written, after) →
    ∀ room values, Written.membersToJson? room written = some values →
      ∀ depth before lead, depth + 1 + room ≤ limit → Blanks lead →
        ∃ text nodes, cs = text ++ '}' :: after ∧
          Derives limit depth before (lead ++ text) (.members nodes) ∧
          ReflectsMembers written values nodes

theorem room_of_array {room : Nat} {items : List Written} {value : Json}
    (h : (Written.array items).toJson? room = some value) :
    1 < room ∧ ∃ values, Written.itemsToJson? (room - 1) items = some values ∧
      value = .array values := by
  rw [Written.toJson?] at h
  split at h
  · simp at h
  · rename_i hroom
    obtain ⟨values, hvalues, rfl⟩ := Option.map_eq_some_iff.mp h
    exact ⟨Nat.lt_of_not_le hroom, values, hvalues, rfl⟩

theorem room_of_object {room : Nat} {members : List (List StringUnit × Written)} {value : Json}
    (h : (Written.object members).toJson? room = some value) :
    1 < room ∧ ∃ values, Written.membersToJson? (room - 1) members = some values ∧
      value = .object (Members.ofList values) := by
  rw [Written.toJson?] at h
  split at h
  · simp at h
  · rename_i hroom
    obtain ⟨values, hvalues, rfl⟩ := Option.map_eq_some_iff.mp h
    exact ⟨Nat.lt_of_not_le hroom, values, hvalues, rfl⟩

theorem child?_number_none {text : NumberText} {room : Nat} {value : Json}
    (h : (Written.number text).toJson? room = some value) (s : Segment) :
    value.child? s = none := by
  rw [Written.toJson?] at h
  obtain ⟨n, -, rfl⟩ := Option.map_eq_some_iff.mp h
  rfl

section Branches
variable {limit depth : Nat} {before after : List Char} (hlimit : depth ≤ limit)
include hlimit

theorem readsTo_word {text : List Char} {written : Written} {value : Json} (hword : Word text)
    (hscalar : ∀ s, value.child? s = none) :
    ReadsTo limit depth before (text ++ after) after written value :=
  ⟨text, rfl, fun line => ⟨.leaf line, rfl, .word hlimit hword, reflects_leaf line hscalar⟩⟩

theorem readsTo_literal {body chars : List Char} {written : Written} {value : Json}
    (hspells : Spells body chars) (hscalar : ∀ s, value.child? s = none) :
    ReadsTo limit depth before ('"' :: (body ++ '"' :: after)) after written value := by
  refine ⟨'"' :: body ++ ['"'], by simp, fun line => ⟨.leaf line, rfl, ?_, ?_⟩⟩
  · exact .literal hlimit hspells
  · exact reflects_leaf line hscalar

theorem readsTo_emptyArray {rest : List Char} (hclose : Written.skipBlanks rest = ']' :: after) :
    ReadsTo limit depth before ('[' :: rest) after (.array []) (.array []) := by
  obtain ⟨gap, hgap, hrest⟩ := exists_blanks rest
  refine ⟨'[' :: gap ++ [']'], by rw [hrest, hclose]; simp, fun line => ?_⟩
  exact ⟨.array line [], rfl, .emptyArray hlimit hgap, reflects_array line .nil⟩

theorem readsTo_items {fuel room : Nat} {rest : List Char} {items : List Written}
    {values : List Json} (hitems : ItemsRead limit fuel) (hdepth : depth + 1 + room ≤ limit)
    (hread : Written.items? fuel (Written.skipBlanks rest) = some (items, after))
    (hvalues : Written.itemsToJson? room items = some values) :
    ReadsTo limit depth before ('[' :: rest) after (.array items) (.array values) := by
  obtain ⟨gap, hgap, hrest⟩ := exists_blanks rest
  obtain ⟨text, nodes, htext, hderives, hreflects⟩ :=
    hitems _ _ _ hread _ _ hvalues depth (before ++ ['[']) gap hdepth hgap
  refine ⟨'[' :: (gap ++ text) ++ [']'], by rw [hrest, htext]; simp, fun line => ?_⟩
  exact ⟨.array line nodes, rfl, .array hlimit hderives, reflects_array line hreflects⟩

theorem readsTo_emptyObject {rest : List Char} (hclose : Written.skipBlanks rest = '}' :: after) :
    ReadsTo limit depth before ('{' :: rest) after (.object []) (.object []) := by
  obtain ⟨gap, hgap, hrest⟩ := exists_blanks rest
  refine ⟨'{' :: gap ++ ['}'], by rw [hrest, hclose]; simp, fun line => ?_⟩
  exact ⟨.object line [], rfl, .emptyObject hlimit hgap, reflects_object line .nil⟩

theorem readsTo_members {fuel room : Nat} {rest : List Char}
    {members : List (List StringUnit × Written)} {values : List (String × Json)}
    (hmembers : MembersRead limit fuel) (hdepth : depth + 1 + room ≤ limit)
    (hread : Written.members? fuel (Written.skipBlanks rest) = some (members, after))
    (hvalues : Written.membersToJson? room members = some values) :
    ReadsTo limit depth before ('{' :: rest) after (.object members)
      (.object (Members.ofList values)) := by
  obtain ⟨gap, hgap, hrest⟩ := exists_blanks rest
  obtain ⟨text, nodes, htext, hderives, hreflects⟩ :=
    hmembers _ _ _ hread _ _ hvalues depth (before ++ ['{']) gap hdepth hgap
  refine ⟨'{' :: (gap ++ text) ++ ['}'], by rw [hrest, htext]; simp, fun line => ?_⟩
  exact ⟨.object line nodes, rfl, .object hlimit hderives, reflects_object line hreflects⟩

end Branches

theorem valueReads_succ {limit fuel : Nat} (hitems : ItemsRead limit fuel)
    (hmembers : MembersRead limit fuel) : ValueReads limit (fuel + 1) := by
  intro cs written after h room value hvalue depth before hdepth
  have hlimit : depth ≤ limit := by omega
  rw [Written.value?.eq_def] at h
  simp only at h
  -- One case for each branch of the reader: the three names, a string, a negative number, the two
  -- kinds of containers, each empty or not, and any other number.
  split at h
  · obtain ⟨rfl, rfl⟩ : Written.null = written ∧ _ = after := by simpa using h
    obtain rfl : Json.null = value := by simpa [Written.toJson?] using hvalue
    exact readsTo_word hlimit word_null fun _ => rfl
  · obtain ⟨rfl, rfl⟩ : Written.bool true = written ∧ _ = after := by simpa using h
    obtain rfl : Json.bool true = value := by simpa [Written.toJson?] using hvalue
    exact readsTo_word hlimit word_true fun _ => rfl
  · obtain ⟨rfl, rfl⟩ : Written.bool false = written ∧ _ = after := by simpa using h
    obtain rfl : Json.bool false = value := by simpa [Written.toJson?] using hvalue
    exact readsTo_word hlimit word_false fun _ => rfl
  · obtain ⟨⟨units, last⟩, hunits, heq⟩ := Option.map_eq_some_iff.mp h
    obtain ⟨rfl, rfl⟩ : Written.string units = written ∧ last = after := by simpa using heq
    rw [Written.toJson?] at hvalue
    obtain ⟨s, hs, rfl⟩ := Option.map_eq_some_iff.mp hvalue
    obtain ⟨body, rfl, hspells⟩ := stringUnits?_decode_iff.mp ⟨units, hunits, hs⟩
    exact readsTo_literal hlimit hspells fun _ => rfl
  · rename_i rest
    obtain ⟨⟨n, last⟩, hn, heq⟩ := Option.map_eq_some_iff.mp h
    obtain ⟨rfl, rfl⟩ : Written.number n = written ∧ last = after := by simpa using heq
    have hleaves : LeavesFewer ('-' :: rest) last :=
      ⟨'-', rest, rfl, by decide, (number?_leaves hn).leaves⟩
    obtain ⟨text, hword, htext⟩ := hleaves.word
    rw [htext]
    exact readsTo_word hlimit hword (child?_number_none hvalue)
  · split at h
    · rename_i last hclose
      obtain ⟨rfl, rfl⟩ : Written.array [] = written ∧ last = after := by simpa using h
      obtain ⟨-, values, hvalues, rfl⟩ := room_of_array hvalue
      obtain rfl : [] = values := by simpa [Written.itemsToJson?] using hvalues
      exact readsTo_emptyArray hlimit hclose
    · obtain ⟨⟨items, last⟩, hread, heq⟩ := Option.map_eq_some_iff.mp h
      obtain ⟨rfl, rfl⟩ : Written.array items = written ∧ last = after := by simpa using heq
      obtain ⟨hroom, values, hvalues, rfl⟩ := room_of_array hvalue
      exact readsTo_items hlimit hitems (by omega) hread hvalues
  · split at h
    · rename_i last hclose
      obtain ⟨rfl, rfl⟩ : Written.object [] = written ∧ last = after := by simpa using h
      obtain ⟨-, values, hvalues, rfl⟩ := room_of_object hvalue
      obtain rfl : [] = values := by simpa [Written.membersToJson?] using hvalues
      exact readsTo_emptyObject hlimit hclose
    · obtain ⟨⟨members, last⟩, hread, heq⟩ := Option.map_eq_some_iff.mp h
      obtain ⟨rfl, rfl⟩ : Written.object members = written ∧ last = after := by simpa using heq
      obtain ⟨hroom, values, hvalues, rfl⟩ := room_of_object hvalue
      exact readsTo_members hlimit hmembers (by omega) hread hvalues
  · obtain ⟨⟨n, last⟩, hn, heq⟩ := Option.map_eq_some_iff.mp h
    obtain ⟨rfl, rfl⟩ : Written.number n = written ∧ last = after := by simpa using heq
    obtain ⟨text, hword, rfl⟩ := (number?_leaves hn).word
    exact readsTo_word hlimit hword (child?_number_none hvalue)

theorem item_reads {limit fuel : Nat} (hvalue : ValueReads limit fuel) {cs rest : List Char}
    {item : Written} {room : Nat} {value : Json}
    (hitem : Written.value? fuel cs = some (item, rest)) (hjson : item.toJson? room = some value)
    {depth : Nat} {before lead trail : List Char} (hdepth : depth + 1 + room ≤ limit)
    (hlead : Blanks lead) (htrail : Blanks trail) :
    ∃ text node, cs = text ++ rest ∧
      Derives limit depth before (lead ++ text ++ trail) (.item node) ∧
      Reflects item value node := by
  obtain ⟨text, htext, hnode⟩ := hvalue _ _ _ hitem _ _ hjson (depth + 1) (before ++ lead) hdepth
  obtain ⟨node, hline, hderives, hreflects⟩ := hnode (lineAfter (before ++ lead))
  exact ⟨text, node, htext, .item hlead hderives hline htrail, hreflects⟩

theorem itemsRead_succ {limit fuel : Nat} (hvalue : ValueReads limit fuel)
    (hitems : ItemsRead limit fuel) : ItemsRead limit (fuel + 1) := by
  intro cs written after h room values hvalues depth before lead hdepth hlead
  rw [Written.items?.eq_def] at h
  simp only at h
  split at h
  · simp at h
  · rename_i item rest hitem
    obtain ⟨trail, htrail, hrest⟩ := exists_blanks rest
    split at h
    · rename_i more hcomma
      obtain ⟨⟨others, last⟩, hmore, heq⟩ := Option.map_eq_some_iff.mp h
      obtain ⟨rfl, rfl⟩ : item :: others = written ∧ last = after := by simpa using heq
      obtain ⟨value, otherValues, hjson, hothers, rfl⟩ := Written.itemsToJson?_cons hvalues
      obtain ⟨text, node, rfl, hderives, hreflects⟩ :=
        item_reads hvalue hitem hjson hdepth hlead htrail
      obtain ⟨gap, hgap, hafter⟩ := exists_blanks more
      obtain ⟨inner, nodes, hinner, hrestDerives, hothersReflect⟩ :=
        hitems _ _ _ hmore _ _ hothers depth (before ++ (lead ++ text ++ trail) ++ [',']) gap
          hdepth hgap
      refine ⟨text ++ trail ++ ',' :: (gap ++ inner), node :: nodes, ?_, ?_,
        .cons hreflects hothersReflect⟩
      · rw [hrest, hcomma, hafter, hinner]
        simp
      · simpa using Derives.moreItems hderives hrestDerives
    · rename_i last hclose
      obtain ⟨rfl, rfl⟩ : [item] = written ∧ last = after := by simpa using h
      obtain ⟨value, otherValues, hjson, hothers, rfl⟩ := Written.itemsToJson?_cons hvalues
      obtain rfl : [] = otherValues := by simpa [Written.itemsToJson?] using hothers
      obtain ⟨text, node, rfl, hderives, hreflects⟩ :=
        item_reads hvalue hitem hjson hdepth hlead htrail
      refine ⟨text ++ trail, [node], ?_, ?_, .cons hreflects .nil⟩
      · rw [hrest, hclose]
        simp
      · simpa using Derives.lastItem hderives
    · simp at h

theorem member_reads {limit fuel : Nat} (hvalue : ValueReads limit fuel)
    {afterQuote afterKey afterColon rest : List Char} {key : List StringUnit} {item : Written}
    {name : String} {room : Nat} {value : Json}
    (hkey : Written.stringUnits? afterQuote = some (key, afterKey))
    (hname : decodeString? key = some name)
    (hcolon : Written.skipBlanks afterKey = ':' :: afterColon)
    (hitem : Written.value? fuel (Written.skipBlanks afterColon) = some (item, rest))
    (hjson : item.toJson? room = some value) {depth : Nat} {before lead trail : List Char}
    (hdepth : depth + 1 + room ≤ limit) (hlead : Blanks lead) (htrail : Blanks trail) :
    ∃ text node, '"' :: afterQuote = text ++ rest ∧
      Derives limit depth before (lead ++ text ++ trail) (.member name node) ∧
      Reflects item value node := by
  obtain ⟨gap, hgap, hafterKey⟩ := exists_blanks afterKey
  obtain ⟨gap', hgap', hafterColon⟩ := exists_blanks afterColon
  obtain ⟨body, rfl, hspells⟩ := stringUnits?_decode_iff.mp ⟨key, hkey, hname⟩
  obtain ⟨text, htext, hnode⟩ := hvalue _ _ _ hitem _ _ hjson (depth + 1)
    (before ++ lead ++ '"' :: body ++ '"' :: gap ++ ':' :: gap') hdepth
  obtain ⟨node, hline, hderives, hreflects⟩ := hnode (lineAfter (before ++ lead))
  refine ⟨'"' :: body ++ '"' :: gap ++ ':' :: gap' ++ text, node, ?_, ?_, hreflects⟩
  · rw [hafterKey, hcolon, hafterColon, htext]
    simp
  · have hmember := Derives.member hlead hspells hgap hgap' hderives hline htrail
    simpa using hmember

theorem membersRead_succ {limit fuel : Nat} (hvalue : ValueReads limit fuel)
    (hmembers : MembersRead limit fuel) : MembersRead limit (fuel + 1) := by
  intro cs written after h room values hvalues depth before lead hdepth hlead
  rw [Written.members?.eq_def] at h
  simp only at h
  split at h
  · rename_i afterQuote
    split at h
    · simp at h
    · rename_i key afterKey hkey
      split at h
      · rename_i afterColon hcolon
        split at h
        · simp at h
        · rename_i item rest hitem
          obtain ⟨trail, htrail, hrest⟩ := exists_blanks rest
          split at h
          · rename_i more hcomma
            obtain ⟨⟨others, last⟩, hmore, heq⟩ := Option.map_eq_some_iff.mp h
            obtain ⟨rfl, rfl⟩ : (key, item) :: others = written ∧ last = after := by
              simpa using heq
            obtain ⟨name, value, otherValues, hname, hjson, hothers, rfl⟩ :=
              Written.membersToJson?_cons hvalues
            obtain ⟨text, node, htext, hmember, hreflects⟩ :=
              member_reads hvalue hkey hname hcolon hitem hjson hdepth hlead htrail
            obtain ⟨gap, hgap, hafter⟩ := exists_blanks more
            obtain ⟨inner, nodes, hinner, hrestDerives, hothersReflect⟩ :=
              hmembers _ _ _ hmore _ _ hothers depth (before ++ (lead ++ text ++ trail) ++ [','])
                gap hdepth hgap
            refine ⟨text ++ trail ++ ',' :: (gap ++ inner), (name, node) :: nodes, ?_, ?_,
              .cons hname hreflects hothersReflect⟩
            · rw [htext, hrest, hcomma, hafter, hinner]
              simp
            · simpa using Derives.moreMembers hmember hrestDerives
          · rename_i last hclose
            obtain ⟨rfl, rfl⟩ : [(key, item)] = written ∧ last = after := by simpa using h
            obtain ⟨name, value, otherValues, hname, hjson, hothers, rfl⟩ :=
              Written.membersToJson?_cons hvalues
            obtain rfl : [] = otherValues := by simpa [Written.membersToJson?] using hothers
            obtain ⟨text, node, htext, hmember, hreflects⟩ :=
              member_reads hvalue hkey hname hcolon hitem hjson hdepth hlead htrail
            refine ⟨text ++ trail, [(name, node)], ?_, ?_, .cons hname hreflects .nil⟩
            · rw [htext, hrest, hclose]
              simp
            · simpa using Derives.lastMember hmember
          · simp at h
      · simp at h
  · simp at h

theorem reads (limit fuel : Nat) :
    ValueReads limit fuel ∧ ItemsRead limit fuel ∧ MembersRead limit fuel := by
  induction fuel with
  | zero =>
    refine ⟨?_, ?_, ?_⟩ <;> intro cs written after h
    · simp [Written.value?] at h
    · simp [Written.items?] at h
    · simp [Written.members?] at h
  | succ fuel ih =>
    obtain ⟨hvalue, hitems, hmembers⟩ := ih
    exact ⟨valueReads_succ hitems hmembers, itemsRead_succ hvalue hitems,
      membersRead_succ hvalue hmembers⟩

/-- A text that is read as a value is a document whose outline reflects the value. -/
theorem document_of_read? {text : List Char} {written : Written} {value : Json}
    (hread : Written.read? text = some written)
    (hvalue : written.toJson? deepest = some value) :
    ∃ outline, Document deepest text outline ∧ Reflects written value outline := by
  rw [Written.read?] at hread
  split at hread
  · rename_i found rest hscan
    split at hread
    · rename_i hend
      obtain rfl := Option.some.inj hread
      obtain ⟨lead, hlead, htext⟩ := exists_blanks text
      obtain ⟨trail, htrail, hrest⟩ := exists_blanks rest
      rw [List.isEmpty_iff.mp hend, List.append_nil] at hrest
      obtain ⟨body, hbody, hnode⟩ :=
        (reads deepest _).1 _ _ _ hscan _ _ hvalue 0 lead (by omega)
      obtain ⟨outline, hline, hderives, hreflects⟩ := hnode 1
      refine ⟨outline, ⟨lead, body, rest, hlead, hrest ▸ htrail, ?_, hline, hderives⟩, hreflects⟩
      rw [htext, hbody, List.append_assoc]
    · simp at hread
  · simp at hread

theorem value?_mark {c : Char} (hc : c.toNat = 0xFEFF) (fuel : Nat) (rest : List Char) :
    Written.value? fuel (c :: rest) = none := by
  cases fuel with
  | zero => rfl
  | succ fuel =>
    have hnumber : Written.number? false (c :: rest) = none := by
      by_contra hsome
      obtain ⟨⟨n, after⟩, hn⟩ := Option.ne_none_iff_exists'.mp hsome
      obtain ⟨d, tail, heq, hd, -⟩ := number?_leaves hn
      obtain ⟨rfl, -⟩ := List.cons.inj heq
      exact hd.mark_ne hc
    have hne : ∀ d : Char, d.toNat ≠ 0xFEFF → c ≠ d := by
      rintro d hd rfl
      exact hd hc
    simp [Written.value?, hnumber, hne]

theorem withoutMark_of_read? {text : List Char} {written : Written}
    (hread : Written.read? text = some written) : withoutMark text = text := by
  cases text with
  | nil => rfl
  | cons c rest =>
    rw [withoutMark]
    split
    · rename_i hc
      have hblank : Text.isJsonBlank c = false := by simp [Text.isJsonBlank, hc]
      rw [Written.read?, Written.skipBlanks, List.dropWhile_cons_of_neg (by simp [hblank]),
        value?_mark hc] at hread
      simp at hread
    · rfl

end LineIndex

end TemplateAudit
