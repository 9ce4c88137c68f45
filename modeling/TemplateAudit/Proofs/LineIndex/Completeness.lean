import TemplateAudit.Proofs.LineIndex.Soundness

/-!
# Every document is scanned

The scanner accepts every document and finds the entries of its outline, by induction on the
derivation; two units of fuel a character are enough. Together with the converse this settles which
texts can be indexed and what their indexes hold.
-/

namespace TemplateAudit.LineIndex

set_option autoImplicit false

open Json

/-! ## What follows a value -/


/-- The text behind an item or a member: it goes on with what separates or closes. -/
def Follows (rest : List Char) : Prop :=
  ∃ c tail, rest = c :: tail ∧ endsScalar c = true ∧ Text.isJsonBlank c = false

theorem follows_cons {c : Char} (h : endsScalar c = true ∧ Text.isJsonBlank c = false)
    (tail : List Char) : Follows (c :: tail) :=
  ⟨c, tail, rfl, h.1, h.2⟩

theorem Follows.stops {rest : List Char} (h : Follows rest) : Stops rest := by
  obtain ⟨c, tail, rfl, hends, -⟩ := h
  intro d hd
  obtain rfl : c = d := by simpa using hd
  exact hends

theorem Follows.skip {rest : List Char} (h : Follows rest) (line : UInt32) :
    skipBlanks rest line = ⟨rest, line⟩ := by
  obtain ⟨c, tail, rfl, -, hblank⟩ := h
  apply skipBlanks_of_not_blank
  simpa using hblank

/-- What the scanner makes of a part of a document, given two units of fuel a character. -/
def Scans (depth : Nat) (before text : List Char) : Part → Prop
  | .value node => ∀ fuel path rest, 2 * text.length ≤ fuel + 1 → Stops rest →
      scanValue fuel path depth ⟨text ++ rest, wordAfter before⟩ =
        some (node.entries scannedItem path, ⟨rest, wordAfter (before ++ text)⟩)
  | .item node => ∀ fuel path rest, 2 * text.length ≤ fuel + 1 → Follows rest →
      ∃ start stop, (Cursor.mk (text ++ rest) (wordAfter before)).skip = start ∧
        start.line = UInt32.ofNat node.line ∧
        scanValue fuel path (depth + 1) start = some (node.entries scannedItem path, stop) ∧
        stop.skip = ⟨rest, wordAfter (before ++ text)⟩
  | .items nodes => ∀ fuel path position rest, 2 * text.length ≤ fuel →
      scanItems fuel path depth (Int32.ofNat position) ⟨text ++ ']' :: rest, wordAfter before⟩ =
        some (Outline.itemEntries scannedItem path position nodes,
          ⟨rest, wordAfter (before ++ text ++ [']'])⟩)
  | .member key node => ∀ fuel path rest, 2 * text.length ≤ fuel + 1 → Follows rest →
      ∃ start afterKey afterColon line stop,
        (Cursor.mk (text ++ rest) (wordAfter before)).skip = start ∧
        start.line = UInt32.ofNat node.line ∧
        literal? start.rest = some (key, afterKey) ∧
        skipBlanks afterKey start.line = ⟨':' :: afterColon, line⟩ ∧
        scanValue fuel path (depth + 1) ⟨afterColon, line⟩ =
          some (node.entries scannedItem path, stop) ∧
        stop.skip = ⟨rest, wordAfter (before ++ text)⟩
  | .members nodes => ∀ fuel path rest, 2 * text.length ≤ fuel →
      scanMembers fuel path depth ⟨text ++ '}' :: rest, wordAfter before⟩ =
        some (Outline.memberEntries scannedItem path nodes,
          ⟨rest, wordAfter (before ++ text ++ ['}'])⟩)

theorem skip_value {depth : Nat} {before text : List Char} {node : Outline}
    (h : Derives deepest depth before text (.value node)) (rest : List Char) (line : UInt32) :
    skipBlanks (text ++ rest) line = ⟨text ++ rest, line⟩ := by
  obtain ⟨c, tail, rfl, hopens⟩ := h.value_opens
  apply skipBlanks_of_not_blank
  simpa using hopens.1

theorem scans_item {depth : Nat} {before lead text trail : List Char} {node : Outline}
    (hlead : Blanks lead) (hvalue : Derives deepest (depth + 1) (before ++ lead) text (.value node))
    (hline : node.line = lineAfter (before ++ lead)) (htrail : Blanks trail)
    (ih : Scans (depth + 1) (before ++ lead) text (.value node)) :
    Scans depth before (lead ++ text ++ trail) (.item node) := by
  intro fuel path rest hfuel hrest
  simp only [List.length_append] at hfuel
  have hscan := ih fuel path (trail ++ rest) (by omega) (stops_of_blanks htrail hrest.stops)
  have hword : wordAfter (before ++ lead) = UInt32.ofNat node.line :=
    (congrArg UInt32.ofNat hline).symm
  refine ⟨⟨text ++ (trail ++ rest), wordAfter (before ++ lead)⟩, _, ?_, hword, hscan, ?_⟩
  · simp only [Cursor.skip, List.append_assoc]
    rw [skipBlanks_append hlead, skip_value hvalue]
  · simp only [Cursor.skip]
    rw [skipBlanks_append htrail, hrest.skip]
    simp

theorem scans_member {depth : Nat} {before lead body gap gap' text trail : List Char}
    {key : String} {node : Outline} (hlead : Blanks lead) (hspells : Spells body key.toList)
    (hgap : Blanks gap) (hgap' : Blanks gap')
    (hline : node.line = lineAfter (before ++ lead)) (htrail : Blanks trail)
    (ih : Scans (depth + 1) (before ++ lead ++ '"' :: body ++ '"' :: gap ++ ':' :: gap') text
      (.value node)) :
    Scans depth before (lead ++ '"' :: body ++ '"' :: gap ++ ':' :: gap' ++ text ++ trail)
      (.member key node) := by
  intro fuel path rest hfuel hrest
  simp only [List.length_append, List.length_cons] at hfuel
  have hscan := ih fuel path (trail ++ rest) (by omega) (stops_of_blanks htrail hrest.stops)
  have hkey : (Cursor.mk (lead ++ '"' :: body ++ '"' :: gap ++ ':' :: gap' ++ text ++ trail ++ rest)
      (wordAfter before)).skip =
        ⟨'"' :: body ++ '"' :: (gap ++ ':' :: (gap' ++ (text ++ (trail ++ rest)))),
          wordAfter (before ++ lead)⟩ := by
    have hquote : Text.isJsonBlank '"' = false := by decide
    simp only [Cursor.skip, List.append_assoc, List.cons_append]
    rw [skipBlanks_append hlead, skipBlanks_of_not_blank (by simpa using hquote)]
  have hgapped : skipBlanks (gap ++ ':' :: (gap' ++ (text ++ (trail ++ rest))))
      (wordAfter (before ++ lead)) = ⟨':' :: (gap' ++ (text ++ (trail ++ rest))),
        wordAfter (before ++ lead ++ ('"' :: body ++ ['"']) ++ gap ++ [':'])⟩ := by
    have hcolon : Text.isJsonBlank ':' = false := by decide
    have hquoted : wordAfter (before ++ lead) =
        wordAfter (before ++ lead ++ ('"' :: body ++ ['"'])) :=
      (wordAfter_append_of_not_mem (by simp [hspells.newline_not_mem]) _).symm
    rw [hquoted, skipBlanks_append hgap, skipBlanks_of_not_blank (by simpa using hcolon),
      wordAfter_concat (by decide)]
  have hvalue : scanValue fuel path (depth + 1) ⟨gap' ++ (text ++ (trail ++ rest)),
      wordAfter (before ++ lead ++ ('"' :: body ++ ['"']) ++ gap ++ [':'])⟩ =
        some (node.entries scannedItem path, ⟨trail ++ rest,
          wordAfter (before ++ lead ++ '"' :: body ++ '"' :: gap ++ ':' :: gap' ++ text)⟩) := by
    rw [scanValue_blanks hgap']
    simpa using hscan
  have hword : wordAfter (before ++ lead) = UInt32.ofNat node.line :=
    (congrArg UInt32.ofNat hline).symm
  refine ⟨_, _, _, _, _, hkey, hword, literal?_eq_some_iff.mpr ⟨body, rfl, hspells⟩, hgapped,
    hvalue, ?_⟩
  simp only [Cursor.skip]
  rw [skipBlanks_append htrail, hrest.skip]
  simp

theorem scanItems_last {fuel : Nat} {path : String} {depth : Nat} {position : Int32}
    {c start stop : Cursor} {entries : List Entry} {after : List Char} {line : UInt32}
    (hstart : c.skip = start)
    (hvalue : scanValue fuel (countedItem path position) (depth + 1) start = some (entries, stop))
    (hstop : stop.skip = ⟨']' :: after, line⟩) :
    scanItems (fuel + 1) path depth position c =
      some ((countedItem path position, start.line) :: entries, ⟨after, line⟩) := by
  simp only [scanItems, hstart, hvalue, hstop]

theorem scanItems_more {fuel : Nat} {path : String} {depth : Nat} {position : Int32}
    {c start stop last : Cursor} {entries others : List Entry} {more : List Char} {line : UInt32}
    (hstart : c.skip = start)
    (hvalue : scanValue fuel (countedItem path position) (depth + 1) start = some (entries, stop))
    (hstop : stop.skip = ⟨',' :: more, line⟩)
    (hmore : scanItems fuel path depth (position + 1) ⟨more, line⟩ = some (others, last)) :
    scanItems (fuel + 1) path depth position c =
      some ((countedItem path position, start.line) :: entries ++ others, last) := by
  simp only [scanItems, hstart, hvalue, hstop, hmore, Option.map_some]

theorem scanMembers_last {fuel : Nat} {path key : String} {depth : Nat} {c start stop : Cursor}
    {entries : List Entry} {afterKey afterColon after : List Char} {colonLine line : UInt32}
    (hstart : c.skip = start) (hkey : literal? start.rest = some (key, afterKey))
    (hcolon : skipBlanks afterKey start.line = ⟨':' :: afterColon, colonLine⟩)
    (hvalue : scanValue fuel (Path.member path key) (depth + 1) ⟨afterColon, colonLine⟩ =
      some (entries, stop))
    (hstop : stop.skip = ⟨'}' :: after, line⟩) :
    scanMembers (fuel + 1) path depth c =
      some ((Path.member path key, start.line) :: entries, ⟨after, line⟩) := by
  simp only [scanMembers, hstart, hkey, hcolon, hvalue, hstop]

theorem scanMembers_more {fuel : Nat} {path key : String} {depth : Nat}
    {c start stop last : Cursor} {entries others : List Entry}
    {afterKey afterColon more : List Char} {colonLine line : UInt32}
    (hstart : c.skip = start) (hkey : literal? start.rest = some (key, afterKey))
    (hcolon : skipBlanks afterKey start.line = ⟨':' :: afterColon, colonLine⟩)
    (hvalue : scanValue fuel (Path.member path key) (depth + 1) ⟨afterColon, colonLine⟩ =
      some (entries, stop))
    (hstop : stop.skip = ⟨',' :: more, line⟩)
    (hmore : scanMembers fuel path depth ⟨more, line⟩ = some (others, last)) :
    scanMembers (fuel + 1) path depth c =
      some ((Path.member path key, start.line) :: entries ++ others, last) := by
  simp only [scanMembers, hstart, hkey, hcolon, hvalue, hstop, hmore, Option.map_some]

/-- Blanks and the start of a value: what follows an opening bracket or brace that is not closed
at once. -/
def OpensLater (text : List Char) : Prop :=
  ∃ lead c rest, Blanks lead ∧ text = lead ++ c :: rest ∧ Opens c

theorem OpensLater.append {text : List Char} (h : OpensLater text) (more : List Char) :
    OpensLater (text ++ more) := by
  obtain ⟨lead, c, rest, hlead, rfl, hopens⟩ := h
  exact ⟨lead, c, rest ++ more, hlead, by simp, hopens⟩

/-- Behind the opening of a container the scanner sees the start of a value or a key. -/
theorem OpensLater.skip {text : List Char} (h : OpensLater text) (before : List Char) :
    ∃ c rest line, skipBlanks text (wordAfter before) = ⟨c :: rest, line⟩ ∧ Opens c := by
  obtain ⟨lead, c, rest, hlead, rfl, hopens⟩ := h
  refine ⟨c, rest, wordAfter (before ++ lead), ?_, hopens⟩
  rw [skipBlanks_append hlead, skipBlanks_of_not_blank (by simpa using hopens.1)]

theorem Derives.items_open {depth : Nat} {before text : List Char} {nodes : List Outline}
    (h : Derives deepest depth before text (.items nodes)) : OpensLater text := by
  have hitem : ∀ {text : List Char} {node : Outline},
      Derives deepest depth before text (.item node) → OpensLater text := by
    intro text node h
    cases h with
    | @item _ _ lead _ trail _ hlead hvalue =>
      obtain ⟨c, rest, rfl, hopens⟩ := hvalue.value_opens
      exact ⟨lead, c, rest ++ trail, hlead, by simp, hopens⟩
  cases h with
  | lastItem h => exact hitem h
  | moreItems h _ => exact (hitem h).append _

theorem Derives.members_open {depth : Nat} {before text : List Char}
    {nodes : List (String × Outline)} (h : Derives deepest depth before text (.members nodes)) :
    OpensLater text := by
  have hmember : ∀ {text : List Char} {key : String} {node : Outline},
      Derives deepest depth before text (.member key node) → OpensLater text := by
    intro text key node h
    cases h with
    | @member _ _ lead body gap gap' text trail _ _ hlead =>
      exact ⟨lead, '"', body ++ '"' :: gap ++ ':' :: gap' ++ text ++ trail, hlead, by simp,
        by decide⟩
  cases h with
  | lastMember h => exact hmember h
  | moreMembers h _ => exact (hmember h).append _

theorem succ_of_fuel {c : Char} {cs : List Char} {fuel : Nat}
    (h : 2 * (c :: cs).length ≤ fuel + 1) : ∃ less, fuel = less + 1 := by
  rw [List.length_cons] at h
  exact ⟨fuel - 1, by omega⟩

theorem scans_word {depth line : Nat} {before cs : List Char} (hdepth : depth ≤ deepest)
    (hword : Word cs) : Scans depth before cs (.value (.leaf line)) := by
  intro fuel path rest hfuel hrest
  have hderives : Derives deepest depth before cs (.value (.leaf line)) := .word hdepth hword
  have hskip := skip_value hderives
  have hscalar := scalar?_of_word hword hrest
  obtain ⟨c, tail, rfl⟩ := List.exists_cons_of_ne_nil hword.nonempty
  obtain ⟨hbrace, hbracket, hquote⟩ := hword.start c rfl
  obtain ⟨fuel, rfl⟩ := succ_of_fuel hfuel
  rw [wordAfter_append_of_not_mem hword.newline_not_mem]
  simp only [scanValue, if_neg (Nat.not_lt.mpr hdepth), Cursor.skip, hskip]
  simp only [List.cons_append] at hscalar ⊢
  simp [hscalar, Outline.entries, hbrace, hbracket, hquote]

theorem scans_literal {depth line : Nat} {before body value : List Char} (hdepth : depth ≤ deepest)
    (hspells : Spells body value) :
    Scans depth before ('"' :: body ++ ['"']) (.value (.leaf line)) := by
  intro fuel path rest hfuel hrest
  have hliteral : literal? ('"' :: (body ++ '"' :: rest)) = some (String.ofList value, rest) :=
    literal?_eq_some_iff.mpr ⟨body, rfl, by simpa using hspells⟩
  have hopen : skipBlanks ('"' :: (body ++ '"' :: rest)) (wordAfter before) =
      ⟨'"' :: (body ++ '"' :: rest), wordAfter before⟩ :=
    skipBlanks_of_not_blank (by simp [Text.isJsonBlank]) _
  obtain ⟨fuel, rfl⟩ := succ_of_fuel hfuel
  rw [wordAfter_append_of_not_mem (by simp [hspells.newline_not_mem])]
  simp only [scanValue, if_neg (Nat.not_lt.mpr hdepth), Cursor.skip, List.cons_append,
    List.append_assoc, List.nil_append, hopen, hliteral, Option.map_some, Outline.entries]

section Containers
variable {depth : Nat} (hdepth : depth ≤ deepest) (fuel : Nat) (path : String)
variable {cs rest : List Char} {line nextLine : UInt32}
include hdepth

theorem scanValue_emptyArray (h : skipBlanks cs line = ⟨']' :: rest, nextLine⟩) :
    scanValue (fuel + 1) path depth ⟨'[' :: cs, line⟩ = some ([], ⟨rest, nextLine⟩) := by
  have hopen : skipBlanks ('[' :: cs) line = ⟨'[' :: cs, line⟩ :=
    skipBlanks_of_not_blank (by simp [Text.isJsonBlank]) _
  simp only [scanValue, if_neg (Nat.not_lt.mpr hdepth), Cursor.skip, hopen, h]

theorem scanValue_items {c : Char} (h : skipBlanks cs line = ⟨c :: rest, nextLine⟩)
    (hc : c ≠ ']') :
    scanValue (fuel + 1) path depth ⟨'[' :: cs, line⟩ =
      scanItems fuel path depth 0 ⟨cs, line⟩ := by
  have hopen : skipBlanks ('[' :: cs) line = ⟨'[' :: cs, line⟩ :=
    skipBlanks_of_not_blank (by simp [Text.isJsonBlank]) _
  rw [← scanItems_skip]
  simp [scanValue, Nat.not_lt.mpr hdepth, Cursor.skip, hopen, h, hc]

theorem scanValue_emptyObject (h : skipBlanks cs line = ⟨'}' :: rest, nextLine⟩) :
    scanValue (fuel + 1) path depth ⟨'{' :: cs, line⟩ = some ([], ⟨rest, nextLine⟩) := by
  have hopen : skipBlanks ('{' :: cs) line = ⟨'{' :: cs, line⟩ :=
    skipBlanks_of_not_blank (by simp [Text.isJsonBlank]) _
  simp only [scanValue, if_neg (Nat.not_lt.mpr hdepth), Cursor.skip, hopen, h]

theorem scanValue_members {c : Char} (h : skipBlanks cs line = ⟨c :: rest, nextLine⟩)
    (hc : c ≠ '}') :
    scanValue (fuel + 1) path depth ⟨'{' :: cs, line⟩ =
      scanMembers fuel path depth ⟨cs, line⟩ := by
  have hopen : skipBlanks ('{' :: cs) line = ⟨'{' :: cs, line⟩ :=
    skipBlanks_of_not_blank (by simp [Text.isJsonBlank]) _
  rw [← scanMembers_skip]
  simp [scanValue, Nat.not_lt.mpr hdepth, Cursor.skip, hopen, h, hc]

end Containers

theorem skip_close {gap : List Char} {c : Char} (hgap : Blanks gap)
    (hc : Text.isJsonBlank c = false) (before rest : List Char) :
    skipBlanks (gap ++ [c] ++ rest) (wordAfter before) =
      ⟨c :: rest, wordAfter (before ++ gap)⟩ := by
  rw [List.append_assoc, skipBlanks_append hgap, skipBlanks_of_not_blank (by simpa using hc)]
  rfl

theorem scans_emptyArray {depth line : Nat} {before gap : List Char} (hdepth : depth ≤ deepest)
    (hgap : Blanks gap) : Scans depth before ('[' :: gap ++ [']']) (.value (.array line [])) := by
  intro fuel path rest hfuel hrest
  obtain ⟨fuel, rfl⟩ := succ_of_fuel hfuel
  have hclose : skipBlanks (gap ++ [']'] ++ rest) (wordAfter before) = _ :=
    skip_close hgap (by decide) before rest
  have hline : wordAfter (before ++ ('[' :: gap ++ [']'])) = wordAfter (before ++ gap) := by
    simp [wordAfter_append]
  rw [hline]
  exact scanValue_emptyArray hdepth fuel path hclose

theorem scans_emptyObject {depth line : Nat} {before gap : List Char} (hdepth : depth ≤ deepest)
    (hgap : Blanks gap) : Scans depth before ('{' :: gap ++ ['}']) (.value (.object line [])) := by
  intro fuel path rest hfuel hrest
  obtain ⟨fuel, rfl⟩ := succ_of_fuel hfuel
  have hclose : skipBlanks (gap ++ ['}'] ++ rest) (wordAfter before) = _ :=
    skip_close hgap (by decide) before rest
  have hline : wordAfter (before ++ ('{' :: gap ++ ['}'])) = wordAfter (before ++ gap) := by
    simp [wordAfter_append]
  rw [hline]
  exact scanValue_emptyObject hdepth fuel path hclose

theorem scans_array {depth line : Nat} {before inner : List Char} {nodes : List Outline}
    (hdepth : depth ≤ deepest)
    (hitems : Derives deepest depth (before ++ ['[']) inner (.items nodes))
    (ih : Scans depth (before ++ ['[']) inner (.items nodes)) :
    Scans depth before ('[' :: inner ++ [']']) (.value (.array line nodes)) := by
  intro fuel path rest hfuel hrest
  obtain ⟨fuel, rfl⟩ := succ_of_fuel hfuel
  obtain ⟨c, tail, start, hstart, -, -, hc, -⟩ :=
    (hitems.items_open.append (']' :: rest)).skip (before ++ ['['])
  simp only [List.length_append, List.length_cons, List.length_nil] at hfuel
  have hscan := ih fuel path 0 rest (by omega)
  change scanItems fuel path depth 0 _ = _ at hscan
  rw [← scanValue_items hdepth fuel path hstart hc, wordAfter_concat (c := '[') (by decide)]
    at hscan
  simpa [Outline.entries] using hscan

theorem scans_object {depth line : Nat} {before inner : List Char}
    {nodes : List (String × Outline)} (hdepth : depth ≤ deepest)
    (hmembers : Derives deepest depth (before ++ ['{']) inner (.members nodes))
    (ih : Scans depth (before ++ ['{']) inner (.members nodes)) :
    Scans depth before ('{' :: inner ++ ['}']) (.value (.object line nodes)) := by
  intro fuel path rest hfuel hrest
  obtain ⟨fuel, rfl⟩ := succ_of_fuel hfuel
  obtain ⟨c, tail, start, hstart, -, -, -, hc⟩ :=
    (hmembers.members_open.append ('}' :: rest)).skip (before ++ ['{'])
  simp only [List.length_append, List.length_cons, List.length_nil] at hfuel
  have hscan := ih fuel path rest (by omega)
  rw [← scanValue_members hdepth fuel path hstart hc, wordAfter_concat (c := '{') (by decide)]
    at hscan
  simpa [Outline.entries] using hscan

theorem OpensLater.fuel_succ {text : List Char} (h : OpensLater text) {fuel : Nat}
    (hfuel : 2 * text.length ≤ fuel) : ∃ less, fuel = less + 1 ∧ 2 * text.length ≤ less + 1 := by
  obtain ⟨lead, c, rest, -, rfl, -⟩ := h
  simp only [List.length_append, List.length_cons] at hfuel ⊢
  exact ⟨fuel - 1, by omega, by omega⟩

theorem scans_lastItem {depth : Nat} {before text : List Char} {node : Outline}
    (hitem : Derives deepest depth before text (.item node))
    (ih : Scans depth before text (.item node)) : Scans depth before text (.items [node]) := by
  intro fuel path position rest hfuel
  obtain ⟨fuel, rfl, hfuel⟩ := (Derives.lastItem hitem).items_open.fuel_succ hfuel
  obtain ⟨start, stop, hstart, hline, hscan, hstop⟩ :=
    ih fuel (scannedItem path position) (']' :: rest) hfuel (follows_cons (by decide) rest)
  rw [scanItems_last hstart hscan hstop, wordAfter_concat (by decide)]
  simp [Outline.itemEntries, scannedItem, hline]

theorem scans_moreItems {depth : Nat} {before text more : List Char} {node : Outline}
    {nodes : List Outline} (hitem : Derives deepest depth before text (.item node))
    (ih : Scans depth before text (.item node))
    (ihmore : Scans depth (before ++ text ++ [',']) more (.items nodes)) :
    Scans depth before (text ++ ',' :: more) (.items (node :: nodes)) := by
  intro fuel path position rest hfuel
  simp only [List.length_append, List.length_cons] at hfuel
  obtain ⟨fuel, rfl, -⟩ := (Derives.lastItem hitem).items_open.fuel_succ
    (show 2 * text.length ≤ fuel by omega)
  obtain ⟨start, stop, hstart, hline, hscan, hstop⟩ :=
    ih fuel (scannedItem path position) (',' :: (more ++ ']' :: rest)) (by omega)
      (follows_cons (by decide) _)
  have hmore := ihmore fuel path (position + 1) rest (by omega)
  rw [wordAfter_concat (c := ',') (by decide), position_succ] at hmore
  rw [List.append_assoc, List.cons_append, scanItems_more hstart hscan hstop hmore]
  simp [Outline.itemEntries, scannedItem, hline]

theorem scans_lastMember {depth : Nat} {before text : List Char} {key : String} {node : Outline}
    (hmember : Derives deepest depth before text (.member key node))
    (ih : Scans depth before text (.member key node)) :
    Scans depth before text (.members [(key, node)]) := by
  intro fuel path rest hfuel
  obtain ⟨fuel, rfl, hfuel⟩ := (Derives.lastMember hmember).members_open.fuel_succ hfuel
  obtain ⟨start, afterKey, afterColon, line, stop, hstart, hline, hkey, hcolon, hscan, hstop⟩ :=
    ih fuel (Path.member path key) ('}' :: rest) hfuel (follows_cons (by decide) rest)
  rw [scanMembers_last hstart hkey hcolon hscan hstop, wordAfter_concat (by decide)]
  simp [Outline.memberEntries, hline]

theorem scans_moreMembers {depth : Nat} {before text more : List Char} {key : String}
    {node : Outline} {nodes : List (String × Outline)}
    (hmember : Derives deepest depth before text (.member key node))
    (ih : Scans depth before text (.member key node))
    (ihmore : Scans depth (before ++ text ++ [',']) more (.members nodes)) :
    Scans depth before (text ++ ',' :: more) (.members ((key, node) :: nodes)) := by
  intro fuel path rest hfuel
  simp only [List.length_append, List.length_cons] at hfuel
  obtain ⟨fuel, rfl, -⟩ := (Derives.lastMember hmember).members_open.fuel_succ
    (show 2 * text.length ≤ fuel by omega)
  obtain ⟨start, afterKey, afterColon, line, stop, hstart, hline, hkey, hcolon, hscan, hstop⟩ :=
    ih fuel (Path.member path key) (',' :: (more ++ '}' :: rest)) (by omega)
      (follows_cons (by decide) _)
  have hmore := ihmore fuel path rest (by omega)
  rw [wordAfter_concat (c := ',') (by decide)] at hmore
  rw [List.append_assoc, List.cons_append, scanMembers_more hstart hkey hcolon hscan hstop hmore]
  simp [Outline.memberEntries, hline]

theorem Derives.scans {depth : Nat} {before text : List Char} {part : Part}
    (h : Derives deepest depth before text part) : Scans depth before text part := by
  induction h with
  | word hdepth hword => exact scans_word hdepth hword
  | literal hdepth hspells => exact scans_literal hdepth hspells
  | emptyArray hdepth hgap => exact scans_emptyArray hdepth hgap
  | array hdepth hitems ih => exact scans_array hdepth hitems ih
  | emptyObject hdepth hgap => exact scans_emptyObject hdepth hgap
  | object hdepth hmembers ih => exact scans_object hdepth hmembers ih
  | item hlead hvalue hline htrail ih => exact scans_item hlead hvalue hline htrail ih
  | lastItem hitem ih => exact scans_lastItem hitem ih
  | moreItems hitem _ ih ihmore => exact scans_moreItems hitem ih ihmore
  | member hlead hspells hgap hgap' _ hline htrail ih =>
    exact scans_member hlead hspells hgap hgap' hline htrail ih
  | lastMember hmember ih => exact scans_lastMember hmember ih
  | moreMembers hmember _ ih ihmore => exact scans_moreMembers hmember ih ihmore

/-! ## Whole texts -/

theorem skipBlanks_all {ws : List Char} (hws : Blanks ws) (before : List Char) :
    (skipBlanks ws (wordAfter before)).rest = [] := by
  have h := skipBlanks_append hws [] before
  rw [List.append_nil] at h
  rw [h]
  rfl

theorem scan?_of_document {text : List Char} {outline : Outline}
    (h : Document deepest text outline) : scan? text = some (outline.scanned) := by
  obtain ⟨lead, body, trail, hlead, htrail, rfl, -, hderives⟩ := h
  have hstops : Stops trail := by
    have hnil : Stops [] := by simp [Stops]
    simpa using stops_of_blanks htrail hnil
  have hscan : scanValue (2 * (lead ++ body ++ trail).length + 2) "" 0
      ⟨lead ++ body ++ trail, firstLine⟩ =
        some (outline.scanned, ⟨trail, wordAfter (lead ++ body)⟩) := by
    have hbody := hderives.scans (2 * (lead ++ body ++ trail).length + 2) "" trail
      (by simp only [List.length_append]; omega) hstops
    rw [← lead.nil_append, ← scanValue_blanks hlead] at hbody
    simpa using hbody
  simp only [scan?, hscan, Cursor.skip, skipBlanks_all htrail, List.isEmpty_nil, if_true]

theorem document_of_scan? {text : List Char} {entries : List Entry}
    (h : scan? text = some entries) :
    ∃ outline, Document deepest text outline ∧ outline.scanned = entries := by
  simp only [scan?] at h
  split at h
  · rename_i found stop hscan
    split at h
    · rename_i hend
      obtain rfl := Option.some.inj h
      rw [← wordAfter_nil] at hscan
      obtain ⟨lead, body, hlead, htext, hline, hnode⟩ := (scan_sound _).1 _ _ _ _ _ _ hscan
      obtain ⟨outline, hroot, hentries, hderives⟩ := hnode 1
      obtain ⟨ws, rest, hws, hrest, -, hskip⟩ := skipBlanks_spec stop.rest ([] ++ lead ++ body)
      rw [Cursor.skip, hline, hskip] at hend
      obtain rfl := List.isEmpty_iff.mp hend
      rw [List.append_nil] at hrest
      refine ⟨outline, ⟨lead, body, stop.rest, hlead, hrest ▸ hws, htext, hroot, ?_⟩, hentries⟩
      simpa using hderives
    · simp at h
  · simp at h

theorem ofText?_of_document {text : String} {outline : Outline}
    (h : Document deepest (withoutMark text.toList) outline) :
    ofText? text = some (ofEntries (outline.scanned)) := by
  rw [ofText?, scan?_of_document h, Option.map_some]

/-- The texts that can be indexed are the documents, with or without a byte order mark in front,
and the index of one holds the entries of its outline: of several for one path the last. A line is
the number of line breaks in front of the node, and one, in 32 bits; a position is written as it is
unless an array has more items than can be counted in 32 bits with a sign. -/
theorem ofText?_reads_documents (text : String) :
    ((ofText? text).isSome = true ↔ ∃ outline, Document deepest (withoutMark text.toList) outline) ∧
    ∀ index outline, ofText? text = some index →
      Document deepest (withoutMark text.toList) outline →
        (∀ path, index.lines[path]? = latestLine? (("", firstLine) :: outline.scanned) path) ∧
        (outline.longest ≤ itemLimit →
          ∀ path, index.lines[path]? =
            latestLine? (("", firstLine) :: outline.entries Path.item "") path) := by
  refine ⟨⟨?_, ?_⟩, ?_⟩
  · intro hsome
    obtain ⟨index, hindex⟩ := Option.isSome_iff_exists.mp hsome
    obtain ⟨entries, hscan, -⟩ := Option.map_eq_some_iff.mp hindex
    obtain ⟨outline, hdocument, -⟩ := document_of_scan? hscan
    exact ⟨outline, hdocument⟩
  · rintro ⟨outline, hdocument⟩
    rw [ofText?_of_document hdocument, Option.isSome_some]
  · intro index outline hindex hdocument
    rw [ofText?_of_document hdocument] at hindex
    obtain rfl := Option.some.inj hindex
    refine ⟨ofEntries_getElem? outline.scanned, ?_⟩
    intro hfew
    rw [← outline.scanned_eq_entries hfew]
    exact ofEntries_getElem? outline.scanned

/-- Behind a byte order mark, the lines of a key written in two cases and of the item below it. -/
theorem ofText?_reads_documents_twice_written :
    ∃ index, ofText? "\uFEFF\x7b\"a\":0,\n\"A\":[\n 1]\x7d" = some index ∧
      index.lines["a"]? = some 2 ∧ index.lines["a[0]"]? = some 3 ∧
      ∃ outline, Document deepest
          (withoutMark "\uFEFF\x7b\"a\":0,\n\"A\":[\n 1]\x7d".toList) outline ∧
        ∀ path, index.lines[path]? =
          latestLine? (("", firstLine) :: outline.entries Path.item "") path := by
  have hscan : scan? (withoutMark "\uFEFF\x7b\"a\":0,\n\"A\":[\n 1]\x7d".toList) =
      some [("a", 1), ("a", 2), ("a[0]", 3)] := by decide +kernel
  obtain ⟨outline, hdocument, hentries⟩ := document_of_scan? hscan
  have hread := ofText?_reads_documents "\uFEFF\x7b\"a\":0,\n\"A\":[\n 1]\x7d"
  obtain ⟨index, hindex⟩ := Option.isSome_iff_exists.mp (hread.1.mpr ⟨outline, hdocument⟩)
  obtain ⟨hlines, hnumbered⟩ := hread.2 index outline hindex hdocument
  have hfew : outline.longest ≤ itemLimit := by
    have hlength : outline.longest ≤ outline.scanned.length :=
      outline.longest_le_entries scannedItem ""
    rw [hentries] at hlength
    exact Nat.le_trans hlength (by decide)
  rw [hentries] at hlines
  refine ⟨index, hindex, ?_, ?_, outline, hdocument, hnumbered hfew⟩
  · rw [hlines]
    decide
  · rw [hlines]
    decide

end TemplateAudit.LineIndex
