import TemplateAudit.Proofs.LineIndex.Grammar

/-!
# What is scanned is a document

Whatever the scanner accepts is a value of the grammar behind some blanks, and the entries that it
finds are those of an outline of the value. The proof is by induction on the fuel, over the three
functions of the scanner at once.
-/

namespace TemplateAudit.LineIndex

set_option autoImplicit false

open Json

/-! ## Blanks and words in a text -/

theorem skipBlanks_append {ws : List Char} (hws : Blanks ws) (cs before : List Char) :
    skipBlanks (ws ++ cs) (wordAfter before) = skipBlanks cs (wordAfter (before ++ ws)) := by
  induction ws generalizing before with
  | nil => simp
  | cons c ws ih =>
    have htail := ih (fun d hd => hws d (List.mem_cons_of_mem c hd)) (before ++ [c])
    rw [List.append_assoc, List.singleton_append] at htail
    have hblank := isJsonBlank_iff.mpr (hws c List.mem_cons_self)
    by_cases hc : c = '\n'
    · subst hc
      rw [← htail, wordAfter_append]
      rfl
    · rw [← htail, wordAfter_append_of_not_mem (by simpa using Ne.symm hc)]
      simp only [List.cons_append, skipBlanks, if_neg hc, hblank, if_true]

theorem skipBlanks_of_not_blank {cs : List Char} (h : ∀ c ∈ cs.head?, Text.isJsonBlank c = false)
    (line : UInt32) : skipBlanks cs line = ⟨cs, line⟩ := by
  cases cs with
  | nil => rfl
  | cons c rest =>
    have hc := h c rfl
    have hbreak : c ≠ '\n' := by
      rintro rfl
      simp [Text.isJsonBlank] at hc
    simp only [skipBlanks, if_neg hbreak, hc, Bool.false_eq_true, if_false]

/-- Skipping takes blanks off the front and keeps count of the lines. -/
theorem skipBlanks_spec (cs before : List Char) :
    ∃ ws rest, Blanks ws ∧ cs = ws ++ rest ∧ (∀ c ∈ rest.head?, Text.isJsonBlank c = false) ∧
      skipBlanks cs (wordAfter before) = ⟨rest, wordAfter (before ++ ws)⟩ := by
  have hws : Blanks (cs.takeWhile Text.isJsonBlank) :=
    blanks_iff.mpr fun c hc => List.mem_takeWhile_imp hc
  have hhead : ∀ c ∈ (cs.dropWhile Text.isJsonBlank).head?, Text.isJsonBlank c = false := by
    intro c hc
    have hnot := List.head?_dropWhile_not Text.isJsonBlank cs
    rw [Option.mem_def.mp hc] at hnot
    simpa using hnot
  have hsplit : cs = cs.takeWhile Text.isJsonBlank ++ cs.dropWhile Text.isJsonBlank := by simp
  refine ⟨_, _, hws, hsplit, hhead, ?_⟩
  conv_lhs => rw [hsplit]
  rw [skipBlanks_append hws, skipBlanks_of_not_blank hhead]

theorem eq_nil_of_blanks {ws rest : List Char} (hws : Blanks ws)
    (h : ∀ c ∈ (ws ++ rest).head?, Text.isJsonBlank c = false) : ws = [] := by
  cases ws with
  | nil => rfl
  | cons c ws =>
    have hblank := isJsonBlank_iff.mpr (hws c List.mem_cons_self)
    rw [h c rfl] at hblank
    simp at hblank

theorem skipBlanks_head (cs : List Char) (line : UInt32) :
    ∀ c ∈ (skipBlanks cs line).rest.head?, Text.isJsonBlank c = false := by
  fun_induction skipBlanks cs line with
  | case1 => simp
  | case2 _ _ ih => exact ih
  | case3 _ _ _ _ _ ih => exact ih
  | case4 c _ _ _ hc =>
    intro d hd
    obtain rfl : c = d := by simpa using hd
    simpa using hc

theorem skip_skip (c : Cursor) : c.skip.skip = c.skip :=
  skipBlanks_of_not_blank (skipBlanks_head c.rest c.line) _

theorem scanValue_skip (fuel : Nat) (path : String) (depth : Nat) (c : Cursor) :
    scanValue fuel path depth c.skip = scanValue fuel path depth c := by
  cases fuel <;> simp only [scanValue, skip_skip]

theorem scanValue_blanks {ws : List Char} (hws : Blanks ws) (fuel : Nat) (path : String)
    (depth : Nat) (cs before : List Char) :
    scanValue fuel path depth ⟨ws ++ cs, wordAfter before⟩ =
      scanValue fuel path depth ⟨cs, wordAfter (before ++ ws)⟩ := by
  rw [← scanValue_skip, ← scanValue_skip fuel path depth ⟨cs, wordAfter (before ++ ws)⟩]
  simp only [Cursor.skip, skipBlanks_append hws]

theorem scanItems_skip (fuel : Nat) (path : String) (depth : Nat) (position : Int32) (c : Cursor) :
    scanItems fuel path depth position c.skip = scanItems fuel path depth position c := by
  cases fuel <;> simp only [scanItems, skip_skip]

theorem scanMembers_skip (fuel : Nat) (path : String) (depth : Nat) (c : Cursor) :
    scanMembers fuel path depth c.skip = scanMembers fuel path depth c := by
  cases fuel <;> simp only [scanMembers, skip_skip]

theorem scalar?_of_word {cs rest : List Char} (h : Word cs) (hstop : Stops rest) :
    scalar? (cs ++ rest) = some rest := by
  have hpass : ∀ c ∈ cs, endsScalar c = false :=
    fun c hc => endsScalar_eq_false_iff.mpr (h.unbroken c hc)
  have hdrop : (cs ++ rest).dropWhile (fun c => !endsScalar c) = rest := by
    rw [List.dropWhile_append_of_pos (by simpa using hpass)]
    cases rest with
    | nil => rfl
    | cons c rest => simp [hstop c rfl]
  cases cs with
  | nil => exact absurd rfl h.nonempty
  | cons c cs =>
    rw [List.cons_append] at hdrop ⊢
    simp only [scalar?, hpass c List.mem_cons_self, Bool.false_eq_true, if_false, hdrop]

theorem word_of_scalar? {cs rest : List Char} (h : scalar? cs = some rest)
    (hstart : ∀ c ∈ cs.head?, c ≠ '{' ∧ c ≠ '[' ∧ c ≠ '"') :
    ∃ word, Word word ∧ cs = word ++ rest := by
  cases cs with
  | nil => simp [scalar?] at h
  | cons c cs =>
    simp only [scalar?] at h
    split at h
    · simp at h
    · rename_i hc
      obtain rfl := Option.some.inj h
      have hhead : (c :: cs).takeWhile (fun c => !endsScalar c) =
          c :: cs.takeWhile (fun c => !endsScalar c) :=
        List.takeWhile_cons_of_pos (by simpa using hc)
      refine ⟨(c :: cs).takeWhile (fun c => !endsScalar c), ⟨?_, ?_, ?_⟩, by simp⟩
      · simp [hhead]
      · intro d hd
        have hd := List.mem_takeWhile_imp hd
        exact endsScalar_eq_false_iff.mp (by simpa using hd)
      · intro d hd
        rw [hhead] at hd
        exact hstart d hd

theorem Word.newline_not_mem {cs : List Char} (h : Word cs) : '\n' ∉ cs := by
  intro hmem
  have hblank := (h.unbroken _ hmem).2.2.2
  simp [Text.isAsciiBlank] at hblank

theorem position_succ (position : Nat) : Int32.ofNat (position + 1) = Int32.ofNat position + 1 :=
  Int32.ofNat_add position 1

/-! ## Branches of the scanner -/

/-- Up to `stop` the text is a value behind some blanks, with an outline for each line that it may
be counted from. -/
def FindsValue (path : String) (depth : Nat) (before text : List Char) (entries : List Entry)
    (stop : Cursor) : Prop :=
  ∃ lead body, Blanks lead ∧ text = lead ++ body ++ stop.rest ∧
    stop.line = wordAfter (before ++ lead ++ body) ∧
    ∀ line, ∃ node : Outline, node.line = line ∧ node.entries scannedItem path = entries ∧
      Derives deepest depth (before ++ lead) body (.value node)

def ValueSound (fuel : Nat) : Prop :=
  ∀ path depth cs before entries stop,
    scanValue fuel path depth ⟨cs, wordAfter before⟩ = some (entries, stop) →
      FindsValue path depth before cs entries stop

def ItemsSound (fuel : Nat) : Prop :=
  ∀ path depth position cs before entries stop,
    scanItems fuel path depth (Int32.ofNat position) ⟨cs, wordAfter before⟩ = some (entries, stop) →
      ∃ text nodes, cs = text ++ ']' :: stop.rest ∧
        stop.line = wordAfter (before ++ text ++ [']']) ∧
        Outline.itemEntries scannedItem path position nodes = entries ∧
        Derives deepest depth before text (.items nodes)

def MembersSound (fuel : Nat) : Prop :=
  ∀ path depth cs before entries stop,
    scanMembers fuel path depth ⟨cs, wordAfter before⟩ = some (entries, stop) →
      ∃ text nodes, cs = text ++ '}' :: stop.rest ∧
        stop.line = wordAfter (before ++ text ++ ['}']) ∧
        Outline.memberEntries scannedItem path nodes = entries ∧
        Derives deepest depth before text (.members nodes)

section Branches
variable {path : String} {depth : Nat} {before lead after : List Char}
variable (hdepth : depth ≤ deepest) (hlead : Blanks lead)
include hdepth hlead

theorem findsValue_word {cs : List Char} (hword : Word cs) :
    FindsValue path depth before (lead ++ (cs ++ after)) []
      ⟨after, wordAfter (before ++ lead)⟩ := by
  refine ⟨lead, cs, hlead, by simp, ?_, fun line => ⟨.leaf line, rfl, rfl, .word hdepth hword⟩⟩
  exact (wordAfter_append_of_not_mem hword.newline_not_mem _).symm

theorem findsValue_literal {body value : List Char} (hspells : Spells body value) :
    FindsValue path depth before (lead ++ '"' :: (body ++ '"' :: after)) []
      ⟨after, wordAfter (before ++ lead)⟩ := by
  refine ⟨lead, '"' :: body ++ ['"'], hlead, by simp, ?_, fun line => ⟨.leaf line, rfl, rfl, ?_⟩⟩
  · exact (wordAfter_append_of_not_mem (by simp [hspells.newline_not_mem]) _).symm
  · exact .literal hdepth hspells

theorem findsValue_emptyArray {gap : List Char} (hgap : Blanks gap) :
    FindsValue path depth before (lead ++ '[' :: (gap ++ ']' :: after)) []
      ⟨after, wordAfter (before ++ (lead ++ '[' :: gap))⟩ := by
  refine ⟨lead, '[' :: gap ++ [']'], hlead, by simp, ?_, fun line => ?_⟩
  · rw [← wordAfter_concat (c := ']') (by decide)]
    simp
  · exact ⟨.array line [], rfl, rfl, .emptyArray hdepth hgap⟩

theorem findsValue_items {fuel : Nat} {rest : List Char} {entries : List Entry} {stop : Cursor}
    (hitems : ItemsSound fuel)
    (h : scanItems fuel path depth 0 ⟨rest, wordAfter (before ++ lead ++ ['['])⟩ =
      some (entries, stop)) :
    FindsValue path depth before (lead ++ '[' :: rest) entries stop := by
  obtain ⟨text, nodes, htext, hline, hentries, hderives⟩ := hitems _ _ _ _ _ _ _ h
  refine ⟨lead, '[' :: text ++ [']'], hlead, by simp [htext], by simpa using hline, fun line => ?_⟩
  exact ⟨.array line nodes, rfl, hentries, .array hdepth hderives⟩

theorem findsValue_emptyObject {gap : List Char} (hgap : Blanks gap) :
    FindsValue path depth before (lead ++ '{' :: (gap ++ '}' :: after)) []
      ⟨after, wordAfter (before ++ (lead ++ '{' :: gap))⟩ := by
  refine ⟨lead, '{' :: gap ++ ['}'], hlead, by simp, ?_, fun line => ?_⟩
  · rw [← wordAfter_concat (c := '}') (by decide)]
    simp
  · exact ⟨.object line [], rfl, rfl, .emptyObject hdepth hgap⟩

theorem findsValue_members {fuel : Nat} {rest : List Char} {entries : List Entry} {stop : Cursor}
    (hmembers : MembersSound fuel)
    (h : scanMembers fuel path depth ⟨rest, wordAfter (before ++ lead ++ ['{'])⟩ =
      some (entries, stop)) :
    FindsValue path depth before (lead ++ '{' :: rest) entries stop := by
  obtain ⟨text, nodes, htext, hline, hentries, hderives⟩ := hmembers _ _ _ _ _ _ h
  refine ⟨lead, '{' :: text ++ ['}'], hlead, by simp [htext], by simpa using hline, fun line => ?_⟩
  exact ⟨.object line nodes, rfl, hentries, .object hdepth hderives⟩

end Branches

theorem valueSound_succ {fuel : Nat} (hitems : ItemsSound fuel) (hmembers : MembersSound fuel) :
    ValueSound (fuel + 1) := by
  intro path depth cs before entries stop h
  obtain ⟨lead, rest, hlead, rfl, hhead, hskip⟩ := skipBlanks_spec cs before
  rw [scanValue] at h
  simp only [Cursor.skip, hskip] at h
  split at h
  · simp at h
  · rename_i hdepth
    have hdepth : depth ≤ deepest := Nat.not_lt.mp hdepth
    -- One case for each branch of the scanner: an object, an array, a string and a bare word.
    split at h
    · rename_i rest
      rw [← wordAfter_concat (c := '{') (by decide)] at h
      obtain ⟨gap, inner, hgap, rfl, -, hinner⟩ := skipBlanks_spec rest (before ++ lead ++ ['{'])
      simp only [hinner] at h
      split at h
      · obtain ⟨rfl, rfl⟩ : [] = entries ∧ _ = stop := by simpa using h
        exact findsValue_emptyObject hdepth hlead hgap
      · rw [← hinner] at h
        exact findsValue_members hdepth hlead hmembers ((scanMembers_skip ..).symm.trans h)
    · rename_i rest
      rw [← wordAfter_concat (c := '[') (by decide)] at h
      obtain ⟨gap, inner, hgap, rfl, -, hinner⟩ := skipBlanks_spec rest (before ++ lead ++ ['['])
      simp only [hinner] at h
      split at h
      · obtain ⟨rfl, rfl⟩ : [] = entries ∧ _ = stop := by simpa using h
        exact findsValue_emptyArray hdepth hlead hgap
      · rw [← hinner] at h
        exact findsValue_items hdepth hlead hitems ((scanItems_skip ..).symm.trans h)
    · obtain ⟨⟨value, after⟩, hliteral, heq⟩ := Option.map_eq_some_iff.mp h
      obtain ⟨rfl, rfl⟩ : [] = entries ∧ _ = stop := by simpa using heq
      obtain ⟨body, hbody, hspells⟩ := literal?_eq_some_iff.mp hliteral
      rw [hbody]
      exact findsValue_literal hdepth hlead hspells
    · rename_i hbrace hbracket hquote
      obtain ⟨after, hscalar, heq⟩ := Option.map_eq_some_iff.mp h
      obtain ⟨rfl, rfl⟩ : [] = entries ∧ _ = stop := by simpa using heq
      have hstart : ∀ c ∈ rest.head?, c ≠ '{' ∧ c ≠ '[' ∧ c ≠ '"' := by
        intro c hc
        obtain ⟨tail, rfl⟩ := List.head?_eq_some_iff.mp hc
        refine ⟨?_, ?_, ?_⟩ <;> rintro rfl
        · exact hbrace tail rfl
        · exact hbracket tail rfl
        · exact hquote tail rfl
      obtain ⟨word, hword, rfl⟩ := word_of_scalar? hscalar hstart
      exact findsValue_word hdepth hlead hword

theorem itemsSound_succ {fuel : Nat} (hvalue : ValueSound fuel) (hitems : ItemsSound fuel) :
    ItemsSound (fuel + 1) := by
  intro path depth position cs before entries stop h
  rw [scanItems] at h
  obtain ⟨lead, rest, hlead, rfl, hhead, hskip⟩ := skipBlanks_spec cs before
  simp only [Cursor.skip, hskip] at h
  split at h
  · simp at h
  · rename_i below afterValue hscan
    obtain ⟨gap, text, hgap, rfl, hstop, hnode⟩ := hvalue _ _ _ _ _ _ hscan
    rw [List.append_assoc] at hhead
    obtain rfl := eq_nil_of_blanks hgap hhead
    simp only [List.append_nil] at hstop hnode
    obtain ⟨trail, behind, htrail, hbehind, -, hnext⟩ :=
      skipBlanks_spec afterValue.rest (before ++ lead ++ text)
    obtain ⟨node, hline, rfl, hderives⟩ := hnode (lineAfter (before ++ lead))
    have hword : UInt32.ofNat node.line = wordAfter (before ++ lead) := congrArg _ hline
    have hitem : Derives deepest depth before (lead ++ text ++ trail) (.item node) :=
      .item hlead hderives hline htrail
    simp only [hstop, hnext] at h
    split at h
    · rename_i more
      obtain ⟨⟨others, last⟩, hmore, heq⟩ := Option.map_eq_some_iff.mp h
      obtain ⟨rfl, rfl⟩ : _ = entries ∧ last = stop := by simpa using heq
      rw [← wordAfter_concat (c := ',') (by decide) (_ ++ trail), ← position_succ] at hmore
      obtain ⟨inner, nodes, hinner, hend, rfl, hrest⟩ := hitems _ _ _ _ _ _ _ hmore
      refine ⟨lead ++ text ++ trail ++ ',' :: inner, node :: nodes, ?_, ?_, ?_, ?_⟩
      · simp [hbehind, hinner]
      · simpa using hend
      · simp [Outline.itemEntries, scannedItem, hword]
      · exact .moreItems hitem (by simpa using hrest)
    · rename_i after
      obtain ⟨rfl, rfl⟩ : _ = entries ∧ _ = stop := by simpa using h
      refine ⟨lead ++ text ++ trail, [node], by simp [hbehind], ?_, ?_, .lastItem hitem⟩
      · rw [← wordAfter_concat (c := ']') (by decide)]
        simp
      · simp [Outline.itemEntries, scannedItem, hword]
    · simp at h

theorem membersSound_succ {fuel : Nat} (hvalue : ValueSound fuel) (hmembers : MembersSound fuel) :
    MembersSound (fuel + 1) := by
  intro path depth cs before entries stop h
  rw [scanMembers] at h
  obtain ⟨lead, rest, hlead, rfl, hhead, hskip⟩ := skipBlanks_spec cs before
  simp only [Cursor.skip, hskip] at h
  split at h
  · simp at h
  · rename_i key afterKey hkey
    obtain ⟨body, rfl, hspells⟩ := literal?_eq_some_iff.mp hkey
    have hquoted : wordAfter (before ++ lead ++ ('"' :: body ++ ['"'])) = wordAfter (before ++ lead) :=
      wordAfter_append_of_not_mem (by simp [hspells.newline_not_mem]) _
    obtain ⟨gap, colon, hgap, rfl, -, hcolon⟩ :=
      skipBlanks_spec afterKey (before ++ lead ++ ('"' :: body ++ ['"']))
    rw [hquoted] at hcolon
    simp only [hcolon] at h
    split at h
    · rename_i afterColon
      split at h
      · simp at h
      · rename_i below afterValue hscan
        rw [← wordAfter_concat (c := ':') (by decide) (_ ++ gap)] at hscan
        obtain ⟨gap', text, hgap', rfl, hstop, hnode⟩ := hvalue _ _ _ _ _ _ hscan
        obtain ⟨trail, behind, htrail, hbehind, -, hnext⟩ := skipBlanks_spec afterValue.rest
          (before ++ lead ++ ('"' :: body ++ ['"']) ++ gap ++ [':'] ++ gap' ++ text)
        obtain ⟨node, hline, rfl, hderives⟩ := hnode (lineAfter (before ++ lead))
        have hword : UInt32.ofNat node.line = wordAfter (before ++ lead) := congrArg _ hline
        have hmember : Derives deepest depth before
            (lead ++ '"' :: body ++ '"' :: gap ++ ':' :: gap' ++ text ++ trail) (.member key node) :=
          .member hlead hspells hgap hgap' (by simpa using hderives) hline htrail
        simp only [hstop, hnext] at h
        split at h
        · rename_i more
          obtain ⟨⟨others, last⟩, hmore, heq⟩ := Option.map_eq_some_iff.mp h
          obtain ⟨rfl, rfl⟩ : _ = entries ∧ last = stop := by simpa using heq
          rw [← wordAfter_concat (c := ',') (by decide) (_ ++ trail)] at hmore
          obtain ⟨inner, nodes, hinner, hend, rfl, hrest⟩ := hmembers _ _ _ _ _ _ hmore
          refine ⟨_ ++ ',' :: inner, (key, node) :: nodes, ?_, ?_, ?_, .moreMembers hmember ?_⟩
          · simp [hbehind, hinner]
          · simpa using hend
          · simp [Outline.memberEntries, hword]
          · simpa using hrest
        · rename_i after
          obtain ⟨rfl, rfl⟩ : _ = entries ∧ _ = stop := by simpa using h
          refine ⟨_, [(key, node)], ?_, ?_, ?_, .lastMember hmember⟩
          · simp [hbehind]
          · rw [← wordAfter_concat (c := '}') (by decide)]
            simp
          · simp [Outline.memberEntries, hword]
        · simp at h
    · simp at h

theorem scan_sound (fuel : Nat) : ValueSound fuel ∧ ItemsSound fuel ∧ MembersSound fuel := by
  induction fuel with
  | zero =>
    refine ⟨?_, ?_, ?_⟩
    · intro path depth cs before entries stop h
      simp [scanValue] at h
    · intro path depth position cs before entries stop h
      simp [scanItems] at h
    · intro path depth cs before entries stop h
      simp [scanMembers] at h
  | succ fuel ih =>
    obtain ⟨hvalue, hitems, hmembers⟩ := ih
    exact ⟨valueSound_succ hitems hmembers, itemsSound_succ hvalue hitems,
      membersSound_succ hvalue hmembers⟩

end TemplateAudit.LineIndex
