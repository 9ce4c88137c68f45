import TemplateAudit.Proofs.LineIndex.Completeness
import TemplateAudit.Proofs.LineIndex.Layout
import TemplateAudit.Template

/-!
# Lines stay inside the text

Every node of a document starts on one of the lines of its text, and so every path is resolved to
one of them: a path that is not in the index falls back to a node that is, or to the first line.
Lines of more than 32 bits are counted from zero again, which can only make them smaller.
-/

namespace TemplateAudit

set_option autoImplicit false

open LineIndex

namespace LineIndex

/-- Number of lines of a text; the last one may lack its line break. -/
def lineCount (text : List Char) : Nat :=
  text.count '\n' + if text.getLast?.all (· == '\n') then 0 else 1

theorem lineAfter_le_lineCount (before : List Char) {rest : List Char} (h : rest ≠ []) :
    lineAfter before ≤ lineCount (before ++ rest) := by
  have hcount : (before ++ rest).count '\n' = before.count '\n' + rest.count '\n' :=
    List.count_append
  unfold lineAfter lineCount
  rw [hcount, List.getLast?_append_of_ne_nil before h, List.getLast?_eq_some_getLast h]
  split
  · rename_i hbreak
    have hlast : rest.getLast h = '\n' := by simpa using hbreak
    have hpos := List.count_pos_iff.mpr (hlast ▸ List.getLast_mem h)
    omega
  · omega

theorem lineAfter_mono {before text : List Char} (h : before <+: text) :
    lineAfter before ≤ lineAfter text := by
  obtain ⟨rest, rfl⟩ := h
  rw [lineAfter_append]
  omega

theorem one_le_lineAfter (before : List Char) : 1 ≤ lineAfter before :=
  Nat.le_add_right _ _

theorem lineCount_withoutMark_le (text : List Char) :
    lineCount (withoutMark text) ≤ lineCount text := by
  cases text with
  | nil => exact Nat.le_refl _
  | cons c rest =>
    rw [withoutMark]
    split
    · rename_i hc
      have hbreak : c ≠ '\n' := by
        rintro rfl
        simp at hc
      have hcount : (c :: rest).count '\n' = rest.count '\n' := List.count_cons_of_ne hbreak
      unfold lineCount
      rw [hcount]
      cases rest with
      | nil => simp
      | cons d rest => simp
    · exact Nat.le_refl _

theorem one_le_of_within {last : Nat} {word : UInt32} (h : LineBetween 0 last word)
    (hfits : last < UInt32.size) : 1 ≤ word := by
  rw [UInt32.le_iff_toNat_le]
  exact h.lt_toNat hfits

namespace Outline

def EntriesWithin (last : Nat) (node : Outline) : Prop :=
  ∀ itemPath path, ∀ e ∈ node.entries itemPath path, LineBetween 0 last e.2

/-- The node and all nodes below it start on lines up to `last`. -/
structure Within (last : Nat) (node : Outline) : Prop where
  first : 1 ≤ node.line
  upTo : node.line ≤ last
  below : node.EntriesWithin last

theorem EntriesWithin.mono {last more : Nat} {node : Outline} (h : node.EntriesWithin last)
    (hle : last ≤ more) : node.EntriesWithin more :=
  fun itemPath path e he => (h itemPath path e he).mono (Nat.le_refl 0) hle

theorem Within.mono {last more : Nat} {node : Outline} (h : node.Within last)
    (hle : last ≤ more) : node.Within more :=
  ⟨h.first, Nat.le_trans h.upTo hle, h.below.mono hle⟩

theorem Within.line_within {last : Nat} {node : Outline} (h : node.Within last) :
    LineBetween 0 last (UInt32.ofNat node.line) :=
  ⟨node.line, h.first, h.upTo, rfl⟩

theorem entriesWithin_leaf (last line : Nat) : (Outline.leaf line).EntriesWithin last := by
  intro itemPath path e he
  simp [entries] at he

theorem entriesWithin_array {last line : Nat} {nodes : List Outline}
    (h : ∀ node ∈ nodes, node.Within last) : (Outline.array line nodes).EntriesWithin last := by
  intro itemPath path e he
  rw [entries, mem_itemEntries] at he
  obtain ⟨i, node, hnode, rfl | hbelow⟩ := he
  · exact (h node (List.mem_of_getElem? hnode)).line_within
  · exact (h node (List.mem_of_getElem? hnode)).below itemPath _ e hbelow

theorem entriesWithin_object {last line : Nat} {nodes : List (String × Outline)}
    (h : ∀ m ∈ nodes, m.2.Within last) : (Outline.object line nodes).EntriesWithin last := by
  intro itemPath path e he
  rw [entries, mem_memberEntries] at he
  obtain ⟨key, node, hmem, rfl | hbelow⟩ := he
  · exact (h (key, node) hmem).line_within
  · exact (h (key, node) hmem).below itemPath _ e hbelow

theorem within_of_prefix {node : Outline} {start inner text : List Char}
    (hline : node.line = lineAfter start) (hstart : start <+: text)
    (h : node.EntriesWithin (lineAfter inner)) (hinner : inner <+: text) :
    node.Within (lineAfter text) where
  first := hline ▸ one_le_lineAfter start
  upTo := hline ▸ lineAfter_mono hstart
  below := h.mono (lineAfter_mono hinner)

end Outline

def Part.Within (last : Nat) : Part → Prop
  | .value node => node.EntriesWithin last
  | .item node => node.Within last
  | .items nodes => ∀ node ∈ nodes, node.Within last
  | .member _ node => node.Within last
  | .members nodes => ∀ m ∈ nodes, m.2.Within last

theorem Part.Within.mono {last more : Nat} {part : Part} (h : part.Within last)
    (hle : last ≤ more) : part.Within more := by
  cases part with
  | value node => exact Outline.EntriesWithin.mono h hle
  | item node => exact Outline.Within.mono h hle
  | items nodes => exact fun node hnode => (h node hnode).mono hle
  | member key node => exact Outline.Within.mono h hle
  | members nodes => exact fun m hm => (h m hm).mono hle

/-- No part of a document has a node on a line after the end of the part. -/
theorem Derives.within {limit depth : Nat} {before text : List Char} {part : Part}
    (h : Derives limit depth before text part) : part.Within (lineAfter (before ++ text)) := by
  induction h with
  | word => exact Outline.entriesWithin_leaf _ _
  | literal => exact Outline.entriesWithin_leaf _ _
  | emptyArray => exact Outline.entriesWithin_array (by simp)
  | array _ _ ih =>
    apply Outline.entriesWithin_array
    exact ih.mono (lineAfter_mono ⟨[']'], by simp⟩)
  | emptyObject => exact Outline.entriesWithin_object (by simp)
  | object _ _ ih =>
    apply Outline.entriesWithin_object
    exact ih.mono (lineAfter_mono ⟨['}'], by simp⟩)
  | @item _ _ _ text trail _ _ _ hline _ ih =>
    exact Outline.within_of_prefix hline ⟨text ++ trail, by simp⟩ ih ⟨trail, by simp⟩
  | lastItem _ ih =>
    intro node hnode
    obtain rfl := List.mem_singleton.mp hnode
    exact ih
  | @moreItems _ before text more node nodes _ _ ih ihmore =>
    intro other hother
    rcases List.mem_cons.mp hother with rfl | hrest
    · exact ih.mono (lineAfter_mono ⟨',' :: more, by simp⟩)
    · simpa using ihmore other hrest
  | @member _ _ _ body gap gap' text trail _ _ _ _ _ _ _ hline _ ih =>
    exact Outline.within_of_prefix hline
      ⟨'"' :: body ++ '"' :: gap ++ ':' :: gap' ++ text ++ trail, by simp⟩ ih ⟨trail, by simp⟩
  | lastMember _ ih =>
    intro m hm
    obtain rfl := List.mem_singleton.mp hm
    exact ih
  | @moreMembers _ before text more key node nodes _ _ ih ihmore =>
    intro m hm
    rcases List.mem_cons.mp hm with rfl | hrest
    · exact ih.mono (lineAfter_mono ⟨',' :: more, by simp⟩)
    · simpa using ihmore m hrest

theorem Derives.value_within {limit depth : Nat} {before text : List Char} {node : Outline}
    (h : Derives limit depth before text (.value node)) :
    ∃ front rest, text = front ++ rest ∧ rest ≠ [] ∧
      node.EntriesWithin (lineAfter (before ++ front)) := by
  cases h with
  | word _ hword => exact ⟨[], text, rfl, hword.nonempty, Outline.entriesWithin_leaf _ _⟩
  | literal => exact ⟨[], _, rfl, by simp, Outline.entriesWithin_leaf _ _⟩
  | emptyArray => exact ⟨[], _, rfl, by simp, Outline.entriesWithin_array (by simp)⟩
  | @array _ _ _ inner _ _ hitems =>
    refine ⟨'[' :: inner, [']'], rfl, by simp, Outline.entriesWithin_array ?_⟩
    simpa [Part.Within] using hitems.within
  | emptyObject => exact ⟨[], _, rfl, by simp, Outline.entriesWithin_object (by simp)⟩
  | @object _ _ _ inner _ _ hmembers =>
    refine ⟨'{' :: inner, ['}'], rfl, by simp, Outline.entriesWithin_object ?_⟩
    simpa [Part.Within] using hmembers.within

theorem Document.within {limit : Nat} {text : List Char} {outline : Outline}
    (h : Document limit text outline) :
    1 ≤ lineCount text ∧ outline.EntriesWithin (lineCount text) := by
  obtain ⟨lead, body, trail, -, -, rfl, -, hderives⟩ := h
  obtain ⟨front, rest, rfl, hrest, hwithin⟩ := hderives.value_within
  have hne : rest ++ trail ≠ [] := by simp [hrest]
  have htext : lead ++ front ++ (rest ++ trail) = lead ++ (front ++ rest) ++ trail := by simp
  have hle : lineAfter (lead ++ front) ≤ lineCount (lead ++ (front ++ rest) ++ trail) :=
    htext ▸ lineAfter_le_lineCount (lead ++ front) hne
  exact ⟨Nat.le_trans (one_le_lineAfter _) hle, hwithin.mono hle⟩

/-! ## Resolved lines -/

theorem line_of_getElem? {entries : List Entry} {path : String} {line : UInt32}
    (h : (ofEntries entries).lines[path]? = some line) :
    line = firstLine ∨ ∃ e ∈ entries, e.2 = line := by
  rw [ofEntries_getElem?, latestLine?, Option.map_eq_some_iff] at h
  obtain ⟨e, hfind, rfl⟩ := h
  have hmem := List.mem_reverse.mp (List.mem_of_find?_eq_some hfind)
  rcases List.mem_cons.mp hmem with rfl | hentry
  · exact Or.inl rfl
  · exact Or.inr ⟨e, hentry, rfl⟩

theorem nearestLine_cases (index : LineIndex) (steps : List Path.Segment) :
    index.nearestLine steps = firstLine ∨
      ∃ path : String, index.lines[path]? = some (index.nearestLine steps) := by
  induction steps with
  | nil =>
    rw [nearestLine]
    cases hroot : index.line? [] with
    | none => exact Or.inl rfl
    | some line => exact Or.inr ⟨_, hroot⟩
  | cons last before ih =>
    rw [nearestLine]
    split
    · rename_i line hline
      exact Or.inr ⟨_, hline⟩
    · exact ih

/-- In the index of a document every path leads to a line of the text. -/
theorem resolve_within {limit : Nat} {text : List Char} {outline : Outline}
    (h : Document limit text outline) (itemPath : ItemPath) (path : String) :
    LineBetween 0 (lineCount text) ((ofEntries (outline.entries itemPath "")).resolve path) := by
  obtain ⟨hfirst, hentries⟩ := h.within
  have hroot : LineBetween 0 (lineCount text) firstLine := ⟨1, Nat.one_pos, hfirst, rfl⟩
  unfold resolve
  split
  · rename_i steps _
    rcases nearestLine_cases (ofEntries (outline.entries itemPath "")) steps.reverse with
      hline | ⟨found, hline⟩
    · rwa [hline]
    · rcases line_of_getElem? hline with hnode | ⟨e, he, hnode⟩
      · rwa [hnode]
      · rw [← hnode]
        exact hentries itemPath "" e he
  · exact hroot

end LineIndex

namespace Template

/-- The text that lines of a template are counted in: its own when it can be indexed, else the
pretty layout of the document. -/
def layoutText (t : Template) : String :=
  match t.text with
  | some text => if (ofText? text).isSome then text else t.expanded.pretty
  | none => t.expanded.pretty

theorem document_ofValue (value : Json) : ∃ limit outline,
    Document limit value.pretty.toList outline ∧
      LineIndex.ofValue value = ofEntries (outline.entries Path.item "") :=
  ⟨_, _, document_pretty (Nat.le_refl _), ofValue_eq_ofEntries value⟩

/-- The index of a template is that of a document with no more lines than the layout in use. -/
theorem document_layoutText (t : Template) : ∃ limit text outline itemPath,
    Document limit text outline ∧ t.lineIndex = ofEntries (outline.entries itemPath "") ∧
      lineCount text ≤ lineCount t.layoutText.toList := by
  have hpretty : ∃ limit text outline itemPath, Document limit text outline ∧
      LineIndex.ofValue t.expanded = ofEntries (outline.entries itemPath "") ∧
        lineCount text ≤ lineCount t.expanded.pretty.toList := by
    obtain ⟨limit, outline, hdocument, hindex⟩ := document_ofValue t.expanded
    exact ⟨limit, _, outline, Path.item, hdocument, hindex, Nat.le_refl _⟩
  unfold lineIndex layoutText
  cases t.text with
  | none => simpa using hpretty
  | some text =>
    cases hindex : ofText? text with
    | none => simpa [hindex] using hpretty
    | some index =>
      obtain ⟨entries, hscan, rfl⟩ := Option.map_eq_some_iff.mp hindex
      obtain ⟨outline, hdocument, rfl⟩ := document_of_scan? hscan
      refine ⟨deepest, _, outline, scannedItem, hdocument, by simp [hindex], ?_⟩
      simpa [hindex] using lineCount_withoutMark_le text.toList

theorem resolve_within_layout (t : Template) (path : String) :
    LineBetween 0 (lineCount t.layoutText.toList) (t.lineIndex.resolve path) := by
  obtain ⟨limit, text, outline, itemPath, hdocument, hindex, hle⟩ := t.document_layoutText
  rw [hindex]
  exact (resolve_within hdocument itemPath path).mono (Nat.le_refl 0) hle

theorem one_le_layout (t : Template) : 1 ≤ lineCount t.layoutText.toList := by
  obtain ⟨line, hfirst, hlast, -⟩ := t.resolve_within_layout ""
  exact Nat.le_trans hfirst hlast

end Template

end TemplateAudit
