import TemplateAudit.Proofs.Audit.Completeness
import TemplateAudit.Proofs.LineIndex.Outline

/-!
# Lines of the entrypoint

With a source map, a line of the expanded document is looked for among the mappings of the first
entry of the entrypoint, and there the first mapping of that very line counts. Lines are counted from
one and mappings from zero, and both stay within 32 bits. A line zero, which is left of a line that
does not fit, counts as the first one. Nothing else in a source map, and nothing else about a template
than its document and its text, has a part in it.
-/

namespace TemplateAudit

set_option autoImplicit false

def IsFirst {α : Type} (P : α → Prop) (xs : List α) (x : α) : Prop :=
  ∃ before after, xs = before ++ x :: after ∧ P x ∧ ∀ y ∈ before, ¬ P y

theorem find?_eq_some_iff_isFirst {α : Type} {p : α → Bool} {P : α → Prop}
    (h : ∀ x, p x = true ↔ P x) {xs : List α} {x : α} :
    xs.find? p = some x ↔ IsFirst P xs x := by
  rw [List.find?_eq_some_iff_append, h]
  constructor
  · rintro ⟨hx, before, after, hsplit, hbefore⟩
    refine ⟨before, after, hsplit, hx, ?_⟩
    intro y hy hPy
    have hnot := hbefore y hy
    rw [(h y).mpr hPy] at hnot
    cases hnot
  · rintro ⟨before, after, hsplit, hx, hbefore⟩
    refine ⟨hx, before, after, hsplit, ?_⟩
    intro y hy
    rw [Bool.not_eq_true', ← Bool.not_eq_true, h]
    exact hbefore y hy

def SourceMap.FirstEntry (m : SourceMap) (file : FileMap) : Prop :=
  IsFirst (fun entry => entry.path = m.entrypoint) m.files file

/-- The first mapping of a line, which is counted from one. Line zero stands for the first line. -/
def FileMap.FirstMapping (file : FileMap) (line : UInt32) (mapping : LineMapping) : Prop :=
  IsFirst (fun m => m.target.toNat = line.toNat - 1) file.mappings mapping

theorem SourceMap.file?_eq_some_iff {m : SourceMap} {file : FileMap} :
    m.file? m.entrypoint = some file ↔ m.FirstEntry file :=
  find?_eq_some_iff_isFirst fun _ => beq_iff_eq

namespace Template

theorem mappedLines_eq_lines {t : Template} {m : SourceMap} (h : t.sourceMap = some m) :
    t.mappedLines = t.lines := by
  unfold lines
  rw [h]
  rfl

theorem mappedLines_ok_iff {t : Template} {m : SourceMap} (h : t.sourceMap = some m) :
    (∃ lineOf, t.mappedLines = .ok lineOf) ↔ ∃ file ∈ m.files, file.path = m.entrypoint := by
  rw [mappedLines_eq_lines h]
  cases hfile : m.file? m.entrypoint with
  | none =>
    rw [lines_of_missing h hfile]
    constructor
    · rintro ⟨lineOf, hlines⟩
      cases hlines
    · rintro ⟨file, hmem, hpath⟩
      have hnot := List.find?_eq_none.mp hfile file hmem
      exact absurd (beq_iff_eq.mpr hpath) hnot
  | some file =>
    rw [lines_of_mapped h hfile]
    constructor
    · intro _
      obtain ⟨before, after, hfiles, hpath, -⟩ := SourceMap.file?_eq_some_iff.mp hfile
      refine ⟨file, ?_, hpath⟩
      rw [hfiles]
      exact List.mem_append_right before List.mem_cons_self
    · intro _
      exact ⟨_, rfl⟩

theorem toNat_zeroBased (line : UInt32) : (zeroBased line).toNat = line.toNat - 1 := by
  rw [zeroBased]
  split
  · rename_i hzero
    subst hzero
    rfl
  · rename_i hpositive
    have hone : 1 ≤ line := by
      rw [UInt32.le_iff_toNat_le]
      exact Nat.one_le_iff_ne_zero.mpr fun h => hpositive (UInt32.toNat_inj.mp h)
    exact UInt32.toNat_sub_of_le line 1 hone

theorem toNat_succ_of_lt {source : UInt32} (h : source.toNat + 1 < UInt32.size) :
    (source + 1).toNat = source.toNat + 1 := by
  rw [UInt32.toNat_add]
  exact Nat.mod_eq_of_lt h

section SourceLine
variable {file : FileMap} {line : UInt32}

theorem find?_mapping_iff {mapping : LineMapping} :
    (file.mappings.find? fun m => m.target == zeroBased line) = some mapping ↔
      file.FirstMapping line mapping := by
  apply find?_eq_some_iff_isFirst
  intro m
  rw [beq_iff_eq, ← UInt32.toNat_inj, toNat_zeroBased]

theorem sourceLine_of_mapping {mapping : LineMapping} (h : file.FirstMapping line mapping) :
    sourceLine file.mappings line =
      if mapping.source.toNat + 1 < UInt32.size then mapping.source + 1 else firstLine := by
  have hfind := find?_mapping_iff.mpr h
  simp only [sourceLine, LineMapping.lookup?, hfind, Option.map_some]

theorem sourceLine_of_unmapped (h : ∀ mapping, ¬ file.FirstMapping line mapping) :
    sourceLine file.mappings line = firstLine := by
  have hfind : (file.mappings.find? fun m => m.target == zeroBased line) = none := by
    apply Option.eq_none_iff_forall_not_mem.mpr
    intro mapping hmapping
    exact h mapping (find?_mapping_iff.mp hmapping)
  simp only [sourceLine, LineMapping.lookup?, hfind, Option.map_none]

/-- A line is lost when there is no mapping for it and when its source has no successor. -/
theorem sourceLine_of_none (h : ¬ ∃ mapping, file.FirstMapping line mapping ∧
    mapping.source.toNat + 1 < UInt32.size) : sourceLine file.mappings line = firstLine := by
  by_cases hmapped : ∃ mapping, file.FirstMapping line mapping
  · obtain ⟨mapping, hmapping⟩ := hmapped
    rw [sourceLine_of_mapping hmapping, if_neg]
    intro hfits
    exact h ⟨mapping, hmapping, hfits⟩
  · apply sourceLine_of_unmapped
    intro mapping hmapping
    exact hmapped ⟨mapping, hmapping⟩

/-- Only the source of the first mapping matters. -/
theorem sourceLine_congr {other : FileMap}
    (h : ∀ source, (∃ mapping, file.FirstMapping line mapping ∧ mapping.source = source) ↔
      ∃ mapping, other.FirstMapping line mapping ∧ mapping.source = source) :
    sourceLine other.mappings line = sourceLine file.mappings line := by
  by_cases hmapped : ∃ mapping, file.FirstMapping line mapping
  · obtain ⟨mapping, hmapping⟩ := hmapped
    obtain ⟨twin, htwin, hsource⟩ := (h mapping.source).mp ⟨mapping, hmapping, rfl⟩
    rw [sourceLine_of_mapping hmapping, sourceLine_of_mapping htwin, hsource]
  · have hother : ∀ mapping, ¬ other.FirstMapping line mapping := by
      intro mapping hmapping
      obtain ⟨twin, htwin, -⟩ := (h mapping.source).mpr ⟨mapping, hmapping, rfl⟩
      exact hmapped ⟨twin, htwin⟩
    rw [sourceLine_of_unmapped hother,
      sourceLine_of_unmapped fun mapping hmapping => hmapped ⟨mapping, hmapping⟩]

end SourceLine

theorem one_le_sourceLine (mappings : List LineMapping) (line : UInt32) :
    1 ≤ sourceLine mappings line := by
  unfold sourceLine
  split
  · split
    · rename_i source _ hfits
      rw [UInt32.le_iff_toNat_le, toNat_succ_of_lt hfits]
      exact Nat.le_add_left 1 source.toNat
    · decide
  · decide

/-- Lines are carried over by exact match: a template with a source map can be located exactly when
the map has an entry of its entrypoint, and then a path is at the line after the source of the first
mapping, in the first such entry, of its line in the expanded document. Where there is none, or its
source is the last of 32 bits, the path is at line one; no path is at line zero. Templates of one
document and one text, whose entries agree on the first mapping of every line, locate all paths
alike. -/
theorem mappedLines_first_mapping (t : Template) (m : SourceMap) (hmap : t.sourceMap = some m) :
    ((∃ lineOf, t.mappedLines = .ok lineOf) ↔ ∃ file ∈ m.files, file.path = m.entrypoint) ∧
    ∀ lineOf, t.mappedLines = .ok lineOf → ∃ file, m.FirstEntry file ∧
      (∀ path,
        (∀ mapping, file.FirstMapping (t.lineIndex.resolve path) mapping →
          mapping.source.toNat + 1 < UInt32.size →
            (lineOf path).toNat = mapping.source.toNat + 1) ∧
        ((¬ ∃ mapping, file.FirstMapping (t.lineIndex.resolve path) mapping ∧
          mapping.source.toNat + 1 < UInt32.size) → lineOf path = 1) ∧
        1 ≤ lineOf path) ∧
      ∀ (other : Template) (n : SourceMap) (entry : FileMap), other.sourceMap = some n →
        other.expanded = t.expanded → other.text = t.text → n.entrypoint = m.entrypoint →
        n.FirstEntry entry →
        (∀ line source, (∃ mapping, file.FirstMapping line mapping ∧ mapping.source = source) ↔
          ∃ mapping, entry.FirstMapping line mapping ∧ mapping.source = source) →
        other.mappedLines = .ok lineOf := by
  refine ⟨mappedLines_ok_iff hmap, ?_⟩
  intro lineOf hlines
  rw [mappedLines_eq_lines hmap] at hlines
  cases hfile : m.file? m.entrypoint with
  | none =>
    rw [lines_of_missing hmap hfile] at hlines
    cases hlines
  | some file =>
    rw [lines_of_mapped hmap hfile] at hlines
    obtain rfl := Except.ok.inj hlines
    refine ⟨file, SourceMap.file?_eq_some_iff.mp hfile, ?_, ?_⟩
    · intro path
      beta_reduce
      refine ⟨?_, sourceLine_of_none, one_le_sourceLine _ _⟩
      intro mapping hmapping hfits
      rw [sourceLine_of_mapping hmapping, if_pos hfits, toNat_succ_of_lt hfits]
    · intro other n entry hother hexpanded htext _ hentry hagree
      have hindex : other.lineIndex = t.lineIndex := by
        unfold lineIndex
        rw [htext, hexpanded]
      rw [mappedLines_eq_lines hother, lines_of_mapped hother (SourceMap.file?_eq_some_iff.mpr hentry),
        hindex]
      congr 1
      funext path
      exact sourceLine_congr (hagree _)

/-- The entrypoint has two entries, and in the first of them two mappings for the second line and one
for the first that leads out of range. -/
theorem mappedLines_first_mapping_repeated :
    let m : SourceMap := ⟨"main", [⟨"module", [⟨1, 8⟩]⟩,
      ⟨"main", [⟨0, 4294967295⟩, ⟨1, 20⟩, ⟨1, 30⟩]⟩, ⟨"main", [⟨1, 40⟩]⟩]⟩
    let t : Template := { expanded := .object [("a", .null)], sourceMap := some m }
    ∃ lineOf, t.sourceMap = some m ∧ t.mappedLines = .ok lineOf ∧ lineOf "a" = 21 ∧
      lineOf "" = 1 := by
  intro m t
  obtain ⟨hok, hmapped⟩ := mappedLines_first_mapping t m rfl
  obtain ⟨lineOf, hlines⟩ := hok.mpr ⟨⟨"main", [⟨1, 40⟩]⟩, by simp [m], rfl⟩
  obtain ⟨file, hfile, hpaths, -⟩ := hmapped lineOf hlines
  obtain rfl : (⟨"main", [⟨0, 4294967295⟩, ⟨1, 20⟩, ⟨1, 30⟩]⟩ : FileMap) = file :=
    Option.some.inj ((rfl : _ = m.file? m.entrypoint).trans (SourceMap.file?_eq_some_iff.mpr hfile))
  have hindex : t.lineIndex = LineIndex.ofEntries [("a", 2)] := rfl
  have hsecond : t.lineIndex.resolve "a" = 2 := by
    have hparse : Path.parse? "a" = some [.key "a"] := by decide +kernel
    have hentry : t.lineIndex.line? [.key "a"] = some 2 := by
      rw [LineIndex.line?, hindex, LineIndex.ofEntries_getElem?]
      decide +kernel
    simp [LineIndex.resolve, hparse, LineIndex.nearestLine, hentry]
  have hfirst : t.lineIndex.resolve "" = 1 := by
    have hparse : Path.parse? "" = some [] := by decide +kernel
    have hentry : t.lineIndex.line? [] = some 1 := by
      rw [LineIndex.line?, hindex, LineIndex.ofEntries_getElem?]
      decide +kernel
    simp [LineIndex.resolve, hparse, LineIndex.nearestLine, hentry]
  obtain ⟨hline, -⟩ := hpaths "a"
  obtain ⟨-, hnone, -⟩ := hpaths ""
  refine ⟨lineOf, rfl, hlines, ?_, ?_⟩
  · rw [hsecond] at hline
    have hsource := hline ⟨1, 20⟩ ⟨[⟨0, 4294967295⟩], [⟨1, 30⟩], rfl, rfl, by simp⟩ (by decide)
    exact UInt32.toNat_inj.mp hsource
  · apply hnone
    rintro ⟨mapping, hmapping, hfits⟩
    rw [hfirst] at hmapping
    obtain rfl : (⟨0, 4294967295⟩ : LineMapping) = mapping :=
      Option.some.inj (find?_mapping_iff.mpr hmapping)
    revert hfits
    decide

end Template

end TemplateAudit
