import Mathlib.Data.Nat.Digits.Defs
import TemplateAudit.Proofs.Json.Records
import TemplateAudit.SourceMap

/-!
# Encodings of source maps

A source map is written as a JSON object with its members in any order, each under any of its names,
with other members between them, and with empty lists left out or not; the same holds of every entry
and of every mapping. All such texts are read as the source map that they write, the ones that are
printed among them. A text in which one of these objects has two members of one field is refused.
-/

namespace TemplateAudit

set_option autoImplicit false

open Json

/-! ## Line numbers -/

/-- The tree is a line number, written with neither sign nor point nor exponent. -/
def Json.Written.IsLine (tree : Written) (line : UInt32) : Prop :=
  ∃ digits, tree = .number ⟨false, digits, none, none⟩ ∧
    Nat.ofDigits 10 digits.reverse = line.toNat

theorem foldl_digits (digits : List Nat) :
    digits.foldl (fun value d => value * 10 + d) 0 = Nat.ofDigits 10 digits.reverse := by
  rw [Nat.ofDigits_eq_foldr, List.foldr_reverse]
  simp only [Nat.cast_id, Nat.mul_comm 10, Nat.add_comm]

theorem fits64_line (line : UInt32) : Fits64 line.toNat := by
  have hsize := line.toNat_lt
  omega

theorem nat?_of_integer? {text : NumberText} {n : Nat} (hfits : Fits64 n)
    (h : text.integer? = some ⟨n, hfits⟩) : Tree.nat? (Written.number text) = some n := by
  have hnumber : text.number? = some (.int ⟨n, hfits⟩) := by
    simp only [NumberText.number?, h]
  show text.number?.bind Number.toNat? = some n
  rw [hnumber, Option.bind_some, Number.toNat?, if_pos (Int.natCast_nonneg n), Int.toNat_natCast]

theorem Json.Written.IsLine.word32? {tree : Written} {line : UInt32} (h : tree.IsLine line) :
    Tree.word32? tree = some line := by
  obtain ⟨digits, rfl, hvalue⟩ := h
  have hinteger : NumberText.integer? ⟨false, digits, none, none⟩ =
      some ⟨line.toNat, fits64_line line⟩ := by
    simp only [NumberText.integer?, foldl_digits, hvalue, Bool.false_eq_true, if_false,
      Option.isSome_none, Bool.false_and, Bool.or_self]
    exact dif_pos (fits64_line line)
  rw [Tree.word32?, nat?_of_integer? (fits64_line line) hinteger]
  simp only [UInt32.toNat_lt_size, if_true, UInt32.ofNat_toNat]

theorem isLine_of_spelled {line : UInt32} {tree : Written}
    (h : Spelled (.ofNat line.toNat) tree) : tree.IsLine line := by
  rw [ofNat, Number.ofInt, dif_pos (fits64_line line)] at h
  cases h with
  | int =>
    -- The digits of a number have it as their value.
    refine ⟨_, rfl, ?_⟩
    rw [← foldl_digits, digitValues, List.foldl_map]
    simpa [Nat.ofDigitChars_eq_foldl, Nat.mul_comm] using @Nat.ofDigitChars_ten_toDigits line.toNat

/-! ## Objects that write source maps -/

namespace LineMapping

def targetNames : List String := ["targetLine", "TargetLine"]

def sourceNames : List String := ["sourceLine", "SourceLine"]

def WrittenAs (m : LineMapping) (tree : Written) : Prop :=
  ∃ members named target source, tree = .object members ∧ Named members named ∧
    Once targetNames named target ∧ target.IsLine m.target ∧
    Once sourceNames named source ∧ source.IsLine m.source

def Repeated (tree : Written) : Prop :=
  Repeats targetNames tree ∨ Repeats sourceNames tree

end LineMapping

namespace FileMap

def pathNames : List String := ["filePath", "FilePath"]

def mappingsNames : List String := ["mappings", "sourceMap", "SourceMap", "Mappings"]

def WrittenAs (f : FileMap) (tree : Written) : Prop :=
  ∃ members named path, tree = .object members ∧ Named members named ∧
    Once pathNames named (.string path) ∧ Denotes path f.path ∧
    ListGiven mappingsNames named LineMapping.WrittenAs f.mappings

/-- The tree, or one of its mappings, is an object with two members of one field. -/
def Repeated (tree : Written) : Prop :=
  Repeats pathNames tree ∨ Repeats mappingsNames tree ∨
    ∃ items, Gives mappingsNames 1 tree (.array items) ∧ ∃ item ∈ items, LineMapping.Repeated item

end FileMap

namespace SourceMap

def entrypointNames : List String := ["entrypoint", "Entrypoint"]

def entriesNames : List String := ["entries", "Entries"]

def WrittenAs (m : SourceMap) (tree : Written) : Prop :=
  ∃ members named entrypoint, tree = .object members ∧ Named members named ∧
    Once entrypointNames named (.string entrypoint) ∧ Denotes entrypoint m.entrypoint ∧
    ListGiven entriesNames named FileMap.WrittenAs m.files

/-- The tree, one of its entries or one of their mappings is an object with two members of one
field. -/
def Repeated (tree : Written) : Prop :=
  Repeats entrypointNames tree ∨ Repeats entriesNames tree ∨
    ∃ items, Gives entriesNames 1 tree (.array items) ∧ ∃ item ∈ items, FileMap.Repeated item

def Encodes (text : String) (m : SourceMap) : Prop :=
  ∃ tree, TextOf tree text ∧ m.WrittenAs tree

end SourceMap

/-! ## Reading them -/

theorem LineMapping.WrittenAs.ofTree? {m : LineMapping} {tree : Written} (h : m.WrittenAs tree) :
    LineMapping.ofTree? tree = some m := by
  obtain ⟨members, named, target, source, rfl, hnamed, htarget, hline, hsource, hfrom⟩ := h
  have hfields : Tree.fields? fieldNames (Written.object members) =
      some [some target, some source] :=
    fields?_of_named hnamed (field?_of_once htarget) (field?_of_once hsource)
  simp [LineMapping.ofTree?, hfields, Tree.required?, hline.word32?, hfrom.word32?]

theorem FileMap.WrittenAs.ofTree? {f : FileMap} {tree : Written} (h : f.WrittenAs tree) :
    FileMap.ofTree? tree = some f := by
  obtain ⟨members, named, path, rfl, hnamed, hpath, hdenotes, hlist⟩ := h
  obtain ⟨field, hfield, hmappings⟩ :=
    hlist.exists_field fun m item => LineMapping.WrittenAs.ofTree?
  have hfields : Tree.fields? fieldNames (Written.object members) =
      some [some (.string path), field] :=
    fields?_of_named hnamed (field?_of_once hpath) hfield
  have hstring : Tree.string? (Written.string path) = some f.path := hdenotes.decode
  simp [FileMap.ofTree?, hfields, Tree.required?, hstring, hmappings]

theorem SourceMap.WrittenAs.ofTree? {m : SourceMap} {tree : Written} (h : m.WrittenAs tree) :
    SourceMap.ofTree? tree = some m := by
  obtain ⟨members, named, entrypoint, rfl, hnamed, hentrypoint, hdenotes, hlist⟩ := h
  obtain ⟨field, hfield, hentries⟩ :=
    hlist.exists_field fun f item => FileMap.WrittenAs.ofTree?
  have hfields : Tree.fields? fieldNames (Written.object members) =
      some [some (.string entrypoint), field] :=
    fields?_of_named hnamed (field?_of_once hentrypoint) hfield
  have hstring : Tree.string? (Written.string entrypoint) = some m.entrypoint := hdenotes.decode
  simp [SourceMap.ofTree?, hfields, Tree.required?, hstring, hentries]

theorem SourceMap.Encodes.parse {text : String} {m : SourceMap} (h : Encodes text m) :
    SourceMap.parse text = .ok m := by
  obtain ⟨tree, htext, hwritten⟩ := h
  simp only [SourceMap.parse, htext.read?, Option.bind_some, hwritten.ofTree?]

/-! ## What is printed -/

theorem integral_line (line : UInt32) : (Json.ofNat line.toNat).Integral := by
  rw [ofNat, Number.ofInt, dif_pos (fits64_line line)]
  exact .int _

namespace LineMapping

theorem integral_toJson (m : LineMapping) : m.toJson.Integral :=
  integral_pair (integral_line m.target) (integral_line m.source)

theorem writtenAs_of_spelled {m : LineMapping} {tree : Written} (h : Spelled m.toJson tree) :
    m.WrittenAs tree := by
  obtain ⟨members, target, source, rfl, hnamed, htarget, hsource⟩ := named_of_spelled h
  exact ⟨members, _, target, source, rfl, hnamed,
    once_first (by decide) (by decide) _ _, isLine_of_spelled htarget,
    once_second (by decide) (by decide) _ _, isLine_of_spelled hsource⟩

end LineMapping

theorem listGiven_of_spelled {α : Type} {toJson : α → Json} {writes : α → Written → Prop}
    (hwrites : ∀ a tree, Spelled (toJson a) tree → writes a tree) {as : List α} {tree : Written}
    (h : Spelled (.array (as.map toJson)) tree) {names : List String}
    {named : List (String × Written)} (honce : Once names named tree) :
    ListGiven names named writes as := by
  obtain ⟨trees, rfl, hitems⟩ := h.items
  exact .given honce ((List.forall₂_map_left_iff.mp hitems).imp hwrites)

namespace FileMap

theorem integral_toJson (f : FileMap) : f.toJson.Integral :=
  integral_pair (.string f.path) (.array (by simp [LineMapping.integral_toJson]))

theorem writtenAs_of_spelled {f : FileMap} {tree : Written} (h : Spelled f.toJson tree) :
    f.WrittenAs tree := by
  obtain ⟨members, path, mappings, rfl, hnamed, hpath, hmappings⟩ := named_of_spelled h
  obtain ⟨units, rfl, hdenotes⟩ := hpath.text
  exact ⟨members, _, units, rfl, hnamed, once_first (by decide) (by decide) _ _, hdenotes,
    listGiven_of_spelled (fun _ _ => LineMapping.writtenAs_of_spelled) hmappings
      (once_second (by decide) (by decide) _ _)⟩

end FileMap

namespace SourceMap

theorem integral_toJson (m : SourceMap) : m.toJson.Integral :=
  integral_pair (.string m.entrypoint) (.array (by simp [FileMap.integral_toJson]))

theorem writtenAs_of_spelled {m : SourceMap} {tree : Written} (h : Spelled m.toJson tree) :
    m.WrittenAs tree := by
  obtain ⟨members, entrypoint, entries, rfl, hnamed, hentrypoint, hentries⟩ := named_of_spelled h
  obtain ⟨units, rfl, hdenotes⟩ := hentrypoint.text
  exact ⟨members, _, units, rfl, hnamed, once_first (by decide) (by decide) _ _, hdenotes,
    listGiven_of_spelled (fun _ _ => FileMap.writtenAs_of_spelled) hentries
      (once_second (by decide) (by decide) _ _)⟩

theorem encodes_toJson (m : SourceMap) {text : String}
    (h : text = m.toJson.compact ∨ text = m.toJson.pretty) : Encodes text m := by
  obtain ⟨tree, htext, hspelled⟩ := exists_textOf m.integral_toJson h
  exact ⟨tree, htext, writtenAs_of_spelled hspelled⟩

end SourceMap

/-! ## What is refused -/

theorem LineMapping.not_repeated {tree : Written} {m : LineMapping}
    (h : LineMapping.ofTree? tree = some m) : ¬ LineMapping.Repeated tree := by
  unfold LineMapping.ofTree? at h
  split at h
  · rename_i target source hfields
    obtain ⟨htarget, hsource, -⟩ := fields?_eq_some hfields
    exact fun hrepeated => hrepeated.elim htarget hsource
  · cases h

theorem FileMap.not_repeated {tree : Written} {f : FileMap} (h : FileMap.ofTree? tree = some f) :
    ¬ FileMap.Repeated tree := by
  unfold FileMap.ofTree? at h
  split at h
  · rename_i path mappings hfields
    simp only [Option.bind_eq_bind, Option.bind_eq_some_iff] at h
    obtain ⟨-, -, values, hlist, -⟩ := h
    obtain ⟨hpath, hmappings, hitems⟩ := items_of_fields? hfields hlist
    rintro (hrepeats | hrepeats | ⟨items, hgives, item, hitem, hrepeated⟩)
    · exact hpath hrepeats
    · exact hmappings hrepeats
    · obtain ⟨m, hm⟩ := hitems items hgives item hitem
      exact LineMapping.not_repeated hm hrepeated
  · cases h

theorem SourceMap.not_repeated {tree : Written} {m : SourceMap}
    (h : SourceMap.ofTree? tree = some m) : ¬ SourceMap.Repeated tree := by
  unfold SourceMap.ofTree? at h
  split at h
  · rename_i entrypoint entries hfields
    simp only [Option.bind_eq_bind, Option.bind_eq_some_iff] at h
    obtain ⟨-, -, values, hlist, -⟩ := h
    obtain ⟨hentrypoint, hentries, hitems⟩ := items_of_fields? hfields hlist
    rintro (hrepeats | hrepeats | ⟨items, hgives, item, hitem, hrepeated⟩)
    · exact hentrypoint hrepeats
    · exact hentries hrepeats
    · obtain ⟨f, hf⟩ := hitems items hgives item hitem
      exact FileMap.not_repeated hf hrepeated
  · cases h

theorem SourceMap.parse_of_repeated {tree : Written} {text : String} (htext : TextOf tree text)
    (h : SourceMap.Repeated tree) : SourceMap.parse text = .error .sourceMapUnreadable := by
  have hnone : SourceMap.ofTree? tree = none := by
    cases hread : SourceMap.ofTree? tree with
    | none => rfl
    | some m => exact absurd h (SourceMap.not_repeated hread)
  simp only [SourceMap.parse, htext.read?, Option.bind_some, hnone]

namespace SourceMap

/-- Every text that writes a source map, whatever names and order it has for the members, is read as
that source map, the printed texts in either layout among them. A text that gives a field twice, in
the source map, in an entry or in a mapping, is refused as an argument. -/
theorem parse_every_encoding :
    (∀ (m : SourceMap) (text : String), Encodes text m → parse text = .ok m) ∧
    (∀ m : SourceMap, parse m.toJson.compact = .ok m ∧ parse m.toJson.pretty = .ok m) ∧
    ∀ (tree : Written) (text : String), TextOf tree text → Repeated tree →
      ∃ e, parse text = .error e ∧ e.kind = .argument := by
  refine ⟨fun m text h => h.parse, ?_, ?_⟩
  · intro m
    exact ⟨(m.encodes_toJson (Or.inl rfl)).parse, (m.encodes_toJson (Or.inr rfl)).parse⟩
  · intro tree text htext h
    exact ⟨_, parse_of_repeated htext h, rfl⟩

/-- Members in another order and under other names, an unknown one before them and the largest line;
and an entrypoint that is given under both of its names. -/
theorem parse_every_encoding_renamed :
    let text := "\x7b\"x\":null,\"Entries\":[\x7b\"SourceMap\":[\x7b\"SourceLine\":7," ++
      "\"TargetLine\":4294967295\x7d],\"FilePath\":\"b\"\x7d],\"Entrypoint\":\"a\"\x7d"
    let m : SourceMap := ⟨"a", [⟨"b", [⟨4294967295, 7⟩]⟩]⟩
    let both := "\x7b\"entrypoint\":\"a\",\"Entrypoint\":\"a\"\x7d"
    Encodes text m ∧ parse text = .ok m ∧ (∃ tree, TextOf tree both ∧ Repeated tree) ∧
      ∃ e, parse both = .error e ∧ e.kind = .argument := by
  intro text m both
  let lines : Json := .object [("SourceLine", .ofNat (7 : UInt32).toNat),
    ("TargetLine", .ofNat (4294967295 : UInt32).toNat)]
  let entry : Json := .object [("SourceMap", .array [lines]), ("FilePath", .string "b")]
  let value : Json :=
    .object [("x", .null), ("Entries", .array [entry]), ("Entrypoint", .string "a")]
  have hlines : ∀ tree, Spelled lines tree → LineMapping.WrittenAs ⟨4294967295, 7⟩ tree := by
    intro tree h
    obtain ⟨members, source, target, rfl, hnamed, hsource, htarget⟩ := named_of_spelled h
    exact ⟨members, _, target, source, rfl, hnamed,
      once_second (by decide) (by decide) _ _, isLine_of_spelled htarget,
      once_first (by decide) (by decide) _ _, isLine_of_spelled hsource⟩
  have hentry : ∀ tree, Spelled entry tree → FileMap.WrittenAs ⟨"b", [⟨4294967295, 7⟩]⟩ tree := by
    intro tree h
    obtain ⟨members, mappings, path, rfl, hnamed, hmappings, hpath⟩ := named_of_spelled h
    obtain ⟨trees, rfl, hitems⟩ := hmappings.items
    obtain ⟨units, rfl, hdenotes⟩ := hpath.text
    refine ⟨members, _, units, rfl, hnamed, once_second (by decide) (by decide) _ _, hdenotes,
      .given (once_first (by decide) (by decide) _ _) ?_⟩
    obtain ⟨item, hitem, rfl⟩ : ∃ item, Spelled lines item ∧ trees = [item] := by
      simpa [List.forall₂_cons_left_iff] using hitems
    exact .cons (hlines item hitem) .nil
  have hintegral : value.Integral := by
    have hlines : lines.Integral := integral_pair (integral_line 7) (integral_line 4294967295)
    have hentry : entry.Integral := integral_pair (.array (by simpa using hlines)) (.string "b")
    have hentries : Integral (.array [entry]) := .array (by simpa using hentry)
    exact .object (by simp [Integral.null, Integral.string, hentries])
  have hencodes : Encodes text m := by
    have htext : text = value.compact := by decide +kernel
    obtain ⟨tree, htree, hspelled⟩ := exists_textOf hintegral (Or.inl htext)
    obtain ⟨trees, rfl, hmembers⟩ := hspelled.members
    obtain ⟨named, hnamed, hspelled⟩ := exists_named hmembers
    simp only [List.forall₂_cons_left_iff, List.forall₂_nil_left_iff] at hspelled
    obtain ⟨⟨_, x⟩, _, ⟨rfl, -⟩, ⟨⟨_, entries⟩, _, ⟨rfl, hentries⟩,
      ⟨⟨_, path⟩, _, ⟨rfl, hpath⟩, rfl, rfl⟩, rfl⟩, rfl⟩ := hspelled
    obtain ⟨items, rfl, hitems⟩ := hentries.items
    obtain ⟨units, rfl, hdenotes⟩ := hpath.text
    obtain ⟨item, hitem, rfl⟩ : ∃ item, Spelled entry item ∧ items = [item] := by
      simpa [List.forall₂_cons_left_iff] using hitems
    refine ⟨_, htree, trees, _, units, rfl, hnamed, ?_, hdenotes, .given ?_
      (.cons (hentry item hitem) .nil)⟩
    · exact ⟨[("x", x), ("Entries", .array [item])], "Entrypoint", [], rfl, by decide,
        by simp [Absent, entrypointNames], by simp [Absent]⟩
    · exact ⟨[("x", x)], "Entries", [("Entrypoint", .string units)], rfl, by decide,
        by simp [Absent, entriesNames], by simp [Absent, entriesNames]⟩
  have hboth : ∃ tree, TextOf tree both ∧ Repeated tree := by
    let value : Json := .object [("entrypoint", .string "a"), ("Entrypoint", .string "a")]
    have hintegral : value.Integral := integral_pair (.string "a") (.string "a")
    have htext : both = value.compact := by decide +kernel
    obtain ⟨tree, htree, hspelled⟩ := exists_textOf hintegral (Or.inl htext)
    obtain ⟨trees, rfl, hmembers⟩ := hspelled.members
    simp only [List.forall₂_cons_left_iff, List.forall₂_nil_left_iff] at hmembers
    obtain ⟨_, _, ⟨hone, -⟩, ⟨_, _, ⟨hother, -⟩, rfl, rfl⟩, rfl⟩ := hmembers
    refine ⟨_, htree, Or.inl ⟨_, rfl, _, _, List.Sublist.refl _, ?_, ?_⟩⟩
    · exact ⟨"entrypoint", by decide, hone⟩
    · exact ⟨"Entrypoint", by decide, hother⟩
  obtain ⟨tree, htree, hrepeated⟩ := hboth
  exact ⟨hencodes, parse_every_encoding.1 m text hencodes, ⟨tree, htree, hrepeated⟩,
    parse_every_encoding.2.2 tree both htree hrepeated⟩

end SourceMap

end TemplateAudit
