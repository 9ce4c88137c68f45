import TemplateAudit.Loading
import TemplateAudit.Proofs.LineIndex.Resolution

/-!
# Loaded templates are located by their text

A text is read twice: strictly, for its value, and by the scanner, for its lines. The scanner
accepts every text that the reader accepts, and its index has a line for every node of the value
whose positions it can count: nodes whose paths clash share one, but none is without. A template
that was loaded therefore never falls back to the pretty layout.
-/

namespace TemplateAudit

set_option autoImplicit false

open TemplateAudit.Path Json

namespace LineIndex

/-- The index has a line for the path of every node of a value whose positions can be counted. -/
def Indexes (index : LineIndex) (value : Json) : Prop :=
  ∀ a node, Counted a → value.at? a = some node → render (a.map Segment.canonical) ∈ index.lines

theorem mem_lines_of_entry {entries : List Entry} {path : String} {line : UInt32}
    (h : (path, line) ∈ ("", firstLine) :: entries) : path ∈ (ofEntries entries).lines := by
  rw [Std.HashMap.mem_iff_isSome_getElem?, ofEntries_getElem?, latestLine?, Option.isSome_map,
    List.find?_isSome]
  exact ⟨(path, line), List.mem_reverse.mpr h, beq_self_eq_true path⟩

theorem Outline.Covers.indexes {outline : Outline} {value : Json} (h : outline.Covers value) :
    (ofEntries outline.scanned).Indexes value := by
  intro a node hcounted ha
  obtain ⟨found, hfound⟩ := h a node ha
  by_cases hroot : a = []
  · subst hroot
    exact mem_lines_of_entry List.mem_cons_self
  · have hentry := mem_entries_of_at? scannedItem hfound hroot ""
    rw [foldl_stepBy_scannedItem hcounted.canonical] at hentry
    exact mem_lines_of_entry (List.mem_cons_of_mem _ hentry)

/-- The scanner accepts what the reader accepts. -/
theorem exists_ofText? {text : String} {value : Json} (h : Json.read? text = some value) :
    ∃ index, ofText? text = some index ∧ index.Indexes value := by
  rw [Json.read?] at h
  split at h
  · rename_i written hwritten
    obtain ⟨outline, hdocument, hreflects⟩ := document_of_read? hwritten h
    rw [← withoutMark_of_read? hwritten] at hdocument
    exact ⟨_, ofText?_of_document hdocument, hreflects.covers.indexes⟩
  · simp at h

end LineIndex

/-! ## Computations that can fail -/

section Returns

variable {m : Type → Type} [Monad m] {α β : Type}

/-- A computation returns nothing but values of which `P` holds: it is a computation of such values
together with the proof. -/
def Returns (x : ExceptT Error m α) (P : α → Prop) : Prop :=
  ∃ y : ExceptT Error m {a // P a}, Subtype.val <$> y = x

variable [LawfulMonad m]

namespace Returns

protected theorem pure {a : α} {P : α → Prop} (h : P a) :
    Returns (pure a : ExceptT Error m α) P :=
  ⟨pure ⟨a, h⟩, map_pure _ _⟩

theorem ofExcept {x : Except Error α} {P : α → Prop} (h : ∀ a, x = .ok a → P a) :
    Returns (m := m) (ExceptT.mk (pure x)) P := by
  cases x with
  | ok a => exact Returns.pure (h a rfl)
  | error e =>
    refine ⟨throw e, ?_⟩
    ext
    simp [throw, throwThe, MonadExceptOf.throw]

theorem bind {x : ExceptT Error m α} {next : α → ExceptT Error m β} {P : α → Prop} {Q : β → Prop}
    (hx : Returns x P) (hnext : ∀ a, P a → Returns (next a) Q) : Returns (x >>= next) Q := by
  obtain ⟨y, rfl⟩ := hx
  choose following hfollowing using hnext
  refine ⟨y >>= fun a => following a.1 a.2, ?_⟩
  rw [map_bind, bind_map_left]
  simp only [hfollowing]

/-- Whatever is returned first. -/
theorem after {x : ExceptT Error m α} {next : α → ExceptT Error m β} {Q : β → Prop}
    (hnext : ∀ a, Returns (next a) Q) : Returns (x >>= next) Q := by
  have hx : Returns x fun _ => True := ⟨(fun a => ⟨a, trivial⟩) <$> x, by simp⟩
  exact hx.bind fun a _ => hnext a

/-- Whatever an effect that cannot fail gives. -/
theorem mk_bind {x : m α} {next : α → m (Except Error β)} {Q : β → Prop}
    (hnext : ∀ a, Returns (ExceptT.mk (next a)) Q) : Returns (ExceptT.mk (x >>= next)) Q := by
  have hbind : ExceptT.mk (x >>= next) = ExceptT.lift x >>= fun a => ExceptT.mk (next a) := by
    ext
    simp
  rw [hbind]
  exact after hnext

/-- Without effects the value that a computation returns is seen. -/
theorem of_run {x : ExceptT Error Id α} {P : α → Prop} {a : α} (h : Returns x P)
    (hrun : x.run = .ok a) : P a := by
  obtain ⟨y, rfl⟩ := h
  rw [ExceptT.run_map] at hrun
  have hmap : Except.map Subtype.val (y.run : Except Error {a // P a}) = .ok a := hrun
  cases hy : (y.run : Except Error {a // P a}) with
  | ok found =>
    rw [hy, Except.map, Except.ok.injEq] at hmap
    exact hmap ▸ found.2
  | error e => simp [hy, Except.map] at hmap

end Returns

end Returns

namespace Template

/-- The lines of the template are those of the text that it was read from, which has one for every
node that can be counted. -/
def LocatedByText (t : Template) : Prop :=
  ∃ text, t.text = some text ∧ Json.read? text = some t.expanded ∧
    LineIndex.ofText? text = some t.lineIndex ∧ t.lineIndex.Indexes t.expanded

theorem locatedByText_of_read? {t : Template} {text : String} (htext : t.text = some text)
    (hread : Json.read? text = some t.expanded) : t.LocatedByText := by
  obtain ⟨index, hindex, hnodes⟩ := LineIndex.exists_ofText? hread
  have hlines : t.lineIndex = index := by
    rw [lineIndex, htext, Option.bind_some, hindex]
  refine ⟨text, htext, hread, ?_, ?_⟩
  · rw [hlines, hindex]
  · rwa [hlines]

theorem expanded_of_make {identifier : String} {expanded : Json} {t : Template}
    (h : make identifier expanded = .ok t) : t.expanded = expanded := by
  rw [make] at h
  split at h
  · obtain rfl := Except.ok.inj h
    rfl
  · simp at h

variable {m : Type → Type} [Monad m] [LawfulMonad m]

theorem load_returns_located (read : FileReader m) (path : String)
    (sourceMap authored : Option String) :
    Returns (load read path sourceMap authored) LocatedByText := by
  rw [load]
  refine Returns.after fun text => ?_
  dsimp only
  split
  · rename_i value hread
    rw [pure_bind]
    refine (Returns.ofExcept fun t => expanded_of_make).bind fun t ht => ?_
    have hlocated : ∀ authored map, LocatedByText
        { t with text := some text, authored := authored, sourceMap := map } := by
      intro authored map
      exact locatedByText_of_read? rfl (hread.trans (congrArg some ht.symm))
    -- The authored document and the source map may fail to be read, but locate nothing.
    split
    all_goals
      refine Returns.after fun authored => ?_
      split
      · exact Returns.after fun content => Returns.after fun map => Returns.pure (hlocated _ _)
      · exact Returns.after fun map => Returns.pure (hlocated _ _)
  · exact (Returns.ofExcept (P := fun _ => False) (by simp)).bind (by simp)

/-- The scanner accepts every text that is read as a value and has a line for each of its nodes, so
that every template that is loaded, whatever reads the files, is located by its own text. -/
theorem load_located_by_text :
    (∀ (text : String) (value : Json), Json.read? text = some value →
      ∃ index, LineIndex.ofText? text = some index ∧ index.Indexes value) ∧
    ∀ (m : Type → Type) [Monad m] [LawfulMonad m] (read : FileReader m) (path : String)
      (sourceMap authored : Option String),
      Returns (load read path sourceMap authored) LocatedByText := by
  constructor
  · intro text value hread
    exact LineIndex.exists_ofText? hread
  · intro m _ _ read path sourceMap authored
    exact load_returns_located read path sourceMap authored

/-- A key that is written twice, and one with a point in it. -/
theorem load_located_by_text_written_twice :
    let text := "\x7b\"A\":true,\n\"A\":[\x7b\"b.C\":null\x7d]\x7d"
    let value : Json := .object [("A", .array [.object [("b.C", .null)]])]
    let read : FileReader Id := fun _ => .ok text
    (∃ index, LineIndex.ofText? text = some index ∧ "a[0].b.c" ∈ index.lines) ∧
      ∃ template, (load read "main.json" none none).run = .ok template ∧
        template.expanded = value ∧ template.LocatedByText := by
  intro text value read
  have hread : Json.read? text = some value := by
    simp [text, value, Json.read?, Written.read?, Written.value?, Written.items?,
      Written.members?, Written.skipBlanks, Written.stringUnits?, Text.isJsonBlank,
      Written.toJson?, Written.itemsToJson?, Written.membersToJson?, decodeString?,
      decodeUnits?, Members.ofList, Members.set]
  obtain ⟨index, hindex, hnodes⟩ := load_located_by_text.1 text value hread
  have hrender : render ([.key "A", .index 0, .key "b.C"].map Segment.canonical) = "a[0].b.c" := by
    decide +kernel
  have hcounted : LineIndex.Counted [.key "A", .index 0, .key "b.C"] := by
    simp [LineIndex.Counted, LineIndex.itemLimit]
  refine ⟨⟨index, hindex, hrender ▸ hnodes _ .null hcounted rfl⟩, ?_⟩
  have hload : (load read "main.json" none none).run =
      pure (.ok { identifier := "main.json", expanded := value, text := some text }) := by
    have hmake : make "main.json" value = .ok { identifier := "main.json", expanded := value } := by
      rw [make, show validate _ = .ok () by decide +kernel]
    have htext : read.text "main.json" = pure text := rfl
    simp [load, htext, hread, hmake]
  exact ⟨_, hload, rfl,
    (load_located_by_text.2 Id read "main.json" none none).of_run hload⟩

end Template

end TemplateAudit
