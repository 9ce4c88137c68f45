import TemplateAudit.Proofs.LineIndex.Layout
import TemplateAudit.Proofs.LineIndex.Reading
import TemplateAudit.Template

/-!
# Paths resolve to lines

A path that is read as the address of a node of a safe value leads to the line on which that node
starts, in the pretty layout of the value as well as in a text that the value was read from.
-/

namespace TemplateAudit

set_option autoImplicit false

open TemplateAudit.Path

namespace LineIndex

open Json

theorem located_leaf {value : Json} (line : Nat) (h : ∀ s, value.child? s = none) :
    (Outline.leaf line).Covers value ∧ (Outline.leaf line).PathSafe := by
  refine ⟨Outline.covers_step fun s next hnext => ?_, Outline.pathSafe_leaf line⟩
  simp [h s] at hnext

mutual

/-- The outline of a safe value has a node for each of its addresses, and safe keys. -/
theorem located_ofValue (line : Nat) : ∀ value : Json, value.PathSafe →
    (Outline.ofValue line value).Covers value ∧ (Outline.ofValue line value).PathSafe
  | .null, _ => by simpa only [Outline.ofValue] using located_leaf line fun _ => rfl
  | .bool _, _ => by simpa only [Outline.ofValue] using located_leaf line fun _ => rfl
  | .number _, _ => by simpa only [Outline.ofValue] using located_leaf line fun _ => rfl
  | .string _, _ => by simpa only [Outline.ofValue] using located_leaf line fun _ => rfl
  | .array items, hsafe => by
    obtain ⟨hcovers, hitems⟩ := located_ofItems line items hsafe.item
    rw [Outline.ofValue]
    exact ⟨Outline.covers_array hcovers, Outline.pathSafe_array hitems⟩
  | .object members, hsafe => by
    have hkeys := hsafe.keys
    obtain ⟨hnames, hcovers, hmembers⟩ := located_ofMembers line members hsafe.member
    have hobject : (Outline.object line (Outline.ofMembers line members)).Covers
        (.object (Members.ofList members)) := Outline.covers_object hcovers
    rw [Members.ofList_of_nodup hkeys.nodup] at hobject
    rw [Outline.ofValue]
    exact ⟨hobject, Outline.pathSafe_object (hnames ▸ hkeys) hmembers⟩

theorem located_ofItems (line : Nat) : ∀ items : List Json, (∀ item ∈ items, item.PathSafe) →
    List.Forall₂ Outline.Covers (Outline.ofItems line items) items ∧
      ∀ node ∈ Outline.ofItems line items, node.PathSafe
  | [], _ => by simp [Outline.ofItems]
  | item :: rest, hsafe => by
    obtain ⟨hitem, hothers⟩ := List.forall_mem_cons.mp hsafe
    obtain ⟨hcovers, hpath⟩ := located_ofValue (line + 1) item hitem
    obtain ⟨hrest, hrestPath⟩ := located_ofItems (line + 1 + item.breaks) rest hothers
    rw [Outline.ofItems]
    exact ⟨.cons hcovers hrest, List.forall_mem_cons.mpr ⟨hpath, hrestPath⟩⟩

theorem located_ofMembers (line : Nat) : ∀ members : Members, (∀ m ∈ members, m.2.PathSafe) →
    (Outline.ofMembers line members).map Prod.fst = members.map Prod.fst ∧
      List.Forall₂ (fun n m => n.1 = m.1 ∧ n.2.Covers m.2) (Outline.ofMembers line members) members ∧
      ∀ node ∈ Outline.ofMembers line members, node.2.PathSafe
  | [], _ => by simp [Outline.ofMembers]
  | (key, value) :: rest, hsafe => by
    obtain ⟨hvalue, hothers⟩ := List.forall_mem_cons.mp hsafe
    obtain ⟨hcovers, hpath⟩ := located_ofValue (line + 1) value hvalue
    obtain ⟨hnames, hrest, hrestPath⟩ :=
      located_ofMembers (line + 1 + value.breaks) rest hothers
    rw [Outline.ofMembers]
    exact ⟨by rw [List.map_cons, List.map_cons, hnames], .cons ⟨rfl, hcovers⟩ hrest,
      List.forall_mem_cons.mpr ⟨hpath, hrestPath⟩⟩

end

/-- The line that an index has for a path is the one on which the node at an address starts in a
text, in 32 bits and whatever the bound on the nesting in the text. -/
def Locates (index : LineIndex) (path : String) (text : List Char) (a : List Segment) : Prop :=
  ∃ limit outline line, Document limit text outline ∧ outline.lineAt? a = some line ∧
    index.exactLine? path = some (UInt32.ofNat line)

theorem locates_of_document {limit : Nat} {text : List Char} {outline node : Outline}
    {a : List Segment} {path : String} (hdocument : Document limit text outline)
    (hsafe : outline.PathSafe) (ha : outline.at? a = some node)
    (hparse : parse? path = some (a.map Segment.canonical)) :
    Locates (ofEntries (outline.entries Path.item "")) path text a := by
  have hroot : outline.line = 1 := by
    obtain ⟨_, _, _, _, _, _, hline, _⟩ := hdocument
    exact hline
  refine ⟨limit, outline, node.line, hdocument, ?_, ?_⟩
  · rw [Outline.lineAt?, ha, Option.map_some]
  · exact Outline.exactLine?_of_at? hsafe hroot ha hparse

theorem locates_pretty {value found : Json} {a : List Segment} {path : String}
    (hsafe : value.PathSafe) (ha : value.at? a = some found)
    (hparse : parse? path = some (a.map Segment.canonical)) :
    Locates (LineIndex.ofValue value) path value.pretty.toList a := by
  obtain ⟨hcovers, hpath⟩ := located_ofValue 1 value hsafe
  obtain ⟨node, hnode⟩ := hcovers a found ha
  rw [ofValue_eq_ofEntries]
  exact locates_of_document (document_pretty (Nat.le_refl _)) hpath hnode hparse

theorem lineIndex_of_read {template : Template} {text : String} {written : Written}
    {outline : Outline} (htext : template.text = some text)
    (hread : Written.read? text.toList = some written)
    (hdocument : Document deepest text.toList outline) :
    template.lineIndex = ofEntries outline.scanned := by
  rw [← withoutMark_of_read? hread] at hdocument
  rw [Template.lineIndex, htext, Option.bind_some, ofText?_of_document hdocument]

/-- In a text with safe keys that a template was read from, with no more items in an array than can
be counted. -/
theorem locates_text {template : Template} {text : String} {value found : Json}
    {a : List Segment} {path : String} (htext : template.text = some text)
    (hread : Json.read? text = some value) (hsafe : SafeText text)
    (hlong : value.longest ≤ itemLimit) (ha : value.at? a = some found)
    (hparse : parse? path = some (a.map Segment.canonical)) :
    Locates template.lineIndex path text.toList a := by
  rw [Json.read?] at hread
  split at hread
  · rename_i written hwritten
    obtain ⟨outline, hdocument, hreflects⟩ := document_of_read? hwritten hread
    obtain ⟨node, hnode⟩ := hreflects.covers a found ha
    have hkeys := hsafe written hwritten
    rw [← hreflects.longest hkeys] at hlong
    rw [lineIndex_of_read htext hwritten hdocument, Outline.scanned_eq_entries hlong]
    exact locates_of_document hdocument (hreflects.safe hkeys) hnode hparse
  · simp at hread

end LineIndex

end TemplateAudit
