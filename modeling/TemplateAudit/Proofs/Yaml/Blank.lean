import TemplateAudit.Text.Blank
import TemplateAudit.Yaml.Value

/-!
# Blank texts as YAML

To YAML white space beyond spaces, tabs and line breaks is text, so a blank text may hold scalars.
It holds nothing else, since no mark of a collection is white space: a blank text that can be read
stands for one scalar.
-/

namespace TemplateAudit.Yaml

set_option autoImplicit false

/-! ## Inputs -/

def Input.Blank (i : Input) : Prop :=
  ∀ c ∈ i.rest, Text.isBlank c = true

namespace Input

theorem Blank.skip {i : Input} (h : i.Blank) : i.skip.Blank := by
  rw [Input.skip]
  cases hrest : i.rest with
  | nil => exact h
  | cons c rest =>
    have hbelow : ∀ d ∈ rest, Text.isBlank d = true := by
      intro d hd
      apply h d
      rw [hrest]
      exact List.mem_cons_of_mem c hd
    by_cases hbreak : c = '\n'
    · simp only [hbreak, if_true]
      exact hbelow
    · simp only [hbreak, if_false]
      exact hbelow

theorem Blank.drop {i : Input} (h : i.Blank) (count : Nat) : (i.drop count).Blank := by
  induction count generalizing i with
  | zero => exact h
  | succ count ih => exact ih h.skip

theorem Blank.skipBreak {i : Input} (h : i.Blank) : i.skipBreak.Blank := by
  rw [Input.skipBreak]
  split
  · exact h.skip.skip
  · split
    · exact h.skip
    · exact h

theorem Blank.peek {i : Input} (h : i.Blank) (hend : i.atEnd = false) :
    Text.isBlank i.peek = true := by
  cases hrest : i.rest with
  | nil =>
    have hpeek : i.peek = endMark := by rw [Input.peek, peekAt, hrest, List.getD_nil]
    rw [atEnd, hpeek] at hend
    cases hend
  | cons c rest =>
    have hpeek : i.peek = c := by rw [Input.peek, peekAt, hrest, List.getD_cons_zero]
    rw [hpeek]
    apply h c
    rw [hrest]
    exact List.mem_cons_self

end Input

theorem Gap.blank_extend? {leastColumn fuel : Nat} {gap wider : Gap} {i next : Input}
    (h : i.Blank) (hextend : gap.extend? leastColumn fuel i = some (wider, next)) :
    next.Blank := by
  induction fuel generalizing gap i with
  | zero =>
    obtain ⟨-, rfl⟩ := Prod.mk.inj (Option.some.inj hextend)
    exact h
  | succ fuel ih =>
    rw [extend?] at hextend
    split at hextend
    · split at hextend
      · split at hextend
        · cases hextend
        · exact ih h.skip hextend
      · exact ih h.skip hextend
    · split at hextend
      · exact ih h.skipBreak hextend
      · obtain ⟨-, rfl⟩ := Prod.mk.inj (Option.some.inj hextend)
        exact h

theorem blank_plainText? {flow broken : Bool} {margin fuel : Nat} {text longer : List Char}
    {gap : Gap} {i next : Input} (h : i.Blank)
    (hread : plainText? flow margin fuel text gap i = some (longer, broken, next)) :
    next.Blank := by
  induction fuel generalizing text gap i with
  | zero => cases hread
  | succ fuel ih =>
    rw [plainText?] at hread
    have hword := h.drop (plainWord flow i.rest).length
    split at hread
    · obtain rfl : i = next := congrArg (·.2.2) (Option.some.inj hread)
      exact h
    · simp only at hread
      split at hread
      · split at hread
        · cases hread
        · rename_i wider after hextend
          have hafter := Gap.blank_extend? hword hextend
          split at hread
          · obtain rfl : after = next := congrArg (·.2.2) (Option.some.inj hread)
            exact hafter
          · exact ih hafter hread
      · obtain rfl := congrArg (·.2.2) (Option.some.inj hread)
        exact hword

/-! ## Scanning -/

def Token.IsPlain (token : Token) : Prop :=
  ∃ text, token = .scalar true text

namespace Scanner

/-- The state while a blank text is read: outside of all collections, with plain scalars only. -/
structure InBlank (s : Scanner) : Prop where
  input : s.input.Blank
  flowDepth : s.flowDepth = 0
  margins : s.margins = []
  tokens : ∀ token ∈ s.tokens, token.IsPlain

theorem InBlank.inFlow {s : Scanner} (h : s.InBlank) : s.inFlow = false := by
  rw [Scanner.inFlow, h.flowDepth]
  rfl

theorem InBlank.skipBlanks {fuel : Nat} {s : Scanner} (h : s.InBlank) :
    (s.skipBlanks fuel).InBlank := by
  induction fuel generalizing s with
  | zero => exact h
  | succ fuel ih =>
    rw [Scanner.skipBlanks]
    split
    · exact ih ⟨h.input.drop 1, h.flowDepth, h.margins, h.tokens⟩
    · split
      · exact ih ⟨h.input.skipBreak, h.flowDepth, h.margins, h.tokens⟩
      · split
        · exact ih ⟨h.input.drop _, h.flowDepth, h.margins, h.tokens⟩
        · exact h

theorem InBlank.closeBlocks {s : Scanner} (h : s.InBlank) (target : Nat) :
    (s.closeBlocks target).InBlank := by
  rw [Scanner.closeBlocks, h.inFlow, h.margins]
  exact ⟨h.input, h.flowDepth, rfl, h.tokens⟩

theorem InBlank.dropKey? {s next : Scanner} (h : s.InBlank) (hdrop : s.dropKey? = some next) :
    next.InBlank := by
  rw [Scanner.dropKey?] at hdrop
  split at hdrop
  · cases hdrop
  · obtain rfl := Option.some.inj hdrop
    exact ⟨h.input, h.flowDepth, h.margins, h.tokens⟩

theorem InBlank.startKey? {s next : Scanner} (h : s.InBlank) (hstart : s.startKey? = some next) :
    next.InBlank := by
  rw [Scanner.startKey?] at hstart
  split at hstart
  · obtain ⟨dropped, hdrop, rfl⟩ := Option.map_eq_some_iff.mp hstart
    have hdropped := h.dropKey? hdrop
    exact ⟨hdropped.input, hdropped.flowDepth, hdropped.margins, hdropped.tokens⟩
  · obtain rfl := Option.some.inj hstart
    exact h

theorem InBlank.dropStaleKeys? {s next : Scanner} (h : s.InBlank)
    (hdrop : s.dropStaleKeys? = some next) : next.InBlank := by
  rw [Scanner.dropStaleKeys?] at hdrop
  split at hdrop
  · cases hdrop
  · obtain rfl := Option.some.inj hdrop
    exact ⟨h.input, h.flowDepth, h.margins, h.tokens⟩

theorem InBlank.plainScalar? {s next : Scanner} (h : s.InBlank)
    (hscan : s.plainScalar? = some next) : next.InBlank := by
  obtain ⟨started, hstart, hscan⟩ := Option.bind_eq_some_iff.mp hscan
  obtain ⟨⟨text, broken, after⟩, hread, rfl⟩ := Option.map_eq_some_iff.mp hscan
  have hstarted := h.startKey? hstart
  refine ⟨blank_plainText? hstarted.input hread, hstarted.flowDepth, hstarted.margins, ?_⟩
  exact List.forall_mem_cons.mpr ⟨⟨_, rfl⟩, hstarted.tokens⟩

/-- No mark is white space, so what starts with white space is a plain scalar. -/
theorem token?_of_blank {s : Scanner} (h : Text.isBlank s.input.peek = true) :
    s.token? = s.plainScalar? := by
  have hne : ∀ c, Text.isBlank c = false → s.input.peek ≠ c := by
    rintro c hc rfl
    rw [h] at hc
    cases hc
  have hmark : ∀ c, Text.isBlank c = false → s.input.atTriple c = false := by
    intro c hc
    simp [Input.atTriple, hne c hc]
  have hpercent : s.input.peek ≠ '%' := hne '%' rfl
  have hbacktick : s.input.peek.toNat ≠ 96 := by
    intro hcode
    rw [Text.isBlank, hcode] at h
    cases h
  rw [token?]
  simp only [hpercent, hmark '-' rfl, hmark '.' rfl, Bool.and_false, decide_false,
    Bool.false_eq_true, if_false]
  -- Every case but the last is about a mark.
  split
  case h_18 => exact if_neg hbacktick
  all_goals exact absurd ‹s.input.peek = _› (hne _ rfl)

theorem InBlank.token? {s next : Scanner} (h : s.InBlank) (hend : s.input.atEnd = false)
    (hscan : s.token? = some next) : next.InBlank := by
  rw [token?_of_blank (h.input.peek hend)] at hscan
  exact h.plainScalar? hscan

theorem InBlank.tokens? {fuel : Nat} {s : Scanner} {tokens : List Token} (h : s.InBlank)
    (hscan : s.tokens? fuel = some tokens) : ∀ token ∈ tokens, token.IsPlain := by
  induction fuel generalizing s with
  | zero => cases hscan
  | succ fuel ih =>
    rw [Scanner.tokens?] at hscan
    split at hscan
    · cases hscan
    · rename_i fresh hfresh
      have hclosed := (h.skipBlanks.dropStaleKeys? hfresh).closeBlocks (fresh.input.column + 1)
      simp only at hscan
      split at hscan
      · obtain ⟨last, hlast, rfl⟩ := Option.map_eq_some_iff.mp hscan
        intro token htoken
        exact ((hclosed.closeBlocks 0).dropKey? hlast).tokens token (List.mem_reverse.mp htoken)
      · rename_i hend
        split at hscan
        · rename_i next hnext
          exact ih (hclosed.token? (by simpa using hend) hnext) hscan
        · cases hscan

end Scanner

theorem plain_of_scan? {text : String} {tokens : List Token} (h : Text.isBlankText text = true)
    (hscan : Token.scan? text = some tokens) : ∀ token ∈ tokens, token.IsPlain := by
  rw [Text.isBlankText, List.all_eq_true] at h
  have hstart : Scanner.InBlank { input := { rest := text.toList } } :=
    ⟨h, rfl, rfl, by simp⟩
  exact hstart.tokens? hscan

/-! ## Reading -/

/-- A plain scalar at the front is the document, and nothing may come after it. -/
theorem run_document_scalar (text : String) (tokens : List Token) :
    Compose.document.run { tokens := .scalar true text :: tokens } =
      if tokens.all (· == .documentEnd) then
        some (⟨.scalar true none text, []⟩, { tokens := tokens })
      else none := by
  simp [Compose.document, Compose.documentStart, Compose.peek, Compose.nextIn, Compose.node,
    Compose.properties, Compose.skip, Compose.record]
  split <;> rfl

theorem root_of_plain {tokens : List Token} (h : ∀ token ∈ tokens, token.IsPlain)
    {document : Document} {rest : Composer}
    (hread : Compose.document.run { tokens := tokens } = some (document, rest)) :
    ∃ text, document.root = .scalar true none text := by
  cases tokens with
  | nil =>
    have hfails : Compose.document.run { tokens := [] } = none := rfl
    rw [hfails] at hread
    cases hread
  | cons token tokens =>
    obtain ⟨text, rfl⟩ := h token List.mem_cons_self
    rw [run_document_scalar] at hread
    split at hread
    · cases hread
      exact ⟨text, rfl⟩
    · cases hread

theorem root_of_blank {text : String} {document : Document} (h : Text.isBlankText text = true)
    (hread : Document.read? text = some document) :
    ∃ text, document.root = .scalar true none text := by
  obtain ⟨tokens, hscan, hread⟩ := Option.bind_eq_some_iff.mp hread
  obtain ⟨⟨found, rest⟩, hrun, hread⟩ := Option.bind_eq_some_iff.mp hread
  cases hread
  exact root_of_plain (plain_of_scan? h hscan) hrun

/-- A blank text stands for a scalar, if it can be read at all. -/
theorem scalar_of_blank {text : String} {value : Value} (h : Text.isBlankText text = true)
    (hvalue : Value.read? text = some value) : ∃ scalar : Scalar, scalar.value? = some value := by
  obtain ⟨document, hread, hvalue⟩ := Option.bind_eq_some_iff.mp hvalue
  obtain ⟨content, hroot⟩ := root_of_blank h hread
  rw [Document.value?, hroot] at hvalue
  obtain ⟨scalar, -, hscalar⟩ := Option.bind_eq_some_iff.mp hvalue
  exact ⟨scalar, hscalar⟩

end TemplateAudit.Yaml
