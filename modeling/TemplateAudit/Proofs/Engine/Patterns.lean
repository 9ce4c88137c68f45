import Mathlib.Data.Finset.Card
import TemplateAudit.Engine.Basic
import TemplateAudit.Proofs.Config

/-!
# Patterns at hand

The built-in engine may have read patterns before any rule is run. Each is kept under its own text,
so that taking it from those at hand is the same as reading the text again: for which rules an engine
was prepared never shows in what it does. What it holds is one pattern for each text that can be
read. A sound rule is run by every such engine.
-/

namespace TemplateAudit.DeclarativeEngine

set_option autoImplicit false

/-- Every pattern at hand is what its text is read as. -/
def Faithful (e : DeclarativeEngine) : Prop :=
  ∀ entry ∈ e.patterns, Pattern.compile? entry.1 = some entry.2

theorem faithful_prepare {e : DeclarativeEngine} (h : e.Faithful) (rule : Rule) :
    (e.prepare rule).Faithful := by
  unfold prepare
  split
  · exact h
  · split
    · exact h
    · split
      · rename_i pattern hpattern
        intro entry hentry
        rcases List.mem_append.mp hentry with hold | hnew
        · exact h entry hold
        · obtain rfl := List.mem_singleton.mp hnew
          exact hpattern
      · exact h

theorem faithful_foldl_prepare {e : DeclarativeEngine} (h : e.Faithful) (rules : List Rule) :
    (rules.foldl prepare e).Faithful := by
  induction rules generalizing e with
  | nil => exact h
  | cons rule rest ih => exact ih (faithful_prepare h rule)

theorem faithful_forRules (rules : List Rule) : (forRules rules).Faithful :=
  faithful_foldl_prepare (by intro entry hentry; cases hentry) rules

theorem Faithful.pattern?_eq {e : DeclarativeEngine} (h : e.Faithful) (text : String) :
    e.pattern? text = Pattern.compile? text := by
  unfold pattern?
  split
  · rename_i entry hentry
    have htext : entry.1 = text := by simpa using List.find?_some hentry
    rw [← htext, h entry (List.mem_of_find?_eq_some hentry)]
  · rfl

theorem Faithful.evaluate_eq {e : DeclarativeEngine} (h : e.Faithful) :
    e.evaluate = ({} : DeclarativeEngine).evaluate := by
  have hnone : ({} : DeclarativeEngine).Faithful := faithful_forRules []
  have hready : e.ready = ({} : DeclarativeEngine).ready := by
    funext rule
    unfold ready
    simp only [h.pattern?_eq, hnone.pattern?_eq]
  funext rule template
  simp only [evaluate, hready]

/-- An engine with patterns at hand does what the one without any does. -/
theorem Faithful.toEngine_eq {e : DeclarativeEngine} (h : e.Faithful) :
    e.toEngine = ({} : DeclarativeEngine).toEngine := by
  simp only [toEngine, h.evaluate_eq]

/-! ## The texts of the patterns at hand -/

/-- The texts under which patterns are kept, in the order in which they were read. -/
def texts (e : DeclarativeEngine) : List String :=
  e.patterns.map Prod.fst

theorem any_patterns_iff (e : DeclarativeEngine) (text : String) :
    (e.patterns.any (·.1 == text)) = true ↔ text ∈ e.texts := by
  simp [texts]

theorem texts_concat (e : DeclarativeEngine) (text : String) (pattern : Pattern) :
    (DeclarativeEngine.mk (e.patterns ++ [(text, pattern)])).texts = e.texts ++ [text] := by
  simp [texts]

theorem mem_texts_prepare {e : DeclarativeEngine} {rule : Rule} {text : String} :
    text ∈ (e.prepare rule).texts ↔ text ∈ e.texts ∨
      rule.check.condition.pattern? = some text ∧ (Pattern.compile? text).isSome = true := by
  unfold prepare
  split
  · rename_i hnone
    simp [hnone]
  · rename_i own hown
    split
    · rename_i hknown
      rw [any_patterns_iff] at hknown
      refine ⟨Or.inl, ?_⟩
      rintro (hold | ⟨hsame, -⟩)
      · exact hold
      · obtain rfl := Option.some.inj (hown.symm.trans hsame)
        exact hknown
    · split
      · rename_i pattern hpattern
        rw [texts_concat, List.mem_append, List.mem_singleton, hown, Option.some.injEq]
        refine or_congr_right ⟨?_, fun h => h.1.symm⟩
        rintro rfl
        exact ⟨rfl, by rw [hpattern, Option.isSome_some]⟩
      · rename_i hfailed
        refine ⟨Or.inl, ?_⟩
        rintro (hold | ⟨hsame, hread⟩)
        · exact hold
        · obtain rfl := Option.some.inj (hown.symm.trans hsame)
          simp [hfailed] at hread

theorem nodup_texts_prepare {e : DeclarativeEngine} (h : e.texts.Nodup) (rule : Rule) :
    (e.prepare rule).texts.Nodup := by
  unfold prepare
  split
  · exact h
  · rename_i own _
    split
    · exact h
    · rename_i hunknown
      rw [any_patterns_iff] at hunknown
      split
      · rename_i pattern _
        rw [texts_concat, List.nodup_append]
        refine ⟨h, List.nodup_singleton own, ?_⟩
        rintro known hknown new hnew rfl
        obtain rfl := List.mem_singleton.mp hnew
        exact hunknown hknown
      · exact h

theorem texts_foldl_prepare {e : DeclarativeEngine} (h : e.texts.Nodup) (rules : List Rule) :
    (rules.foldl prepare e).texts.Nodup ∧ ∀ text, text ∈ (rules.foldl prepare e).texts ↔
      text ∈ e.texts ∨ (∃ rule ∈ rules, rule.check.condition.pattern? = some text) ∧
        (Pattern.compile? text).isSome = true := by
  induction rules generalizing e with
  | nil => simpa using h
  | cons rule rest ih =>
    obtain ⟨hnodup, hmem⟩ := ih (nodup_texts_prepare h rule)
    refine ⟨hnodup, fun text => ?_⟩
    rw [List.foldl_cons, hmem text, mem_texts_prepare, or_assoc, ← or_and_right]
    simp

/-- The different texts of patterns that can be read among the conditions of some rules. -/
def readableTexts (rules : List Rule) : Finset String :=
  ((rules.filterMap fun rule => rule.check.condition.pattern?).filter
    fun text => (Pattern.compile? text).isSome).toFinset

theorem texts_forRules (rules : List Rule) :
    (forRules rules).texts.Nodup ∧ (forRules rules).texts.toFinset = readableTexts rules := by
  have hnone : ({} : DeclarativeEngine).texts.Nodup := List.nodup_nil
  obtain ⟨hnodup, hmem⟩ := texts_foldl_prepare hnone rules
  refine ⟨hnodup, ?_⟩
  ext text
  rw [List.mem_toFinset, forRules, hmem text]
  simp [readableTexts, texts]

/-- Reading patterns beforehand changes neither findings nor errors, of rules that the engine was
prepared for or of others; one pattern is kept for each text that can be read. -/
theorem forRules_transparent (rules : List Rule) :
    (∀ (rule : Rule) (template : Template),
      (forRules rules).evaluate rule template = ({} : DeclarativeEngine).evaluate rule template) ∧
    (forRules rules).patterns.length = (readableTexts rules).card := by
  constructor
  · intro rule template
    rw [(faithful_forRules rules).evaluate_eq]
  · obtain ⟨hnodup, htexts⟩ := texts_forRules rules
    calc (forRules rules).patterns.length
        = (forRules rules).texts.length := by rw [texts, List.length_map]
      _ = (forRules rules).texts.toFinset.card := (List.toFinset_card_of_nodup hnodup).symm
      _ = (readableTexts rules).card := by rw [htexts]

/-! ## Sound rules -/

theorem exists_ready {rule : Rule} (h : rule.Sound) (e : DeclarativeEngine) :
    ∃ check, e.ready rule = .ok check := by
  have hreadable := h.readable
  unfold Rule.hasBadPattern at hreadable
  unfold ready
  cases hpattern : rule.check.condition.pattern? with
  | none => exact ⟨_, rfl⟩
  | some text =>
    rw [hpattern] at hreadable
    obtain ⟨read, hread⟩ := Option.isSome_iff_exists.mp (by simpa using hreadable)
    have hfound : ∃ pattern, e.pattern? text = some pattern := by
      unfold pattern?
      split
      · exact ⟨_, rfl⟩
      · exact ⟨read, hread⟩
    obtain ⟨pattern, hpattern⟩ := hfound
    simp only [hpattern]
    exact ⟨_, rfl⟩

theorem run_of_sound {rule : Rule} (h : rule.Sound) (e : DeclarativeEngine) (expanded : Json) :
    ∃ found, ∀ t : Template, t.expanded = expanded → e.toEngine.run rule t = .findings found := by
  obtain ⟨check, hcheck⟩ := exists_ready h e
  refine ⟨check.findings rule.resourceType expanded, ?_⟩
  rintro t rfl
  simp only [toEngine, evaluate, hcheck]

end TemplateAudit.DeclarativeEngine
