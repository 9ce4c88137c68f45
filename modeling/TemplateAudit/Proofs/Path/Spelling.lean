import TemplateAudit.Proofs.Path.Canonical

/-!
# Spellings of steps

Canonical steps come back from their written path as they are, whether or not the mark of the root
stands in front of it and whatever blanks stand around it. Of any steps at all, those with an empty
key or with points and brackets in a key included, the written path is known in full: every key
behind a point and every position in brackets, but without the empty keys in front and without the
first point.
-/

namespace TemplateAudit.Path

set_option autoImplicit false

/-- Steps that are read back from a path, and as they are. -/
structure Segment.Canonical (s : Segment) : Prop where
  plain : s.Plain
  lower : s.canonical = s

theorem map_canonical {steps : List Segment} (h : ∀ s ∈ steps, s.Canonical) :
    steps.map Segment.canonical = steps := by
  rw [List.map_congr_left (fun s hs => (h s hs).lower), List.map_id']

theorem render_injective_of_canonical {steps others : List Segment}
    (hsteps : ∀ s ∈ steps, s.Canonical) (hothers : ∀ s ∈ others, s.Canonical)
    (h : render steps = render others) : steps = others :=
  render_injective (fun s hs => (hsteps s hs).plain.named)
    (fun s hs => (hothers s hs).plain.named) h

/-! ## Blanks around a path -/

theorem trimChars_between_blanks {lead trail : List Char}
    (hlead : ∀ c ∈ lead, Text.isBlank c = true) (htrail : ∀ c ∈ trail, Text.isBlank c = true)
    (cs : List Char) : Text.trimChars (lead ++ cs ++ trail) = Text.trimChars cs := by
  have hback : ∀ c ∈ trail.reverse, Text.isBlank c = true :=
    fun c hc => htrail c (List.mem_reverse.mp hc)
  rw [Text.trimChars, Text.trimChars, List.append_assoc, List.dropWhile_append_of_pos hlead,
    List.dropWhile_append]
  split
  · -- Nothing but blanks was left, so that the trailing ones are dropped from the front as well.
    rename_i hnone
    rw [List.isEmpty_iff.mp hnone, List.dropWhile_eq_nil_iff.mpr htrail]
  · rw [List.reverse_append, List.dropWhile_append_of_pos hback]

theorem parse?_between_blanks {lead trail : String} (hlead : Text.isBlankText lead = true)
    (htrail : Text.isBlankText trail = true) (path : String) :
    parse? (lead ++ path ++ trail) = parse? path := by
  have htrim : Text.trimChars (lead ++ path ++ trail).toList = Text.trimChars path.toList := by
    rw [String.toList_append, String.toList_append]
    exact trimChars_between_blanks (List.all_eq_true.mp hlead) (List.all_eq_true.mp htrail) _
  rw [parse?, htrim, parse?]

/-- Canonical steps come back from their written path. -/
theorem parse?_spelled {steps : List Segment} (hsteps : ∀ s ∈ steps, s.Canonical)
    {lead trail : String} (hlead : Text.isBlankText lead = true)
    (htrail : Text.isBlankText trail = true) :
    ∀ path ∈ [render steps, "$." ++ render steps],
      parse? (lead ++ path ++ trail) = some steps := by
  have hplain : ∀ s ∈ steps, s.Plain := fun s hs => (hsteps s hs).plain
  intro path hpath
  rw [parse?_between_blanks hlead htrail]
  rcases List.mem_pair.mp hpath with rfl | rfl
  · rw [parse?_render hplain, map_canonical hsteps]
  · rw [parse?_rooted_render hplain, map_canonical hsteps]

/-! ## Written paths in full -/

def marked (steps : List Segment) : List Char :=
  steps.flatMap fun s => s.mark :: s.body

def withoutPoint : List Char → List Char
  | '.' :: rest => rest
  | cs => cs

theorem foldl_step_marked {path : String} (hpath : path ≠ "") (steps : List Segment) :
    (steps.foldl step path).toList = path.toList ++ marked steps := by
  induction steps generalizing path with
  | nil => simp [marked]
  | cons s rest ih =>
    rcases step_toList path s with ⟨hempty, -, -⟩ | hstep
    · exact absurd hempty hpath
    · have hne : step path s ≠ "" := by
        intro h
        rw [h] at hstep
        simp at hstep
      rw [List.foldl_cons, ih hne, hstep, List.append_assoc]
      rfl

/-- A first step other than an empty key is written, and without its point. -/
theorem step_empty_toList {s : Segment} (hs : s ≠ .key "") :
    step "" s ≠ "" ∧
      ∀ tail, (step "" s).toList ++ tail = withoutPoint (s.mark :: s.body ++ tail) := by
  cases s with
  | key name =>
    rw [step, join_empty]
    refine ⟨?_, fun tail => rfl⟩
    rintro rfl
    exact hs rfl
  | index n =>
    refine ⟨step_ne_empty "" (s := .index n) trivial, fun tail => ?_⟩
    simp [step, item_toList, withoutPoint, Segment.mark, Segment.body]

/-- The written path of any steps, whatever their keys are. -/
theorem render_toList (steps : List Segment) :
    (render steps).toList = withoutPoint (marked (steps.dropWhile (· = .key ""))) := by
  induction steps with
  | nil => rfl
  | cons s rest ih =>
    by_cases hs : s = .key ""
    · -- An empty key in front leaves the path empty, so that the next step is again a first one.
      subst hs
      rw [List.dropWhile_cons_of_pos (by simp), ← ih]
      rfl
    · obtain ⟨hne, hfirst⟩ := step_empty_toList hs
      rw [List.dropWhile_cons_of_neg (by simpa using hs), render, List.foldl_cons,
        foldl_step_marked hne, hfirst]
      rfl

end TemplateAudit.Path
