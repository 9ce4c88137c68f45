import Mathlib.Data.List.Infix
import TemplateAudit.Proofs.Path.Spelling
import TemplateAudit.Proofs.Text.Case

/-!
# The first step of a written path

In a written path points and brackets set the steps off, so that a key without them ends where the
next step begins: whatever the other steps are, such a first step can be told from the written path.
Reading gives no other keys. A key that is empty, or holds a point or a bracket, may be written like
several steps of a path that has nothing to do with it.
-/

namespace TemplateAudit

set_option autoImplicit false

namespace Path

/-! ## Keys without marks -/

/-- Names that are one step wherever they stand in a path. -/
structure Unmarked (name : String) : Prop where
  nonempty : name ≠ ""
  noPoint : '.' ∉ name.toList
  noBracket : '[' ∉ name.toList

instance (name : String) : Decidable (Unmarked name) :=
  decidable_of_iff (name ≠ "" ∧ '.' ∉ name.toList ∧ '[' ∉ name.toList)
    ⟨fun ⟨hnonempty, hpoint, hbracket⟩ => ⟨hnonempty, hpoint, hbracket⟩,
      fun h => ⟨h.nonempty, h.noPoint, h.noBracket⟩⟩

theorem Unmarked.lowercase {name : String} (h : Unmarked name) :
    Unmarked (Text.lowercase name) where
  nonempty := fun hempty => h.nonempty (Text.lowercase_eq_empty hempty)
  noPoint := fun hmem => h.noPoint (Text.mem_of_mem_lowercase hmem (by decide))
  noBracket := fun hmem => h.noBracket (Text.mem_of_mem_lowercase hmem (by decide))

def Segment.Unmarked : Segment → Prop
  | .key name => Path.Unmarked name
  | .index _ => True

theorem step_empty_ne_empty {s : Segment} (hs : s.Unmarked) : step "" s ≠ "" := by
  cases s with
  | key name =>
    rw [step, join_empty]
    exact hs.nonempty
  | index n => exact step_ne_empty "" (s := .index n) trivial

theorem step_eq_empty_of_render {s : Segment} {a : List Segment} (h : render (s :: a) = "") :
    step "" s = "" := by
  obtain ⟨tail, htail⟩ := foldl_step_toList a (step "" s)
  have hnil : (step "" s).toList ++ tail = [] := by
    rw [← htail]
    exact congrArg String.toList h
  exact String.toList_eq_nil_iff.mp (List.append_eq_nil_iff.mp hnil).1

/-! ## Steps that are read -/

theorem point_not_mem_of_splitPoints {cs part : List Char} (h : part ∈ splitPoints cs) :
    '.' ∉ part := by
  induction cs generalizing part with
  | nil =>
    obtain rfl : part = [] := by simpa [splitPoints] using h
    simp
  | cons c rest ih =>
    by_cases hc : c = '.'
    · rw [splitPoints, if_pos hc] at h
      rcases List.mem_cons.mp h with rfl | hrest
      · simp
      · exact ih hrest
    · rw [splitPoints, if_neg hc] at h
      split at h
      · rename_i first parts hsplit
        rw [hsplit, List.forall_mem_cons] at ih
        rcases List.mem_cons.mp h with rfl | hrest
        · rw [List.mem_cons, not_or]
          exact ⟨Ne.symm hc, ih.1⟩
        · exact ih.2 part hrest
      · rename_i hsplit
        exact absurd hsplit (splitPoints_ne_nil rest)

theorem unmarked_of_positions? {fuel : Nat} {cs : List Char} {segments : List Segment}
    (h : positions? fuel cs = some segments) : ∀ s ∈ segments, s.Unmarked := by
  fun_induction positions? fuel cs generalizing segments with
  | case1 => simp_all
  | case4 =>
    rename_i more hmore _ ih
    obtain rfl := Option.some.inj h
    exact List.forall_mem_cons.mpr ⟨trivial, ih hmore⟩
  | _ => simp at h

theorem unmarked_of_partSegments? {part : List Char} {segments : List Segment}
    (hpoint : '.' ∉ part) (h : partSegments? part = some segments) :
    ∀ s ∈ segments, s.Unmarked := by
  rw [partSegments?] at h
  split at h
  · simp at h
  · rename_i positions hpositions
    have hrest := unmarked_of_positions? hpositions
    split at h
    · obtain rfl := Option.some.inj h
      exact hrest
    · rename_i hkey
      obtain rfl := Option.some.inj h
      have hname : Unmarked (String.ofList (part.takeWhile (· ≠ '['))) := by
        refine ⟨by simpa using hkey, ?_, ?_⟩
        · rw [String.toList_ofList]
          intro hmem
          exact hpoint ((List.takeWhile_prefix _).subset hmem)
        · rw [String.toList_ofList]
          intro hmem
          simpa using List.mem_takeWhile_imp hmem
      exact List.forall_mem_cons.mpr ⟨hname.lowercase, hrest⟩

theorem unmarked_of_partsSegments? {parts : List (List Char)} {segments : List Segment}
    (hpoints : ∀ part ∈ parts, '.' ∉ part) (h : partsSegments? parts = some segments) :
    ∀ s ∈ segments, s.Unmarked := by
  induction parts generalizing segments with
  | nil =>
    obtain rfl : [] = segments := by simpa [partsSegments?] using h
    simp
  | cons part parts ih =>
    rw [List.forall_mem_cons] at hpoints
    rw [partsSegments?_cons] at h
    obtain ⟨here, hhere, h⟩ := Option.bind_eq_some_iff.mp h
    obtain ⟨more, hmore, rfl⟩ := Option.map_eq_some_iff.mp h
    rw [List.forall_mem_append]
    exact ⟨unmarked_of_partSegments? hpoints.1 hhere, ih hpoints.2 hmore⟩

theorem unmarked_of_parse? {path : String} {segments : List Segment}
    (h : parse? path = some segments) : ∀ s ∈ segments, s.Unmarked :=
  unmarked_of_partsSegments? (fun _ hpart => point_not_mem_of_splitPoints hpart) h

/-! ## Telling the first step -/

/-- What may stand behind the first step of a written path. -/
def StartsMarked (tail : List Char) : Prop :=
  ∀ c ∈ tail.head?, c = '.' ∨ c = '['

theorem startsMarked_marked (a : List Segment) : StartsMarked (marked a) := by
  cases a with
  | nil => simp [StartsMarked, marked]
  | cons s a =>
    intro c hc
    obtain rfl : s.mark = c := by simpa [marked] using hc
    cases s with
    | key name => exact Or.inl rfl
    | index n => exact Or.inr rfl

theorem foldl_step_tail {path : String} (hpath : path ≠ "") (a : List Segment) :
    ∃ tail, (a.foldl step path).toList = path.toList ++ tail ∧ StartsMarked tail :=
  ⟨marked a, foldl_step_marked hpath a, startsMarked_marked a⟩

theorem takeWhile_of_startsMarked {name tail : List Char} (hpoint : '.' ∉ name)
    (hbracket : '[' ∉ name) (htail : StartsMarked tail) :
    (name ++ tail).takeWhile (fun c => c ≠ '.' && c ≠ '[') = name := by
  have hname : ∀ c ∈ name, (c ≠ '.' && c ≠ '[') = true := by
    intro c hc
    simp only [ne_eq, Bool.and_eq_true, decide_eq_true_eq]
    constructor
    · rintro rfl
      exact hpoint hc
    · rintro rfl
      exact hbracket hc
  rw [List.takeWhile_append_of_pos hname]
  cases tail with
  | nil => simp
  | cons c tail =>
    have hmark := htail c rfl
    rw [List.takeWhile_cons_of_neg (by rcases hmark with rfl | rfl <;> decide), List.append_nil]

theorem Unmarked.toList_ne_bracket {name : String} (h : Unmarked name) (tail rest : List Char) :
    name.toList ++ tail ≠ '[' :: rest := by
  intro heq
  cases hname : name.toList with
  | nil => exact h.nonempty (String.toList_eq_nil_iff.mp hname)
  | cons c others =>
    obtain ⟨rfl, -⟩ : c = '[' ∧ others ++ tail = rest := by simpa [hname] using heq
    exact h.noBracket (by simp [hname])

theorem render_cons_tail {s : Segment} (hs : s.Unmarked) (a : List Segment) :
    ∃ tail, (render (s :: a)).toList = (step "" s).toList ++ tail ∧ StartsMarked tail :=
  foldl_step_tail (step_empty_ne_empty hs) a

/-- A path that starts like a key without marks, up to the next mark, has this key for its first
step. -/
theorem head_eq_key {name : String} {tail : List Char} {s : Segment} {a : List Segment}
    (hname : Unmarked name) (htail : StartsMarked tail) (hs : s.Unmarked)
    (h : (render (s :: a)).toList = name.toList ++ tail) : s = .key name := by
  obtain ⟨behind, hbehind, hmarked⟩ := render_cons_tail hs a
  rw [hbehind] at h
  cases s with
  | key other =>
    rw [step, join_empty] at h
    have hnames := congrArg (List.takeWhile fun c => c ≠ '.' && c ≠ '[') h
    rw [takeWhile_of_startsMarked hs.noPoint hs.noBracket hmarked,
      takeWhile_of_startsMarked hname.noPoint hname.noBracket htail] at hnames
    rw [String.toList_inj.mp hnames]
  | index n =>
    rw [step, item_toList] at h
    exact absurd h.symm (hname.toList_ne_bracket tail _)

theorem takeWhile_closed {inside : List Char} (h : ']' ∉ inside) (tail : List Char) :
    (inside ++ ']' :: tail).takeWhile (· ≠ ']') = inside := by
  rw [takeWhile_append_stop (by decide), List.takeWhile_eq_self_iff]
  intro c hc
  rw [decide_eq_true_eq]
  rintro rfl
  exact h hc

/-- A path that starts with brackets has the position between them for its first step. -/
theorem head_eq_index {inside tail : List Char} {s : Segment} {a : List Segment}
    (hinside : ']' ∉ inside) (hs : s.Unmarked)
    (h : (render (s :: a)).toList = '[' :: (inside ++ ']' :: tail)) :
    ∃ n, s = .index n ∧ inside = Nat.toDigits 10 n := by
  obtain ⟨behind, hbehind, -⟩ := render_cons_tail hs a
  rw [hbehind] at h
  cases s with
  | key name =>
    rw [step, join_empty] at h
    exact absurd h (hs.toList_ne_bracket behind _)
  | index n =>
    have hdigits : ']' ∉ Nat.toDigits 10 n := not_mem_toDigits (by decide) n
    have hbrackets : Nat.toDigits 10 n ++ ']' :: behind = inside ++ ']' :: tail := by
      simpa [step, item_toList] using h
    have hsame := congrArg (List.takeWhile (· ≠ ']')) hbrackets
    rw [takeWhile_closed hdigits, takeWhile_closed hinside] at hsame
    exact ⟨n, rfl, hsame.symm⟩

/-! ## Keys that pass for other paths -/

theorem Segment.Unmarked.mark_not_mem {s : Segment} (hs : s.Unmarked) {c : Char}
    (hc : c = '.' ∨ c = '[') : c ∉ s.body := by
  cases s with
  | key name =>
    rcases hc with rfl | rfl
    · exact hs.noPoint
    · exact hs.noBracket
  | index n =>
    have hdigits : c ∉ Nat.toDigits 10 n :=
      not_mem_toDigits (by rcases hc with rfl | rfl <;> decide) n
    rcases hc with rfl | rfl <;> simpa [body] using hdigits

/-- Where a written path goes on with a mark, one of its steps has come to an end. -/
theorem exists_initial_of_startsMarked {steps : List Segment} (hsteps : ∀ s ∈ steps, s.Unmarked)
    {name tail : List Char} (h : (render steps).toList = name ++ tail) (htail : StartsMarked tail) :
    ∃ part, part <+: steps ∧ (render part).toList = name := by
  induction steps using List.reverseRecOn generalizing tail with
  | nil =>
    have hname : name = [] := (List.append_eq_nil_iff.mp h.symm).1
    exact ⟨[], List.prefix_rfl, by rw [hname]; rfl⟩
  | append_singleton before s ih =>
    rw [List.forall_mem_append, List.forall_mem_singleton] at hsteps
    cases tail with
    | nil => exact ⟨before ++ [s], List.prefix_rfl, by simpa using h⟩
    | cons c rest =>
      have hbody := hsteps.2.mark_not_mem (htail c rfl)
      rw [render_concat] at h
      rcases step_toList (render before) s with ⟨-, -, hstep⟩ | hstep
      · rw [hstep] at h
        exact absurd (by simp [h]) hbody
      · rw [hstep] at h
        rcases List.append_eq_append_iff.mp h with ⟨more, hmore, hrest⟩ | ⟨more, hmore, hrest⟩
        · -- The name reaches into the last step, which holds no mark.
          cases more with
          | nil => exact ⟨before, List.prefix_append _ _, by simpa using hmore.symm⟩
          | cons d more =>
            obtain ⟨-, hinside⟩ : s.mark = d ∧ s.body = more ++ c :: rest := by simpa using hrest
            exact absurd (by simp [hinside]) hbody
        · have hmarked : StartsMarked more := by
            intro d hd
            obtain ⟨others, rfl⟩ := List.head?_eq_some_iff.mp hd
            exact htail d (by simpa using congrArg List.head? hrest)
          obtain ⟨part, hpart, hname⟩ := ih hsteps.1 hmore hmarked
          exact ⟨part, hpart.trans (List.prefix_append _ _), hname⟩

/-- The key is no step of its own, and some of the steps, taken from the first on, are written like
it in lower case. -/
def Shadows (key : String) (steps : List Segment) : Prop :=
  ¬ Unmarked key ∧ ∃ part ∈ steps.inits, render part = Text.lowercase key

instance (key : String) (steps : List Segment) : Decidable (Shadows key steps) :=
  inferInstanceAs (Decidable (_ ∧ _))

theorem shadows_empty (steps : List Segment) : Shadows "" steps :=
  ⟨fun h => h.nonempty rfl, [], by simp, rfl⟩

/-- A path that starts like a key with marks, up to the next mark, starts with some steps that are
written like it. -/
theorem shadows_of_written {key : String} {tail : List Char} {part steps : List Segment}
    (hsteps : ∀ s ∈ steps, s.Unmarked) (hmarked : ¬ Unmarked key) (hpart : part <+: steps)
    (htail : StartsMarked tail) (h : (render part).toList = (Text.lowercase key).toList ++ tail) :
    Shadows key steps := by
  obtain ⟨front, hfront, hname⟩ := exists_initial_of_startsMarked
    (fun s hs => hsteps s (hpart.subset hs)) h htail
  have hinitial : front ∈ steps.inits := (List.mem_inits _ _).mpr (hfront.trans hpart)
  exact ⟨hmarked, front, hinitial, String.toList_inj.mp hname⟩

end Path

end TemplateAudit
