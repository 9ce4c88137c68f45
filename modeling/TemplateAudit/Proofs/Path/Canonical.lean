import Mathlib.Data.List.Basic
import Mathlib.Data.List.Induction
import Mathlib.Data.List.TakeWhile
import TemplateAudit.Path

/-!
# Reading back written paths

A path is written by joining steps and read by trimming, splitting at points and taking brackets
apart. On steps whose keys are plain names and whose positions fit 64 bits the two agree: the
written path is read as the same steps with their keys in lower case, also with a point behind it,
and no two lists of such steps are written alike.
-/

namespace TemplateAudit.Path

set_option autoImplicit false

/-- The step as canonical paths have it, its key in lower case. -/
def Segment.canonical : Segment → Segment
  | .key name => .key (Text.lowercase name)
  | .index position => .index position

/-- Names that survive being written into a path. -/
structure PlainName (name : String) : Prop where
  nonempty : name ≠ ""
  notRoot : name ≠ "$"
  noPoint : '.' ∉ name.toList
  noBracket : '[' ∉ name.toList
  trimmed : Text.trim name = name

instance (name : String) : Decidable (PlainName name) :=
  decidable_of_iff (name ≠ "" ∧ name ≠ "$" ∧ '.' ∉ name.toList ∧ '[' ∉ name.toList ∧
      Text.trim name = name)
    ⟨fun ⟨hnonempty, hroot, hpoint, hbracket, htrimmed⟩ =>
        ⟨hnonempty, hroot, hpoint, hbracket, htrimmed⟩,
      fun h => ⟨h.nonempty, h.notRoot, h.noPoint, h.noBracket, h.trimmed⟩⟩

def Segment.Named : Segment → Prop
  | .key name => PlainName name
  | .index _ => True

def Segment.Plain : Segment → Prop
  | .key name => PlainName name
  | .index position => position < UInt64.size

theorem Segment.Plain.named {s : Segment} (h : s.Plain) : s.Named := by
  cases s with
  | key name => exact h
  | index n => trivial

/-! ## The characters of a written path -/

theorem join_toList_of_ne {path : String} (h : path ≠ "") (text : String) :
    (join path text).toList = path.toList ++ '.' :: text.toList := by
  have hfalse : path.isEmpty = false := by simpa using h
  simp [join, hfalse, String.toList_append]

@[simp] theorem join_empty (text : String) : join "" text = text := by
  simp [join]

theorem item_toList (path : String) (position : Nat) :
    (item path position).toList = path.toList ++ '[' :: Nat.toDigits 10 position ++ [']'] := by
  simp [item, String.toList_append]

theorem step_ne_empty (path : String) {s : Segment} (hs : s.Named) : step path s ≠ "" := by
  intro h
  have hnil : (step path s).toList = [] := by rw [h]; rfl
  cases s with
  | key name =>
    by_cases hp : path = ""
    · subst hp
      simp only [step, join_empty] at h
      exact hs.nonempty h
    · simp [step, join_toList_of_ne hp] at hnil
  | index position => simp [step, item_toList] at hnil

@[simp] theorem render_nil : render [] = "" := rfl

theorem render_append (a b : List Segment) : render (a ++ b) = b.foldl step (render a) := by
  simp [render, List.foldl_append]

theorem render_concat (a : List Segment) (s : Segment) : render (a ++ [s]) = step (render a) s := by
  simp [render_append]

theorem render_ne_empty {a : List Segment} (ha : ∀ s ∈ a, s.Named) (hne : a ≠ []) :
    render a ≠ "" := by
  induction a using List.reverseRecOn with
  | nil => exact absurd rfl hne
  | append_singleton a s _ =>
    rw [render_concat]
    exact step_ne_empty _ (ha s (by simp))

/-! ## Points -/

theorem splitPoints_ne_nil (cs : List Char) : splitPoints cs ≠ [] := by
  fun_cases splitPoints cs <;> simp_all

theorem splitPoints_append_point (cs ds : List Char) :
    splitPoints (cs ++ '.' :: ds) = splitPoints cs ++ splitPoints ds := by
  induction cs with
  | nil => simp [splitPoints]
  | cons c cs ih =>
    by_cases hc : c = '.'
    · simp [splitPoints, hc, ih]
    · simp only [List.cons_append, splitPoints, if_neg hc, ih]
      cases hs : splitPoints cs with
      | nil => exact absurd hs (splitPoints_ne_nil cs)
      | cons part parts => rfl

theorem splitPoints_of_not_mem {cs : List Char} (h : '.' ∉ cs) : splitPoints cs = [cs] := by
  induction cs with
  | nil => rfl
  | cons c cs ih =>
    simp only [List.mem_cons, not_or] at h
    simp only [splitPoints, if_neg (Ne.symm h.1), ih h.2]

theorem splitPoints_append {ds : List Char} (h : '.' ∉ ds) (cs : List Char) :
    ∃ parts part, splitPoints cs = parts ++ [part] ∧
      splitPoints (cs ++ ds) = parts ++ [part ++ ds] := by
  induction cs with
  | nil => exact ⟨[], [], rfl, splitPoints_of_not_mem h⟩
  | cons c cs ih =>
    obtain ⟨parts, part, hcs, happ⟩ := ih
    by_cases hc : c = '.'
    · exact ⟨[] :: parts, part, by simp [splitPoints, hc, hcs], by simp [splitPoints, hc, happ]⟩
    · cases parts with
      | nil => exact ⟨[], c :: part, by simp [splitPoints, hc, hcs], by simp [splitPoints, hc, happ]⟩
      | cons first parts =>
        exact ⟨(c :: first) :: parts, part, by simp [splitPoints, hc, hcs],
          by simp [splitPoints, hc, happ]⟩

/-! ## Brackets -/

theorem takeWhile_append_stop {p : Char → Bool} {c : Char} (hc : p c = false) (l r : List Char) :
    (l ++ c :: r).takeWhile p = l.takeWhile p := by
  induction l with
  | nil => simp [hc]
  | cons a l ih =>
    simp only [List.cons_append, List.takeWhile_cons, ih]

theorem dropWhile_append_stop {p : Char → Bool} {c : Char} (hc : p c = false) (l r : List Char) :
    (l ++ c :: r).dropWhile p = l.dropWhile p ++ c :: r := by
  induction l with
  | nil => simp [hc]
  | cons a l ih =>
    simp only [List.cons_append, List.dropWhile_cons, ih]
    split <;> rfl

theorem takeWhile_append_of_dropWhile_ne_nil {p : Char → Bool} {l r : List Char}
    (h : l.dropWhile p ≠ []) : (l ++ r).takeWhile p = l.takeWhile p := by
  have hlength := congrArg List.length (@List.takeWhile_append_dropWhile _ p l)
  have hpos := List.length_pos_iff.mpr h
  rw [List.length_append] at hlength
  rw [List.takeWhile_append, if_neg (by omega)]

theorem dropWhile_blank_eq_self {cs : List Char} (h : ∀ c ∈ cs.head?, Text.isBlank c = false) :
    cs.dropWhile Text.isBlank = cs := by
  cases cs with
  | nil => rfl
  | cons c rest => simp [h c (by simp)]

theorem trimChars_eq_self {cs : List Char} (hhead : ∀ c ∈ cs.head?, Text.isBlank c = false)
    (hlast : ∀ c ∈ cs.getLast?, Text.isBlank c = false) : Text.trimChars cs = cs := by
  rw [Text.trimChars, dropWhile_blank_eq_self hhead,
    dropWhile_blank_eq_self (by simpa using hlast), List.reverse_reverse]

theorem head_not_blank {cs : List Char} (h : cs.length ≤ (cs.dropWhile Text.isBlank).length) :
    ∀ c ∈ cs.head?, Text.isBlank c = false := by
  intro c hc
  cases cs with
  | nil => simp at hc
  | cons d rest =>
    obtain rfl : d = c := by simpa using hc
    by_contra hblank
    have hdrop : (rest.dropWhile Text.isBlank).length ≤ rest.length :=
      (List.dropWhile_suffix _).length_le
    rw [List.dropWhile_cons_of_pos (by simpa using hblank), List.length_cons] at h
    omega

/-- A trimmed text has no blank at either end. -/
theorem ends_not_blank {cs : List Char} (h : Text.trimChars cs = cs) :
    (∀ c ∈ cs.head?, Text.isBlank c = false) ∧ ∀ c ∈ cs.getLast?, Text.isBlank c = false := by
  have hlength := congrArg List.length h
  rw [Text.trimChars, List.length_reverse] at hlength
  have hback : ((cs.dropWhile Text.isBlank).reverse.dropWhile Text.isBlank).length ≤
      (cs.dropWhile Text.isBlank).reverse.length := (List.dropWhile_suffix _).length_le
  rw [List.length_reverse] at hback
  have hhead : ∀ c ∈ cs.head?, Text.isBlank c = false := head_not_blank (by omega)
  rw [dropWhile_blank_eq_self hhead] at hlength
  have hlast : ∀ c ∈ cs.reverse.head?, Text.isBlank c = false :=
    head_not_blank (by rw [List.length_reverse]; omega)
  exact ⟨hhead, by simpa using hlast⟩

theorem head_dropWhile_not_blank (cs : List Char) :
    ∀ c ∈ (cs.dropWhile Text.isBlank).head?, Text.isBlank c = false := by
  intro c hc
  obtain ⟨rest, hrest⟩ := List.head?_eq_some_iff.mp hc
  have hne : cs.dropWhile Text.isBlank ≠ [] := by simp [hrest]
  have hhead := List.head_dropWhile_not Text.isBlank hne
  simpa [hrest] using hhead

theorem trimChars_trimChars (cs : List Char) :
    Text.trimChars (Text.trimChars cs) = Text.trimChars cs := by
  apply trimChars_eq_self
  · intro c hc
    have hfront : Text.trimChars cs <+: cs.dropWhile Text.isBlank := by
      rw [Text.trimChars, ← List.reverse_suffix, List.reverse_reverse]
      exact List.dropWhile_suffix _
    obtain ⟨rest, hrest⟩ := List.head?_eq_some_iff.mp hc
    obtain ⟨after, hafter⟩ := hfront
    rw [hrest] at hafter
    apply head_dropWhile_not_blank cs
    rw [← hafter]
    rfl
  · intro c hc
    rw [Text.trimChars, List.getLast?_reverse] at hc
    exact head_dropWhile_not_blank _ c hc

theorem digit_bounds {n : Nat} {c : Char} (hc : c ∈ Nat.toDigits 10 n) :
    48 ≤ c.toNat ∧ c.toNat ≤ 57 := by
  have hdigit := Nat.isDigit_of_mem_toDigits (by decide) (by decide) hc
  simpa [Char.isDigit, UInt32.le_iff_toNat_le] using hdigit

theorem digit_not_blank {n : Nat} {c : Char} (hc : c ∈ Nat.toDigits 10 n) :
    Text.isBlank c = false := by
  have hbounds := digit_bounds hc
  simp only [Text.isBlank, Bool.or_eq_false_iff, Bool.and_eq_false_iff, decide_eq_false_iff_not,
    beq_eq_false_iff_ne, ne_eq]
  omega

theorem not_mem_toDigits {c : Char} (hc : c.toNat < 48 ∨ 57 < c.toNat) (n : Nat) :
    c ∉ Nat.toDigits 10 n := by
  intro hmem
  have hbounds := digit_bounds hmem
  omega

theorem trimChars_toDigits (n : Nat) : Text.trimChars (Nat.toDigits 10 n) = Nat.toDigits 10 n :=
  trimChars_eq_self (fun _ hc => digit_not_blank (List.mem_of_mem_head? hc))
    (fun _ hc => digit_not_blank (List.mem_of_mem_getLast? hc))

/-- A position is read back from its decimal digits. -/
theorem position?_toDigits {n : Nat} (hn : n < UInt64.size) :
    position? (Nat.toDigits 10 n) = some n := by
  have hplus : ∀ rest, Nat.toDigits 10 n ≠ '+' :: rest := by
    intro rest heq
    exact not_mem_toDigits (c := '+') (by decide) n (by rw [heq]; simp)
  have hall : (Nat.toDigits 10 n).all (fun c => 48 ≤ c.toNat && c.toNat ≤ 57) = true := by
    rw [List.all_eq_true]
    intro c hc
    simpa using digit_bounds hc
  have hvalue : (Nat.toDigits 10 n).foldl (fun n c => n * 10 + (c.toNat - 48)) 0 = n := by
    simpa [Nat.ofDigitChars_eq_foldl, Nat.mul_comm] using @Nat.ofDigitChars_ten_toDigits n
  unfold position?
  split
  · rename_i rest heq
    exact absurd heq (hplus rest)
  · simp only [List.isEmpty_eq_false_iff.mpr Nat.toDigits_ne_nil, hall, hvalue, Bool.not_true,
      Bool.or_self, Bool.false_eq_true, if_false, if_pos hn]

def bracket (position : Nat) : List Char :=
  '[' :: Nat.toDigits 10 position ++ [']']

theorem point_not_mem_bracket (n : Nat) : '.' ∉ bracket n := by
  simp [bracket, not_mem_toDigits (c := '.') (by decide) n]

theorem positions?_bracket {n : Nat} (hn : n < UInt64.size) (fuel : Nat) :
    positions? (fuel + 1) (bracket n) = some [.index n] := by
  have hpass : ∀ c ∈ Nat.toDigits 10 n, decide (c ≠ ']') = true := by
    intro c hc
    rw [decide_eq_true_eq]
    rintro rfl
    exact not_mem_toDigits (by decide) n hc
  have htake : (Nat.toDigits 10 n ++ [']']).takeWhile (· ≠ ']') = Nat.toDigits 10 n := by
    rw [List.takeWhile_append_of_pos hpass]
    simp
  have hdrop : (Nat.toDigits 10 n ++ [']']).dropWhile (· ≠ ']') = [']'] := by
    rw [List.dropWhile_append_of_pos hpass]
    simp
  rw [bracket, List.cons_append, positions?]
  simp only [htake, hdrop, trimChars_toDigits, position?_toDigits hn, positions?]

theorem positions?_append_bracket {n : Nat} (hn : n < UInt64.size) {fuel more : Nat}
    {cs : List Char} {segments : List Segment} (h : positions? fuel cs = some segments)
    (hmore : fuel < more) :
    positions? more (cs ++ bracket n) = some (segments ++ [.index n]) := by
  induction more generalizing fuel cs segments with
  | zero => omega
  | succ more ih =>
    cases cs with
    | nil =>
      obtain rfl : [] = segments := by simpa [positions?] using h
      exact positions?_bracket hn more
    | cons c rest =>
      cases fuel with
      | zero => simp [positions?] at h
      | succ fuel =>
        by_cases hc : c = '['
        · subst hc
          simp only [positions?] at h
          split at h
          · simp at h
          · rename_i close after hdrop
            split at h
            · rename_i m others hm hothers
              obtain rfl : .index m :: others = segments := by simpa using h
              have hne : rest.dropWhile (· ≠ ']') ≠ [] := by rw [hdrop]; simp
              have hbehind : (rest ++ bracket n).dropWhile (· ≠ ']') =
                  close :: (after ++ bracket n) := by
                rw [List.dropWhile_append, if_neg (by simpa using hne), hdrop, List.cons_append]
              rw [List.cons_append, positions?]
              simp only [takeWhile_append_of_dropWhile_ne_nil hne, hbehind, hm,
                ih hothers (by omega), List.cons_append]
            · simp at h
        · simp [positions?, hc] at h

/-! ## Parts -/

theorem partSegments?_append_bracket {n : Nat} (hn : n < UInt64.size) {part : List Char}
    {segments : List Segment} (h : partSegments? part = some segments) :
    partSegments? (part ++ bracket n) = some (segments ++ [.index n]) := by
  have hstop : (fun c : Char => decide (c ≠ '[')) '[' = false := by decide
  have htake : (part ++ bracket n).takeWhile (· ≠ '[') = part.takeWhile (· ≠ '[') :=
    takeWhile_append_stop hstop part _
  have hdrop : (part ++ bracket n).dropWhile (· ≠ '[') = part.dropWhile (· ≠ '[') ++ bracket n :=
    dropWhile_append_stop hstop part _
  simp only [partSegments?] at h
  split at h
  · simp at h
  · rename_i positions hpositions
    have hlonger : (part.dropWhile (· ≠ '[')).length <
        (part.dropWhile (· ≠ '[') ++ bracket n).length := by
      simp [bracket]
    simp only [partSegments?, htake, hdrop, positions?_append_bracket hn hpositions hlonger]
    split at h
    · cases h
      rw [if_pos ‹_›]
    · cases h
      rw [if_neg ‹_›]
      rfl

theorem partSegments?_name {name : String} (h : PlainName name) :
    partSegments? name.toList = some [.key (Text.lowercase name)] := by
  have hpass : ∀ c ∈ name.toList, decide (c ≠ '[') = true := by
    intro c hc
    rw [decide_eq_true_eq]
    rintro rfl
    exact h.noBracket hc
  have hnonempty : name.toList.isEmpty = false := by simpa using h.nonempty
  simp only [partSegments?, List.takeWhile_eq_self_iff.mpr hpass,
    List.dropWhile_eq_nil_iff.mpr hpass, positions?, hnonempty, Bool.false_eq_true, if_false,
    String.ofList_toList]

theorem partsSegments?_cons (part : List Char) (parts : List (List Char)) :
    partsSegments? (part :: parts) =
      (partSegments? part).bind fun here => (partsSegments? parts).map (here ++ ·) := by
  cases part with
  | nil => cases h : partsSegments? parts <;> simp [partsSegments?, partSegments?, positions?, h]
  | cons c part =>
    simp only [partsSegments?, List.isEmpty_cons, Bool.false_eq_true, if_false]
    cases partSegments? (c :: part) <;> cases partsSegments? parts <;> rfl

theorem partsSegments?_append (parts others : List (List Char)) :
    partsSegments? (parts ++ others) =
      (partsSegments? parts).bind fun here => (partsSegments? others).map (here ++ ·) := by
  induction parts with
  | nil => cases h : partsSegments? others <;> simp [partsSegments?, h]
  | cons part parts ih =>
    simp only [List.cons_append, partsSegments?_cons, ih]
    cases partSegments? part <;> cases partsSegments? parts <;> cases partsSegments? others <;>
      simp

/-- What one more step adds to the steps that are read. -/
theorem partsSegments?_step {path : String} {segments : List Segment} {s : Segment} (hs : s.Plain)
    (h : partsSegments? (splitPoints path.toList) = some segments) :
    partsSegments? (splitPoints (step path s).toList) = some (segments ++ [s.canonical]) := by
  cases s with
  | key name =>
    have hname : partsSegments? (splitPoints name.toList) = some [.key (Text.lowercase name)] := by
      rw [splitPoints_of_not_mem hs.noPoint, partsSegments?_cons, partSegments?_name hs]
      rfl
    by_cases hp : path = ""
    · subst hp
      obtain rfl : [] = segments := by simpa [splitPoints, partsSegments?] using h
      rw [step, join_empty]
      exact hname
    · rw [step, join_toList_of_ne hp, splitPoints_append_point, partsSegments?_append, h, hname]
      rfl
  | index n =>
    obtain ⟨parts, part, hsplit, hmore⟩ := splitPoints_append (point_not_mem_bracket n) path.toList
    have hlist : (step path (.index n)).toList = path.toList ++ bracket n := by
      simp [step, item_toList, bracket]
    rw [hsplit, partsSegments?_append] at h
    obtain ⟨before, hbefore, h⟩ := Option.bind_eq_some_iff.mp h
    obtain ⟨last, hlast, rfl⟩ := Option.map_eq_some_iff.mp h
    have hpart : partSegments? part = some last := by
      rw [partsSegments?_cons] at hlast
      simpa [partsSegments?] using hlast
    rw [hlist, hmore, partsSegments?_append, hbefore, partsSegments?_cons,
      partSegments?_append_bracket hs hpart]
    simp [partsSegments?, Segment.canonical]

theorem partsSegments?_render {a : List Segment} (ha : ∀ s ∈ a, s.Plain) :
    partsSegments? (splitPoints (render a).toList) = some (a.map Segment.canonical) := by
  induction a using List.reverseRecOn with
  | nil => rfl
  | append_singleton a s ih =>
    rw [render_concat, List.map_append, List.map_singleton]
    exact partsSegments?_step (ha s (by simp)) (ih fun t ht => ha t (by simp [ht]))

/-! ## Whole paths -/

theorem PlainName.ends {name : String} (h : PlainName name) :
    (∀ c ∈ name.toList.head?, Text.isBlank c = false) ∧
      ∀ c ∈ name.toList.getLast?, Text.isBlank c = false := by
  apply ends_not_blank
  have htrim := congrArg String.toList h.trimmed
  simpa [Text.trim] using htrim

theorem foldl_step_toList (a : List Segment) (path : String) :
    ∃ tail, (a.foldl step path).toList = path.toList ++ tail := by
  induction a generalizing path with
  | nil => exact ⟨[], by simp⟩
  | cons s a ih =>
    obtain ⟨tail, htail⟩ := ih (step path s)
    have hstep : ∃ more, (step path s).toList = path.toList ++ more := by
      cases s with
      | key name =>
        by_cases hp : path = ""
        · exact ⟨name.toList, by simp [step, hp]⟩
        · exact ⟨_, join_toList_of_ne hp name⟩
      | index n => exact ⟨bracket n, by simp [step, item_toList, bracket]⟩
    obtain ⟨more, hmore⟩ := hstep
    exact ⟨more ++ tail, by rw [List.foldl_cons, htail, hmore, List.append_assoc]⟩

/-- Nothing is cut off the front of a written path, whatever stands behind its first step. -/
theorem front_of_plain {s : Segment} (hs : s.Plain) (tail : List Char) :
    (∀ c ∈ ((step "" s).toList ++ tail).head?, Text.isBlank c = false) ∧
      withoutRoot ((step "" s).toList ++ tail) = (step "" s).toList ++ tail := by
  cases s with
  | index n => simp [step, item_toList, withoutRoot]; decide
  | key name =>
    rw [step, join_empty]
    have hends := hs.ends.1
    have hroot := hs.notRoot
    have hpoint := hs.noPoint
    cases hchars : name.toList with
    | nil => exact absurd (String.toList_eq_nil_iff.mp hchars) hs.nonempty
    | cons c rest =>
      rw [hchars] at hends hpoint
      refine ⟨by simpa using hends, ?_⟩
      unfold withoutRoot
      split
      · rename_i heq
        obtain ⟨rfl, hnil⟩ : c = '$' ∧ rest ++ tail = [] := by simpa using heq
        have hdollar : name.toList = "$".toList := by simp_all
        exact absurd (String.toList_inj.mp hdollar) hroot
      · rename_i after heq
        obtain ⟨rfl, hafter⟩ : c = '$' ∧ rest ++ tail = '.' :: after := by simpa using heq
        cases rest with
        | nil => exact absurd (String.toList_inj.mp (show name.toList = "$".toList by simp [hchars])) hroot
        | cons d rest =>
          obtain ⟨rfl, -⟩ : d = '.' ∧ rest ++ tail = after := by simpa using hafter
          simp at hpoint
      · rfl

theorem last_of_plain {s : Segment} (hs : s.Plain) (path : String) :
    ∀ c ∈ (step path s).toList.getLast?, Text.isBlank c = false := by
  cases s with
  | index n =>
    intro c hc
    rw [step, item_toList, List.getLast?_concat] at hc
    obtain rfl : ']' = c := by simpa using hc
    decide
  | key name =>
    have hne : name.toList ≠ [] := by simpa using hs.nonempty
    have hlast : (step path (.key name)).toList.getLast? = name.toList.getLast? := by
      by_cases hp : path = ""
      · simp [step, hp]
      · have hpoint : path.toList ++ '.' :: name.toList = (path.toList ++ ['.']) ++ name.toList := by
          simp
        rw [step, join_toList_of_ne hp, hpoint, List.getLast?_append_of_ne_nil _ hne]
    rw [hlast]
    exact hs.ends.2

theorem parse?_of_front {path : String} (hhead : ∀ c ∈ path.toList.head?, Text.isBlank c = false)
    (hlast : ∀ c ∈ path.toList.getLast?, Text.isBlank c = false)
    (hroot : withoutRoot path.toList = path.toList) :
    parse? path = partsSegments? (splitPoints path.toList) := by
  rw [parse?, trimChars_eq_self hhead hlast, hroot]

theorem render_ends {a : List Segment} (ha : ∀ s ∈ a, s.Plain) (tail : List Char) (hne : a ≠ []) :
    (∀ c ∈ ((render a).toList ++ tail).head?, Text.isBlank c = false) ∧
      withoutRoot ((render a).toList ++ tail) = (render a).toList ++ tail ∧
      ∀ c ∈ (render a).toList.getLast?, Text.isBlank c = false := by
  have hlast : ∀ c ∈ (render a).toList.getLast?, Text.isBlank c = false := by
    obtain rfl | ⟨init, s, rfl⟩ := a.eq_nil_or_concat'
    · exact absurd rfl hne
    · rw [render_concat]
      exact last_of_plain (ha s (by simp)) _
  cases a with
  | nil => exact absurd rfl hne
  | cons s a =>
    obtain ⟨more, hmore⟩ := foldl_step_toList a (step "" s)
    have hchars : (render (s :: a)).toList = (step "" s).toList ++ more := hmore
    have hfront := front_of_plain (ha s (by simp)) (more ++ tail)
    rw [← List.append_assoc, ← hchars] at hfront
    exact ⟨hfront.1, hfront.2, hlast⟩

/-- A written path is read as its steps, with their keys in lower case. -/
theorem parse?_render {a : List Segment} (ha : ∀ s ∈ a, s.Plain) :
    parse? (render a) = some (a.map Segment.canonical) := by
  by_cases hne : a = []
  · subst hne
    rfl
  · obtain ⟨hhead, hroot, hlast⟩ := render_ends ha [] hne
    rw [parse?_of_front (by simpa using hhead) hlast (by simpa using hroot)]
    exact partsSegments?_render ha

/-- The mark of the root in front of a written path changes nothing. -/
theorem parse?_rooted_render {a : List Segment} (ha : ∀ s ∈ a, s.Plain) :
    parse? ("$." ++ render a) = some (a.map Segment.canonical) := by
  have hchars : ("$." ++ render a).toList = '$' :: '.' :: (render a).toList := by
    simp [String.toList_append]
  have hlast : ∀ c ∈ ('$' :: '.' :: (render a).toList).getLast?, Text.isBlank c = false := by
    by_cases hne : a = []
    · subst hne
      intro c hc
      obtain rfl : '.' = c := by simpa [render] using hc
      decide
    · obtain ⟨-, -, hend⟩ := render_ends ha [] hne
      have hnil : (render a).toList ≠ [] := by
        simpa using render_ne_empty (fun s hs => (ha s hs).named) hne
      rwa [List.getLast?_cons_of_ne_nil (by simp), List.getLast?_cons_of_ne_nil hnil]
  rw [parse?, hchars, trimChars_eq_self (by simpa using (by decide : Text.isBlank '$' = false)) hlast]
  exact partsSegments?_render ha

theorem join_render_last {a b : List Segment} (hne : a ≠ []) (ha : ∀ s ∈ a, s.Plain)
    (hb : ∀ s ∈ b, s.Plain) :
    ∀ c ∈ (join (render a) (render b)).toList.getLast?, Text.isBlank c = false := by
  rw [join_toList_of_ne (render_ne_empty (fun s hs => (ha s hs).named) hne)]
  intro c hc
  by_cases hempty : b = []
  · subst hempty
    obtain rfl : '.' = c := by simpa [render] using hc
    decide
  · obtain ⟨-, -, hlast⟩ := render_ends hb [] hempty
    have hnil : (render b).toList ≠ [] := by
      simpa using render_ne_empty (fun s hs => (hb s hs).named) hempty
    apply hlast c
    rwa [List.getLast?_append, List.getLast?_cons_of_ne_nil hnil,
      List.getLast?_eq_some_getLast hnil, Option.some_or,
      ← List.getLast?_eq_some_getLast hnil] at hc

/-- A written path joined to another one is read as the steps of both, also when either has none:
a point behind a path changes nothing. -/
theorem parse?_join_render {a b : List Segment} (ha : ∀ s ∈ a, s.Plain) (hb : ∀ s ∈ b, s.Plain) :
    parse? (join (render a) (render b)) = some ((a ++ b).map Segment.canonical) := by
  by_cases hne : a = []
  · subst hne
    rw [render_nil, join_empty, List.nil_append]
    exact parse?_render hb
  · have hchars := join_toList_of_ne (render_ne_empty (fun s hs => (ha s hs).named) hne) (render b)
    obtain ⟨hhead, hroot, -⟩ := render_ends ha ('.' :: (render b).toList) hne
    rw [← hchars] at hhead hroot
    rw [parse?_of_front hhead (join_render_last hne ha hb) hroot, hchars, splitPoints_append_point,
      partsSegments?_append, partsSegments?_render ha, partsSegments?_render hb]
    simp

/-! ## Different steps are written differently -/

theorem append_mark_inj {u v x y : List Char} {c d : Char} (h : u ++ c :: x = v ++ d :: y)
    (hx : d ∉ x) (hy : c ∉ y) : u = v ∧ c = d ∧ x = y := by
  rcases List.append_eq_append_iff.mp h with ⟨gap, rfl, heq⟩ | ⟨gap, rfl, heq⟩
  · cases gap with
    | nil => simpa using heq
    | cons g gap =>
      obtain ⟨rfl, rfl⟩ : c = g ∧ x = gap ++ d :: y := by simpa using heq
      simp at hx
  · cases gap with
    | nil => simpa [eq_comm] using heq
    | cons g gap =>
      obtain ⟨rfl, rfl⟩ : d = g ∧ y = gap ++ c :: x := by simpa using heq
      simp at hy

theorem toDigits_inj {m n : Nat} (h : Nat.toDigits 10 m = Nat.toDigits 10 n) : m = n := by
  rw [← @Nat.ofDigitChars_ten_toDigits m, h, Nat.ofDigitChars_ten_toDigits]

/-- The character that sets a step off from the path before it. -/
def Segment.mark : Segment → Char
  | .key _ => '.'
  | .index _ => '['

def Segment.body : Segment → List Char
  | .key name => name.toList
  | .index position => Nat.toDigits 10 position ++ [']']

theorem Segment.Named.mark_not_mem {s : Segment} (hs : s.Named) (t : Segment) : t.mark ∉ s.body := by
  cases s with
  | key name => cases t <;> simp [mark, body, hs.noPoint, hs.noBracket]
  | index n =>
    have hpoint := not_mem_toDigits (c := '.') (by decide) n
    have hbracket := not_mem_toDigits (c := '[') (by decide) n
    cases t <;> simp [mark, body, hpoint, hbracket]

theorem Segment.eq_of_mark_body {s t : Segment} (hmark : s.mark = t.mark) (hbody : s.body = t.body) :
    s = t := by
  cases s with
  | key name =>
    cases t with
    | key other => rw [String.toList_inj.mp hbody]
    | index n => simp [mark] at hmark
  | index m =>
    cases t with
    | key other => simp [mark] at hmark
    | index n => rw [toDigits_inj (List.append_cancel_right hbody)]

/-- Only a key at the start of a path has no mark before it. -/
theorem step_toList (path : String) (s : Segment) :
    (path = "" ∧ s.mark = '.' ∧ (step path s).toList = s.body) ∨
      (step path s).toList = path.toList ++ s.mark :: s.body := by
  cases s with
  | key name =>
    by_cases hp : path = ""
    · exact Or.inl ⟨hp, rfl, by simp [hp, step, Segment.body]⟩
    · exact Or.inr (join_toList_of_ne hp name)
  | index n => exact Or.inr (by simp [step, item_toList, Segment.mark, Segment.body])

/-- The last step and the path before it can be told from a written path. -/
theorem step_inj {path other : String} {s t : Segment} (hs : s.Named) (ht : t.Named)
    (h : step path s = step other t) : path = other ∧ s = t := by
  have hchars := congrArg String.toList h
  rcases step_toList path s with ⟨hpath, hsmark, hsbody⟩ | hsbody <;>
    rcases step_toList other t with ⟨hother, htmark, htbody⟩ | htbody <;>
    rw [hsbody, htbody] at hchars
  · exact ⟨hpath.trans hother.symm, Segment.eq_of_mark_body (hsmark.trans htmark.symm) hchars⟩
  · exact absurd (by simp [hchars]) (hs.mark_not_mem t)
  · exact absurd (by simp [← hchars]) (ht.mark_not_mem s)
  · obtain ⟨hpath, hmark, hbody⟩ := append_mark_inj hchars (hs.mark_not_mem t) (ht.mark_not_mem s)
    exact ⟨String.toList_inj.mp hpath, Segment.eq_of_mark_body hmark hbody⟩

theorem render_injective {a b : List Segment} (ha : ∀ s ∈ a, s.Named) (hb : ∀ s ∈ b, s.Named)
    (h : render a = render b) : a = b := by
  induction a using List.reverseRecOn generalizing b with
  | nil =>
    by_contra hne
    exact render_ne_empty hb (Ne.symm hne) h.symm
  | append_singleton a s ih =>
    obtain rfl | ⟨b, t, rfl⟩ := b.eq_nil_or_concat'
    · exact absurd h (render_ne_empty ha (by simp))
    · rw [render_concat, render_concat] at h
      obtain ⟨hrest, rfl⟩ := step_inj (ha s (by simp)) (hb t (by simp)) h
      rw [ih (fun s hs => ha s (by simp [hs])) (fun s hs => hb s (by simp [hs])) hrest]

end TemplateAudit.Path
