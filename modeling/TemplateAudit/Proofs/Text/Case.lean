import Mathlib.Data.List.Basic
import TemplateAudit.Text.Case

/-!
# Characters in lower case

What lower case can make of a character: ASCII capitals become small letters, a few signs beyond
ASCII become letters, and no character becomes a digit, a point or a bracket that it was not before.
-/

namespace TemplateAudit.Text

set_option autoImplicit false

theorem asciiLower_cases (c : Char) :
    asciiLower c = c ∨ (65 ≤ c.toNat ∧ c.toNat ≤ 90 ∧ (asciiLower c).toNat = c.toNat + 32) := by
  rw [asciiLower]
  split
  · rename_i hcapital
    rw [Bool.and_eq_true, decide_eq_true_eq, decide_eq_true_eq] at hcapital
    refine Or.inr ⟨hcapital.1, hcapital.2, ?_⟩
    have hvalid : (c.toNat + 32).isValidChar := by
      left
      omega
    rw [Char.ofNat, dif_pos hvalid]
    rfl
  · exact Or.inl rfl

theorem toNat_ofNat (n : Nat) : (Char.ofNat n).toNat = n ∨ (Char.ofNat n).toNat = 0 := by
  by_cases hvalid : n.isValidChar
  · left
    rw [Char.ofNat, dif_pos hvalid]
    rfl
  · right
    rw [Char.ofNat, dif_neg hvalid]
    rfl

theorem lowercaseRuns_above_brackets :
    ∀ r ∈ lowercaseRuns, 91 < (r.first : Int) + r.shift := by
  decide +kernel

theorem mem_lowerChar {c d : Char} (h : d ∈ lowerChar c) :
    d = c ∨ d.toNat = 0 ∨ 91 < d.toNat := by
  rw [lowerChar] at h
  split at h
  · obtain rfl := List.mem_singleton.mp h
    rcases asciiLower_cases c with hsame | ⟨hfirst, -, hlower⟩
    · exact Or.inl hsame
    · exact Or.inr (Or.inr (by omega))
  split at h
  · rcases List.mem_pair.mp h with rfl | rfl <;> exact Or.inr (Or.inr (by decide))
  split at h
  · obtain rfl := List.mem_singleton.mp h
    exact Or.inr (Or.inr (by decide))
  split at h
  · rename_i r hfind
    obtain rfl := List.mem_singleton.mp h
    have hrun := lowercaseRuns_above_brackets r (List.mem_of_find?_eq_some hfind)
    have hcontains := List.find?_some hfind
    simp only [CaseRun.contains, Bool.and_eq_true, decide_eq_true_eq] at hcontains
    rw [Int.ofNat_eq_natCast]
    rcases toNat_ofNat ((c.toNat : Int) + r.shift).toNat with hcode | hzero
    · exact Or.inr (Or.inr (by omega))
    · exact Or.inr (Or.inl hzero)
  · exact Or.inl (List.mem_singleton.mp h)

theorem mem_lowerFrom {before cs : List Char} {d : Char} (h : d ∈ lowerFrom before cs)
    (hd : 0 < d.toNat ∧ d.toNat ≤ 91) : d ∈ cs := by
  induction cs generalizing before with
  | nil => simp [lowerFrom] at h
  | cons c rest ih =>
    rw [lowerFrom, List.mem_append] at h
    rcases h with hhead | hrest
    · split at hhead
      · split at hhead <;>
        · obtain rfl := List.mem_singleton.mp hhead
          exact absurd hd (by decide)
      · rcases mem_lowerChar hhead with rfl | hzero | habove
        · exact List.mem_cons_self
        · omega
        · omega
    · exact List.mem_cons_of_mem c (ih hrest)

/-- Lower case adds no character up to the opening bracket, so no digit, point or sign. -/
theorem mem_of_mem_lowercase {s : String} {d : Char} (h : d ∈ (lowercase s).toList)
    (hd : 0 < d.toNat ∧ d.toNat ≤ 91) : d ∈ s.toList := by
  rw [lowercase, String.toList_ofList] at h
  exact mem_lowerFrom h hd

theorem lowerChar_ne_nil (c : Char) : lowerChar c ≠ [] := by
  fun_cases lowerChar c <;> simp

theorem lowercase_eq_empty {s : String} (h : lowercase s = "") : s = "" := by
  have hnil : lowerFrom [] s.toList = [] := by
    simpa [lowercase] using congrArg String.toList h
  cases hchars : s.toList with
  | nil => exact String.toList_eq_nil_iff.mp hchars
  | cons c rest =>
    rw [hchars, lowerFrom, List.append_eq_nil_iff] at hnil
    have hhead := hnil.1
    split at hhead
    · split at hhead <;> simp at hhead
    · exact absurd hhead (lowerChar_ne_nil c)

end TemplateAudit.Text
