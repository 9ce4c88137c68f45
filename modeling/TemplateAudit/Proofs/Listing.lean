/-!
# Listings of nodes

The nodes of a tree are listed by going through the children of a node, of some with a position
that counts up, and by putting the step to a child in front of the steps to the nodes below it.
-/

namespace TemplateAudit

set_option autoImplicit false

variable {σ τ γ δ : Type}

/-- What is in a listing of numbered items is in the part of one of the items. -/
theorem mem_numbered (listing : Nat → List γ → List δ) (part : Nat → γ → List δ)
    (hnil : ∀ position, listing position [] = [])
    (hcons : ∀ position item rest,
      listing position (item :: rest) = part position item ++ listing (position + 1) rest)
    {position : Nat} {items : List γ} {d : δ} :
    d ∈ listing position items ↔
      ∃ i item, items[i]? = some item ∧ d ∈ part (position + i) item := by
  induction items generalizing position with
  | nil => simp [hnil]
  | cons first rest ih =>
    rw [hcons, List.mem_append, ih]
    constructor
    · rintro (h | ⟨i, item, hitem, h⟩)
      · exact ⟨0, first, rfl, h⟩
      · refine ⟨i + 1, item, hitem, ?_⟩
        rwa [show position + (i + 1) = position + 1 + i by omega]
    · rintro ⟨i, item, hitem, h⟩
      cases i with
      | zero =>
        obtain rfl : first = item := by simpa using hitem
        exact Or.inl h
      | succ i =>
        refine Or.inr ⟨i, item, by simpa using hitem, ?_⟩
        rwa [show position + 1 + i = position + (i + 1) by omega]

theorem mem_joined (listing : List γ → List δ) (part : γ → List δ) (hnil : listing [] = [])
    (hcons : ∀ item rest, listing (item :: rest) = part item ++ listing rest)
    {items : List γ} {d : δ} : d ∈ listing items ↔ ∃ item ∈ items, d ∈ part item := by
  induction items with
  | nil => simp [hnil]
  | cons first rest ih => simp [hcons, ih]

def under (s : σ) (entries : List (List σ × τ)) : List (List σ × τ) :=
  entries.map fun entry => (s :: entry.1, entry.2)

theorem mem_under {s : σ} {entries : List (List σ × τ)} {a : List σ} {node : τ} :
    (a, node) ∈ under s entries ↔ ∃ b, a = s :: b ∧ (b, node) ∈ entries := by
  rw [under, List.mem_map]
  constructor
  · rintro ⟨⟨b, inner⟩, hb, heq⟩
    obtain ⟨rfl, rfl⟩ := Prod.mk.inj heq
    exact ⟨b, rfl, hb⟩
  · rintro ⟨b, rfl, hb⟩
    exact ⟨(b, node), hb, rfl⟩

theorem map_fst_under (s : σ) (entries : List (List σ × τ)) :
    (under s entries).map Prod.fst = (entries.map Prod.fst).map (s :: ·) := by
  simp [under]

theorem map_snd_under (s : σ) (entries : List (List σ × τ)) :
    (under s entries).map Prod.snd = entries.map Prod.snd := by
  simp [under]

end TemplateAudit
