import TemplateAudit.CommandLine.Run
import TemplateAudit.Proofs.Config

/-!
# Rules by id or name

One search goes through ids and names alike: the first rule is found whose id is the text that is
looked for, or whose name is it up to ASCII case. The ids of a consistent configuration are
distinct, but nothing keeps the name of one rule apart from the id of another. A rule is therefore
found by its own id unless a rule before it bears that id as its name.
-/

namespace TemplateAudit

set_option autoImplicit false

namespace Config

variable {c : Config}

/-- A rule is found exactly when some rule has the id, or the name up to ASCII case. -/
theorem exists_findRule?_iff (c : Config) (query : String) :
    (∃ r, c.findRule? query = some r) ↔
      ∃ r ∈ c.rules, r.id = query ∨ Text.asciiEq r.name query = true := by
  rw [← Option.isSome_iff_exists, findRule?, List.find?_isSome]
  simp only [Bool.or_eq_true, beq_iff_eq]

/-- What is found among the rules before comes first. -/
theorem findRule?_id {before after : List Rule} {r : Rule}
    (hrules : c.rules = before ++ r :: after) :
    c.findRule? r.id =
      (before.find? fun other => other.id == r.id || Text.asciiEq other.name r.id).or (some r) := by
  simp [findRule?, hrules]

theorem Consistent.id_ne {before after : List Rule} {r : Rule} (h : c.Consistent)
    (hrules : c.rules = before ++ r :: after) : ∀ other ∈ before, other.id ≠ r.id := by
  intro other hother hid
  have hdistinct := h.distinct
  rw [hrules, List.map_append, List.map_cons] at hdistinct
  apply List.disjoint_of_nodup_append hdistinct (List.mem_map_of_mem hother)
  rw [hid]
  exact List.mem_cons_self

/-- Of the rules before, only one that bears the id as its name can be found. -/
theorem Consistent.findRule?_id_iff {before after : List Rule} {r : Rule} (h : c.Consistent)
    (hrules : c.rules = before ++ r :: after) :
    c.findRule? r.id = some r ↔ ∀ other ∈ before, Text.asciiEq other.name r.id = false := by
  have hids := h.id_ne hrules
  rw [findRule?_id hrules]
  cases hfind : before.find? fun other => other.id == r.id || Text.asciiEq other.name r.id with
  | none =>
    rw [List.find?_eq_none] at hfind
    simp only [Option.none_or, true_iff]
    intro other hother
    have hneither := hfind other hother
    simp only [Bool.or_eq_true, not_or, Bool.not_eq_true] at hneither
    exact hneither.2
  | some found =>
    have hmem := List.mem_of_find?_eq_some hfind
    -- Ids are distinct, so an earlier rule was found by its name.
    have hnamed : Text.asciiEq found.name r.id = true := by
      simpa [hids found hmem] using List.find?_some hfind
    rw [Option.some_or, Option.some.injEq]
    constructor
    · rintro rfl
      exact absurd rfl (hids found hmem)
    · intro hnames
      rw [hnames found hmem] at hnamed
      cases hnamed

theorem load_of_parse? {m : Type → Type} [Monad m] [LawfulMonad m]
    {read : FileReader m} {path text : String}
    (hread : read path = pure (.ok text)) (hparse : parse? text = some c)
    (hvalid : c.validate = .ok ()) : load read path = pure c := by
  have hchecked : c.checked = .ok c := by simp only [checked, hvalid]
  ext
  simp [load, hread, hparse, hchecked]

end Config

namespace CommandLine

open Config

variable {m : Type → Type} [Monad m] [LawfulMonad m]

theorem explain_of_found (host : Host m) {path : Option String} {c : Config} {query : String}
    {r : Rule} (hload : loadConfig host.read path = pure c) (hfind : c.findRule? query = some r) :
    explain host path query = pure { exitCode := 0, out := linesText (explanation r) } := by
  simp only [explain, hload, pure_bind, hfind]

/-- In an accepted configuration a rule is found by its own id, and explained when asked for by it,
exactly when no rule before it has that id for its name, up to ASCII case. Any text finds a rule
exactly when it is the id of one, or the name of one up to ASCII case. -/
theorem findRule?_own_id (c : Config) :
    (∀ query, (∃ r, c.findRule? query = some r) ↔
      ∃ r ∈ c.rules, r.id = query ∨ Text.asciiEq r.name query = true) ∧
    (c.validate = .ok () → ∀ (before after : List Rule) (r : Rule),
      c.rules = before ++ r :: after →
        (c.findRule? r.id = some r ↔ ∀ other ∈ before, Text.asciiEq other.name r.id = false) ∧
        ((∀ other ∈ before, Text.asciiEq other.name r.id = false) →
          ∀ (m : Type → Type) [Monad m] [LawfulMonad m] (host : Host m) (path : Option String),
            loadConfig host.read path = pure c →
              explain host path r.id =
                pure { exitCode := 0, out := linesText (explanation r) })) := by
  refine ⟨exists_findRule?_iff c, ?_⟩
  intro hvalid before after r hrules
  have hiff := (consistent_of_validate hvalid).findRule?_id_iff hrules
  refine ⟨hiff, ?_⟩
  intro hnames m _ _ host path hload
  exact explain_of_found host hload (hiff.mpr hnames)

/-- The second of two rules that are read from a file. -/
theorem findRule?_own_id_second :
    let text := "['1.0',~,[[A,n,d,h,r,info,general,true,~,[p,\x7bexists: true\x7d]]," ++
      "[B,m,d,h,r,info,general,true,~,[p,\x7bexists: true\x7d]]]]"
    let host : Host Id := {
      read := fun _ => .ok text, home := "", now := Timestamp.epoch, clock := (0 : Nat) }
    ∃ c first second, loadConfig host.read (some "file") = pure c ∧ c.validate = .ok () ∧
      c.rules = [first, second] ∧ second.id = "B" ∧ c.findRule? "B" = some second ∧
      explain host (some "file") "B" =
        pure { exitCode := 0, out := linesText (explanation second) } := by
  intro text host
  have hread : ((parse? text).map fun c => (c.rules.map fun r => (r.id, r.name), c.validate)) =
      some ([("A", "n"), ("B", "m")], .ok ()) := by decide +kernel
  obtain ⟨c, hparse, hc⟩ := Option.map_eq_some_iff.mp hread
  obtain ⟨hnames, hvalid⟩ := Prod.mk.inj hc
  obtain ⟨first, rest, hrules, hfirst, hrest⟩ := List.map_eq_cons_iff.mp hnames
  obtain ⟨second, none, rfl, hsecond, hnone⟩ := List.map_eq_cons_iff.mp hrest
  obtain rfl := List.map_eq_nil_iff.mp hnone
  obtain ⟨-, hname⟩ := Prod.mk.inj hfirst
  obtain ⟨hid, -⟩ := Prod.mk.inj hsecond
  have hload : loadConfig host.read (some "file") = pure c := load_of_parse? rfl hparse hvalid
  have hnames : ∀ other ∈ [first], Text.asciiEq other.name second.id = false := by
    intro other hother
    obtain rfl := List.mem_singleton.mp hother
    rw [hname, hid]
    decide
  obtain ⟨hiff, hexplain⟩ := (findRule?_own_id c).2 hvalid [first] [] second hrules
  rw [← hid]
  exact ⟨c, first, second, hload, hvalid, hrules, rfl, hiff.mpr hnames,
    hexplain hnames Id host (some "file") hload⟩

/-- The id of the second rule is the name of the first, and finds the first. -/
theorem other_found_by_id :
    let rule (id name : String) : Rule := {
      id := id, name := name, description := "d", helpUri := "h", recommendation := "r",
      severity := .info, category := .general, check := ⟨"p", .present true, none⟩ }
    let c : Config := { rules := [rule "A" "b", rule "B" "n"] }
    c.validate = .ok () ∧ rule "B" "n" ∈ c.rules ∧
      c.findRule? (rule "B" "n").id = some (rule "A" "b") ∧ rule "A" "b" ≠ rule "B" "n" := by
  intro rule c
  have hname : Text.asciiEq "b" "B" = true := by decide
  refine ⟨by decide +kernel, by simp [c], by simp [c, rule, findRule?, hname], ?_⟩
  intro hsame
  exact absurd (congrArg Rule.id hsame) (by decide)

end CommandLine

end TemplateAudit
