import Mathlib.Data.Finset.Card
import Mathlib.Data.List.Induction
import TemplateAudit.Baseline.Session
import TemplateAudit.Proofs.Config

/-!
# Baselines are snapshots

In a session files are written and removed while baselines are opened and asked. Every baseline
answers from one set of ids: those that it was given, or those of its file at the moment when it was
first asked about them. The moment is found in the list of actions alone, and the files at a moment
follow from the writes and removals before it, so that neither later changes nor what is done with
other baselines can matter.
-/

namespace TemplateAudit.Baseline

set_option autoImplicit false

/-! ## Loading -/

/-- A baseline as it is opened, before anything is asked of it. -/
inductive IsNew : Baseline → Prop where
  | file (path : String) : IsNew (ofFile path)
  | rulesDir (dir : String) : IsNew (ofRulesDir dir)
  | given (ids : List String) : IsNew (ofIds ids)
  | empty : IsNew empty

def loaded (files : FileStore) (b : Baseline) : Baseline :=
  Id.run (b.load files.reader)

theorem loaded_loaded (files others : FileStore) (b : Baseline) :
    (b.loaded files).loaded others = b.loaded files := by
  obtain ⟨source, ids⟩ := b
  cases ids with
  | some ids => rfl
  | none => cases source <;> rfl

@[simp] theorem source_loaded (files : FileStore) (b : Baseline) :
    (b.loaded files).source = b.source := by
  obtain ⟨source, ids⟩ := b
  cases ids with
  | some ids => rfl
  | none => cases source <;> rfl

theorem nodup_eraseDups (ids : List String) : ids.eraseDups.Nodup := by
  induction hlength : ids.length using Nat.strong_induction_on generalizing ids with
  | _ length ih =>
    cases ids with
    | nil => simp
    | cons id rest =>
      rw [List.eraseDups_cons, List.nodup_cons]
      have hshorter := List.length_filter_le (fun other => !other == id) rest
      refine ⟨by simp, ih _ ?_ _ rfl⟩
      rw [← hlength, List.length_cons]
      omega

theorem nodup_idsOfFile (outcome : Except FileError String) : (idsOfFile outcome).Nodup := by
  unfold idsOfFile idsOfText
  split
  · split
    · exact List.nodup_nil
    · split
      · exact nodup_eraseDups _
      · exact List.nodup_nil
  · exact List.nodup_nil

/-- A file that cannot be read, is blank or is no baseline stands for no ids. -/
theorem idsOfFile_eq_nil {outcome : Except FileError String}
    (h : ∀ content, outcome = .ok content →
      Text.trim content = "" ∨ (Yaml.Value.read? content).bind listed? = none) :
    idsOfFile outcome = [] := by
  cases outcome with
  | error e => rfl
  | ok content =>
    rw [idsOfFile, idsOfText]
    rcases h content rfl with hblank | hunlisted
    · rw [if_pos ((Text.isBlankText_iff content).mpr hblank)]
    · simp only [hunlisted, ite_self]

theorem IsNew.nodup_known {b : Baseline} (h : b.IsNew) (files : FileStore) :
    b.known.Nodup ∧ (b.loaded files).known.Nodup := by
  cases h with
  | file path => exact ⟨List.nodup_nil, nodup_idsOfFile _⟩
  | rulesDir dir => exact ⟨List.nodup_nil, nodup_idsOfFile _⟩
  | given ids => exact ⟨nodup_eraseDups ids, nodup_eraseDups ids⟩
  | empty => exact ⟨nodup_eraseDups [], nodup_eraseDups []⟩

theorem IsNew.eq_ofFile {b : Baseline} (h : b.IsNew) {path : String} (hsource : b.source = some path) :
    b = ofFile path := by
  cases h with
  | file other => rw [Option.some.inj hsource]
  | rulesDir dir => rw [← Option.some.inj hsource]; rfl
  | given ids => cases hsource
  | empty => cases hsource

/-! ## Actions -/

namespace Action

/-- Whether an action asks a baseline about its ids. -/
def uses (number : Nat) : Action → Bool
  | .contains other _ | .size other | .isEmpty other => other == number
  | _ => false

def answer (ids : Finset String) : Action → Answer
  | .contains _ id => .truth (id ∈ ids)
  | .size _ => .count ids.card
  | .isEmpty _ => .truth (ids = ∅)
  | _ => .done

def change (files : FileStore) : Action → FileStore
  | .write path entry => files.write path entry
  | .remove path => files.remove path
  | _ => files

def opens? : Action → Option Baseline
  | .start baseline => some baseline
  | _ => none

/-- Whether an action changes files, opens a baseline or asks the given one about its ids. -/
def concerns (number : Nat) : Action → Bool
  | .write _ _ | .remove _ | .start _ => true
  | action => action.uses number

def reply (ids : List String) : Action → Answer
  | .contains _ id => .truth (ids.contains id)
  | .size _ => .count ids.length
  | .isEmpty _ => .truth ids.isEmpty
  | _ => .done

theorem reply_eq {ids : List String} (h : ids.Nodup) (action : Action) :
    action.reply ids = action.answer ids.toFinset := by
  cases action with
  | contains number id => simp [reply, answer]
  | size number => simp [reply, answer, List.toFinset_card_of_nodup h]
  | isEmpty number => cases ids <;> simp [reply, answer]
  | _ => rfl

theorem uses_of_opens {action : Action} {b : Baseline} (h : action.opens? = some b) (number : Nat) :
    action.uses number = false := by
  cases action with
  | start baseline => rfl
  | _ => cases h

theorem idle_of_concerns {action : Action} {number : Nat} (h : action.concerns number = false) :
    action.uses number = false ∧ action.opens? = none ∧ ∀ files, action.change files = files := by
  cases action with
  | contains other id => exact ⟨h, rfl, fun _ => rfl⟩
  | size other => exact ⟨h, rfl, fun _ => rfl⟩
  | isEmpty other => exact ⟨h, rfl, fun _ => rfl⟩
  | source other => exact ⟨rfl, rfl, fun _ => rfl⟩
  | _ => cases h

end Action

def filesAfter (files : FileStore) (actions : List Action) : FileStore :=
  actions.foldl Action.change files

/-- The baselines that some actions open, in the order of their numbers. -/
def openings (actions : List Action) : List Baseline :=
  actions.filterMap Action.opens?

/-- Whether the action at a moment asks a baseline, by then open, about its ids. -/
def isUse (actions : List Action) (number moment : Nat) : Bool :=
  actions[moment]?.any (Action.uses number) && number < (openings (actions.take moment)).length

/-- The moment when an open baseline is first asked about its ids. -/
def firstUse? (actions : List Action) (number : Nat) : Option Nat :=
  (List.range actions.length).find? (isUse actions number)

theorem openings_concat (actions : List Action) (action : Action) :
    openings (actions ++ [action]) = openings actions ++ action.opens?.toList := by
  rw [openings, List.filterMap_append]
  cases h : action.opens? <;> simp [openings, h]

theorem openings_of_take (actions : List Action) (moment : Nat) :
    openings (actions.take moment) <+: openings actions := by
  conv_rhs => rw [← List.take_append_drop moment actions]
  rw [openings, openings, List.filterMap_append]
  exact List.prefix_append _ _

theorem firstUse?_eq_some {actions : List Action} {number moment : Nat}
    (h : firstUse? actions number = some moment) :
    moment < actions.length ∧ number < (openings actions).length := by
  obtain ⟨huse, hmoment, -⟩ := List.find?_range_eq_some.mp h
  rw [isUse, Bool.and_eq_true, decide_eq_true_eq] at huse
  exact ⟨List.mem_range.mp hmoment, huse.2.trans_le (openings_of_take actions moment).length_le⟩

theorem firstUse?_concat (actions : List Action) (action : Action) (number : Nat) :
    firstUse? (actions ++ [action]) number = (firstUse? actions number).or
      (if action.uses number ∧ number < (openings actions).length then some actions.length
        else none) := by
  have hearlier : (List.range actions.length).find? (isUse (actions ++ [action]) number) =
      firstUse? actions number := by
    rw [firstUse?, ← List.head?_filter, ← List.head?_filter]
    congr 1
    apply List.filter_congr
    intro moment hmoment
    have hlt := List.mem_range.mp hmoment
    rw [isUse, isUse, List.getElem?_append_left hlt, List.take_append_of_le_length hlt.le]
  have hlast : isUse (actions ++ [action]) number actions.length = true ↔
      action.uses number = true ∧ number < (openings actions).length := by
    simp [isUse]
  rw [firstUse?, List.length_append, List.length_singleton, List.range_succ, List.find?_append,
    hearlier]
  congr 1
  by_cases h : isUse (actions ++ [action]) number actions.length = true
  · rw [if_pos (hlast.mp h), List.find?_cons_of_pos h]
  · rw [if_neg (mt hlast.mpr h), List.find?_cons_of_neg h, List.find?_nil]

theorem exists_firstUse {actions : List Action} {action : Action} {number : Nat}
    (huses : action.uses number = true) (hopen : number < (openings actions).length) :
    ∃ moment, firstUse? (actions ++ [action]) number = some moment := by
  rw [firstUse?_concat, if_pos ⟨huses, hopen⟩]
  cases firstUse? actions number with
  | some moment => exact ⟨moment, rfl⟩
  | none => exact ⟨actions.length, rfl⟩

theorem firstUse?_append {actions : List Action} {number moment : Nat}
    (h : firstUse? actions number = some moment) (later : List Action) :
    firstUse? (actions ++ later) number = some moment := by
  induction later using List.reverseRecOn with
  | nil => rwa [List.append_nil]
  | append_singleton later action ih => rw [← List.append_assoc, firstUse?_concat, ih, Option.some_or]

/-! ## Sessions -/

/-- The baseline of a number as it is after some actions: read at its first use, if there was one. -/
def settled (files : FileStore) (actions : List Action) (number : Nat) (b : Baseline) : Baseline :=
  match firstUse? actions number with
  | some moment => b.loaded (filesAfter files (actions.take moment))
  | none => b

theorem source_settled (files : FileStore) (actions : List Action) (number : Nat) (b : Baseline) :
    (settled files actions number b).source = b.source := by
  unfold settled
  split
  · exact source_loaded _ b
  · rfl

theorem settled_append {actions : List Action} {number moment : Nat}
    (h : firstUse? actions number = some moment) (later : List Action) (files : FileStore)
    (b : Baseline) :
    settled files (actions ++ later) number b = settled files actions number b := by
  have hmoment := (firstUse?_eq_some h).1
  simp only [settled, h, firstUse?_append h, List.take_append_of_le_length hmoment.le]

theorem IsNew.nodup_settled {b : Baseline} (h : b.IsNew) (files : FileStore)
    (actions : List Action) (number : Nat) : (settled files actions number b).known.Nodup := by
  unfold settled
  split
  · exact (h.nodup_known _).2
  · exact (h.nodup_known files).1

/-- One more action reads a baseline that it uses, unless it was read before. -/
theorem settled_concat (files : FileStore) {actions : List Action} (action : Action) {number : Nat}
    (hopen : number < (openings actions).length) (b : Baseline) :
    settled files (actions ++ [action]) number b =
      if action.uses number then (settled files actions number b).loaded (filesAfter files actions)
      else settled files actions number b := by
  cases hfirst : firstUse? actions number with
  | some moment =>
    -- Read before, and reading again changes nothing.
    rw [settled_append hfirst]
    simp only [settled, hfirst, loaded_loaded, ite_self]
  | none =>
    by_cases huses : action.uses number = true
    · simp [settled, firstUse?_concat, hfirst, huses, hopen]
    · simp [settled, firstUse?_concat, hfirst, huses]

theorem settled_opening {actions : List Action} {action : Action} {opening : Baseline}
    (hopens : action.opens? = some opening) {number : Nat}
    (hclosed : (openings actions).length ≤ number) (files : FileStore) (b : Baseline) :
    settled files (actions ++ [action]) number b = b := by
  have hfirst : firstUse? actions number = none := by
    by_contra hne
    obtain ⟨moment, hmoment⟩ := Option.ne_none_iff_exists'.mp hne
    exact Nat.not_lt.mpr hclosed (firstUse?_eq_some hmoment).2
  simp [settled, firstUse?_concat, hfirst, Action.uses_of_opens hopens number]

namespace Session

def after (s : Session) (actions : List Action) : Session :=
  actions.foldl (fun s action => (s.step action).1) s

theorem files_step (s : Session) (action : Action) :
    (s.step action).1.files = action.change s.files := by
  cases action <;> rfl

/-- What one action does to the open baselines: it may open one more, and reads the one it uses. -/
theorem opened_step (s : Session) (action : Action) (number : Nat) :
    (s.step action).1.opened[number]? =
      (s.opened ++ action.opens?.toList)[number]?.map fun b =>
        if action.uses number then b.loaded s.files else b := by
  cases action <;> simp [step, use, Action.opens?, Action.uses, List.getElem?_modify, loaded]

theorem length_step (s : Session) (action : Action) :
    (s.step action).1.opened.length = s.opened.length + action.opens?.toList.length := by
  cases action <;> simp [step, use, Action.opens?]

theorem after_concat (s : Session) (actions : List Action) (action : Action) :
    s.after (actions ++ [action]) = ((s.after actions).step action).1 := by
  simp [after]

theorem files_after (s : Session) (actions : List Action) :
    (s.after actions).files = filesAfter s.files actions := by
  induction actions generalizing s with
  | nil => rfl
  | cons action rest ih =>
    rw [after, List.foldl_cons, ← after, ih, files_step]
    rfl

/-- The answer at a moment is that of the session that the actions before have led to. -/
theorem run_getElem? (s : Session) (actions : List Action) (moment : Nat) :
    (s.run actions)[moment]? =
      actions[moment]?.map fun action => ((s.after (actions.take moment)).step action).2 := by
  induction actions generalizing s moment with
  | nil => simp [run]
  | cons action rest ih =>
    cases moment with
    | zero => simp [run, after]
    | succ moment => simpa [run, after] using ih (s.step action).1 moment

/-- The open baselines are those that were opened, read at their first use. -/
theorem opened_after (files : FileStore) (actions : List Action) :
    (after { files := files } actions).opened = (openings actions).mapIdx (settled files actions) := by
  -- From the end of the list: the first use that `settled` looks for lies in the actions before.
  induction actions using List.reverseRecOn with
  | nil => rfl
  | append_singleton actions action ih =>
    apply List.ext_getElem?
    intro number
    rw [after_concat, opened_step, ih, files_after, List.getElem?_mapIdx, openings_concat]
    by_cases hopen : number < (openings actions).length
    · rw [List.getElem?_append_left hopen, List.getElem?_append_left (by simpa using hopen),
        List.getElem?_mapIdx, Option.map_map]
      congr 1
      funext b
      exact (settled_concat files action hopen b).symm
    · have hclosed : (openings actions).length ≤ number := Nat.le_of_not_lt hopen
      rw [List.getElem?_append_right hclosed, List.getElem?_append_right (by simpa using hclosed),
        List.length_mapIdx]
      cases hopens : action.opens? with
      | none => simp
      | some b =>
        have hsettled : settled files (actions ++ [action]) number = id :=
          funext (settled_opening hopens hclosed files)
        simp [Action.uses_of_opens hopens number, hsettled]

theorem ids_of_opened {s : Session} {number : Nat} {b : Baseline}
    (h : s.opened[number]? = some b) : s.ids number = b.known := by
  simp [ids, h]

/-- A question about ids is answered from the ids that are known after it. -/
theorem reply_step {action : Action} {number : Nat} (huses : action.uses number = true)
    (s : Session) : (s.step action).2 = action.reply ((s.step action).1.ids number) := by
  cases action with
  | contains other id =>
    obtain rfl : other = number := by simpa [Action.uses] using huses
    rfl
  | size other =>
    obtain rfl : other = number := by simpa [Action.uses] using huses
    rfl
  | isEmpty other =>
    obtain rfl : other = number := by simpa [Action.uses] using huses
    rfl
  | _ => cases huses

section Moment
variable {actions : List Action} {number moment : Nat} {b : Baseline}
variable (files : FileStore) (hb : (openings actions)[number]? = some b)
  (hopen : number < (openings (actions.take moment)).length)
include hb hopen

theorem opened_at : (after { files := files } (actions.take moment)).opened[number]? =
    some (settled files (actions.take moment) number b) := by
  obtain ⟨later, hlater⟩ := openings_of_take actions moment
  rw [← hlater, List.getElem?_append_left hopen] at hb
  rw [opened_after, List.getElem?_mapIdx, hb, Option.map_some]

theorem run_of_uses {action : Action} (haction : actions[moment]? = some action)
    (huses : action.uses number = true)
    (hnodup : (settled files actions number b).known.Nodup) :
    (run { files := files } actions)[moment]? =
      some (action.answer (settled files actions number b).known.toFinset) := by
  have htake : actions.take (moment + 1) = actions.take moment ++ [action] := by
    rw [List.take_add_one, haction]
    rfl
  -- With the action itself there is a first use, and later actions do not move it.
  obtain ⟨first, hfirst⟩ := exists_firstUse huses hopen
  have hsettled : settled files (actions.take (moment + 1)) number b =
      settled files actions number b := by
    rw [← htake] at hfirst
    rw [← settled_append hfirst (actions.drop (moment + 1)), List.take_append_drop]
  have hopenAfter : number < (openings (actions.take (moment + 1))).length := by
    rw [htake, openings_concat, List.length_append]
    omega
  have hopened := opened_at files hb hopenAfter
  rw [hsettled, htake, after_concat] at hopened
  rw [run_getElem?, haction, Option.map_some, reply_step huses, ids_of_opened hopened,
    Action.reply_eq hnodup]

theorem run_of_source (haction : actions[moment]? = some (.source number)) :
    (run { files := files } actions)[moment]? = some (.path b.source) := by
  rw [run_getElem?, haction, Option.map_some, step, opened_at files hb hopen, Option.bind_some,
    source_settled]

end Moment

/-! ## Sessions side by side -/

/-- Sessions that a baseline cannot tell apart. -/
structure AgreeOn (number : Nat) (s other : Session) : Prop where
  files : s.files = other.files
  length : s.opened.length = other.opened.length
  same : s.opened[number]? = other.opened[number]?

section AgreeOn
variable {number : Nat} {s other : Session} (h : s.AgreeOn number other)
include h

/-- What is asked of other baselines, or without need of the ids, goes unnoticed. -/
theorem AgreeOn.skip {action : Action} (hidle : action.concerns number = false) :
    (s.step action).1.AgreeOn number other := by
  obtain ⟨huses, hopens, hchange⟩ := Action.idle_of_concerns hidle
  constructor
  · rw [files_step, hchange, h.files]
  · rw [length_step, hopens, ← h.length]
    rfl
  · rw [opened_step, huses, hopens, ← h.same]
    simp

theorem AgreeOn.step (action : Action) :
    (s.step action).1.AgreeOn number (other.step action).1 := by
  constructor
  · rw [files_step, files_step, h.files]
  · rw [length_step, length_step, h.length]
  · rw [opened_step, opened_step, List.getElem?_append, List.getElem?_append, h.files, h.length,
      h.same]

theorem AgreeOn.answer {action : Action} (huses : action.uses number = true) :
    (s.step action).2 = (other.step action).2 := by
  rw [reply_step huses, reply_step huses, ids, ids, (h.step action).same]

end AgreeOn

def asked (s : Session) (number : Nat) (actions : List Action) : List (Action × Answer) :=
  (actions.zip (s.run actions)).filter fun entry => entry.1.uses number

theorem asked_cons (s : Session) (number : Nat) (action : Action) (rest : List Action) :
    s.asked number (action :: rest) =
      (if action.uses number then [(action, (s.step action).2)] else []) ++
        (s.step action).1.asked number rest := by
  by_cases huses : action.uses number = true
  · simp [asked, run, huses]
  · simp [asked, run, huses]

theorem asked_filter {number : Nat} {s other : Session} (h : s.AgreeOn number other)
    (actions : List Action) :
    s.asked number actions = other.asked number (actions.filter (Action.concerns number)) := by
  induction actions generalizing s other with
  | nil => rfl
  | cons action rest ih =>
    rw [asked_cons]
    by_cases hconcerns : action.concerns number = true
    · rw [List.filter_cons_of_pos hconcerns, asked_cons, ih (h.step action)]
      by_cases huses : action.uses number = true
      · rw [if_pos huses, if_pos huses, h.answer huses]
      · rw [if_neg huses, if_neg huses]
    · have hidle : action.concerns number = false := by simpa using hconcerns
      have huses := (Action.idle_of_concerns hidle).1
      rw [List.filter_cons_of_neg hconcerns, ih (h.skip hidle), huses]
      rfl

end Session

/-! ## The snapshot -/

/-- Every baseline is a snapshot taken when it is first used. In any run there is one set of ids that
it answers from: the ids of its file, as the file is at the first question about them, or those it
was given; what it is read from can be told at any time. The answers stay the same when everything
that is asked of other baselines, and of sources, is left out of the run. A baseline that was given
its ids never reads a file, and a file that cannot be read, is blank or is no baseline stands for no
ids. -/
theorem answers_from_snapshot (files : FileStore) (actions : List Action) :
    (∀ number b, (openings actions)[number]? = some b → b.IsNew → ∃ ids : Finset String,
      (∀ path moment, b.source = some path → firstUse? actions number = some moment →
        ids = (idsOfFile ((filesAfter files (actions.take moment)).read path)).toFinset) ∧
      (∀ given, b = ofIds given → ids = given.toFinset) ∧
      ∀ moment action, actions[moment]? = some action →
        number < (openings (actions.take moment)).length →
        (action.uses number = true →
          (Session.run { files := files } actions)[moment]? = some (action.answer ids)) ∧
        (action = .source number →
          (Session.run { files := files } actions)[moment]? = some (.path b.source))) ∧
    (∀ number, Session.asked { files := files } number actions =
      Session.asked { files := files } number (actions.filter (Action.concerns number))) ∧
    (∀ (m : Type → Type) [Monad m] (read : FileReader m) (given : List String),
      (ofIds given).load read = pure (ofIds given)) ∧
    ∀ outcome : Except FileError String, (∀ content, outcome = .ok content →
      Text.trim content = "" ∨ (Yaml.Value.read? content).bind listed? = none) →
        idsOfFile outcome = [] := by
  refine ⟨?_, ?_, fun m _ read given => rfl, fun outcome => idsOfFile_eq_nil⟩
  · intro number b hb hnew
    refine ⟨(settled files actions number b).known.toFinset, ?_, ?_, ?_⟩
    · intro path moment hsource hmoment
      obtain rfl := hnew.eq_ofFile hsource
      simp only [settled, hmoment]
      rfl
    · rintro given rfl
      have hgiven : settled files actions number (ofIds given) = ofIds given := by
        unfold settled
        split <;> rfl
      rw [hgiven]
      ext id
      simp [known, ofIds, List.mem_eraseDups]
    · intro moment action haction hopen
      constructor
      · intro huses
        exact Session.run_of_uses files hb hopen haction huses
          (hnew.nodup_settled files actions number)
      · rintro rfl
        exact Session.run_of_source files hb hopen haction
  · intro number
    exact Session.asked_filter ⟨rfl, rfl, rfl⟩ actions

/-- The file changes after the baseline was opened and asked for its source, and again, until it is
gone, after the first question about its ids. -/
theorem answers_from_snapshot_changed_file :
    let actions : List Action := [.write "b" (.text "- A"), .start (.ofFile "b"),
      .start (.ofIds ["Z"]), .source 0, .contains 1 "A", .write "b" (.text "- B"), .contains 0 "A",
      .write "b" (.text "- C"), .remove "b", .contains 0 "B", .size 0]
    let answers := Session.run {} actions
    (openings actions)[0]? = some (.ofFile "b") ∧ firstUse? actions 0 = some 6 ∧
      answers[3]? = some (.path (some "b")) ∧ answers[6]? = some (.truth false) ∧
      answers[9]? = some (.truth true) ∧ answers[10]? = some (.count 1) := by
  intro actions answers
  have hopened : (openings actions)[0]? = some (.ofFile "b") := rfl
  have hmoment : firstUse? actions 0 = some 6 := by decide +kernel
  obtain ⟨hsnapshot, -⟩ := answers_from_snapshot .empty actions
  obtain ⟨ids, hfile, -, hanswers⟩ := hsnapshot 0 (.ofFile "b") hopened (.file "b")
  have hread : (filesAfter .empty (actions.take 6)).read "b" = .ok "- B" := by decide +kernel
  have hids : ids = {"B"} := by
    rw [hfile "b" 6 rfl hmoment, hread,
      show idsOfFile (.ok "- B") = ["B"] by decide +kernel]
    rfl
  subst hids
  refine ⟨hopened, hmoment, ?_, ?_, ?_, ?_⟩
  · exact (hanswers 3 (.source 0) rfl (by decide)).2 rfl
  · exact (hanswers 6 (.contains 0 "A") rfl (by decide)).1 rfl
  · exact (hanswers 9 (.contains 0 "B") rfl (by decide)).1 rfl
  · exact (hanswers 10 (.size 0) rfl (by decide)).1 rfl

end TemplateAudit.Baseline
