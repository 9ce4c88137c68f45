import TemplateAudit.Baseline.Basic

/-!
# Sessions with baselines

Files change while baselines are open. A session is the files and the open baselines; every action
on it has an answer.
-/

namespace TemplateAudit.Baseline

set_option autoImplicit false

/-- The files and the baselines opened so far, each known by its number. -/
structure Session where
  files : FileStore := .empty
  opened : List Baseline := []

inductive Action where
  | write (path : String) (entry : FileEntry)
  | remove (path : String)
  | start (baseline : Baseline)
  | contains (number : Nat) (id : String)
  | size (number : Nat)
  | isEmpty (number : Nat)
  | source (number : Nat)

inductive Answer where
  | done
  | truth (value : Bool)
  | count (value : Nat)
  | path (value : Option String)
deriving DecidableEq

namespace Session

/-- Reads the ids of an open baseline unless they are known. -/
def use (s : Session) (number : Nat) : Session :=
  { s with opened := s.opened.modify number fun b => Id.run (b.load s.files.reader) }

def ids (s : Session) (number : Nat) : List String :=
  (s.opened[number]?.map Baseline.known).getD []

def step (s : Session) : Action → Session × Answer
  | .write path entry => ({ s with files := s.files.write path entry }, .done)
  | .remove path => ({ s with files := s.files.remove path }, .done)
  | .start baseline => ({ s with opened := s.opened ++ [baseline] }, .done)
  | .contains number id =>
    let used := s.use number
    (used, .truth ((used.ids number).contains id))
  | .size number =>
    let used := s.use number
    (used, .count (used.ids number).length)
  | .isEmpty number =>
    let used := s.use number
    (used, .truth (used.ids number).isEmpty)
  | .source number => (s, .path (s.opened[number]?.bind Baseline.source))

def run : Session → List Action → List Answer
  | _, [] => []
  | s, action :: rest =>
    let (next, answer) := s.step action
    answer :: run next rest

end Session

end TemplateAudit.Baseline
