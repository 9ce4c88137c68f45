import TemplateAudit.Error

/-!
# Files

A file store is a directory held as a value: its files and directories by their path from the
store's root. Reading follows a path step by step, so that `a/../b` needs a directory `a`. Above the
store there are directories of which nothing else is known.
-/

namespace TemplateAudit

set_option autoImplicit false

/-- A path with another one put under it, unless that one starts at the root. -/
def joinPath (base path : String) : String :=
  if path.startsWith "/" then path
  else if base.isEmpty then path
  else if base.endsWith "/" then base ++ path
  else base ++ "/" ++ path

inductive FileEntry where
  | text (content : String)
  /-- A file that is not UTF-8. -/
  | binary
  | directory
deriving DecidableEq

/-- Files and directories by their names from the root; every directory on the way to an entry is
there as well. -/
structure FileStore where
  entries : List (List String × FileEntry)

namespace FileStore

def empty : FileStore := ⟨[]⟩

/-- The octets that a path may have, its end included. -/
def pathLimit : Nat := 4096

def nameLimit : Nat := 255

/-- The names of a path without those that stand for the directory itself. -/
def names (path : String) : List String :=
  ((path.toList.splitOnP (· == '/')).map String.ofList).filter fun name => name ≠ "" && name ≠ "."

def entry? (store : FileStore) (names : List String) : Option FileEntry :=
  if names.all (· == "..") then some .directory
  else match store.entries.find? fun e => e.1 == names with
    | some e => some e.2
    | none =>
      if store.entries.any fun e => names.isPrefixOf e.1 then some .directory else none

/-- The names of the directory around the one with these names. -/
def parent (names : List String) : List String :=
  if names.all (· == "..") then names ++ [".."] else names.dropLast

def walk (store : FileStore) : List String → List String → Except FileError FileEntry
  | here, [] => match store.entry? here with
    | some entry => .ok entry
    | none => .error .notFound
  | here, name :: rest =>
    match store.entry? here with
    | some .directory =>
      if name = ".." then walk store (parent here) rest
      else if nameLimit < name.utf8ByteSize then .error .nameTooLong
      else walk store (here ++ [name]) rest
    | some _ => .error .notADirectory
    | none => .error .notFound

/-- Follows names from the root of all files, which is its own parent and holds nothing. -/
def walkFromTop (names : List String) : Except FileError FileEntry :=
  match names.dropWhile (· == "..") with
  | [] => .ok .directory
  | name :: _ => .error (if nameLimit < name.utf8ByteSize then .nameTooLong else .notFound)

/-- The entry that a path leads to; a path that ends with a slash must lead to a directory. -/
def lookup (store : FileStore) (path : String) : Except FileError FileEntry :=
  if path.toList.contains (Char.ofNat 0) then .error .nameCut
  else if path.isEmpty then .error .notFound
  else if pathLimit ≤ path.utf8ByteSize then .error .nameTooLong
  else if path.startsWith "/" then walkFromTop (names path)
  else match store.walk [] (names path) with
    | .ok .directory => .ok .directory
    | .ok entry =>
      if path.endsWith "/" || path.endsWith "/." then .error .notADirectory else .ok entry
    | .error e => .error e

def read (store : FileStore) (path : String) : Except FileError String :=
  match store.lookup path with
  | .ok (.text content) => .ok content
  | .ok .binary => .error .notText
  | .ok .directory => .error .isDirectory
  | .error e => .error e

def pathExists (store : FileStore) (path : String) : Bool :=
  match store.lookup path with
  | .ok _ => true
  | .error _ => false

/-- The names that a path leads to when all directories on the way are there. -/
def place (path : String) : List String :=
  (names path).foldl (fun here name => if name = ".." then parent here else here ++ [name]) []

def remove (store : FileStore) (path : String) : FileStore :=
  ⟨store.entries.filter fun e => e.1 ≠ place path⟩

/-- Puts an entry at a path; the directories on the way need not be there. -/
def write (store : FileStore) (path : String) (entry : FileEntry) : FileStore :=
  ⟨(place path, entry) :: (store.remove path).entries⟩

end FileStore

end TemplateAudit
