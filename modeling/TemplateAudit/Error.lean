/-!
# Errors

Every way in which loading, configuring or auditing can fail, its kind and its wording. A message
ends where the explanation of a malformed text would begin.
-/

namespace TemplateAudit

set_option autoImplicit false

inductive FileError where
  | notFound
  | isDirectory
  | notADirectory
  /-- The path, or a name on it, has more octets than the system allows. -/
  | nameTooLong
  /-- The path holds the character that ends a path. -/
  | nameCut
  | tooManyLinks
  | denied
  | notText
  /-- What else the system reports, by its code and in its words. -/
  | other (code : Nat) (text : String)
deriving DecidableEq

/-- Whether there is something at the path although its text could not be read. -/
def FileError.isPresent : FileError → Bool
  | .isDirectory | .denied | .notText | .other _ _ => true
  | .notFound | .notADirectory | .nameTooLong | .nameCut | .tooManyLinks => false

def FileError.message : FileError → String
  | .notFound => "No such file or directory (os error 2)"
  | .isDirectory => "Is a directory (os error 21)"
  | .notADirectory => "Not a directory (os error 20)"
  | .nameTooLong => "File name too long (os error 36)"
  | .nameCut => "file name contained an unexpected NUL byte"
  | .tooManyLinks => "Too many levels of symbolic links (os error 40)"
  | .denied => "Permission denied (os error 13)"
  | .notText => "stream did not contain valid UTF-8"
  | .other code text => text ++ " (os error " ++ toString code ++ ")"

inductive ErrorKind where
  | argument
  | configuration
  | file
  | engine
  | report
deriving DecidableEq

inductive Error where
  | identifierMissing
  | templateMissing (identifier : String)
  | sourceMapMissing (identifier : String)
  | entrypointMissing (entrypoint : String)
  | sourceMapUnreadable
  | templateUnreadable (path : String)
  | versionUnsupported (version : String)
  | ruleRepeated (id : String)
  | fieldBlank (id field : String)
  | patternInvalid (id : String)
  | configUnreadable
  | configFileMissing (path : String) (cause : FileError)
  | configFileUnreadable (path : String)
  | fileUnreadable (cause : FileError)
  | ruleFailed (id detail : String)
  | reportFailed (detail : String)
deriving DecidableEq

namespace Error

def kind : Error → ErrorKind
  | .identifierMissing | .templateMissing _ | .sourceMapMissing _ | .entrypointMissing _
  | .sourceMapUnreadable | .templateUnreadable _ => .argument
  | .versionUnsupported _ | .ruleRepeated _ | .fieldBlank _ _ | .patternInvalid _
  | .configUnreadable | .configFileMissing _ _ | .configFileUnreadable _ => .configuration
  | .fileUnreadable _ => .file
  | .ruleFailed _ _ => .engine
  | .reportFailed _ => .report

/-- What went wrong, without the words for its kind. -/
def detail : Error → String
  | .identifierMissing => "template context is missing a template identifier"
  | .templateMissing identifier => "template context '" ++ identifier ++ "' has no expanded template"
  | .sourceMapMissing identifier => "template context '" ++ identifier ++ "' has no source map"
  | .entrypointMissing entrypoint => "source map has no entry for entrypoint '" ++ entrypoint ++ "'"
  | .sourceMapUnreadable => "Failed to parse source map"
  | .templateUnreadable path => "'" ++ path ++ "' is not a valid JSON template"
  | .versionUnsupported version =>
    "Unsupported configuration version: " ++ version ++ ". Supported versions: 1.0"
  | .ruleRepeated id => "Duplicate rule ID '" ++ id ++ "'"
  | .fieldBlank id field => "Rule '" ++ id ++ "' has an empty '" ++ field ++ "'"
  | .patternInvalid id => "Invalid regex pattern in rule '" ++ id ++ "'"
  | .configUnreadable => "Failed to parse config"
  | .configFileMissing path cause =>
    "Failed to read config file '" ++ path ++ "': " ++ cause.message
  | .configFileUnreadable path => "Failed to parse config file '" ++ path ++ "'"
  | .fileUnreadable cause => cause.message
  | .ruleFailed _ detail => detail
  | .reportFailed detail => detail

def message (e : Error) : String :=
  match e with
  | .ruleFailed id detail => "Rule '" ++ id ++ "' failed to execute: " ++ detail
  | _ =>
    (match e.kind with
      | .argument => "Invalid argument: "
      | .configuration => "Configuration error: "
      | .file => "IO error: "
      | .engine => ""
      | .report => "Report error: ") ++ e.detail

/-- Whether the caller's input was at fault. -/
def isArgumentError (e : Error) : Bool :=
  e.kind == .argument

end Error

end TemplateAudit
