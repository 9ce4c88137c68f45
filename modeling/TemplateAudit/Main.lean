import Std.Time.DateTime.Timestamp
import TemplateAudit.CommandLine.Run

/-!
# The program

Connects the command line to files, standard output and the clock.
-/

namespace TemplateAudit

set_option autoImplicit false

/-- What a code of the operating system, which may come with its sign changed, says about a file. -/
def systemError (code : UInt32) (text : String) : FileError :=
  match code.toInt32.toInt.natAbs with
  | 2 => .notFound
  | 13 => .denied
  | 20 => .notADirectory
  | 21 => .isDirectory
  | 36 => .nameTooLong
  | 40 => .tooManyLinks
  | n => .other n text

def fileError (e : IO.Error) : FileError :=
  match e with
  | .noFileOrDirectory _ code text | .inappropriateType _ code text | .invalidArgument _ code text
  | .permissionDenied _ code text | .resourceExhausted _ code text | .noSuchThing _ code text
  | .interrupted _ code text | .alreadyExists _ code text | .otherError code text
  | .resourceBusy code text | .resourceVanished code text | .unsupportedOperation code text
  | .hardwareFault code text | .unsatisfiedConstraints code text | .illegalOperation code text
  | .protocolError code text | .timeExpired code text => systemError code text
  | .unexpectedEof | .userError _ => .other 0 e.toString

def readText : FileReader IO := fun path => do
  if path.toList.contains (Char.ofNat 0) then return .error .nameCut
  try
    let bytes ← IO.FS.readBinFile path
    match String.fromUTF8? bytes with
    | some text => return .ok text
    | none => return .error .notText
  catch e => return .error (fileError e)

/-- The time that a number of nanoseconds after 1970 stands for. -/
def timestampOf (nanoseconds : Int) : Timestamp :=
  let seconds := nanoseconds.fdiv 1000000000
  ⟨seconds.fdiv 86400, (seconds.fmod 86400).toNat, (nanoseconds.fmod 1000000000).toNat⟩

def machine : IO (CommandLine.Host IO) := do
  return {
    read := readText
    home := (← IO.appDir).toString
    now := do return timestampOf (← Std.Time.Timestamp.now).toNanosecondsSinceUnixEpoch.toInt
    clock := IO.monoMsNow }

end TemplateAudit

def main (words : List String) : IO UInt32 := do
  let output ← TemplateAudit.CommandLine.run (← TemplateAudit.machine) words
  IO.print output.out
  IO.eprint output.err
  return UInt32.ofNat output.exitCode
