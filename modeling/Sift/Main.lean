/-
  Sift.Main — runs the command on the files and the clock of the machine.
-/

import Sift.Command
import Std.Time.DateTime.Timestamp

open Sift

/-- Why a file could not be read. -/
def readFailure : IO.Error → String
  | .noFileOrDirectory .. => "No such file or directory (os error 2)"
  | .permissionDenied .. => "Permission denied (os error 13)"
  | .inappropriateType .. => "Is a directory (os error 21)"
  | error => toString error

def readInput (path : String) : IO (Except String String) := do
  try
    let bytes ← IO.FS.readBinFile path
    match String.fromUTF8? bytes with
    | some text => return .ok text
    | none => return .error "stream did not contain valid UTF-8"
  catch error => return .error (readFailure error)

def readClock : IO Instant := do
  let now ← Std.Time.Timestamp.now
  let millis := now.toMillisecondsSinceUnixEpoch.val
  return ⟨millis / 1000, (millis % 1000).toNat⟩

def main (arguments : List String) : IO UInt32 := do
  let inputs ← arguments.mapM fun path => do return (path, ← readInput path)
  let files := fun path => (inputs.lookup path).getD (.error "")
  let report := Command.run files (← readClock) arguments
  for line in report.lines do
    IO.println line
  match report.failure with
  | none => return 0
  | some failure =>
    IO.eprintln failure
    return 1
