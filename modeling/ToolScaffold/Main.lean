import ToolScaffold.Disk.Archive
import ToolScaffold.Program

/-!
# The program on a real machine

The disk, the input and the outputs of the machine that the program runs on.
-/

namespace ToolScaffold.Machine

/-- The code of a place on the way that is not a directory; some operations give it negated. -/
def isNotADirectory (code : UInt32) : Bool := code = 20 || code = 0 - 20

def faultOf (e : IO.Error) : DiskFault :=
  match e with
  | .noFileOrDirectory .. => .notFound
  | .alreadyExists .. => .alreadyExists
  | .inappropriateType _ code _ => if isNotADirectory code then .notADirectory else .isADirectory
  | e => .other e.toString

/-- An operation whose errors are faults. -/
def attempt {α : Type} (operation : IO α) : IO (Except DiskFault α) := do
  try
    return .ok (← operation)
  catch e =>
    return .error (faultOf e)

/-- A text out of bytes. -/
def textOf (bytes : ByteArray) : Except DiskFault String :=
  match String.fromUTF8? bytes with
  | some s => .ok s
  | none => .error .notText

/-- What stands at a path, told by what comes of reading it. -/
def kind? (p : Path) : IO (Option Kind) := do
  match ← attempt (IO.FS.readBinFile p.text) with
  | .ok _ => return some .file
  | .error .isADirectory => return some .directory
  | .error (.other _) => return some .file
  | .error _ => return none

def disk : Disk IO where
  kind?
  readText p := do
    match ← attempt (IO.FS.readBinFile p.text) with
    | .ok bytes => return textOf bytes
    | .error fault => return .error fault
  makeDirectory p := attempt (IO.FS.createDir p.text)
  writeText p s := attempt (IO.FS.writeFile p.text s)
  writeArchive p entries :=
    attempt (IO.FS.writeBinFile p.text (ByteArray.mk (Archive.encode entries).toArray))

/-- All bytes that are left of the input. -/
partial def readRest (stream : IO.FS.Stream) (read : ByteArray) : IO ByteArray := do
  let more ← stream.read 65536
  if more.isEmpty then return read
  readRest stream (read ++ more)

/-- The machine, with notes shown down to a level. -/
def host (limit : Level) : Host IO where
  disk
  readInput := do return textOf (← readRest (← IO.getStdin) ByteArray.empty)
  print line := IO.println line
  note n := if n.isShown limit then IO.eprint n.line else pure ()

end ToolScaffold.Machine

open ToolScaffold in
def main (words : List String) : IO UInt32 := do
  match CommandLine.read words with
  | .error e =>
    let answer := e.answer
    if answer.isError then IO.eprint answer.text else IO.print answer.text
    return answer.exit.toUInt32
  | .ok invocation =>
    let host := Machine.host (.ofCount invocation.verbose)
    match ← (Command.run host invocation.command).run with
    | .ok () => return 0
    | .error e =>
      IO.eprintln e.message
      return 1
