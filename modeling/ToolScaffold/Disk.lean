import ToolScaffold.Path

/-!
# Disks

What a program asks of the disk, and what can go wrong. Directories are made with all those above
them that are missing.
-/

namespace ToolScaffold

inductive DiskFault where
  | notFound
  | alreadyExists
  | notADirectory
  | isADirectory
  | nameTooLong
  | badName
  | notText
  | denied
  | noSpace
  /-- Any other fault, in the words of the system. -/
  | other (message : String)
  /-- An archive could not be put together, for this reason. -/
  | unfinished (reason : String)
  deriving DecidableEq, Repr

def DiskFault.message : DiskFault → String
  | notFound => "No such file or directory (os error 2)"
  | alreadyExists => "File exists (os error 17)"
  | notADirectory => "Not a directory (os error 20)"
  | isADirectory => "Is a directory (os error 21)"
  | nameTooLong => "File name too long (os error 36)"
  | badName => "file name contained an unexpected NUL byte"
  | notText => "stream did not contain valid UTF-8"
  | denied => "Permission denied (os error 13)"
  | noSpace => "No space left on device (os error 28)"
  | other message => message
  | unfinished reason => reason

inductive Kind where
  | file
  | directory
  deriving DecidableEq, Repr

/-- A disk, whose operations are effects of `m`. -/
structure Disk (m : Type → Type) where
  /-- What stands at the path, if anything does. -/
  kind? : Path → m (Option Kind)
  readText : Path → m (Except DiskFault String)
  makeDirectory : Path → m (Except DiskFault Unit)
  /-- Writes a file, over the one that is there. -/
  writeText : Path → String → m (Except DiskFault Unit)
  /-- Writes an archive of named texts, over the file that is there. -/
  writeArchive : Path → List (String × String) → m (Except DiskFault Unit)

namespace Disk

variable {m : Type → Type} [Monad m]

def isThere (disk : Disk m) (p : Path) : m Bool := do return (← disk.kind? p).isSome

def isFile (disk : Disk m) (p : Path) : m Bool := do return (← disk.kind? p) = some .file

def isDirectory (disk : Disk m) (p : Path) : m Bool := do
  return (← disk.kind? p) = some .directory

/-- The first of the names that is a file in the directory. -/
def firstFile (disk : Disk m) (directory : Path) : List String → m (Option Path)
  | [] => return none
  | name :: rest => do
    if ← disk.isFile (directory.join name) then return some (directory.join name)
    else disk.firstFile directory rest

/-- Makes a directory; one that is there already will do. -/
def ensureDirectory (disk : Disk m) (p : Path) : m (Except DiskFault Unit) := do
  match ← disk.makeDirectory p with
  | .error .alreadyExists =>
    return if ← disk.isDirectory p then .ok () else .error .alreadyExists
  | result => return result

/-- Makes directories one after the other. -/
def ensureAll (disk : Disk m) : List Path → m (Except DiskFault Unit)
  | [] => return .ok ()
  | p :: rest => do
    match ← disk.ensureDirectory p with
    | .ok () => disk.ensureAll rest
    | .error fault => return .error fault

/-- Makes the first of the directories, which lie in each other, from the inside out: looks for the
first that can be made, and then makes `missing`, which lie in it. -/
def ensureNested (disk : Disk m) : List Path → (missing : List Path) → m (Except DiskFault Unit)
  | [], missing => disk.ensureAll missing
  | p :: outer, missing => do
    match ← disk.ensureDirectory p with
    | .ok () => disk.ensureAll missing
    | .error .notFound => disk.ensureNested outer (p :: missing)
    | .error fault => return .error fault

/-- Makes a directory and all those above it that are missing. -/
def makeDirectories (disk : Disk m) (p : Path) : m (Except DiskFault Unit) :=
  disk.ensureNested p.ancestors []

/-- Makes the directories above a path. -/
def makeParents (disk : Disk m) (p : Path) : m (Except DiskFault Unit) :=
  disk.ensureNested p.above []

end Disk

end ToolScaffold
