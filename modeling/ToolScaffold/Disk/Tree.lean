import ToolScaffold.Disk

/-!
# Trees of files

A disk as a value: what stands at each place, and the place of the working directory. A place is the
list of the names on the way to it from the top. Paths are followed name by name, and every place on
the way has to be a directory. A file can stand at several places, and what is written to it at one
of them it holds at all of them.

What the disk does not allow, and where it gives up, are its `Limits`.
-/

namespace ToolScaffold

/-- What a file holds: a text, other bytes, or an archive of named texts. -/
inductive Content where
  | text (s : String)
  | bytes (bs : List UInt8)
  | archive (entries : List (String × String))
  deriving DecidableEq, Repr

/-- What a file of bytes holds: a text, if they are one. -/
def Content.ofBytes (bs : List UInt8) : Content :=
  match String.fromUTF8? (ByteArray.mk bs.toArray) with
  | some s => .text s
  | none => .bytes bs

/-- The content read as a text. -/
def Content.read : Content → Except DiskFault String
  | text s => .ok s
  | _ => .error .notText

/-- What is found at a place. -/
inductive Entry where
  | directory
  | file (content : Content)
  deriving DecidableEq, Repr

def Entry.kind : Entry → Kind
  | directory => .directory
  | file _ => .file

/-- What stands at a place. Places with the same number are names of one file. -/
inductive Tree.Node where
  | directory
  | file (number : Nat) (content : Content)
  deriving DecidableEq, Repr

namespace Tree.Node

def entry : Node → Entry
  | directory => .directory
  | file _ content => .file content

def number? : Node → Option Nat
  | directory => none
  | file number _ => some number

/-- What the node is once the file of that number holds something else. -/
def rewritten (number : Nat) (content : Content) : Node → Node
  | directory => directory
  | file k old => if k = number then file k content else file k old

end Tree.Node

abbrev Place := List String

/-! ## Limits -/

/-- What a program does with a place. -/
inductive Demand where
  /-- It follows a path through the directory. -/
  | pass
  /-- It asks what stands there. -/
  | ask
  | read
  /-- It puts something there, where nothing was. -/
  | add
  /-- It writes over the file that is there. -/
  | change
  deriving DecidableEq, Repr

/-- What a disk does not allow, be it for want of a permission or for a defect, and what it has no
room for. -/
structure Limits where
  /-- Why the demand is refused, if it is. -/
  refusal : Demand → Place → Option DiskFault
  /-- What a file holds if the content cannot be written to it as a whole, and why. -/
  stop : Path → Content → Option (Content × DiskFault)

namespace Limits

/-- No limits. -/
def none : Limits := ⟨fun _ _ => .none, fun _ _ => .none⟩

def allow (limits : Limits) (demand : Demand) (place : Place) : Except DiskFault Unit :=
  match limits.refusal demand place with
  | some fault => .error fault
  | .none => .ok ()

end Limits

/-- A tree of files. The top is always a directory and is not listed. -/
structure Tree where
  nodes : List (Place × Tree.Node)
  /-- The working directory. -/
  here : Place

namespace Tree

def node? (t : Tree) (place : Place) : Option Node :=
  if place = [] then some .directory
  else (t.nodes.find? fun e => e.1 = place).map Prod.snd

def entry? (t : Tree) (place : Place) : Option Entry := (t.node? place).map Node.entry

/-- The number of the file at a place. -/
def number? (t : Tree) (place : Place) : Option Nat := (t.node? place).bind Node.number?

def put (t : Tree) (place : Place) (node : Node) : Tree :=
  { t with nodes := (place, node) :: t.nodes.filter fun e => e.1 ≠ place }

/-- A number that no file has. -/
def fresh (t : Tree) : Nat :=
  t.nodes.foldr (fun e n => max n ((e.2.number?.map (· + 1)).getD 0)) 0

/-- The tree in which the file of that number holds something else, wherever it stands. -/
def rewrite (t : Tree) (number : Nat) (content : Content) : Tree :=
  { t with nodes := t.nodes.map fun e => (e.1, e.2.rewritten number content) }

/-! ## Ways -/

/-- The most bytes that a name has. -/
def maxName : Nat := 255

/-- A path has fewer bytes. -/
def maxPath : Nat := 4096

/-- Where a step leads from a directory. Nothing need be there. -/
def follow (place : Place) (name : String) : Place :=
  if name = "" ∨ name = "." then place
  else if name = ".." then place.dropLast
  else place ++ [name]

/-- Takes one step from a directory, which has to be passable but for an empty step. -/
def step (limits : Limits) (place : Place) (name : String) : Except DiskFault Place :=
  if name = "" then .ok place
  else do
    limits.allow .pass place
    if maxName < name.utf8ByteSize then .error .nameTooLong else .ok (follow place name)

/-- Follows the steps from a place; the place before every step has to be a directory. -/
def walk (t : Tree) (limits : Limits) (place : Place) : List String → Except DiskFault Place
  | [] => .ok place
  | name :: rest =>
    match t.entry? place with
    | none => .error .notFound
    | some (.file _) => .error .notADirectory
    | some .directory => do t.walk limits (← step limits place name) rest

/-- Where a path starts. -/
def start (t : Tree) (p : Path) : Place := if p.isAbsolute then [] else t.here

/-- The place that a path leads to. -/
def find (t : Tree) (p : Path) (limits : Limits := .none) : Except DiskFault Place :=
  if p.text.toList.contains '\x00' then .error .badName
  else if p.text = "" then .error .notFound
  else if maxPath ≤ p.text.utf8ByteSize then .error .nameTooLong
  else t.walk limits (t.start p) p.steps

/-- What stands at the end of a path. -/
def lookup (t : Tree) (p : Path) (limits : Limits := .none) : Except DiskFault Entry := do
  let place ← t.find p limits
  match t.entry? place with
  | some entry =>
    limits.allow .ask place
    return entry
  | none => throw .notFound

/-! ## Operations -/

def readText (t : Tree) (p : Path) (limits : Limits := .none) : Except DiskFault String := do
  let place ← t.find p limits
  match t.entry? place with
  | none => throw .notFound
  | some entry =>
    limits.allow .read place
    match entry with
    | .directory => throw .isADirectory
    | .file content => content.read

def makeDirectory (t : Tree) (p : Path) (limits : Limits) : Except DiskFault Tree := do
  let place ← t.find p limits
  match t.node? place with
  | some _ => throw .alreadyExists
  | none =>
    limits.allow .add place
    return t.put place .directory

/-- A file that is open for writing: one that was there, or a new one at a place. -/
inductive Handle where
  | old (number : Nat)
  | new (place : Place)

def openFile (t : Tree) (p : Path) (limits : Limits := .none) : Except DiskFault Handle := do
  let place ← t.find p limits
  match t.node? place with
  | some .directory => throw .isADirectory
  | some (.file number _) =>
    limits.allow .change place
    return .old number
  | none =>
    limits.allow .add place
    return .new place

/-- The tree in which an open file holds this and nothing else. -/
def fill (t : Tree) (content : Content) : Handle → Tree
  | .old number => t.rewrite number content
  | .new place => t.put place (.file t.fresh content)

/-- Writes a file, over the one that is there. -/
def write (t : Tree) (p : Path) (content : Content) : Except DiskFault Tree := do
  return t.fill content (← t.openFile p)

/-- Takes away what stands at a path, with all that is in it. -/
def remove (t : Tree) (p : Path) : Tree :=
  match t.find p with
  | .ok place => { t with nodes := t.nodes.filter fun e => !place.isPrefixOf e.1 }
  | .error _ => t

/-- A change that may be refused; the tree stays as it is then. -/
def settle (t : Tree) : Except DiskFault Tree → Except DiskFault Unit × Tree
  | .ok changed => (.ok (), changed)
  | .error fault => (.error fault, t)

/-- Writes a file within limits. What was in it is gone as soon as it is open, so that
something else is left in it if the disk then gives up. -/
def save (t : Tree) (p : Path) (content : Content) (limits : Limits) :
    Except DiskFault Unit × Tree :=
  match t.openFile p limits with
  | .error fault => (.error fault, t)
  | .ok handle =>
    match limits.stop p content with
    | none => (.ok (), t.fill content handle)
    | some (left, fault) => (.error fault, t.fill left handle)

/-- Runs an operation on the tree in a state. -/
def change {σ : Type} (set : σ → Tree → σ)
    (f : σ → Except DiskFault Unit × Tree) : StateM σ (Except DiskFault Unit) := do
  let s ← MonadState.get
  let (result, t) := f s
  MonadState.set (set s t)
  return result

/-- A tree in a state as a disk. -/
def disk {σ : Type} (get : σ → Tree) (set : σ → Tree → σ)
    (limits : σ → Limits := fun _ => .none) : Disk (StateM σ) where
  kind? p := do
    let s ← MonadState.get
    match (get s).lookup p (limits s) with
    | .ok entry => return some entry.kind
    | .error _ => return none
  readText p := do
    let s ← MonadState.get
    return (get s).readText p (limits s)
  makeDirectory p :=
    change set fun s => (get s).settle ((get s).makeDirectory p (limits s))
  writeText p text := change set fun s => (get s).save p (.text text) (limits s)
  writeArchive p entries := change set fun s => (get s).save p (.archive entries) (limits s)

/-! ## Listing -/

/-- The order of places: a directory before what is in it, and names by their bytes. -/
def precedes (a b : Place) : Bool :=
  match a, b with
  | [], _ => true
  | _ :: _, [] => false
  | x :: xs, y :: ys => if x = y then precedes xs ys else x < y

/-- The entries below the working directory in order, with their places in it. -/
def listing (t : Tree) : List (Place × Entry) :=
  let below := t.nodes.filter fun e => t.here.isPrefixOf e.1 && e.1.length > t.here.length
  (below.map fun e => (e.1.drop t.here.length, e.2.entry)).mergeSort fun a b => precedes a.1 b.1

end Tree

end ToolScaffold
