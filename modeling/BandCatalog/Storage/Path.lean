import BandCatalog.Storage.File

/-!
# A file at a path

The calls of a storage in a file, step by step, at a path where the file system may refuse any of the steps. A
step that is not refused is done as a whole. The mode of a file is restricted once its content is written.
-/
namespace BandCatalog

/-- How a path ends. Only where that is in a name can there be a file. -/
inductive PathEnd where
  | name
  | slash
  | dot
  /-- In the directory above. -/
  | parent
  deriving DecidableEq, Repr

/-- Dots and empty parts name nothing, so the directory above may come before them. -/
def PathEnd.ofText (path : String) : PathEnd :=
  let parts := path.toList.splitOn '/'
  match (parts.filter fun part => part ≠ [] ∧ part ≠ ['.']).getLast?, parts.getLast? with
  | some ['.', '.'], _ => parent
  | _, some [] => slash
  | _, some ['.'] => dot
  | _, _ => name

/-- What a call may do at the path. -/
inductive FileStep where
  | look
  | read
  /-- Make the directories on the way. -/
  | parents
  | write
  | restrict
  | remove
  deriving DecidableEq, Repr

/-- A path, and what the file system refuses there and why. -/
structure Site where
  ending : PathEnd
  /-- The mode of a file that is made. -/
  mode : Nat
  refuses : FileStep → Option String
  /-- What cannot be seen cannot be written. -/
  seen : refuses .write = none → refuses .look = none

/-- A path at which nothing is refused. -/
def Site.ofText (path : String) : Site := ⟨.ofText path, 0o644, fun _ => none, fun _ => rfl⟩

namespace FileStorage

def isDirectory : String := "Is a directory (os error 21)"

def isMissing : String := "No such file or directory (os error 2)"

/-- The map at the path. What cannot be seen counts as absent. -/
def readAt (s : Site) (f : FileStorage) : Except StorageError TextMap :=
  if f = absent ∨ s.refuses .look ≠ none then .ok .empty
  else match s.refuses .read with
    | some reason => .error (.fileRead reason)
    | none => f.read

/-- What stands at the path once there are directories on the way: a directory, if the way goes up at the end. -/
def reachedAt (s : Site) (f : FileStorage) : FileStorage :=
  if f = absent ∧ s.ending = .parent then directory else f

/-- The mode of the file that is written. -/
def modeAt (s : Site) : FileStorage → Nat
  | file mode _ => mode
  | _ => s.mode

/-- Why there can be no file at the path, whatever the file system allows. -/
def barred? (s : Site) (f : FileStorage) : Option String :=
  if f = directory then some isDirectory
  else match s.ending with
    | .name => none
    | .dot => some isMissing
    | _ => some isDirectory

/-- A file filled and then restricted. -/
def fillAt (s : Site) (f : FileStorage) (content : ByteArray) : Except StorageError Unit × FileStorage :=
  match (f.barred? s).or (s.refuses .write) with
  | some reason => (.error (.fileWrite reason), f)
  | none =>
    match s.refuses .restrict with
    | some reason => (.error (.fileRestrict reason), file (f.modeAt s) content)
    | none => (.ok (), file ownerOnly content)

def removeAt (s : Site) (f : FileStorage) : Except StorageError Unit × FileStorage :=
  if f = absent ∨ s.refuses .look ≠ none then (.ok (), f)
  else if f = directory then (.error (.fileRemove isDirectory), f)
  else match s.refuses .remove with
    | some reason => (.error (.fileRemove reason), f)
    | none => (.ok (), absent)

/-- A map put at the path. -/
def writeAt (s : Site) (f : FileStorage) (m : TextMap) : Except StorageError Unit × FileStorage :=
  if m.isEmpty then f.removeAt s
  else match s.refuses .parents with
    | some reason => (.error (.fileParents reason), f)
    | none => (f.reachedAt s).fillAt s (encodeMap m).indented.toUTF8

/-- One call: the whole map is read, altered in memory and, if it was altered, put back. -/
def performAt (s : Site) (f : FileStorage) (c : StorageCall) :
    Except StorageError (Option String) × FileStorage :=
  match f.readAt s with
  | .error e => (.error e, f)
  | .ok m =>
    let put (m : TextMap) := ((f.writeAt s m).1.map fun _ => none, (f.writeAt s m).2)
    match c with
    | .get k => (.ok (m.get? k), f)
    | .set k v => put (m.insert k v)
    | .remove k => if (m.get? k).isSome then put (m.erase k) else (.ok none, f)

end FileStorage

end BandCatalog
