import BandCatalog.Json.Printer
import BandCatalog.Json.Record
import BandCatalog.Storage.Memory
import BandCatalog.Text.Blank
import BandCatalog.Text.Utf8

/-!
# A file of texts

A storage in one file, which holds a JSON object of texts and can be read by its owner only. Where
there is nothing to hold there is no file. A file that cannot be read is left as it is.
-/
namespace BandCatalog

/-- What stands at the path of the file. -/
inductive FileStorage where
  | absent
  | directory
  | file (mode : Nat) (content : ByteArray)
  deriving DecidableEq

namespace FileStorage

/-- Read and written by its owner only. -/
def ownerOnly : Nat := 0o600

def decodeMember (m : String × Json) : Option (String × String) :=
  (Json.decodeText m.2).map (m.1, ·)

/-- A JSON object of texts; of a name that comes twice the last value counts. -/
def decodeMap : Json.Decode TextMap
  | .object ms => (ms.mapM decodeMember).map TextMap.ofList
  | _ => none

def encodeMap (m : TextMap) : Json := .object (m.entries.map fun e => (e.1, .text e.2))

/-- The map in the file. -/
def read : FileStorage → Except StorageError TextMap
  | absent => .ok .empty
  | directory => .error (.fileRead "Is a directory (os error 21)")
  | file _ content =>
    match String.fromUTF8? content with
    | none => .error (.fileRead "stream did not contain valid UTF-8")
    | some s =>
      if Text.isBlankText s then .ok .empty
      else match (Json.parseText s).bind decodeMap with
        | some m => .ok m
        | none => .error .fileParse

/-- The file that holds a map. -/
def ofMap (m : TextMap) : FileStorage :=
  if m.isEmpty then absent else file ownerOnly (encodeMap m).indented.toUTF8

instance : KeyValue FileStorage where
  get f k := (f.read.map fun m => m.get? k, f)
  set f k v :=
    match f.read with
    | .ok m => (.ok (), ofMap (m.insert k v))
    | .error e => (.error e, f)
  remove f k :=
    match f.read with
    | .ok m => (.ok (), if (m.get? k).isSome then ofMap (m.erase k) else f)
    | .error e => (.error e, f)

end FileStorage

end BandCatalog
