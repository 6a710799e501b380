import BandCatalog.Json.Printer
import BandCatalog.Json.Record
import BandCatalog.Text.Blank

/-!
# Settings

The settings of the program: where the backend is, where credentials are kept, who signed in last, and
how long to wait for an answer.
-/
namespace BandCatalog

/-- Where credentials are kept. -/
inductive StorageKind where
  | keyring
  | file
  | memory
  deriving DecidableEq, Repr

namespace StorageKind

def all : List StorageKind := [keyring, file, memory]

def name : StorageKind → String
  | keyring => "keyring"
  | file => "file"
  | memory => "memory"

def ofName? (s : String) : Option StorageKind := all.find? fun k => k.name = s

@[simp] theorem ofName?_name (k : StorageKind) : ofName? k.name = some k := by cases k <;> decide

def decode : Json.Decode StorageKind := Json.decodeWord ofName?

end StorageKind

structure Settings where
  apiUrl : String
  storage : StorageKind
  lastUsername : Option String
  timeoutSeconds : UInt64
  deriving DecidableEq, Repr

namespace Settings

/-- What holds where nothing is set. -/
def standard : Settings := ⟨"http://localhost:8080/api", .keyring, none, 30⟩

def fields : List (List String) :=
  [["api_url"], ["storage"], ["last_username"], ["request_timeout_secs"]]

/-- Any field may be missing. -/
def decode : Json.Decode Settings := fun v => do
  let r ← Json.record? fields v
  let apiUrl ← (r 0).default Json.decodeText standard.apiUrl
  let storage ← (r 1).default StorageKind.decode standard.storage
  let lastUsername ← (r 2).default (Json.decodeOption Json.decodeText) standard.lastUsername
  let timeoutSeconds ← (r 3).default Json.decodeUInt64 standard.timeoutSeconds
  some ⟨apiUrl, storage, lastUsername, timeoutSeconds⟩

def toJson (s : Settings) : Json :=
  .object [("api_url", .text s.apiUrl), ("storage", .text s.storage.name),
    ("last_username", .ofOptionText s.lastUsername),
    ("request_timeout_secs", .ofNat s.timeoutSeconds.toNat)]

/-- Why settings cannot be loaded. -/
inductive Error where
  /-- The file is no text. -/
  | unreadable
  | malformed
  deriving DecidableEq, Repr

def Error.message : Error → String
  | unreadable => "stream did not contain valid UTF-8"
  | malformed => "malformed configuration"

/-- The name of the variable that gives the backend's URL. -/
def urlVariable : String := "BANDMANAGER_API_URL"

/-- A variable that is not blank takes the place of the URL. -/
def withVariable (s : Settings) (value : Option String) : Settings :=
  match value with
  | some v => if Text.isBlankText v then s else { s with apiUrl := v }
  | none => s

/-- The settings in a file, or those that hold without one. -/
def read : Option ByteArray → Except Error Settings
  | none => .ok standard
  | some bytes =>
    match String.fromUTF8? bytes with
    | none => .error .unreadable
    | some s =>
      match (Json.parseText s).bind decode with
      | some settings => .ok settings
      | none => .error .malformed

/-- The settings in a file under a variable. -/
def load (file : Option ByteArray) (override : Option String) : Except Error Settings :=
  (read file).map (·.withVariable override)

/-- The file that holds settings. -/
def save (s : Settings) : ByteArray := s.toJson.indented.toUTF8

end Settings

end BandCatalog
