import BandCatalog.Cli.Environment
import BandCatalog.Cli.Perform
import BandCatalog.Client.Session
import BandCatalog.Storage.Vault

/-!
# Runs of the program

A run reads its arguments, opens the store that the settings choose, performs one command and says what
came of it. All that it finds and leaves outside is a value: files, keychain, what is typed, what is
printed, and the backend. A file of settings that is there can be read, and settings can be saved.
-/
namespace BandCatalog.Cli

/-- What lasts from run to run. -/
structure Home where
  settings : Option ByteArray
  credentials : FileStorage
  keychain : Keychain
  deriving DecidableEq

namespace Home

/-- The storage that settings choose. -/
def vault (h : Home) : StorageKind → Vault
  | .keyring => .keychain ⟨serviceName, h.keychain⟩
  | .file => .file h.credentials
  | .memory => .memory .empty

/-- What lasts of a storage. -/
def keep (h : Home) : Vault → Home
  | .memory _ => h
  | .file f => { h with credentials := f }
  | .keychain k => { h with keychain := k.keychain }

end Home

/-- What a run starts with. -/
structure Start where
  arguments : List String
  environment : Environment
  /-- A file that adds to the environment. -/
  environmentFile : Option ByteArray
  typed : Typed
  home : Home

inductive Ending where
  | finished
  | failed
  | refused (r : Refusal)
  deriving DecidableEq, Repr

def Ending.code : Ending → Nat
  | finished => 0
  | failed => 1
  | refused .usage => 2
  | refused _ => 0

structure Outcome (β : Type) where
  ending : Ending
  output : String
  errors : String
  home : Home
  backend : β
  /-- What went to and fro between session and backend, in order. -/
  log : List LogEntry

/-- Why a command could not be started. -/
inductive StartError where
  | settings (e : Settings.Error)
  | store (e : StoreError)
  | address (e : AddressError)
  deriving DecidableEq, Repr

namespace StartError

def message : StartError → String
  | settings e => e.message
  | store e => e.message
  | address e => e.message

def causes : StartError → List String
  | settings _ => []
  | store e => e.causes
  | address e => [e.cause.message]

/-- A cause alone stands indented; several are numbered. -/
def causeLines : List String → List String
  | [cause] => ["    " ++ cause]
  | causes => causes.mapIdx fun i cause => padLeft 5 (toString i) ++ ": " ++ cause

def text (e : StartError) : String :=
  unlines ([s!"Error: {e.message}"] ++
    if e.causes = [] then [] else ["", "Caused by:"] ++ causeLines e.causes)

end StartError

/-- The settings of a run. A blank variable does not count beside the file, but it does beside the arguments. -/
def runSettings (i : Invocation) (e : Environment) (h : Home) : Except Settings.Error Settings :=
  let override := e.get? Settings.urlVariable
  (Settings.load h.settings override).map fun s =>
    match i.apiUrl.or override with
    | some url => { s with apiUrl := url }
    | none => s

/-- A client with its session, ready for a command. -/
structure Ready (β : Type) where
  settings : Settings
  client : Client
  session : Session β Vault

/-- The store is opened before the backend's URL is looked at. -/
def prepare {β : Type} (i : Invocation) (e : Environment) (h : Home) (b : β) :
    Except StartError (Ready β) := do
  let settings ← (runSettings i e h).mapError .settings
  let store ← (Store.open? (h.vault settings.storage)).1.mapError .store
  let (client, refreshUrl) ← (Client.connect settings.apiUrl).mapError .address
  return ⟨settings, client, ⟨.new store, b, refreshUrl, []⟩⟩

/-- What is said once for each time that a session ended. -/
def expiryNotice : String :=
  "Your session has expired. Run `bandmanager login` to sign in again.\n"

/-- The settings with who has signed in last. -/
def remember (h : Home) (s : Settings) (username : String) : Home :=
  { h with settings := some { s with lastUsername := some username }.save }

def complain (c : Complaint) : String := s!"Error: {c.chain}\n"

variable {β : Type} [Backend β]

/-- What an errand leaves behind; `shown` was shown before it. -/
def conclude (json : Bool) (shown : String) (home : Home) (ready : Ready β) (errand : Errand) :
    Outcome β :=
  let (result, s) := errand.hold ready.session
  let home := home.keep s.world.store.storage
  let notices := String.join (List.replicate s.world.redirects expiryNotice)
  match result with
  | .error c =>
    ⟨.failed, shown, notices ++ complain c, home, s.backend, s.log.reverse⟩
  | .ok a =>
    let home := match a.newcomer? with
      | some username => remember home ready.settings username
      | none => home
    ⟨.finished, shown ++ a.text json, notices, home, s.backend, s.log.reverse⟩

/-- One command. -/
def perform (i : Invocation) (start : Start) (ready : Ready β) : Outcome β :=
  match (i.command.start ready.client ready.settings.lastUsername).hold start.typed with
  | (.error c, shown) => ⟨.failed, shown, complain c, start.home, ready.session.backend, []⟩
  | (.ok errand, shown) => conclude i.json shown start.home ready errand

/-- One run of the program. -/
def run (start : Start) (b : β) : Outcome β :=
  let environment := start.environment.withFile start.environmentFile
  match Invocation.ofArguments start.arguments with
  | .error r => ⟨.refused r, "", "", start.home, b, []⟩
  | .ok i =>
    match prepare i environment start.home b with
    | .error e => ⟨.failed, "", e.text, start.home, b, []⟩
    | .ok ready => perform i start ready

end BandCatalog.Cli
