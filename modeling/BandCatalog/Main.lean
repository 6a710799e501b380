import BandCatalog.Cli.Run
import BandCatalog.Client.Replay
import BandCatalog.Http.Wire
import Std.Async.DNS
import Std.Async.TCP
import Std.Async.Timer

/-!
# The program

Arguments, environment, files, keyboard and network of a run. What a run does with them is computed
elsewhere; here they are read and written. Exchanges go over plain connections only.
-/
namespace BandCatalog.Cli

open Std.Async Std.Net

def readFile? (path : String) : IO (Option ByteArray) := do
  try return some (← IO.FS.readBinFile path) catch _ => return none

/-- What stands at a path. -/
def readCredentials (path : String) : IO FileStorage := do
  try return .file FileStorage.ownerOnly (← IO.FS.readBinFile path)
  catch
    | .noFileOrDirectory .. => return .absent
    | _ => return .directory

/-- A directory by a variable that gives it, or else beneath the user's own. -/
def directory (name beneath : String) : IO String := do
  match (← IO.getEnv name).filter fun p => p.startsWith "/" with
  | some path => return path ++ "/" ++ serviceName
  | none => return ((← IO.getEnv "HOME").getD "") ++ "/" ++ beneath ++ "/" ++ serviceName

structure Paths where
  settingsDirectory : String
  dataDirectory : String

namespace Paths

def settings (p : Paths) : String := p.settingsDirectory ++ "/config.json"

def credentials (p : Paths) : String := p.dataDirectory ++ "/credentials.json"

def find : IO Paths := do
  return ⟨← directory "XDG_CONFIG_HOME" ".config", ← directory "XDG_DATA_HOME" ".local/share"⟩

end Paths

def readHome (p : Paths) : IO Home := do
  return ⟨← readFile? p.settings, ← readCredentials p.credentials, ⟨[], false⟩⟩

/-- Writes what a run has changed. -/
def writeHome (p : Paths) (before after : Home) : IO Unit := do
  if after.settings ≠ before.settings then
    if let some bytes := after.settings then
      IO.FS.createDirAll p.settingsDirectory
      IO.FS.writeBinFile p.settings bytes
  if after.credentials ≠ before.credentials then
    match after.credentials with
    | .absent => IO.FS.removeFile p.credentials
    | .directory => pure ()
    | .file _ bytes =>
      IO.FS.createDirAll p.dataDirectory
      IO.FS.writeBinFile p.credentials bytes
      IO.setAccessRights p.credentials ⟨⟨true, true, false⟩, {}, {}⟩

/-- How many directories above the current one are searched for a file of variables. -/
def searchDepth : Nat := 32

/-- The nearest file of variables. -/
def readVariables : IO (Option ByteArray) := do
  for n in List.range searchDepth do
    if let some bytes ← readFile? (String.join (List.replicate n "../") ++ ".env") then
      return some bytes
  return none

/-- The words of a file that may be names. -/
def mentioned (file : ByteArray) : List String :=
  (((Text.decodeLossy file).toList.map fun c => if Environment.isNameChar c then c else ' ').splitOn ' ').map
    String.ofList

/-- The environment as far as the program can ask for it. -/
def readEnvironment : IO Environment := do
  let file ← readVariables
  let names := Settings.urlVariable :: (file.toList.flatMap mentioned).filter (· ≠ "")
  let inherited ← names.filterMapM fun name => do return (← IO.getEnv name).map fun v => (name, v)
  return Environment.withFile (TextMap.ofList inherited) file

def say (text : String) : IO Unit := do
  let out ← IO.getStdout
  out.putStr text
  out.flush

/-- A password, typed at the terminal whatever the input is. -/
def readPassword (prompt : String) : IO String := do
  let terminal ← IO.FS.Handle.mk "/dev/tty" .readWrite
  terminal.putStr prompt
  terminal.flush
  return String.ofList ((← terminal.getLine).toList.filter fun c => c ≠ '\n' ∧ c ≠ '\r')

def ask {α : Type} : Dialogue α → IO α
  | .done a => return a
  | .say text next => do say text; ask next
  | .line next => do
    let line ← try some <$> (← IO.getStdin).getLine catch _ => pure none
    ask (next line)
  | .password prompt next => do ask (next (← readPassword prompt))

/-- The address that a host stands for. -/
def resolve (host : Url.Host) (port : Nat) : Async (Option SocketAddress) := do
  let name := match host with
    | .v6 _ => String.ofList (host.toChars.filter fun c => c ≠ '[' ∧ c ≠ ']')
    | _ => String.ofList host.toChars
  let addresses ← DNS.getAddrInfo name (toString port)
  match addresses.toList.head? with
  | some (.v4 a) => return some (.v4 ⟨a, port.toUInt16⟩)
  | some (.v6 a) => return some (.v6 ⟨a, port.toUInt16⟩)
  | none => return none

/-- What a connection gives until it is closed, at most so many times a mebibyte. -/
def receive (socket : TCP.Socket.Client) : Nat → ByteArray → Async ByteArray
  | 0, bytes => return bytes
  | n + 1, bytes => do
    match ← socket.recv? 1048576 with
    | some more => receive socket n (bytes ++ more)
    | none => return bytes

def mostReceived : Nat := 65536

/-- One exchange over a connection of its own. -/
def converse (r : Http.Request) : Async Http.Outcome := do
  match r.url.authority with
  | some a =>
    if r.url.scheme ≠ "http" then return .error .unreachable
    let connected ←
      try
        let some address ← resolve a.host (a.port.getD 80) | pure none
        let socket ← TCP.Socket.Client.mk
        socket.connect address
        pure (some socket)
      catch _ => pure none
    match connected with
    | none => return .error .unreachable
    | some socket =>
      try
        socket.send r.toBytes
        let bytes ← receive socket mostReceived ByteArray.empty
        match Http.Response.ofBytes? r.method bytes with
        | some response => return .ok response
        | none => return .error .closed
      catch _ => return .error .closed
  | none => return .error .unreachable

/-- One exchange within a number of seconds. -/
def exchange (seconds : Nat) (r : Http.Request) : IO Http.Outcome :=
  (Async.race (some <$> converse r)
    (do sleep (.ofNat (seconds * 1000)); return none : Async (Option Http.Outcome))).block.map
      (·.getD (.error .timeout))

/-- An errand with the answers known so far, and further with every answer that it wants. -/
partial def settle (json : Bool) (home : Home) (ready : Ready Replay) (errand : Errand)
    (known : List Http.Outcome) : IO (Outcome Replay) := do
  let session := { ready.session with backend := .ofList known }
  let o : Outcome Replay := conclude json "" home { ready with session := session } errand
  match o.backend.wanted with
  | none => return o
  | some r =>
    IO.sleep (Replay.waitBefore known.length o.log).toUInt32
    let answer ← exchange ready.settings.timeoutSeconds.toNat r
    settle json home ready errand (known ++ [answer])

def usageText : String :=
  "Usage: bandmanager [--verbose] [--json] [--api-url URL] COMMAND\n\n" ++
  "Commands:\n" ++
  "  login [USERNAME]        Sign in and store the session\n" ++
  "  register USERNAME       Create an account and sign in\n" ++
  "  logout                  End the session\n" ++
  "  status                  Check whether the stored session is still valid\n" ++
  "  whoami                  Show the signed-in user and their permissions\n" ++
  "  bands list [--page N] [--size N] [--sort FIELD]... [--desc] [--name TEXT] [--genre GENRE]\n" ++
  "  bands get ID            Show a single band\n" ++
  "  bands delete ID         Delete a band\n"

def refuse : Refusal → IO Unit
  | .usage => IO.eprint usageText
  | .help => IO.print usageText
  | .version => IO.println "bandmanager 0.1.0"

/-- One run with the arguments of the command line. -/
def program (arguments : List String) : IO Ending := do
  let paths ← Paths.find
  let home ← readHome paths
  let environment ← readEnvironment
  match Invocation.ofArguments arguments with
  | .error r => refuse r; return .refused r
  | .ok i =>
    match prepare i environment home (Replay.ofList []) with
    | .error e => IO.eprint e.text; return .failed
    | .ok ready =>
      match ← ask (i.command.start ready.client ready.settings.lastUsername) with
      | .error c => IO.eprint (complain c); return .failed
      | .ok errand =>
        let o ← settle i.json home ready errand []
        writeHome paths home o.home
        say o.output
        IO.eprint o.errors
        return o.ending

end BandCatalog.Cli

def main (arguments : List String) : IO UInt32 := do
  return (← BandCatalog.Cli.program arguments).code.toUInt32
