import BandCatalog.Cli.Answer
import BandCatalog.Cli.Arguments
import BandCatalog.Cli.Dialogue
import BandCatalog.Text.Upper

/-!
# Performing commands

Each command first talks to the user, if it has to, and then holds a conversation with the backend.
-/
namespace BandCatalog.Cli

/-- Why a command did not succeed. -/
inductive Complaint where
  | unreadableInput
  | usernameRequired
  | passwordRequired
  | passwordsDiffer
  | notSignedIn
  /-- A genre as it was typed, and the name that was made of it. -/
  | unknownGenre (typed name : String)
  | failure (f : Failure)
  deriving DecidableEq, Repr

namespace Complaint

def message : Complaint → String
  | unreadableInput => "stream did not contain valid UTF-8"
  | usernameRequired => "Username required"
  | passwordRequired => "Password required"
  | passwordsDiffer => "Passwords do not match"
  | notSignedIn => "Not signed in. Run `bandmanager login` first."
  | unknownGenre typed _ => s!"Unknown genre '{typed}'"
  | failure f => f.message

def genreNames : String := ", ".intercalate (Genre.all.map fun g => "`" ++ g.name ++ "`")

def causes : Complaint → List String
  | unknownGenre _ name => ["unknown variant `" ++ name ++ "`, expected one of " ++ genreNames]
  | failure f => f.causes
  | _ => []

/-- A complaint and what lies behind it, in one line. -/
def chain (c : Complaint) : String := ": ".intercalate (c.message :: c.causes)

end Complaint

/-- What a command does once it has been started. -/
abbrev Errand := Conversation (Except Complaint Answer)

/-- A password, which may not be empty. -/
def askPassword {α : Type} (next : String → Dialogue (Except Complaint α)) :
    Dialogue (Except Complaint α) :=
  .password "Password: " fun p => if p = "" then .done (.error .passwordRequired) else next p

/-- A name of a user; an empty line stands for who signed in last. -/
def askUsername {α : Type} (last : Option String) (next : String → Dialogue (Except Complaint α)) :
    Dialogue (Except Complaint α) :=
  let prompt := match last with
    | some name => s!"Username [{name}]: "
    | none => "Username: "
  .say prompt <| .line fun
    | none => .done (.error .unreadableInput)
    | some line =>
      let name := Text.trimmed line
      if name ≠ "" then next name
      else match last with
        | some name => next name
        | none => .done (.error .usernameRequired)

/-- A genre by a name in any case and with dashes. -/
def genre? (typed : String) : Except Complaint Genre :=
  let name := String.ofList
    ((Text.upper (Text.trim typed.toList)).map fun c => if c = '-' then '_' else c)
  match Genre.ofName? name with
  | some g => .ok g
  | none => .error (.unknownGenre typed name)

def filter? (l : Listing) : Except Complaint Filter :=
  match l.genre with
  | none => .ok { Filter.any with name := l.name }
  | some typed => (genre? typed).map fun g => { Filter.any with name := l.name, genre := some g }

/-- A conversation that ends in an answer. -/
def toAnswer {α : Type} (f : α → Answer) (c : Conversation (Except Failure α)) : Errand :=
  c.bind fun
    | .ok a => .done (.ok (f a))
    | .error e => .done (.error (.failure e))

/-- The account of the user who is signed in, with all permissions. -/
def describe (c : Client) : Errand :=
  c.status.bind fun
    | .ok (.signedIn user) =>
      (c.allPermissions user).bind fun names => .done (.ok (.account user names))
    | .ok .signedOut => .done (.error .notSignedIn)
    | .error e => .done (.error (.failure e))

/-- What a command asks its user, and what it does then. -/
def Command.start (c : Client) (last : Option String) :
    Command → Dialogue (Except Complaint Errand)
  | login username =>
    let withName (name : String) : Dialogue (Except Complaint Errand) :=
      askPassword fun password =>
        .say "Authenticating...\n" (.done (.ok (toAnswer .signedIn (c.signIn ⟨name, password⟩))))
    match username with
    | some name => withName name
    | none => askUsername last withName
  | register username =>
    askPassword fun password =>
      .password "Confirm password: " fun again =>
        if password = again then
          .done (.ok (toAnswer .signedUp (c.signUp ⟨username, password⟩)))
        else .done (.error .passwordsDiffer)
  | logout => .done (.ok (toAnswer (fun _ => .signedOut) c.signOut))
  | status => .done (.ok (toAnswer .status c.status))
  | whoami => .done (.ok (describe c))
  | list l => .done ((filter? l).map fun f => toAnswer .page (c.bands f l.page))
  | get id => .done (.ok (toAnswer .band (c.band id)))
  | delete id => .done (.ok (toAnswer (fun _ => .deleted id) (c.deleteBand id)))

end BandCatalog.Cli
