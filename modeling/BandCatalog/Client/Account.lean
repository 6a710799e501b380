import BandCatalog.Client.Calls

/-!
# The life of a session

Signing in and out, the permissions of a user, and whether stored credentials still are a session.
-/
namespace BandCatalog

/-- What stored credentials are. -/
inductive SessionStatus where
  | signedOut
  | signedIn (user : User)
  deriving DecidableEq, Repr

namespace Client

open Conversation

/-- A write of the store whose error ends the conversation. -/
def store {α : Type} (w : Write) (next : Conversation (Except Failure α)) :
    Conversation (Except Failure α) :=
  write w fun
    | .ok _ => next
    | .error e => done (.error (.store e))

/-- The credentials of an answer are kept. -/
def start (s : SignIn) : Conversation (Except Failure User) :=
  store (.put s.tokens) (done (.ok s.user))

def signIn (c : Client) (l : Login) : Conversation (Except Failure User) := (c.login l).andThen start

def signUp (c : Client) (l : Login) : Conversation (Except Failure User) :=
  (c.register l).andThen start

/-- The backend is told if there is a session; whatever it says, the credentials are forgotten. -/
def signOut (c : Client) : Conversation (Except Failure Unit) :=
  access fun token =>
    let forget : Conversation (Except Failure Unit) := store .forget (done (.ok ()))
    if token.isSome then c.logout.bind fun _ => forget else forget

/-- A list without repetitions, in ascending order. -/
def ascending (names : List String) : List String :=
  (names.eraseDups).mergeSort fun a b => a ≤ b

/-- What the roles of a user and the backend grant together. An answer that fails grants nothing. -/
def allPermissions (c : Client) (u : User) : Conversation (List String) :=
  c.permissions.bind fun r =>
    let granted := match r with
      | .ok names => names
      | .error _ => []
    done (ascending (u.permissions.map Permission.name ++ granted))

/-- The credentials are forgotten. -/
def endSession : Conversation (Except Failure SessionStatus) :=
  store .forget (done (.ok .signedOut))

/-- What the stored credentials are. An access token that is not valid is not final while there is a
refresh token. Errors that do not end the session leave the credentials as they are. -/
def status (c : Client) : Conversation (Except Failure SessionStatus) :=
  access fun
    | none => endSession
    | some token =>
      (c.validate token).andThen fun validation =>
        refresh fun refreshToken =>
          if !validation.valid && refreshToken.isNone then endSession
          else c.currentUser.bind fun
            | .ok user => done (.ok (.signedIn user))
            | .error e => if e.isSessionEnded then endSession else done (.error e)

end Client

end BandCatalog
