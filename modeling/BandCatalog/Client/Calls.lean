import BandCatalog.Account.Login
import BandCatalog.Catalog.Page
import BandCatalog.Client.Middleware
import BandCatalog.Http.Building
import BandCatalog.Url.Form

/-!
# Calls

The calls that the backend answers, by endpoint. A call that is told to slow down waits and tries
again.
-/
namespace BandCatalog

/-- A client of one backend. -/
structure Client where
  base : Url
  deriving DecidableEq, Repr

namespace Client

open Conversation

/-- The client of the backend at a base URL, and the endpoint at which it renews credentials. -/
def connect (raw : String) : Except AddressError (Client × Url) := do
  let base ← Url.base raw
  let refreshUrl ← base.endpoint .refresh
  return (⟨base⟩, refreshUrl)

/-- Attempts after the first, where every one before was told to slow down. -/
def retryLimit : Nat := 3

/-- The first wait, in milliseconds; each later one is twice as long. -/
def firstWait : Nat := 1000

/-- What an answer means for a call: a success, an error, or to slow down. -/
def judge (response : Http.Response) (slowDown : Conversation (Except Failure Http.Response)) :
    Conversation (Except Failure Http.Response) :=
  if Http.isSuccess response.status then done (.ok response)
  else if response.status = 429 then slowDown
  else done (.error (.api (.ofStatus response.status response.text)))

/-- Attempts until one is not told to slow down, so many of them after the first. -/
def attempt (r : Http.Request) (wait : Nat) : Nat → Conversation (Except Failure Http.Response)
  | 0 => (send r).andThen fun response => judge response (done (.error (.api .rateLimited)))
  | left + 1 =>
    (send r).andThen fun response => judge response (pause wait (attempt r (2 * wait) left))

def request (r : Http.Request) : Conversation (Except Failure Http.Response) :=
  attempt r firstWait retryLimit

/-- A request whose answer has a value. -/
def fetch {α : Type} (decode : Json.Decode α) (r : Http.Request) :
    Conversation (Except Failure α) :=
  (request r).andThen fun response =>
    match response.json?.bind decode with
    | some a => done (.ok a)
    | none => done (.error (.undecodable r.url))

/-- A request to an endpoint. -/
def build (c : Client) (method : String) (e : Endpoint) (json : Option Json) :
    Except Failure Http.Request :=
  match c.base.endpoint e with
  | .ok url => .ok (.build method url json)
  | .error e => .error (.address e)

/-- What is done with a request, if there is one. -/
def whenBuilt {α : Type} (r : Except Failure Http.Request)
    (f : Http.Request → Conversation (Except Failure α)) : Conversation (Except Failure α) :=
  match r with
  | .ok r => f r
  | .error e => done (.error e)

/-- A request whose answer counts only as a success. -/
def tell (r : Http.Request) : Conversation (Except Failure Unit) :=
  (request r).andThen fun _ => done (.ok ())

def login (c : Client) (l : Login) : Conversation (Except Failure SignIn) :=
  whenBuilt (c.build "POST" .login (some l.toJson)) (fetch SignIn.decode)

def register (c : Client) (l : Login) : Conversation (Except Failure SignIn) :=
  whenBuilt (c.build "POST" .register (some l.toJson)) (fetch SignIn.decode)

def logout (c : Client) : Conversation (Except Failure Unit) :=
  whenBuilt (c.build "POST" .logout (some (.object []))) tell

def validate (c : Client) (token : String) : Conversation (Except Failure TokenValidation) :=
  whenBuilt (c.build "POST" .validate (some (.object [("token", .text token)])))
    (fetch TokenValidation.decode)

def currentUser (c : Client) : Conversation (Except Failure User) :=
  whenBuilt (c.build "GET" .currentUser none) (fetch User.decode)

/-- The names of the permissions that the backend grants. -/
def permissions (c : Client) : Conversation (Except Failure (List String)) :=
  whenBuilt (c.build "GET" .permissions none) (fetch (Json.decodeList Json.decodeText))

/-- A request with parameters in its query. -/
def withQuery (ps : List (String × String)) (r : Http.Request) : Http.Request :=
  { r with url := { r.url with query := some (Url.Form.encode ps) } }

def bands (c : Client) (f : Filter) (p : PageRequest) : Conversation (Except Failure (Page Band)) :=
  whenBuilt (c.build "GET" .bands none) fun r =>
    fetch (Page.decode Band.decode) (withQuery (f.parameters ++ p.parameters) r)

def band (c : Client) (id : Int) : Conversation (Except Failure Band) :=
  whenBuilt (c.build "GET" (.band id) none) (fetch Band.decode)

def deleteBand (c : Client) (id : Int) : Conversation (Except Failure Unit) :=
  whenBuilt (c.build "DELETE" (.band id) none) tell

end Client

end BandCatalog
