import BandCatalog.Client.Conversation

/-!
# Sending with a token

Every request but those that sign in carries the access token in memory. One that comes back
unauthorized is handed to the coordinator, and sent once more with the token that it gets back.
-/
namespace BandCatalog.Client

open Conversation

/-- One exchange. -/
def execute (r : Http.Request) : Conversation (Except Failure Http.Response) :=
  exchange r fun
    | .ok response => done (.ok response)
    | .error o => done (.error (.sending r.method ⟨r.url, o⟩))

def isUnauthorized (response : Http.Response) : Bool := response.status == 401

/-- The second and last exchange of a request that came back unauthorized. -/
def retry (r : Http.Request) : Conversation (Except Failure Http.Response) :=
  (execute r).andThen fun response =>
    if isUnauthorized response then
      done (.error (.api (.retryExhausted (Text.excerpt response.text))))
    else done (.ok response)

/-- A request as it carries a token, if there is one. -/
def withToken (r : Http.Request) : Option String → Except AuthError Http.Request
  | some token => authorize r token
  | none => .ok r

/-- The exchanges of a request that may carry a token. -/
def sendProtected (r : Http.Request) (token : Option String) :
    Conversation (Except Failure Http.Response) :=
  match withToken r token with
  | .error e => done (.error (.api (.auth e)))
  | .ok r =>
    (execute r).andThen fun response =>
      if !isUnauthorized response || !r.isRepeatable then done (.ok response)
      else recover ⟨r, token⟩ fun
        | .ok r => retry r
        | .error e => done (.error (.api (.auth e)))

/-- One request through the middleware. -/
def send (r : Http.Request) : Conversation (Except Failure Http.Response) :=
  if r.url.isUnauthenticated then execute (unauthorize r)
  else access (sendProtected r)

end BandCatalog.Client
