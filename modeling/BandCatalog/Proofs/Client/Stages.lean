import BandCatalog.Client.Crowd
import BandCatalog.Client.Middleware

/-!
# The stages of a call

A call that sends one protected request, while the access token changes once from an old to a new one that
the backend takes instead. `Stage.speaker` says what is left of the conversation at each stage, and
`Stage.Next` in which order the stages follow each other: at most two of them send the request.
-/
namespace BandCatalog

/-- A request as it carries a token. -/
def Http.Request.bearing (r : Http.Request) (token : String) : Http.Request :=
  { r with headers := r.headers.set authorizationName (bearer token) true }

namespace Http.Request

theorem authorize_eq {token : String} (h : isHeaderValue (bearer token) = true) (r : Request) :
    authorize r token = .ok (r.bearing token) := if_pos h

@[simp] theorem isRepeatable_bearing (r : Request) (token : String) :
    (r.bearing token).isRepeatable = r.isRepeatable := rfl

@[simp] theorem isSendable_bearing (r : Request) (token : String) :
    (r.bearing token).isSendable = r.isSendable := rfl

/-- A token takes the place of the one before. -/
@[simp] theorem bearing_bearing (r : Request) (a b : String) :
    (r.bearing a).bearing b = r.bearing b := by
  simp [bearing, Headers.set, Headers.remove, List.filter_append]

theorem sameRequest_bearing (r : Request) (token : String) : SameRequest (r.bearing token) r := by
  simp [SameRequest, bearing, Headers.set, Headers.remove, lowerName, authorizationName]

/-- Whether a token is all the authorization that a request carries. -/
def Bears (r : Request) (token : String) : Prop :=
  r.headers.values authorizationName = [bearer token]

theorem bears_bearing (r : Request) (token : String) : (r.bearing token).Bears token := by
  simp [Bears, bearing, Headers.values, Headers.set, Headers.remove, List.filter_append]

end Http.Request

namespace Client

open Conversation

/-- What follows the result of the coordinator. -/
def resumed : Renewal.Resumption → Conversation (Except Failure Http.Response)
  | .ok r => retry r
  | .error e => done (.error (.api (.auth e)))

/-- What follows the first exchange. -/
def heard (r : Http.Request) (token : Option String) :
    Http.Outcome → Conversation (Except Failure Http.Response)
  | .ok a =>
    if !isUnauthorized a || !r.isRepeatable then done (.ok a) else recover ⟨r, token⟩ resumed
  | .error o => done (.error (.sending r.method ⟨r.url, o⟩))

/-- What follows the second exchange. -/
def reheard (r : Http.Request) : Http.Outcome → Conversation (Except Failure Http.Response)
  | .ok a =>
    if isUnauthorized a then done (.error (.api (.retryExhausted (Text.excerpt a.text))))
    else done (.ok a)
  | .error o => done (.error (.sending r.method ⟨r.url, o⟩))

theorem sendProtected_of_ok {r q : Http.Request} {token : Option String}
    (h : withToken r token = .ok q) : sendProtected r token = exchange q (heard q token) := by
  simp only [sendProtected, h, execute, andThen, Conversation.bind]
  congr 1
  funext o
  cases o with
  | error o => rfl
  | ok a =>
    simp only [heard, Conversation.bind]
    rfl

theorem sendProtected_of_error {r : Http.Request} {token : Option String} {e : AuthError}
    (h : withToken r token = .error e) : sendProtected r token = done (.error (.api (.auth e))) := by
  simp only [sendProtected, h]

theorem sendProtected_eq {token : String} (h : Http.isHeaderValue (bearer token) = true)
    (r : Http.Request) :
    sendProtected r (some token) =
      exchange (r.bearing token) (heard (r.bearing token) (some token)) :=
  sendProtected_of_ok (Http.Request.authorize_eq h r)

theorem retry_eq (r : Http.Request) : retry r = exchange r (reheard r) := by
  simp only [retry, execute, andThen, Conversation.bind]
  congr 1
  funext o
  cases o <;> rfl

/-- A call stands before, between or after its exchanges. -/
inductive Stage where
  /-- It has not looked at the access token. -/
  | called
  /-- It is about to send its request with the old token. -/
  | stale
  /-- The answer that turns it away is on its way. -/
  | rejected (a : Http.Response)
  /-- It is about to come back unauthorized. -/
  | refused
  | waiting (t : Renewal.Ticket)
  /-- It is about to send its request with the new token, perhaps for the second time. -/
  | renewed (again : Bool)
  /-- The backend's answer is on its way. -/
  | accepted (again : Bool) (a : Http.Response)
  | answered (a : Http.Response)

namespace Stage

/-- What follows the exchange with the new token. -/
def final (new : Pair) (again : Bool) (r : Http.Request) :
    Http.Outcome → Conversation (Except Failure Http.Response) :=
  if again then reheard (r.bearing new.access)
  else heard (r.bearing new.access) (some new.access)

def speaker (old new : Pair) (r : Http.Request) : Stage → Speaker (Except Failure Http.Response)
  | called => .speaking (send r)
  | stale =>
    .speaking (exchange (r.bearing old.access) (heard (r.bearing old.access) (some old.access)))
  | rejected a => .listening (.ok a) (heard (r.bearing old.access) (some old.access))
  | refused => .speaking (recover ⟨r.bearing old.access, some old.access⟩ resumed)
  | waiting t => .waiting t resumed
  | renewed again => .speaking (exchange (r.bearing new.access) (final new again r))
  | accepted again a => .listening (.ok a) (final new again r)
  | answered a => .speaking (done (.ok a))

/-- The stages in order. -/
inductive Next : Stage → Stage → Prop where
  | lookOld : Next called stale
  | lookNew : Next called (renewed false)
  | reject (a : Http.Response) : Next stale (rejected a)
  | hear (a : Http.Response) : Next (rejected a) refused
  | wait (t : Renewal.Ticket) : Next refused (waiting t)
  | resume (t : Renewal.Ticket) : Next (waiting t) (renewed true)
  | accept (again : Bool) (a : Http.Response) : Next (renewed again) (accepted again a)
  | finish (again : Bool) (a : Http.Response) : Next (accepted again a) (answered a)

/-- A bound on the steps that are left to a call. One that waits has taken a step off the coordinator's
hands. -/
def rank : Stage → Nat
  | called => 8
  | stale => 7
  | rejected _ => 6
  | refused => 5
  | waiting _ => 3
  | renewed _ => 2
  | accepted _ _ => 1
  | answered _ => 0

/-- A bound on the exchanges that are left to a call. -/
def exchanges : Stage → Nat
  | called => 2
  | stale => 2
  | rejected _ => 1
  | refused => 1
  | waiting _ => 1
  | renewed _ => 1
  | accepted _ _ => 0
  | answered _ => 0

theorem Next.rank_lt {s t : Stage} (h : Next s t) : t.rank < s.rank := by
  cases h <;> simp [rank]

/-- A call that goes on is another speaker. -/
theorem Next.speaker_ne {s t : Stage} (h : Next s t) {old new : Pair} {r : Http.Request}
    (hr : r.url.isUnauthenticated = false) : t.speaker old new r ≠ s.speaker old new r := by
  cases h <;> simp [speaker, send, hr]

end Stage

end Client

end BandCatalog
