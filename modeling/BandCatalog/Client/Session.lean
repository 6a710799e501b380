import BandCatalog.Client.Conversation
import BandCatalog.Renewal.Exchange

/-!
# Sessions

A coordinator and a backend, and conversations held with them one at a time. The backend is a state
that each request may change. A session keeps a log of its exchanges and pauses.
-/
namespace BandCatalog

/-- A backend: what comes of sending it a request once, and its state after. An answer that names another place is an
answer like any other: nothing is sent there. -/
class Backend (β : Type) where
  answer : β → Http.Request → Http.Outcome × β

/-- What a session did. -/
inductive LogEntry where
  /-- A request was sent while `held` was the access token in memory. -/
  | exchange (r : Http.Request) (held : Option String) (o : Http.Outcome)
  | pause (milliseconds : Nat)

structure Session (β σ : Type) where
  world : Renewal.World σ
  backend : β
  /-- The refresh endpoint. -/
  refreshUrl : Url
  /-- Newest first. -/
  log : List LogEntry

namespace Session

variable {β σ : Type} [Backend β]

def memory (s : Session β σ) : Tokens := s.world.store.memory

/-- A request sent to the backend. One that cannot be sent does not reach it. -/
def send (s : Session β σ) (r : Http.Request) : Http.Outcome × Session β σ :=
  if r.isSendable then
    let (o, backend) := Backend.answer s.backend r
    (o, { s with backend := backend, log := .exchange r s.memory.access o :: s.log })
  else (.error .scheme, s)

theorem world_send (s : Session β σ) (r : Http.Request) : (s.send r).2.world = s.world := by
  unfold send
  split <;> rfl

theorem memory_send (s : Session β σ) (r : Http.Request) : (s.send r).2.memory = s.memory := by
  rw [memory, s.world_send, memory]

/-- The exchange of a refresh token. -/
def renew (s : Session β σ) (token : String) : Except RenewalError Pair × Session β σ :=
  let r := Renewal.exchangeRequest s.refreshUrl token
  let (o, s) := s.send r
  (Renewal.classify r.url o, s)

variable [KeyValue σ]

/-- The renewer answers the renewal that awaits it, if there is one. -/
def answerRenewal (s : Session β σ) : Session β σ :=
  match s.world.asking? with
  | none => s
  | some (task, token) =>
    let (r, s) := s.renew token
    { s with world := s.world.step (.answer task (.ofExchange r)) }

/-- A request that came back unauthorized, until it has its result. -/
def recover (s : Session β σ) (p : Renewal.Pending) : Renewal.Resumption × Session β σ :=
  let t := s.world.fresh
  let s := { s with world := (s.world.step (.arrive p)).drain }
  let s := s.answerRenewal
  let s := { s with world := s.world.drain }
  ((s.world.resultOf? t).getD
    (.error (.sessionExpired (.networkUnavailable "renewal abandoned before settling"))), s)

/-- A login's or logout's write, until it is done. -/
def write (s : Session β σ) (w : Write) : Except StoreError Unit × Session β σ :=
  let t := s.world.fresh
  let s := { s with world := (s.world.step (.begin w)).drain }
  ((s.world.writeOf? t).getD (.ok ()), s)

end Session

/-- A conversation held alone. -/
def Conversation.hold {α β σ : Type} [Backend β] [KeyValue σ] :
    Conversation α → Session β σ → α × Session β σ
  | done a, s => (a, s)
  | access next, s => (next s.memory.access).hold s
  | refresh next, s => (next s.memory.refresh).hold s
  | exchange r next, s => let (o, s) := s.send r; (next o).hold s
  | recover p next, s => let (r, s) := s.recover p; (next r).hold s
  | pause ms next, s => next.hold { s with log := .pause ms :: s.log }
  | write w next, s => let (r, s) := s.write w; (next r).hold s

end BandCatalog
