import BandCatalog.Credentials.Store
import BandCatalog.Http.Bearer

/-!
# The renewal coordinator

Requests that come back unauthorized share one renewal of the credentials. The coordinator is a world
of tasks that take one atomic step at a time, in any order:

* an admission looks at the gate and at the store, and queues the request, starts a renewal, hands the
  request back with a token that was renewed in the meantime, or finds no refresh token;
* a renewal calls the renewer, writes its outcome to the store, settles (the gate becomes idle again)
  and then resumes its waiters, first come, first served;
* a login or logout writes to the store.

A write to the store is one step in memory and one for each storage call.
-/
namespace BandCatalog.Renewal

/-- A request that came back unauthorized, with the access token that it carried. -/
structure Pending where
  request : Http.Request
  sentWith : Option String
  deriving DecidableEq, Repr

/-- The number of an admission or of a task. -/
abbrev Ticket := Nat

/-- A request that waits for the renewal in flight. -/
structure Waiter where
  ticket : Ticket
  request : Http.Request
  deriving DecidableEq, Repr

/-- Whether a renewal is in flight, and who waits for it. -/
inductive Gate where
  | idle
  | refreshing (waiters : List Waiter)
  deriving DecidableEq, Repr

namespace Gate

def isRefreshing : Gate → Bool
  | idle => false
  | refreshing _ => true

def waiters : Gate → List Waiter
  | idle => []
  | refreshing ws => ws

end Gate

/-- What a renewer does with a refresh token. -/
inductive Answer where
  | pair (p : Pair)
  | error (e : RenewalError)
  | panic
  deriving DecidableEq, Repr

/-- What an answer means for those who wait. -/
inductive Verdict where
  | renewed (p : Pair)
  | ended (cause : TerminalCause)
  deriving DecidableEq, Repr

namespace Verdict

def ofAnswer : Answer → Verdict
  | .pair p => renewed p
  | .error e => ended (.ofError e)
  | .panic => ended (.ofError (.invalidResponse "renewal client panicked"))

/-- What is done to the store before anyone is resumed. -/
def write : Verdict → Write
  | renewed p => .put p
  | ended _ => .forget

end Verdict

/-- What a request gets that waited. -/
abbrev Resumption := Except AuthError Http.Request

def Verdict.resume (v : Verdict) (r : Http.Request) : Resumption :=
  match v with
  | .renewed p => authorize r p.access
  | .ended cause => .error (.sessionExpired cause)

/-- On whose behalf the store is written. -/
inductive Purpose where
  /-- A renewal, which settles next. -/
  | settle (v : Verdict)
  /-- A request that found no refresh token, and is turned away next. -/
  | dismiss (t : Ticket)
  /-- A login or logout. -/
  | session
  deriving DecidableEq, Repr

/-- What is left of a task. -/
inductive Task where
  /-- A renewal that has not yet called the renewer. -/
  | start (token : String)
  /-- A renewal whose renewer has not yet answered. -/
  | ask (token : String)
  /-- The write of the store in memory. -/
  | write (w : Write) (p : Purpose)
  /-- Storage calls that are left of a write, and what came of it so far. -/
  | persist (calls : List StorageCall) (result : Except StoreError Unit) (p : Purpose)
  /-- Waiters still to be resumed. A session that ended redirects after the last. -/
  | flush (v : Verdict) (left : List Waiter)

/-- Steps that a task takes at most before it has ended or waits for its renewer, those for waiters
that it has not yet taken over aside. -/
def Task.work : Task → Nat
  | start _ => 1
  | ask _ => 0
  | write c _ => c.calls.length + 3
  | persist cs _ _ => cs.length + 2
  | flush _ ws => ws.length + 1

/-- What can be seen of a step. -/
inductive Mark where
  | asked (token : String)
  | remembered (tokens : Tokens) (refreshing : Bool)
  | called (report : Report) (refreshing : Bool)
  /-- A result was sent to a request, which took it unless it had been dropped. -/
  | resumed (t : Ticket) (result : Resumption) (taken : Bool)
  | redirected
  /-- A login or logout was written. -/
  | wrote (task : Ticket) (result : Except StoreError Unit)

structure World (σ : Type) where
  store : Store σ
  gate : Gate
  /-- Unfinished tasks, oldest first. -/
  tasks : List (Ticket × Task)
  /-- The number of the next admission or task. -/
  fresh : Ticket
  /-- Admissions that wait for a result. -/
  waiting : List Ticket
  /-- A count without bound; that of a machine starts again after 2 ^ 64 renewals. -/
  renewals : Nat
  redirects : Nat
  /-- Newest first. -/
  trace : List Mark

/-- What happens next. -/
inductive Event where
  /-- A request comes back unauthorized. -/
  | arrive (p : Pending)
  /-- A request that waits is given up. -/
  | drop (t : Ticket)
  /-- The renewer answers a renewal. -/
  | answer (task : Ticket) (a : Answer)
  /-- A task takes a step. -/
  | advance (task : Ticket)
  /-- A login or logout begins. -/
  | begin (w : Write)
  deriving DecidableEq, Repr

namespace World

variable {σ : Type}

/-- A coordinator on a store, before anything has happened. -/
def new (s : Store σ) : World σ := ⟨s, .idle, [], 0, [], 0, 0, []⟩

def mark (w : World σ) (m : Mark) : World σ := { w with trace := m :: w.trace }

/-- A new task. -/
def spawn (w : World σ) (t : Task) : World σ :=
  { w with tasks := w.tasks ++ [(w.fresh, t)], fresh := w.fresh + 1 }

/-- What is left of a task after a step of it. -/
def become (w : World σ) (id : Ticket) (t : Task) : World σ :=
  { w with tasks := w.tasks.map fun e => if e.1 = id then (id, t) else e }

def finish (w : World σ) (id : Ticket) : World σ :=
  { w with tasks := w.tasks.filter fun e => e.1 ≠ id }

def task? (w : World σ) (id : Ticket) : Option Task := w.tasks.lookup id

/-- A result sent to a request. -/
def resume (w : World σ) (t : Ticket) (result : Resumption) : World σ :=
  { w with waiting := w.waiting.erase t }.mark (.resumed t result (w.waiting.contains t))

def redirect (w : World σ) : World σ := { w with redirects := w.redirects + 1 }.mark .redirected

/-- A request comes back unauthorized. -/
def arrive (w : World σ) (p : Pending) : World σ :=
  let t := w.fresh
  let w := { w with fresh := t + 1, waiting := w.waiting ++ [t] }
  match w.gate with
  | .refreshing ws => { w with gate := .refreshing (ws ++ [⟨t, p.request⟩]) }
  | .idle =>
    let renewed := w.store.memory.access.filter fun a => p.sentWith ≠ some a
    match renewed, w.store.memory.refresh with
    | some a, _ => w.resume t (authorize p.request a)
    | none, some token =>
      { w with gate := .refreshing [⟨t, p.request⟩], renewals := w.renewals + 1 }.spawn (.start token)
    | none, none => w.spawn (.write .forget (.dismiss t))

/-- The storage calls of a write are done. -/
def conclude (w : World σ) (id : Ticket) (result : Except StoreError Unit) : Purpose → World σ
  | .settle v => { w with gate := .idle }.become id (.flush v w.gate.waiters)
  | .dismiss t => (w.redirect.resume t (.error (.sessionExpired .noCredential))).finish id
  | .session => (w.mark (.wrote id result)).finish id

/-- One step of a task; a renewer that has not answered has none. -/
def advance [KeyValue σ] (w : World σ) (id : Ticket) : Task → World σ
  | .start token => (w.mark (.asked token)).become id (.ask token)
  | .ask _ => w
  | .write c p =>
    ({ w with store := { w.store with memory := c.tokens } }.mark
      (.remembered c.tokens w.gate.isRefreshing)).become id (.persist c.calls (.ok ()) p)
  | .persist [] result p => w.conclude id result p
  | .persist (c :: cs) result p =>
    let (r, report, storage) := Store.call w.store.storage c
    let w := { w with store := { w.store with storage := storage } }.mark
      (.called report w.gate.isRefreshing)
    match r with
    | .ok _ => w.become id (.persist cs result p)
    | .error e => w.become id (.persist [] (.error e) p)
  | .flush v (x :: xs) => (w.resume x.ticket (v.resume x.request)).become id (.flush v xs)
  | .flush (.renewed _) [] => w.finish id
  | .flush (.ended _) [] => w.redirect.finish id

/-- One atomic step. An event that does not fit the world changes nothing. -/
def step [KeyValue σ] (w : World σ) : Event → World σ
  | .arrive p => w.arrive p
  | .drop t => { w with waiting := w.waiting.erase t }
  | .answer id a =>
    match w.task? id with
    | some (.ask _) =>
      let v := Verdict.ofAnswer a
      w.become id (.write v.write (.settle v))
    | _ => w
  | .advance id =>
    match w.task? id with
    | some t => w.advance id t
    | none => w
  | .begin c => w.spawn (.write c .session)

/-- Steps in turn. -/
def run [KeyValue σ] (w : World σ) (es : List Event) : World σ := es.foldl step w

@[simp] theorem run_nil [KeyValue σ] (w : World σ) : w.run [] = w := rfl
@[simp] theorem run_cons [KeyValue σ] (w : World σ) (e : Event) (es : List Event) :
    w.run (e :: es) = (w.step e).run es := rfl
theorem run_append [KeyValue σ] (w : World σ) (a b : List Event) :
    w.run (a ++ b) = (w.run a).run b := by simp [run]

/-- A bound on the steps that the tasks can take before each has ended or waits for its renewer. -/
def work (w : World σ) : Nat :=
  w.tasks.foldr (fun e n => e.2.work + n) w.gate.waiters.length

/-- The oldest task that can take a step. -/
def runnable? (w : World σ) : Option Ticket :=
  (w.tasks.find? fun e => e.2.work ≠ 0).map Prod.fst

def drainFor [KeyValue σ] : Nat → World σ → World σ
  | 0, w => w
  | n + 1, w =>
    match w.runnable? with
    | some id => drainFor n (w.step (.advance id))
    | none => w

/-- Steps of the oldest task that can take one, until none can. -/
def drain [KeyValue σ] (w : World σ) : World σ := drainFor w.work w

/-- The oldest renewal whose renewer is awaited, and the token that it was given. -/
def asking? (w : World σ) : Option (Ticket × String) :=
  w.tasks.findSome? fun e =>
    match e.2 with
    | .ask token => some (e.1, token)
    | _ => none

/-- What was sent to a request. -/
def resultOf? (w : World σ) (t : Ticket) : Option Resumption :=
  w.trace.findSome? fun m =>
    match m with
    | .resumed u result _ => if u = t then some result else none
    | _ => none

/-- What came of a login's or logout's write. -/
def writeOf? (w : World σ) (id : Ticket) : Option (Except StoreError Unit) :=
  w.trace.findSome? fun m =>
    match m with
    | .wrote i result => if i = id then some result else none
    | _ => none

end World

end BandCatalog.Renewal
