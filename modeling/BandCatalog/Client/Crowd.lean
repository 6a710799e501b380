import BandCatalog.Client.Session

/-!
# Conversations at the same time

Several conversations on one session. Each step belongs to one conversation, to one task of the
coordinator, or to the renewer; the steps may come in any order. An answer of the backend arrives in a
step of its own.
-/
namespace BandCatalog

/-- Where a conversation stands. -/
inductive Speaker (α : Type) where
  | speaking (c : Conversation α)
  /-- An answer is on its way. -/
  | listening (o : Http.Outcome) (next : Http.Outcome → Conversation α)
  /-- The coordinator has not yet sent a result. -/
  | waiting (t : Renewal.Ticket) (next : Renewal.Resumption → Conversation α)
  /-- A write of the store is not yet done. -/
  | writing (t : Renewal.Ticket) (next : Except StoreError Unit → Conversation α)

structure Crowd (α β σ : Type) where
  session : Session β σ
  speakers : List (Speaker α)

/-- Whose step is next. -/
inductive Turn where
  | speaker (i : Nat)
  | task (t : Renewal.Ticket)
  | renewer
  deriving DecidableEq, Repr

namespace Crowd

variable {α β σ : Type} [Backend β] [KeyValue σ]

/-- An event at the coordinator. -/
def happen (s : Session β σ) (e : Renewal.Event) : Session β σ := { s with world := s.world.step e }

/-- One step of a conversation; nothing if it has ended or has to wait. -/
def speak (s : Session β σ) : Speaker α → Option (Speaker α × Session β σ)
  | .speaking (.done _) => none
  | .speaking (.access next) => some (.speaking (next s.memory.access), s)
  | .speaking (.refresh next) => some (.speaking (next s.memory.refresh), s)
  | .speaking (.exchange r next) => let (o, s) := s.send r; some (.listening o next, s)
  | .speaking (.recover p next) => some (.waiting s.world.fresh next, happen s (.arrive p))
  | .speaking (.pause ms next) => some (.speaking next, { s with log := .pause ms :: s.log })
  | .speaking (.write w next) => some (.writing s.world.fresh next, happen s (.begin w))
  | .listening o next => some (.speaking (next o), s)
  | .waiting t next => (s.world.resultOf? t).map fun r => (.speaking (next r), s)
  | .writing t next => (s.world.writeOf? t).map fun r => (.speaking (next r), s)

/-- One step. A turn of one that has none changes nothing. -/
def step (c : Crowd α β σ) : Turn → Crowd α β σ
  | .speaker i =>
    match c.speakers[i]?.bind (speak c.session) with
    | some (speaker, session) => ⟨session, c.speakers.set i speaker⟩
    | none => c
  | .task t => { c with session := happen c.session (.advance t) }
  | .renewer => { c with session := c.session.answerRenewal }

def run (c : Crowd α β σ) (ts : List Turn) : Crowd α β σ := ts.foldl step c

/-- The results, once all have ended. -/
def results? (c : Crowd α β σ) : Option (List α) :=
  c.speakers.mapM fun
    | .speaking (.done a) => some a
    | _ => none

/-- Conversations speak as long as they can, then tasks go on, and only then the renewer answers. -/
def turn? (c : Crowd α β σ) : Option Turn :=
  match c.speakers.findIdx? fun x => (speak c.session x).isSome with
  | some i => some (.speaker i)
  | none =>
    match c.session.world.runnable? with
    | some t => some (.task t)
    | none => c.session.world.asking?.map fun _ => .renewer

/-- At most so many steps in that order. -/
def settle : Nat → Crowd α β σ → Crowd α β σ
  | 0, c => c
  | n + 1, c =>
    match c.turn? with
    | some t => settle n (c.step t)
    | none => c

end Crowd

end BandCatalog
