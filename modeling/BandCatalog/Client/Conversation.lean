import BandCatalog.Client.Error
import BandCatalog.Renewal.Coordinator

/-!
# Conversations

What a call of the client does, as a value: the exchanges, waits and looks at the credentials that it
makes, in order, each with what follows from its outcome. A conversation can be held alone or among
others.
-/
namespace BandCatalog

inductive Conversation (α : Type) where
  | done (a : α)
  /-- The access token in memory. -/
  | access (next : Option String → Conversation α)
  /-- The refresh token in memory. -/
  | refresh (next : Option String → Conversation α)
  | exchange (r : Http.Request) (next : Http.Outcome → Conversation α)
  /-- A request that came back unauthorized is handed to the coordinator. -/
  | recover (p : Renewal.Pending) (next : Renewal.Resumption → Conversation α)
  | pause (milliseconds : Nat) (next : Conversation α)
  | write (w : Write) (next : Except StoreError Unit → Conversation α)

namespace Conversation

def bind {α β : Type} (c : Conversation α) (f : α → Conversation β) : Conversation β :=
  match c with
  | done a => f a
  | access next => access fun t => (next t).bind f
  | refresh next => refresh fun t => (next t).bind f
  | exchange r next => exchange r fun o => (next o).bind f
  | recover p next => recover p fun r => (next r).bind f
  | pause ms next => pause ms (next.bind f)
  | write w next => write w fun r => (next r).bind f

instance : Monad Conversation where
  pure := done
  bind := bind

/-- What follows a success; a failure ends the conversation. -/
def andThen {α β : Type} (c : Conversation (Except Failure α))
    (f : α → Conversation (Except Failure β)) : Conversation (Except Failure β) :=
  c.bind fun
    | .ok a => f a
    | .error e => done (.error e)

end Conversation

end BandCatalog
