import BandCatalog.Client.Session

/-!
# Replays

A backend of which only the first answers are known. What is done with them can be computed; the first
request beyond them is kept, so that it can be made and the computation done again with its answer.
-/
namespace BandCatalog

structure Replay where
  known : List Http.Outcome
  /-- The first request to which no answer is known. -/
  wanted : Option Http.Request

namespace Replay

def ofList (known : List Http.Outcome) : Replay := ⟨known, none⟩

instance : Backend Replay where
  answer b r :=
    match b.known with
    | o :: rest => (o, { b with known := rest })
    | [] => (.error .closed, { b with wanted := b.wanted.or (some r) })

/-- The time that a session lets pass before the exchange with so many before it, by its log. -/
def waitBefore : Nat → List LogEntry → Nat
  | _, [] => 0
  | 0, .pause ms :: log => ms + waitBefore 0 log
  | 0, .exchange _ _ _ :: _ => 0
  | n + 1, .pause _ :: log => waitBefore (n + 1) log
  | n + 1, .exchange _ _ _ :: log => waitBefore n log

end Replay

end BandCatalog
