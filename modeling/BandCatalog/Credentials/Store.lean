import BandCatalog.Credentials.Pair
import BandCatalog.Storage.Basic

/-!
# The credential store

The tokens of the current session in memory, which every reader sees, and behind them a storage that
outlives the program. A write changes the memory first, as a whole; then it makes its storage calls in
turn, up to the first that fails.
-/
namespace BandCatalog

def accessKey : String := "access_token"
def refreshKey : String := "refresh_token"

/-- A storage call of the store that failed. -/
structure StoreError where
  call : StorageCall
  cause : StorageError
  deriving DecidableEq, Repr

namespace StoreError

def message (e : StoreError) : String :=
  let token := if e.call.key = accessKey then "access token" else "refresh token"
  match e.call with
  | .get _ => s!"Failed to load {token}"
  | .set _ _ => s!"Failed to persist {token}"
  | .remove _ => s!"Failed to remove {token}"

def causes (e : StoreError) : List String := e.cause.message :: e.cause.causes

end StoreError

/-- What is done to the credentials. -/
inductive Write where
  | put (p : Pair)
  | forget
  deriving DecidableEq, Repr

namespace Write

/-- The tokens in memory after a write. -/
def tokens : Write → Tokens
  | put p => .ofPair p
  | forget => .none

/-- The storage calls of a write, in order. -/
def calls : Write → List StorageCall
  | put p => [.set accessKey p.access, .set refreshKey p.refresh]
  | forget => [.remove accessKey, .remove refreshKey]

end Write

/-- A storage call that was made, and whether it failed. -/
structure Report where
  call : StorageCall
  failed : Bool
  deriving DecidableEq, Repr

structure Store (σ : Type) where
  storage : σ
  memory : Tokens
  deriving DecidableEq, Repr

namespace Store

variable {σ : Type} [KeyValue σ]

/-- One storage call of the store. -/
def call (s : σ) (c : StorageCall) : Except StoreError (Option String) × Report × σ :=
  match perform s c with
  | (.ok v, s) => (.ok v, ⟨c, false⟩, s)
  | (.error e, s) => (.error ⟨c, e⟩, ⟨c, true⟩, s)

/-- Storage calls in turn, up to the first that fails. -/
def persist (s : σ) : List StorageCall → Except StoreError Unit × List Report × σ
  | [] => (.ok (), [], s)
  | c :: cs =>
    match call s c with
    | (.ok _, report, s) => let (r, reports, s) := persist s cs; (r, report :: reports, s)
    | (.error e, report, s) => (.error e, [report], s)

/-- A write as a whole. -/
def write (s : Store σ) (w : Write) : Except StoreError Unit × List Report × Store σ :=
  let (r, reports, storage) := persist s.storage w.calls
  (r, reports, ⟨storage, w.tokens⟩)

/-- The tokens that a storage holds. -/
def load (s : σ) : Except StoreError Tokens × List Report × σ :=
  match call s (.get accessKey) with
  | (.error e, first, s) => (.error e, [first], s)
  | (.ok access, first, s) =>
    match call s (.get refreshKey) with
    | (.error e, second, s) => (.error e, [first, second], s)
    | (.ok refresh, second, s) => (.ok ⟨access, refresh⟩, [first, second], s)

/-- The store on a storage. -/
def open? (s : σ) : Except StoreError (Store σ) × List Report × σ :=
  let (r, reports, s) := load s
  (r.map fun tokens => ⟨s, tokens⟩, reports, s)

/-- The store opened again on its storage; where that fails it stays as it is. -/
def reopen (s : Store σ) : Except StoreError Unit × List Report × Store σ :=
  let (r, reports, storage) := load s.storage
  match r with
  | .ok tokens => (.ok (), reports, ⟨storage, tokens⟩)
  | .error e => (.error e, reports, ⟨storage, s.memory⟩)

def isAuthenticated (s : Store σ) : Bool := s.memory.access.isSome

end Store

end BandCatalog
