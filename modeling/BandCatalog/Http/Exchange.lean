import BandCatalog.Http.Header
import BandCatalog.Http.Status
import BandCatalog.Json.Reader
import BandCatalog.Text.Utf8
import BandCatalog.Url.Basic

/-!
# Exchanges

A request, and what comes of sending it: an answer, or the reason why there is none.
-/
namespace BandCatalog.Http

inductive Body where
  | empty
  | text (s : String)
  /-- Chunks that can be sent only once. -/
  | stream (chunks : List String)
  deriving DecidableEq, Repr

structure Request where
  method : String
  url : Url
  headers : Headers
  body : Body
  deriving DecidableEq, Repr

/-- Whether a request can be sent a second time. -/
def Request.isRepeatable (r : Request) : Bool :=
  match r.body with
  | .stream _ => false
  | _ => true

/-- An answer. A body that breaks off has no bytes. -/
structure Response where
  status : Nat
  body : Option ByteArray
  deriving DecidableEq

namespace Response

/-- The body as text; nothing where it cannot be read. -/
def text (r : Response) : String := (r.body.map Text.decodeLossy).getD ""

/-- The body as a JSON value. A byte that belongs to no character counts as a letter and two halves of surrogate pairs:
what holds it may be skipped, not read, and no escape ends with it. -/
def json? (r : Response) : Option Json := do
  let bytes ← r.body
  match String.fromUTF8? bytes with
  | some s => Json.parseText s
  | none => Json.parse (Text.decode "x\\ud800\\ud800".toList bytes.toList)

end Response

/-- Why no answer came. -/
inductive Obstacle where
  /-- The scheme of the URL is not one that requests are sent to. -/
  | scheme
  | unreachable
  | closed
  | timeout
  deriving DecidableEq, Repr

/-- A request that got no answer. -/
structure Failure where
  url : Url
  obstacle : Obstacle
  deriving DecidableEq, Repr

namespace Failure

def message (f : Failure) : String :=
  let what := match f.obstacle with
    | .scheme => "builder error"
    | _ => "error sending request"
  s!"{what} for url ({f.url.toText})"

/-- What lies behind a failure, outermost first. -/
def causes (f : Failure) : List String :=
  match f.obstacle with
  | .scheme => ["URL scheme is not allowed"]
  | .unreachable =>
    ["client error (Connect)", "tcp connect error", "Network is unreachable (os error 101)"]
  | .closed => ["client error (SendRequest)", "connection closed before message completed"]
  | .timeout => ["operation timed out"]

end Failure

abbrev Outcome := Except Obstacle Response

/-- Whether a request can be sent at all. -/
def Request.isSendable (r : Request) : Bool := r.url.scheme == "http" || r.url.scheme == "https"

end BandCatalog.Http
