import BandCatalog.Credentials.Store
import BandCatalog.Http.Exchange
import BandCatalog.Json.Record
import BandCatalog.Renewal.Error
import BandCatalog.Text.Excerpt
import BandCatalog.Url.Endpoint

/-!
# Errors of the client

What a call of the backend can fail with. The text of an error status is taken from the body, which
the backend's error handlers write as a message with details.
-/
namespace BandCatalog

inductive ApiError where
  | badRequest (text : String)
  | accessDenied (text : String)
  | unauthorized
  | retryExhausted (text : String)
  | notFound (text : String)
  | rateLimited
  | serverError (text : String)
  | network (failure : Http.Failure)
  | invalidResponse (text : String)
  | auth (error : AuthError)
  deriving DecidableEq, Repr

namespace ApiError

def message : ApiError → String
  | badRequest text => s!"Invalid request: {text}"
  | accessDenied text => s!"Access denied: {text}"
  | unauthorized => "Unauthorized - invalid credentials or expired session"
  | retryExhausted text => s!"Still unauthorized after renewing credentials: {text}"
  | notFound text => s!"Resource not found: {text}"
  | rateLimited => "Rate limited - please wait before retrying"
  | serverError text => s!"Server error: {text}"
  | network failure => s!"Network error: {failure.message}"
  | invalidResponse text => s!"Invalid response: {text}"
  | auth error => error.message

/-- What lies behind an error, outermost first. -/
def causes : ApiError → List String
  | network failure => failure.message :: failure.causes
  | auth error => error.causes
  | _ => []

/-- Whether the user has to sign in again. -/
def isSessionEnded : ApiError → Bool
  | unauthorized => true
  | retryExhausted _ => true
  | auth _ => true
  | _ => false

end ApiError

/-- What a call of the client fails with. -/
inductive Failure where
  | api (error : ApiError)
  /-- A request got no answer. -/
  | sending (method : String) (failure : Http.Failure)
  /-- The body of a success is not what it should be. -/
  | undecodable (url : Url)
  | address (error : AddressError)
  | store (error : StoreError)
  deriving DecidableEq, Repr

namespace Failure

/-- The error of the backend's side, if there is one. -/
def api? : Failure → Option ApiError
  | api e => some e
  | sending _ f => some (.network f)
  | _ => none

def message : Failure → String
  | api e => e.message
  | sending method f => s!"Failed to send {method} request to {f.url.toText}"
  | undecodable url => s!"Failed to parse JSON response from {url.toText}"
  | address e => e.message
  | store e => e.message

/-- What lies behind a failure, outermost first. Where a body cannot be decoded one text stands for all reasons. -/
def causes : Failure → List String
  | api e => e.causes
  | sending _ f => (ApiError.network f).message :: (ApiError.network f).causes
  | undecodable _ => ["error decoding response body", "not of the expected form"]
  | address e => [e.cause.message]
  | store e => e.causes

/-- A failure and all that lies behind it, in one line. -/
def chain (f : Failure) : String := ": ".intercalate (f.message :: f.causes)

def isSessionEnded (f : Failure) : Bool := f.api?.any ApiError.isSessionEnded

end Failure

/-- One detail of an error body. -/
structure ErrorDetail where
  field : Option String
  message : Option String
  deriving DecidableEq, Repr

/-- The body that the backend's error handlers write. -/
structure ErrorBody where
  message : Option String
  details : List ErrorDetail
  deriving DecidableEq, Repr

namespace ErrorDetail

def decode : Json.Decode ErrorDetail := fun v => do
  let r ← Json.record? [["field"], ["message"]] v
  let field ← (r 0).optional Json.decodeText
  let message ← (r 1).optional Json.decodeText
  some ⟨field, message⟩

/-- The message of a detail, after its field if it names one. -/
def text? (d : ErrorDetail) : Option String :=
  d.message.map fun m =>
    match d.field with
    | some f => f ++ ": " ++ m
    | none => m

end ErrorDetail

namespace ErrorBody

def decode : Json.Decode ErrorBody := fun v => do
  let r ← Json.record? [["message"], ["details"]] v
  let message ← (r 0).optional Json.decodeText
  let details ← (r 1).default (Json.decodeList ErrorDetail.decode) []
  some ⟨message, details⟩

/-- The message with the details that have one. -/
def summary? (b : ErrorBody) : Option String :=
  b.message.map fun m =>
    match b.details.filterMap ErrorDetail.text? with
    | [] => m
    | texts => m ++ " (" ++ "; ".intercalate texts ++ ")"

end ErrorBody

/-- What a body says: the summary of an error body, or any other body as it is. -/
def bodySummary (body : String) : String :=
  (((Json.parseText body).bind ErrorBody.decode).bind ErrorBody.summary?).getD body

/-- The error of an answer that is not a success. -/
def ApiError.ofStatus (status : Nat) (body : String) : ApiError :=
  let text := Text.excerpt (bodySummary body)
  if status = 400 ∨ status = 422 then badRequest text
  else if status = 401 then unauthorized
  else if status = 403 then accessDenied text
  else if status = 404 then notFound text
  else if status = 429 then rateLimited
  else if 500 ≤ status ∧ status ≤ 599 then serverError text
  else invalidResponse s!"Status {Http.statusText status}: {text}"

end BandCatalog
