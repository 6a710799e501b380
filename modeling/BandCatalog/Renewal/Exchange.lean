import BandCatalog.Client.Error
import BandCatalog.Http.Building
import BandCatalog.Renewal.Coordinator

/-!
# The exchange of a refresh token

One request to the refresh endpoint, and what its outcome means.
-/
namespace BandCatalog.Renewal

/-- The body of the request: the refresh token. -/
def exchangeBody (token : String) : Json := .object [("refreshToken", .text token)]

/-- The request that exchanges a refresh token. -/
def exchangeRequest (url : Url) (token : String) : Http.Request :=
  .build "POST" url (some (exchangeBody token))

/-- What the outcome of the request means. -/
def classify (url : Url) : Http.Outcome → Except RenewalError Pair
  | .error o => .error (.networkUnavailable (Http.Failure.message ⟨url, o⟩))
  | .ok r =>
    if Http.isSuccess r.status then
      match r.json?.bind Pair.decode with
      | some p => .ok p
      | none => .error (.invalidResponse "error decoding response body")
    else .error (.rejected r.status (Text.excerpt r.text))

/-- The renewer's answer. -/
def Answer.ofExchange : Except RenewalError Pair → Answer
  | .ok p => .pair p
  | .error e => .error e

end BandCatalog.Renewal
