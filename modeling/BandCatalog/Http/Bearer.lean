import BandCatalog.Http.Exchange
import BandCatalog.Renewal.Error

/-!
# Bearer tokens

The header that carries an access token.
-/
namespace BandCatalog

def authorizationName : String := "authorization"

/-- The value of the header for a token. -/
def bearer (token : String) : String := "Bearer " ++ token

/-- A request with a token, in place of any authorization that it had. -/
def authorize (r : Http.Request) (token : String) : Except AuthError Http.Request :=
  if Http.isHeaderValue (bearer token) then
    .ok { r with headers := r.headers.set authorizationName (bearer token) true }
  else .error .malformedToken

/-- A request without authorization. -/
def unauthorize (r : Http.Request) : Http.Request :=
  { r with headers := r.headers.remove authorizationName }

/-- Two requests that differ in their headers at most by the authorization. -/
def SameRequest (a b : Http.Request) : Prop :=
  a.method = b.method ∧ a.url = b.url ∧ a.body = b.body ∧
    a.headers.remove authorizationName = b.headers.remove authorizationName

theorem sameRequest_authorize {r s : Http.Request} {token : String}
    (h : authorize r token = .ok s) : SameRequest s r := by
  unfold authorize at h
  split at h
  · cases h
    simp [SameRequest, Http.Headers.set, Http.Headers.remove, Http.lowerName, authorizationName]
  · cases h

end BandCatalog
