/-!
# Errors of renewal

Why the exchange of a refresh token failed, and what that means for those who waited for it.
-/
namespace BandCatalog

/-- Why one exchange of a refresh token failed. -/
inductive RenewalError where
  | rejected (status : Nat) (message : String)
  | networkUnavailable (message : String)
  | invalidResponse (message : String)
  deriving DecidableEq, Repr

def RenewalError.message : RenewalError → String
  | rejected status message => s!"Refresh token rejected ({status}): {message}"
  | networkUnavailable message => s!"Network unavailable during renewal: {message}"
  | invalidResponse message => s!"Invalid renewal response: {message}"

/-- Why a session ended. -/
inductive TerminalCause where
  | noCredential
  | renewalRejected (text : String)
  | networkUnavailable (text : String)
  deriving DecidableEq, Repr

namespace TerminalCause

def message : TerminalCause → String
  | noCredential => "no refresh token available"
  | renewalRejected text => s!"refresh token rejected: {text}"
  | networkUnavailable text => s!"network unavailable: {text}"

/-- A network that was not there stays apart from every other failure. -/
def ofError : RenewalError → TerminalCause
  | .networkUnavailable text => networkUnavailable text
  | e => renewalRejected e.message

end TerminalCause

inductive AuthError where
  | sessionExpired (cause : TerminalCause)
  /-- The access token holds characters that no header may hold. -/
  | malformedToken
  deriving DecidableEq, Repr

namespace AuthError

def message : AuthError → String
  | sessionExpired cause => s!"Session expired - please log in again ({cause.message})"
  | malformedToken => "Access token contains characters not valid in a header"

def causes : AuthError → List String
  | sessionExpired cause => [cause.message]
  | malformedToken => []

end AuthError

end BandCatalog
