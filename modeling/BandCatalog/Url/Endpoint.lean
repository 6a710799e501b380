import BandCatalog.Text.Blank
import BandCatalog.Url.Reader

/-!
# Endpoints

The backend's base URL, and the endpoints that lie beneath it.
-/
namespace BandCatalog

/-- The endpoints that the client uses. -/
inductive Endpoint where
  | login
  | register
  | refresh
  | logout
  | validate
  | currentUser
  | permissions
  | bands
  | band (id : Int)
  deriving DecidableEq, Repr

/-- The path of an endpoint beneath the base. -/
def Endpoint.path : Endpoint → String
  | login => "auth/login"
  | register => "auth/register"
  | refresh => "auth/refresh"
  | logout => "auth/logout"
  | validate => "auth/validate"
  | currentUser => "users/me"
  | permissions => "users/permissions"
  | bands => "music-bands"
  | band id => "music-bands/" ++ toString id

/-- Why there is no URL for a base or an endpoint. -/
inductive AddressError where
  | base (raw : String) (cause : Url.Error)
  | endpoint (path : String) (cause : Url.Error)
  deriving DecidableEq, Repr

namespace AddressError

def message : AddressError → String
  | base raw _ => s!"Invalid API URL: {raw}"
  | endpoint path _ => s!"Invalid endpoint path: {path}"

def cause : AddressError → Url.Error
  | base _ e => e
  | endpoint _ e => e

end AddressError

namespace Url

/-- A URL whose path ends in a slash, so that relative paths resolve beneath it. -/
def withSlash (u : Url) : Url := { u with path := u.path.withSlash }

/-- The base URL that a text gives, white space around it aside. -/
def base (raw : String) : Except AddressError Url :=
  match parse (Text.trimmed raw) with
  | .ok u => .ok u.withSlash
  | .error e => .error (.base raw e)

/-- A path resolved beneath a base; slashes in front of it do not count. -/
def beneath (base : Url) (path : String) : Except AddressError Url :=
  match base.withSlash.join (String.ofList (path.toList.dropWhile (· == '/'))) with
  | .ok u => .ok u
  | .error e => .error (.endpoint path e)

def endpoint (base : Url) (e : Endpoint) : Except AddressError Url := base.beneath e.path

/-- Paths whose requests carry no token and start no renewal. -/
def unauthenticatedPaths : List String := ["/auth/login", "/auth/register", "/auth/refresh"]

/-- Whether the path of a URL ends in one of those, slashes at its end aside. -/
def isUnauthenticated (u : Url) : Bool :=
  let back := u.path.toChars.reverse.dropWhile (· == '/')
  unauthenticatedPaths.any fun p => p.toList.reverse.isPrefixOf back

end Url

end BandCatalog
