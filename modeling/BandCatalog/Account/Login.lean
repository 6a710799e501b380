import BandCatalog.Account.User
import BandCatalog.Credentials.Pair
import BandCatalog.Text.Quoted

/-!
# Signing in

What is sent to sign in or to register, and what the backend answers; and its answer on whether a
token is valid.
-/
namespace BandCatalog

structure Login where
  username : String
  password : String
  deriving DecidableEq, Repr

namespace Login

def toJson (l : Login) : Json :=
  .object [("username", .text l.username), ("password", .text l.password)]

/-- What logs show of a login: the username, not the password. -/
def description (l : Login) : String :=
  "LoginRequest \x7b username: " ++ Text.quote l.username ++ ", password: \"<redacted>\" \x7d"

end Login

/-- The answer to a login or registration. -/
structure SignIn where
  user : User
  tokens : Pair
  deriving DecidableEq, Repr

def SignIn.decode : Json.Decode SignIn := fun v => do
  let r ← Json.record? [["user"], ["tokens"]] v
  let user ← (r 0).required User.decode
  let tokens ← (r 1).required Pair.decode
  some ⟨user, tokens⟩

/-- Whether a token is valid, and whose it is. -/
structure TokenValidation where
  valid : Bool
  username : String
  deriving DecidableEq, Repr

def TokenValidation.decode : Json.Decode TokenValidation := fun v => do
  let r ← Json.record? [["valid"], ["username"]] v
  let valid ← (r 0).required Json.decodeBool
  let username ← (r 1).default Json.decodeText ""
  some ⟨valid, username⟩

end BandCatalog
