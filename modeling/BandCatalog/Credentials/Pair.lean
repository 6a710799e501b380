import BandCatalog.Json.Printer
import BandCatalog.Json.Record

/-!
# Credentials

A pair of an access and a refresh token. Neither means anything to the client.
-/
namespace BandCatalog

structure Pair where
  access : String
  refresh : String
  deriving DecidableEq, Repr

namespace Pair

/-- Each token goes by two names. -/
def fields : List (List String) :=
  [["accessToken", "access_token"], ["refreshToken", "refresh_token"]]

def decode : Json.Decode Pair := fun v => do
  let r ← Json.record? fields v
  let access ← (r 0).required Json.decodeText
  let refresh ← (r 1).required Json.decodeText
  some ⟨access, refresh⟩

def toJson (p : Pair) : Json :=
  .object [("accessToken", .text p.access), ("refreshToken", .text p.refresh)]

/-- What logs show of a pair: not its tokens. -/
def description : String :=
  "CredentialPair \x7b access_token: \"<redacted>\", refresh_token: \"<redacted>\" \x7d"

end Pair

/-- The tokens of a session; either may be missing. -/
structure Tokens where
  access : Option String
  refresh : Option String
  deriving DecidableEq, Repr

namespace Tokens

def none : Tokens := ⟨.none, .none⟩

def ofPair (p : Pair) : Tokens := ⟨some p.access, some p.refresh⟩

/-- Both tokens, if both are there. -/
def pair? (t : Tokens) : Option Pair :=
  match t.access, t.refresh with
  | some a, some r => some ⟨a, r⟩
  | _, _ => .none

end Tokens

end BandCatalog
