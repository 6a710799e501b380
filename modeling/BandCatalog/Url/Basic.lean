import BandCatalog.Url.Host

/-!
# URLs

A URL in its parts, and its text.
-/
namespace BandCatalog

namespace Url

/-- User, host and port. -/
structure Authority where
  username : String
  password : String
  host : Host
  port : Option Nat
  deriving DecidableEq, Repr

/-- A path of segments, or the text of a URL that has no place for them. -/
inductive Path where
  | segments (ss : List String)
  | flat (s : String)
  deriving DecidableEq, Repr

namespace Path

def toChars : Path → List Char
  | segments ss => ss.flatMap fun s => '/' :: s.toList
  | flat s => s.toList

/-- The path with a slash at its end. A flat path never starts with a slash: one that would is
written `%2F`. -/
def withSlash : Path → Path
  | segments ss => if ss.getLast? = some "" then segments ss else segments (ss ++ [""])
  | flat s =>
    if s = "" then flat "%2F"
    else if s.toList.getLast? = some '/' then flat s
    else flat (s ++ "/")

end Path

end Url

structure Url where
  scheme : String
  authority : Option Url.Authority
  path : Url.Path
  query : Option String
  fragment : Option String
  deriving DecidableEq, Repr

namespace Url

/-- The port that a scheme implies. -/
def defaultPort (scheme : String) : Option Nat :=
  if scheme = "http" ∨ scheme = "ws" then some 80
  else if scheme = "https" ∨ scheme = "wss" then some 443
  else if scheme = "ftp" then some 21
  else none

def isSpecial (scheme : String) : Bool := (defaultPort scheme).isSome || scheme == "file"

/-- The text of a path. -/
def pathText (u : Url) : String := String.ofList u.path.toChars

def Authority.toChars (a : Authority) : List Char :=
  let user := a.username.toList ++ if a.password = "" then [] else ':' :: a.password.toList
  (if user = [] then [] else user ++ ['@']) ++ a.host.toChars ++
    match a.port with
    | none => []
    | some p => ':' :: Nat.toDigits 10 p

/-- The part of a text before the query. Where there is no authority, a path that starts with two
slashes is kept apart from one by `/.`. -/
def frontChars (u : Url) : List Char :=
  u.scheme.toList ++ ':' ::
    (match u.authority with
      | some a => '/' :: '/' :: a.toChars
      | none => match u.path with
        | .segments ("" :: _ :: _) => ['/', '.']
        | _ => []) ++
    u.path.toChars

def toChars (u : Url) : List Char :=
  u.frontChars ++
    (match u.query with
      | none => []
      | some q => '?' :: q.toList) ++
    match u.fragment with
    | none => []
    | some f => '#' :: f.toList

def toText (u : Url) : String := String.ofList u.toChars

/-- Whether a relative reference cannot be resolved against a URL. -/
def isFlat (u : Url) : Bool :=
  match u.path with
  | .flat _ => true
  | .segments _ => false

/-- Whether user information is given. -/
def hasUserInfo (u : Url) : Bool :=
  u.authority.any fun a => a.username ≠ "" ∨ a.password ≠ ""

end Url

end BandCatalog
