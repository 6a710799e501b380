import BandCatalog.Account.Permission
import BandCatalog.Calendar.Reader
import BandCatalog.Json.Printer
import BandCatalog.Json.Record

/-!
# Users

An account with its roles, as the backend describes it.
-/
namespace BandCatalog

namespace Calendar

def DateTime.decode : Json.Decode DateTime
  | .text s => DateTime.ofChars? s.toList
  | _ => none

def DateTime.toJson (t : DateTime) : Json := .text t.toText

def Date.toJson (d : Date) : Json := .text d.toText

end Calendar

namespace Permission

def decode : Json.Decode Permission := Json.decodeWord ofName?

def toJson (p : Permission) : Json := .text p.name

end Permission

namespace Role

/-- A text that is no role's name is an unknown role. -/
def decode : Json.Decode Role := Json.decodeWord fun s => some (ofName s)

def toJson (r : Role) : Json := .text r.name

end Role

structure User where
  id : Int
  username : String
  roles : List Role
  createdAt : Option Calendar.DateTime
  updatedAt : Option Calendar.DateTime
  deriving DecidableEq, Repr

namespace User

def fields : List (List String) := [["id"], ["username"], ["roles"], ["createdAt"], ["updatedAt"]]

def decode : Json.Decode User := fun v => do
  let r ← Json.record? fields v
  let id ← (r 0).required Json.decodeInt64
  let username ← (r 1).required Json.decodeText
  let roles ← (r 2).default (Json.decodeList Role.decode) []
  let createdAt ← (r 3).optional Calendar.DateTime.decode
  let updatedAt ← (r 4).optional Calendar.DateTime.decode
  some ⟨id, username, roles, createdAt, updatedAt⟩

def toJson (u : User) : Json :=
  .object [("id", .ofInt u.id), ("username", .text u.username),
    ("roles", .array (u.roles.map Role.toJson)),
    ("createdAt", .ofOption Calendar.DateTime.toJson u.createdAt),
    ("updatedAt", .ofOption Calendar.DateTime.toJson u.updatedAt)]

def isAdmin (u : User) : Bool := u.roles.contains .admin

/-- What the roles of a user grant, each once. -/
def permissions (u : User) : List Permission :=
  Permission.all.filter fun p => u.roles.any fun r => r.permissions.contains p

theorem mem_permissions {u : User} {p : Permission} :
    p ∈ u.permissions ↔ ∃ r ∈ u.roles, p ∈ r.permissions := by
  simp [permissions, Permission.mem_all]

end User

end BandCatalog
