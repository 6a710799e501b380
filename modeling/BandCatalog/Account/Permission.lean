import BandCatalog.Text.Blank

/-!
# Permissions and roles

What a user may do, and which of it each role grants.
-/
namespace BandCatalog

inductive Permission where
  | entityCreate
  | entityRead
  | ownEntityUpdate
  | allEntityUpdate
  | ownEntityDelete
  | allEntityDelete
  | allEntityBulkDelete
  | ownEntityBulkDelete
  | allUserRead
  | allUserUpdate
  | allUserDelete
  | allUserBulkDelete
  | importEntity
  | readOwnImport
  | readAllImport
  deriving DecidableEq, Repr

namespace Permission

/-- Every permission, in the order in which lists of them are kept. -/
def all : List Permission :=
  [entityCreate, entityRead, ownEntityUpdate, allEntityUpdate, ownEntityDelete, allEntityDelete,
    allEntityBulkDelete, ownEntityBulkDelete, allUserRead, allUserUpdate, allUserDelete,
    allUserBulkDelete, importEntity, readOwnImport, readAllImport]

theorem mem_all (p : Permission) : p ∈ all := by cases p <;> decide

def name : Permission → String
  | entityCreate => "ENTITY_CREATE"
  | entityRead => "ENTITY_READ"
  | ownEntityUpdate => "OWN_ENTITY_UPDATE"
  | allEntityUpdate => "ALL_ENTITY_UPDATE"
  | ownEntityDelete => "OWN_ENTITY_DELETE"
  | allEntityDelete => "ALL_ENTITY_DELETE"
  | allEntityBulkDelete => "ALL_ENTITY_BULK_DELETE"
  | ownEntityBulkDelete => "OWN_ENTITY_BULK_DELETE"
  | allUserRead => "ALL_USER_READ"
  | allUserUpdate => "ALL_USER_UPDATE"
  | allUserDelete => "ALL_USER_DELETE"
  | allUserBulkDelete => "ALL_USER_BULK_DELETE"
  | importEntity => "IMPORT_ENTITY"
  | readOwnImport => "READ_OWN_IMPORT"
  | readAllImport => "READ_ALL_IMPORT"

/-- The permission of exactly that name. -/
def ofName? (s : String) : Option Permission := all.find? fun p => p.name = s

/-- The permission that a text names, whatever the case of its ASCII letters and the white space
around it. -/
def parse? (s : String) : Option Permission :=
  let cs := (Text.trim s.toList).map Char.toLower
  all.find? fun p => p.name.toList.map Char.toLower = cs

def unknownMessage (s : String) : String := s!"Unknown permission: {s}"

end Permission

/-- A role. Any role that is not known grants nothing. -/
inductive Role where
  | user
  | admin
  | unknown
  deriving DecidableEq, Repr

namespace Role

def name : Role → String
  | user => "ROLE_USER"
  | admin => "ROLE_ADMIN"
  | unknown => "Unknown"

def ofName (s : String) : Role :=
  if s = "ROLE_USER" then user else if s = "ROLE_ADMIN" then admin else unknown

@[simp] theorem ofName_name (r : Role) : ofName r.name = r := by cases r <;> decide

/-- What a role grants. -/
def permissions : Role → List Permission
  | user =>
    [.entityCreate, .entityRead, .ownEntityUpdate, .ownEntityDelete, .ownEntityBulkDelete,
      .importEntity, .readOwnImport]
  | admin =>
    [.allEntityUpdate, .allEntityDelete, .allEntityBulkDelete, .allUserRead, .allUserUpdate,
      .allUserDelete, .allUserBulkDelete, .readAllImport]
  | unknown => []

end Role

end BandCatalog
