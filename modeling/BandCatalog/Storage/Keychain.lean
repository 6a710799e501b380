import BandCatalog.Storage.Basic

/-!
# Keychain

The system's keychain holds one text for each service and user. A storage in it files its keys as the
users of one service.
-/
namespace BandCatalog

structure Keychain where
  entries : List ((String × String) × String)
  locked : Bool
  deriving DecidableEq, Repr

namespace Keychain

def get? (c : Keychain) (service user : String) : Option String := c.entries.lookup (service, user)

def erase (c : Keychain) (service user : String) : Keychain :=
  { c with entries := c.entries.filter fun e => e.1 ≠ (service, user) }

def insert (c : Keychain) (service user value : String) : Keychain :=
  { c with entries := (c.erase service user).entries ++ [((service, user), value)] }

@[simp] theorem get?_erase (c : Keychain) (service user s u : String) :
    (c.erase service user).get? s u = if (s, u) = (service, user) then none else c.get? s u :=
  lookup_filter (service, user) (s, u) c.entries

@[simp] theorem get?_insert (c : Keychain) (service user value s u : String) :
    (c.insert service user value).get? s u =
      if (s, u) = (service, user) then some value else c.get? s u := by
  have herased := get?_erase c service user s u
  rw [get?] at herased
  rw [get?, insert, List.lookup_append, herased, lookup_entry]
  by_cases h : (s, u) = (service, user)
  · rw [if_pos h, if_pos h, if_pos h, Option.none_or]
  · rw [if_neg h, if_neg h, if_neg h, List.lookup_nil, Option.or_none]

end Keychain

/-- The service under which credentials are filed. -/
def serviceName : String := "bandmanager"

/-- The entries of one service. -/
structure KeychainStorage where
  service : String
  keychain : Keychain
  deriving DecidableEq, Repr

namespace KeychainStorage

/-- What a call does with the entry of a key, if there can be one and the keychain is open. -/
def withEntry {α : Type} (s : KeychainStorage) (key : String) (locked : StorageError)
    (f : Keychain → α × Keychain) : Except StorageError α × KeychainStorage :=
  if key = "" then (.error .keychainEntry, s)
  else if s.keychain.locked then (.error locked, s)
  else
    let (a, c) := f s.keychain
    (.ok a, { s with keychain := c })

instance : KeyValue KeychainStorage where
  get s k := s.withEntry k .keychainRead fun c => (c.get? s.service k, c)
  set s k v := s.withEntry k .keychainStore fun c => ((), c.insert s.service k v)
  remove s k := s.withEntry k .keychainDelete fun c => ((), c.erase s.service k)

end KeychainStorage

end BandCatalog
