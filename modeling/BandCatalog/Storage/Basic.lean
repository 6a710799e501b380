/-!
# Storage

Durable storage of texts by key: the calls that it takes, their errors, and the interface that every
storage offers. A call answers with a result and the storage as it leaves it.
-/
namespace BandCatalog

inductive StorageCall where
  | get (key : String)
  | set (key value : String)
  | remove (key : String)
  deriving DecidableEq, Repr

namespace StorageCall

def verb : StorageCall → String
  | get _ => "get"
  | set _ _ => "set"
  | remove _ => "remove"

def key : StorageCall → String
  | get k => k
  | set k _ => k
  | remove k => k

end StorageCall

/-- Why a call of a storage failed. -/
inductive StorageError where
  /-- The storage refused the call. -/
  | refused (verb key : String)
  /-- A keychain holds nothing under an empty key. -/
  | keychainEntry
  | keychainRead
  | keychainStore
  | keychainDelete
  /-- The file cannot be read as text. -/
  | fileRead (reason : String)
  /-- The file is no JSON object of texts. -/
  | fileParse
  /-- The directories on the way to the file cannot be made. -/
  | fileParents (reason : String)
  | fileWrite (reason : String)
  | fileRestrict (reason : String)
  | fileRemove (reason : String)
  deriving DecidableEq, Repr

namespace StorageError

def message : StorageError → String
  | refused verb key => s!"storage refused to {verb} {key}"
  | keychainEntry => "Failed to create keyring entry"
  | keychainRead => "Failed to read value from keychain"
  | keychainStore => "Failed to store value in keychain"
  | keychainDelete => "Failed to delete value from keychain"
  | fileRead _ => "Failed to read credentials file"
  | fileParse => "Failed to parse credentials file"
  | fileParents reason => reason
  | fileWrite _ => "Failed to write credentials file"
  | fileRestrict _ => "Failed to restrict credentials file permissions"
  | fileRemove _ => "Failed to remove credentials file"

def causes : StorageError → List String
  | refused _ _ => []
  | keychainEntry => ["the key is empty"]
  | keychainRead => ["the keychain is locked"]
  | keychainStore => ["the keychain is locked"]
  | keychainDelete => ["the keychain is locked"]
  | fileRead reason => [reason]
  | fileParse => ["not an object of texts"]
  | fileParents _ => []
  | fileWrite reason => [reason]
  | fileRestrict reason => [reason]
  | fileRemove reason => [reason]

end StorageError

section lookup

variable {α β : Type} [BEq α] [LawfulBEq α] [DecidableEq α]

theorem lookup_entry (j k : α) (v : β) (r : List (α × β)) :
    ((k, v) :: r).lookup j = if j = k then some v else r.lookup j := by
  by_cases h : j = k
  · simp [h]
  · have hne : (j == k) = false := by simpa using h
    simp [List.lookup_cons, hne, h]

/-- Without a key a list holds nothing under it, and what it held under others. -/
theorem lookup_filter (k j : α) (es : List (α × β)) :
    (es.filter fun e => e.1 ≠ k).lookup j = if j = k then none else es.lookup j := by
  induction es with
  | nil => simp
  | cons e r ih =>
    obtain ⟨i, w⟩ := e
    by_cases hi : i = k
    · subst hi
      rw [List.filter_cons_of_neg (by simp), ih, lookup_entry]
      split <;> simp_all
    · rw [List.filter_cons_of_pos (by simpa using hi), lookup_entry, lookup_entry, ih]
      by_cases hj : j = i
      · subst hj; simp [hi]
      · simp [hj]

end lookup

/-- A storage of texts by key. -/
class KeyValue (σ : Type) where
  get : σ → String → Except StorageError (Option String) × σ
  set : σ → String → String → Except StorageError Unit × σ
  remove : σ → String → Except StorageError Unit × σ

/-- One call; only `get` has a value. -/
def perform {σ : Type} [KeyValue σ] (s : σ) : StorageCall → Except StorageError (Option String) × σ
  | .get k => KeyValue.get s k
  | .set k v => let (r, s) := KeyValue.set s k v; (r.map fun _ => none, s)
  | .remove k => let (r, s) := KeyValue.remove s k; (r.map fun _ => none, s)

end BandCatalog
