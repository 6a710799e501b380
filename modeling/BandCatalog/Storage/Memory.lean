import BandCatalog.Storage.Basic

/-!
# Maps

Maps from key to text, kept in the order of the keys, and the storage that is such a map and nothing
else. A faulty storage is a map that refuses some calls.
-/
namespace BandCatalog

/-- A map from key to text, in the order of the keys. -/
structure TextMap where
  entries : List (String × String)
  deriving DecidableEq, Repr

namespace TextMap

def empty : TextMap := ⟨[]⟩

def get? (m : TextMap) (k : String) : Option String := m.entries.lookup k

def insertInto (k v : String) : List (String × String) → List (String × String)
  | [] => [(k, v)]
  | (j, w) :: r =>
    if k < j then (k, v) :: (j, w) :: r
    else if k = j then (k, v) :: r
    else (j, w) :: insertInto k v r

def insert (m : TextMap) (k v : String) : TextMap := ⟨insertInto k v m.entries⟩

def erase (m : TextMap) (k : String) : TextMap := ⟨m.entries.filter fun e => e.1 ≠ k⟩

def ofList (es : List (String × String)) : TextMap := es.foldl (fun m e => m.insert e.1 e.2) empty

def isEmpty (m : TextMap) : Bool := m.entries.isEmpty

@[simp] theorem get?_empty (k : String) : empty.get? k = none := rfl

theorem lookup_insertInto (k v j : String) (es : List (String × String)) :
    (insertInto k v es).lookup j = if j = k then some v else es.lookup j := by
  induction es with
  | nil => simp [insertInto]
  | cons e r ih =>
    obtain ⟨i, w⟩ := e
    simp only [insertInto]
    split
    · simp [lookup_entry]
    · split
      · next h => subst h; by_cases h : j = k <;> simp [lookup_entry, h]
      · next h =>
        rw [lookup_entry, lookup_entry, ih]
        by_cases hj : j = i
        · subst hj
          rw [if_pos rfl, if_pos rfl, if_neg fun e => h e.symm]
        · rw [if_neg hj, if_neg hj]

@[simp] theorem get?_insert (m : TextMap) (k v j : String) :
    (m.insert k v).get? j = if j = k then some v else m.get? j := lookup_insertInto k v j m.entries

@[simp] theorem get?_erase (m : TextMap) (k j : String) :
    (m.erase k).get? j = if j = k then none else m.get? j := lookup_filter k j m.entries

end TextMap

/-- Storage that lasts as long as the program runs. -/
instance : KeyValue TextMap where
  get m k := (.ok (m.get? k), m)
  set m k v := (.ok (), m.insert k v)
  remove m k := (.ok (), m.erase k)

/-- A map that refuses some of the calls; which, may depend on how many came before. A call that it refuses changes
nothing, which is not so of a file whose mode cannot be restricted. -/
structure FaultyMap where
  map : TextMap
  refuses : Nat → StorageCall → Bool
  count : Nat

namespace FaultyMap

/-- One call, refused or done. -/
def attempt {α : Type} (f : FaultyMap) (c : StorageCall) (a : α) (m : TextMap) :
    Except StorageError α × FaultyMap :=
  if f.refuses f.count c then (.error (.refused c.verb c.key), { f with count := f.count + 1 })
  else (.ok a, { f with map := m, count := f.count + 1 })

instance : KeyValue FaultyMap where
  get f k := f.attempt (.get k) (f.map.get? k) f.map
  set f k v := f.attempt (.set k v) () (f.map.insert k v)
  remove f k := f.attempt (.remove k) () (f.map.erase k)

end FaultyMap

end BandCatalog
