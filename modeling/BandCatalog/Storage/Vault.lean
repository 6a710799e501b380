import BandCatalog.Settings
import BandCatalog.Storage.File
import BandCatalog.Storage.Keychain
import BandCatalog.Storage.Memory

/-!
# Vaults

The storage that the settings choose, as one of the three that there are.
-/
namespace BandCatalog

inductive Vault where
  | memory (m : TextMap)
  | file (f : FileStorage)
  | keychain (k : KeychainStorage)

namespace Vault

/-- A call that the storage inside answers. -/
def call {α : Type} (f : {σ : Type} → [KeyValue σ] → σ → Except StorageError α × σ) :
    Vault → Except StorageError α × Vault
  | memory m => let (r, m) := f m; (r, memory m)
  | file x => let (r, x) := f x; (r, file x)
  | keychain k => let (r, k) := f k; (r, keychain k)

instance : KeyValue Vault where
  get v k := v.call fun s => KeyValue.get s k
  set v k t := v.call fun s => KeyValue.set s k t
  remove v k := v.call fun s => KeyValue.remove s k

end Vault

end BandCatalog
