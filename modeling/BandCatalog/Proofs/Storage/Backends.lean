import BandCatalog.Proofs.Json.RoundTrip
import BandCatalog.Proofs.Storage.Maps
import BandCatalog.Storage.File
import BandCatalog.Storage.Keychain

/-!
# One map in three places

Maps, files and keychains answer every sequence of calls as one map would. The map itself is a function from
key to text (`Contents`). Memory and keychain stand for it by their look-ups, the file by the text that it
holds: every call reads it back as it was written, whoever wrote it. It is assumed that the keychain is not
locked and that no key is empty.
-/
namespace BandCatalog

/-- What a map holds under each key. -/
abbrev Contents := String → Option String

namespace StorageCall

/-- What a call finds; only `get` has a value. -/
def found (f : Contents) : StorageCall → Option String
  | get k => f k
  | _ => none

/-- What a call leaves. -/
def left (f : Contents) : StorageCall → Contents
  | get _ => f
  | set k v => fun j => if j = k then some v else f j
  | remove k => fun j => if j = k then none else f j

/-- Calls that write: every `set`, and a `remove` of a key that is there. -/
def alters (m : TextMap) : StorageCall → Bool
  | get _ => false
  | set _ _ => true
  | remove k => (m.get? k).isSome

end StorageCall

/-- What some calls find in turn. -/
def Contents.answers (f : Contents) : List StorageCall → List (Option String)
  | [] => []
  | c :: cs => c.found f :: answers (c.left f) cs

/-- Calls in turn, with their results. -/
def performAll {σ : Type} [KeyValue σ] (s : σ) :
    List StorageCall → List (Except StorageError (Option String)) × σ
  | [] => ([], s)
  | c :: cs =>
    let (r, s) := perform s c
    let (rs, s) := performAll s cs
    (r :: rs, s)

/-- A storage that stands for a map, call by call, does so over all of them. -/
theorem performAll_of_step {σ : Type} [KeyValue σ] {Stands : σ → Contents → Prop}
    (step : ∀ s f c, Stands s f → c.key ≠ "" →
      (perform s c).1 = .ok (c.found f) ∧ Stands (perform s c).2 (c.left f))
    (cs : List StorageCall) {s : σ} {f : Contents} (h : Stands s f) (hkeys : ∀ c ∈ cs, c.key ≠ "") :
    (performAll s cs).1 = (f.answers cs).map .ok := by
  induction cs generalizing s f with
  | nil => rfl
  | cons c cs ih =>
    obtain ⟨hresult, hnext⟩ := step s f c h (hkeys c List.mem_cons_self)
    have hrest := ih hnext fun d hd => hkeys d (List.mem_cons_of_mem _ hd)
    simp only [performAll, Contents.answers, List.map_cons, hresult, hrest]

namespace TextMap

/-- A map stands for its look-ups. -/
theorem perform_eq (m : TextMap) (f : Contents) (c : StorageCall) (h : m.get? = f) :
    (perform m c).1 = .ok (c.found f) ∧ (perform m c).2.get? = c.left f := by
  subst h
  cases c with
  | get k => exact ⟨rfl, rfl⟩
  | set k v => exact ⟨rfl, funext fun j => m.get?_insert k v j⟩
  | remove k => exact ⟨rfl, funext fun j => m.get?_erase k j⟩

theorem Sorted.perform {m : TextMap} (h : m.Sorted) (c : StorageCall) : (perform m c).2.Sorted := by
  cases c with
  | get k => exact h
  | set k v => exact h.insert k v
  | remove k => exact h.erase k

end TextMap

namespace KeychainStorage

/-- An open keychain that holds a map under the service. -/
structure Stands (s : KeychainStorage) (f : Contents) : Prop where
  unlocked : s.keychain.locked = false
  holds : ∀ k, s.keychain.get? s.service k = f k

theorem perform_eq (s : KeychainStorage) (f : Contents) (c : StorageCall) (h : s.Stands f)
    (hkey : c.key ≠ "") :
    (perform s c).1 = .ok (c.found f) ∧ (perform s c).2.Stands (c.left f) := by
  have hopen : ∀ {α : Type} (e : StorageError) (g : Keychain → α × Keychain),
      s.withEntry c.key e g = (.ok (g s.keychain).1, { s with keychain := (g s.keychain).2 }) := by
    intro α e g
    rw [withEntry, if_neg hkey, if_neg (by simp [h.unlocked])]
  cases c with
  | get k =>
    have hget : perform s (.get k) = (.ok (s.keychain.get? s.service k), s) :=
      hopen .keychainRead fun c => (c.get? s.service k, c)
    rw [hget]
    exact ⟨congrArg _ (h.holds k), h⟩
  | set k v =>
    have hset : KeyValue.set s k v =
        (.ok (), { s with keychain := s.keychain.insert s.service k v }) :=
      hopen .keychainStore fun c => ((), c.insert s.service k v)
    simp only [perform, hset]
    refine ⟨rfl, h.unlocked, ?_⟩
    intro j
    rw [Keychain.get?_insert, h.holds]
    simp [StorageCall.left]
  | remove k =>
    have hremove : KeyValue.remove s k =
        (.ok (), { s with keychain := s.keychain.erase s.service k }) :=
      hopen .keychainDelete fun c => ((), c.erase s.service k)
    simp only [perform, hremove]
    refine ⟨rfl, h.unlocked, ?_⟩
    intro j
    rw [Keychain.get?_erase, h.holds]
    simp [StorageCall.left]

end KeychainStorage

namespace FileStorage

/-- No file, or one with nothing but white space in it. -/
inductive Vacant : FileStorage → Prop where
  | absent : Vacant absent
  | blank (mode : Nat) {s : String} (h : Text.isBlankText s = true) : Vacant (file mode s.toUTF8)

theorem Vacant.read {f : FileStorage} (h : f.Vacant) : f.read = .ok .empty := by
  cases h with
  | absent => rfl
  | blank mode h => simp only [FileStorage.read, Text.fromUTF8?_toUTF8, h, if_true]

/-- The text of an object starts with a brace. -/
theorem isBlankText_encodeMap (m : TextMap) : Text.isBlankText (encodeMap m).indented = false := by
  obtain ⟨r, hr⟩ : ∃ r, Json.print .indented (encodeMap m) = '\x7b' :: r := by
    unfold encodeMap
    cases m.entries with
    | nil => exact ⟨_, rfl⟩
    | cons e es => exact ⟨_, rfl⟩
  rw [Text.isBlankText, Json.indented, String.toList_ofList, hr, List.all_cons]
  rfl

theorem decodeMember_eq_some {m : String × Json} {e : String × String} :
    decodeMember m = some e ↔ m = (e.1, .text e.2) := by
  obtain ⟨k, v⟩ := m
  obtain ⟨j, w⟩ := e
  cases v <;> simp [decodeMember, Json.decodeText]

/-- Members are entries if they are texts. -/
theorem mapM_decodeMember {ms : List (String × Json)} {es : List (String × String)} :
    ms.mapM decodeMember = some es ↔ ms = es.map fun e => (e.1, .text e.2) := by
  induction ms generalizing es with
  | nil => cases es <;> simp
  | cons m ms ih =>
    simp only [List.mapM_cons, Option.bind_eq_bind, Option.bind_eq_some_iff, decodeMember_eq_some, ih]
    cases es <;> simp

theorem decodeMap_encodeMap {m : TextMap} (h : m.Sorted) : decodeMap (encodeMap m) = some m := by
  rw [encodeMap, decodeMap, mapM_decodeMember.mpr rfl, Option.map_some, TextMap.ofList_entries h]

/-- A text that was written for a map is read as the map. -/
theorem parse_encodeMap {m : TextMap} (h : m.Sorted) :
    (Json.parseText (encodeMap m).indented).bind decodeMap = some m := by
  rw [Json.parseText_indented, Option.bind_some, decodeMap_encodeMap h]

theorem read_ofMap {m : TextMap} (h : m.Sorted) : (ofMap m).read = .ok m := by
  cases hm : m.isEmpty with
  | true =>
    have hnil : m.entries = [] := List.isEmpty_iff.mp hm
    have hempty : m = .empty := congrArg TextMap.mk hnil
    rw [hempty]
    rfl
  | false =>
    simp only [ofMap, hm, Bool.false_eq_true, if_false, read, Text.fromUTF8?_toUTF8,
      isBlankText_encodeMap, parse_encodeMap h]

/-- What stands at the path when a map is stored there. -/
inductive Holds : FileStorage → TextMap → Prop where
  | vacant {f : FileStorage} (h : f.Vacant) : Holds f .empty
  | written (m : TextMap) : Holds (ofMap m) m

theorem Holds.read {f : FileStorage} {m : TextMap} (h : f.Holds m) (hm : m.Sorted) :
    f.read = .ok m := by
  cases h with
  | vacant h => exact h.read
  | written => exact read_ofMap hm

/-- A call that alters the map writes it anew. -/
theorem perform_of_alters {f : FileStorage} {m : TextMap} {c : StorageCall} (h : f.Holds m)
    (hm : m.Sorted) (hc : c.alters m = true) : (perform f c).2 = ofMap (perform m c).2 := by
  have hread : f.read = .ok m := h.read hm
  cases c with
  | get k => cases hc
  | set k v =>
    have hset : KeyValue.set f k v = (.ok (), ofMap (m.insert k v)) := by
      simp only [KeyValue.set, hread]
    simp only [perform, hset]
    rfl
  | remove k =>
    have hsome : (m.get? k).isSome = true := hc
    have hremove : KeyValue.remove f k = (.ok (), ofMap (m.erase k)) := by
      simp only [KeyValue.remove, hread, hsome, if_true]
    simp only [perform, hremove]
    rfl

/-- A file that holds a map answers as the map in memory does, and holds what that has become. -/
theorem perform_eq {f : FileStorage} {m : TextMap} (h : f.Holds m) (hm : m.Sorted)
    (c : StorageCall) :
    (perform f c).1 = (perform m c).1 ∧ (perform f c).2.Holds (perform m c).2 := by
  have hread : f.read = .ok m := h.read hm
  cases c with
  | get k =>
    have hget : perform f (.get k) = (.ok (m.get? k), f) := by
      simp only [perform, KeyValue.get, hread]
      rfl
    rw [hget]
    exact ⟨rfl, h⟩
  | set k v =>
    refine ⟨by simp only [perform, KeyValue.set, hread], ?_⟩
    rw [perform_of_alters h hm rfl]
    exact .written _
  | remove k =>
    refine ⟨by simp only [perform, KeyValue.remove, hread], ?_⟩
    cases hk : m.get? k with
    | some v =>
      have halters : (StorageCall.remove k).alters m = true := Option.isSome_iff_exists.mpr ⟨v, hk⟩
      rw [perform_of_alters h hm halters]
      exact .written _
    | none =>
      have hsame : (perform m (.remove k)).2 = m := TextMap.erase_of_get? hk
      have hfile : (perform f (.remove k)).2 = f := by
        simp only [perform, KeyValue.remove, hread, hk]
        rfl
      rw [hsame, hfile]
      exact h

/-- What is done with a file of texts. -/
inductive Step where
  | call (c : StorageCall)
  /-- A new storage on the path takes the place of the old one. It has nothing but what stands there. -/
  | reopen
  deriving DecidableEq, Repr

def calls (steps : List Step) : List StorageCall :=
  steps.filterMap fun
    | .call c => some c
    | .reopen => none

/-- Steps in turn, with the results of the calls. -/
def run (f : FileStorage) : List Step → List (Except StorageError (Option String)) × FileStorage
  | [] => ([], f)
  | .call c :: steps =>
    let (r, f) := perform f c
    let (rs, f) := run f steps
    (r :: rs, f)
  | .reopen :: steps => run f steps

theorem run_eq {f : FileStorage} {m : TextMap} (h : f.Holds m) (hm : m.Sorted) (steps : List Step) :
    (f.run steps).1 = (performAll m (calls steps)).1 ∧
      (f.run steps).2.Holds (performAll m (calls steps)).2 ∧
      (performAll m (calls steps)).2.Sorted := by
  induction steps generalizing f m with
  | nil => exact ⟨rfl, h, hm⟩
  | cons step steps ih =>
    cases step with
    | call c =>
      obtain ⟨hresult, hnext⟩ := perform_eq h hm c
      obtain ⟨hresults, hholds, hsorted⟩ := ih hnext (hm.perform c)
      refine ⟨?_, hholds, hsorted⟩
      show (perform f c).1 :: ((perform f c).2.run steps).1 =
        (perform m c).1 :: (performAll (perform m c).2 (calls steps)).1
      rw [hresult, hresults]
    | reopen => exact ih h hm

theorem run_concat (f : FileStorage) (steps : List Step) (c : StorageCall) :
    (f.run (steps ++ [.call c])).2 = (perform (f.run steps).2 c).2 := by
  induction steps generalizing f with
  | nil => rfl
  | cons step steps ih =>
    cases step with
    | call d => exact ih _
    | reopen => exact ih f

end FileStorage

/-- A map, a keychain and a file answer every sequence of calls as one map would, and the file is there exactly while
the map is not empty. -/
theorem backends_are_one_map (service : String) {f : FileStorage} (hf : f.Vacant)
    (steps : List FileStorage.Step) (hkeys : ∀ c ∈ FileStorage.calls steps, c.key ≠ "") :
    let calls := FileStorage.calls steps
    let results := (Contents.answers (fun _ => none) calls).map Except.ok
    (performAll TextMap.empty calls).1 = results ∧
    (performAll (KeychainStorage.mk service ⟨[], false⟩) calls).1 = results ∧
    (f.run steps).1 = results ∧
    ∀ past c rest, steps = past ++ .call c :: rest →
      let before := (performAll TextMap.empty (FileStorage.calls past)).2
      let after := (perform before c).2
      let g := (f.run (past ++ [.call c])).2
      c.alters before = true →
        (g = .absent ↔ after.isEmpty = true) ∧
        (after.isEmpty = false → ∃ text : String, g = .file 0o600 text.toUTF8 ∧
          (Json.parseText text).bind FileStorage.decodeMap = some after) ∧
        g.read = .ok after := by
  intro calls results
  have hmemory : (performAll TextMap.empty calls).1 = results :=
    performAll_of_step (fun m f c h _ => m.perform_eq f c h) calls (funext TextMap.get?_empty) hkeys
  have hkeychain : (performAll (KeychainStorage.mk service ⟨[], false⟩) calls).1 = results :=
    performAll_of_step KeychainStorage.perform_eq calls ⟨rfl, fun _ => rfl⟩ hkeys
  have hfile : (f.run steps).1 = results :=
    (FileStorage.run_eq (.vacant hf) .nil steps).1.trans hmemory
  refine ⟨hmemory, hkeychain, hfile, ?_⟩
  intro past c rest _ before after g halters
  obtain ⟨-, hholds, hsorted⟩ := FileStorage.run_eq (.vacant hf) .nil past
  have hg : g = .ofMap after := by
    rw [← FileStorage.perform_of_alters hholds hsorted halters]
    exact f.run_concat past c
  have hafter : after.Sorted := hsorted.perform c
  have hread : g.read = .ok after := by
    rw [hg]
    exact FileStorage.read_ofMap hafter
  cases hempty : after.isEmpty with
  | true =>
    have habsent : g = .absent := by rw [hg, FileStorage.ofMap, if_pos hempty]
    exact ⟨by simp [habsent], by simp, hread⟩
  | false =>
    have hwritten : g = .file 0o600 (FileStorage.encodeMap after).indented.toUTF8 := by
      rw [hg, FileStorage.ofMap, if_neg (by simp [hempty])]
      rfl
    refine ⟨by simp [hwritten], fun _ => ⟨_, hwritten, ?_⟩, hread⟩
    exact FileStorage.parse_encodeMap hafter

/-- A file with a line break in it takes a text with a quote, a backslash and a control character, hands it to
a new storage on its path, and is gone once the key is removed. -/
def quoteSteps : List FileStorage.Step :=
  [.call (.set "k" "\"\\\x01"), .reopen, .call (.get "k"), .call (.remove "k"), .call (.get "k")]

theorem backends_are_one_map_for_quotes :
    let f := FileStorage.file 0o644 "\n".toUTF8
    f.Vacant ∧ (∀ c ∈ FileStorage.calls quoteSteps, c.key ≠ "") ∧
      (f.run quoteSteps).1 = [.ok none, .ok (some "\"\\\x01"), .ok none, .ok none] ∧
      (f.run (quoteSteps.take 4)).2 = .absent := by
  intro f
  have hf : f.Vacant := .blank 0o644 (by decide)
  have hkeys : ∀ c ∈ FileStorage.calls quoteSteps, c.key ≠ "" := by decide
  obtain ⟨-, -, hresults, hafter⟩ := backends_are_one_map serviceName hf quoteSteps hkeys
  have hremoved := hafter (quoteSteps.take 3) (.remove "k") [.call (.get "k")] rfl
  exact ⟨hf, hkeys, hresults.trans (by rfl), (hremoved (by decide)).1.mpr (by rfl)⟩

end BandCatalog
