import BandCatalog.Credentials.Store
import BandCatalog.Storage.Memory

/-!
# The store and its storage

What `set`, `clear` and `reopen` do to the tokens in memory and to a storage that may refuse any of its
calls. Memory always follows the operation. The storage follows it as far as its calls are done, so the two
agree whenever an operation succeeds, and that whatever was left there by those before.
-/
namespace BandCatalog

namespace FaultyMap

variable (f : FaultyMap)

/-- The tokens that stand in a storage. -/
def tokens : Tokens := ⟨f.map.get? accessKey, f.map.get? refreshKey⟩

/-- A call is refused, and nothing changes, or done, and answers as the map does. -/
theorem call_cases (c : StorageCall) :
    (f.refuses f.count c = true ∧ Store.call f c =
      (.error ⟨c, .refused c.verb c.key⟩, ⟨c, true⟩, { f with count := f.count + 1 })) ∨
    (∃ v, (perform f.map c).1 = .ok v ∧ Store.call f c =
      (.ok v, ⟨c, false⟩, { f with map := (perform f.map c).2, count := f.count + 1 })) := by
  by_cases h : f.refuses f.count c = true
  · left
    refine ⟨h, ?_⟩
    cases c <;>
      simp [Store.call, perform, KeyValue.get, KeyValue.set, KeyValue.remove, attempt, h, Except.map]
  · right
    cases c <;>
      simp [Store.call, perform, KeyValue.get, KeyValue.set, KeyValue.remove, attempt, h, Except.map]

end FaultyMap

theorem Write.key_calls (w : Write) {c : StorageCall} (h : c ∈ w.calls) :
    c.key = accessKey ∨ c.key = refreshKey := by
  cases w <;> simp only [Write.calls, List.mem_cons, List.not_mem_nil, or_false] at h <;>
    rcases h with rfl | rfl <;> simp [StorageCall.key]

namespace Store

/-- What is done to a store. -/
inductive Operation where
  | set (p : Pair)
  | clear
  | reopen
  deriving DecidableEq, Repr

section operations

variable {σ : Type} [KeyValue σ]

def apply (s : Store σ) : Operation → Except StoreError Unit × List Report × Store σ
  | .set p => s.write (.put p)
  | .clear => s.write .forget
  | .reopen => s.reopen

/-- Every operation is a write or an opening. -/
theorem apply_cases (s : Store σ) (o : Operation) :
    (∃ w, s.apply o = s.write w) ∨ s.apply o = s.reopen := by
  cases o with
  | set p => exact .inl ⟨.put p, rfl⟩
  | clear => exact .inl ⟨.forget, rfl⟩
  | reopen => exact .inr rfl

/-- Operations in turn. -/
def run (s : Store σ) (ops : List Operation) : Store σ := ops.foldl (fun s o => (s.apply o).2.2) s

@[simp] theorem run_nil (s : Store σ) : s.run [] = s := rfl
@[simp] theorem run_cons (s : Store σ) (o : Operation) (ops : List Operation) :
    s.run (o :: ops) = (s.apply o).2.2.run ops := rfl

@[simp] theorem memory_write (s : Store σ) (w : Write) : (s.write w).2.2.memory = w.tokens := rfl

end operations

section calls

variable (f : FaultyMap)

/-- Calls that succeed change the map as they would change one that refuses none. -/
theorem map_persist_of_ok (cs : List StorageCall) (h : (persist f cs).1 = .ok ()) :
    (persist f cs).2.2.map = cs.foldl (fun m c => (perform m c).2) f.map := by
  induction cs generalizing f with
  | nil => rfl
  | cons c cs ih =>
    rcases f.call_cases c with ⟨-, hcall⟩ | ⟨v, -, hcall⟩
    · simp [persist, hcall] at h
    · simp only [persist, hcall] at h ⊢
      exact ih _ h

/-- Calls make no others, and change nothing under keys that are not theirs. -/
theorem persist_frame (cs : List StorageCall) :
    (∀ r ∈ (persist f cs).2.1, r.call ∈ cs) ∧
      ∀ k, (∀ c ∈ cs, c.key ≠ k) → (persist f cs).2.2.map.get? k = f.map.get? k := by
  induction cs generalizing f with
  | nil => exact ⟨by simp [persist], fun _ _ => rfl⟩
  | cons c cs ih =>
    rcases f.call_cases c with ⟨-, hcall⟩ | ⟨v, -, hcall⟩
    · simp [persist, hcall]
    · obtain ⟨hreports, hkeys⟩ := ih { f with map := (perform f.map c).2, count := f.count + 1 }
      simp only [persist, hcall]
      refine ⟨?_, ?_⟩
      · intro r hr
        rcases List.mem_cons.mp hr with rfl | hr
        · exact List.mem_cons_self
        · exact List.mem_cons_of_mem _ (hreports r hr)
      · intro k hk
        rw [hkeys k fun d hd => hk d (List.mem_cons_of_mem _ hd)]
        have hne : k ≠ c.key := (hk c List.mem_cons_self).symm
        cases c with
        | get j => rfl
        | set j v => exact (f.map.get?_insert j v k).trans (if_neg hne)
        | remove j => exact (f.map.get?_erase j k).trans (if_neg hne)

/-- Loading reads the two keys and leaves the map alone. -/
theorem load_eq :
    (∃ n, (load f).2.2 = { f with count := n }) ∧
      (∀ t, (load f).1 = .ok t → t = f.tokens) ∧
      ∀ r ∈ (load f).2.1, r.call = .get accessKey ∨ r.call = .get refreshKey := by
  rcases f.call_cases (.get accessKey) with ⟨-, hfirst⟩ | ⟨v, hv, hfirst⟩
  · simp [load, hfirst]
  · let g : FaultyMap := { f with count := f.count + 1 }
    have hsame : ({ f with
      map := (perform f.map (.get accessKey)).2, count := f.count + 1 } : FaultyMap) = g := rfl
    rw [hsame] at hfirst
    rcases g.call_cases (.get refreshKey) with ⟨-, hsecond⟩ | ⟨w, hw, hsecond⟩
    · simp [load, hfirst, hsecond, g]
    · cases hv
      cases hw
      simp only [load, hfirst, hsecond]
      refine ⟨⟨_, rfl⟩, ?_, ?_⟩
      · rintro _ ⟨⟩
        rfl
      · simp

theorem key_of_load {r : Report} (h : r ∈ (load f).2.1) :
    r.call.key = accessKey ∨ r.call.key = refreshKey := by
  rcases (load_eq f).2.2 r h with h | h <;> simp [h, StorageCall.key]

end calls

section mirrors

variable (s : Store FaultyMap)

/-- The storage holds exactly what is in memory. -/
def Mirrors : Prop := s.storage.tokens = s.memory

/-- The same tokens in memory and in storage, with other calls refused from now on. -/
def meeting (refuses : Nat → StorageCall → Bool) : Store FaultyMap :=
  ⟨⟨s.storage.map, refuses, 0⟩, s.memory⟩

theorem mirrors_open {f : FaultyMap} {s : Store FaultyMap} (h : (open? f).1 = .ok s) :
    s.Mirrors ∧ s.storage.map = f.map := by
  obtain ⟨⟨n, hstorage⟩, htokens, -⟩ := load_eq f
  simp only [open?] at h
  cases hload : (load f).1 with
  | error e =>
    rw [hload] at h
    cases h
  | ok t =>
    rw [hload] at h
    cases h
    rw [Mirrors, htokens t hload, hstorage]
    exact ⟨rfl, rfl⟩

theorem mirrors_write {w : Write} (h : (s.write w).1 = .ok ()) : (s.write w).2.2.Mirrors := by
  have hmap : (s.write w).2.2.storage.map =
      w.calls.foldl (fun m c => (perform m c).2) s.storage.map :=
    map_persist_of_ok s.storage w.calls h
  have hne : accessKey ≠ refreshKey := by decide
  rw [Mirrors, FaultyMap.tokens, hmap, memory_write]
  cases w with
  | put p =>
    show Tokens.mk (((s.storage.map.insert accessKey p.access).insert refreshKey p.refresh).get? _)
      (((s.storage.map.insert accessKey p.access).insert refreshKey p.refresh).get? _) = _
    simp [hne, Write.tokens, Tokens.ofPair]
  | forget =>
    show Tokens.mk (((s.storage.map.erase accessKey).erase refreshKey).get? _)
      (((s.storage.map.erase accessKey).erase refreshKey).get? _) = _
    simp [Write.tokens, Tokens.none]

/-- A store whose storage refuses no call. -/
def Reliable : Prop := ∀ n c, s.storage.refuses n c = false

/-- A write does not change it. -/
theorem reliable_write (w : Write) : (s.write w).2.2.Reliable ↔ s.Reliable := by
  have hpersist : ∀ (cs : List StorageCall) (f : FaultyMap), (persist f cs).2.2.refuses = f.refuses := by
    intro cs
    induction cs with
    | nil => exact fun f => rfl
    | cons c cs ih =>
      intro f
      rcases f.call_cases c with ⟨-, hcall⟩ | ⟨v, -, hcall⟩ <;> simp only [persist, hcall]
      exact ih _
  have hrefuses : (s.write w).2.2.storage.refuses = s.storage.refuses := hpersist w.calls s.storage
  rw [Reliable, Reliable, hrefuses]

/-- A pair in memory and in a storage that may refuse calls. -/
def ofPair (p : Pair) (refuses : Nat → StorageCall → Bool) : Store FaultyMap :=
  ⟨⟨.ofList [(accessKey, p.access), (refreshKey, p.refresh)], refuses, 2⟩, .ofPair p⟩

variable {s} in
/-- Its writes succeed. -/
theorem Reliable.write_ok (h : s.Reliable) (w : Write) : (s.write w).1 = .ok () := by
  suffices hpersist : ∀ (cs : List StorageCall) (f : FaultyMap), (∀ n c, f.refuses n c = false) →
      (persist f cs).1 = .ok () from hpersist w.calls s.storage h
  intro cs
  induction cs with
  | nil => exact fun f hf => rfl
  | cons c cs ih =>
    intro f hf
    rcases f.call_cases c with ⟨hrefused, -⟩ | ⟨v, -, hcall⟩
    · cases (hf f.count c).symm.trans hrefused
    · simp only [persist, hcall]
      exact ih _ hf

/-- Opening again takes over what is stored, or fails and changes nothing. -/
theorem reopen_cases :
    s.reopen.2.2.storage.map = s.storage.map ∧
      (s.reopen.1 = .ok () ∧ s.reopen.2.2.memory = s.storage.tokens ∨
        (∃ e, s.reopen.1 = .error e) ∧ s.reopen.2.2.memory = s.memory) := by
  obtain ⟨⟨n, hstorage⟩, htokens, -⟩ := load_eq s.storage
  cases hload : (load s.storage).1 with
  | error e => simp [reopen, hload, hstorage]
  | ok t => simp [reopen, hload, hstorage, htokens t hload]

theorem reports_reopen : s.reopen.2.1 = (load s.storage).2.1 := by
  cases hload : (load s.storage).1 <;> simp [reopen, hload]

theorem meeting_congr {s t : Store FaultyMap} (hmap : s.storage.map = t.storage.map)
    (hmemory : s.memory = t.memory) (refuses : Nat → StorageCall → Bool) :
    s.meeting refuses = t.meeting refuses := by
  rw [meeting, meeting, hmap, hmemory]

/-- Where the storage holds what is in memory already, opening again is not seen. -/
theorem meeting_reopen (h : s.Mirrors) (refuses : Nat → StorageCall → Bool) :
    s.reopen.2.2.meeting refuses = s.meeting refuses := by
  obtain ⟨hmap, ⟨-, htokens⟩ | ⟨-, hsame⟩⟩ := s.reopen_cases
  · exact meeting_congr hmap (htokens.trans h) refuses
  · exact meeting_congr hmap hsame refuses

theorem mirrors_apply (o : Operation) (h : (s.apply o).1 = .ok ()) : (s.apply o).2.2.Mirrors := by
  rcases s.apply_cases o with ⟨w, heq⟩ | heq <;> rw [heq] at h ⊢
  · exact s.mirrors_write h
  · obtain ⟨hmap, ⟨-, htokens⟩ | ⟨⟨e, he⟩, -⟩⟩ := s.reopen_cases
    · rw [Mirrors, htokens, FaultyMap.tokens, hmap]
      rfl
    · cases he.symm.trans h

/-- Every operation calls for the two keys only. -/
theorem key_of_apply (o : Operation) :
    ∀ r ∈ (s.apply o).2.1, r.call.key = accessKey ∨ r.call.key = refreshKey := by
  intro r hr
  rcases s.apply_cases o with ⟨w, heq⟩ | heq <;> rw [heq] at hr
  · exact w.key_calls ((persist_frame s.storage w.calls).1 r hr)
  · rw [reports_reopen] at hr
    exact key_of_load s.storage hr

/-- No operation changes what stands under another key. -/
theorem apply_frame (o : Operation) {k : String} (haccess : k ≠ accessKey) (hrefresh : k ≠ refreshKey) :
    (s.apply o).2.2.storage.map.get? k = s.storage.map.get? k := by
  rcases s.apply_cases o with ⟨w, heq⟩ | heq <;> rw [heq]
  · refine (persist_frame s.storage w.calls).2 k ?_
    rintro c hc rfl
    exact (w.key_calls hc).elim haccess hrefresh
  · rw [s.reopen_cases.1]

theorem run_frame (ops : List Operation) {k : String} (haccess : k ≠ accessKey)
    (hrefresh : k ≠ refreshKey) : (s.run ops).storage.map.get? k = s.storage.map.get? k := by
  induction ops generalizing s with
  | nil => rfl
  | cons o ops ih =>
    rw [run_cons, ih]
    exact s.apply_frame o haccess hrefresh

end mirrors

/-- Both tokens make a pair, and nothing less does. -/
theorem pair?_eq_some {t : Tokens} {p : Pair} : t.pair? = some p ↔ t = .ofPair p := by
  obtain ⟨a, r⟩ := t
  obtain ⟨x, y⟩ := p
  cases a <;> cases r <;> simp [Tokens.pair?, Tokens.ofPair]

/-- What an operation on a store keeps to, whichever of its storage calls are refused. -/
structure Faithful (before : Store FaultyMap) (o : Operation) : Prop where
  /-- Memory has the pair that is set, also when it cannot be stored. -/
  set : ∀ p, o = .set p → (before.apply o).2.2.memory = .ofPair p
  /-- Memory is empty once cleared, also when the storage cannot be. -/
  clear : o = .clear → (before.apply o).2.2.memory = .none
  /-- Opening again and failing changes neither memory nor storage. -/
  reopen : o = .reopen → ∀ e, (before.apply o).1 = .error e →
    ∀ refuses, (before.apply o).2.2.meeting refuses = before.meeting refuses
  /-- Success leaves memory and storage the same. -/
  mirrors : (before.apply o).1 = .ok () → (before.apply o).2.2.Mirrors
  /-- After a success, whether the store is opened again does not show in anything that follows. -/
  reopened : (before.apply o).1 = .ok () →
    ∀ refuses, (before.apply o).2.2.reopen.2.2.meeting refuses = (before.apply o).2.2.meeting refuses
  /-- No other key is called for. -/
  calls : ∀ r ∈ (before.apply o).2.1, r.call.key = accessKey ∨ r.call.key = refreshKey

theorem faithful (before : Store FaultyMap) (o : Operation) : before.Faithful o where
  set := by
    rintro p rfl
    rfl
  clear := by
    rintro rfl
    rfl
  reopen := by
    rintro rfl e he refuses
    obtain ⟨hmap, ⟨hok, -⟩ | ⟨-, hsame⟩⟩ := before.reopen_cases
    · exact nomatch hok.symm.trans he
    · exact meeting_congr hmap hsame refuses
  mirrors := before.mirrors_apply o
  reopened h refuses := meeting_reopen _ (before.mirrors_apply o h) refuses
  calls := before.key_of_apply o

/-- A store mirrors its storage when it is opened and after every operation that succeeds, and none of its
operations touches another key of the storage. -/
theorem mirrors_storage (m : TextMap) (refuses : Nat → StorageCall → Bool) {s : Store FaultyMap}
    (hopen : (open? (FaultyMap.mk m refuses 0)).1 = .ok s) (ops : List Operation) :
    s.Mirrors ∧
    (∀ r ∈ (open? (FaultyMap.mk m refuses 0)).2.1, r.call.key = accessKey ∨ r.call.key = refreshKey) ∧
    (∀ past o rest, ops = past ++ o :: rest → (s.run past).Faithful o) ∧
    (∀ k, k ≠ accessKey → k ≠ refreshKey → (s.run ops).storage.map.get? k = m.get? k) ∧
    (∀ p, (s.run ops).memory.pair? = some p ↔ (s.run ops).memory = .ofPair p) ∧
    ((s.run ops).memory.pair?.isSome ↔
      (s.run ops).memory.access.isSome ∧ (s.run ops).memory.refresh.isSome) := by
  obtain ⟨hmirrors, hmap⟩ := mirrors_open hopen
  refine ⟨hmirrors, fun r hr => key_of_load _ hr, fun past o _ _ => faithful _ o, ?_,
    fun _ => pair?_eq_some, ?_⟩
  · intro k haccess hrefresh
    rw [s.run_frame ops haccess hrefresh, hmap]
  · cases (s.run ops).memory with
    | mk a r => cases a <;> cases r <;> simp [Tokens.pair?]

/-- Over half a session and a text of somebody else, a pair whose refresh token is refused, and a session
cleared. -/
theorem mirrors_storage_of_half :
    let m : TextMap := ⟨[("access_token", "A1"), ("theme", "dark")]⟩
    let s : Store FaultyMap := ⟨⟨m, fun _ c => c.verb = "set" && c.key = refreshKey, 2⟩, ⟨some "A1", none⟩⟩
    let failed := s.run [.set ⟨"A2", "R2"⟩]
    let cleared := s.run [.set ⟨"A2", "R2"⟩, .clear]
    (open? (FaultyMap.mk m s.storage.refuses 0)).1 = .ok s ∧ s.Mirrors ∧
      failed.memory = .ofPair ⟨"A2", "R2"⟩ ∧ failed.storage.tokens = ⟨some "A2", none⟩ ∧
      cleared.Mirrors ∧ cleared.memory = .none ∧ cleared.storage.map.get? "theme" = some "dark" := by
  intro m s failed cleared
  have hopen : (open? (FaultyMap.mk m s.storage.refuses 0)).1 = .ok s := rfl
  obtain ⟨hmirrors, -, hsteps, hothers, -⟩ :=
    mirrors_storage m s.storage.refuses hopen [.set ⟨"A2", "R2"⟩, .clear]
  have hset := hsteps [] (.set ⟨"A2", "R2"⟩) [.clear] rfl
  have hclear := hsteps [.set ⟨"A2", "R2"⟩] .clear [] rfl
  exact ⟨hopen, hmirrors, hset.set _ rfl, by rfl, hclear.mirrors rfl, hclear.clear rfl,
    hothers "theme" (by decide) (by decide)⟩

end Store

end BandCatalog
