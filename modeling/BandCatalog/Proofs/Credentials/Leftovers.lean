import BandCatalog.Proofs.Credentials.Mirroring

/-!
# What a refused write leaves behind

A write stores its two tokens by two calls. Refused at the first it changes nothing, but refused at the
second it has replaced the access token and left the refresh token of an earlier pair, which a store opened
next then takes for one pair. The stored tokens are followed here to the pairs that they come from.
-/
namespace BandCatalog.Store

/-- The pairs that the two stored tokens come from. -/
structure Origins where
  access : Option Pair
  refresh : Option Pair
  deriving DecidableEq, Repr

namespace Origins

variable (o : Origins)

/-- Both tokens of one pair, or none. -/
def both (p : Option Pair) : Origins := ⟨p, p⟩

def tokens : Tokens := ⟨o.access.map Pair.access, o.refresh.map Pair.refresh⟩

/-- An operation that succeeds replaces both tokens, one that is refused at the second only the first. -/
def put (p : Option Pair) : Except StoreError Unit → Origins
  | .ok () => both p
  | .error e => if e.call.key = refreshKey then ⟨p, o.refresh⟩ else o

def after (r : Except StoreError Unit) : Operation → Origins
  | .set p => o.put (some p) r
  | .clear => o.put none r
  | .reopen => o

end Origins

/-- Refused at the call for the refresh token, once that for the access token is done. -/
def Halfway (r : Except StoreError Unit) : Prop := ∃ e, r = .error e ∧ e.call.key = refreshKey

section steps

variable (s : Store FaultyMap)

/-- A write is done, refused before it has changed anything, or refused halfway. -/
theorem write_cases (w : Write) :
    ((s.write w).1 = .ok () ∧ (s.write w).2.2.storage.tokens = w.tokens) ∨
    (∃ e, (s.write w).1 = .error e ∧ e.call.key = accessKey ∧
      (s.write w).2.2.storage.tokens = s.storage.tokens) ∨
    (∃ e, (s.write w).1 = .error e ∧ e.call.key = refreshKey ∧
      (s.write w).2.2.storage.tokens = ⟨w.tokens.access, s.storage.tokens.refresh⟩) := by
  obtain ⟨c, d, hcalls, hc, hd⟩ :
      ∃ c d, w.calls = [c, d] ∧ c.key = accessKey ∧ d.key = refreshKey := by
    cases w <;> exact ⟨_, _, rfl, rfl, rfl⟩
  rcases s.storage.call_cases c with ⟨-, hfirst⟩ | ⟨v, -, hfirst⟩
  · refine .inr (.inl ⟨⟨c, .refused c.verb c.key⟩, ?_, hc, ?_⟩)
    · simp [write, hcalls, persist, hfirst]
    · simp [write, hcalls, persist, hfirst, FaultyMap.tokens]
  · let g : FaultyMap :=
      { s.storage with map := (perform s.storage.map c).2, count := s.storage.count + 1 }
    rcases g.call_cases d with ⟨-, hsecond⟩ | ⟨u, -, hsecond⟩
    · refine .inr (.inr ⟨⟨d, .refused d.verb d.key⟩, ?_, hd, ?_⟩)
      · simp [write, hcalls, persist, hfirst, hsecond, g]
      · have hne : refreshKey ≠ accessKey := by decide
        have hstorage : (s.write w).2.2.storage.map = (perform s.storage.map c).2 := by
          simp [write, hcalls, persist, hfirst, hsecond, g]
        rw [FaultyMap.tokens, hstorage]
        cases w with
        | put p =>
          cases hcalls
          show Tokens.mk ((s.storage.map.insert _ _).get? _) ((s.storage.map.insert _ _).get? _) = _
          simp [hne, Write.tokens, Tokens.ofPair, FaultyMap.tokens]
        | forget =>
          cases hcalls
          show Tokens.mk ((s.storage.map.erase _).get? _) ((s.storage.map.erase _).get? _) = _
          simp [hne, Write.tokens, Tokens.none, FaultyMap.tokens]
    · have hok : (s.write w).1 = .ok () := by simp [write, hcalls, persist, hfirst, hsecond, g]
      exact .inl ⟨hok, s.mirrors_write hok⟩

/-- One operation moves the stored tokens as it moves their origins. -/
theorem tokens_apply (op : Operation) {o : Origins} (h : s.storage.tokens = o.tokens) :
    (s.apply op).2.2.storage.tokens = (o.after (s.apply op).1 op).tokens := by
  have hwrite : ∀ (w : Write) (p : Option Pair), w.tokens = (Origins.both p).tokens →
      (s.write w).2.2.storage.tokens = (o.put p (s.write w).1).tokens := by
    intro w p hp
    have hne : accessKey ≠ refreshKey := by decide
    rcases s.write_cases w with ⟨hok, hstored⟩ | ⟨e, he, hkey, hstored⟩ | ⟨e, he, hkey, hstored⟩
    · rw [hstored, hok, hp]
      rfl
    · rw [hstored, he, Origins.put, if_neg (hkey ▸ hne), h]
    · rw [hstored, he, Origins.put, if_pos hkey, h, hp]
      rfl
  cases op with
  | set p => exact hwrite (.put p) (some p) rfl
  | clear => exact hwrite .forget none rfl
  | reopen =>
    show s.reopen.2.2.storage.tokens = o.tokens
    rw [← h, FaultyMap.tokens, s.reopen_cases.1]
    rfl

end steps

/-- The origins of what is stored after some operations. -/
def origins (s : Store FaultyMap) (o : Origins) : List Operation → Origins
  | [] => o
  | op :: ops => origins (s.apply op).2.2 (o.after (s.apply op).1 op) ops

theorem tokens_run (s : Store FaultyMap) {o : Origins} (h : s.storage.tokens = o.tokens)
    (ops : List Operation) : (s.run ops).storage.tokens = (s.origins o ops).tokens := by
  induction ops generalizing s o with
  | nil => exact h
  | cons op ops ih => exact ih _ (s.tokens_apply op h)

/-- Tokens come from what was stored at first or from a pair that was set. -/
theorem Origins.mem_after {o : Origins} {r : Except StoreError Unit} {op : Operation} {p : Pair}
    (h : (o.after r op).access = some p ∨ (o.after r op).refresh = some p) :
    op = .set p ∨ o.access = some p ∨ o.refresh = some p := by
  have hput : ∀ q, (o.put q r).access = some p ∨ (o.put q r).refresh = some p →
      q = some p ∨ o.access = some p ∨ o.refresh = some p := by
    intro q hq
    rcases r with e | _
    · simp only [Origins.put] at hq
      split at hq
      · exact hq.imp_right .inr
      · exact .inr hq
    · exact .inl ((or_self _).mp hq)
  cases op with
  | set q => exact (hput _ h).imp_left fun heq => congrArg _ (Option.some.inj heq)
  | clear => exact (hput _ h).elim nofun .inr
  | reopen => exact .inr h

theorem mem_origins (s : Store FaultyMap) {o : Origins} {ops : List Operation} {p : Pair}
    (h : (s.origins o ops).access = some p ∨ (s.origins o ops).refresh = some p) :
    .set p ∈ ops ∨ o.access = some p ∨ o.refresh = some p := by
  induction ops generalizing s o with
  | nil => exact .inr h
  | cons op ops ih =>
    rcases ih _ h with hset | hafter
    · exact .inl (List.mem_cons_of_mem op hset)
    · refine (Origins.mem_after hafter).imp_left ?_
      rintro rfl
      exact List.mem_cons_self

/-- As long as no write is refused halfway, both tokens come from one pair. -/
theorem exists_both (s : Store FaultyMap) (p : Option Pair) (ops : List Operation)
    (h : ∀ past op rest, ops = past ++ op :: rest → ¬ Halfway ((s.run past).apply op).1) :
    ∃ q, s.origins (.both p) ops = .both q := by
  induction ops generalizing s p with
  | nil => exact ⟨p, rfl⟩
  | cons op ops ih =>
    have hfirst : ¬ Halfway (s.apply op).1 := h [] op ops rfl
    have hput : ∀ q, ∃ u, (Origins.both p).put q (s.apply op).1 = .both u := by
      intro q
      cases hr : (s.apply op).1 with
      | ok _ => exact ⟨q, rfl⟩
      | error e => exact ⟨p, if_neg fun hkey => hfirst ⟨e, hr, hkey⟩⟩
    obtain ⟨q, hq⟩ : ∃ q, (Origins.both p).after (s.apply op).1 op = .both q := by
      cases op with
      | set q => exact hput (some q)
      | clear => exact hput none
      | reopen => exact ⟨p, rfl⟩
    show ∃ u, origins (s.apply op).2.2 ((Origins.both p).after (s.apply op).1 op) ops = .both u
    rw [hq]
    exact ih (s.apply op).2.2 q fun past o rest hops => h (op :: past) o rest (congrArg (op :: ·) hops)

/-- No tokens, or those of one pair: the one stored at first or one that was set. -/
def Unmixed (initial : Option Pair) (ops : List Operation) (t : Tokens) : Prop :=
  t = .none ∨ ∃ p, (.set p ∈ ops ∨ initial = some p) ∧ t = .ofPair p

/-- Each token that a store loads comes from a pair that was stored, and both come from one pair unless a write was
refused halfway. -/
theorem loads_origins (m : TextMap) (refuses : Nat → StorageCall → Bool) (initial : Option Pair)
    (hinitial : (FaultyMap.mk m refuses 0).tokens = (Origins.both initial).tokens) {s : Store FaultyMap}
    (hopen : (open? (FaultyMap.mk m refuses 0)).1 = .ok s) (ops : List Operation) :
    let left := s.origins (.both initial) ops
    (∀ (f : FaultyMap) t, f.map = (s.run ops).storage.map → (open? f).1 = .ok t → t.memory = left.tokens) ∧
    (∀ p, left.access = some p ∨ left.refresh = some p → .set p ∈ ops ∨ initial = some p) ∧
    ((∀ past op rest, ops = past ++ op :: rest → ¬ Halfway ((s.run past).apply op).1) →
      Unmixed initial ops left.tokens) ∧
    (∀ past p, ops = past ++ [.set p] → Halfway ((s.run past).apply (.set p)).1 →
      left.tokens = ⟨some p.access, (s.run past).storage.tokens.refresh⟩) := by
  intro left
  obtain ⟨-, hmap⟩ := mirrors_open hopen
  have hstored : (s.run ops).storage.tokens = left.tokens := by
    refine s.tokens_run ?_ ops
    rw [FaultyMap.tokens, hmap]
    exact hinitial
  have hfrom : ∀ p, left.access = some p ∨ left.refresh = some p → .set p ∈ ops ∨ initial = some p :=
    fun p hp => (s.mem_origins hp).imp_right fun h => (or_self _).mp h
  refine ⟨?_, hfrom, ?_, ?_⟩
  · intro f t hf ht
    obtain ⟨hmirrors, hopened⟩ := mirrors_open ht
    rw [← hstored, ← hmirrors, FaultyMap.tokens, FaultyMap.tokens, hopened, hf]
  · intro hnone
    obtain ⟨q, hq⟩ := s.exists_both initial ops hnone
    have hleft : left = .both q := hq
    cases q with
    | none => exact .inl (by rw [hleft]; rfl)
    | some p => exact .inr ⟨p, hfrom p (by rw [hleft]; exact .inl rfl), by rw [hleft]; rfl⟩
  · rintro past p rfl ⟨e, he, hkey⟩
    have hrun : s.run (past ++ [.set p]) = ((s.run past).write (.put p)).2.2 := List.foldl_append ..
    rw [← hstored, hrun]
    rcases (s.run past).write_cases (.put p) with ⟨hok, -⟩ | ⟨d, hd, hother, -⟩ | ⟨-, -, -, h⟩
    · cases hok.symm.trans he
    · cases Except.error.inj (hd.symm.trans he)
      exact absurd (hother.symm.trans hkey) (by decide)
    · exact h

/-- A session over which a pair is set whose refresh token is refused. -/
def renewed : Store FaultyMap :=
  ⟨⟨⟨[("access_token", "A1"), ("refresh_token", "R1")]⟩, fun n c => c.key = refreshKey && n == 3, 2⟩,
    .ofPair ⟨"A1", "R1"⟩⟩

theorem loads_origins_of_renewed :
    let f := FaultyMap.mk renewed.storage.map renewed.storage.refuses 0
    (open? f).1 = .ok renewed ∧ f.tokens = (Origins.both (some ⟨"A1", "R1"⟩)).tokens ∧
      Halfway (renewed.apply (.set ⟨"A2", "R2"⟩)).1 ∧
      (renewed.origins (.both (some ⟨"A1", "R1"⟩)) [.set ⟨"A2", "R2"⟩]).tokens = ⟨some "A2", some "R1"⟩ ∧
      (renewed.origins (.both (some ⟨"A1", "R1"⟩)) [.set ⟨"A2", "R2"⟩, .set ⟨"A3", "R3"⟩]).tokens =
        .ofPair ⟨"A3", "R3"⟩ := by
  intro f
  have hopen : (open? f).1 = .ok renewed := rfl
  have htokens : f.tokens = (Origins.both (some ⟨"A1", "R1"⟩)).tokens := rfl
  have hhalf : Halfway (renewed.apply (.set ⟨"A2", "R2"⟩)).1 := ⟨_, rfl, rfl⟩
  have hmixed := (loads_origins f.map f.refuses (some ⟨"A1", "R1"⟩) htokens hopen
    [.set ⟨"A2", "R2"⟩]).2.2.2 [] _ rfl hhalf
  exact ⟨hopen, htokens, hhalf, hmixed, rfl⟩

/-- The store opened next takes the access token of the pair that was set for one with the refresh token
that it was to replace. -/
theorem set_leaves_mixed_pair :
    let f := FaultyMap.mk renewed.storage.map renewed.storage.refuses 0
    let ops := [Operation.set ⟨"A2", "R2"⟩]
    let t : Store FaultyMap := ⟨⟨⟨[("access_token", "A2"), ("refresh_token", "R1")]⟩, f.refuses, 6⟩,
      ⟨some "A2", some "R1"⟩⟩
    (open? f).1 = .ok renewed ∧ f.tokens = .ofPair ⟨"A1", "R1"⟩ ∧
      (open? (renewed.run ops).storage).1 = .ok t ∧
      ¬ Unmixed (some ⟨"A1", "R1"⟩) ops t.memory := by
  refine ⟨rfl, rfl, rfl, ?_⟩
  rintro (h | ⟨p, hp, h⟩)
  · exact absurd h (by decide)
  · obtain rfl : ⟨"A2", "R1"⟩ = p := Option.some.inj (pair?_eq_some.mpr h)
    revert hp
    decide

end BandCatalog.Store
