import BandCatalog.Proofs.Client.Turns
import BandCatalog.Storage.Memory

/-!
# A storm of expired requests

Whole runs of the turns of a storm: one renewal serves all calls, at every point of every run no call has
sent its request more than twice, and as long as somebody takes a step whenever anybody can, every call is
answered.
-/
namespace BandCatalog

open Renewal Client

namespace Client.Stage

/-- A call goes on to its next stage, or it stays and sends nothing. -/
def AdvancesOrStays (old new : Pair) (r : Http.Request) (sent : Option Http.Request) (st next : Stage) : Prop :=
  (next = st ∧ sent = none) ∨ (st.Next next ∧ sent = (st.speaker old new r).request?)

variable {old new : Pair} {r : Http.Request} {sent : Option Http.Request} {st next : Stage}

/-- What is sent is the request, with a token. -/
theorem AdvancesOrStays.sameRequest (h : AdvancesOrStays old new r sent st next) (hr : r.Callable) :
    ∀ q ∈ sent, SameRequest q r := by
  intro q hq
  rcases h with ⟨_, rfl⟩ | ⟨hnext, rfl⟩
  · cases hq
  · cases hnext <;>
      simp only [speaker, send, hr.guarded, Speaker.request?, Option.mem_def, Option.some.injEq,
        reduceCtorEq, Bool.false_eq_true, if_false] at hq
    · rw [← hq]
      exact r.sameRequest_bearing old.access
    · rw [← hq]
      exact r.sameRequest_bearing new.access

/-- What is sent is counted. -/
theorem AdvancesOrStays.exchanges_le (h : AdvancesOrStays old new r sent st next) (hr : r.Callable) :
    sent.toList.length + next.exchanges ≤ st.exchanges := by
  rcases h with ⟨rfl, rfl⟩ | ⟨hnext, rfl⟩
  · simp
  · cases hnext <;> simp [speaker, send, hr.guarded, Speaker.request?, exchanges]

/-- A call that is answered is done. -/
theorem AdvancesOrStays.answered {a : Http.Response} (h : AdvancesOrStays old new r sent (answered a) next) :
    next = .answered a := by
  rcases h with ⟨rfl, _⟩ | ⟨hnext, _⟩
  · rfl
  · cases hnext

/-- Only a call that is answered is done. -/
theorem eq_answered {x : Except Failure Http.Response} (hr : r.Callable)
    (h : st.speaker old new r = .speaking (.done x)) : ∃ a, st = .answered a ∧ x = .ok a := by
  cases st <;> simp [speaker, send, hr.guarded] at h
  exact ⟨_, rfl, h.symm⟩

end Client.Stage

namespace Crowd

section runs

variable {α β σ : Type}

/-- The result of a call, once it has ended. -/
def result? (c : Crowd α β σ) (i : Nat) : Option α :=
  c.speakers[i]?.bind fun
    | .speaking (.done a) => some a
    | _ => none

theorem result?_eq_some {c : Crowd α β σ} {i : Nat} {a : α} :
    c.result? i = some a ↔ c.speakers[i]? = some (.speaking (.done a)) := by
  rw [result?, Option.bind_eq_some_iff]
  constructor
  · rintro ⟨x, hx, ha⟩
    split at ha
    · cases ha
      exact hx
    · cases ha
  · intro h
    exact ⟨_, h, rfl⟩

/-- The request that a call sends in a turn. -/
def sending? (c : Crowd α β σ) (i : Nat) (t : Turn) : Option Http.Request :=
  if t = .speaker i then c.speakers[i]?.bind Speaker.request? else none

variable [Backend β] [KeyValue σ]

/-- The requests that a call sends in a run. -/
def sends (c : Crowd α β σ) (i : Nat) : List Turn → List Http.Request
  | [] => []
  | t :: ts => (c.sending? i t).toList ++ (c.step t).sends i ts

/-- A crowd after the first turns of a schedule. -/
def upTo (c : Crowd α β σ) (f : Nat → Turn) (n : Nat) : Crowd α β σ := c.run ((List.range n).map f)

theorem upTo_succ (c : Crowd α β σ) (f : Nat → Turn) (n : Nat) :
    c.upTo f (n + 1) = (c.upTo f n).step (f n) := by
  simp [upTo, run, List.range_succ]

/-- A schedule in which somebody takes a step whenever anybody can. -/
def Lively (c : Crowd α β σ) (f : Nat → Turn) : Prop :=
  ∀ n, (∃ t, (c.upTo f n).step t ≠ c.upTo f n) → ∃ m, n ≤ m ∧ c.upTo f (m + 1) ≠ c.upTo f m

/-- There always is one. -/
theorem exists_lively (c : Crowd α β σ) : ∃ f, c.Lively f := by
  have hpick : ∀ d : Crowd α β σ, ∃ t, (∃ u, d.step u ≠ d) → d.step t ≠ d := by
    intro d
    by_cases h : ∃ u, d.step u ≠ d
    · exact h.imp fun u hu _ => hu
    · exact ⟨.renewer, fun hu => absurd hu h⟩
  obtain ⟨pick, hpick⟩ := Classical.axiomOfChoice hpick
  let go : Nat → Crowd α β σ := Nat.rec c fun _ d => d.step (pick d)
  have hgo : ∀ n, c.upTo (fun k => pick (go k)) n = go n := by
    intro n
    induction n with
    | zero => rfl
    | succ n ih => rw [upTo_succ, ih]
  refine ⟨fun k => pick (go k), fun n hn => ⟨n, Nat.le_refl n, ?_⟩⟩
  rw [upTo_succ, hgo] at *
  exact hpick _ hn

end runs

/-- A place in a list splits it. -/
theorem exists_split_of_getElem? {γ : Type} {xs : List γ} {x : γ} {i : Nat} (h : xs[i]? = some x) :
    ∃ l k, xs = l ++ x :: k ∧ l.length = i := by
  obtain ⟨hlt, rfl⟩ := List.getElem?_eq_some_iff.mp h
  refine ⟨xs.take i, xs.drop (i + 1), ?_, List.length_take_of_le (Nat.le_of_lt hlt)⟩
  rw [← List.drop_eq_getElem_cons hlt, List.take_append_drop]

variable {β σ : Type} [KeyValue σ]

namespace Shows

variable {old new : Pair} {url : Url} {fresh : β → Prop}
  {c : Crowd (Except Failure Http.Response) β σ} {calls : List (Http.Request × Stage)}
  {p : Phase} {r : Http.Request} {st : Stage}

/-- Once the new pair is in memory there has been one renewal, and there will be no other. -/
theorem written (h : Shows old new url fresh c calls p) (hw : p.isWritten = true) :
    c.session.world.renewals = 1 ∧ c.session.world.asked = [old.refresh] ∧
      c.session.memory = .ofPair new := by
  have hmemory := h.stands.memory
  rw [hw, if_pos rfl] at hmemory
  rw [h.stands.renewals, h.stands.asked]
  cases p with
  | quiet => cases hw
  | started ws => cases hw
  | asked ws => cases hw
  | answered ws => cases hw
  | written cs ws => exact ⟨rfl, rfl, hmemory⟩
  | flushing ws => exact ⟨rfl, rfl, hmemory⟩
  | closed => exact ⟨rfl, rfl, hmemory⟩

theorem renewals_le_one (h : Shows old new url fresh c calls p) :
    c.session.world.renewals ≤ 1 := by
  rw [h.stands.renewals]
  cases p <;> simp [Phase.renewals]

/-- A call that has ended has its answer. -/
theorem ended (h : Shows old new url fresh c calls p) {i : Nat}
    (hi : (calls.map Prod.fst)[i]? = some r) {x : Except Failure Http.Response}
    (hx : c.result? i = some x) :
    (∃ a, x = .ok a ∧ c.session.Answered new r a) ∧ p.isWritten = true := by
  rw [List.getElem?_map, Option.map_eq_some_iff] at hi
  obtain ⟨⟨_, st⟩, hst, rfl⟩ := hi
  have hmem := List.mem_of_getElem? hst
  rw [result?_eq_some, h.speakers, List.getElem?_map, hst] at hx
  obtain ⟨a, rfl, rfl⟩ := Stage.eq_answered (h.callable _ hmem) (Option.some.inj hx)
  obtain ⟨hw, hanswered⟩ := h.sound _ hmem
  exact ⟨⟨a, rfl, hanswered⟩, hw⟩

variable [Backend β]

/-- What a turn makes of the stages and the phase: it leaves less to be done, or changes nothing; and each
call goes on, or stays. -/
structure Took (old new : Pair) (c : Crowd (Except Failure Http.Response) β σ) (t : Turn)
    (calls : List (Http.Request × Stage)) (p : Phase) (after : List (Http.Request × Stage))
    (q : Phase) : Prop where
  less : (c.step t = c ∧ after = calls ∧ q = p) ∨ toil after q < toil calls p
  requests : after.map Prod.fst = calls.map Prod.fst
  goes : ∀ i r st, calls[i]? = some (r, st) →
    ∃ next, after[i]? = some (r, next) ∧ Stage.AdvancesOrStays old new r (c.sending? i t) st next

/-- A turn at which no call sends anything or goes on. -/
theorem Took.stay {t : Turn} {q : Phase}
    (hless : (c.step t = c ∧ q = p) ∨ q.weight < p.weight) (hnone : ∀ i, c.sending? i t = none) :
    Took old new c t calls p calls q where
  less := hless.imp (fun h => ⟨h.1, rfl, h.2⟩) fun hlt => Nat.add_lt_add_left hlt _
  requests := rfl
  goes := fun i _ st hi => ⟨st, hi, .inl ⟨rfl, hnone i⟩⟩

/-- A turn at which one call goes on. -/
theorem Took.go (h : Shows old new url fresh c calls p) {l k : List (Http.Request × Stage)}
    (hcalls : calls = l ++ (r, st) :: k) {next : Stage} {q : Phase} (hnext : st.Next next)
    (hless : next.rank + q.weight < st.rank + p.weight) :
    Took old new c (.speaker l.length) calls p (l ++ (r, next) :: k) q where
  less := by
    refine .inr ?_
    simp only [toil, hcalls, ranks_append, ranks_cons]
    omega
  requests := by simp [hcalls]
  goes := by
    intro i s u hi
    by_cases hl : i = l.length
    · subst hl
      have hhere : calls[l.length]? = some (r, st) := by simp [hcalls]
      cases hhere.symm.trans hi
      refine ⟨next, by simp, .inr ⟨hnext, ?_⟩⟩
      rw [sending?, if_pos rfl, h.speaker_eq hcalls, Option.bind_some]
    · refine ⟨u, ?_, .inl ⟨rfl, if_neg fun heq => hl (Turn.speaker.inj heq).symm⟩⟩
      rw [← hi, hcalls]
      rcases Nat.lt_or_gt_of_ne hl with hlt | hgt
      · rw [List.getElem?_append_left hlt, List.getElem?_append_left hlt]
      · obtain ⟨d, rfl⟩ := Nat.exists_eq_add_of_lt hgt
        simp [List.getElem?_append_right, Nat.add_assoc]

theorem next (h : Shows old new url fresh c calls p) (hpair : old.Changes new)
    (hb : Renews old new url fresh) (t : Turn) :
    ∃ after q, Shows old new url fresh (c.step t) after q ∧ Took old new c t calls p after q := by
  have hsame : c.step t = c → Shows old new url fresh (c.step t) calls p := by
    intro hc
    rw [hc]
    exact h
  cases t with
  | task t =>
    rcases h.turn_task t with hc | ⟨q, hlt, hq⟩
    · exact ⟨calls, p, hsame hc, .stay (.inl ⟨hc, rfl⟩) fun _ => rfl⟩
    · exact ⟨calls, q, hq, .stay (.inr hlt) fun _ => rfl⟩
  | renewer =>
    rcases h.turn_renewer hb with ⟨hc, _⟩ | ⟨_, q, hlt, hq⟩
    · exact ⟨calls, p, hsame hc, .stay (.inl ⟨hc, rfl⟩) fun _ => rfl⟩
    · exact ⟨calls, q, hq, .stay (.inr hlt) fun _ => rfl⟩
  | speaker j =>
    cases hj : calls[j]? with
    | none =>
      have hnone : c.speakers[j]? = none := by simp [h.speakers, hj]
      have hc : c.step (.speaker j) = c := by simp only [step, hnone, Option.bind_none]
      refine ⟨calls, p, hsame hc, .stay (.inl ⟨hc, rfl⟩) fun i => ?_⟩
      by_cases hi : j = i
      · simp [sending?, ← hi, hnone]
      · simp [sending?, hi]
    | some e =>
      obtain ⟨r, st⟩ := e
      obtain ⟨l, k, hcalls, rfl⟩ := exists_split_of_getElem? hj
      rcases h.turn hpair hb hcalls with ⟨hc, hnone, _⟩ | ⟨next, q, hnext, hless, hq⟩
      · refine ⟨calls, p, hsame hc, .stay (.inl ⟨hc, rfl⟩) fun i => ?_⟩
        by_cases hi : l.length = i
        · subst hi
          rw [sending?, if_pos rfl, h.speaker_eq hcalls, Option.bind_some, hnone]
        · simp [sending?, hi]
      · exact ⟨_, q, hq, .go h hcalls hnext hless⟩

/-- The stages and the phase after any turns. -/
theorem exists_run (h : Shows old new url fresh c calls p) (hpair : old.Changes new)
    (hb : Renews old new url fresh) (ts : List Turn) :
    ∃ after q, Shows old new url fresh (c.run ts) after q ∧
      after.map Prod.fst = calls.map Prod.fst := by
  induction ts generalizing c calls p with
  | nil => exact ⟨calls, p, h, rfl⟩
  | cons t ts ih =>
    obtain ⟨mid, q, hmid, htook⟩ := h.next hpair hb t
    obtain ⟨after, u, hafter, hrequests⟩ := ih hmid
    exact ⟨after, u, hafter, hrequests.trans htook.requests⟩

/-- A call sends its request no more often than its stage allows. -/
theorem sends_le (h : Shows old new url fresh c calls p) (hpair : old.Changes new)
    (hb : Renews old new url fresh) {i : Nat} (hi : calls[i]? = some (r, st)) (ts : List Turn) :
    (c.sends i ts).length ≤ st.exchanges ∧ ∀ q ∈ c.sends i ts, SameRequest q r := by
  induction ts generalizing c calls p st with
  | nil => exact ⟨Nat.zero_le _, by simp [sends]⟩
  | cons t ts ih =>
    have hr : r.Callable := h.callable (r, st) (List.mem_of_getElem? hi)
    obtain ⟨mid, q, hmid, htook⟩ := h.next hpair hb t
    obtain ⟨next, hnext, hgoes⟩ := htook.goes i r st hi
    obtain ⟨hle, hsame⟩ := ih hmid hnext
    have hone := hgoes.exchanges_le hr
    constructor
    · rw [sends, List.length_append]
      omega
    · intro x hx
      rcases List.mem_append.mp hx with hx | hx
      · exact hgoes.sameRequest hr x (Option.mem_toList.mp hx)
      · exact hsame x hx

/-- As long as a call is not answered, somebody can take a step. -/
theorem progress (h : Shows old new url fresh c calls p) (hpair : old.Changes new)
    (hb : Renews old new url fresh) {e : Http.Request × Stage} (he : e ∈ calls)
    (hopen : ∀ a, e.2 ≠ .answered a) : ∃ t, c.step t ≠ c := by
  obtain ⟨r, st⟩ := e
  obtain ⟨l, k, hcalls⟩ := List.append_of_mem he
  rcases h.turn hpair hb hcalls with ⟨_, _, hrest⟩ | ⟨next, q, hnext, _, hq⟩
  · rcases hrest with ⟨a, ha⟩ | hpending
    · exact absurd ha (hopen a)
    -- it waits for the coordinator, which can go on
    · rcases h.stands.exists_advance hpending with ⟨ws, hws⟩ | ⟨id, hne⟩
      · rcases h.turn_renewer hb with ⟨_, hno⟩ | ⟨hne, _⟩
        · exact absurd hws (hno ws)
        · exact ⟨.renewer, hne⟩
      · exact ⟨.task id, fun heq => hne (congrArg (fun d => d.session.world.tasks) heq)⟩
  · refine ⟨.speaker l.length, fun heq => ?_⟩
    have hold := h.speaker_eq hcalls
    have hnew := hq.speaker_eq rfl
    rw [heq, hold] at hnew
    exact hnext.speaker_ne (h.callable _ he).guarded (Option.some.inj hnew).symm

/-- Later on there is no more to be done, and who is answered stays so. -/
theorem exists_later {f : Nat → Turn} {n : Nat} (hpair : old.Changes new)
    (hb : Renews old new url fresh) (h : Shows old new url fresh (c.upTo f n) calls p) {m : Nat}
    (hm : n ≤ m) :
    ∃ later q, Shows old new url fresh (c.upTo f m) later q ∧
      later.map Prod.fst = calls.map Prod.fst ∧ toil later q ≤ toil calls p ∧
      ∀ (i : Nat) (r : Http.Request) (a : Http.Response),
        calls[i]? = some (r, .answered a) → later[i]? = some (r, .answered a) := by
  induction hm with
  | refl => exact ⟨calls, p, h, rfl, Nat.le_refl _, fun _ _ _ hi => hi⟩
  | @step m _ ih =>
    obtain ⟨mid, q, hmid, hrequests, hle, hanswered⟩ := ih
    obtain ⟨later, u, hlater, htook⟩ := hmid.next hpair hb (f m)
    rw [← upTo_succ] at hlater
    refine ⟨later, u, hlater, htook.requests.trans hrequests, ?_, ?_⟩
    · rcases htook.less with ⟨_, rfl, rfl⟩ | hlt
      · exact hle
      · exact Nat.le_trans (Nat.le_of_lt hlt) hle
    · intro i r a hi
      obtain ⟨next, hnext, hgoes⟩ := htook.goes i r _ (hanswered i r a hi)
      rw [hnext, hgoes.answered]

/-- In a lively schedule every call is answered in the end. -/
theorem exists_answered {f : Nat → Turn} (hpair : old.Changes new) (hb : Renews old new url fresh)
    (hlively : c.Lively f) {n : Nat} (h : Shows old new url fresh (c.upTo f n) calls p) :
    ∃ m later q, n ≤ m ∧ Shows old new url fresh (c.upTo f m) later q ∧
      later.map Prod.fst = calls.map Prod.fst ∧ ∀ e ∈ later, ∃ a, e.2 = Stage.answered a := by
  -- by induction on what is left to be done
  generalize htoil : toil calls p = left
  induction left using Nat.strongRecOn generalizing n calls p with
  | ind left ih =>
    by_cases hopen : ∃ e ∈ calls, ∀ a, e.2 ≠ Stage.answered a
    · obtain ⟨e, he, hopen⟩ := hopen
      obtain ⟨m, hm, hne⟩ := hlively n (h.progress hpair hb he hopen)
      obtain ⟨mid, q, hmid, hrequests, hle, _⟩ := exists_later hpair hb h hm
      obtain ⟨next, u, hnext, htook⟩ := hmid.next hpair hb (f m)
      rw [upTo_succ] at hne
      rw [← upTo_succ] at hnext
      have hlt : toil next u < left := by
        rcases htook.less with ⟨hc, _⟩ | hlt
        · exact absurd hc hne
        · omega
      obtain ⟨k, later, v, hk, hlater, hsame, hall⟩ := ih _ hlt hnext rfl
      exact ⟨k, later, v, Nat.le_trans (Nat.le_succ_of_le hm) hk, hlater,
        hsame.trans (htook.requests.trans hrequests), hall⟩
    · refine ⟨n, calls, p, Nat.le_refl _, h, rfl, fun e he => ?_⟩
      by_cases ha : ∃ a, e.2 = Stage.answered a
      · exact ha
      · exact absurd ⟨e, he, fun a hea => ha ⟨a, hea⟩⟩ hopen

end Shows

variable [Backend β]

/-- A storm of calls makes one renewal at most and sends no request more than twice, and if somebody takes a step
whenever anybody can every call is answered under the new token. -/
theorem one_renewal_for_storm {old new : Pair} {url : Url} {fresh : β → Prop}
    (hpair : old.Changes new) (hb : Renews old new url fresh) (storage : σ) {b : β} (hfresh : fresh b)
    {rs : List Http.Request} (hrs : ∀ r ∈ rs, r.Callable) (hne : rs ≠ []) :
    let c := storm storage b url old rs
    (∀ ts : List Turn,
      (c.run ts).session.world.renewals ≤ 1 ∧
      ∀ i r, rs[i]? = some r →
        (c.sends i ts).length ≤ 2 ∧ (∀ q ∈ c.sends i ts, SameRequest q r) ∧
        ∀ x, (c.run ts).result? i = some x →
          (∃ a, x = .ok a ∧ (c.run ts).session.Answered new r a) ∧
          (c.run ts).session.world.renewals = 1 ∧
          (c.run ts).session.world.asked = [old.refresh] ∧
          (c.run ts).session.memory = .ofPair new) ∧
    ∀ f : Nat → Turn, c.Lively f → ∃ n, ∀ m, n ≤ m →
      (c.upTo f m).session.world.renewals = 1 ∧
      (c.upTo f m).session.world.asked = [old.refresh] ∧
      (c.upTo f m).session.memory = .ofPair new ∧
      ∀ i r, rs[i]? = some r →
        ∃ a, (c.upTo f m).result? i = some (.ok a) ∧ (c.upTo f m).session.Answered new r a := by
  intro c
  have h : Shows old new url fresh c (rs.map fun r => (r, .called)) .quiet := .storm new hfresh hrs
  have hfst : (rs.map fun r => (r, Stage.called)).map Prod.fst = rs := by
    rw [List.map_map]
    exact List.map_id rs
  constructor
  · intro ts
    obtain ⟨later, q, hlater, hrequests⟩ := h.exists_run hpair hb ts
    refine ⟨hlater.renewals_le_one, fun i r hi => ?_⟩
    have hcalled : (rs.map fun r => (r, Stage.called))[i]? = some (r, .called) := by simp [hi]
    obtain ⟨hle, hsame⟩ := h.sends_le hpair hb hcalled ts
    refine ⟨hle, hsame, fun x hx => ?_⟩
    obtain ⟨hanswer, hw⟩ := hlater.ended (by rw [hrequests, hfst, hi]) hx
    exact ⟨hanswer, hlater.written hw⟩
  · intro f hlively
    obtain ⟨n, calls, p, _, hn, hrequests, hall⟩ :=
      Shows.exists_answered (n := 0) hpair hb hlively h
    refine ⟨n, fun m hm => ?_⟩
    obtain ⟨later, q, hlater, hsame, _, hanswered⟩ := Shows.exists_later hpair hb hn hm
    have hended : ∀ (i : Nat) (r : Http.Request), rs[i]? = some r →
        ∃ a, later[i]? = some (r, Stage.answered a) := by
      intro i r hi
      rw [← hfst, ← hrequests, List.getElem?_map, Option.map_eq_some_iff] at hi
      obtain ⟨⟨_, st⟩, hst, rfl⟩ := hi
      obtain ⟨a, ha⟩ := hall _ (List.mem_of_getElem? hst)
      cases ha
      exact ⟨a, hanswered i _ a hst⟩
    have hw : q.isWritten = true := by
      obtain ⟨r, rest, rfl⟩ := List.exists_cons_of_ne_nil hne
      obtain ⟨a, ha⟩ := hended 0 r rfl
      exact (hlater.sound _ (List.mem_of_getElem? ha)).1
    obtain ⟨hrenewals, hasked, hmemory⟩ := hlater.written hw
    refine ⟨hrenewals, hasked, hmemory, fun i r hi => ?_⟩
    obtain ⟨a, ha⟩ := hended i r hi
    refine ⟨a, ?_, (hlater.sound _ (List.mem_of_getElem? ha)).2⟩
    rw [result?_eq_some, hlater.speakers, List.getElem?_map, ha]
    rfl

/-- A backend that takes the access token `A2` only, and exchanges `R1` once. -/
structure Doorman where
  spent : Bool

namespace Doorman

def url : Url :=
  ⟨"http", some ⟨"", "", .name "host", none⟩, .segments ["auth", "refresh"], none, none⟩

def pair : String := "\x7b\"accessToken\":\"A2\",\"refreshToken\":\"R2\"\x7d"

instance : Backend Doorman where
  answer d r :=
    if r.headers.values authorizationName = [bearer "A2"] then (.ok ⟨200, none⟩, d)
    else if r = exchangeRequest url "R1" ∧ d.spent = false then
      (.ok ⟨200, some pair.toUTF8⟩, ⟨true⟩)
    else (.ok ⟨401, none⟩, d)

theorem renews : Renews ⟨"A1", "R1"⟩ ⟨"A2", "R2"⟩ url fun d : Doorman => d.spent = false := by
  -- an exchange bears no access token
  have hexchange : ∀ r token, Http.Request.Bears r token → r ≠ exchangeRequest url "R1" := by
    rintro r token h rfl
    cases (show [] = [bearer token] from h)
  constructor
  · intro d r token hbears hne
    have hold : r.headers.values authorizationName ≠ [bearer "A2"] := by
      rw [hbears]
      intro heq
      exact hne ((String.append_right_inj _).mp (List.cons.inj heq).1)
    have hr := hexchange r token hbears
    exact ⟨⟨401, none⟩, by simp [Backend.answer, hold, hr], rfl⟩
  · intro d r hbears
    exact ⟨⟨200, none⟩, congrArg Prod.fst (if_pos hbears), by decide⟩
  · intro d r token hfresh hbears
    have hr := hexchange r token hbears
    simp only [Backend.answer, hr, false_and, if_false]
    split <;> exact hfresh
  · intro d hfresh
    obtain rfl : d = ⟨false⟩ := congrArg mk hfresh
    rfl
  · rfl

def requests : List Http.Request :=
  [.build "GET" { url with path := .segments ["bands"] } none,
    .build "GET" { url with path := .segments ["users", "me"] } none]

theorem callable : ∀ r ∈ requests, r.Callable := by
  simp only [requests, List.forall_mem_cons]
  exact ⟨⟨rfl, rfl, rfl⟩, ⟨rfl, rfl, rfl⟩, nofun⟩

/-- A storage that refuses every call. -/
def refusing : FaultyMap := ⟨.empty, fun _ _ => true, 0⟩

def calls : Crowd (Except Failure Http.Response) Doorman FaultyMap :=
  storm refusing ⟨false⟩ url ⟨"A1", "R1"⟩ requests

/-- Both calls look at the old access token. One is turned away, and the renewal that it starts is over
before the other hears that it was turned away too. -/
def late : List Turn :=
  [.speaker 0, .speaker 1, .speaker 1, .speaker 0, .speaker 0, .speaker 0, .task 1, .renewer, .task 1,
    .task 1, .task 1, .task 1, .task 1, .speaker 1, .speaker 1, .speaker 1, .speaker 1, .speaker 1,
    .speaker 0, .speaker 0, .speaker 0]

end Doorman

open Doorman in
/-- The storage refuses everything, and one call hears late that it was turned away. -/
theorem one_renewal_for_two_calls :
    (calls.run late).result? 0 = some (.ok ⟨200, none⟩) ∧
      (calls.run late).result? 1 = some (.ok ⟨200, none⟩) ∧
      (calls.run late).session.world.renewals = 1 ∧
      (calls.run late).session.memory = .ofPair ⟨"A2", "R2"⟩ ∧
      (calls.sends 0 late).length ≤ 2 ∧ (calls.sends 1 late).length ≤ 2 ∧
      ∃ f n, calls.Lively f ∧ ∀ m, n ≤ m → (calls.upTo f m).session.world.renewals = 1 := by
  obtain ⟨hruns, hends⟩ :=
    one_renewal_for_storm (by constructor <;> decide) renews refusing (b := ⟨false⟩) rfl callable
      (by decide)
  obtain ⟨-, hcalls⟩ := hruns late
  have hfirst : (calls.run late).result? 0 = some (.ok ⟨200, none⟩) := by rfl
  have hsecond : (calls.run late).result? 1 = some (.ok ⟨200, none⟩) := by rfl
  obtain ⟨hzero, -, hended⟩ := hcalls 0 _ rfl
  obtain ⟨hone, -, -⟩ := hcalls 1 _ rfl
  obtain ⟨-, hrenewals, -, hmemory⟩ := hended _ hfirst
  obtain ⟨f, hlively⟩ := exists_lively calls
  obtain ⟨n, hn⟩ := hends f hlively
  exact ⟨hfirst, hsecond, hrenewals, hmemory, hzero, hone, f, n, hlively, fun m hm => (hn m hm).1⟩

end Crowd

end BandCatalog
