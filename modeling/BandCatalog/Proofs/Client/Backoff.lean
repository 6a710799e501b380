import BandCatalog.Client.Calls
import BandCatalog.Proofs.Client.Retrying
import Mathlib.Algebra.Group.Nat.Defs

/-!
# Backing off

A call whose request is told to slow down waits and tries again, each time twice as long, up to three times.
What it does is read off its transcript: attempts of one request through the middleware each, with waits
between them. No assumption is made on the backend, on others who use the same coordinator, or on the order
of steps.
-/
namespace BandCatalog

open Renewal

namespace Renewal.World

variable {σ : Type}

theorem renewals_arrive (w : World σ) (p : Pending) : (w.arrive p).renewals ≤ w.renewals + 1 := by
  simp only [arrive]
  split
  · exact Nat.le_succ _
  · split
    · exact Nat.le_succ _
    · exact Nat.le_refl _
    · exact Nat.le_succ _

variable [KeyValue σ]

/-- No task starts a renewal. -/
theorem renewals_advance (w : World σ) (id : Ticket) (t : Task) :
    (w.advance id t).renewals = w.renewals := by
  cases t with
  | start token => rfl
  | ask token => rfl
  | write c p => rfl
  | persist cs result p =>
    cases cs with
    | nil => cases p <;> rfl
    | cons c cs =>
      simp only [advance]
      split <;> rfl
  | flush v xs =>
    cases xs with
    | nil => cases v <;> rfl
    | cons x xs => rfl

theorem renewals_drain (w : World σ) : w.drain.renewals = w.renewals := by
  suffices h : ∀ n (w : World σ), (drainFor n w).renewals = w.renewals from h w.work w
  intro n
  induction n with
  | zero => exact fun w => rfl
  | succ n ih =>
    intro w
    cases hrun : w.runnable? with
    | none => simp only [drainFor, hrun]
    | some id =>
      simp only [drainFor, hrun, ih, step]
      split
      · exact renewals_advance w id _
      · rfl

end Renewal.World

namespace Session

variable {β σ : Type} [Backend β] [KeyValue σ]

theorem renewals_answerRenewal (s : Session β σ) :
    s.answerRenewal.world.renewals = s.world.renewals := by
  unfold answerRenewal
  split
  · rfl
  · simp only [World.step, renew, world_send]
    split <;> rfl

/-- A request that is recovered starts at most one. -/
theorem renewals_recover (s : Session β σ) (p : Pending) :
    (s.recover p).2.world.renewals ≤ s.world.renewals + 1 := by
  simp only [recover, World.renewals_drain, renewals_answerRenewal]
  exact s.world.renewals_arrive p

omit [Backend β] in
theorem renewals_write (s : Session β σ) (w : Write) :
    (s.write w).2.world.renewals = s.world.renewals := by
  simp only [write, World.renewals_drain]
  rfl

end Session

/-- A conversation held alone starts a renewal at most for each request that it hands over. -/
theorem Conversation.renewals_hold {α β σ : Type} [Backend β] [KeyValue σ] (c : Conversation α)
    (s : Session β σ) :
    (c.hold s).2.world.renewals ≤ s.world.renewals + (c.script s).countP Act.isAsk := by
  induction c generalizing s with
  | done a => exact Nat.le_refl _
  | access next ih => exact ih _ s
  | refresh next ih => exact ih _ s
  | exchange r next ih =>
    have hnext := ih (s.send r).1 (s.send r).2
    rw [s.world_send] at hnext
    exact hnext
  | recover p next ih =>
    have hnext := ih (s.recover p).1 (s.recover p).2
    have hone := s.renewals_recover p
    simp only [script, List.countP_cons, Act.isAsk, if_true, Bool.false_eq_true, if_false]
    exact Nat.le_trans hnext (by omega)
  | pause ms next ih => exact ih { s with log := .pause ms :: s.log }
  | write w next ih =>
    have hnext := ih (s.write w).1 (s.write w).2
    rw [s.renewals_write w] at hnext
    exact hnext

namespace Crowd

variable {α β σ : Type} [Backend β] [KeyValue σ]

/-- The renewals that a speaker starts in its turns. -/
def renewalsBy (c : Crowd α β σ) (i : Nat) : List Turn → Nat
  | [] => 0
  | t :: ts =>
    (if t = .speaker i then (c.step t).session.world.renewals - c.session.world.renewals else 0) +
      (c.step t).renewalsBy i ts

theorem renewals_speak {s u : Session β σ} {x y : Speaker α} (h : speak s x = some (y, u)) :
    u.world.renewals ≤ s.world.renewals + (x.act? s).toList.countP Act.isAsk := by
  have hstay : u.world = s.world →
      u.world.renewals ≤ s.world.renewals + (x.act? s).toList.countP Act.isAsk := by
    intro hworld
    rw [hworld]
    exact Nat.le_add_right _ _
  cases x with
  | speaking c =>
    cases c with
    | done a => cases h
    | access next => cases h; exact hstay rfl
    | refresh next => cases h; exact hstay rfl
    | exchange r next => cases h; exact hstay (s.world_send r)
    | recover p next => cases h; exact s.world.renewals_arrive p
    | pause ms next => cases h; exact hstay rfl
    | write w next => cases h; exact Nat.le_refl _
  | listening o next => cases h; exact hstay rfl
  | waiting t next =>
    obtain ⟨result, -, heq⟩ := Option.map_eq_some_iff.mp h
    cases heq
    exact hstay rfl
  | writing t next =>
    obtain ⟨result, -, heq⟩ := Option.map_eq_some_iff.mp h
    cases heq
    exact hstay rfl

/-- It starts at most one for each request that it hands over. -/
theorem renewalsBy_le (c : Crowd α β σ) (i : Nat) (ts : List Turn) :
    c.renewalsBy i ts ≤ (c.acts i ts).countP Act.isAsk := by
  induction ts generalizing c with
  | nil => exact Nat.le_refl _
  | cons t ts ih =>
    rw [renewalsBy, acts, List.countP_append]
    refine Nat.add_le_add ?_ (ih (c.step t))
    split
    case isFalse => exact Nat.zero_le _
    case isTrue ht =>
      subst ht
      rw [Nat.sub_le_iff_le_add']
      cases hx : c.speakers[i]? with
      | none =>
        rw [step_of_absent hx]
        exact Nat.le_add_right _ _
      | some x =>
        cases hspeak : speak c.session x with
        | none =>
          rw [step_of_silent hx hspeak]
          exact Nat.le_add_right _ _
        | some next =>
          rw [step_of_speak hx hspeak]
          simp only [act?, if_true, hx, Option.bind_some]
          exact renewals_speak hspeak

end Crowd

theorem Act.Faithful.of_infix {as bs : List Act} (h : Act.Faithful bs) (hsub : as <:+: bs) :
    Act.Faithful as := fun t p q hin => h t p q (hin.trans hsub)

/-- A conversation that goes on with another has come to the end of both. -/
theorem Speaker.leads_bind {α γ : Type} {c : Conversation α} {f : α → Conversation γ} {as : List Act}
    {z : γ} (h : Leads (.speaking (c.bind f)) as (.speaking (.done z))) :
    ∃ front a back, as = front ++ back ∧ Leads (.speaking c) front (.speaking (.done a)) ∧
      Leads (.speaking (f a)) back (.speaking (.done z)) := by
  induction c generalizing as with
  | done a => exact ⟨[], a, as, rfl, .refl _, h⟩
  | access next ih =>
    cases h with
    | access token h =>
      obtain ⟨front, a, back, rfl, hfront, hback⟩ := ih token h
      exact ⟨_, a, back, rfl, .access token hfront, hback⟩
  | refresh next ih =>
    cases h with
    | refresh token h =>
      obtain ⟨front, a, back, rfl, hfront, hback⟩ := ih token h
      exact ⟨_, a, back, rfl, .refresh token hfront, hback⟩
  | exchange r next ih =>
    cases h with
    | exchange o h =>
      cases h with
      | hear h =>
        obtain ⟨front, a, back, rfl, hfront, hback⟩ := ih o h
        exact ⟨_, a, back, rfl, .exchange o (.hear hfront), hback⟩
  | recover p next ih =>
    cases h with
    | ask t h =>
      cases h with
      | told result h =>
        obtain ⟨front, a, back, rfl, hfront, hback⟩ := ih result h
        exact ⟨_, a, back, rfl, .ask t (.told result hfront), hback⟩
  | pause ms next ih =>
    cases h with
    | pause h =>
      obtain ⟨front, a, back, rfl, hfront, hback⟩ := ih h
      exact ⟨_, a, back, rfl, .pause hfront, hback⟩
  | write w next ih =>
    cases h with
    | begin t h =>
      cases h with
      | wrote result h =>
        obtain ⟨front, a, back, rfl, hfront, hback⟩ := ih result h
        exact ⟨_, a, back, rfl, .begin t (.wrote result hfront), hback⟩

namespace Client

/-- What one exchange ends with. -/
def executed (r : Http.Request) : Http.Outcome → Except Failure Http.Response
  | .ok a => .ok a
  | .error o => .error (.sending r.method ⟨r.url, o⟩)

/-- What one request through the middleware does from its beginning to its end, and what it ends with. -/
inductive Sent (r : Http.Request) : List Act → Except Failure Http.Response → Prop where
  /-- An open endpoint has one exchange without authorization, whatever comes of it. -/
  | openly (hr : r.url.isUnauthenticated = true) (o : Http.Outcome) :
      Sent r [.exchange (unauthorize r) o] (executed r o)
  | bearing (hr : r.url.isUnauthenticated = false) {as : List Act} {x : Except Failure Http.Response}
      (h : Concluded r as x) : Sent r as x

theorem sameRequest_unauthorize (r : Http.Request) : SameRequest (unauthorize r) r := by
  simp [SameRequest, unauthorize, Http.Headers.remove]

namespace Sent

variable {r : Http.Request} {as : List Act} {x : Except Failure Http.Response}

theorem of_leads (h : Speaker.Leads (.speaking (send r)) as (.speaking (.done x)))
    (hfaithful : Act.Faithful as) : Sent r as x := by
  cases hr : r.url.isUnauthenticated with
  | false => exact .bearing hr (.of_leads hr h hfaithful)
  | true =>
    simp only [send, hr, if_true, execute] at h
    cases h with
    | exchange o h =>
      cases h with
      | hear h => cases o <;> cases h <;> exact .openly hr _

theorem exchanges_le (h : Sent r as x) : as.countP Act.isExchange ≤ 2 := by
  cases h with
  | openly hr o => exact Nat.le_succ 1
  | bearing hr h => exact h.exchanges_le

theorem asks_le (h : Sent r as x) : as.countP Act.isAsk ≤ 1 := by
  cases h with
  | openly hr o => exact Nat.zero_le 1
  | bearing hr h => exact h.asks_le

theorem sameRequest (h : Sent r as x) : ∀ q o, .exchange q o ∈ as → SameRequest q r := by
  cases h with
  | openly hr o => simpa using sameRequest_unauthorize r
  | bearing hr h => exact h.sameRequest

/-- An answer that it ends with is the answer to an exchange of the request. -/
theorem exists_exchange {a : Http.Response} (h : Sent r as (.ok a)) :
    ∃ q, .exchange q (.ok a) ∈ as := by
  generalize hx : (.ok a : Except Failure Http.Response) = x at h
  cases h with
  | openly hr o =>
    cases o with
    | error o => cases hx
    | ok b =>
      cases hx
      exact ⟨_, List.mem_cons_self⟩
  | bearing hr h =>
    cases h with
    | answered sent ha => cases hx; exact ⟨_, List.mem_cons_of_mem _ List.mem_cons_self⟩
    | unrepeatable sent ha hr => cases hx; exact ⟨_, List.mem_cons_of_mem _ List.mem_cons_self⟩
    | reanswered ha t hs hb => cases hx; exact ⟨_, List.mem_of_getLast? rfl⟩
    | _ => cases hx

/-- It does not end with the error of a call that has been told to slow down too often. -/
theorem ne_rateLimited (h : Sent r as x) : x ≠ .error (.api .rateLimited) := by
  cases h with
  | openly hr o => cases o <;> simp [executed]
  | bearing hr h => cases h <;> simp

end Sent

/-- An attempt: what it does and what it ends with. -/
structure Attempt where
  acts : List Act
  outcome : Except Failure Http.Response

/-- The answer is to slow down. -/
def Attempt.IsSlowed (t : Attempt) : Prop := ∃ a, t.outcome = .ok a ∧ a.status = 429

/-- What the outcome of an attempt means for the call: a success is as it is, every other answer is the error
of its status. -/
def verdict : Except Failure Http.Response → Except Failure Http.Response
  | .ok a =>
    if Http.isSuccess a.status then .ok a else .error (.api (.ofStatus a.status a.text))
  | .error e => .error e

/-- Attempts with a wait after each; a wait is twice as long as the one before. -/
def waited (wait : Nat) (past : List Attempt) : List Act :=
  past.zipIdx.flatMap fun t => t.1.acts ++ [.pause (wait * 2 ^ t.2)]

@[simp] theorem waited_nil (wait : Nat) : waited wait [] = [] := rfl

theorem waited_cons (wait : Nat) (t : Attempt) (past : List Attempt) :
    waited wait (t :: past) = t.acts ++ .pause wait :: waited (2 * wait) past := by
  have hshift : past.zipIdx 1 = past.zipIdx.map fun t => (t.1, t.2 + 1) := by
    simpa using List.zipIdx_succ (l := past) (i := 0)
  have hdouble : ∀ k, wait * 2 ^ (k + 1) = 2 * wait * 2 ^ k := fun k => by
    rw [Nat.pow_succ, Nat.mul_comm 2 wait, Nat.mul_assoc, Nat.mul_comm (2 ^ k)]
  simp [waited, hshift, List.flatMap_map, hdouble]

/-- A call of a request that may be told to slow down so many times before it gives up: its attempts, those
before the last all told to slow down, and each followed by its wait. -/
structure Tries (r : Http.Request) (wait left : Nat) (past : List Attempt) (last : Attempt)
    (as : List Act) (x : Except Failure Http.Response) : Prop where
  sent : ∀ t ∈ past ++ [last], Sent r t.acts t.outcome
  acts : as = waited wait past ++ last.acts
  slowed : ∀ t ∈ past, t.IsSlowed
  length : past.length ≤ left
  /-- The last attempt is told to slow down only if no other is left. -/
  spent : last.IsSlowed → past.length = left
  result : x = verdict last.outcome

namespace Tries

variable {r : Http.Request} {wait left : Nat} {past : List Attempt} {last : Attempt} {as : List Act}
  {x : Except Failure Http.Response}

/-- An attempt that is not told to slow down decides. -/
theorem settled (hsent : Sent r as x) (hx : ∀ a, x = .ok a → a.status ≠ 429) :
    Tries r wait left [] ⟨as, x⟩ as (verdict x) where
  sent := by simpa using hsent
  acts := rfl
  slowed := by simp
  length := Nat.zero_le _
  spent := fun ⟨a, ha, hslow⟩ => absurd hslow (hx a ha)
  result := rfl

/-- So does one that is, if no other is left. -/
theorem given_up {a : Http.Response} (hsent : Sent r as (.ok a)) :
    Tries r wait 0 [] ⟨as, .ok a⟩ as (verdict (.ok a)) where
  sent := by simpa using hsent
  acts := rfl
  slowed := by simp
  length := Nat.le_refl _
  spent := fun _ => rfl
  result := rfl

/-- Else it comes before those that follow its wait. -/
theorem again {a : Http.Response} {bs : List Act} (hsent : Sent r as (.ok a)) (hslow : a.status = 429)
    (h : Tries r (2 * wait) left past last bs x) :
    Tries r wait (left + 1) (⟨as, .ok a⟩ :: past) last (as ++ .pause wait :: bs) x where
  sent := List.forall_mem_cons.mpr ⟨hsent, h.sent⟩
  acts := by rw [h.acts, waited_cons, List.append_assoc, List.cons_append]
  slowed := List.forall_mem_cons.mpr ⟨⟨a, rfl, hslow⟩, h.slowed⟩
  length := Nat.succ_le_succ h.length
  spent := fun hlast => congrArg _ (h.spent hlast)
  result := h.result

end Tries

/-- No other status has that error. -/
theorem ofStatus_eq_rateLimited {status : Nat} {text : String}
    (h : ApiError.ofStatus status text = .rateLimited) : status = 429 := by
  by_contra hne
  simp only [ApiError.ofStatus, hne, if_false] at h
  repeat' split at h
  all_goals cases h

theorem verdict_of_slowed {a : Http.Response} (h : a.status = 429) :
    verdict (.ok a) = .error (.api .rateLimited) := by
  simp [verdict, Http.isSuccess, ApiError.ofStatus, h]

theorem judge_of_slowed {a : Http.Response} (h : a.status = 429)
    (slow : Conversation (Except Failure Http.Response)) : judge a slow = slow := by
  simp [judge, Http.isSuccess, h]

theorem judge_of_settled {a : Http.Response} (h : a.status ≠ 429)
    (slow : Conversation (Except Failure Http.Response)) : judge a slow = .done (verdict (.ok a)) := by
  simp only [judge, verdict, h, if_false]
  split <;> rfl

/-- What a call does that has ended: an attempt that decides, or one that is told to slow down and then what
is done about it. -/
theorem first_of_leads {r : Http.Request} {slow : Conversation (Except Failure Http.Response)}
    {as : List Act} {x : Except Failure Http.Response}
    (h : Speaker.Leads (.speaking ((send r).andThen fun a => judge a slow)) as (.speaking (.done x)))
    (hfaithful : Act.Faithful as) :
    (∃ y, Sent r as y ∧ (∀ a, y = .ok a → a.status ≠ 429) ∧ x = verdict y) ∨
      ∃ front a back, as = front ++ back ∧ Sent r front (.ok a) ∧ a.status = 429 ∧
        Speaker.Leads (.speaking slow) back (.speaking (.done x)) := by
  obtain ⟨front, y, back, rfl, hsend, hrest⟩ := Speaker.leads_bind h
  have hsent : Sent r front y := .of_leads hsend (hfaithful.of_infix ⟨[], back, rfl⟩)
  cases y with
  | error e =>
    cases hrest
    rw [List.append_nil]
    exact .inl ⟨_, hsent, nofun, rfl⟩
  | ok a =>
    by_cases hslow : a.status = 429
    · simp only [judge_of_slowed hslow] at hrest
      exact .inr ⟨front, a, back, rfl, hsent, hslow, hrest⟩
    · simp only [judge_of_settled hslow] at hrest
      cases hrest
      rw [List.append_nil]
      exact .inl ⟨_, hsent, by rintro b ⟨⟩; exact hslow, rfl⟩

/-- Whatever comes of its acts, a call that has ended has made its attempts. -/
theorem tries_of_leads {r : Http.Request} {wait left : Nat} {as : List Act}
    {x : Except Failure Http.Response}
    (h : Speaker.Leads (.speaking (attempt r wait left)) as (.speaking (.done x)))
    (hfaithful : Act.Faithful as) : ∃ past last, Tries r wait left past last as x := by
  induction left generalizing wait as with
  | zero =>
    rcases first_of_leads h hfaithful with
      ⟨y, hsent, hy, rfl⟩ | ⟨front, a, back, rfl, hsent, hslow, hrest⟩
    · exact ⟨_, _, .settled hsent hy⟩
    · cases hrest
      rw [List.append_nil, ← verdict_of_slowed hslow]
      exact ⟨_, _, .given_up hsent⟩
  | succ left ih =>
    rcases first_of_leads h hfaithful with
      ⟨y, hsent, hy, rfl⟩ | ⟨front, a, back, rfl, hsent, hslow, hrest⟩
    · exact ⟨_, _, .settled hsent hy⟩
    · cases hrest with
      | pause hrest =>
        obtain ⟨past, last, htries⟩ :=
          ih hrest (hfaithful.of_infix ⟨front ++ [.pause wait], [], by simp⟩)
        exact ⟨_, last, .again hsent hslow htries⟩

namespace Tries

variable {r : Http.Request} {wait left : Nat} {past : List Attempt} {last : Attempt} {as : List Act}
  {x : Except Failure Http.Response}

/-- Only a call whose attempts were all told to slow down ends with that. -/
theorem limited_iff (h : Tries r wait left past last as x) :
    x = .error (.api .rateLimited) ↔ past.length = left ∧ last.IsSlowed := by
  constructor
  · intro hx
    have hlast : last.IsSlowed := by
      have hverdict := h.result.symm.trans hx
      cases houtcome : last.outcome with
      | error e =>
        have hsent := h.sent last (List.mem_append_right _ List.mem_cons_self)
        rw [houtcome] at hverdict hsent
        exact absurd hverdict hsent.ne_rateLimited
      | ok a =>
        rw [houtcome] at hverdict
        simp only [verdict] at hverdict
        split at hverdict
        · cases hverdict
        · exact ⟨a, houtcome, ofStatus_eq_rateLimited (Failure.api.inj (Except.error.inj hverdict))⟩
    exact ⟨h.spent hlast, hlast⟩
  · rintro ⟨-, a, ha, hslow⟩
    rw [h.result, ha, verdict_of_slowed hslow]

theorem countP_waited_le {p : Act → Bool} {n : Nat} (hpause : ∀ ms, p (.pause ms) = false)
    (hone : ∀ t ∈ past, t.acts.countP p ≤ n) : (waited wait past).countP p ≤ n * past.length := by
  induction past generalizing wait with
  | nil => exact Nat.zero_le _
  | cons t past ih =>
    obtain ⟨hfirst, hrest⟩ := List.forall_mem_cons.mp hone
    rw [waited_cons, List.countP_append, List.countP_cons_of_neg (by simp [hpause]), List.length_cons,
      Nat.mul_succ, Nat.add_comm]
    exact Nat.add_le_add (ih hrest) hfirst

/-- What no attempt does more than so often. -/
theorem countP_le {p : Act → Bool} {n : Nat} (h : Tries r wait left past last as x)
    (hpause : ∀ ms, p (.pause ms) = false)
    (hone : ∀ bs y, Sent r bs y → bs.countP p ≤ n) : as.countP p ≤ n * (left + 1) := by
  have hpast : (waited wait past).countP p ≤ n * past.length :=
    countP_waited_le hpause fun t ht => hone _ _ (h.sent t (List.mem_append_left _ ht))
  have hlast : last.acts.countP p ≤ n :=
    hone _ _ (h.sent last (List.mem_append_right _ List.mem_cons_self))
  rw [h.acts, List.countP_append, Nat.mul_succ]
  exact Nat.add_le_add (Nat.le_trans hpast (Nat.mul_le_mul_left n h.length)) hlast

/-- What is done but wait is done in an attempt. -/
theorem exists_attempt (h : Tries r wait left past last as x) {a : Act} (ha : a ∈ as)
    (hpause : ∀ ms, a ≠ .pause ms) : ∃ t ∈ past ++ [last], a ∈ t.acts := by
  rw [h.acts, List.mem_append] at ha
  rcases ha with ha | ha
  · obtain ⟨⟨t, k⟩, ht, hin⟩ := List.mem_flatMap.mp ha
    rcases List.mem_append.mp hin with hin | hin
    · exact ⟨t, List.mem_append_left _ (List.fst_mem_of_mem_zipIdx ht), hin⟩
    · exact absurd (List.mem_singleton.mp hin) (hpause _)
  · exact ⟨last, List.mem_append_right _ List.mem_cons_self, ha⟩

theorem sameRequest (h : Tries r wait left past last as x) :
    ∀ q o, .exchange q o ∈ as → SameRequest q r := by
  intro q o hin
  obtain ⟨t, ht, hin⟩ := h.exists_attempt hin nofun
  exact (h.sent t ht).sameRequest q o hin

/-- An answer that a call ends with is a success, and that of an exchange of its request. -/
theorem exists_exchange {a : Http.Response} (h : Tries r wait left past last as (.ok a)) :
    Http.isSuccess a.status = true ∧ ∃ q, .exchange q (.ok a) ∈ as := by
  have hsent := h.sent last (List.mem_append_right _ List.mem_cons_self)
  have hverdict := h.result
  cases houtcome : last.outcome with
  | error e =>
    rw [houtcome] at hverdict
    cases hverdict
  | ok b =>
    rw [houtcome] at hverdict hsent
    simp only [verdict] at hverdict
    split at hverdict
    case isFalse => cases hverdict
    case isTrue hsuccess =>
      cases hverdict
      obtain ⟨q, hq⟩ := hsent.exists_exchange
      exact ⟨hsuccess, q, by rw [h.acts]; exact List.mem_append_right _ hq⟩

end Tries

/-- A call makes up to four attempts, with waits of 1, 2 and 4 seconds after those that were told to slow down, and
its outcome is that of the last; alone it does end. -/
theorem attempts_back_off {β σ : Type} [Backend β] [KeyValue σ] (st : Store σ) (es : List Event)
    (c : Crowd (Except Failure Http.Response) β σ) (i : Nat) (r : Http.Request)
    (hworld : c.session.world = (World.new st).run es)
    (hcall : c.speakers[i]? = some (.speaking (request r))) (ts : List Turn) :
    let acts := c.acts i ts
    let alone := (request r).script c.session
    let held := (request r).hold c.session
    (∃ more past last x, Tries r 1000 3 past last (acts ++ more) x) ∧
    (∀ x, (c.run ts).speakers[i]? = some (.speaking (.done x)) → ∃ past last,
      Tries r 1000 3 past last acts x ∧
        (x = .error (.api .rateLimited) ↔ past.length = 3 ∧ last.IsSlowed)) ∧
    acts.countP Act.isExchange ≤ 8 ∧ c.renewalsBy i ts ≤ 4 ∧
    (∀ q o, .exchange q o ∈ acts → SameRequest q r) ∧
    (∃ past last, Tries r 1000 3 past last alone held.1 ∧
      (held.1 = .error (.api .rateLimited) ↔ past.length = 3 ∧ last.IsSlowed)) ∧
    held.2.world.renewals ≤ c.session.world.renewals + 4 := by
  intro acts alone held
  obtain ⟨y, hy, hleads⟩ := Crowd.leads_run ts hcall
  obtain ⟨fs, -, hattested⟩ := Crowd.attested_run ts i hworld
  obtain ⟨more, x, hend, hnone⟩ := y.exists_end
  obtain ⟨past, last, htries⟩ : ∃ past last, Tries r 1000 3 past last (acts ++ more) x :=
    tries_of_leads (hleads.trans hend) (hattested.faithful.append hnone)
  have hsub : acts.Sublist (acts ++ more) := List.sublist_append_left _ _
  have hasks : (acts ++ more).countP Act.isAsk ≤ 4 :=
    htries.countP_le (fun _ => rfl) fun _ _ hsent => hsent.asks_le
  obtain ⟨gs, halone⟩ := (request r).attested_script c.session es hworld
  obtain ⟨before, final, hheld⟩ : ∃ past last, Tries r 1000 3 past last alone held.1 :=
    tries_of_leads ((request r).leads_hold c.session) halone.faithful
  refine ⟨⟨more, past, last, x, htries⟩, ?_, ?_, ?_, ?_, ⟨before, final, hheld, hheld.limited_iff⟩, ?_⟩
  · intro x hx
    cases hy.symm.trans hx
    obtain ⟨past, last, hended⟩ : ∃ past last, Tries r 1000 3 past last acts x :=
      tries_of_leads hleads hattested.faithful
    exact ⟨past, last, hended, hended.limited_iff⟩
  · have hexchanges : (acts ++ more).countP Act.isExchange ≤ 8 :=
      htries.countP_le (fun _ => rfl) fun _ _ hsent => hsent.exchanges_le
    exact Nat.le_trans hsub.countP_le hexchanges
  · exact Nat.le_trans (c.renewalsBy_le i ts) (Nat.le_trans hsub.countP_le hasks)
  · exact fun q o hin => htries.sameRequest q o (hsub.subset hin)
  · have hscript : alone.countP Act.isAsk ≤ 4 :=
      hheld.countP_le (fun _ => rfl) fun _ _ hsent => hsent.asks_le
    exact Nat.le_trans ((request r).renewals_hold c.session) (Nat.add_le_add_left hscript _)

/-- A call that is told to slow down four times, the second time after its token has been renewed. -/
def slowedCall : Crowd (Except Failure Http.Response) Replay TextMap :=
  ⟨⟨World.new ⟨.empty, .ofPair ⟨"A1", "R1"⟩⟩,
    .ofList [.ok ⟨429, none⟩, .ok ⟨401, none⟩,
      .ok ⟨200, some "\x7b\"accessToken\":\"A2\",\"refreshToken\":\"R2\"\x7d".toUTF8⟩,
      .ok ⟨429, none⟩, .ok ⟨429, none⟩, .ok ⟨429, none⟩],
    ⟨"http", none, .segments ["auth", "refresh"], none, none⟩, []⟩, [.speaking (request bandsRequest)]⟩

/-- It is told to slow down, waits, and is turned away; its renewal takes its steps; and it goes on. -/
def slowedTurns : List Turn :=
  List.replicate 8 (.speaker 0) ++ .task 1 :: .renewer :: List.replicate 6 (.task 1) ++
    List.replicate 11 (.speaker 0)

theorem slowed_call_gives_up :
    let ended : Except Failure Http.Response := .error (.api .rateLimited)
    slowedCall.session.world = (World.new ⟨.empty, .ofPair ⟨"A1", "R1"⟩⟩).run [] ∧
      slowedCall.speakers[0]? = some (.speaking (request bandsRequest)) ∧
      (slowedCall.run slowedTurns).speakers[0]? = some (.speaking (.done ended)) ∧
      (∃ past last, Tries bandsRequest 1000 3 past last (slowedCall.acts 0 slowedTurns) ended ∧
        past.length = 3 ∧ last.IsSlowed) ∧
      (slowedCall.acts 0 slowedTurns).filterMap (fun
        | .pause ms => some ms
        | _ => none) = [1000, 2000, 4000] ∧
      slowedCall.renewalsBy 0 slowedTurns = 1 ∧ slowedCall.renewalsBy 0 slowedTurns ≤ 4 := by
  intro ended
  have hended : (slowedCall.run slowedTurns).speakers[0]? = some (.speaking (.done ended)) := by
    rfl
  obtain ⟨-, htries, -, hrenewals, -⟩ :=
    attempts_back_off ⟨.empty, .ofPair ⟨"A1", "R1"⟩⟩ [] slowedCall 0 bandsRequest rfl rfl slowedTurns
  obtain ⟨past, last, h, hlimited⟩ := htries ended hended
  exact ⟨rfl, rfl, hended, ⟨past, last, h, hlimited.mp rfl⟩, by rfl, by rfl, hrenewals⟩

end Client

end BandCatalog
