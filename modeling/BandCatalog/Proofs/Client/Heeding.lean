import BandCatalog.Proofs.Client.Aftermath

/-!
# Successes are heeded

A call that is made alone comes to its end with the first success that it gets, and what it ends with is what that
success holds. Whatever else the backend answers, and whatever is renewed on the way, makes no difference.
-/
namespace BandCatalog

open Renewal

/-- The answer of an exchange that is a success, where a value was asked for. A refresh token is exchanged by POST,
so no renewal counts. -/
def LogEntry.success? : LogEntry → Option Http.Response
  | exchange r _ (.ok a) => if r.method = "GET" ∧ Http.isSuccess a.status = true then some a else none
  | _ => none

theorem LogEntry.success?_eq_some {r : Http.Request} {held : Option String} {o : Http.Outcome}
    {a : Http.Response} (h : success? (.exchange r held o) = some a) :
    r.method = "GET" ∧ o = .ok a ∧ Http.isSuccess a.status = true := by
  cases o with
  | error x => cases h
  | ok b =>
    obtain ⟨⟨hmethod, hb⟩, rfl⟩ : (r.method = "GET" ∧ Http.isSuccess b.status = true) ∧ b = a := by
      simpa [success?] using h
    exact ⟨hmethod, rfl, hb⟩

theorem LogEntry.isSuccess_of_success? {e : LogEntry} {a : Http.Response} (h : e.success? = some a) :
    Http.isSuccess a.status = true := by
  cases e with
  | exchange r held o => exact (success?_eq_some h).2.2
  | pause ms => cases h

namespace Session

variable {β σ : Type} {P Q : LogEntry → Prop} {s u v : Session β σ}

/-- Some entries were added to the log of a session, and each has a property. -/
def Adds (P : LogEntry → Prop) (s u : Session β σ) : Prop := ∃ es, u.log = es ++ s.log ∧ ∀ e ∈ es, P e

theorem Adds.refl (h : u.log = s.log) : Adds P s u := ⟨[], h, fun _ hin => absurd hin List.not_mem_nil⟩

theorem Adds.one {e : LogEntry} (h : u.log = e :: s.log) (he : P e) : Adds P s u :=
  ⟨[e], h, fun _ hin => List.mem_singleton.mp hin ▸ he⟩

theorem Adds.trans (h : Adds P s u) (k : Adds P u v) : Adds P s v := by
  obtain ⟨es, hes, hall⟩ := h
  obtain ⟨fs, hfs, hrest⟩ := k
  refine ⟨fs ++ es, by rw [hfs, hes, List.append_assoc], fun e he => ?_⟩
  rcases List.mem_append.mp he with he | he
  · exact hrest e he
  · exact hall e he

theorem Adds.mono (h : Adds P s u) (hPQ : ∀ e, P e → Q e) : Adds Q s u := by
  obtain ⟨es, hes, hall⟩ := h
  exact ⟨es, hes, fun e he => hPQ e (hall e he)⟩

variable [Backend β]

/-- A request adds its own exchange if it can be sent. -/
theorem adds_send (s : Session β σ) (r : Http.Request) :
    Adds (fun e => ∃ held, e = .exchange r held (s.send r).1) s (s.send r).2 := by
  cases hsendable : r.isSendable with
  | false =>
    have hsend : s.send r = (.error .scheme, s) := by
      rw [send, hsendable]
      rfl
    rw [hsend]
    exact .refl rfl
  | true =>
    rw [s.send_eq hsendable]
    exact .one rfl ⟨_, rfl⟩

theorem adds_renew (s : Session β σ) (token : String) :
    Adds (fun e => e.success? = none) s (s.renew token).2 := by
  refine (s.adds_send (exchangeRequest s.refreshUrl token)).mono ?_
  rintro e ⟨held, rfl⟩
  have hmethod : (exchangeRequest s.refreshUrl token).method ≠ "GET" := by
    rw [exchangeRequest, (Http.Request.build_parts _ _ _).1]
    decide
  refine Option.eq_none_iff_forall_ne_some.mpr fun a ha => ?_
  exact hmethod (LogEntry.success?_eq_some ha).1

/-- A request that comes back unauthorized adds a renewal at most. -/
theorem adds_recover [KeyValue σ] (s : Session β σ) (p : Pending) :
    Adds (fun e => e.success? = none) s (s.recover p).2 := by
  simp only [recover, answerRenewal]
  split
  · exact .refl rfl
  · exact adds_renew _ _

end Session

namespace Conversation

open Session

variable {α γ : Type} {f : Http.Response → α}

/-- Whenever it is held, every success that a conversation gets says what it ends with. -/
structure Heeds (f : Http.Response → α) (c : Conversation α) : Prop where
  adds : ∀ {β σ : Type} [Backend β] [KeyValue σ] (s : Session β σ),
    Adds (fun e => ∀ a, e.success? = some a → (c.hold s).1 = f a) s (c.hold s).2

namespace Heeds

theorem done (x : α) : Heeds f (done x) := ⟨fun _ => .refl rfl⟩

theorem access {next : Option String → Conversation α} (h : ∀ t, Heeds f (next t)) :
    Heeds f (access next) := ⟨fun s => (h s.memory.access).adds s⟩

theorem pause {next : Conversation α} (h : Heeds f next) (ms : Nat) : Heeds f (pause ms next) where
  adds s := by
    have hpaused : Adds (fun e => ∀ a, e.success? = some a → ((Conversation.pause ms next).hold s).1 = f a) s
        { s with log := .pause ms :: s.log } := .one rfl fun a ha => by cases ha
    exact hpaused.trans (h.adds _)

theorem recover {p : Pending} {next : Resumption → Conversation α} (h : ∀ r, Heeds f (next r)) :
    Heeds f (recover p next) where
  adds s := by
    have hrenewed : Adds (fun e => ∀ a, e.success? = some a → ((Conversation.recover p next).hold s).1 = f a)
        s (s.recover p).2 := by
      refine (s.adds_recover p).mono fun e he a ha => ?_
      cases he.symm.trans ha
    exact hrenewed.trans ((h _).adds (s.recover p).2)

/-- One exchange, after which a success ends the conversation. -/
theorem exchange {r : Http.Request} {next : Http.Outcome → Conversation α} (h : ∀ o, Heeds f (next o))
    (hsuccess : ∀ a, Http.isSuccess a.status = true → next (.ok a) = .done (f a)) :
    Heeds f (exchange r next) where
  adds s := by
    have hsent : Adds (fun e => ∀ a, e.success? = some a → ((Conversation.exchange r next).hold s).1 = f a)
        s (s.send r).2 := by
      refine (s.adds_send r).mono ?_
      rintro e ⟨held, rfl⟩ a ha
      obtain ⟨-, ho, hstatus⟩ := LogEntry.success?_eq_some ha
      rw [hold_exchange, ho, hsuccess a hstatus]
      rfl
    exact hsent.trans ((h _).adds (s.send r).2)

/-- What follows the answer of a conversation, and passes a success on. -/
theorem andThen {f : Http.Response → Except Failure α} {c : Conversation (Except Failure Http.Response)}
    {g : Http.Response → Conversation (Except Failure α)} (hc : Heeds .ok c) (hg : ∀ a, Heeds f (g a))
    (hsuccess : ∀ a, Http.isSuccess a.status = true → g a = .done (f a)) : Heeds f (c.andThen g) where
  adds s := by
    obtain ⟨x, u, hx⟩ : ∃ x u, c.hold s = (x, u) := ⟨_, _, rfl⟩
    have hfirst := hc.adds s
    rw [hx] at hfirst
    cases x with
    | error x =>
      rw [hold_andThen_error hx]
      refine hfirst.mono fun e he a ha => ?_
      cases he a ha
    | ok b =>
      rw [hold_andThen_ok hx]
      refine Adds.trans (hfirst.mono fun e he a ha => ?_) ((hg b).adds u)
      obtain rfl : b = a := Except.ok.inj (he a ha)
      rw [hsuccess b (LogEntry.isSuccess_of_success? ha)]
      rfl

end Heeds

end Conversation

namespace Client

open Conversation

/-- No success is an answer that turns a request away. -/
theorem isUnauthorized_of_success {a : Http.Response} (h : Http.isSuccess a.status = true) :
    isUnauthorized a = false := by
  simp only [Http.isSuccess, Bool.and_eq_true, decide_eq_true_eq] at h
  simp only [isUnauthorized, beq_eq_false_iff_ne]
  omega

theorem heeds_execute (r : Http.Request) : Heeds .ok (execute r) := by
  refine .exchange (fun o => ?_) fun a _ => rfl
  cases o <;> exact .done _

theorem heeds_retry (r : Http.Request) : Heeds .ok (retry r) := by
  refine .andThen (heeds_execute r) (fun a => ?_) fun a h => ?_
  · split <;> exact .done _
  · rw [isUnauthorized_of_success h]
    rfl

theorem heeds_sendProtected (r : Http.Request) (token : Option String) :
    Heeds .ok (sendProtected r token) := by
  unfold sendProtected
  split
  · exact .done _
  next q _ =>
    refine .andThen (heeds_execute q) (fun a => ?_) fun a h => ?_
    · split
      · exact .done _
      · refine .recover fun result => ?_
        cases result with
        | ok again => exact heeds_retry again
        | error e => exact .done _
    · rw [isUnauthorized_of_success h]
      rfl

theorem heeds_send (r : Http.Request) : Heeds .ok (send r) := by
  unfold send
  split
  · exact heeds_execute _
  · exact .access (heeds_sendProtected r)

theorem heeds_judge {slow : Conversation (Except Failure Http.Response)} (h : Heeds .ok slow)
    (a : Http.Response) : Heeds .ok (judge a slow) := by
  unfold judge
  split
  · exact .done _
  · split
    · exact h
    · exact .done _

theorem heeds_attempt (r : Http.Request) (wait left : Nat) : Heeds .ok (attempt r wait left) := by
  have hsuccess : ∀ slow a, Http.isSuccess a.status = true → judge a slow = .done (.ok a) :=
    fun slow a h => if_pos h
  induction left generalizing wait with
  | zero => exact .andThen (heeds_send r) (heeds_judge (.done _)) (hsuccess _)
  | succ left ih => exact .andThen (heeds_send r) (heeds_judge (.pause (ih (2 * wait)) wait)) (hsuccess _)

/-- What a success is read as. -/
def fetched {α : Type} (decode : Json.Decode α) (url : Url) (a : Http.Response) : Except Failure α :=
  match a.json?.bind decode with
  | some value => .ok value
  | none => .error (.undecodable url)

theorem heeds_fetch {α : Type} (decode : Json.Decode α) (r : Http.Request) :
    Heeds (fetched decode r.url) (fetch decode r) := by
  refine .andThen (heeds_attempt r firstWait retryLimit) (fun a => ?_) fun a _ => ?_
  · split <;> exact .done _
  · unfold fetched
    cases a.json?.bind decode <;> rfl

/-- A listing that gets a success ends with the page that it holds. -/
theorem heeds_bands (c : Client) (f : Filter) (p : PageRequest) :
    ∃ url, Heeds (fetched (Page.decode Band.decode) url) (c.bands f p) := by
  unfold bands whenBuilt
  split
  · exact ⟨_, heeds_fetch _ _⟩
  · exact ⟨c.base, .done _⟩

end Client

end BandCatalog
