import BandCatalog.Proofs.Client.Exchanging

/-!
# What waiters are told of an exchange

Conversations on one session, in any order of their steps. What they do to the coordinator is written down as
events, the answers of the renewer among them, and each of those is the result of one exchange. So whoever waits for
a renewal is told of the outcome of its exchange: a network that was not there stays apart from every other failure.
-/
namespace BandCatalog

open Renewal

/-- What a waiter is told of the result of an exchange. Of a failure that is not the network's it is told the text. -/
structure Renewal.Reports (result : Except RenewalError Pair) (r : Http.Request) (told : Resumption) :
    Prop where
  unavailable : ∀ text, told = .error (.sessionExpired (.networkUnavailable text)) ↔
    result = .error (.networkUnavailable text)
  rejected : ∀ text, told = .error (.sessionExpired (.renewalRejected text)) ↔
    ∃ e, result = .error e ∧ (∀ why, e ≠ .networkUnavailable why) ∧ text = e.message
  renewed : ∀ p, result = .ok p → told = authorize r p.access

theorem authorize_ne_expired (r : Http.Request) (token : String) (cause : TerminalCause) :
    authorize r token ≠ .error (.sessionExpired cause) := by
  unfold authorize
  split <;> simp

theorem TerminalCause.ofError_of_ne {e : RenewalError} (h : ∀ why, e ≠ .networkUnavailable why) :
    ofError e = .renewalRejected e.message := by
  cases e with
  | networkUnavailable why => exact absurd rfl (h why)
  | _ => rfl

theorem Renewal.reports_resume (result : Except RenewalError Pair) (r : Http.Request) :
    Reports result r ((Answer.ofExchange result).resume r) := by
  cases result with
  | ok p =>
    have hne := authorize_ne_expired r p.access
    exact ⟨by simp [Answer.ofExchange, Answer.resume, hne], by simp [Answer.ofExchange, Answer.resume, hne],
      fun q hq => by rw [← Except.ok.inj hq]; rfl⟩
  | error e =>
    show Reports (.error e) r (.error (.sessionExpired (.ofError e)))
    by_cases hnetwork : ∃ why, e = .networkUnavailable why
    · obtain ⟨why, rfl⟩ := hnetwork
      exact ⟨by simp [TerminalCause.ofError], by simp [TerminalCause.ofError], nofun⟩
    · have hother : ∀ why, e ≠ .networkUnavailable why := fun why h => hnetwork ⟨why, h⟩
      rw [TerminalCause.ofError_of_ne hother]
      exact ⟨by simp [hother], by simp [hother, eq_comm], nofun⟩

/-- Who joined a renewal is told its answer. -/
theorem Renewal.World.Cycles.told_eq {σ : Type} {w : World σ} {h : List Move} (hc : w.Cycles h)
    {id : Ticket} {a : Answer} (ha : (id, a) ∈ h.filterMap Move.answer?) {x : Waiter}
    (hx : x ∈ cycle h id) {told : Resumption} (htold : w.resultOf? x.ticket = some told) :
    told = a.resume x.request := by
  have hin : (x.ticket, told) ∈ w.resultsTo (cycle h id) := by
    refine List.mem_filter.mpr ⟨World.mem_results_of_resultOf? htold, decide_eq_true ?_⟩
    exact List.mem_map_of_mem hx
  rw [hc.resultsTo_eq ha] at hin
  obtain ⟨y, hy, heq⟩ := List.mem_map.mp hin
  obtain ⟨hticket, rfl⟩ := Prod.mk.inj heq
  have hjoined : y ∈ cycle h id := by
    rw [hc.parts id]
    exact List.mem_append_left _ hy
  obtain ⟨b, hb⟩ := World.Cycles.exists_admitted hx
  obtain ⟨d, hd⟩ := World.Cycles.exists_admitted hjoined
  obtain ⟨rfl, -⟩ := hc.accounts.admitted_inj hd hb hticket
  rfl

/-- What an act is to the coordinator. -/
def Act.event? : Act → Option Event
  | .ask _ p => some (.arrive p)
  | .begin _ w => some (.begin w)
  | _ => none

/-- One exchange of a refresh token for a renewal. -/
structure RenewalExchange where
  renewal : Ticket
  token : String
  outcome : Http.Outcome

section events

variable {α β σ : Type} [Backend β]

/-- The exchange that a renewal awaits, if one does. -/
def Session.exchange? (s : Session β σ) : Option RenewalExchange :=
  s.world.asking?.map fun e => ⟨e.1, e.2, (s.send (exchangeRequest s.refreshUrl e.2)).1⟩

/-- The event of an exchange. -/
def RenewalExchange.event (e : RenewalExchange) (url : Url) : Event :=
  .answer e.renewal (.ofExchange (classify (exchangeRequest url e.token).url e.outcome))

namespace Crowd

variable [KeyValue σ]

/-- The exchange of a turn. -/
def exchange? (c : Crowd α β σ) : Turn → Option RenewalExchange
  | .renewer => c.session.exchange?
  | _ => none

/-- What a turn is to the coordinator. -/
def event? (c : Crowd α β σ) : Turn → Option Event
  | .speaker i => (c.act? i (.speaker i)).bind Act.event?
  | .task t => some (.advance t)
  | .renewer => c.session.exchange?.map (·.event c.session.refreshUrl)

/-- The exchanges of some turns, in order. -/
def exchanges (c : Crowd α β σ) : List Turn → List RenewalExchange
  | [] => []
  | t :: ts => (c.exchange? t).toList ++ (c.step t).exchanges ts

/-- The events of some turns. -/
def events (c : Crowd α β σ) : List Turn → List Event
  | [] => []
  | t :: ts => (c.event? t).toList ++ (c.step t).events ts

theorem world_of_speak {s u : Session β σ} {x y : Speaker α} (h : speak s x = some (y, u)) :
    u.world = s.world.run ((x.act? s).bind Act.event?).toList := by
  cases hact : (x.act? s).bind Act.event? with
  | none =>
    refine world_speak h fun a ha => ?_
    rw [ha, Option.bind_some] at hact
    cases a <;> first | rfl | cases hact
  | some e =>
    obtain ⟨a, ha, hevent⟩ := Option.bind_eq_some_iff.mp hact
    cases x with
    | speaking c =>
      cases c with
      | recover p next => cases ha; cases hevent; cases h; rfl
      | write w next => cases ha; cases hevent; cases h; rfl
      | done v => cases ha
      | _ => cases ha; cases hevent
    | listening o next => cases ha
    | waiting t next =>
      obtain ⟨result, -, rfl⟩ := Option.map_eq_some_iff.mp ha
      cases hevent
    | writing t next =>
      obtain ⟨result, -, rfl⟩ := Option.map_eq_some_iff.mp ha
      cases hevent

omit [KeyValue σ] in
theorem refreshUrl_send (s : Session β σ) (r : Http.Request) : (s.send r).2.refreshUrl = s.refreshUrl := by
  unfold Session.send
  split <;> rfl

theorem refreshUrl_speak {s u : Session β σ} {x y : Speaker α} (h : speak s x = some (y, u)) :
    u.refreshUrl = s.refreshUrl := by
  cases x with
  | speaking c =>
    cases c with
    | done a => cases h
    | exchange r next => cases h; exact refreshUrl_send s r
    | _ => cases h; rfl
  | listening o next => cases h; rfl
  | waiting t next =>
    obtain ⟨result, -, heq⟩ := Option.map_eq_some_iff.mp h
    cases heq
    rfl
  | writing t next =>
    obtain ⟨result, -, heq⟩ := Option.map_eq_some_iff.mp h
    cases heq
    rfl

/-- The renewer answers with the result of its exchange, and does nothing else to the coordinator. -/
theorem answerRenewal_world (s : Session β σ) :
    s.answerRenewal.world = s.world.run (s.exchange?.map (·.event s.refreshUrl)).toList ∧
      s.answerRenewal.refreshUrl = s.refreshUrl := by
  unfold Session.answerRenewal Session.exchange?
  cases s.world.asking? with
  | none => exact ⟨rfl, rfl⟩
  | some e =>
    refine ⟨?_, refreshUrl_send _ _⟩
    simp only [Session.renew, Session.world_send]
    rfl

/-- A turn does to the coordinator what its event does. -/
theorem step_world (c : Crowd α β σ) (t : Turn) :
    (c.step t).session.world = c.session.world.run (c.event? t).toList ∧
      (c.step t).session.refreshUrl = c.session.refreshUrl := by
  cases t with
  | task t => exact ⟨rfl, rfl⟩
  | renewer => exact answerRenewal_world c.session
  | speaker i =>
    simp only [event?, act?, if_true]
    cases hx : c.speakers[i]? with
    | none =>
      rw [step_of_absent hx]
      exact ⟨rfl, rfl⟩
    | some x =>
      cases hspeak : speak c.session x with
      | none =>
        rw [step_of_silent hx hspeak, Option.bind_some, act?_of_silent hspeak]
        exact ⟨rfl, rfl⟩
      | some next =>
        rw [step_of_speak hx hspeak, Option.bind_some]
        exact ⟨world_of_speak hspeak, refreshUrl_speak hspeak⟩

theorem run_world (c : Crowd α β σ) (ts : List Turn) :
    (c.run ts).session.world = c.session.world.run (c.events ts) := by
  induction ts generalizing c with
  | nil => rfl
  | cons t ts ih =>
    have hrun := ih (c.step t)
    rw [(c.step_world t).1, ← World.run_append] at hrun
    exact hrun

theorem answer?_taskMove (w : World σ) (id : Ticket) (t : Task) : (w.taskMove id t).answer? = none := by
  unfold World.taskMove
  split <;> rfl

/-- Who asks is a task, which is answered. -/
theorem answers_exchange {s : Session β σ} (hn : s.world.Numbered) :
    (s.world.moves (s.exchange?.map (·.event s.refreshUrl)).toList).filterMap Move.answer? =
      (s.exchange?.map fun e => (e.renewal,
        Answer.ofExchange (classify (exchangeRequest s.refreshUrl e.token).url e.outcome))).toList := by
  unfold Session.exchange?
  cases hasking : s.world.asking? with
  | none => rfl
  | some e =>
    obtain ⟨⟨id, task⟩, hin, hask⟩ := List.exists_of_findSome?_eq_some hasking
    have htask : s.world.task? e.1 = some (.ask e.2) := by
      cases task with
      | ask token =>
        cases hask
        exact hn.task?_eq_some hin
      | _ => cases hask
    simp only [Option.map_some, Option.toList_some, RenewalExchange.event, World.moves_cons, World.moves_nil,
      World.move, htask, World.filterMap_singleton, Move.answer?]

/-- The answers of a turn are the results of its exchange. -/
theorem answers_step {c : Crowd α β σ} (hn : c.session.world.Numbered) (t : Turn) :
    (c.session.world.moves (c.event? t).toList).filterMap Move.answer? =
      ((c.exchange? t).map fun e => (e.renewal, Answer.ofExchange
        (classify (exchangeRequest c.session.refreshUrl e.token).url e.outcome))).toList := by
  cases t with
  | renewer => exact answers_exchange hn
  | task t =>
    simp only [event?, exchange?, Option.toList_some, World.moves_cons, World.moves_nil, World.move,
      World.filterMap_singleton]
    cases c.session.world.task? t with
    | none => rfl
    | some task => simp only [answer?_taskMove]; rfl
  | speaker i =>
    simp only [event?, exchange?]
    cases hevent : (c.act? i (.speaker i)).bind Act.event? with
    | none => rfl
    | some e =>
      obtain ⟨a, -, ha⟩ := Option.bind_eq_some_iff.mp hevent
      cases a <;> cases ha <;> rfl

/-- Each answer that the coordinator gets is the result of one exchange, and the exchanges are answered in order. -/
theorem answers_run {c : Crowd α β σ} (hn : c.session.world.Numbered) (ts : List Turn) :
    (c.session.world.moves (c.events ts)).filterMap Move.answer? =
      (c.exchanges ts).map fun e => (e.renewal, Answer.ofExchange
        (classify (exchangeRequest c.session.refreshUrl e.token).url e.outcome)) := by
  induction ts generalizing c with
  | nil => rfl
  | cons t ts ih =>
    obtain ⟨hworld, hurl⟩ := c.step_world t
    have hnext := ih (c := c.step t) (by rw [hworld]; exact hn.run _)
    rw [hworld, hurl] at hnext
    rw [events, exchanges, World.moves_append, List.filterMap_append, answers_step hn, hnext, List.map_append]
    cases c.exchange? t <;> rfl

end Crowd

end events

/-- An exchange is one POST with nothing but the refresh token, its result says of which class its outcome is, and
whoever waits for a renewal is told of the outcome of its exchange. -/
theorem exchange_is_classified {α β σ : Type} [Backend β] [KeyValue σ] {base url : Url}
    (huser : base.hasUserInfo = false) (hurl : base.endpoint .refresh = .ok url) :
    (∀ (s : Session β σ) (token : String), s.refreshUrl = url →
      let r := exchangeRequest url token
      s.MakesOneExchange url token r (s.send r).1) ∧
    ∀ (c : Crowd α β σ) (st : Store σ) (ts : List Turn), c.session.refreshUrl = url →
      c.session.world = World.new st →
      let w := (c.run ts).session.world
      let h := (World.new st).moves (c.events ts)
      w = (World.new st).run (c.events ts) ∧
      h.filterMap Move.answer? =
        (c.exchanges ts).map (fun e => (e.renewal, .ofExchange (classify url e.outcome))) ∧
      ∀ e ∈ c.exchanges ts, Classifies e.outcome (classify url e.outcome) ∧
        ∀ x ∈ cycle h e.renewal, ∀ told, w.resultOf? x.ticket = some told →
          Reports (classify url e.outcome) x.request told := by
  have hbare : url.hasUserInfo = false := (Url.hasUserInfo_refresh hurl).trans huser
  constructor
  · intro s token hs
    subst hs
    exact s.makesOneExchange hbare token
  · intro c st ts hc hworld w h
    have hrun : w = (World.new st).run (c.events ts) := by
      rw [← hworld]
      exact c.run_world ts
    have hanswers : h.filterMap Move.answer? =
        (c.exchanges ts).map fun e => (e.renewal, .ofExchange (classify url e.outcome)) := by
      have hall := Crowd.answers_run (c := c) (by rw [hworld]; exact World.numbered_new st) ts
      simp only [hworld, hc, (exchanges_exchangeRequest hbare _).url] at hall
      exact hall
    refine ⟨hrun, hanswers, fun e he => ⟨classifies_classify url e.outcome, ?_⟩⟩
    intro x hx told htold
    have hcycles : w.Cycles h := hrun ▸ World.cycles_run st (c.events ts)
    have hanswer : (e.renewal, Answer.ofExchange (classify url e.outcome)) ∈ h.filterMap Move.answer? := by
      rw [hanswers]
      exact List.mem_map.mpr ⟨e, he, rfl⟩
    rw [hcycles.told_eq hanswer hx htold]
    exact reports_resume _ _

/-- A request that was turned away. -/
def turnedAway (name : String) : Http.Request :=
  ⟨"GET", ⟨"http", none, .segments [name], none, none⟩, [], .empty⟩

/-- Two of them come back, and the backend is too busy to renew. -/
def busyCrowd : Crowd Resumption Replay TextMap :=
  ⟨⟨World.new Client.signedIn, .ofList [.ok ⟨503, some "busy".toUTF8⟩], Client.apiRefresh, []⟩,
    [.speaking (.recover ⟨turnedAway "bands", some "A1"⟩ .done),
      .speaking (.recover ⟨turnedAway "users", some "A1"⟩ .done)]⟩

/-- Both are admitted, the renewer answers, the store is emptied, and both are told. -/
def busyTurns : List Turn :=
  [.speaker 0, .speaker 1, .task 1, .renewer] ++ List.replicate 6 (.task 1)

theorem exchange_is_classified_of_busy :
    let text := "Refresh token rejected (503): busy"
    let e : RenewalExchange := ⟨1, "R1", .ok ⟨503, some "busy".toUTF8⟩⟩
    Client.apiClient.base.hasUserInfo = false ∧
      Client.apiClient.base.endpoint .refresh = .ok Client.apiRefresh ∧
      (busyCrowd.session.renew "R1").1 = .error (.rejected 503 "busy") ∧
      busyCrowd.exchanges busyTurns = [e] ∧
      (busyCrowd.run busyTurns).session.world.resultOf? 2 =
        some (.error (.sessionExpired (.renewalRejected text))) ∧
      ∃ failure, classify Client.apiRefresh e.outcome = .error failure ∧ text = failure.message := by
  intro text e
  have huser : Client.apiClient.base.hasUserInfo = false := rfl
  have hurl : Client.apiClient.base.endpoint .refresh = .ok Client.apiRefresh := by rfl
  obtain ⟨hone, hmany⟩ :=
    exchange_is_classified (α := Resumption) (β := Replay) (σ := TextMap) huser hurl
  have hrejected : (busyCrowd.session.renew "R1").1 = .error (.rejected 503 "busy") :=
    ((hone busyCrowd.session "R1" rfl).result.rejected 503 "busy").mpr
      ⟨⟨503, some "busy".toUTF8⟩, by rfl, by simp [Http.Response.Succeeds], rfl, by rfl⟩
  have hexchanges : busyCrowd.exchanges busyTurns = [e] := by rfl
  have htold : (busyCrowd.run busyTurns).session.world.resultOf? 2 =
      some (.error (.sessionExpired (.renewalRejected text))) := by rfl
  have hcycle : cycle ((World.new Client.signedIn).moves (busyCrowd.events busyTurns)) 1 =
      [⟨0, turnedAway "bands"⟩, ⟨2, turnedAway "users"⟩] := by rfl
  obtain ⟨-, -, hreports⟩ := hmany busyCrowd Client.signedIn busyTurns rfl rfl
  obtain ⟨-, hall⟩ := hreports e (by rw [hexchanges]; exact List.mem_cons_self)
  have hsecond := hall ⟨2, turnedAway "users"⟩ (by rw [hcycle]; simp) _ htold
  obtain ⟨failure, hfailure, -, htext⟩ := (hsecond.rejected text).mp rfl
  exact ⟨huser, hurl, hrejected, hexchanges, htold, failure, hfailure, htext⟩

end BandCatalog
