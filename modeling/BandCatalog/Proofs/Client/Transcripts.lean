import BandCatalog.Client.Crowd
import BandCatalog.Proofs.Renewal.Resumption

/-!
# Transcripts

What a conversation does is written down act by act, each with what comes of it. `Speaker.Leads` says where
a conversation can come to, and by which acts, whatever comes of them. The acts of one that is held alone
are its script, those of one among others are read off the turns, and both lead from its beginning to where
it stands. What is handed to the coordinator and comes back from it is in the coordinator's history.
-/
namespace BandCatalog

open Renewal

/-- What a conversation does, with what comes of it. -/
inductive Act where
  | access (token : Option String)
  | refresh (token : Option String)
  | exchange (r : Http.Request) (o : Http.Outcome)
  /-- A request is handed to the coordinator. -/
  | ask (t : Ticket) (p : Pending)
  | told (t : Ticket) (result : Resumption)
  | pause (milliseconds : Nat)
  /-- A write of the store begins. -/
  | begin (t : Ticket) (w : Write)
  | wrote (t : Ticket) (result : Except StoreError Unit)

namespace Act

def isExchange : Act → Bool
  | exchange _ _ => true
  | _ => false

def isAsk : Act → Bool
  | ask _ _ => true
  | _ => false

/-- What is between a conversation and the coordinator. -/
def isRecovery : Act → Bool
  | ask _ _ => true
  | told _ _ => true
  | _ => false

/-- Acts that reach the coordinator. -/
def isEvent : Act → Bool
  | ask _ _ => true
  | begin _ _ => true
  | _ => false

/-- Every request that comes back from the coordinator is the one that it was handed just before, with a
token. -/
def Faithful (as : List Act) : Prop :=
  ∀ t p q, [.ask t p, .told t (.ok q)] <:+: as → ∃ access, authorize p.request access = .ok q

/-- It is as long as no other comes back. -/
theorem Faithful.append {as bs : List Act} (h : Faithful as) (hbs : ∀ t q, .told t (.ok q) ∉ bs) :
    Faithful (as ++ bs) := by
  rintro t p q ⟨l, r, heq⟩
  rcases List.append_eq_append_iff.mp heq with ⟨k, has, -⟩ | ⟨k, hk, rfl⟩
  · exact h t p q ⟨l, k, has.symm⟩
  · rcases List.eq_nil_or_concat k with rfl | ⟨k, a, rfl⟩
    · refine h t p q ⟨l, [], ?_⟩
      rw [List.append_nil, hk, List.append_nil]
    · -- then the request comes back after what came first
      have hlast : l ++ [.ask t p] ++ [.told t (.ok q)] = as ++ k ++ [a] := by
        simpa using hk
      have ha : .told t (.ok q) = a := List.singleton_inj.mp (List.append_inj' hlast rfl).2
      exact absurd (by simp [ha]) (hbs t q)

end Act

namespace Speaker

variable {α : Type}

/-- Where a conversation comes to by some acts. -/
inductive Leads : Speaker α → List Act → Speaker α → Prop where
  | refl (x : Speaker α) : Leads x [] x
  | access {next : Option String → Conversation α} {as : List Act} {z : Speaker α}
      (token : Option String) (h : Leads (.speaking (next token)) as z) :
      Leads (.speaking (.access next)) (.access token :: as) z
  | refresh {next : Option String → Conversation α} {as : List Act} {z : Speaker α}
      (token : Option String) (h : Leads (.speaking (next token)) as z) :
      Leads (.speaking (.refresh next)) (.refresh token :: as) z
  | exchange {r : Http.Request} {next : Http.Outcome → Conversation α} {as : List Act} {z : Speaker α}
      (o : Http.Outcome) (h : Leads (.listening o next) as z) :
      Leads (.speaking (.exchange r next)) (.exchange r o :: as) z
  | hear {o : Http.Outcome} {next : Http.Outcome → Conversation α} {as : List Act} {z : Speaker α}
      (h : Leads (.speaking (next o)) as z) : Leads (.listening o next) as z
  | ask {p : Pending} {next : Resumption → Conversation α} {as : List Act} {z : Speaker α}
      (t : Ticket) (h : Leads (.waiting t next) as z) :
      Leads (.speaking (.recover p next)) (.ask t p :: as) z
  | told {t : Ticket} {next : Resumption → Conversation α} {as : List Act} {z : Speaker α}
      (result : Resumption) (h : Leads (.speaking (next result)) as z) :
      Leads (.waiting t next) (.told t result :: as) z
  | pause {ms : Nat} {next : Conversation α} {as : List Act} {z : Speaker α}
      (h : Leads (.speaking next) as z) : Leads (.speaking (.pause ms next)) (.pause ms :: as) z
  | begin {w : Write} {next : Except StoreError Unit → Conversation α} {as : List Act} {z : Speaker α}
      (t : Ticket) (h : Leads (.writing t next) as z) :
      Leads (.speaking (.write w next)) (.begin t w :: as) z
  | wrote {t : Ticket} {next : Except StoreError Unit → Conversation α} {as : List Act} {z : Speaker α}
      (result : Except StoreError Unit) (h : Leads (.speaking (next result)) as z) :
      Leads (.writing t next) (.wrote t result :: as) z

theorem Leads.trans {x y z : Speaker α} {as bs : List Act} (h : Leads x as y) (k : Leads y bs z) :
    Leads x (as ++ bs) z := by
  induction h with
  | refl x => exact k
  | access token _ ih => exact .access token (ih k)
  | refresh token _ ih => exact .refresh token (ih k)
  | exchange o _ ih => exact .exchange o (ih k)
  | hear _ ih => exact .hear (ih k)
  | ask t _ ih => exact .ask t (ih k)
  | told result _ ih => exact .told result (ih k)
  | pause _ ih => exact .pause (ih k)
  | begin t _ ih => exact .begin t (ih k)
  | wrote result _ ih => exact .wrote result (ih k)

/-- Every conversation can end, and without a request that the coordinator hands back. -/
theorem exists_end_speaking (c : Conversation α) :
    ∃ as a, Leads (.speaking c) as (.speaking (.done a)) ∧ ∀ t q, .told t (.ok q) ∉ as := by
  induction c with
  | done a => exact ⟨[], a, .refl _, by simp⟩
  | access next ih =>
    obtain ⟨as, a, h, hnone⟩ := ih none
    exact ⟨_, a, .access none h, by simpa using hnone⟩
  | refresh next ih =>
    obtain ⟨as, a, h, hnone⟩ := ih none
    exact ⟨_, a, .refresh none h, by simpa using hnone⟩
  | exchange r next ih =>
    obtain ⟨as, a, h, hnone⟩ := ih (.error .closed)
    exact ⟨_, a, .exchange _ (.hear h), by simpa using hnone⟩
  | recover p next ih =>
    obtain ⟨as, a, h, hnone⟩ := ih (.error .malformedToken)
    exact ⟨_, a, .ask 0 (.told _ h), by simpa using hnone⟩
  | pause ms next ih =>
    obtain ⟨as, a, h, hnone⟩ := ih
    exact ⟨_, a, .pause h, by simpa using hnone⟩
  | write w next ih =>
    obtain ⟨as, a, h, hnone⟩ := ih (.ok ())
    exact ⟨_, a, .begin 0 (.wrote _ h), by simpa using hnone⟩

theorem exists_end (x : Speaker α) :
    ∃ as a, Leads x as (.speaking (.done a)) ∧ ∀ t q, .told t (.ok q) ∉ as := by
  cases x with
  | speaking c => exact exists_end_speaking c
  | listening o next =>
    obtain ⟨as, a, h, hnone⟩ := exists_end_speaking (next o)
    exact ⟨as, a, .hear h, hnone⟩
  | waiting t next =>
    obtain ⟨as, a, h, hnone⟩ := exists_end_speaking (next (.error .malformedToken))
    exact ⟨_, a, .told _ h, by simpa using hnone⟩
  | writing t next =>
    obtain ⟨as, a, h, hnone⟩ := exists_end_speaking (next (.ok ()))
    exact ⟨_, a, .wrote _ h, by simpa using hnone⟩

end Speaker

section attested

variable {σ : Type} [KeyValue σ]

/-- What a transcript says of the coordinator is borne out by its history. -/
structure Attested (s : Store σ) (es : List Event) (as : List Act) : Prop where
  asked : ∀ t p, .ask t p ∈ as → ∃ a, .admitted ⟨t, p.request⟩ a ∈ (World.new s).moves es
  told : ∀ t q, .told t (.ok q) ∈ as → (t, .ok q) ∈ ((World.new s).run es).results

namespace Attested

variable {s : Store σ} {es : List Event} {as bs : List Act}

theorem nil (s : Store σ) (es : List Event) : Attested s es [] := ⟨by simp, by simp⟩

theorem append (h : Attested s es as) (k : Attested s es bs) : Attested s es (as ++ bs) where
  asked := by
    intro t p hin
    rcases List.mem_append.mp hin with hin | hin
    · exact h.asked t p hin
    · exact k.asked t p hin
  told := by
    intro t q hin
    rcases List.mem_append.mp hin with hin | hin
    · exact h.told t q hin
    · exact k.told t q hin

/-- It stays so. -/
theorem later (h : Attested s es as) (fs : List Event) : Attested s (es ++ fs) as where
  asked := by
    intro t p hin
    obtain ⟨a, ha⟩ := h.asked t p hin
    rw [World.moves_append]
    exact ⟨a, List.mem_append_left _ ha⟩
  told := by
    intro t q hin
    have hbefore := h.told t q hin
    rw [(World.accounts_run s es).results] at hbefore
    rw [(World.accounts_run s (es ++ fs)).results, World.moves_append, List.filterMap_append]
    exact List.mem_append_left _ hbefore

/-- A request that comes back from the coordinator is the one that it was handed, with a token. -/
theorem authorized (h : Attested s es as) {t : Ticket} {p : Pending} {q : Http.Request}
    (ha : .ask t p ∈ as) (ht : .told t (.ok q) ∈ as) :
    ∃ access, authorize p.request access = .ok q := by
  obtain ⟨a, hadmitted⟩ := h.asked t p ha
  rcases (World.cycles_run s es).result_of_admitted hadmitted (h.told t q ht) with
    ⟨access, hq⟩ | ⟨cause, hq⟩
  · exact ⟨access, hq.symm⟩
  · cases hq

theorem faithful (h : Attested s es as) : Act.Faithful as := by
  intro t p q hin
  have hask : .ask t p ∈ as := hin.subset List.mem_cons_self
  have htold : .told t (.ok q) ∈ as := hin.subset (List.mem_cons_of_mem _ List.mem_cons_self)
  exact h.authorized hask htold

/-- A request that comes back unauthorized. -/
theorem ask (s : Store σ) (es : List Event) (p : Pending) (fs : List Event) :
    Attested s (es ++ .arrive p :: fs) [.ask ((World.new s).run es).fresh p] where
  asked := by
    intro t p' hin
    cases List.mem_singleton.mp hin
    refine ⟨((World.new s).run es).admission p, ?_⟩
    rw [World.moves_append]
    exact List.mem_append_right _ List.mem_cons_self
  told := by simp

theorem tell {t : Ticket} {result : Resumption}
    (h : ∀ q, result = .ok q → ((World.new s).run es).resultOf? t = some (.ok q)) :
    Attested s es [.told t result] where
  asked := by simp
  told := by
    intro u q hin
    cases List.mem_singleton.mp hin
    exact World.mem_results_of_resultOf? (h q rfl)

/-- Acts that the coordinator has no part in. -/
theorem of_other {a : Act} (ha : a.isRecovery = false) : Attested s es [a] where
  asked := by
    intro t p hin
    cases List.mem_singleton.mp hin
    cases ha
  told := by
    intro t q hin
    cases List.mem_singleton.mp hin
    cases ha

end Attested

end attested

namespace Session

variable {β σ : Type} [Backend β] [KeyValue σ]

theorem exists_run_answerRenewal (s : Session β σ) :
    ∃ es, s.answerRenewal.world = s.world.run es := by
  unfold answerRenewal
  split
  · exact ⟨[], rfl⟩
  · rename_i task token _
    exact ⟨[.answer task (.ofExchange (s.renew token).1)], by simp [renew, world_send]⟩

/-- What is recovered is an admission, and what follows from it. -/
theorem exists_run_recover (s : Session β σ) (p : Pending) :
    ∃ es, (s.recover p).2.world = s.world.run (.arrive p :: es) := by
  obtain ⟨es₁, h₁⟩ := World.exists_run_drain (s.world.step (.arrive p))
  obtain ⟨es₂, h₂⟩ :=
    exists_run_answerRenewal { s with world := (s.world.step (.arrive p)).drain }
  obtain ⟨es₃, h₃⟩ := World.exists_run_drain
    (answerRenewal { s with world := (s.world.step (.arrive p)).drain }).world
  refine ⟨es₁ ++ (es₂ ++ es₃), ?_⟩
  rw [World.run_cons, World.run_append, World.run_append, ← h₁, ← h₂, ← h₃]
  rfl

omit [Backend β] in
theorem exists_run_write (s : Session β σ) (w : Write) :
    ∃ es, (s.write w).2.world = s.world.run es := by
  obtain ⟨es, h⟩ := World.exists_run_drain (s.world.step (.begin w))
  exact ⟨.begin w :: es, h⟩

/-- A request that is handed back was sent to its ticket. -/
theorem resultOf?_recover {s : Session β σ} {p : Pending} {q : Http.Request}
    (h : (s.recover p).1 = .ok q) :
    (s.recover p).2.world.resultOf? s.world.fresh = some (.ok q) := by
  have hgetD : ((s.recover p).2.world.resultOf? s.world.fresh).getD
      (.error (.sessionExpired (.networkUnavailable "renewal abandoned before settling"))) =
        .ok q := h
  cases hr : (s.recover p).2.world.resultOf? s.world.fresh with
  | none =>
    rw [hr] at hgetD
    cases hgetD
  | some result =>
    rw [hr] at hgetD
    rw [← hgetD]
    rfl

end Session

namespace Conversation

variable {α β σ : Type} [Backend β] [KeyValue σ]

/-- What a conversation does that is held alone. -/
def script : Conversation α → Session β σ → List Act
  | done _, _ => []
  | access next, s => .access s.memory.access :: (next s.memory.access).script s
  | refresh next, s => .refresh s.memory.refresh :: (next s.memory.refresh).script s
  | exchange r next, s => .exchange r (s.send r).1 :: (next (s.send r).1).script (s.send r).2
  | recover p next, s =>
    .ask s.world.fresh p :: .told s.world.fresh (s.recover p).1 ::
      (next (s.recover p).1).script (s.recover p).2
  | pause ms next, s => .pause ms :: next.script { s with log := .pause ms :: s.log }
  | write w next, s =>
    .begin s.world.fresh w :: .wrote s.world.fresh (s.write w).1 ::
      (next (s.write w).1).script (s.write w).2

theorem leads_hold (c : Conversation α) (s : Session β σ) :
    Speaker.Leads (.speaking c) (c.script s) (.speaking (.done (c.hold s).1)) := by
  induction c generalizing s with
  | done a => exact .refl _
  | access next ih => exact .access _ (ih _ s)
  | refresh next ih => exact .refresh _ (ih _ s)
  | exchange r next ih => exact .exchange _ (.hear (ih _ _))
  | recover p next ih => exact .ask _ (.told _ (ih _ _))
  | pause ms next ih => exact .pause (ih _)
  | write w next ih => exact .begin _ (.wrote _ (ih _ _))

/-- What does not reach the coordinator leaves it alone. -/
theorem world_hold (c : Conversation α) (s : Session β σ)
    (h : ∀ a ∈ c.script s, a.isEvent = false) : (c.hold s).2.world = s.world := by
  induction c generalizing s with
  | done a => rfl
  | access next ih => exact ih _ s fun a ha => h a (List.mem_cons_of_mem _ ha)
  | refresh next ih => exact ih _ s fun a ha => h a (List.mem_cons_of_mem _ ha)
  | exchange r next ih =>
    have hnext := ih _ (s.send r).2 fun a ha => h a (List.mem_cons_of_mem _ ha)
    exact hnext.trans (s.world_send r)
  | recover p next ih => cases h _ List.mem_cons_self
  | pause ms next ih => exact ih _ fun a ha => h a (List.mem_cons_of_mem _ ha)
  | write w next ih => cases h _ List.mem_cons_self

theorem attested_script {st : Store σ} (c : Conversation α) (s : Session β σ) (es : List Event)
    (hs : s.world = (World.new st).run es) : ∃ fs, Attested st (es ++ fs) (c.script s) := by
  induction c generalizing s es with
  | done a => exact ⟨[], .nil _ _⟩
  | access next ih =>
    obtain ⟨fs, h⟩ := ih _ s es hs
    exact ⟨fs, (Attested.of_other rfl).append h⟩
  | refresh next ih =>
    obtain ⟨fs, h⟩ := ih _ s es hs
    exact ⟨fs, (Attested.of_other rfl).append h⟩
  | exchange r next ih =>
    obtain ⟨fs, h⟩ := ih _ (s.send r).2 es ((s.world_send r).trans hs)
    exact ⟨fs, (Attested.of_other rfl).append h⟩
  | recover p next ih =>
    obtain ⟨gs, hgs⟩ := s.exists_run_recover p
    rw [hs, ← World.run_append] at hgs
    obtain ⟨fs, h⟩ := ih _ (s.recover p).2 _ hgs
    have hask := Attested.ask st es p gs
    have htold : Attested st (es ++ .arrive p :: gs) [.told s.world.fresh (s.recover p).1] := by
      refine .tell fun q hq => ?_
      rw [← hgs]
      exact Session.resultOf?_recover hq
    rw [← hs] at hask
    refine ⟨.arrive p :: gs ++ fs, ?_⟩
    rw [← List.append_assoc]
    exact (hask.later fs).append ((htold.later fs).append h)
  | pause ms next ih =>
    obtain ⟨fs, h⟩ := ih { s with log := .pause ms :: s.log } es hs
    exact ⟨fs, (Attested.of_other rfl).append h⟩
  | write w next ih =>
    obtain ⟨gs, hgs⟩ := s.exists_run_write w
    rw [hs, ← World.run_append] at hgs
    obtain ⟨fs, h⟩ := ih _ (s.write w).2 _ hgs
    refine ⟨gs ++ fs, ?_⟩
    rw [← List.append_assoc]
    exact (Attested.of_other rfl).append ((Attested.of_other rfl).append h)

end Conversation

/-- What a speaker does in its step. -/
def Speaker.act? {α β σ : Type} [Backend β] (s : Session β σ) : Speaker α → Option Act
  | .speaking (.done _) => none
  | .speaking (.access _) => some (.access s.memory.access)
  | .speaking (.refresh _) => some (.refresh s.memory.refresh)
  | .speaking (.exchange r _) => some (.exchange r (s.send r).1)
  | .speaking (.recover p _) => some (.ask s.world.fresh p)
  | .speaking (.pause ms _) => some (.pause ms)
  | .speaking (.write w _) => some (.begin s.world.fresh w)
  | .listening _ _ => none
  | .waiting t _ => (s.world.resultOf? t).map (.told t)
  | .writing t _ => (s.world.writeOf? t).map (.wrote t)

namespace Crowd

variable {α β σ : Type} [Backend β] [KeyValue σ]

/-- What one of the speakers does in a turn. -/
def act? (c : Crowd α β σ) (i : Nat) : Turn → Option Act
  | .speaker j => if j = i then c.speakers[i]?.bind (Speaker.act? c.session) else none
  | .task _ => none
  | .renewer => none

/-- What it does in some turns. -/
def acts (c : Crowd α β σ) (i : Nat) : List Turn → List Act
  | [] => []
  | t :: ts => (c.act? i t).toList ++ (c.step t).acts i ts

theorem acts_append (c : Crowd α β σ) (i : Nat) (ts us : List Turn) :
    c.acts i (ts ++ us) = c.acts i ts ++ (c.run ts).acts i us := by
  induction ts generalizing c with
  | nil => rfl
  | cons t ts ih =>
    rw [List.cons_append, acts, acts, ih, List.append_assoc]
    rfl

/-- A step leads on. -/
theorem leads_speak {s u : Session β σ} {x y : Speaker α} (h : speak s x = some (y, u)) :
    x.Leads (x.act? s).toList y := by
  cases x with
  | speaking c =>
    cases c with
    | done a => cases h
    | access next => cases h; exact .access _ (.refl _)
    | refresh next => cases h; exact .refresh _ (.refl _)
    | exchange r next => cases h; exact .exchange _ (.refl _)
    | recover p next => cases h; exact .ask _ (.refl _)
    | pause ms next => cases h; exact .pause (.refl _)
    | write w next => cases h; exact .begin _ (.refl _)
  | listening o next =>
    cases h
    exact .hear (.refl _)
  | waiting t next =>
    obtain ⟨result, hr, heq⟩ := Option.map_eq_some_iff.mp h
    cases heq
    simp only [Speaker.act?, hr]
    exact .told _ (.refl _)
  | writing t next =>
    obtain ⟨result, hr, heq⟩ := Option.map_eq_some_iff.mp h
    cases heq
    simp only [Speaker.act?, hr]
    exact .wrote _ (.refl _)

/-- A step that does not reach the coordinator leaves it alone. -/
theorem world_speak {s u : Session β σ} {x y : Speaker α} (h : speak s x = some (y, u))
    (ha : ∀ a, x.act? s = some a → a.isEvent = false) : u.world = s.world := by
  cases x with
  | speaking c =>
    cases c with
    | done a => cases h
    | access next => cases h; rfl
    | refresh next => cases h; rfl
    | exchange r next => cases h; exact s.world_send r
    | recover p next => cases ha _ rfl
    | pause ms next => cases h; rfl
    | write w next => cases ha _ rfl
  | listening o next => cases h; rfl
  | waiting t next =>
    obtain ⟨result, -, heq⟩ := Option.map_eq_some_iff.mp h
    cases heq
    rfl
  | writing t next =>
    obtain ⟨result, -, heq⟩ := Option.map_eq_some_iff.mp h
    cases heq
    rfl

/-- A step does what it does to the coordinator by events, which bear out its act. -/
theorem attested_speak {st : Store σ} {es : List Event} {s u : Session β σ} {x y : Speaker α}
    (hs : s.world = (World.new st).run es) (h : speak s x = some (y, u)) :
    ∃ fs, u.world = (World.new st).run (es ++ fs) ∧ Attested st (es ++ fs) (x.act? s).toList := by
  have hstay : u.world = s.world → u.world = (World.new st).run (es ++ []) := by
    rw [List.append_nil, hs]
    exact id
  cases x with
  | speaking c =>
    cases c with
    | done a => cases h
    | access next => cases h; exact ⟨[], hstay rfl, .of_other rfl⟩
    | refresh next => cases h; exact ⟨[], hstay rfl, .of_other rfl⟩
    | exchange r next => cases h; exact ⟨[], hstay (s.world_send r), .of_other rfl⟩
    | recover p next =>
      cases h
      refine ⟨[.arrive p], by rw [World.run_append, ← hs]; rfl, ?_⟩
      have hask := Attested.ask st es p []
      rw [← hs] at hask
      exact hask
    | pause ms next => cases h; exact ⟨[], hstay rfl, .of_other rfl⟩
    | write w next =>
      cases h
      exact ⟨[.begin w], by rw [World.run_append, ← hs]; rfl, .of_other rfl⟩
  | listening o next => cases h; exact ⟨[], hstay rfl, .nil _ _⟩
  | waiting t next =>
    obtain ⟨result, hr, heq⟩ := Option.map_eq_some_iff.mp h
    cases heq
    refine ⟨[], hstay rfl, ?_⟩
    simp only [Speaker.act?, hr, List.append_nil]
    refine .tell fun q hq => ?_
    rw [← hs, hr, hq]
  | writing t next =>
    obtain ⟨result, hr, heq⟩ := Option.map_eq_some_iff.mp h
    cases heq
    refine ⟨[], hstay rfl, ?_⟩
    simp only [Speaker.act?, hr]
    exact .of_other rfl

theorem act?_of_silent {s : Session β σ} {x : Speaker α} (h : speak s x = none) : x.act? s = none := by
  cases x with
  | speaking c =>
    cases c with
    | done a => rfl
    | _ => cases h
  | listening o next => cases h
  | waiting t next => simpa [speak, Speaker.act?] using h
  | writing t next => simpa [speak, Speaker.act?] using h

section step

variable {c : Crowd α β σ} {i : Nat} {x : Speaker α}

theorem step_of_speak {y : Speaker α} {u : Session β σ} (hx : c.speakers[i]? = some x)
    (h : speak c.session x = some (y, u)) : c.step (.speaker i) = ⟨u, c.speakers.set i y⟩ := by
  simp only [step, hx, Option.bind_some, h]

theorem step_of_silent (hx : c.speakers[i]? = some x) (h : speak c.session x = none) :
    c.step (.speaker i) = c := by
  simp only [step, hx, Option.bind_some, h]

theorem step_of_absent (hx : c.speakers[i]? = none) : c.step (.speaker i) = c := by
  simp only [step, hx, Option.bind_none]

/-- The others stay where they are. -/
theorem speakers_step_ne {j : Nat} (hj : j ≠ i) :
    (c.step (.speaker j)).speakers[i]? = c.speakers[i]? := by
  simp only [step]
  split
  · exact List.getElem?_set_ne hj
  · rfl

/-- In every turn a speaker goes on by what it does in it. -/
theorem leads_step (t : Turn) (hx : c.speakers[i]? = some x) :
    ∃ y, (c.step t).speakers[i]? = some y ∧ x.Leads (c.act? i t).toList y := by
  cases t with
  | task t => exact ⟨x, hx, .refl x⟩
  | renewer => exact ⟨x, hx, .refl x⟩
  | speaker j =>
    by_cases hj : j = i
    · subst hj
      simp only [act?, if_true, hx, Option.bind_some]
      cases hspeak : speak c.session x with
      | none =>
        rw [step_of_silent hx hspeak, act?_of_silent hspeak]
        exact ⟨x, hx, .refl x⟩
      | some next =>
        rw [step_of_speak hx hspeak]
        have hlt := (List.getElem?_eq_some_iff.mp hx).1
        exact ⟨next.1, List.getElem?_set_self hlt, leads_speak hspeak⟩
    · simp only [act?, if_neg hj]
      exact ⟨x, (speakers_step_ne hj).trans hx, .refl x⟩

/-- Whatever happens in between, a speaker has come by its acts to where it stands. -/
theorem leads_run (ts : List Turn) (hx : c.speakers[i]? = some x) :
    ∃ y, (c.run ts).speakers[i]? = some y ∧ x.Leads (c.acts i ts) y := by
  induction ts generalizing c x with
  | nil => exact ⟨x, hx, .refl x⟩
  | cons t ts ih =>
    obtain ⟨y, hy, hstep⟩ := leads_step t hx
    obtain ⟨z, hz, hrun⟩ := ih hy
    exact ⟨z, hz, hstep.trans hrun⟩

/-- A turn of one that does not reach the coordinator leaves it alone. -/
theorem world_step (h : ∀ a, c.act? i (.speaker i) = some a → a.isEvent = false) :
    (c.step (.speaker i)).session.world = c.session.world := by
  cases hx : c.speakers[i]? with
  | none => rw [step_of_absent hx]
  | some x =>
    cases hspeak : speak c.session x with
    | none => rw [step_of_silent hx hspeak]
    | some next =>
      rw [step_of_speak hx hspeak]
      refine world_speak hspeak fun a ha => h a ?_
      simp only [act?, if_true, hx, Option.bind_some, ha]

variable {st : Store σ} {es : List Event}

/-- A turn does what it does to the coordinator by events, which bear out what anybody does in it. -/
theorem attested_step (t : Turn) (i : Nat) (hc : c.session.world = (World.new st).run es) :
    ∃ fs, (c.step t).session.world = (World.new st).run (es ++ fs) ∧
      Attested st (es ++ fs) (c.act? i t).toList := by
  have hstay : c.session.world = (World.new st).run (es ++ []) := by rw [List.append_nil, hc]
  cases t with
  | task t => exact ⟨[.advance t], by rw [World.run_append, ← hc]; rfl, .nil _ _⟩
  | renewer =>
    obtain ⟨fs, hfs⟩ := c.session.exists_run_answerRenewal
    exact ⟨fs, by rw [World.run_append, ← hc]; exact hfs, .nil _ _⟩
  | speaker j =>
    have hother : ∀ fs, j ≠ i → Attested st (es ++ fs) (c.act? i (.speaker j)).toList := by
      intro fs hj
      simp only [act?, if_neg hj]
      exact .nil _ _
    cases hx : c.speakers[j]? with
    | none =>
      refine ⟨[], by rw [step_of_absent hx, hstay], ?_⟩
      by_cases hj : j = i
      · subst hj
        simp only [act?, if_true, hx, Option.bind_none]
        exact .nil _ _
      · exact hother [] hj
    | some x =>
      cases hspeak : speak c.session x with
      | none =>
        refine ⟨[], by rw [step_of_silent hx hspeak, hstay], ?_⟩
        by_cases hj : j = i
        · subst hj
          simp only [act?, if_true, hx, Option.bind_some, act?_of_silent hspeak]
          exact .nil _ _
        · exact hother [] hj
      | some next =>
        obtain ⟨fs, hfs, hatt⟩ := attested_speak hc hspeak
        refine ⟨fs, by rw [step_of_speak hx hspeak, hfs], ?_⟩
        by_cases hj : j = i
        · subst hj
          simpa only [act?, if_true, hx, Option.bind_some] using hatt
        · exact hother fs hj

theorem attested_run (ts : List Turn) (i : Nat) (hc : c.session.world = (World.new st).run es) :
    ∃ fs, (c.run ts).session.world = (World.new st).run (es ++ fs) ∧
      Attested st (es ++ fs) (c.acts i ts) := by
  induction ts generalizing c es with
  | nil => exact ⟨[], by rw [List.append_nil]; exact hc, .nil _ _⟩
  | cons t ts ih =>
    obtain ⟨fs, hstep, hact⟩ := attested_step t i hc
    obtain ⟨gs, hrun, hacts⟩ := ih hstep
    refine ⟨fs ++ gs, ?_⟩
    rw [← List.append_assoc]
    exact ⟨hrun, (hact.later gs).append hacts⟩

end step

end Crowd

end BandCatalog
