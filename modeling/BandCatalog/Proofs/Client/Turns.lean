import BandCatalog.Proofs.Client.Alone
import BandCatalog.Proofs.Client.Stages
import BandCatalog.Proofs.Client.Transcripts
import BandCatalog.Proofs.Renewal.Phases

/-!
# Turns in a storm of expired requests

Several calls at the same time, each of which sends one protected request, on a session whose access token
has expired. The backend takes the new access token only, and exchanges the old refresh token for the new
pair. `Shows` tells at which stage each call stands and in which phase the coordinator does. Every turn
takes a call to its next stage, or the coordinator to its next phase, or changes nothing.
-/
namespace BandCatalog

open Renewal Client

/-- A backend that turns away every access token but the new one, and that exchanges the old refresh token
for the new pair as long as it is fresh. -/
structure Renews {β : Type} [Backend β] (old new : Pair) (url : Url) (fresh : β → Prop) : Prop where
  rejects : ∀ (b : β) r token, r.Bears token → token ≠ new.access →
    ∃ a, (Backend.answer b r).1 = .ok a ∧ a.status = 401
  accepts : ∀ (b : β) r, r.Bears new.access →
    ∃ a, (Backend.answer b r).1 = .ok a ∧ a.status ≠ 401
  keeps : ∀ b r token, fresh b → r.Bears token → fresh (Backend.answer b r).2
  renews : ∀ b, fresh b →
    classify (exchangeRequest url old.refresh).url
      (Backend.answer b (exchangeRequest url old.refresh)).1 = .ok new
  sendable : (exchangeRequest url old.refresh).isSendable = true

/-- Two pairs whose access tokens are different and fit for a header. -/
structure Pair.Changes (old new : Pair) : Prop where
  differ : old.access ≠ new.access
  old : Http.isHeaderValue (bearer old.access) = true
  new : Http.isHeaderValue (bearer new.access) = true

/-- A request that carries a token and can be sent, and sent again. -/
structure Http.Request.Callable (r : Http.Request) : Prop where
  guarded : r.url.isUnauthenticated = false
  repeatable : r.isRepeatable = true
  sendable : r.isSendable = true

/-- The request that a speaker is about to send. -/
def Speaker.request? {α : Type} : Speaker α → Option Http.Request
  | .speaking (.exchange r _) => some r
  | _ => none

namespace Crowd

variable {β σ : Type}

/-- Calls of some requests, on a session with a pair in memory. -/
def storm (storage : σ) (b : β) (url : Url) (p : Pair) (rs : List Http.Request) :
    Crowd (Except Failure Http.Response) β σ :=
  ⟨⟨World.new ⟨storage, .ofPair p⟩, b, url, []⟩, rs.map fun r => .speaking (send r)⟩

end Crowd

/-- An answer to a request with the new access token is in the log. -/
def Session.Answered {β σ : Type} (s : Session β σ) (new : Pair) (r : Http.Request)
    (a : Http.Response) : Prop :=
  a.status ≠ 401 ∧ ∃ held, .exchange (r.bearing new.access) held (.ok a) ∈ s.log

namespace Client.Stage

variable {β σ : Type}

/-- What is known of a call that has come to a stage. -/
def Sound (old new : Pair) (r : Http.Request) (s : Session β σ) (p : Phase) : Stage → Prop
  | called => True
  | stale => True
  | rejected a => a.status = 401
  | refused => True
  | waiting t => s.world.Granted new p ⟨t, r.bearing old.access⟩
  | renewed _ => p.isWritten = true
  | accepted _ a => p.isWritten = true ∧ s.Answered new r a
  | answered a => p.isWritten = true ∧ s.Answered new r a

/-- It stays known. -/
theorem Sound.mono {old new : Pair} {r : Http.Request} {s u : Session β σ} {p q : Phase}
    {stage : Stage} (h : stage.Sound old new r s p) (honward : s.world.Onward new p u.world q)
    (hlog : s.log ⊆ u.log) : stage.Sound old new r u q := by
  have hanswered : ∀ a, s.Answered new r a → u.Answered new r a := by
    rintro a ⟨hstatus, held, hin⟩
    exact ⟨hstatus, held, hlog hin⟩
  cases stage with
  | called => trivial
  | stale => trivial
  | rejected a => exact h
  | refused => trivial
  | waiting t => exact honward.granted _ h
  | renewed again => exact honward.written h
  | accepted again a => exact ⟨honward.written h.1, hanswered a h.2⟩
  | answered a => exact ⟨honward.written h.1, hanswered a h.2⟩

end Client.Stage

namespace Crowd

variable {β σ : Type} [KeyValue σ]

/-- The calls of a crowd stand at these stages, and its coordinator in this phase. -/
structure Shows (old new : Pair) (url : Url) (fresh : β → Prop)
    (c : Crowd (Except Failure Http.Response) β σ) (calls : List (Http.Request × Stage))
    (p : Phase) : Prop where
  speakers : c.speakers = calls.map fun e => e.2.speaker old new e.1
  callable : ∀ e ∈ calls, e.1.Callable
  sound : ∀ e ∈ calls, e.2.Sound old new e.1 c.session p
  stands : c.session.world.Stands old new p
  run : ∃ s es, c.session.world = (World.new s).run es
  url : c.session.refreshUrl = url
  fresh : p.isUnanswered = true → fresh c.session.backend

/-- A bound on the steps that are left to the calls. -/
def ranks : List (Http.Request × Stage) → Nat
  | [] => 0
  | e :: es => e.2.rank + ranks es

@[simp] theorem ranks_cons (e : Http.Request × Stage) (es : List (Http.Request × Stage)) :
    ranks (e :: es) = e.2.rank + ranks es := rfl

@[simp] theorem ranks_append (es fs : List (Http.Request × Stage)) :
    ranks (es ++ fs) = ranks es + ranks fs := by
  induction es with
  | nil => exact (Nat.zero_add _).symm
  | cons e es ih => rw [List.cons_append, ranks_cons, ranks_cons, ih, Nat.add_assoc]

/-- A bound on the steps that are left. -/
def toil (calls : List (Http.Request × Stage)) (p : Phase) : Nat := ranks calls + p.weight

namespace Shows

variable {old new : Pair} {url : Url} {fresh : β → Prop}
  {c : Crowd (Except Failure Http.Response) β σ} {calls l k : List (Http.Request × Stage)}
  {p : Phase} {r : Http.Request} {st : Stage}

theorem storm (new : Pair) {storage : σ} {b : β} {rs : List Http.Request} (hb : fresh b)
    (hrs : ∀ r ∈ rs, r.Callable) :
    Shows old new url fresh (Crowd.storm storage b url old rs) (rs.map fun r => (r, .called))
      .quiet where
  speakers := by simp [Crowd.storm, Stage.speaker]
  callable := by simpa using hrs
  sound := by simp [Stage.Sound]
  stands := .new_quiet old new storage
  run := ⟨⟨storage, .ofPair old⟩, [], rfl⟩
  url := rfl
  fresh := fun _ => hb

theorem speaker_eq (h : Shows old new url fresh c calls p) (hcalls : calls = l ++ (r, st) :: k) :
    c.speakers[l.length]? = some (st.speaker old new r) := by
  simp [h.speakers, hcalls]

/-- A turn of the coordinator. -/
theorem turn_coordinator (h : Shows old new url fresh c calls p) {s : Session β σ} {q : Phase}
    (hstands : s.world.Stands old new q) (honward : c.session.world.Onward new p s.world q)
    (hlog : c.session.log ⊆ s.log) (hrun : ∃ t es, s.world = (World.new t).run es)
    (hurl : s.refreshUrl = c.session.refreshUrl) (hfresh : q.isUnanswered = true → fresh s.backend) :
    Shows old new url fresh { c with session := s } calls q where
  speakers := h.speakers
  callable := h.callable
  sound := fun e he => (h.sound e he).mono honward hlog
  stands := hstands
  run := hrun
  url := hurl.trans h.url
  fresh := hfresh

variable [Backend β]

/-- A call goes on to its next stage; the coordinator goes on to the next phase, or stays. -/
theorem speak (h : Shows old new url fresh c calls p) (hcalls : calls = l ++ (r, st) :: k)
    {next : Stage} {s : Session β σ} {q : Phase}
    (hspeak : Crowd.speak c.session (st.speaker old new r) = some (next.speaker old new r, s))
    (hsound : next.Sound old new r s q) (hstands : s.world.Stands old new q)
    (honward : c.session.world.Onward new p s.world q) (hlog : c.session.log ⊆ s.log)
    (hrun : ∃ t es, s.world = (World.new t).run es) (hurl : s.refreshUrl = c.session.refreshUrl)
    (hfresh : q.isUnanswered = true → fresh s.backend) :
    Shows old new url fresh (c.step (.speaker l.length)) (l ++ (r, next) :: k) q := by
  rw [step_of_speak (h.speaker_eq hcalls) hspeak]
  have hin : ∀ e ∈ l ++ (r, next) :: k, e ∈ calls ∨ e = (r, next) := by
    intro e he
    rw [hcalls]
    rcases List.mem_append.mp he with he | he
    · exact .inl (List.mem_append_left _ he)
    · rcases List.mem_cons.mp he with he | he
      · exact .inr he
      · exact .inl (List.mem_append_right _ (List.mem_cons_of_mem _ he))
  constructor
  · simp [h.speakers, hcalls]
  · intro e he
    rcases hin e he with he | rfl
    · exact h.callable e he
    · exact h.callable (r, st) (by simp [hcalls])
  · intro e he
    rcases hin e he with he | rfl
    · exact (h.sound e he).mono honward hlog
    · exact hsound
  · exact hstands
  · exact hrun
  · exact hurl.trans h.url
  · exact hfresh

/-- A turn of a call that goes on, with less left to do. -/
def Moves (old new : Pair) (url : Url) (fresh : β → Prop)
    (c : Crowd (Except Failure Http.Response) β σ) (l : List (Http.Request × Stage))
    (r : Http.Request) (st : Stage) (k : List (Http.Request × Stage)) (p : Phase) : Prop :=
  ∃ next q, st.Next next ∧ next.rank + q.weight < st.rank + p.weight ∧
    Shows old new url fresh (c.step (.speaker l.length)) (l ++ (r, next) :: k) q

/-- Turns that the coordinator has no part in. -/
theorem moves (h : Shows old new url fresh c calls p) (hcalls : calls = l ++ (r, st) :: k)
    {next : Stage} {s : Session β σ} (hnext : st.Next next)
    (hspeak : Crowd.speak c.session (st.speaker old new r) = some (next.speaker old new r, s))
    (hsound : next.Sound old new r s p) (hworld : s.world = c.session.world)
    (hlog : c.session.log ⊆ s.log) (hurl : s.refreshUrl = c.session.refreshUrl)
    (hfresh : fresh c.session.backend → fresh s.backend) :
    Moves old new url fresh c l r st k p := by
  refine ⟨next, p, hnext, Nat.add_lt_add_right hnext.rank_lt _, ?_⟩
  refine h.speak hcalls hspeak hsound ?_ ?_ hlog ?_ hurl fun hp => hfresh (h.fresh hp)
  · rw [hworld]
    exact h.stands
  · rw [hworld]
    exact .refl _ _ _
  · rw [hworld]
    exact h.run

/-- A call looks at the access token. -/
theorem look (h : Shows old new url fresh c calls p) (hpair : old.Changes new)
    (hcalls : calls = l ++ (r, .called) :: k) : Moves old new url fresh c l r .called k p := by
  have hr : r.Callable := h.callable (r, .called) (by simp [hcalls])
  cases hw : p.isWritten with
  | false =>
    have hheld : c.session.memory.access = some old.access := by
      rw [Session.memory, h.stands.memory, hw]
      rfl
    refine h.moves hcalls .lookOld (s := c.session) ?_ trivial rfl (List.Subset.refl _) rfl
      fun hf => hf
    simp [Stage.speaker, send, hr.guarded, Crowd.speak, hheld, sendProtected_eq hpair.old]
  | true =>
    have hheld : c.session.memory.access = some new.access := by
      rw [Session.memory, h.stands.memory, hw]
      rfl
    refine h.moves hcalls .lookNew (s := c.session) ?_ hw rfl (List.Subset.refl _) rfl
      fun hf => hf
    simp [Stage.speaker, Stage.final, send, hr.guarded, Crowd.speak, hheld,
      sendProtected_eq hpair.new]

/-- It is turned away with the old token. -/
theorem reject (h : Shows old new url fresh c calls p) (hpair : old.Changes new)
    (hb : Renews old new url fresh) (hcalls : calls = l ++ (r, .stale) :: k) :
    Moves old new url fresh c l r .stale k p := by
  have hr : r.Callable := h.callable (r, .stale) (by simp [hcalls])
  have hbears := r.bears_bearing old.access
  obtain ⟨a, ha, hstatus⟩ := hb.rejects c.session.backend _ _ hbears hpair.differ
  refine h.moves hcalls (.reject a) (s := c.session.sent (r.bearing old.access)) ?_ hstatus rfl
    (List.subset_cons_self _ _) rfl fun hf => hb.keeps _ _ _ hf hbears
  simp [Stage.speaker, Crowd.speak, Session.send_eq, hr.sendable, ha]

/-- The answer that turns it away arrives. -/
theorem hear (h : Shows old new url fresh c calls p) {a : Http.Response}
    (hcalls : calls = l ++ (r, .rejected a) :: k) :
    Moves old new url fresh c l r (.rejected a) k p := by
  have hr : r.Callable := h.callable (r, .rejected a) (by simp [hcalls])
  have hstatus : a.status = 401 := h.sound (r, .rejected a) (by simp [hcalls])
  refine h.moves hcalls (.hear a) (s := c.session) ?_ trivial rfl (List.Subset.refl _) rfl
    fun hf => hf
  simp [Stage.speaker, Crowd.speak, heard, isUnauthorized, hstatus, hr.repeatable]

/-- It comes back unauthorized, and waits for the coordinator. -/
theorem wait (h : Shows old new url fresh c calls p) (hpair : old.Changes new)
    (hcalls : calls = l ++ (r, .refused) :: k) : Moves old new url fresh c l r .refused k p := by
  obtain ⟨q, hstands, honward, hweight, hgranted⟩ :=
    h.stands.arrive hpair.differ (r.bearing old.access)
  obtain ⟨s, es, hrun⟩ := h.run
  let came : Event := .arrive ⟨r.bearing old.access, some old.access⟩
  refine ⟨.waiting c.session.world.fresh, q, .wait _, ?_, ?_⟩
  · simp only [Stage.rank]
    omega
  · refine h.speak hcalls (s := happen c.session came) ?_ hgranted hstands honward
      (List.Subset.refl _) ⟨s, es ++ [came], ?_⟩ rfl fun hq => h.fresh (honward.unanswered hq)
    · simp [Stage.speaker, Crowd.speak, came]
    · rw [World.run_append, ← hrun]
      rfl

/-- It has its result, and goes on with the new token; or it has still to wait. -/
theorem resume (h : Shows old new url fresh c calls p) (hpair : old.Changes new) {t : Ticket}
    (hcalls : calls = l ++ (r, .waiting t) :: k) :
    (c.session.world.resultOf? t = none ∧ p.pending ≠ []) ∨
      Moves old new url fresh c l r (.waiting t) k p := by
  obtain ⟨s, es, hrun⟩ := h.run
  have haccounts := World.accounts_run s es
  rw [← hrun] at haccounts
  rcases h.sound (r, .waiting t) (by simp [hcalls]) with hpending | ⟨hw, hresult⟩
  · refine .inl ⟨?_, List.ne_nil_of_mem hpending⟩
    cases hfound : c.session.world.resultOf? t with
    | none => rfl
    | some result =>
      have hsent := List.mem_map_of_mem (f := Prod.fst) (World.mem_results_of_resultOf? hfound)
      rw [World.keys_results] at hsent
      exact absurd hsent (haccounts.not_sent (h.stands.owed hpending))
  · refine .inr ?_
    have hfound := haccounts.resultOf?_eq_some hresult
    refine h.moves hcalls (.resume t) (s := c.session) ?_ hw rfl (List.Subset.refl _) rfl
      fun hf => hf
    simp [Stage.speaker, Stage.final, Crowd.speak, hfound, Http.Request.authorize_eq hpair.new,
      resumed, retry_eq]

/-- It is sent with the new token. -/
theorem accept (h : Shows old new url fresh c calls p) (hb : Renews old new url fresh)
    {again : Bool} (hcalls : calls = l ++ (r, .renewed again) :: k) :
    Moves old new url fresh c l r (.renewed again) k p := by
  have hr : r.Callable := h.callable (r, .renewed again) (by simp [hcalls])
  have hw : p.isWritten = true := h.sound (r, .renewed again) (by simp [hcalls])
  have hbears := r.bears_bearing new.access
  obtain ⟨a, ha, hstatus⟩ := hb.accepts c.session.backend _ hbears
  refine h.moves hcalls (.accept again a) (s := c.session.sent (r.bearing new.access)) ?_
    ⟨hw, hstatus, c.session.memory.access, ?_⟩ rfl (List.subset_cons_self _ _) rfl
    fun hf => hb.keeps _ _ _ hf hbears
  · simp [Stage.speaker, Crowd.speak, Session.send_eq, hr.sendable, ha]
  · rw [← ha]
    exact List.mem_cons_self

/-- The backend's answer arrives. -/
theorem finish (h : Shows old new url fresh c calls p) {again : Bool} {a : Http.Response}
    (hcalls : calls = l ++ (r, .accepted again a) :: k) :
    Moves old new url fresh c l r (.accepted again a) k p := by
  have hsound := h.sound (r, .accepted again a) (by simp [hcalls])
  have hstatus : isUnauthorized a = false := by
    simpa [isUnauthorized] using hsound.2.1
  refine h.moves hcalls (.finish again a) (s := c.session) ?_ hsound rfl (List.Subset.refl _) rfl
    fun hf => hf
  cases again <;> simp [Stage.speaker, Stage.final, Crowd.speak, heard, reheard, hstatus]

/-- A turn of a call. One that is answered has none, nor has one that waits for the coordinator. -/
theorem turn (h : Shows old new url fresh c calls p) (hpair : old.Changes new)
    (hb : Renews old new url fresh) (hcalls : calls = l ++ (r, st) :: k) :
    (c.step (.speaker l.length) = c ∧ (st.speaker old new r).request? = none ∧
      ((∃ a, st = .answered a) ∨ p.pending ≠ [])) ∨ Moves old new url fresh c l r st k p := by
  cases st with
  | called => exact .inr (h.look hpair hcalls)
  | stale => exact .inr (h.reject hpair hb hcalls)
  | rejected a => exact .inr (h.hear hcalls)
  | refused => exact .inr (h.wait hpair hcalls)
  | waiting t =>
    refine (h.resume hpair hcalls).imp_left fun ⟨hnone, hpending⟩ => ?_
    have hstay : Crowd.speak c.session ((Stage.waiting t).speaker old new r) = none := by
      simp [Stage.speaker, Crowd.speak, hnone]
    exact ⟨step_of_silent (h.speaker_eq hcalls) hstay, rfl, .inr hpending⟩
  | renewed again => exact .inr (h.accept hb hcalls)
  | accepted again a => exact .inr (h.finish hcalls)
  | answered a => exact .inl ⟨step_of_silent (h.speaker_eq hcalls) rfl, rfl, .inl ⟨a, rfl⟩⟩

/-- A turn of a task. -/
theorem turn_task (h : Shows old new url fresh c calls p) (t : Ticket) :
    c.step (.task t) = c ∨
      ∃ q, q.weight < p.weight ∧ Shows old new url fresh (c.step (.task t)) calls q := by
  rcases h.stands.advance t with hstay | ⟨_, q, hstands, honward, hweight⟩
  · refine .inl ?_
    rw [step, happen, hstay]
  · obtain ⟨s, es, hrun⟩ := h.run
    refine .inr ⟨q, hweight, ?_⟩
    refine h.turn_coordinator (s := happen c.session (.advance t)) hstands honward
      (List.Subset.refl _) ⟨s, es ++ [.advance t], ?_⟩ rfl fun hq => h.fresh (honward.unanswered hq)
    rw [World.run_append, ← hrun]
    rfl

/-- A turn of the renewer, which exchanges the old refresh token once. -/
theorem turn_renewer (h : Shows old new url fresh c calls p) (hb : Renews old new url fresh) :
    (c.step .renewer = c ∧ ∀ ws, p ≠ .asked ws) ∨
      (c.step .renewer ≠ c ∧
        ∃ q, q.weight < p.weight ∧ Shows old new url fresh (c.step .renewer) calls q) := by
  rcases h.stands.asking? with ⟨hnone, hphase⟩ | ⟨ws, id, rfl, hasking, htasks⟩
  · refine .inl ⟨?_, hphase⟩
    simp only [step, Session.answerRenewal, hnone]
  · obtain ⟨hne, hstands, honward⟩ := h.stands.answer htasks
    obtain ⟨s, es, hrun⟩ := h.run
    have hrenew : c.session.renew old.refresh =
        (.ok new, c.session.sent (exchangeRequest url old.refresh)) := by
      simp only [Session.renew, h.url, Session.send_eq _ hb.sendable,
        hb.renews _ (h.fresh rfl)]
    have hstep : c.step .renewer =
        { c with
          session := { c.session.sent (exchangeRequest url old.refresh) with
            world := c.session.world.step (.answer id (.pair new)) } } := by
      simp only [step, Session.answerRenewal, hasking, hrenew]
      rfl
    rw [hstep]
    refine .inr ⟨?_, .answered ws, ?_, ?_⟩
    · intro heq
      exact hne (congrArg (fun d => d.session.world.tasks) heq)
    · simp [Phase.weight, Phase.rank, Phase.pending]
    · refine h.turn_coordinator hstands honward (List.subset_cons_self _ _)
        ⟨s, es ++ [.answer id (.pair new)], ?_⟩ rfl fun hq => by cases hq
      rw [World.run_append, ← hrun]
      rfl

end Shows

end Crowd

end BandCatalog
