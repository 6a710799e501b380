import BandCatalog.Client.Replay

/-!
# What a session hears of its backend

A session knows its backend by the answers in its log. With a replay of those in place of the backend, it does
the same, whatever the replay goes on with.
-/
namespace BandCatalog

namespace LogEntry

def answer? : LogEntry → Option Http.Outcome
  | exchange _ _ o => some o
  | pause _ => none

/-- The answers in a log, oldest first. -/
def answers (log : List LogEntry) : List Http.Outcome := (log.filterMap answer?).reverse

@[simp] theorem answers_nil : answers [] = [] := rfl

@[simp] theorem answers_append (fs es : List LogEntry) : answers (fs ++ es) = answers es ++ answers fs := by
  simp [answers]

end LogEntry

namespace Session

variable {β γ σ χ ω : Type}

/-- A session with another backend in place of its own. -/
def against (s : Session β σ) (b : γ) : Session γ σ := ⟨s.world, b, s.refreshUrl, s.log⟩

@[simp] theorem against_log (s : Session β σ) (b : γ) : (s.against b).log = s.log := rfl

/-- What is done to a session is done again with a replay, up to where the answers in the log end. -/
def Replays (f : Session β σ → χ × Session β σ) (g : Session Replay σ → χ × Session Replay σ) : Prop :=
  ∀ s, ∃ es, (f s).2.log = es ++ s.log ∧ ∀ more wanted,
    g (s.against ⟨LogEntry.answers es ++ more, wanted⟩) = ((f s).1, (f s).2.against ⟨more, wanted⟩)

namespace Replays

/-- What depends on the coordinator alone needs no answers. -/
theorem of_world (result : Renewal.World σ → χ) (step : Renewal.World σ → Renewal.World σ) :
    Replays (fun s : Session β σ => (result s.world, { s with world := step s.world }))
      fun s => (result s.world, { s with world := step s.world }) :=
  fun _ => ⟨[], rfl, fun _ _ => rfl⟩

theorem bind {f : Session β σ → χ × Session β σ} {f' : Session Replay σ → χ × Session Replay σ}
    {g : χ → Session β σ → ω × Session β σ} {g' : χ → Session Replay σ → ω × Session Replay σ}
    (hf : Replays f f') (hg : ∀ x, Replays (g x) (g' x)) :
    Replays (fun s => g (f s).1 (f s).2) fun s => g' (f' s).1 (f' s).2 := by
  intro s
  obtain ⟨es, hlog, hfirst⟩ := hf s
  obtain ⟨fs, hlog', hnext⟩ := hg (f s).1 (f s).2
  refine ⟨fs ++ es, by rw [hlog', hlog, List.append_assoc], fun more wanted => ?_⟩
  simp only [LogEntry.answers_append, List.append_assoc, hfirst, hnext]

end Replays

variable [Backend β]

theorem replays_send (r : Http.Request) :
    Replays (fun s : Session β σ => s.send r) fun s => s.send r := by
  intro s
  cases hsendable : r.isSendable with
  | false =>
    refine ⟨[], ?_, fun more wanted => ?_⟩ <;> simp only [send, hsendable] <;> rfl
  | true =>
    refine ⟨[.exchange r s.memory.access (Backend.answer s.backend r).1], ?_, fun more wanted => ?_⟩ <;>
      simp only [send, hsendable] <;> rfl

theorem replays_renew (token : String) :
    Replays (fun s : Session β σ => s.renew token) fun s => s.renew token := by
  intro s
  obtain ⟨es, hlog, hsend⟩ :=
    replays_send (Renewal.exchangeRequest s.refreshUrl token) s
  refine ⟨es, hlog, fun more wanted => ?_⟩
  have hurl : ∀ b : Replay, (s.against b).refreshUrl = s.refreshUrl := fun b => rfl
  simp only [renew, hurl, hsend]

variable [KeyValue σ]

theorem replays_answerRenewal :
    Replays (fun s : Session β σ => ((), s.answerRenewal)) fun s => ((), s.answerRenewal) := by
  intro s
  cases hasking : s.world.asking? with
  | none =>
    have hworld : ∀ b : Replay, (s.against b).world = s.world := fun b => rfl
    refine ⟨[], ?_, fun more wanted => ?_⟩ <;> simp only [answerRenewal, hworld, hasking] <;> rfl
  | some ask =>
    obtain ⟨es, hlog, hrenew⟩ := replays_renew ask.2 s
    have hworld : ∀ b : Replay, (s.against b).world = s.world := fun b => rfl
    refine ⟨es, ?_, fun more wanted => ?_⟩
    · simp only [answerRenewal, hasking]
      exact hlog
    · simp only [answerRenewal, hworld, hasking, hrenew]
      rfl

theorem replays_recover (p : Renewal.Pending) :
    Replays (fun s : Session β σ => s.recover p) fun s => s.recover p := by
  have harrive := Replays.of_world (β := β) (fun w : Renewal.World σ => w.fresh)
    fun w => (w.step (.arrive p)).drain
  exact harrive.bind fun t => replays_answerRenewal.bind fun _ =>
    Replays.of_world
      (fun w => (w.drain.resultOf? t).getD
        (.error (.sessionExpired (.networkUnavailable "renewal abandoned before settling"))))
      fun w => w.drain

omit [Backend β] in
theorem replays_write (w : Write) : Replays (fun s : Session β σ => s.write w) fun s => s.write w :=
  Replays.of_world (fun v => (((v.step (.begin w)).drain).writeOf? v.fresh).getD (.ok ()))
    fun v => (v.step (.begin w)).drain

end Session

open Session

variable {α β σ : Type} [Backend β] [KeyValue σ]

/-- A conversation that is held alone. -/
theorem Conversation.replays_hold (c : Conversation α) :
    Replays (fun s : Session β σ => c.hold s) fun s => c.hold s := by
  induction c with
  | done a => exact fun s => ⟨[], rfl, fun more wanted => rfl⟩
  | access next ih => exact fun s => ih s.memory.access s
  | refresh next ih => exact fun s => ih s.memory.refresh s
  | exchange r next ih => exact (replays_send r).bind ih
  | recover p next ih => exact (replays_recover p).bind ih
  | pause ms next ih =>
    intro s
    obtain ⟨es, hlog, hnext⟩ := ih { s with log := .pause ms :: s.log }
    refine ⟨es ++ [.pause ms], by rw [List.append_assoc]; exact hlog, fun more wanted => ?_⟩
    rw [LogEntry.answers_append]
    exact hnext more wanted
  | write w next ih => exact (replays_write w).bind ih

end BandCatalog
