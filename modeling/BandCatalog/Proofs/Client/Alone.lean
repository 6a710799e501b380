import BandCatalog.Client.Session
import BandCatalog.Proofs.Renewal.Alone

/-!
# Sessions held alone

What comes of a write and of a request that came back unauthorized, on a session whose coordinator is quiet:
the coordinator is quiet again, and the store is written at most once. A conversation keeps to whatever each
of its acts keeps to.
-/
namespace BandCatalog

namespace Session

open Renewal

variable {β σ : Type} [Backend β]

/-- A session after a request that reached the backend. -/
def sent (s : Session β σ) (r : Http.Request) : Session β σ :=
  { s with
    backend := (Backend.answer s.backend r).2
    log := .exchange r s.memory.access (Backend.answer s.backend r).1 :: s.log }

theorem send_eq (s : Session β σ) {r : Http.Request} (h : r.isSendable = true) :
    s.send r = ((Backend.answer s.backend r).1, s.sent r) := by
  rw [send, if_pos h]
  rfl

/-- What is sent does not depend on the coordinator, its store aside. -/
theorem send_world (s : Session β σ) {v : World σ} (h : v.store = s.world.store) (r : Http.Request) :
    ({ s with world := v } : Session β σ).send r =
      ((s.send r).1, { (s.send r).2 with world := v }) := by
  simp only [send, memory, h]
  split <;> rfl

theorem renew_world (s : Session β σ) {v : World σ} (h : v.store = s.world.store) (token : String) :
    ({ s with world := v } : Session β σ).renew token =
      ((s.renew token).1, { (s.renew token).2 with world := v }) := by
  simp only [renew, s.send_world h]

variable [KeyValue σ]

omit [Backend β] in
/-- A write is done as a whole. -/
theorem write_alone (s : Session β σ) (hquiet : s.world.Quiet) (w : Write) :
    ∃ v, s.write w = ((s.world.store.write w).1, { s with world := v }) ∧
      s.world.Rests (s.world.store.write w).2.2 0 0 v := by
  obtain ⟨v, hdrains, hrests, hresult⟩ := hquiet.begin w
  refine ⟨v, ?_, hrests⟩
  rw [write, hdrains.drain_eq]
  simp [hresult]

section recover

variable {s : Session β σ} {p : Pending} {result : Resumption}

/-- An admission that leaves the coordinator quiet. -/
theorem recover_of_quiet {v : World σ} (hdrains : World.Drains (s.world.step (.arrive p)) v)
    (hquiet : v.Quiet) (hresult : v.resultOf? s.world.fresh = some result) :
    s.recover p = (result, { s with world := v }) := by
  have hasking : v.asking? = none := by simp [World.asking?, hquiet.tasks]
  simp only [recover, answerRenewal]
  rw [hdrains.drain_eq]
  simp only [hasking, hquiet.drains.drain_eq, hresult, Option.getD_some]

/-- One whose renewal is answered by the backend. -/
theorem recover_of_asking {v u : World σ} {id : Ticket} {token : String}
    (hdrains : World.Drains (s.world.step (.arrive p)) v) (hasking : v.asking? = some (id, token))
    (hstore : v.store = s.world.store)
    (hanswer : World.Drains (v.step (.answer id (.ofExchange (s.renew token).1))) u)
    (hresult : u.resultOf? s.world.fresh = some result) :
    s.recover p = (result, { (s.renew token).2 with world := u }) := by
  simp only [recover, answerRenewal]
  rw [hdrains.drain_eq]
  simp only [hasking, s.renew_world hstore, hanswer.drain_eq, hresult, Option.getD_some]

/-- A request that was sent with the token in memory and came back unauthorized ends the session if there is no
refresh token; else one exchange decides. -/
theorem recover_current (hquiet : s.world.Quiet)
    (hcurrent : s.memory.access.filter (fun a => p.sentWith ≠ some a) = none) :
    (∃ v, s.memory.refresh = none ∧ s.world.Rests (s.world.store.write .forget).2.2 0 1 v ∧
      s.recover p = (.error (.sessionExpired .noCredential), { s with world := v })) ∨
    ∃ token v, s.memory.refresh = some token ∧
      let d := Verdict.ofAnswer (.ofExchange (s.renew token).1)
      s.world.Rests (s.world.store.write d.write).2.2 1 d.redirects v ∧
        s.recover p = (d.resume p.request, { (s.renew token).2 with world := v }) := by
  cases hrefresh : s.memory.refresh with
  | none =>
    obtain ⟨v, hdrains, hrests, hresult⟩ := hquiet.dismiss hcurrent hrefresh
    exact .inl ⟨v, rfl, hrests, recover_of_quiet hdrains hrests.quiet hresult⟩
  | some token =>
    obtain ⟨v, id, hdrains, hasking, hstore, hanswer⟩ := hquiet.renew hcurrent hrefresh
    obtain ⟨u, hdecides, hrests, hresult⟩ := hanswer (.ofExchange (s.renew token).1)
    exact .inr ⟨token, u, rfl, hrests, recover_of_asking hdrains hasking hstore hdecides hresult⟩

/-- What becomes of any request that came back unauthorized: the same, or it is handed back with a token that
is newer than its own. -/
theorem recover_alone (hquiet : s.world.Quiet) (p : Pending) :
    (∃ token v, s.memory.access = some token ∧ s.world.Rests s.world.store 0 0 v ∧
      s.recover p = (authorize p.request token, { s with world := v })) ∨
    (∃ v, s.memory.refresh = none ∧ s.world.Rests (s.world.store.write .forget).2.2 0 1 v ∧
      s.recover p = (.error (.sessionExpired .noCredential), { s with world := v })) ∨
    ∃ token v, s.memory.refresh = some token ∧
      let d := Verdict.ofAnswer (.ofExchange (s.renew token).1)
      s.world.Rests (s.world.store.write d.write).2.2 1 d.redirects v ∧
        s.recover p = (d.resume p.request, { (s.renew token).2 with world := v }) := by
  cases hnewer : s.memory.access.filter (fun a => p.sentWith ≠ some a) with
  | some token =>
    obtain ⟨v, hdrains, hrests, hresult⟩ := hquiet.retry hnewer
    have haccess : s.memory.access = some token := Option.eq_some_of_filter_eq_some hnewer
    exact .inl ⟨token, v, haccess, hrests, recover_of_quiet hdrains hrests.quiet hresult⟩
  | none => exact .inr (recover_current hquiet hnewer)

end recover

end Session

namespace Conversation

variable {α γ β σ : Type} [Backend β] [KeyValue σ]

theorem hold_bind (c : Conversation α) (f : α → Conversation γ) (s : Session β σ) :
    (c.bind f).hold s = (f (c.hold s).1).hold (c.hold s).2 := by
  induction c generalizing s with
  | done a => rfl
  | access next ih => exact ih _ s
  | refresh next ih => exact ih _ s
  | exchange r next ih => exact ih _ _
  | recover p next ih => exact ih _ _
  | pause ms next ih => exact ih _
  | write w next ih => exact ih _ _

theorem hold_exchange (r : Http.Request) (next : Http.Outcome → Conversation α) (s : Session β σ) :
    (exchange r next).hold s = (next (s.send r).1).hold (s.send r).2 := rfl

theorem hold_recover (p : Renewal.Pending) (next : Renewal.Resumption → Conversation α)
    (s : Session β σ) :
    (recover p next).hold s = (next (s.recover p).1).hold (s.recover p).2 := rfl

theorem hold_write (w : Write) (next : Except StoreError Unit → Conversation α) (s : Session β σ) :
    (write w next).hold s = (next (s.write w).1).hold (s.write w).2 := rfl

section andThen

variable {c : Conversation (Except Failure α)} {f : α → Conversation (Except Failure γ)} {s u : Session β σ}

theorem hold_andThen_ok {a : α} (h : c.hold s = (.ok a, u)) : (c.andThen f).hold s = (f a).hold u := by
  rw [andThen, hold_bind, h]

theorem hold_andThen_error {e : Failure} (h : c.hold s = (.error e, u)) :
    (c.andThen f).hold s = (.error e, u) := by
  rw [andThen, hold_bind, h]
  rfl

end andThen

/-- A conversation whose result nobody looks at. -/
def silent (c : Conversation α) : Conversation Unit := c.bind fun _ => done ()

/-- A conversation that leaves a session with a property that it had before. -/
def Keeps (I : Session β σ → Prop) (c : Conversation α) : Prop := ∀ s, I s → I (c.hold s).2

namespace Keeps

variable {I : Session β σ → Prop}

theorem done (a : α) : (done a).Keeps I := fun _ h => h

theorem bind {c : Conversation α} {f : α → Conversation γ} (hc : c.Keeps I)
    (hf : ∀ a, (f a).Keeps I) : (c.bind f).Keeps I := by
  intro s hs
  rw [hold_bind]
  exact hf _ _ (hc s hs)

theorem silent {c : Conversation α} (hc : c.Keeps I) : c.silent.Keeps I := hc.bind fun _ => .done ()

theorem andThen {c : Conversation (Except Failure α)} {f : α → Conversation (Except Failure γ)}
    (hc : c.Keeps I) (hf : ∀ a, (f a).Keeps I) : (c.andThen f).Keeps I := by
  refine hc.bind fun r => ?_
  cases r with
  | ok a => exact hf a
  | error e => exact .done _

theorem access {next : Option String → Conversation α} (h : ∀ t, (next t).Keeps I) :
    (access next).Keeps I := fun s hs => h _ s hs

theorem refresh {next : Option String → Conversation α} (h : ∀ t, (next t).Keeps I) :
    (refresh next).Keeps I := fun s hs => h _ s hs

end Keeps

/-- Every result that a conversation can have, whatever it is told, has a property. -/
def Always (P : α → Prop) : Conversation α → Prop
  | .done a => P a
  | .access next => ∀ t, (next t).Always P
  | .refresh next => ∀ t, (next t).Always P
  | .exchange _ next => ∀ o, (next o).Always P
  | .recover _ next => ∀ r, (next r).Always P
  | .pause _ next => next.Always P
  | .write _ next => ∀ r, (next r).Always P

namespace Always

variable {P : α → Prop} {Q : γ → Prop} {c : Conversation α}

theorem hold (h : c.Always P) (s : Session β σ) : P (c.hold s).1 := by
  induction c generalizing s with
  | done a => exact h
  | access next ih => exact ih _ (h _) s
  | refresh next ih => exact ih _ (h _) s
  | exchange r next ih => exact ih _ (h _) _
  | recover p next ih => exact ih _ (h _) _
  | pause ms next ih => exact ih h _
  | write w next ih => exact ih _ (h _) _

theorem bind {f : α → Conversation γ} (h : c.Always P) (hf : ∀ a, P a → (f a).Always Q) :
    (c.bind f).Always Q := by
  induction c with
  | done a => exact hf a h
  | access next ih => exact fun t => ih t (h t)
  | refresh next ih => exact fun t => ih t (h t)
  | exchange r next ih => exact fun o => ih o (h o)
  | recover p next ih => exact fun r => ih r (h r)
  | pause ms next ih => exact ih h
  | write w next ih => exact fun r => ih r (h r)

/-- Only what comes last decides. -/
theorem after (c : Conversation α) {f : α → Conversation γ} (hf : ∀ a, (f a).Always Q) :
    (c.bind f).Always Q := by
  have hany : c.Always fun _ => True := by
    induction c with
    | done a => trivial
    | access next ih => exact ih
    | refresh next ih => exact ih
    | exchange r next ih => exact ih
    | recover p next ih => exact ih
    | pause ms next ih => exact ih
    | write w next ih => exact ih
  exact hany.bind fun a _ => hf a

end Always

/-- What every write of a store keeps to, every conversation that is held alone keeps to, and it leaves the
coordinator quiet. -/
theorem keeps_quiet {P : Store σ → Prop} (hwrite : ∀ st w, P st → P (st.write w).2.2) (c : Conversation α) :
    c.Keeps fun s : Session β σ => s.world.Quiet ∧ P s.world.store := by
  have hworld : ∀ {s : Session β σ} {st : Store σ} {m n : Nat} {v : Renewal.World σ},
      s.world.Rests st m n v → P st → v.Quiet ∧ P v.store := by
    intro s st m n v hv hst
    rw [hv.store]
    exact ⟨hv.quiet, hst⟩
  induction c with
  | done a => exact .done a
  | access next ih => exact .access ih
  | refresh next ih => exact .refresh ih
  | exchange r next ih =>
    intro s hs
    have hsent : (s.send r).2.world.Quiet ∧ P (s.send r).2.world.store := by rwa [s.world_send]
    exact ih _ _ hsent
  | recover p next ih =>
    rintro s ⟨hquiet, hstore⟩
    rw [hold_recover]
    rcases s.recover_alone hquiet p with ⟨token, v, -, hv, heq⟩ | ⟨v, -, hv, heq⟩ | ⟨token, v, -, hv, heq⟩
    · rw [heq]
      exact ih _ _ (hworld hv hstore)
    · rw [heq]
      exact ih _ _ (hworld hv (hwrite _ _ hstore))
    · rw [heq]
      exact ih _ _ (hworld hv (hwrite _ _ hstore))
  | pause ms next ih => exact fun s hs => ih { s with log := .pause ms :: s.log } hs
  | write w next ih =>
    rintro s ⟨hquiet, hstore⟩
    obtain ⟨v, heq, hv⟩ := s.write_alone hquiet w
    rw [hold_write, heq]
    exact ih _ _ (hworld hv (hwrite _ _ hstore))

theorem quiet_hold (c : Conversation α) {s : Session β σ} (h : s.world.Quiet) :
    (c.hold s).2.world.Quiet :=
  (keeps_quiet (P := fun _ => True) (fun _ _ hst => hst) c s ⟨h, trivial⟩).1

end Conversation

end BandCatalog
