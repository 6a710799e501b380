import BandCatalog.Proofs.Client.Standing
import BandCatalog.Proofs.Credentials.Forgetting

/-!
# Signing out

Signing out tells the backend, if there is a session, and then forgets the credentials. What the telling does
to them makes no difference: afterwards there are none in memory, and only a removal that the storage refuses
leaves any there. What a clear leaves in the storage is the same wherever one is made: when signing out, where a
renewal fails, and where stored credentials turn out not to be a session.
-/
namespace BandCatalog.Client

open Conversation Renewal Session

section remote

/-- No error of the store. -/
def IsRemote {α : Type} (x : Except Failure α) : Prop := ∀ e, x ≠ .error (.store e)

theorem remote_ok {α : Type} (a : α) : IsRemote (.ok a) := nofun

theorem remote_api {α : Type} (e : ApiError) : IsRemote (.error (.api e) : Except Failure α) := nofun

theorem remote_andThen {α γ : Type} {c : Conversation (Except Failure α)}
    {f : α → Conversation (Except Failure γ)} (hc : c.Always IsRemote) (hf : ∀ a, (f a).Always IsRemote) :
    (c.andThen f).Always IsRemote := by
  refine hc.bind fun x hx => ?_
  cases x with
  | ok a => exact hf a
  | error e =>
    rintro d ⟨⟩
    exact hx d rfl

theorem remote_execute (r : Http.Request) : (execute r).Always IsRemote := by
  intro o
  cases o with
  | ok a => exact remote_ok a
  | error o => exact nofun

theorem remote_retry (r : Http.Request) : (retry r).Always IsRemote := by
  refine remote_andThen (remote_execute r) fun a => ?_
  split
  · exact remote_api _
  · exact remote_ok a

theorem remote_send (r : Http.Request) : (send r).Always IsRemote := by
  unfold send
  split
  · exact remote_execute _
  · intro token
    rw [sendProtected]
    split
    · exact remote_api _
    · refine remote_andThen (remote_execute _) fun a => ?_
      split
      · exact remote_ok a
      · intro resumption
        cases resumption with
        | ok q => exact remote_retry q
        | error e => exact remote_api _

theorem remote_attempt (r : Http.Request) (wait left : Nat) : (attempt r wait left).Always IsRemote := by
  have hjudge : ∀ (a : Http.Response) (slow : Conversation (Except Failure Http.Response)),
      slow.Always IsRemote → (judge a slow).Always IsRemote := by
    intro a slow hslow
    unfold judge
    split
    · exact remote_ok a
    · split
      · exact hslow
      · exact remote_api _
  induction left generalizing wait with
  | zero => exact remote_andThen (remote_send r) fun a => hjudge a _ (remote_api _)
  | succ left ih => exact remote_andThen (remote_send r) fun a => hjudge a _ (ih (2 * wait))

theorem remote_call {α : Type} (c : Client) (method : String) (e : Endpoint) (json : Option Json)
    (decode : Json.Decode α) : (whenBuilt (c.build method e json) (fetch decode)).Always IsRemote := by
  unfold build
  split
  · refine remote_andThen (remote_attempt _ _ _) fun a => ?_
    split
    · exact remote_ok _
    · exact nofun
  · exact nofun

theorem remote_validate (c : Client) (token : String) : (c.validate token).Always IsRemote :=
  remote_call c "POST" .validate _ TokenValidation.decode

theorem remote_currentUser (c : Client) : c.currentUser.Always IsRemote :=
  remote_call c "GET" .currentUser none User.decode

end remote

section signingOut

variable {β : Type} [Backend β] {s : Session β FaultyMap}

/-- What comes of forgetting the credentials: the store is cleared, and an error of that is all that can fail. -/
theorem hold_forget (hquiet : s.world.Quiet) :
    let x := (store .forget (done (.ok ()) : Conversation (Except Failure Unit))).hold s
    let clear := s.world.store.write .forget
    x.2.log = s.log ∧ x.2.world.Quiet ∧ x.2.world.store = clear.2.2 ∧
      (x.1 = .ok () ↔ clear.1 = .ok ()) ∧ ∀ e, x.1 = .error e ↔ ∃ d, clear.1 = .error d ∧ e = .store d := by
  obtain ⟨v, hv, heq⟩ := hold_store hquiet .forget (done (.ok ()))
  intro x clear
  cases hclear : clear.1 with
  | ok _ =>
    have hx : x = (.ok (), { s with world := v }) := by
      rw [show x = _ from heq, hclear]
      rfl
    rw [hx]
    exact ⟨rfl, hv.quiet, hv.store, by simp, by simp⟩
  | error d =>
    have hx : x = (.error (.store d), { s with world := v }) := by
      rw [show x = _ from heq, hclear]
    rw [hx]
    exact ⟨rfl, hv.quiet, hv.store, by simp, by simp [eq_comm]⟩

/-- The session as it is once the backend has been told, if there is an access token. -/
def told (c : Client) (s : Session β FaultyMap) : Session β FaultyMap :=
  if s.memory.access.isSome then (c.logout.hold s).2 else s

theorem quiet_told (c : Client) (hquiet : s.world.Quiet) : (c.told s).world.Quiet := by
  rw [told]
  split
  · exact c.logout.quiet_hold hquiet
  · exact hquiet

theorem hold_signOut (c : Client) (s : Session β FaultyMap) :
    c.signOut.hold s = (store .forget (done (.ok ()))).hold (c.told s) := by
  rw [signOut, Conversation.hold, told]
  split
  · rw [hold_bind]
  · rfl

/-- Signing out leaves no token in memory, and none in the storage unless a removal of its own clear is refused. -/
theorem sign_out_ends_session (c : Client) (hquiet : s.world.Quiet) :
    let x := c.signOut.hold s
    let clear := (c.told s).world.store.write .forget
    x.2.memory = .none ∧ x.2.world.Quiet ∧ x.2.world.store = clear.2.2 ∧
      (x.1 = .ok () → IsCleared x.2) ∧
      (∀ e, x.1 = .error e ↔ ∃ k, (k = accessKey ∨ k = refreshKey) ∧ Store.Refused clear.2.1 k ∧
        e = .store ⟨.remove k, .refused "remove" k⟩) ∧
      (s.memory.access = none → x.2.log = s.log) := by
  intro x clear
  obtain ⟨hlog, hrests, hstore, hok, herror⟩ := hold_forget (c.quiet_told hquiet)
  rw [← hold_signOut] at hlog hrests hstore hok herror
  have hmemory : x.2.memory = .none := by
    rw [memory, hstore]
    rfl
  refine ⟨hmemory, hrests, hstore, ?_, fun e => ?_, ?_⟩
  · intro hresult
    have hmirrors := (c.told s).world.store.mirrors_write (hok.mp hresult)
    rw [← hstore] at hmirrors
    exact ⟨hmemory, hmirrors.trans hmemory⟩
  · rw [herror e]
    constructor
    · rintro ⟨d, hd, rfl⟩
      obtain ⟨k, hk, hrefused, rfl⟩ := (Store.clear_eq_error_iff _ d).mp hd
      exact ⟨k, hk, hrefused, rfl⟩
    · rintro ⟨k, hk, hrefused, rfl⟩
      exact ⟨_, (Store.clear_eq_error_iff _ _).mpr ⟨k, hk, hrefused, rfl⟩, rfl⟩
  · intro hnone
    have hsame : c.told s = s := by
      rw [told, hnone]
      rfl
    rw [hlog, hsame]

/-- The access token has expired when the backend is told, and is renewed; the backend asks to slow down, and by
the next attempt the new one is refused as well as its renewal. The storage refuses to remove a refresh token. -/
def refusedLeave : Session Replay FaultyMap :=
  ⟨World.new (.ofPair ⟨"A1", "R1"⟩ fun _ c => decide (c = .remove refreshKey)),
    .ofList [.ok ⟨401, none⟩,
      .ok ⟨200, some "\x7b\"accessToken\":\"A2\",\"refreshToken\":\"R2\"\x7d".toUTF8⟩,
      .ok ⟨429, none⟩, .ok ⟨401, none⟩, .ok ⟨401, none⟩], apiRefresh, []⟩

theorem sign_out_ends_refused_session :
    let x := apiClient.signOut.hold refusedLeave
    let e : Failure := .store ⟨.remove refreshKey, .refused "remove" refreshKey⟩
    refusedLeave.world.Quiet ∧ x.2.memory = .none ∧ x.1 = .error e ∧
      (∃ k, (k = accessKey ∨ k = refreshKey) ∧
        Store.Refused ((apiClient.told refusedLeave).world.store.write .forget).2.1 k ∧
        e = .store ⟨.remove k, .refused "remove" k⟩) ∧
      x.2.world.store.storage.tokens = ⟨none, some "R2"⟩ ∧ x.2.world.renewals = 2 := by
  intro x e
  have hquiet : refusedLeave.world.Quiet := World.new_quiet _
  have hx : x.1 = .error e := by decide +kernel
  obtain ⟨hmemory, -, -, -, herror, -⟩ := sign_out_ends_session apiClient hquiet
  exact ⟨hquiet, hmemory, hx, (herror e).mp hx, by decide +kernel, by decide +kernel⟩

/-- A renewal that failed, or one that could not be started, has cleared the store. -/
theorem store_of_expired (hquiet : s.world.Quiet) {p : Pending} {cause : TerminalCause}
    (h : (s.recover p).1 = .error (.sessionExpired cause)) :
    (s.recover p).2.world.store = (s.world.store.write .forget).2.2 := by
  rcases s.recover_alone hquiet p with ⟨token, v, -, -, heq⟩ | ⟨v, -, hv, heq⟩ | ⟨token, v, -, hv, heq⟩
  · rw [heq] at h
    have h : authorize p.request token = .error (.sessionExpired cause) := h
    unfold authorize at h
    split at h <;> cases h
  · rw [heq]
    exact hv.store
  · rw [heq] at h ⊢
    generalize Verdict.ofAnswer (.ofExchange (s.renew token).1) = d at h hv
    cases d with
    | ended cause => exact hv.store
    | renewed pair =>
      have h : authorize p.request pair.access = .error (.sessionExpired cause) := h
      unfold authorize at h
      split at h <;> cases h

/-- A check of stored credentials ends by forgetting them, or it says who is signed in or hands on the error of a
call. -/
theorem status_cases (c : Client) (hquiet : s.world.Quiet) :
    (∃ u : Session β FaultyMap, u.world.Quiet ∧ c.status.hold s = endSession.hold u) ∨
      IsRemote (c.status.hold s).1 ∧ (c.status.hold s).1 ≠ .ok .signedOut := by
  cases haccess : s.memory.access with
  | none =>
    refine .inl ⟨s, hquiet, ?_⟩
    simp only [status, Conversation.hold, haccess]
  | some token =>
    have hvalidated : ((c.validate token).hold s).2.world.Quiet := (c.validate token).quiet_hold hquiet
    have hremote := (remote_validate c token).hold s
    simp only [status, Conversation.hold, haccess, andThen, hold_bind]
    generalize (c.validate token).hold s = x at hvalidated hremote
    obtain ⟨x, u⟩ := x
    cases x with
    | error e =>
      refine .inr ⟨fun d hd => ?_, by simp [Conversation.hold]⟩
      cases hd
      exact hremote d rfl
    | ok validation =>
      simp only [Conversation.hold]
      split
      · exact .inl ⟨u, hvalidated, rfl⟩
      · have hasked : (c.currentUser.hold u).2.world.Quiet := c.currentUser.quiet_hold hvalidated
        have hremote := (remote_currentUser c).hold u
        rw [hold_bind]
        generalize c.currentUser.hold u = y at hasked hremote
        obtain ⟨y, v⟩ := y
        cases y with
        | ok user => exact .inr ⟨remote_ok _, by simp [Conversation.hold]⟩
        | error e =>
          simp only
          split
          · exact .inl ⟨v, hasked, rfl⟩
          · refine .inr ⟨fun d hd => ?_, by simp [Conversation.hold]⟩
            cases hd
            exact hremote d rfl

/-- A store that has just been cleared, and what that has left in it. -/
def JustCleared (after : Store FaultyMap) : Prop :=
  ∃ before : Store FaultyMap, after = (before.write .forget).2.2 ∧
    Store.Forgotten before.storage.tokens (before.write .forget).2.1 after

theorem justCleared {before after : Store FaultyMap} (h : after = (before.write .forget).2.2) :
    JustCleared after := by
  subst h
  exact ⟨before, rfl, before.forgotten⟩

/-- Every clear empties the memory; in the storage it leaves the access token exactly if its own removal is refused,
and the refresh token if either is. -/
theorem clear_forgets_iff (hquiet : s.world.Quiet) (c : Client) (p : Pending) :
    (∀ st : Store FaultyMap,
      Store.Forgotten st.storage.tokens (st.write .forget).2.1 (st.write .forget).2.2) ∧
    JustCleared (c.signOut.hold s).2.world.store ∧
    (∀ cause, (s.recover p).1 = .error (.sessionExpired cause) →
      JustCleared (s.recover p).2.world.store) ∧
    ((c.status.hold s).1 = .ok .signedOut ∨ (∃ e, (c.status.hold s).1 = .error (.store e)) →
      JustCleared (c.status.hold s).2.world.store) := by
  refine ⟨fun st => st.forgotten, ?_, fun cause h => justCleared (store_of_expired hquiet h), ?_⟩
  · obtain ⟨-, -, hstore, -⟩ := hold_forget (c.quiet_told hquiet)
    rw [← hold_signOut] at hstore
    exact justCleared hstore
  · intro hended
    rcases c.status_cases hquiet with ⟨u, hu, heq⟩ | ⟨hremote, hother⟩
    · obtain ⟨-, hstore, -⟩ := hold_endSession hu
      rw [heq]
      exact justCleared hstore
    · obtain hout | ⟨e, he⟩ := hended
      · exact absurd hout hother
      · exact absurd he (hremote e)

/-- A session whose storage does not let go of the access token, and whose refresh token the backend refuses. -/
def stuckSession : Session Replay FaultyMap :=
  ⟨World.new (.ofPair ⟨"A1", "R1"⟩ fun _ c => decide (c = .remove accessKey)), .ofList [.ok ⟨401, none⟩],
    apiRefresh, []⟩

theorem clear_forgets_of_stuck :
    let x := stuckSession.recover ⟨bandsRequest, some "A1"⟩
    let cause : TerminalCause := .renewalRejected "Refresh token rejected (401): "
    stuckSession.world.Quiet ∧ x.1 = .error (.sessionExpired cause) ∧ JustCleared x.2.world.store ∧
      x.2.memory = .none ∧ x.2.world.store.storage.tokens = .ofPair ⟨"A1", "R1"⟩ := by
  intro x cause
  have hquiet : stuckSession.world.Quiet := World.new_quiet _
  have hx : x.1 = .error (.sessionExpired cause) := by decide +kernel
  obtain ⟨-, -, hrecovered, -⟩ := clear_forgets_iff hquiet apiClient ⟨bandsRequest, some "A1"⟩
  exact ⟨hquiet, hx, hrecovered cause hx, by decide +kernel, by decide +kernel⟩

/-- A clear that fails to remove the access token leaves the refresh token too, which the storage never refused to
remove, and a store that is opened next finds both. -/
theorem clear_leaves_refresh_token :
    let x := stuckSession.world.store.write .forget
    let opened := (Store.open? x.2.2.storage).1
    Store.Refused x.2.1 accessKey ∧ ¬ Store.Refused x.2.1 refreshKey ∧
      ¬ Store.ForgetsAll x.2.1 x.2.2.storage ∧
      opened.toOption.map Store.memory = some (.ofPair ⟨"A1", "R1"⟩) := by
  intro x opened
  have hrefused : ¬ Store.Refused x.2.1 refreshKey := by decide +kernel
  refine ⟨by decide +kernel, hrefused, fun hall => hrefused (hall refreshKey (.inr rfl) ?_), rfl⟩
  decide +kernel

end signingOut

end BandCatalog.Client
