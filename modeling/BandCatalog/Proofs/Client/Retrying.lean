import BandCatalog.Client.Replay
import BandCatalog.Proofs.Client.Stages
import BandCatalog.Proofs.Client.Transcripts
import BandCatalog.Storage.Memory

/-!
# At most one retry

Whatever is in memory, whatever the backend answers and whatever the coordinator makes of it, the acts of
a call that sends one protected request are one of eight rows, and its result is that of the row. No
assumption is made on others who use the same coordinator, or on the order of steps.
-/
namespace BandCatalog

open Renewal

theorem SameRequest.trans {a b c : Http.Request} (h : SameRequest a b) (k : SameRequest b c) :
    SameRequest a c :=
  ⟨h.1.trans k.1, h.2.1.trans k.2.1, h.2.2.1.trans k.2.2.1, h.2.2.2.trans k.2.2.2⟩

namespace Client

theorem sameRequest_withToken {r q : Http.Request} {token : Option String}
    (h : withToken r token = .ok q) : SameRequest q r := by
  cases token with
  | none =>
    cases h
    exact ⟨rfl, rfl, rfl, rfl⟩
  | some token => exact sameRequest_authorize h

theorem isRepeatable_eq {r q : Http.Request} (h : SameRequest q r) :
    q.isRepeatable = r.isRepeatable := by
  rw [Http.Request.isRepeatable, h.2.2.1, Http.Request.isRepeatable]

theorem withToken_eq_error {r : Http.Request} {token : Option String} {e : AuthError}
    (h : withToken r token = .error e) :
    e = .malformedToken ∧ ∃ t, token = some t ∧ Http.isHeaderValue (bearer t) = false := by
  cases token with
  | none => cases h
  | some t =>
    simp only [withToken, authorize] at h
    split at h
    · cases h
    next ht =>
      cases h
      exact ⟨rfl, t, rfl, by simpa using ht⟩

/-- A request goes out with a token, and its answer hands it to the coordinator. -/
structure TurnedAway (r : Http.Request) (token : Option String) (q : Http.Request)
    (a : Http.Response) : Prop where
  sent : withToken r token = .ok q
  unauthorized : a.status = 401
  repeatable : r.isRepeatable = true

/-- Both what was sent and what is sent again are the request, but for the authorization. -/
theorem TurnedAway.sameRequest {r q s : Http.Request} {token : Option String} {a : Http.Response}
    {access : String} (ha : TurnedAway r token q a) (hs : authorize q access = .ok s) :
    SameRequest q r ∧ SameRequest s r := by
  have hq : SameRequest q r := sameRequest_withToken ha.sent
  exact ⟨hq, (sameRequest_authorize hs).trans hq⟩

/-- What a call of a request does from its beginning to its end, and what it ends with. -/
inductive Concluded (r : Http.Request) : List Act → Except Failure Http.Response → Prop where
  /-- The token in memory fits no header. -/
  | malformed {token : String} (ht : Http.isHeaderValue (bearer token) = false) :
      Concluded r [.access (some token)] (.error (.api (.auth .malformedToken)))
  | unsent {token : Option String} {q : Http.Request} (sent : withToken r token = .ok q)
      (o : Http.Obstacle) :
      Concluded r [.access token, .exchange q (.error o)] (.error (.sending r.method ⟨r.url, o⟩))
  | answered {token : Option String} {q : Http.Request} {a : Http.Response}
      (sent : withToken r token = .ok q) (ha : a.status ≠ 401) :
      Concluded r [.access token, .exchange q (.ok a)] (.ok a)
  | unrepeatable {token : Option String} {q : Http.Request} {a : Http.Response}
      (sent : withToken r token = .ok q) (ha : a.status = 401) (hr : r.isRepeatable = false) :
      Concluded r [.access token, .exchange q (.ok a)] (.ok a)
  /-- The coordinator does not hand the request back. -/
  | rejected {token : Option String} {q : Http.Request} {a : Http.Response}
      (ha : TurnedAway r token q a) (t : Ticket) (e : AuthError) :
      Concluded r
        [.access token, .exchange q (.ok a), .ask t ⟨q, token⟩, .told t (.error e)]
        (.error (.api (.auth e)))
  /-- The request is handed back with a token, and goes out again: the last exchange, whatever comes of
  it. -/
  | resentInVain {token : Option String} {q s : Http.Request} {a : Http.Response} {access : String}
      (ha : TurnedAway r token q a) (t : Ticket) (hs : authorize q access = .ok s)
      (o : Http.Obstacle) :
      Concluded r
        [.access token, .exchange q (.ok a), .ask t ⟨q, token⟩, .told t (.ok s),
          .exchange s (.error o)]
        (.error (.sending r.method ⟨r.url, o⟩))
  | reanswered {token : Option String} {q s : Http.Request} {a b : Http.Response} {access : String}
      (ha : TurnedAway r token q a) (t : Ticket) (hs : authorize q access = .ok s)
      (hb : b.status ≠ 401) :
      Concluded r
        [.access token, .exchange q (.ok a), .ask t ⟨q, token⟩, .told t (.ok s),
          .exchange s (.ok b)]
        (.ok b)
  | exhausted {token : Option String} {q s : Http.Request} {a b : Http.Response} {access : String}
      (ha : TurnedAway r token q a) (t : Ticket) (hs : authorize q access = .ok s)
      (hb : b.status = 401) :
      Concluded r
        [.access token, .exchange q (.ok a), .ask t ⟨q, token⟩, .told t (.ok s),
          .exchange s (.ok b)]
        (.error (.api (.retryExhausted (Text.excerpt b.text))))

namespace Concluded

variable {r : Http.Request} {as : List Act} {x : Except Failure Http.Response}

/-- What follows after a request was handed back. -/
theorem of_resumed {token : Option String} {q s : Http.Request} {a : Http.Response} {access : String}
    (ha : TurnedAway r token q a) (t : Ticket) (hs : authorize q access = .ok s)
    (h : Speaker.Leads (.speaking (retry s)) as (.speaking (.done x))) :
    Concluded r
      (.access token :: .exchange q (.ok a) :: .ask t ⟨q, token⟩ :: .told t (.ok s) :: as) x := by
  have hsame : SameRequest s r := (ha.sameRequest hs).2
  rw [retry_eq] at h
  cases h with
  | exchange o h =>
    cases h with
    | hear h =>
      cases o with
      | error o =>
        cases h
        rw [hsame.1, hsame.2.1]
        exact .resentInVain ha t hs o
      | ok b =>
        by_cases hb : b.status = 401
        · simp only [reheard, isUnauthorized, hb, beq_self_eq_true, if_true] at h
          cases h
          exact .exhausted ha t hs hb
        · simp only [reheard, isUnauthorized, beq_iff_eq, hb, if_false] at h
          cases h
          exact .reanswered ha t hs hb

/-- What follows after the first answer. -/
theorem of_answered {token : Option String} {q : Http.Request} {a : Http.Response}
    (sent : withToken r token = .ok q)
    (h : Speaker.Leads (.speaking (heard q token (.ok a))) as (.speaking (.done x)))
    (hfaithful : Act.Faithful (.access token :: .exchange q (.ok a) :: as)) :
    Concluded r (.access token :: .exchange q (.ok a) :: as) x := by
  have hrepeatable : q.isRepeatable = r.isRepeatable := isRepeatable_eq (sameRequest_withToken sent)
  by_cases ha : a.status = 401
  · cases hr : r.isRepeatable with
    | false =>
      simp only [heard, hrepeatable, hr, Bool.not_false, Bool.or_true, if_true] at h
      cases h
      exact .unrepeatable sent ha hr
    | true =>
      simp only [heard, isUnauthorized, ha, hrepeatable, hr, beq_self_eq_true, Bool.not_true,
        Bool.or_self, Bool.false_eq_true, if_false] at h
      have haway : TurnedAway r token q a := ⟨sent, ha, hr⟩
      cases h with
      | ask t h =>
        cases h with
        | @told _ _ rest _ result h =>
          cases result with
          | error e =>
            cases h
            exact .rejected haway t e
          | ok s =>
            obtain ⟨access, hs⟩ := hfaithful t ⟨q, token⟩ s ⟨[_, _], rest, rfl⟩
            exact of_resumed haway t hs h
  · have hb : isUnauthorized a = false := by simpa [isUnauthorized] using ha
    simp only [heard, hb, Bool.not_false, Bool.true_or, if_true] at h
    cases h
    exact .answered sent ha

/-- Whatever comes of its acts, a call that has ended has done one of the rows. -/
theorem of_leads (hr : r.url.isUnauthenticated = false)
    (h : Speaker.Leads (.speaking (send r)) as (.speaking (.done x))) (hfaithful : Act.Faithful as) :
    Concluded r as x := by
  simp only [send, hr, Bool.false_eq_true, if_false] at h
  cases h with
  | access token h =>
    cases hsent : withToken r token with
    | error e =>
      obtain ⟨rfl, t, rfl, ht⟩ := withToken_eq_error hsent
      rw [sendProtected_of_error hsent] at h
      cases h
      exact .malformed ht
    | ok q =>
      rw [sendProtected_of_ok hsent] at h
      cases h with
      | exchange o h =>
        cases h with
        | hear h =>
          cases o with
          | error o =>
            have hsame := sameRequest_withToken hsent
            cases h
            rw [hsame.1, hsame.2.1]
            exact .unsent hsent o
          | ok a => exact of_answered hsent h hfaithful

theorem exchanges_le (h : Concluded r as x) : as.countP Act.isExchange ≤ 2 := by
  cases h <;> simp [List.countP_cons, Act.isExchange]

theorem asks_le (h : Concluded r as x) : as.countP Act.isAsk ≤ 1 := by
  cases h <;> simp [List.countP_cons, Act.isAsk]

/-- Nothing reaches the coordinator but a request that comes back unauthorized. -/
theorem isEvent_eq (h : Concluded r as x) : ∀ a ∈ as, a.isEvent = a.isAsk := by
  cases h <;> simp [Act.isEvent, Act.isAsk]

/-- What is sent differs from the request at most by its authorization. -/
theorem sameRequest (h : Concluded r as x) : ∀ q o, .exchange q o ∈ as → SameRequest q r := by
  cases h with
  | malformed ht => simp
  | unsent sent o => simpa using sameRequest_withToken sent
  | answered sent ha => simpa using sameRequest_withToken sent
  | unrepeatable sent ha hr => simpa using sameRequest_withToken sent
  | rejected ha t e => simpa using sameRequest_withToken ha.sent
  | resentInVain ha t hs o => simpa [or_imp, forall_and] using ha.sameRequest hs
  | reanswered ha t hs hb => simpa [or_imp, forall_and] using ha.sameRequest hs
  | exhausted ha t hs hb => simpa [or_imp, forall_and] using ha.sameRequest hs

end Concluded

/-- A protected request does one of the rows, or the beginning of one, so it is sent at most twice and asks the
coordinator at most once, and nothing else that it does is seen there. -/
theorem retried_at_most_once {β σ : Type} [Backend β] [KeyValue σ] (st : Store σ) (es : List Event)
    (c : Crowd (Except Failure Http.Response) β σ) (i : Nat) (r : Http.Request)
    (hworld : c.session.world = (World.new st).run es)
    (hcall : c.speakers[i]? = some (.speaking (send r))) (hr : r.url.isUnauthenticated = false)
    (ts : List Turn) :
    let acts := c.acts i ts
    let v := c.run ts
    let alone := (send r).script c.session
    let held := (send r).hold c.session
    (∃ more x, Concluded r (acts ++ more) x) ∧
    (∀ x, v.speakers[i]? = some (.speaking (.done x)) → Concluded r acts x) ∧
    acts.countP Act.isExchange ≤ 2 ∧ acts.countP Act.isAsk ≤ 1 ∧
    (∀ q o, .exchange q o ∈ acts → SameRequest q r) ∧
    ((∀ a, v.act? i (.speaker i) = some a → a.isAsk = false) →
      (v.step (.speaker i)).session.world = v.session.world) ∧
    Concluded r alone held.1 ∧
    ((∀ a ∈ alone, a.isAsk = false) → held.2.world = c.session.world) := by
  intro acts v alone held
  -- at every time the acts go on to a row
  have hbeginning : ∀ ts, ∃ more x, Concluded r (c.acts i ts ++ more) x := by
    intro ts
    obtain ⟨y, -, hleads⟩ := Crowd.leads_run ts hcall
    obtain ⟨fs, -, hattested⟩ := Crowd.attested_run ts i hworld
    obtain ⟨more, x, hend, hnone⟩ := y.exists_end
    exact ⟨more, x, .of_leads hr (hleads.trans hend) (hattested.faithful.append hnone)⟩
  obtain ⟨more, x, hrow⟩ := hbeginning ts
  have hsub : acts.Sublist (acts ++ more) := List.sublist_append_left _ _
  have halone : Concluded r alone held.1 := by
    obtain ⟨fs, hattested⟩ := (send r).attested_script c.session es hworld
    exact .of_leads hr ((send r).leads_hold c.session) hattested.faithful
  refine ⟨⟨more, x, hrow⟩, ?_, ?_, ?_, ?_, ?_, halone, ?_⟩
  · intro x hx
    obtain ⟨y, hy, hleads⟩ := Crowd.leads_run ts hcall
    obtain ⟨fs, -, hattested⟩ := Crowd.attested_run ts i hworld
    cases hy.symm.trans hx
    exact .of_leads hr hleads hattested.faithful
  · exact Nat.le_trans hsub.countP_le hrow.exchanges_le
  · exact Nat.le_trans hsub.countP_le hrow.asks_le
  · exact fun q o hin => hrow.sameRequest q o (hsub.subset hin)
  · intro hask
    refine Crowd.world_step fun a ha => ?_
    obtain ⟨more, x, hnext⟩ := hbeginning (ts ++ [.speaker i])
    have hin : a ∈ c.acts i (ts ++ [.speaker i]) ++ more := by
      rw [Crowd.acts_append]
      refine List.mem_append_left _ (List.mem_append_right _ ?_)
      simp only [Crowd.acts, List.append_nil]
      exact Option.mem_toList.mpr ha
    rw [hnext.isEvent_eq a hin]
    exact hask a ha
  · intro hask
    refine (send r).world_hold c.session fun a ha => ?_
    rw [halone.isEvent_eq a ha]
    exact hask a ha

/-- A request for the bands, with an access token but no refresh token in memory, and a backend that turns
it away. -/
def bandsRequest : Http.Request :=
  ⟨"GET", ⟨"http", none, .segments ["music-bands"], none, none⟩, [], .empty⟩

def accessOnly : Store TextMap := ⟨.empty, ⟨some "A1", none⟩⟩

def refusedCall : Crowd (Except Failure Http.Response) Replay TextMap :=
  ⟨⟨World.new accessOnly, .ofList [.ok ⟨401, none⟩],
    ⟨"http", none, .segments [], none, none⟩, []⟩, [.speaking (send bandsRequest)]⟩

/-- It looks, sends, hears and asks, the coordinator empties the store, and it hears that its session is
over. -/
def refusedTurns : List Turn :=
  List.replicate 4 (.speaker 0) ++ List.replicate 4 (.task 1) ++ [.speaker 0]

theorem refused_call_not_retried :
    let ended : Except Failure Http.Response := .error (.api (.auth (.sessionExpired .noCredential)))
    refusedCall.session.world = (World.new accessOnly).run [] ∧
      refusedCall.speakers[0]? = some (.speaking (send bandsRequest)) ∧
      bandsRequest.url.isUnauthenticated = false ∧
      (refusedCall.run refusedTurns).speakers[0]? = some (.speaking (.done ended)) ∧
      Concluded bandsRequest (refusedCall.acts 0 refusedTurns) ended ∧
      (refusedCall.acts 0 refusedTurns).countP Act.isExchange ≤ 2 := by
  intro ended
  have hended : (refusedCall.run refusedTurns).speakers[0]? = some (.speaking (.done ended)) := by
    rfl
  have hr : bandsRequest.url.isUnauthenticated = false := by decide
  obtain ⟨-, hrow, hexchanges, -⟩ :=
    retried_at_most_once accessOnly [] refusedCall 0 bandsRequest rfl rfl hr refusedTurns
  exact ⟨rfl, rfl, hr, hended, hrow ended hended, hexchanges⟩

end Client

end BandCatalog
