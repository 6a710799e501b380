import BandCatalog.Proofs.Renewal.Resumption

/-!
# Sessions that end

A session ends with a renewal that failed or with a request that found no refresh token. Each of the two
is in progress, as a task, until it redirects, once: what has ended is what was redirected together with
what is in progress. A renewal writes, settles, resumes its waiters and closes, in this order; so the
redirect comes after everything else. A renewal that got a pair, and a request that only goes out again,
neither redirect nor take tokens away.
-/
namespace BandCatalog.Renewal

/-- What ends a session. -/
inductive Ending where
  /-- A renewal that failed. -/
  | cycle (id : Ticket)
  /-- A request that was refused. -/
  | refusal (t : Ticket)
  deriving DecidableEq, Repr

namespace Move

/-- The end of a session: the renewer has no pair, or there is no refresh token. -/
def failure? : Move → Option Ending
  | answered id (.error _) => some (.cycle id)
  | answered id .panic => some (.cycle id)
  | admitted x .refused => some (.refusal x.ticket)
  | _ => none

/-- A redirect, and the end of a session that it is made for. -/
def redirect? : Move → Option Ending
  | closed id (.ended _) => some (.cycle id)
  | dismissed _ t => some (.refusal t)
  | _ => none

theorem failure?_eq_cycle {m : Move} {id : Ticket} (h : m.failure? = some (.cycle id)) :
    ∃ a, m.answer? = some (id, a) ∧ ∀ p, a ≠ .pair p := by
  unfold failure? at h
  split at h
  · cases h
    exact ⟨_, rfl, nofun⟩
  · cases h
    exact ⟨_, rfl, nofun⟩
  · cases h
  · cases h

theorem failure?_eq_refusal {m : Move} {t : Ticket} (h : m.failure? = some (.refusal t)) :
    m.ticket? = some t := by
  unfold failure? at h
  split at h
  · cases h
  · cases h
  · cases h
    rfl
  · cases h

theorem redirect?_eq_refusal {m : Move} {t : Ticket} (h : m.redirect? = some (.refusal t)) :
    m.result? = some (t, .error (.sessionExpired .noCredential)) := by
  unfold redirect? at h
  split at h
  · cases h
  · cases h
    rfl
  · cases h

end Move

/-- The write that is made for a purpose, where it is one and the same. -/
def Purpose.write? : Purpose → Option Write
  | settle v => some v.write
  | dismiss _ => some .forget
  | session => none

/-- What a write is going to end. -/
def Purpose.ending? (id : Ticket) : Purpose → Option Ending
  | settle (.renewed _) => none
  | settle (.ended _) => some (.cycle id)
  | dismiss t => some (.refusal t)
  | session => none

namespace Task

/-- What a task is going to end, by a redirect. -/
def ending? (id : Ticket) : Task → Option Ending
  | start _ => none
  | ask _ => none
  | write _ p => p.ending? id
  | persist _ _ p => p.ending? id
  | flush v _ => (Purpose.settle v).ending? id

/-- A task that is going to turn a request away owes it the result. -/
theorem owed_of_ending {t : Task} {id u : Ticket} (h : t.ending? id = some (.refusal u)) :
    u ∈ t.owed := by
  have hp : ∀ p : Purpose, p.ending? id = some (.refusal u) → u ∈ p.owed := by
    intro p hp
    cases p with
    | settle v => cases v <;> cases hp
    | dismiss t =>
      cases hp
      exact List.mem_singleton.mpr rfl
    | session => cases hp
  cases t with
  | write c p => exact hp p h
  | persist cs result p => exact hp p h
  | flush v ws => cases v <;> cases h
  | _ => cases h

end Task

/-- A storage call reports itself. -/
theorem call_report {σ : Type} [KeyValue σ] (s : σ) (c : StorageCall) :
    (Store.call s c).2.1.call = c := by
  unfold Store.call
  split <;> rfl

namespace World

variable {σ : Type}

/-- What a history shows of a task before it comes so far: its write in memory goes before its storage
calls, and its settling before its results. -/
def Follows (h : List Move) (id : Ticket) : Task → Prop
  | .start _ => True
  | .ask _ => True
  | .write c p => ∀ d, p.write? = some d → c = d
  | .persist cs _ p => ∀ d, p.write? = some d → cs ⊆ d.calls ∧ .wrote id d p ∈ h
  | .flush v _ => .wrote id v.write (.settle v) ∈ h ∧ ∃ ws, .settled id v ws ∈ h

theorem Follows.concat {h : List Move} {id : Ticket} {t : Task} (hf : Follows h id t) (m : Move) :
    Follows (h ++ [m]) id t := by
  cases t with
  | persist cs result p => exact fun d hd => (hf d hd).imp_right fun hw => List.mem_append_left _ hw
  | flush v ws =>
    obtain ⟨hwrote, ws', hsettled⟩ := hf
    exact ⟨List.mem_append_left _ hwrote, ws', List.mem_append_left _ hsettled⟩
  | _ => exact hf

/-- All tasks follow what goes before them. -/
def Course (w : World σ) (h : List Move) : Prop := ∀ e ∈ w.tasks, Follows h e.1 e.2

theorem Course.takes [KeyValue σ] {w v : World σ} {h : List Move} {m : Move} (hc : Course w h)
    (ht : Takes w m v) : Course v (h ++ [m]) := by
  have hsame : ∀ e ∈ w.tasks, Follows (h ++ [m]) e.1 e.2 := fun e he => (hc e he).concat m
  cases ht with
  | queue p gate => exact hsame
  | start gate sent hheld => exact forall_spawned hsame trivial
  | retry gate sent hheld => exact hsame
  | refuse gate sent hheld =>
    refine forall_spawned hsame fun d hd => ?_
    exact Option.some.inj hd
  | drop t => exact hsame
  | begin c => exact forall_spawned hsame nofun
  | call tasks => exact forall_moved hsame tasks trivial
  | answer a tasks =>
    refine forall_moved hsame tasks fun d hd => ?_
    exact Option.some.inj hd
  | @write l r id c p tasks =>
    refine forall_moved hsame tasks fun d hd => ?_
    have hcd : c = d := forall_held hc tasks d hd
    subst hcd
    exact ⟨List.Subset.refl _, by simp⟩
  | @store l r id c cs left result after p tasks next =>
    refine forall_moved hsame tasks fun d hd => ?_
    obtain ⟨hcalls, hwrote⟩ := forall_held hc tasks d hd
    refine ⟨?_, List.mem_append_left _ hwrote⟩
    rcases next with ⟨-, rfl, -⟩ | ⟨_, -, rfl, -⟩
    · exact (List.cons_subset.mp hcalls).2
    · exact List.nil_subset _
  | settle tasks =>
    have hwrote := (forall_held hc tasks _ rfl).2
    refine forall_moved hsame tasks ⟨List.mem_append_left _ hwrote, w.gate.waiters, ?_⟩
    exact List.mem_append_right _ (List.mem_singleton.mpr rfl)
  | dismiss tasks => exact forall_ended hsame tasks
  | conclude tasks => exact forall_ended hsame tasks
  | resume tasks => exact forall_moved hsame tasks ((forall_held hc tasks).concat _)
  | close tasks => exact forall_ended hsame tasks
  | redirect tasks => exact forall_ended hsame tasks
  | stay => exact hsame

theorem course_run [KeyValue σ] (s : Store σ) (es : List Event) :
    Course ((new s).run es) ((new s).moves es) :=
  run_induction s (by simp [Course, World.new]) (fun _ _ _ _ _ hc ht => hc.takes ht) es

/-- What the tasks are going to end. -/
def ending (w : World σ) : List Ending := w.tasks.filterMap fun e => e.2.ending? e.1

section ending

variable {w v : World σ} {l r : List (Ticket × Task)} {id : Ticket} {t u : Task} {e : Ending}

theorem ending_moved (htasks : w.tasks = l ++ (id, t) :: r) (hv : v.tasks = l ++ (id, u) :: r)
    (hu : u.ending? id = t.ending? id) : v.ending = w.ending := by
  simp only [ending, htasks, hv, List.filterMap_append, List.filterMap_cons, hu]

theorem ending_turned (htasks : w.tasks = l ++ (id, t) :: r) (hv : v.tasks = l ++ (id, u) :: r)
    (ht : t.ending? id = none) (hu : u.ending? id = some e) : v.ending.Perm (e :: w.ending) := by
  simp only [ending, htasks, hv, List.filterMap_append, List.filterMap_cons, ht, hu]
  exact List.perm_middle

theorem ending_ended (htasks : w.tasks = l ++ (id, t) :: r) (hv : v.tasks = l ++ r)
    (ht : t.ending? id = none) : v.ending = w.ending := by
  simp only [ending, htasks, hv, List.filterMap_append, List.filterMap_cons, ht]

theorem ending_redirected (htasks : w.tasks = l ++ (id, t) :: r) (hv : v.tasks = l ++ r)
    (ht : t.ending? id = some e) : w.ending.Perm (e :: v.ending) := by
  simp only [ending, htasks, hv, List.filterMap_append, List.filterMap_cons, ht]
  exact List.perm_middle

theorem ending_spawned (hv : v.tasks = w.tasks ++ [(id, t)]) (ht : t.ending? id = none) :
    v.ending = w.ending := by
  simp [ending, hv, ht]

end ending

/-- Every end of a session was redirected or is in progress, and not both. -/
structure Endings (w : World σ) (h : List Move) : Prop where
  count : w.redirects = (h.filterMap Move.redirect?).length
  balance : (h.filterMap Move.failure?).Perm (h.filterMap Move.redirect? ++ w.ending)

namespace Endings

variable {w v : World σ} {h : List Move} {m : Move} {e : Ending}

theorem new (s : Store σ) : Endings (World.new s) [] where
  count := rfl
  balance := List.Perm.refl _

/-- Moves that neither begin nor complete the end of a session. -/
theorem keep (he : Endings w h) (hfailure : m.failure? = none) (hredirect : m.redirect? = none)
    (hcount : v.redirects = w.redirects) (hending : v.ending = w.ending) :
    Endings v (h ++ [m]) where
  count := by simpa [hredirect, hcount] using he.count
  balance := by simpa [hfailure, hredirect, hending] using he.balance

/-- A session is going to end. -/
theorem fail (he : Endings w h) (hfailure : m.failure? = some e) (hredirect : m.redirect? = none)
    (hcount : v.redirects = w.redirects) (hending : v.ending.Perm (e :: w.ending)) :
    Endings v (h ++ [m]) where
  count := by simpa [hredirect, hcount] using he.count
  balance := by
    simp only [List.filterMap_append, filterMap_singleton, hfailure, hredirect, Option.toList_some,
      Option.toList_none, List.append_nil]
    calc
      List.Perm (h.filterMap Move.failure? ++ [e]) (e :: h.filterMap Move.failure?) :=
        List.perm_append_singleton _ _
      List.Perm _ (e :: (h.filterMap Move.redirect? ++ w.ending)) := he.balance.cons e
      List.Perm _ (h.filterMap Move.redirect? ++ e :: w.ending) := List.perm_middle.symm
      List.Perm _ (h.filterMap Move.redirect? ++ v.ending) := hending.symm.append_left _

/-- A session has ended. -/
theorem redirect (he : Endings w h) (hfailure : m.failure? = none)
    (hredirect : m.redirect? = some e) (hcount : v.redirects = w.redirects + 1)
    (hending : w.ending.Perm (e :: v.ending)) : Endings v (h ++ [m]) where
  count := by simp [hredirect, hcount, he.count]
  balance := by
    simp only [List.filterMap_append, filterMap_singleton, hfailure, hredirect, Option.toList_some,
      Option.toList_none, List.append_nil, List.append_assoc, List.singleton_append]
    exact he.balance.trans (hending.append_left _)

theorem takes [KeyValue σ] (he : Endings w h) (ht : Takes w m v) : Endings v (h ++ [m]) := by
  cases ht with
  | queue p gate => exact he.keep rfl rfl rfl rfl
  | start gate sent held => exact he.keep rfl rfl rfl (ending_spawned rfl rfl)
  | retry gate sent held => exact he.keep rfl rfl rfl rfl
  | refuse gate sent held =>
    refine he.fail rfl rfl rfl ?_
    simp only [ending, List.filterMap_append]
    exact List.perm_append_singleton _ _
  | drop t => exact he.keep rfl rfl rfl rfl
  | begin c => exact he.keep rfl rfl rfl (ending_spawned rfl rfl)
  | call tasks => exact he.keep rfl rfl rfl (ending_moved tasks rfl rfl)
  | answer a tasks =>
    cases a with
    | pair p => exact he.keep rfl rfl rfl (ending_moved tasks rfl rfl)
    | error cause => exact he.fail rfl rfl rfl (ending_turned tasks rfl rfl rfl)
    | panic => exact he.fail rfl rfl rfl (ending_turned tasks rfl rfl rfl)
  | write tasks => exact he.keep rfl rfl rfl (ending_moved tasks rfl rfl)
  | store tasks next => exact he.keep rfl rfl rfl (ending_moved tasks rfl rfl)
  | settle tasks => exact he.keep rfl rfl rfl (ending_moved tasks rfl rfl)
  | dismiss tasks => exact he.redirect rfl rfl rfl (ending_redirected tasks rfl rfl)
  | conclude tasks => exact he.keep rfl rfl rfl (ending_ended tasks rfl rfl)
  | resume tasks => exact he.keep rfl rfl rfl (ending_moved tasks rfl rfl)
  | close tasks => exact he.keep rfl rfl rfl (ending_ended tasks rfl rfl)
  | redirect tasks => exact he.redirect rfl rfl rfl (ending_redirected tasks rfl rfl)
  | stay => exact he.keep rfl rfl rfl rfl

end Endings

theorem endings_run [KeyValue σ] (s : Store σ) (es : List Event) :
    Endings ((new s).run es) ((new s).moves es) :=
  run_induction s (Endings.new s) (fun _ _ _ _ _ he ht => he.takes ht) es

section moves

variable [KeyValue σ] {w v : World σ} {e : Event} {id : Ticket}

/-- A renewal that sends a result has it still to send. -/
theorem mem_of_resumed {verdict : Verdict} {x : Waiter} (hn : w.Numbered)
    (hm : w.move e = .resumed id verdict x) : ∃ xs, (id, .flush verdict (x :: xs)) ∈ w.tasks := by
  have ht := takes_step hn e
  rw [hm] at ht
  generalize w.step e = v at ht
  cases ht with
  | resume tasks => exact ⟨_, mem_of_split tasks⟩

/-- A renewal that redirects has nobody left to resume. -/
theorem mem_of_redirect_cycle (hn : w.Numbered) (hm : (w.move e).redirect? = some (.cycle id)) :
    ∃ cause, (id, .flush (.ended cause) []) ∈ w.tasks := by
  have ht := takes_step hn e
  generalize w.move e = m at ht hm
  generalize w.step e = v at ht
  cases ht with
  | redirect tasks =>
    cases hm
    exact ⟨_, mem_of_split tasks⟩
  | _ => cases hm

/-- A request is turned away once the store is emptied for it. -/
theorem mem_of_redirect_refusal {t : Ticket} (hn : w.Numbered)
    (hm : (w.move e).redirect? = some (.refusal t)) :
    ∃ id result, (id, .persist [] result (.dismiss t)) ∈ w.tasks := by
  have ht := takes_step hn e
  generalize w.move e = m at ht hm
  generalize w.step e = v at ht
  cases ht with
  | dismiss tasks =>
    cases hm
    exact ⟨_, _, mem_of_split tasks⟩
  | _ => cases hm

/-- A request that goes out again at once leaves everything as it is. -/
theorem Takes.of_retried {x : Waiter} {access : String}
    (ht : Takes w (.admitted x (.retried access)) v) :
    v.store = w.store ∧ v.gate = w.gate ∧ v.tasks = w.tasks ∧ v.renewals = w.renewals ∧
      v.redirects = w.redirects := by
  cases ht with
  | retry gate sent held => exact ⟨rfl, rfl, rfl, rfl, rfl⟩

/-- A request that is refused starts no renewal. -/
theorem Takes.of_refused {x : Waiter} (ht : Takes w (.admitted x .refused) v) :
    v.gate = w.gate ∧ v.renewals = w.renewals ∧
      ∃ id, v.tasks = w.tasks ++ [(id, .write .forget (.dismiss x.ticket))] := by
  cases ht with
  | refuse gate sent held => exact ⟨rfl, rfl, w.fresh + 1, rfl⟩

end moves

namespace Cycles

variable {w : World σ} {h : List Move} {id : Ticket}

/-- No renewal fails twice, and no request is refused twice. -/
theorem failures_nodup (hc : Cycles w h) : (h.filterMap Move.failure?).Nodup := by
  have hanswers := hc.answers_nodup
  have htickets := hc.accounts.ascending
  rw [List.map_filterMap, List.nodup_iff_pairwise_ne, List.pairwise_filterMap] at hanswers
  rw [List.pairwise_filterMap] at htickets
  rw [List.nodup_iff_pairwise_ne, List.pairwise_filterMap]
  refine (hanswers.and htickets).imp ?_
  rintro m n ⟨hids, hlt⟩ b hb c hc rfl
  cases b with
  | cycle id =>
    obtain ⟨a, ha, -⟩ := Move.failure?_eq_cycle hb
    obtain ⟨a', ha', -⟩ := Move.failure?_eq_cycle hc
    exact hids id (by rw [ha]; rfl) id (by rw [ha']; rfl) rfl
  | refusal t =>
    have hless := hlt t (Move.failure?_eq_refusal hb) t (Move.failure?_eq_refusal hc)
    exact Nat.lt_irrefl _ hless

/-- When a renewal has nobody left to resume, all of its cycle have got what they get. -/
theorem resultsTo_of_flushed (hc : Cycles w h) {v : Verdict} (hmem : (id, .flush v []) ∈ w.tasks) :
    w.resultsTo (cycle h id) = (cycle h id).map fun x => (x.ticket, v.resume x.request) := by
  obtain ⟨a, ha, rfl⟩ := hc.verdicts.tasks _ hmem v rfl
  obtain ⟨l, r, htasks⟩ := List.append_of_mem hmem
  have ho := hc.numbered.others htasks
  have hleft : w.leftBy id = [] := leftBy_self htasks ho
  have hqueued : w.queuedFor id = [] := by
    refine if_neg fun hin => ?_
    obtain ⟨e, he, hid⟩ := List.mem_map.mp hin
    obtain ⟨he, hunsettled⟩ := List.mem_filter.mp he
    rw [htasks, List.mem_append, List.mem_cons] at he
    rcases he with he | rfl | he
    · exact ho e (List.mem_append_left _ he) hid
    · cases hunsettled
    · exact ho e (List.mem_append_right _ he) hid
  have hall : cycle h id = resumedBy h id := by
    rw [hc.parts id, hleft, hqueued, List.append_nil, List.append_nil]
  rw [hc.resultsTo_eq ha, hall]
  exact List.map_congr_left fun x _ => by rw [a.resume_eq]

/-- A renewal that got a pair does not fail. -/
theorem not_failed_of_pair (hc : Cycles w h) {p : Pair}
    (hp : (id, .pair p) ∈ h.filterMap Move.answer?) : .cycle id ∉ h.filterMap Move.failure? := by
  intro hfailed
  obtain ⟨m, hm, hfailure⟩ := List.mem_filterMap.mp hfailed
  obtain ⟨a, ha, hne⟩ := Move.failure?_eq_cycle hfailure
  have hin : (id, a) ∈ h.filterMap Move.answer? := List.mem_filterMap.mpr ⟨m, hm, ha⟩
  have hsame : (id, a) = (id, .pair p) := List.inj_on_of_nodup_map hc.answers_nodup hin hp rfl
  exact hne p (Prod.mk.inj hsame).2

/-- A request that is refused gets nothing but the end of its session, once that is redirected. -/
theorem result_of_refused (hc : Cycles w h) (he : Endings w h) {x : Waiter}
    (hx : .admitted x .refused ∈ h) (result : Resumption) :
    (x.ticket, result) ∈ w.results ↔
      .refusal x.ticket ∈ h.filterMap Move.redirect? ∧
        result = .error (.sessionExpired .noCredential) := by
  have hsent : Ending.refusal x.ticket ∈ h.filterMap Move.redirect? →
      (x.ticket, .error (.sessionExpired .noCredential)) ∈ w.results := by
    intro hin
    obtain ⟨m, hm, hredirect⟩ := List.mem_filterMap.mp hin
    rw [hc.accounts.results]
    exact List.mem_filterMap.mpr ⟨m, hm, Move.redirect?_eq_refusal hredirect⟩
  constructor
  · intro hin
    have hticket : x.ticket ∈ w.sent.map Sending.ticket := by
      rw [← keys_results]
      exact List.mem_map_of_mem hin
    have hfailed : Ending.refusal x.ticket ∈ h.filterMap Move.failure? :=
      List.mem_filterMap.mpr ⟨_, hx, rfl⟩
    have hredirected : Ending.refusal x.ticket ∈ h.filterMap Move.redirect? := by
      rcases List.mem_append.mp (he.balance.mem_iff.mp hfailed) with hin | hin
      · exact hin
      · obtain ⟨⟨i, t⟩, ht, hending⟩ := List.mem_filterMap.mp hin
        have howed : x.ticket ∈ w.owed :=
          List.mem_append_right _ (List.mem_flatMap.mpr ⟨_, ht, Task.owed_of_ending hending⟩)
        exact absurd hticket (hc.accounts.not_sent howed)
    have hnodup : (w.results.map Prod.fst).Nodup := w.keys_results ▸ hc.accounts.nodup_sent
    have hsame := List.inj_on_of_nodup_map hnodup hin (hsent hredirected) rfl
    exact ⟨hredirected, (Prod.mk.inj hsame).2⟩
  · rintro ⟨hin, rfl⟩
    exact hsent hin

end Cycles

/-- At every time a renewal that gets a pair has no other verdict. -/
theorem verdict_of_pair [KeyValue σ] (s : Store σ) {past rest : List Event} {id : Ticket} {p : Pair}
    (hp : (id, .pair p) ∈ ((new s).moves (past ++ rest)).filterMap Move.answer?) {t : Task}
    (ht : (id, t) ∈ ((new s).run past).tasks) {v : Verdict} (hv : t.verdict? = some v) :
    v = .renewed p := by
  obtain ⟨a, ha, rfl⟩ := (cycles_run s past).verdicts.tasks _ ht v hv
  have hin : (id, a) ∈ ((new s).moves (past ++ rest)).filterMap Move.answer? := by
    rw [moves_append, List.filterMap_append]
    exact List.mem_append_left _ ha
  have hsame : (id, a) = (id, .pair p) :=
    List.inj_on_of_nodup_map (cycles_run s (past ++ rest)).answers_nodup hin hp rfl
  rw [(Prod.mk.inj hsame).2]
  rfl

/-- A renewal that gets a pair puts it into memory, -/
theorem wrote_of_pair [KeyValue σ] (s : Store σ) {es : List Event} {id : Ticket} {p : Pair}
    (hp : (id, .pair p) ∈ ((new s).moves es).filterMap Move.answer?) {c : Write} {v : Verdict}
    (hm : .wrote id c (.settle v) ∈ (new s).moves es) : c = .put p := by
  obtain ⟨past, e, rest, rfl, hmove⟩ := exists_of_mem_moves hm
  obtain ⟨hmem, -⟩ := mem_of_wrote ((numbered_new s).run past) hmove
  have hc : c = v.write := course_run s past _ hmem _ rfl
  rw [hc, verdict_of_pair s hp hmem rfl]
  rfl

/-- and makes no storage call but to store it. -/
theorem stored_of_pair [KeyValue σ] (s : Store σ) {es : List Event} {id : Ticket} {p : Pair}
    (hp : (id, .pair p) ∈ ((new s).moves es).filterMap Move.answer?) {report : Report} {v : Verdict}
    (hm : .stored id report (.settle v) ∈ (new s).moves es) : report.call ∈ (Write.put p).calls := by
  obtain ⟨past, e, rest, rfl, hmove⟩ := exists_of_mem_moves hm
  obtain ⟨c, cs, result, hmem, rfl⟩ := mem_of_stored ((numbered_new s).run past) hmove
  have hcalls : c :: cs ⊆ v.write.calls := (course_run s past _ hmem _ rfl).1
  rw [call_report]
  rw [verdict_of_pair s hp hmem rfl] at hcalls
  exact hcalls List.mem_cons_self

/-- The redirects are those of the failed renewals and the refused requests that have run to their end, one each and
last of all that they do; nothing else redirects or takes tokens away. -/
theorem terminal_failure_redirects_once [KeyValue σ] (s : Store σ) (es : List Event) (e : Event) :
    let w := (new s).run es
    let h := (new s).moves es
    let failures := h.filterMap Move.failure?
    let redirected := h.filterMap Move.redirect?
    w.redirects = redirected.length ∧ redirected.Nodup ∧ failures.Nodup ∧
    (∀ f, f ∈ redirected ↔ f ∈ failures ∧ f ∉ w.ending) ∧
    (w.ending = [] → w.redirects = failures.length) ∧
    (∀ id p, w.move e = .wrote id .forget p → (w.step e).store.memory = .none) ∧
    (∀ id cause ws, w.move e = .settled id (.ended cause) ws →
      .wrote id .forget (.settle (.ended cause)) ∈ h) ∧
    (∀ id cause x, w.move e = .resumed id (.ended cause) x →
      ∃ ws, .settled id (.ended cause) ws ∈ h) ∧
    (∀ id, (w.move e).redirect? = some (.cycle id) → ∃ cause,
      .wrote id .forget (.settle (.ended cause)) ∈ h ∧ (∃ ws, .settled id (.ended cause) ws ∈ h) ∧
      w.resultsTo (cycle h id) =
        (cycle h id).map fun x => (x.ticket, .error (.sessionExpired cause))) ∧
    (∀ t, (w.move e).redirect? = some (.refusal t) → ∃ id, .wrote id .forget (.dismiss t) ∈ h) ∧
    (∀ id p, (id, .pair p) ∈ h.filterMap Move.answer? →
      .cycle id ∉ failures ∧ .cycle id ∉ redirected ∧
      (∀ c v, .wrote id c (.settle v) ∈ h → c = .put p) ∧
      ∀ report v, .stored id report (.settle v) ∈ h → report.call ∈ (Write.put p).calls) ∧
    (∀ x access, w.move e = .admitted x (.retried access) →
      (w.step e).store = w.store ∧ (w.step e).gate = w.gate ∧ (w.step e).tasks = w.tasks ∧
      (w.step e).renewals = w.renewals ∧ (w.step e).redirects = w.redirects) ∧
    (∀ x, w.move e = .admitted x .refused →
      (w.step e).gate = w.gate ∧ (w.step e).renewals = w.renewals ∧
      ∃ id, (w.step e).tasks = w.tasks ++ [(id, .write .forget (.dismiss x.ticket))]) ∧
    (∀ x, .admitted x .refused ∈ h → ∀ result, (x.ticket, result) ∈ w.results ↔
      .refusal x.ticket ∈ redirected ∧ result = .error (.sessionExpired .noCredential)) := by
  intro w h failures redirected
  have hc : Cycles w h := cycles_run s es
  have he : Endings w h := endings_run s es
  have hcourse : Course w h := course_run s es
  have hbalance : failures.Perm (redirected ++ w.ending) := he.balance
  have hnodup : (redirected ++ w.ending).Nodup := hbalance.nodup_iff.mp hc.failures_nodup
  obtain ⟨hredirected, -, hapart⟩ := List.nodup_append.mp hnodup
  have ht := takes_step hc.numbered e
  refine ⟨he.count, hredirected, hc.failures_nodup, ?_, ?_, ?_, ?_, ?_, ?_, ?_, ?_, ?_, ?_,
    fun x hx result => hc.result_of_refused he hx result⟩
  · intro f
    rw [hbalance.mem_iff, List.mem_append]
    constructor
    · intro hf
      exact ⟨.inl hf, fun hending => hapart f hf f hending rfl⟩
    · rintro ⟨hf | hf, hout⟩
      · exact hf
      · exact absurd hf hout
  · intro hnone
    rw [he.count, hbalance.length_eq, hnone, List.append_nil]
  · intro id p hm
    exact (mem_of_wrote hc.numbered hm).2
  · intro id cause ws hm
    obtain ⟨⟨result, hmem⟩, -⟩ := mem_of_settled hc.numbered hm
    exact (hcourse _ hmem _ rfl).2
  · intro id cause x hm
    obtain ⟨xs, hmem⟩ := mem_of_resumed hc.numbered hm
    exact (hcourse _ hmem).2
  · intro id hm
    obtain ⟨cause, hmem⟩ := mem_of_redirect_cycle hc.numbered hm
    obtain ⟨hwrote, hsettled⟩ := hcourse _ hmem
    exact ⟨cause, hwrote, hsettled, hc.resultsTo_of_flushed hmem⟩
  · intro t hm
    obtain ⟨id, result, hmem⟩ := mem_of_redirect_refusal hc.numbered hm
    exact ⟨id, (hcourse _ hmem _ rfl).2⟩
  · intro id p hp
    have hnot := hc.not_failed_of_pair hp
    refine ⟨hnot, ?_, fun c v => wrote_of_pair s hp, fun report v => stored_of_pair s hp⟩
    exact fun hin => hnot (hbalance.mem_iff.mpr (List.mem_append_left _ hin))
  · intro x access hm
    exact (hm ▸ ht).of_retried
  · intro x hm
    exact (hm ▸ ht).of_refused

end World

end BandCatalog.Renewal
