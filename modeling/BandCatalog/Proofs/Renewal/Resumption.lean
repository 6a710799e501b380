import Mathlib.Data.List.Nodup
import BandCatalog.Proofs.Renewal.Cycles
import BandCatalog.Proofs.Renewal.Dropping

/-!
# Resumption, first come, first served

A renewal sends one result to each request of its cycle, in the order of their admission. The results
follow from the renewer's answer and the requests alone. Giving requests up changes nothing but who takes
a result.
-/
namespace BandCatalog.Renewal

/-- What a request gets that waited for an answer. -/
def Answer.resume : Answer → Http.Request → Resumption
  | pair p, r => authorize r p.access
  | error e, _ => .error (.sessionExpired (.ofError e))
  | panic, _ => .error (.sessionExpired (.ofError (.invalidResponse "renewal client panicked")))

theorem Answer.resume_eq (a : Answer) (r : Http.Request) :
    a.resume r = (Verdict.ofAnswer a).resume r := by
  cases a <;> rfl

/-- An answer without a pair ends the session of all, for one cause. -/
theorem Answer.resume_of_not_pair {a : Answer} (h : ∀ p, a ≠ .pair p) :
    ∃ cause, ∀ r, a.resume r = .error (.sessionExpired cause) := by
  cases a with
  | pair p => exact absurd rfl (h p)
  | error e => exact ⟨.ofError e, fun _ => rfl⟩
  | panic => exact ⟨.ofError (.invalidResponse "renewal client panicked"), fun _ => rfl⟩

/-- Only an answer with a pair resumes a request, and then as it was but for its authorization. -/
theorem Answer.resume_eq_ok {a : Answer} {r q : Http.Request} (h : a.resume r = .ok q) :
    (∃ p, a = .pair p) ∧ SameRequest q r := by
  cases a with
  | pair p => exact ⟨⟨p, rfl⟩, sameRequest_authorize h⟩
  | error e => cases h
  | panic => cases h

namespace World

variable {σ : Type}

/-- The results that were sent to some requests, in order. -/
def resultsTo (w : World σ) (xs : List Waiter) : List (Ticket × Resumption) :=
  w.results.filter fun e => e.1 ∈ xs.map Waiter.ticket

/-- All that is known of the cycles after a run. -/
structure Cycles (w : World σ) (h : List Move) : Prop where
  numbered : w.Numbered
  flight : Flight w h
  accounts : Accounts w h
  queues : Queues w h
  flushes : Flushes w h
  verdicts : Verdicts w h

theorem cycles_run [KeyValue σ] (s : Store σ) (es : List Event) :
    Cycles ((new s).run es) ((new s).moves es) := by
  refine run_induction s ?_ ?_ es
  · exact ⟨numbered_new s, Flight.new s, Accounts.new s, Queues.new s, Flushes.new s, Verdicts.new s⟩
  · intro w h m v hn hc ht
    exact ⟨hn.takes ht, hc.flight.takes ht, hc.accounts.takes ht, hc.queues.takes hc.flight ht,
      hc.flushes.takes hn ht, hc.verdicts.takes ht⟩

/-- A list without repeated keys is cut down to a part of it by the keys of the part. -/
theorem filter_eq_of_sublist {α β : Type} (key : α → β) {p : α → Bool} {l k : List α}
    (hl : l.Sublist k) (hk : (k.map key).Nodup)
    (hp : ∀ e ∈ k, p e = true ↔ key e ∈ l.map key) : k.filter p = l := by
  induction hl with
  | slnil => rfl
  | @cons l k a hl ih =>
    obtain ⟨ha, hk⟩ := List.nodup_cons.mp hk
    have hout : key a ∉ l.map key := fun h => ha ((hl.map key).subset h)
    have hpa : ¬ p a = true := fun h => hout ((hp a List.mem_cons_self).mp h)
    rw [List.filter_cons_of_neg hpa]
    exact ih hk fun e he => hp e (List.mem_cons_of_mem _ he)
  | @cons_cons l k a hl ih =>
    obtain ⟨ha, hk⟩ := List.nodup_cons.mp hk
    have hpa : p a = true := (hp a List.mem_cons_self).mpr (by simp)
    rw [List.filter_cons_of_pos hpa, ih hk]
    intro e he
    have hne : key e ≠ key a := fun h => ha (h ▸ List.mem_map_of_mem he)
    rw [hp e (List.mem_cons_of_mem _ he), List.map_cons, List.mem_cons]
    exact ⟨fun h => h.resolve_left hne, .inr⟩

/-- What a renewal has sent is among the results, in order. -/
theorem sublist_results {h : List Move} {id : Ticket} {a : Answer}
    (hj : ∀ v x, .resumed id v x ∈ h → v = .ofAnswer a) :
    ((resumedBy h id).map fun x => (x.ticket, a.resume x.request)).Sublist
      (h.filterMap Move.result?) := by
  induction h with
  | nil => exact List.Sublist.refl _
  | cons m h ih =>
    have hcut : resumedBy (m :: h) id = ofRenewal id m.resumption?.toList ++ resumedBy h id := by
      rw [← List.singleton_append, resumedBy, List.filterMap_append, filterMap_singleton,
        ofRenewal_append, resumedBy]
    rw [hcut, ← List.singleton_append, List.map_append, List.filterMap_append, filterMap_singleton]
    refine List.Sublist.append ?_ (ih fun v x hx => hj v x (List.mem_cons_of_mem _ hx))
    cases m with
    | resumed i v x =>
      by_cases hi : i = id
      · subst hi
        have hresult : a.resume x.request = v.resume x.request := by
          rw [Answer.resume_eq, hj v x List.mem_cons_self]
        simp [Move.resumption?, Move.result?, ofRenewal_singleton, hresult]
      · simp [Move.resumption?, ofRenewal_singleton, hi]
    | _ => exact List.nil_sublist _

namespace Cycles

variable {w : World σ} {h : List Move}

/-- A cycle is what has been resumed of it, what is left of it to its renewal, and what is queued. -/
theorem parts (hc : Cycles w h) (id : Ticket) :
    cycle h id = resumedBy h id ++ (w.leftBy id ++ w.queuedFor id) := by
  rw [hc.queues.queued id, hc.flushes id, List.append_assoc]

/-- Those who have not been resumed are owed a result. -/
theorem owed_of_mem {id : Ticket} {x : Waiter} (hx : x ∈ w.leftBy id ++ w.queuedFor id) :
    x.ticket ∈ w.owed := by
  rcases List.mem_append.mp hx with hx | hx
  · obtain ⟨t, ht, hleft⟩ := List.mem_flatMap.mp hx
    obtain ⟨e, he, het⟩ := List.mem_filterMap.mp ht
    split at het
    · cases het
      refine List.mem_append_right _ (List.mem_flatMap.mpr ⟨e, he, ?_⟩)
      cases htask : e.2 with
      | flush v ws =>
        rw [htask] at hleft
        exact List.mem_map_of_mem hleft
      | _ =>
        rw [htask] at hleft
        exact absurd hleft List.not_mem_nil
    · cases het
  · rw [queuedFor] at hx
    split at hx
    · exact List.mem_append_left _ (List.mem_map_of_mem hx)
    · exact absurd hx List.not_mem_nil

theorem answers_nodup (hc : Cycles w h) : ((h.filterMap Move.answer?).map Prod.fst).Nodup := by
  have hnodup : ((h.filterMap Move.start?).map Prod.fst).Nodup :=
    hc.flight.ascending.imp fun hlt => Nat.ne_of_lt hlt
  rw [hc.flight.answered] at hnodup
  exact (List.nodup_append.mp hnodup).1

/-- A renewal acts on its only answer. -/
theorem verdict_eq (hc : Cycles w h) {id : Ticket} {a : Answer}
    (ha : (id, a) ∈ h.filterMap Move.answer?) {v : Verdict} {x : Waiter}
    (hx : .resumed id v x ∈ h) : v = .ofAnswer a := by
  obtain ⟨b, hb, hv⟩ := hc.verdicts.resumed id v x hx
  have hsame : (id, b) = (id, a) := List.inj_on_of_nodup_map hc.answers_nodup hb ha rfl
  rw [hv, (Prod.mk.inj hsame).2]

/-- What was sent to a cycle is what its renewal has sent. -/
theorem resultsTo_eq (hc : Cycles w h) {id : Ticket} {a : Answer}
    (ha : (id, a) ∈ h.filterMap Move.answer?) :
    w.resultsTo (cycle h id) =
      (resumedBy h id).map fun x => (x.ticket, a.resume x.request) := by
  have hsub := sublist_results fun v x hx => hc.verdict_eq ha hx
  rw [← hc.accounts.results] at hsub
  have hkeys := w.keys_results
  refine filter_eq_of_sublist Prod.fst hsub (hkeys ▸ hc.accounts.nodup_sent) ?_
  intro e he
  have hsent : e.1 ∈ w.sent.map Sending.ticket := hkeys ▸ List.mem_map_of_mem he
  rw [decide_eq_true_iff, hc.parts id, List.map_append, List.mem_append, List.map_map]
  constructor
  · rintro (hin | hin)
    · exact hin
    · obtain ⟨x, hx, hxe⟩ := List.mem_map.mp hin
      exact absurd (hxe ▸ hsent) (hc.accounts.not_sent (owed_of_mem hx))
  · exact .inl

/-- As long as its renewal resumes nobody, nothing is sent to a cycle. -/
theorem resultsTo_of_unresumed (hc : Cycles w h) {id : Ticket} (hnone : resumedBy h id = []) :
    w.resultsTo (cycle h id) = [] := by
  refine List.filter_eq_nil_iff.mpr ?_
  intro e he hin
  rw [decide_eq_true_iff, hc.parts id, hnone, List.nil_append] at hin
  obtain ⟨x, hx, hxe⟩ := List.mem_map.mp hin
  refine hc.accounts.not_sent (owed_of_mem hx) ?_
  obtain ⟨y, hy, rfl⟩ := List.mem_map.mp he
  rw [hxe]
  exact List.mem_map_of_mem hy

/-- Before its renewal is answered nothing is sent to a cycle. -/
theorem resultsTo_unanswered (hc : Cycles w h) {id : Ticket}
    (hnone : ∀ a, (id, a) ∉ h.filterMap Move.answer?) : w.resultsTo (cycle h id) = [] := by
  refine hc.resultsTo_of_unresumed (ofRenewal_of_ne fun e he hid => ?_)
  obtain ⟨m, hm, hresumption⟩ := List.mem_filterMap.mp he
  cases m with
  | resumed i v x =>
    cases hresumption
    obtain ⟨a, ha, _⟩ := hc.verdicts.resumed i v x hm
    exact hnone a (hid ▸ ha)
  | _ => cases hresumption

/-- Nor is anything before its renewal settles. -/
theorem resultsTo_unsettled (hc : Cycles w h) {id : Ticket}
    (hnone : ∀ v ws, .settled id v ws ∉ h) : w.resultsTo (cycle h id) = [] := by
  have htaken : takenBy h id = [] := by
    rw [takenBy, ofRenewal_of_ne, List.flatten_nil]
    intro e he hid
    obtain ⟨m, hm, htaking⟩ := List.mem_filterMap.mp he
    cases m with
    | settled i v ws =>
      cases htaking
      exact hnone v ws (hid ▸ hm)
    | _ => cases htaking
  have hparts := hc.flushes id
  rw [htaken] at hparts
  exact hc.resultsTo_of_unresumed (List.append_eq_nil_iff.mp hparts.symm).1

/-- Who is in a cycle was admitted. -/
theorem exists_admitted {id : Ticket} {x : Waiter} (hx : x ∈ cycle h id) :
    ∃ a, .admitted x a ∈ h := by
  obtain ⟨e, he, hex⟩ := List.mem_filterMap.mp hx
  obtain ⟨m, hm, hjoin⟩ := List.mem_filterMap.mp he
  split at hex
  · cases hex
    unfold Move.join? at hjoin
    split at hjoin
    · cases hjoin
      exact ⟨_, hm⟩
    · cases hjoin
      exact ⟨_, hm⟩
    · cases hjoin
  · cases hex

/-- An admitted request gets itself with a token, or learns why the session has ended. -/
theorem result_of_admitted (hc : Cycles w h) {x : Waiter} {a : Admission} (hx : .admitted x a ∈ h)
    {result : Resumption} (hr : (x.ticket, result) ∈ w.results) :
    (∃ access, result = authorize x.request access) ∨
      ∃ cause, result = .error (.sessionExpired cause) := by
  rw [hc.accounts.results] at hr
  obtain ⟨m, hm, hresult⟩ := List.mem_filterMap.mp hr
  cases m with
  | admitted y b =>
    cases b with
    | retried access =>
      obtain ⟨ht, rfl⟩ := Prod.mk.inj (Option.some.inj hresult)
      obtain ⟨rfl, -⟩ := hc.accounts.admitted_inj hm hx ht
      exact .inl ⟨access, rfl⟩
    | _ => cases hresult
  | dismissed id t =>
    cases hresult
    exact .inr ⟨.noCredential, rfl⟩
  | resumed id v y =>
    obtain ⟨ht, rfl⟩ := Prod.mk.inj (Option.some.inj hresult)
    have hy : y ∈ cycle h id := by
      rw [hc.parts id]
      refine List.mem_append_left _ (List.mem_filterMap.mpr ⟨(id, y), ?_, if_pos rfl⟩)
      exact List.mem_filterMap.mpr ⟨_, hm, rfl⟩
    obtain ⟨b, hadmitted⟩ := exists_admitted hy
    obtain ⟨rfl, -⟩ := hc.accounts.admitted_inj hadmitted hx ht
    cases v with
    | renewed p => exact .inl ⟨p.access, rfl⟩
    | ended cause => exact .inr ⟨cause, rfl⟩
  | _ => cases hresult

/-- A renewal whose task is gone has nobody left, in the queue or out of it. -/
theorem rest_eq_nil {id : Ticket} (hgone : ∀ e ∈ w.tasks, e.1 = id → e.2.isRenewal = false) :
    w.leftBy id ++ w.queuedFor id = [] := by
  have hleft : w.leftBy id = [] := by
    refine List.flatMap_eq_nil_iff.mpr ?_
    intro t ht
    obtain ⟨e, he, het⟩ := List.mem_filterMap.mp ht
    split at het
    next hid =>
      cases het
      have hover := hgone e he hid
      cases htask : e.2 with
      | flush v ws =>
        rw [htask] at hover
        cases hover
      | _ => rfl
    · cases het
  have hqueued : w.queuedFor id = [] := by
    refine if_neg fun hin => ?_
    obtain ⟨e, he, hid⟩ := List.mem_map.mp hin
    obtain ⟨hmem, hunsettled⟩ := List.mem_filter.mp he
    have hover := hgone e hmem hid
    rw [Task.isRenewal, hunsettled] at hover
    cases hover
  rw [hleft, hqueued, List.append_nil]

/-- A renewal that was started and whose task is gone was answered. -/
theorem answered_of_gone (hc : Cycles w h) {id : Ticket}
    (hid : id ∈ (h.filterMap Move.start?).map Prod.fst) (hgone : w.task? id = none) :
    ∃ a, (id, a) ∈ h.filterMap Move.answer? := by
  rw [hc.flight.answered] at hid
  rcases List.mem_append.mp hid with hid | hid
  · obtain ⟨e, he, rfl⟩ := List.mem_map.mp hid
    exact ⟨e.2, he⟩
  · obtain ⟨e, he, rfl⟩ := List.mem_map.mp hid
    have hmem : e ∈ w.tasks := (List.mem_filter.mp (List.mem_filter.mp he).1).1
    have hne := List.lookup_eq_none_iff.mp hgone e hmem
    simp at hne

/-- Who was sent a result does not wait. -/
theorem not_waiting_of_result (hc : Cycles w h) {m : Move} {t : Ticket} {result : Resumption}
    (hm : m ∈ h) (hresult : m.result? = some (t, result)) : t ∉ w.waiting := by
  intro hw
  refine hc.accounts.not_sent (hc.accounts.waiting t hw) ?_
  have hin : (t, result) ∈ w.results := by
    rw [hc.accounts.results]
    exact List.mem_filterMap.mpr ⟨m, hm, hresult⟩
  obtain ⟨e, he, heq⟩ := List.mem_map.mp hin
  exact List.mem_map.mpr ⟨e, he, congrArg Prod.fst heq⟩

/-- Of a cycle nobody waits once its renewal is done. -/
theorem not_waiting_of_cycle (hc : Cycles w h) {id : Ticket}
    (hgone : ∀ e ∈ w.tasks, e.1 = id → e.2.isRenewal = false) {x : Waiter}
    (hx : x ∈ cycle h id) : x.ticket ∉ w.waiting := by
  rw [hc.parts id, rest_eq_nil hgone, List.append_nil] at hx
  obtain ⟨e, he, hex⟩ := List.mem_filterMap.mp hx
  obtain ⟨m, hm, hresumption⟩ := List.mem_filterMap.mp he
  split at hex
  · cases hex
    cases m with
    | resumed i v y =>
      cases hresumption
      exact hc.not_waiting_of_result hm rfl
    | _ => cases hresumption
  · cases hex

/-- Nobody waits who was admitted and not refused, once no renewal has anything left to do. -/
theorem not_waiting (hc : Cycles w h) (hover : ∀ e ∈ w.tasks, e.2.isRenewal = false) {x : Waiter}
    {a : Admission} (hx : .admitted x a ∈ h) (ha : a ≠ .refused) : x.ticket ∉ w.waiting := by
  have hcycle : ∀ id, (Move.admitted x a).join? = some (id, x) → x.ticket ∉ w.waiting := by
    intro id hjoin
    have hin : x ∈ cycle h id :=
      List.mem_filterMap.mpr ⟨(id, x), List.mem_filterMap.mpr ⟨_, hx, hjoin⟩, if_pos rfl⟩
    exact hc.not_waiting_of_cycle (fun e he _ => hover e he) hin
  cases a with
  | queued f =>
    obtain ⟨id, _, rfl⟩ := hc.queues.joined x f hx
    exact hcycle id rfl
  | started id token => exact hcycle id rfl
  | retried access => exact hc.not_waiting_of_result hx rfl
  | refused => exact absurd rfl ha

end Cycles

/-- Every request that joins a renewal is sent one result of that renewal, in the order of admission, whichever
requests are given up; where no renewal is under way nobody waits for one. -/
theorem resumed_exactly_once [KeyValue σ] (s : Store σ) (es : List Event) :
    let w := (new s).run es
    let h := (new s).moves es
    let starts := (h.filterMap Move.start?).map Prod.fst
    let answers := h.filterMap Move.answer?
    (h.filterMap Move.ticket?).Nodup ∧
    (∀ x f, .admitted x (.queued f) ∈ h → ∃ id ∈ starts, f = some id) ∧
    (∀ id, cycle h id = takenBy h id ++ w.queuedFor id) ∧
    (w.sent.map Sending.ticket).Nodup ∧
    (answers.map Prod.fst).Nodup ∧
    (∀ id, (∀ a, (id, a) ∉ answers) → w.resultsTo (cycle h id) = []) ∧
    (∀ id a, (id, a) ∈ answers → ∃ resumed left, cycle h id = resumed ++ left ∧
      w.resultsTo (cycle h id) = resumed.map fun x => (x.ticket, a.resume x.request)) ∧
    (∀ id ∈ starts, w.task? id = none → ∃ a, (id, a) ∈ answers ∧
      w.resultsTo (cycle h id) = (cycle h id).map fun x => (x.ticket, a.resume x.request)) ∧
    (∀ p r, (Answer.pair p).resume r = authorize r p.access) ∧
    (∀ a : Answer, (∀ p, a ≠ .pair p) → ∃ cause, ∀ r, a.resume r = .error (.sessionExpired cause)) ∧
    (∀ (a : Answer) r q, a.resume r = .ok q → (∃ p, a = .pair p) ∧ SameRequest q r) ∧
    (∀ fs : List Event, (fs.filter fun e => !e.isDrop) = (es.filter fun e => !e.isDrop) →
      ((new s).run fs).results = w.results) ∧
    (∀ e ∈ w.sent, e.taken = false → .drop e.ticket ∈ es) ∧
    ((∀ e ∈ w.tasks, e.2.isRenewal = false) →
      ∀ x a, .admitted x a ∈ h → a ≠ .refused → x.ticket ∉ w.waiting) := by
  intro w h starts answers
  have hc : Cycles w h := cycles_run s es
  refine ⟨?_, hc.queues.joined, hc.queues.queued, hc.accounts.nodup_sent, hc.answers_nodup,
    fun id => hc.resultsTo_unanswered, ?_, ?_, fun p r => rfl, fun a => Answer.resume_of_not_pair,
    fun a r q => Answer.resume_eq_ok, fun fs hfs => results_of_drops s hfs, ?_,
    fun hover x a => hc.not_waiting hover⟩
  · exact hc.accounts.ascending.imp fun hlt => Nat.ne_of_lt hlt
  · intro id a ha
    exact ⟨resumedBy h id, w.leftBy id ++ w.queuedFor id, hc.parts id, hc.resultsTo_eq ha⟩
  · intro id hid hgone
    obtain ⟨a, ha⟩ := hc.answered_of_gone hid hgone
    have hall : cycle h id = resumedBy h id := by
      rw [hc.parts id, Cycles.rest_eq_nil, List.append_nil]
      intro e he hide
      have hne := List.lookup_eq_none_iff.mp hgone e he
      simp [hide] at hne
    refine ⟨a, ha, ?_⟩
    rw [hc.resultsTo_eq ha, hall]
  · intro e he hfalse
    exact drop_of_mem_moves (hc.accounts.taken e he hfalse)

end World

end BandCatalog.Renewal
