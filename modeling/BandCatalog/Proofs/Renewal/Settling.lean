import BandCatalog.Proofs.Renewal.Resumption
import BandCatalog.Proofs.Renewal.Rotation

/-!
# Credentials before the gate is idle

A renewal writes, in memory and in the storage, only while the gate is refreshing. Where nobody else puts
tokens into memory, what its renewer answered is there, as a whole, at the step that makes the gate idle
again, and none of its waiters has got a result by then. So whoever finds the gate idle finds what the
last renewal got, or nothing. Storage calls may fail; nothing here depends on what comes of them.
-/
namespace BandCatalog.Renewal

/-- What is in memory once an answer is written. -/
def Answer.tokens : Answer → Tokens
  | pair p => .ofPair p
  | error _ => .none
  | panic => .none

theorem Answer.tokens_eq (a : Answer) : (Verdict.ofAnswer a).write.tokens = a.tokens := by
  cases a <;> rfl

/-- Memory with a refresh token in it is not what a failure leaves. -/
theorem Answer.pair_of_tokens {a : Answer} {token : String} (h : a.tokens.refresh = some token) :
    ∃ p, a = .pair p := by
  cases a with
  | pair p => exact ⟨p, rfl⟩
  | error e => cases h
  | panic => cases h

/-- The last answer of a renewer, and the renewal that it was given to. -/
def lastAnswer (h : List Move) : Option (Ticket × Answer) := (h.filterMap Move.answer?).getLast?

theorem lastAnswer_concat_of_none {m : Move} (h : List Move) (hm : m.answer? = none) :
    lastAnswer (h ++ [m]) = lastAnswer h := by
  simp [lastAnswer, hm]

theorem lastAnswer_concat_of_some {m : Move} {e : Ticket × Answer} (h : List Move)
    (hm : m.answer? = some e) : lastAnswer (h ++ [m]) = some e := by
  simp [lastAnswer, hm]

theorem mem_of_lastAnswer {h : List Move} {e : Ticket × Answer} (he : lastAnswer h = some e) :
    e ∈ h.filterMap Move.answer? :=
  List.mem_of_getLast? he

/-- What a task is like if only the coordinator writes: the answer of a renewal is the last, and a refused request
finds no refresh token in memory. -/
def Task.Suits (gate : Gate) (memory : Tokens) (last : Option (Ticket × Answer)) (id : Ticket) :
    Task → Prop
  | start _ => True
  | ask _ => True
  | write c (.settle v) => c = v.write ∧ ∃ a, last = some (id, a) ∧ v = .ofAnswer a
  | write c (.dismiss _) => c = .forget ∧ gate = .idle ∧ memory.refresh = none
  | write _ .session => False
  | persist _ _ (.settle v) => memory = v.write.tokens ∧ ∃ a, last = some (id, a) ∧ v = .ofAnswer a
  | persist _ _ (.dismiss _) => True
  | persist _ _ .session => False
  | flush _ _ => True

namespace Task.Suits

variable {gate gate' : Gate} {memory memory' : Tokens} {last last' : Option (Ticket × Answer)}
  {id : Ticket} {t : Task}

/-- The gate matters only to a request that is refused. -/
theorem of_held (h : t.Suits gate memory last id) (hheld : ¬ (gate = .idle ∧ memory.refresh = none)) :
    t.Suits gate' memory last id := by
  cases t with
  | write c p =>
    cases p with
    | dismiss u => exact absurd h.2 hheld
    | _ => exact h
  | persist cs result p => cases p <;> exact h
  | _ => trivial

/-- To a renewal that has settled nothing matters. -/
theorem of_settled (h : t.Suits gate memory last id)
    (hheld : ¬ (gate = .idle ∧ memory.refresh = none)) (ht : t.isUnsettled = false) :
    t.Suits gate' memory' last' id := by
  cases t with
  | write c p =>
    cases p with
    | settle v => cases ht
    | dismiss u => exact absurd h.2 hheld
    | session => exact h
  | persist cs result p =>
    cases p with
    | settle v => cases ht
    | _ => exact h
  | _ => trivial

/-- Where no renewal is in flight the memory may be emptied. -/
theorem emptied (h : t.Suits .idle memory last id) (ht : t.isUnsettled = false) :
    t.Suits .idle .none last id := by
  cases t with
  | write c p =>
    cases p with
    | settle v => cases ht
    | dismiss u => exact ⟨h.1, rfl, rfl⟩
    | session => exact h
  | persist cs result p =>
    cases p with
    | settle v => cases ht
    | _ => exact h
  | _ => trivial

end Task.Suits

namespace World

variable {σ : Type}

/-- A coordinator that is the only one to write its store: all of its tasks, and the memory at an idle
gate, go back to the last answer. -/
structure SoleWriter (w : World σ) (h : List Move) : Prop where
  tasks : ∀ e ∈ w.tasks, e.2.Suits w.gate w.store.memory (lastAnswer h) e.1
  idle : w.gate = .idle → ∀ i a, lastAnswer h = some (i, a) →
    w.store.memory = .none ∨ w.store.memory = a.tokens

namespace SoleWriter

variable {w v : World σ} {h : List Move} {m : Move} {l r : List (Ticket × Task)} {id : Ticket}
  {t u : Task}

theorem new (s : Store σ) : SoleWriter (World.new s) [] where
  tasks := by simp [World.new]
  idle := fun _ _ _ hlast => by cases hlast

/-- Moves that leave the gate, the memory and the answers as they are. -/
theorem keep (hs : SoleWriter w h) (hgate : v.gate = w.gate) (hmemory : v.store.memory = w.store.memory)
    (hanswer : m.answer? = none)
    (htasks : ∀ e ∈ v.tasks, e.2.Suits w.gate w.store.memory (lastAnswer h) e.1) :
    SoleWriter v (h ++ [m]) where
  tasks := by
    rw [hgate, hmemory, lastAnswer_concat_of_none h hanswer]
    exact htasks
  idle := by
    rw [hgate, hmemory, lastAnswer_concat_of_none h hanswer]
    exact hs.idle

/-- The gate is refreshing while a renewal is in flight. -/
theorem refreshing (hf : Flight w h) (htasks : w.tasks = l ++ (id, t) :: r)
    (ht : t.isUnsettled = true) : w.gate ≠ .idle := by
  intro hgate
  have hrefreshing := (hf.alone htasks ht).1
  rw [hgate] at hrefreshing
  cases hrefreshing

/-- Beside the renewal in flight nothing depends on the gate, the memory or the answers. -/
theorem others (hf : Flight w h) (hs : SoleWriter w h) (htasks : w.tasks = l ++ (id, t) :: r)
    (ht : t.isUnsettled = true) {gate : Gate} {memory : Tokens}
    {last : Option (Ticket × Answer)} (hu : u.Suits gate memory last id) :
    ∀ e ∈ l ++ (id, u) :: r, e.2.Suits gate memory last e.1 := by
  obtain ⟨-, -, hl, hr⟩ := hf.alone htasks ht
  have hheld : ¬ (w.gate = .idle ∧ w.store.memory.refresh = none) :=
    fun hidle => refreshing hf htasks ht hidle.1
  have hother : ∀ e ∈ l ++ r, e.2.Suits gate memory last e.1 := by
    intro e he
    have hno : (l ++ r).filter (fun e => e.2.isUnsettled) = [] := by
      rw [List.filter_append, hl, hr, List.append_nil]
    refine (forall_ended hs.tasks htasks e he).of_settled hheld ?_
    simpa using List.filter_eq_nil_iff.mp hno e he
  intro e he
  rcases List.mem_append.mp he with he | he
  · exact hother e (List.mem_append_left _ he)
  · rcases List.mem_cons.mp he with rfl | he
    · exact hu
    · exact hother e (List.mem_append_right _ he)

/-- A renewal starts with a refresh token, so nobody has been refused. -/
theorem start (hs : SoleWriter w h) {x : Waiter} {token : String}
    (hheld : w.store.memory.refresh = some token) (hgate : v.gate = .refreshing [x])
    (hmemory : v.store.memory = w.store.memory) (htasks : v.tasks = w.tasks ++ [(id, .start token)]) :
    SoleWriter v (h ++ [.admitted x (.started id token)]) where
  tasks := by
    rw [hmemory, lastAnswer_concat_of_none h rfl, htasks]
    refine forall_spawned (fun e he => (hs.tasks e he).of_held ?_) trivial
    rw [hheld]
    exact fun hnone => nomatch hnone.2
  idle := by simp [hgate]

/-- The renewer answers. -/
theorem answer (hf : Flight w h) (hs : SoleWriter w h) {token : String} {a : Answer}
    (htasks : w.tasks = l ++ (id, .ask token) :: r) (hgate : v.gate = w.gate)
    (hv : v.tasks =
      l ++ (id, .write (Verdict.ofAnswer a).write (.settle (.ofAnswer a))) :: r) :
    SoleWriter v (h ++ [.answered id a]) where
  tasks := by
    rw [lastAnswer_concat_of_some h rfl, hv]
    exact others hf hs htasks rfl ⟨rfl, a, rfl, rfl⟩
  idle := by
    intro hidle
    rw [hgate] at hidle
    exact absurd hidle (refreshing hf htasks rfl)

/-- A renewal writes what it got, and a refused request writes nothing over nothing. -/
theorem write (hf : Flight w h) (hs : SoleWriter w h) {c : Write} {p : Purpose}
    (htasks : w.tasks = l ++ (id, .write c p) :: r) (hgate : v.gate = w.gate)
    (hmemory : v.store.memory = c.tokens)
    (hv : v.tasks = l ++ (id, .persist c.calls (.ok ()) p) :: r) :
    SoleWriter v (h ++ [.wrote id c p]) := by
  have hsuits : (Task.write c p).Suits w.gate w.store.memory (lastAnswer h) id :=
    forall_held hs.tasks htasks
  cases p with
  | settle verdict =>
    obtain ⟨rfl, hlast⟩ := hsuits
    constructor
    · rw [lastAnswer_concat_of_none h rfl, hv, hmemory]
      exact others hf hs htasks rfl ⟨rfl, hlast⟩
    · rw [hgate]
      exact fun hidle => absurd hidle (refreshing hf htasks rfl)
  | dismiss t =>
    obtain ⟨rfl, hidle, -⟩ := hsuits
    have hnone : (w.tasks.filter fun e => e.2.isUnsettled) = [] := hf.idle (by rw [hidle]; rfl)
    have hempty : ∀ e ∈ w.tasks, e.2.Suits .idle .none (lastAnswer h) e.1 := by
      intro e he
      refine Task.Suits.emptied (hidle ▸ hs.tasks e he) ?_
      simpa using List.filter_eq_nil_iff.mp hnone e he
    constructor
    · rw [lastAnswer_concat_of_none h rfl, hv, hgate, hmemory, hidle]
      exact forall_moved hempty htasks trivial
    · exact fun _ _ _ _ => .inl hmemory
  | session => exact hsuits.elim

/-- What the renewal in flight got is in memory when it settles. -/
theorem settle (hf : Flight w h) (hs : SoleWriter w h) {result : Except StoreError Unit}
    {verdict : Verdict} {ws : List Waiter}
    (htasks : w.tasks = l ++ (id, .persist [] result (.settle verdict)) :: r)
    (hmemory : v.store.memory = w.store.memory) (hv : v.tasks = l ++ (id, .flush verdict ws) :: r) :
    SoleWriter v (h ++ [.settled id verdict ws]) := by
  have hsuits : (Task.persist [] result (.settle verdict)).Suits w.gate w.store.memory
      (lastAnswer h) id := forall_held hs.tasks htasks
  obtain ⟨hwritten, a, hlast, rfl⟩ := hsuits
  constructor
  · rw [hv]
    exact others hf hs htasks rfl trivial
  · intro _ i b hb
    rw [lastAnswer_concat_of_none h rfl, hlast] at hb
    obtain ⟨rfl, rfl⟩ := Prod.mk.inj (Option.some.inj hb)
    exact .inr (by rw [hmemory, hwritten, Answer.tokens_eq])

theorem takes [KeyValue σ] (hf : Flight w h) (hs : SoleWriter w h) (ht : Takes w m v)
    (hbegun : ∀ c, m ≠ .begun c) : SoleWriter v (h ++ [m]) := by
  cases ht with
  | queue p gate =>
    constructor
    · rw [lastAnswer_concat_of_none h rfl]
      refine fun e he => (hs.tasks e he).of_held ?_
      rw [gate]
      exact fun hidle => nomatch hidle.1
    · exact fun hidle => nomatch hidle
  | start gate sent held => exact hs.start held rfl rfl rfl
  | retry gate sent held => exact hs.keep rfl rfl rfl hs.tasks
  | refuse gate sent held =>
    exact hs.keep rfl rfl rfl (forall_spawned hs.tasks ⟨rfl, gate, held⟩)
  | drop t => exact hs.keep rfl rfl rfl hs.tasks
  | begin c => exact absurd rfl (hbegun c)
  | call tasks => exact hs.keep rfl rfl rfl (forall_moved hs.tasks tasks trivial)
  | answer a tasks => exact answer hf hs tasks rfl rfl
  | write tasks => exact write hf hs tasks rfl rfl rfl
  | @store l r id c cs left result after p tasks next =>
    have hsuits : (Task.persist (c :: cs) result p).Suits w.gate w.store.memory (lastAnswer h) id :=
      forall_held hs.tasks tasks
    refine hs.keep rfl rfl rfl (forall_moved hs.tasks tasks ?_)
    cases p <;> exact hsuits
  | settle tasks => exact settle hf hs tasks rfl rfl
  | dismiss tasks => exact hs.keep rfl rfl rfl (forall_ended hs.tasks tasks)
  | conclude tasks => exact hs.keep rfl rfl rfl (forall_ended hs.tasks tasks)
  | resume tasks => exact hs.keep rfl rfl rfl (forall_moved hs.tasks tasks trivial)
  | close tasks => exact hs.keep rfl rfl rfl (forall_ended hs.tasks tasks)
  | redirect tasks => exact hs.keep rfl rfl rfl (forall_ended hs.tasks tasks)
  | stay => exact hs.keep rfl rfl rfl hs.tasks

end SoleWriter

/-- Without logins and logouts the coordinator is the only one to write. -/
theorem soleWriter_run [KeyValue σ] (s : Store σ) (es : List Event) :
    (∀ c, .begun c ∉ (new s).moves es) → SoleWriter ((new s).run es) ((new s).moves es) := by
  suffices h : Flight ((new s).run es) ((new s).moves es) ∧
      ((∀ c, .begun c ∉ (new s).moves es) → SoleWriter ((new s).run es) ((new s).moves es)) from h.2
  refine run_induction (P := fun w h => Flight w h ∧ ((∀ c, .begun c ∉ h) → SoleWriter w h)) s
    ⟨Flight.new s, fun _ => SoleWriter.new s⟩ ?_ es
  rintro w h m v _ ⟨hf, hs⟩ ht
  refine ⟨hf.takes ht, fun hnone => ?_⟩
  refine (hs fun c hin => hnone c (List.mem_append_left _ hin)).takes hf ht ?_
  rintro c rfl
  exact hnone c (by simp)

/-- Only a renewal that settles makes the gate idle. -/
theorem Takes.settled_of_idle [KeyValue σ] {w v : World σ} {m : Move} (ht : Takes w m v)
    (hw : w.gate.isRefreshing = true) (hv : v.gate = .idle) :
    ∃ id verdict, m = .settled id verdict w.gate.waiters := by
  have hgate : w.gate ≠ .idle := by
    intro hidle
    rw [hidle] at hw
    cases hw
  cases ht with
  | settle tasks => exact ⟨_, _, rfl⟩
  | queue p gate => cases hv
  | start gate sent held => exact absurd gate hgate
  | _ => exact absurd hv hgate

/-- A task that has not settled finds the gate refreshing. -/
theorem Flight.refreshing_of_mem {w : World σ} {h : List Move} (hf : Flight w h) {id : Ticket}
    {t : Task} (ht : (id, t) ∈ w.tasks) (hunsettled : t.isUnsettled = true) :
    w.gate.isRefreshing = true := by
  obtain ⟨l, r, htasks⟩ := List.append_of_mem ht
  exact (hf.alone htasks hunsettled).1

/-- At an idle gate, after a renewal, there is what the last one got, or nothing. -/
theorem SoleWriter.pair_of_held {w : World σ} {h : List Move} (hf : Flight w h) (hs : SoleWriter w h)
    (hgate : w.gate = .idle) {e : Ticket × String} (he : e ∈ h.filterMap Move.start?)
    {token : String} (hheld : w.store.memory.refresh = some token) :
    ∃ i p, lastAnswer h = some (i, .pair p) ∧ w.store.memory = .ofPair p := by
  have hanswered := hf.answered
  rw [hf.idle (by rw [hgate]; rfl), List.filter_nil, List.map_nil, List.append_nil] at hanswered
  cases hlast : lastAnswer h with
  | none =>
    rw [List.getLast?_eq_none_iff.mp hlast, List.map_nil, List.map_eq_nil_iff] at hanswered
    rw [hanswered] at he
    exact absurd he List.not_mem_nil
  | some last =>
    obtain ⟨i, a⟩ := last
    rcases hs.idle hgate i a hlast with hnone | hmemory
    · rw [hnone] at hheld
      cases hheld
    · rw [hmemory] at hheld
      obtain ⟨p, rfl⟩ := a.pair_of_tokens hheld
      exact ⟨i, p, rfl, hmemory⟩

/-- Where no login or logout writes, a renewal writes only while the gate is refreshing, and what is in memory when
the gate becomes idle is its pair or nothing. -/
theorem settled_before_idle [KeyValue σ] (s : Store σ) (es : List Event)
    (hsole : ∀ c, .begin c ∉ es) (e : Event) :
    let w := (new s).run es
    let h := (new s).moves es
    (∀ id c v, w.move e = .wrote id c (.settle v) → w.gate.isRefreshing = true) ∧
    (∀ id report v, w.move e = .stored id report (.settle v) → w.gate.isRefreshing = true) ∧
    (w.gate.isRefreshing = true → (w.step e).gate = .idle →
      ∃ id a, w.move e = .settled id (.ofAnswer a) w.gate.waiters ∧
        (id, a) ∈ h.filterMap Move.answer? ∧ (w.step e).store.memory = a.tokens) ∧
    (∀ id, (∀ v ws, .settled id v ws ∉ h) → w.resultsTo (cycle h id) = []) ∧
    (w.gate = .idle → ∀ start ∈ h.filterMap Move.start?,
      w.store.memory.refresh = some start.2 →
        ∃ i p, lastAnswer h = some (i, .pair p) ∧ w.store.memory = .ofPair p) := by
  intro w h
  have hc : Cycles w h := cycles_run s es
  have hf : Flight w h := hc.flight
  have hs : SoleWriter w h := soleWriter_run s es fun c hin => hsole c (begin_of_mem_moves hin)
  refine ⟨?_, ?_, ?_, fun id => hc.resultsTo_unsettled, ?_⟩
  · intro id c v hm
    exact hf.refreshing_of_mem (mem_of_wrote hc.numbered hm).1 rfl
  · intro id report v hm
    obtain ⟨c, cs, result, hmem, -⟩ := mem_of_stored hc.numbered hm
    exact hf.refreshing_of_mem hmem rfl
  · intro hw hv
    obtain ⟨id, verdict, hm⟩ := (takes_step hc.numbered e).settled_of_idle hw hv
    obtain ⟨⟨result, hmem⟩, -, -, hstore⟩ := mem_of_settled hc.numbered hm
    obtain ⟨hmemory, a, hlast, rfl⟩ := hs.tasks _ hmem
    exact ⟨id, a, hm, mem_of_lastAnswer hlast, by rw [hstore, hmemory, a.tokens_eq]⟩
  · intro hgate start hstart hheld
    exact hs.pair_of_held hf hgate hstart hheld

/-- A renewal that the renewer gave up, up to the step at which it settles. -/
def failingRenewal : List Event :=
  let r : Http.Request := ⟨"GET", ⟨"http", none, .segments [], none, none⟩, [], .empty⟩
  [.arrive ⟨r, some "A1"⟩, .advance 1, .answer 1 .panic, .advance 1, .advance 1, .advance 1]

theorem failure_settled_before_idle :
    (∀ c, .begin c ∉ failingRenewal) ∧
      ((new loggedIn).run failingRenewal).gate.isRefreshing = true ∧
      (((new loggedIn).run failingRenewal).step (.advance 1)).gate = .idle ∧
      (((new loggedIn).run failingRenewal).step (.advance 1)).store.memory = .none := by
  have hsole : ∀ c, .begin c ∉ failingRenewal := by simp [failingRenewal]
  obtain ⟨-, -, hidle, -, -⟩ := settled_before_idle loggedIn failingRenewal hsole (.advance 1)
  obtain ⟨id, a, -, ha, hmemory⟩ := hidle rfl rfl
  have hanswer : (id, a) = (1, .panic) := List.mem_singleton.mp ha
  obtain ⟨rfl, rfl⟩ := Prod.mk.inj hanswer
  exact ⟨hsole, rfl, rfl, hmemory⟩

end World

end BandCatalog.Renewal
