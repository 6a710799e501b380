import Mathlib.Data.List.Nodup
import BandCatalog.Proofs.Renewal.SingleFlight
import BandCatalog.Storage.Memory

/-!
# Rotation of refresh tokens

A refresh token that was given to a renewal stays in memory only until that renewal writes its outcome,
which it does before it settles; so the next renewal finds another one, if every pair that is written has
a refresh token of its own. Where only renewals write, each of them is given the refresh token that the
one before it got, and after one that failed there is no other.
-/
namespace BandCatalog.Renewal

/-- The refresh token that a write puts into memory. -/
def Mark.written? : Mark → Option String
  | remembered tokens _ => tokens.refresh
  | _ => none

/-- The refresh token that a renewal got. -/
def Answer.refresh? : Answer → Option String
  | pair p => some p.refresh
  | error _ => none
  | panic => none

/-- The write of an answer puts its refresh token into memory. -/
theorem Answer.refresh?_eq (a : Answer) : (Verdict.ofAnswer a).write.tokens.refresh = a.refresh? := by
  cases a <;> rfl

namespace Task

/-- Renewals that have not written their outcome. -/
def isUnwritten : Task → Bool
  | start _ => true
  | ask _ => true
  | write _ p => p.isRenewal
  | persist _ _ _ => false
  | flush _ _ => false

/-- A renewal that has not written has not settled. -/
theorem isUnsettled_of_isUnwritten {t : Task} (h : t.isUnwritten = true) : t.isUnsettled = true := by
  cases t with
  | start token => rfl
  | ask token => rfl
  | write c p => exact h
  | persist cs result p => cases h
  | flush v ws => cases h

/-- What a task may write if only renewals put tokens into memory: a renewal what it got last, and a
request that found no refresh token nothing. -/
def Fits (last : Option String) : Task → Prop
  | write c (.settle _) => c.tokens.refresh = last
  | write c (.dismiss _) => c = .forget
  | write _ .session => False
  | _ => True

/-- What was got last matters only to the renewal in flight. -/
theorem Fits.of_settled {t : Task} {last next : Option String} (h : t.Fits last)
    (ht : t.isUnsettled = false) : t.Fits next := by
  cases t with
  | start token => cases ht
  | ask token => cases ht
  | write c p =>
    cases p with
    | settle v => cases ht
    | dismiss t => exact h
    | session => exact h
  | persist cs result p => trivial
  | flush v ws => trivial

end Task

namespace World

variable {σ : Type}

/-- The refresh tokens that were written, in order. -/
def written (w : World σ) : List String := w.trace.reverse.filterMap Mark.written?

/-- A renewal is under way that has not written its outcome. -/
def Spending (w : World σ) : Prop := ∃ e ∈ w.tasks, e.2.isUnwritten = true

namespace Spending

variable {w v : World σ} {l r : List (Ticket × Task)} {id : Ticket} {t u : Task}

theorem same (h : w.Spending) (hv : v.tasks = w.tasks) : v.Spending := by
  rwa [Spending, hv]

theorem spawned (h : w.Spending) (hv : v.tasks = w.tasks ++ [(id, t)]) : v.Spending := by
  obtain ⟨e, he, hunwritten⟩ := h
  exact ⟨e, by rw [hv]; exact List.mem_append_left _ he, hunwritten⟩

theorem moved (h : w.Spending) (htasks : w.tasks = l ++ (id, t) :: r)
    (hv : v.tasks = l ++ (id, u) :: r) (hu : t.isUnwritten = true → u.isUnwritten = true) :
    v.Spending := by
  obtain ⟨e, he, hunwritten⟩ := h
  rw [htasks, List.mem_append, List.mem_cons] at he
  rcases he with he | rfl | he
  · exact ⟨e, by rw [hv]; exact List.mem_append_left _ he, hunwritten⟩
  · exact ⟨(id, u), by rw [hv]; simp, hu hunwritten⟩
  · exact ⟨e, by rw [hv]; exact List.mem_append_right _ (List.mem_cons_of_mem _ he), hunwritten⟩

theorem ended (h : w.Spending) (htasks : w.tasks = l ++ (id, t) :: r) (hv : v.tasks = l ++ r)
    (ht : t.isUnwritten = false) : v.Spending := by
  obtain ⟨e, he, hunwritten⟩ := h
  rw [htasks, List.mem_append, List.mem_cons] at he
  rcases he with he | rfl | he
  · exact ⟨e, by rw [hv]; exact List.mem_append_left _ he, hunwritten⟩
  · exact absurd (ht.symm.trans hunwritten) (by decide)
  · exact ⟨e, by rw [hv]; exact List.mem_append_right _ he, hunwritten⟩

/-- Where the gate is idle nothing is being spent. -/
theorem not_idle {h : List Move} (hf : Flight w h) (hgate : w.gate = .idle) : ¬ w.Spending := by
  rintro ⟨e, he, hunwritten⟩
  have hmem : e ∈ w.renewing :=
    List.mem_filter.mpr ⟨he, Task.isUnsettled_of_isUnwritten hunwritten⟩
  rw [hf.idle (by rw [hgate]; rfl)] at hmem
  exact List.not_mem_nil hmem

end Spending

/-- Moves that leave the refresh tokens as they are: none is written, and none is given to a renewal. -/
theorem keeps_tokens [KeyValue σ] {w v : World σ} {m : Move} (ht : Takes w m v)
    (hstart : m.start? = none) (hwrite : ∀ id c p, m ≠ .wrote id c p) :
    v.store.memory = w.store.memory ∧ v.written = w.written ∧ (w.Spending → v.Spending) := by
  cases ht with
  | queue p gate => exact ⟨rfl, rfl, fun h => h.same rfl⟩
  | start gate sent held => cases hstart
  | retry gate sent held => exact ⟨rfl, by simp [written, Mark.written?], fun h => h.same rfl⟩
  | refuse gate sent held => exact ⟨rfl, rfl, fun h => h.spawned rfl⟩
  | drop t => exact ⟨rfl, rfl, fun h => h.same rfl⟩
  | begin c => exact ⟨rfl, rfl, fun h => h.spawned rfl⟩
  | call tasks =>
    exact ⟨rfl, by simp [written, Mark.written?], fun h => h.moved tasks rfl fun _ => rfl⟩
  | answer a tasks => exact ⟨rfl, rfl, fun h => h.moved tasks rfl fun _ => rfl⟩
  | write tasks => exact absurd rfl (hwrite _ _ _)
  | store tasks next =>
    exact ⟨rfl, by simp [written, Mark.written?], fun h => h.moved tasks rfl fun h => h⟩
  | settle tasks => exact ⟨rfl, rfl, fun h => h.moved tasks rfl fun h => h⟩
  | dismiss tasks =>
    exact ⟨rfl, by simp [written, List.filterMap_cons, Mark.written?], fun h => h.ended tasks rfl rfl⟩
  | conclude tasks =>
    exact ⟨rfl, by simp [written, Mark.written?], fun h => h.ended tasks rfl rfl⟩
  | resume tasks =>
    exact ⟨rfl, by simp [written, Mark.written?], fun h => h.moved tasks rfl fun h => h⟩
  | close tasks => exact ⟨rfl, rfl, fun h => h.ended tasks rfl rfl⟩
  | redirect tasks =>
    exact ⟨rfl, by simp [written, Mark.written?], fun h => h.ended tasks rfl rfl⟩
  | stay => exact ⟨rfl, rfl, fun h => h⟩

/-- The refresh tokens given to renewals are different ones out of those that were there, and one that is
still in memory is being spent. -/
structure Spent (given : List String) (w : World σ) (h : List Move) : Prop where
  memory : ∀ token, w.store.memory.refresh = some token → token ∈ given ++ w.written
  subset : ∀ token ∈ (h.filterMap Move.start?).map Prod.snd, token ∈ given ++ w.written
  distinct : ((h.filterMap Move.start?).map Prod.snd).Nodup
  spent : ∀ token ∈ (h.filterMap Move.start?).map Prod.snd,
    w.store.memory.refresh = some token → w.Spending

namespace Spent

variable {given : List String} {w v : World σ} {h : List Move} {m : Move}

theorem new (s : Store σ) : Spent s.memory.refresh.toList (World.new s) [] where
  memory := by
    intro token htoken
    change s.memory.refresh = some token at htoken
    simp [htoken]
  subset := by simp
  distinct := by simp
  spent := by simp

theorem keep (hs : Spent given w h) (hstart : m.start? = none)
    (hmemory : v.store.memory = w.store.memory) (hwritten : v.written = w.written)
    (hspending : w.Spending → v.Spending) : Spent given v (h ++ [m]) where
  memory := by rw [hmemory, hwritten]; exact hs.memory
  subset := by simpa [hstart, hwritten] using hs.subset
  distinct := by simpa [hstart] using hs.distinct
  spent := by
    intro token htoken hheld
    rw [hmemory] at hheld
    exact hspending (hs.spent token (by simpa [hstart] using htoken) hheld)

/-- A renewal is given a token that no other was given. -/
theorem start (hf : Flight w h) (hs : Spent given w h) {x : Waiter} {id : Ticket} {token : String}
    (hgate : w.gate = .idle) (hheld : w.store.memory.refresh = some token)
    (hmemory : v.store.memory = w.store.memory) (hwritten : v.written = w.written)
    (hv : v.tasks = w.tasks ++ [(id, .start token)]) :
    Spent given v (h ++ [.admitted x (.started id token)]) := by
  have hstarts : ((h ++ [Move.admitted x (.started id token)]).filterMap Move.start?).map Prod.snd =
      (h.filterMap Move.start?).map Prod.snd ++ [token] := by
    simp [Move.start?]
  have hnew : token ∉ (h.filterMap Move.start?).map Prod.snd :=
    fun hin => Spending.not_idle hf hgate (hs.spent token hin hheld)
  constructor
  · rw [hmemory, hwritten]
    exact hs.memory
  · intro t ht
    rw [hstarts, List.mem_append, List.mem_singleton] at ht
    rw [hwritten]
    rcases ht with ht | rfl
    · exact hs.subset t ht
    · exact hs.memory t hheld
  · rw [hstarts, List.nodup_append]
    refine ⟨hs.distinct, List.nodup_singleton _, ?_⟩
    intro a ha b hb hab
    rw [hab, List.mem_singleton.mp hb] at ha
    exact hnew ha
  · intro t _ _
    exact ⟨(id, .start token), by rw [hv]; simp, rfl⟩

/-- A token that is written was not given to anybody before. -/
theorem write (hs : Spent given w h) {id : Ticket} {c : Write} {p : Purpose}
    (hmemory : v.store.memory = c.tokens)
    (hwritten : v.written = w.written ++ c.tokens.refresh.toList)
    (hnodup : (given ++ v.written).Nodup) : Spent given v (h ++ [.wrote id c p]) := by
  have hstarts : (h ++ [Move.wrote id c p]).filterMap Move.start? = h.filterMap Move.start? := by
    simp [Move.start?]
  constructor
  · intro token htoken
    rw [hmemory] at htoken
    simp [hwritten, htoken]
  · intro token htoken
    rw [hstarts] at htoken
    rw [hwritten, ← List.append_assoc]
    exact List.mem_append_left _ (hs.subset token htoken)
  · rw [hstarts]
    exact hs.distinct
  · intro token htoken hheld
    rw [hstarts] at htoken
    rw [hmemory] at hheld
    rw [hwritten, hheld, ← List.append_assoc] at hnodup
    exact absurd rfl ((List.nodup_append.mp hnodup).2.2 token (hs.subset token htoken) token
      (by simp))

theorem takes [KeyValue σ] (hf : Flight w h) (hs : Spent given w h) (ht : Takes w m v)
    (hnodup : (given ++ v.written).Nodup) : Spent given v (h ++ [m]) := by
  cases hm : m.start? with
  | some e =>
    cases ht with
    | start gate sent held => exact start hf hs gate held rfl rfl rfl
    | _ => cases hm
  | none =>
    by_cases hwrite : ∃ id c p, m = .wrote id c p
    · obtain ⟨id, c, p, rfl⟩ := hwrite
      cases ht with
      | write tasks => exact hs.write rfl (by simp [written, Mark.written?]) hnodup
    · obtain ⟨hmemory, hwritten, hspending⟩ :=
        keeps_tokens ht hm fun id c p h => hwrite ⟨id, c, p, h⟩
      exact hs.keep hm hmemory hwritten hspending

end Spent

/-- The trace only grows. -/
theorem Takes.trace_suffix [KeyValue σ] {w v : World σ} {m : Move} (ht : Takes w m v) :
    w.trace <:+ v.trace := by
  cases ht with
  | dismiss tasks => exact ⟨[_, _], rfl⟩
  | retry gate sent held => exact List.suffix_cons _ _
  | call tasks => exact List.suffix_cons _ _
  | write tasks => exact List.suffix_cons _ _
  | store tasks next => exact List.suffix_cons _ _
  | conclude tasks => exact List.suffix_cons _ _
  | resume tasks => exact List.suffix_cons _ _
  | redirect tasks => exact List.suffix_cons _ _
  | _ => exact List.suffix_refl _

theorem Takes.written_prefix [KeyValue σ] {w v : World σ} {m : Move} (ht : Takes w m v) :
    w.written <+: v.written :=
  (List.reverse_prefix.mpr ht.trace_suffix).filterMap _

/-- The tokens given to renewals are different if those written are. -/
theorem spent_run [KeyValue σ] (s : Store σ) (es : List Event) :
    (s.memory.refresh.toList ++ ((new s).run es).written).Nodup →
      Spent s.memory.refresh.toList ((new s).run es) ((new s).moves es) := by
  let given := s.memory.refresh.toList
  suffices h : Flight ((new s).run es) ((new s).moves es) ∧
      ((given ++ ((new s).run es).written).Nodup →
        Spent given ((new s).run es) ((new s).moves es)) from h.2
  refine run_induction (P := fun w h => Flight w h ∧ ((given ++ w.written).Nodup → Spent given w h))
    s ⟨Flight.new s, fun _ => Spent.new s⟩ ?_ es
  rintro w h m v _ ⟨hf, hs⟩ ht
  refine ⟨hf.takes ht, fun hnodup => ?_⟩
  have hbefore : (given ++ w.written).Nodup :=
    ((List.prefix_append_right_inj given).mpr ht.written_prefix).sublist.nodup hnodup
  exact (hs hbefore).takes hf ht hnodup

/-- The refresh tokens that were there for renewals in turn, if only renewals write: the first one,
and what each answer has brought. -/
def offered (first : Option String) (h : List Move) : List (Option String) :=
  first :: (h.filterMap Move.answer?).map fun e => e.2.refresh?

/-- The last of them. -/
def latest (first : Option String) (h : List Move) : Option String :=
  (offered first h).getLast (List.cons_ne_nil _ _)

theorem offered_concat (first : Option String) (h : List Move) (m : Move) :
    offered first (h ++ [m]) =
      offered first h ++ m.answer?.toList.map fun e => e.2.refresh? := by
  simp [offered]

theorem latest_concat_of_none {m : Move} (first : Option String) (h : List Move)
    (hm : m.answer? = none) : latest first (h ++ [m]) = latest first h := by
  simp [latest, offered_concat, hm]

theorem latest_concat_of_some {m : Move} {id : Ticket} {a : Answer} (first : Option String)
    (h : List Move) (hm : m.answer? = some (id, a)) : latest first (h ++ [m]) = a.refresh? := by
  simp [latest, offered_concat, hm]

/-- Each renewal is given the token that was offered last, which is in memory unless the renewal that it
was given to has not written yet. -/
structure Chain (first : Option String) (w : World σ) (h : List Move) : Prop where
  given : ((h.filterMap Move.start?).map fun e => some e.2) <+: offered first h
  memory : w.Spending ∨ w.store.memory.refresh = none ∨
    w.store.memory.refresh = latest first h
  tasks : ∀ e ∈ w.tasks, e.2.Fits (latest first h)

namespace Chain

variable {first : Option String} {w v : World σ} {h : List Move} {m : Move}

theorem new (s : Store σ) : Chain s.memory.refresh (World.new s) [] where
  given := List.nil_prefix
  memory := .inr (.inr rfl)
  tasks := by simp [World.new]

/-- Moves that give no token to a renewal and get none. -/
theorem keep (hc : Chain first w h) (hstart : m.start? = none) (hanswer : m.answer? = none)
    (hmemory : v.store.memory = w.store.memory) (hspending : w.Spending → v.Spending)
    (htasks : ∀ e ∈ v.tasks, e.2.Fits (latest first h)) : Chain first v (h ++ [m]) where
  given := by simpa [hstart, hanswer, offered_concat] using hc.given
  memory := by
    rw [latest_concat_of_none first h hanswer, hmemory]
    exact hc.memory.imp_left hspending
  tasks := by
    rw [latest_concat_of_none first h hanswer]
    exact htasks

/-- A renewal starts with what was offered last, and uses it up. -/
theorem start (hf : Flight w h) (hc : Chain first w h) {x : Waiter} {id : Ticket} {token : String}
    (hgate : w.gate = .idle) (hheld : w.store.memory.refresh = some token)
    (hv : v.tasks = w.tasks ++ [(id, .start token)]) :
    Chain first v (h ++ [.admitted x (.started id token)]) := by
  have hnone := hf.idle (by rw [hgate]; rfl)
  have hlatest : latest first h = some token := by
    rcases hc.memory with hspending | hempty | hlatest
    · exact absurd hspending (Spending.not_idle hf hgate)
    · exact absurd (hempty.symm.trans hheld) (by simp)
    · rw [← hlatest, hheld]
  -- as many renewals were answered as were started, so one offer is left
  have hcount : (h.filterMap Move.start?).length = (h.filterMap Move.answer?).length := by
    have hanswered := congrArg List.length hf.answered
    simpa [hnone] using hanswered
  obtain ⟨rest, hrest⟩ := hc.given
  have hlength := congrArg List.length hrest
  simp only [offered, List.length_append, List.length_cons, List.length_map, hcount] at hlength
  obtain ⟨last, rfl⟩ := List.length_eq_one_iff.mp (show rest.length = 1 by omega)
  have hlast : last = some token := by
    rw [← hlatest, latest]
    simp [← hrest]
  constructor
  · rw [offered_concat, ← hrest, hlast]
    simp [Move.start?, Move.answer?]
  · exact .inl ⟨(id, .start token), by rw [hv]; simp, rfl⟩
  · rw [latest_concat_of_none first h rfl, hv]
    exact forall_spawned hc.tasks trivial

/-- What a renewal got is what it is going to write. -/
theorem answer (hf : Flight w h) (hc : Chain first w h) {l r : List (Ticket × Task)} {id : Ticket}
    {token : String} {a : Answer} (htasks : w.tasks = l ++ (id, .ask token) :: r)
    (hv : v.tasks =
      l ++ (id, .write (Verdict.ofAnswer a).write (.settle (.ofAnswer a))) :: r) :
    Chain first v (h ++ [.answered id a]) := by
  obtain ⟨_, _, hl, hr⟩ := hf.alone htasks rfl
  constructor
  · rw [offered_concat]
    simpa [Move.start?] using hc.given.trans (List.prefix_append _ _)
  · exact .inl ⟨_, by rw [hv]; exact List.mem_append_right _ List.mem_cons_self, rfl⟩
  · rw [latest_concat_of_some first h rfl, hv]
    have hsettled : ∀ e ∈ l ++ r, e.2.Fits a.refresh? := by
      intro e he
      have hno : (l ++ r).filter (fun e => e.2.isUnsettled) = [] := by
        rw [List.filter_append, hl, hr, List.append_nil]
      refine (forall_ended hc.tasks htasks e he).of_settled ?_
      simpa using List.filter_eq_nil_iff.mp hno e he
    intro e he
    rcases List.mem_append.mp he with he | he
    · exact hsettled e (List.mem_append_left _ he)
    · rcases List.mem_cons.mp he with rfl | he
      · exact a.refresh?_eq
      · exact hsettled e (List.mem_append_right _ he)

/-- A write puts what was offered last into memory, or nothing. -/
theorem write (hc : Chain first w h) {l r : List (Ticket × Task)} {id : Ticket} {c : Write}
    {p : Purpose} (htasks : w.tasks = l ++ (id, .write c p) :: r)
    (hmemory : v.store.memory = c.tokens)
    (hv : v.tasks = l ++ (id, .persist c.calls (.ok ()) p) :: r) :
    Chain first v (h ++ [.wrote id c p]) := by
  have hfits : (Task.write c p).Fits (latest first h) := forall_held hc.tasks htasks
  constructor
  · simpa [Move.start?, Move.answer?, offered_concat] using hc.given
  · rw [latest_concat_of_none first h rfl, hmemory]
    cases p with
    | settle v => exact .inr (.inr hfits)
    | dismiss t =>
      have hforget : c = .forget := hfits
      exact .inr (.inl (by rw [hforget]; rfl))
    | session => exact hfits.elim
  · rw [latest_concat_of_none first h rfl, hv]
    exact forall_moved hc.tasks htasks trivial

theorem takes [KeyValue σ] (hf : Flight w h) (hc : Chain first w h) (ht : Takes w m v)
    (hbegun : ∀ c, m ≠ .begun c) : Chain first v (h ++ [m]) := by
  cases ht with
  | queue p gate => exact hc.keep rfl rfl rfl (fun h => h.same rfl) hc.tasks
  | start gate sent held => exact start hf hc gate held rfl
  | retry gate sent held => exact hc.keep rfl rfl rfl (fun h => h.same rfl) hc.tasks
  | refuse gate sent held =>
    exact hc.keep rfl rfl rfl (fun h => h.spawned rfl) (forall_spawned hc.tasks rfl)
  | drop t => exact hc.keep rfl rfl rfl (fun h => h.same rfl) hc.tasks
  | begin c => exact absurd rfl (hbegun c)
  | call tasks =>
    exact hc.keep rfl rfl rfl (fun h => h.moved tasks rfl fun _ => rfl)
      (forall_moved hc.tasks tasks trivial)
  | answer a tasks => exact answer hf hc tasks rfl
  | write tasks => exact hc.write tasks rfl rfl
  | store tasks next =>
    exact hc.keep rfl rfl rfl (fun h => h.moved tasks rfl fun h => h)
      (forall_moved hc.tasks tasks trivial)
  | settle tasks =>
    exact hc.keep rfl rfl rfl (fun h => h.moved tasks rfl fun h => h)
      (forall_moved hc.tasks tasks trivial)
  | dismiss tasks =>
    exact hc.keep rfl rfl rfl (fun h => h.ended tasks rfl rfl) (forall_ended hc.tasks tasks)
  | conclude tasks =>
    exact hc.keep rfl rfl rfl (fun h => h.ended tasks rfl rfl) (forall_ended hc.tasks tasks)
  | resume tasks =>
    exact hc.keep rfl rfl rfl (fun h => h.moved tasks rfl fun h => h)
      (forall_moved hc.tasks tasks trivial)
  | close tasks =>
    exact hc.keep rfl rfl rfl (fun h => h.ended tasks rfl rfl) (forall_ended hc.tasks tasks)
  | redirect tasks =>
    exact hc.keep rfl rfl rfl (fun h => h.ended tasks rfl rfl) (forall_ended hc.tasks tasks)
  | stay => exact hc.keep rfl rfl rfl (fun h => h) hc.tasks

end Chain

/-- Without logins and logouts the renewals of a run form a chain. -/
theorem chain_run [KeyValue σ] (s : Store σ) (es : List Event) :
    (∀ c, .begun c ∉ (new s).moves es) →
      Chain s.memory.refresh ((new s).run es) ((new s).moves es) := by
  suffices h : Flight ((new s).run es) ((new s).moves es) ∧
      ((∀ c, .begun c ∉ (new s).moves es) →
        Chain s.memory.refresh ((new s).run es) ((new s).moves es)) from h.2
  refine run_induction
    (P := fun w h => Flight w h ∧ ((∀ c, .begun c ∉ h) → Chain s.memory.refresh w h))
    s ⟨Flight.new s, fun _ => Chain.new s⟩ ?_ es
  rintro w h m v _ ⟨hf, hc⟩ ht
  refine ⟨hf.takes ht, fun hnone => ?_⟩
  refine (hc fun c hin => hnone c (List.mem_append_left _ hin)).takes hf ht ?_
  rintro c rfl
  exact hnone c (by simp)

/-- A renewal that called the renewer did so with the token that it was given. -/
theorem Flight.start_of_asked {w : World σ} {h : List Move} (hf : Flight w h) {k : Nat}
    {token : String} (hk : w.asked[k]? = some token) :
    ∃ id, (h.filterMap Move.start?)[k]? = some (id, token) := by
  rw [hf.asked, List.getElem?_map, Option.map_eq_some_iff] at hk
  obtain ⟨⟨id, _⟩, hcall, rfl⟩ := hk
  refine ⟨id, ?_⟩
  obtain ⟨hlt, _⟩ := List.getElem?_eq_some_iff.mp hcall
  rw [hf.called, List.getElem?_append_left hlt, hcall]

/-- The token that a renewal was given was offered in its turn. -/
theorem Chain.offered_of_start {first : Option String} {w : World σ} {h : List Move}
    (hc : Chain first w h) {k : Nat} {e : Ticket × String}
    (hk : (h.filterMap Move.start?)[k]? = some e) : (offered first h)[k]? = some (some e.2) := by
  obtain ⟨rest, hrest⟩ := hc.given
  obtain ⟨hlt, _⟩ := List.getElem?_eq_some_iff.mp hk
  rw [← hrest, List.getElem?_append_left (by simpa using hlt), List.getElem?_map, hk]
  rfl

/-- After an answer without a token there is no other renewal. -/
theorem Chain.last_of_failure {first : Option String} {w : World σ} {h : List Move}
    (hf : Flight w h) (hc : Chain first w h) {k : Nat} {id : Ticket} {a : Answer}
    (hk : (h.filterMap Move.answer?)[k]? = some (id, a)) (ha : ∀ p, a ≠ .pair p) :
    w.renewals = k + 1 := by
  have hnone : a.refresh? = none := by
    cases a with
    | pair p => exact absurd rfl (ha p)
    | error e => rfl
    | panic => rfl
  obtain ⟨hlt, _⟩ := List.getElem?_eq_some_iff.mp hk
  have hanswered := congrArg List.length hf.answered
  simp only [List.length_map, List.length_append] at hanswered
  have hno : (h.filterMap Move.start?)[k + 1]? = none := by
    cases hstart : (h.filterMap Move.start?)[k + 1]? with
    | none => rfl
    | some e =>
      have hoffered := hc.offered_of_start hstart
      rw [offered, List.getElem?_cons_succ, List.getElem?_map, hk] at hoffered
      simp [hnone] at hoffered
  rw [hf.count]
  have hle := List.getElem?_eq_none_iff.mp hno
  omega

/-- The renewer never gets a refresh token twice if none is written twice, and where only renewals write each gets the
token of the one before it. -/
theorem refresh_token_used_once [KeyValue σ] (s : Store σ) (es : List Event) :
    let w := (new s).run es
    let h := (new s).moves es
    let starts := h.filterMap Move.start?
    let answers := h.filterMap Move.answer?
    ((s.memory.refresh.toList ++ w.written).Nodup → w.asked.Nodup) ∧
    ((∀ c, .begin c ∉ es) →
      answers.map Prod.fst <+: starts.map Prod.fst ∧
      (∀ token, w.asked[0]? = some token → s.memory.refresh = some token) ∧
      (∀ k token, w.asked[k + 1]? = some token →
        ∃ id p, answers[k]? = some (id, .pair p) ∧ token = p.refresh) ∧
      ∀ k id a, answers[k]? = some (id, a) → (∀ p, a ≠ .pair p) → w.renewals = k + 1) := by
  intro w h starts answers
  have hf : Flight w h := flight_run s es
  constructor
  · intro hnodup
    have hdistinct := (spent_run s es hnodup).distinct
    change ((h.filterMap Move.start?).map Prod.snd).Nodup at hdistinct
    rw [hf.called, List.map_append] at hdistinct
    rw [hf.asked]
    exact (List.nodup_append.mp hdistinct).1
  · intro hnone
    have hc : Chain s.memory.refresh w h :=
      chain_run s es fun c hin => hnone c (begin_of_mem_moves hin)
    refine ⟨?_, ?_, ?_, fun k id a => hc.last_of_failure hf⟩
    · change (h.filterMap Move.answer?).map Prod.fst <+: (h.filterMap Move.start?).map Prod.fst
      rw [hf.answered]
      exact List.prefix_append _ _
    · intro token hk
      obtain ⟨id, hstart⟩ := hf.start_of_asked hk
      exact Option.some.inj (hc.offered_of_start hstart)
    · intro k token hk
      obtain ⟨id, hstart⟩ := hf.start_of_asked hk
      have hoffered := hc.offered_of_start hstart
      rw [offered, List.getElem?_cons_succ, List.getElem?_map, Option.map_eq_some_iff] at hoffered
      obtain ⟨⟨i, a⟩, hanswer, hrefresh⟩ := hoffered
      cases a with
      | pair p => exact ⟨i, p, hanswer, (Option.some.inj hrefresh).symm⟩
      | error e => cases hrefresh
      | panic => cases hrefresh

/-- A store in which somebody is logged in. -/
def loggedIn : Store TextMap := ⟨.empty, .ofPair ⟨"A1", "R1"⟩⟩

/-- Two renewals in turn, the second of which fails. -/
def twoRenewals : List Event :=
  let r : Http.Request := ⟨"GET", ⟨"http", none, .segments [], none, none⟩, [], .empty⟩
  [.arrive ⟨r, some "A1"⟩, .advance 1, .answer 1 (.pair ⟨"A2", "R2"⟩)] ++
    List.replicate 6 (.advance 1) ++ [.arrive ⟨r, some "A2"⟩, .advance 3, .answer 3 .panic]

theorem two_refresh_tokens_used_once :
    ((new loggedIn).run twoRenewals).written = ["R2"] ∧
      ((new loggedIn).run twoRenewals).asked = ["R1", "R2"] ∧
      ((new loggedIn).run twoRenewals).asked.Nodup ∧
      ((new loggedIn).run twoRenewals).renewals = 2 := by
  obtain ⟨hdistinct, hrenewals⟩ := refresh_token_used_once loggedIn twoRenewals
  obtain ⟨-, -, -, hlast⟩ := hrenewals (by simp [twoRenewals])
  exact ⟨rfl, rfl, hdistinct (by decide), hlast 1 3 .panic rfl fun p h => by cases h⟩

end World

end BandCatalog.Renewal
