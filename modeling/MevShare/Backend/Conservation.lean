import MevShare.Backend.Limits
import MevShare.Backend.Ticket

/-!
# No request is lost

An accepted request is queued, in flight, cleared away or reported on: it is in
exactly one of these conditions, and in it exactly once.

The proof is an equation on the ledger.  For every test `P` of bundles, the
requests passing `P` that are queued, in flight, cleared or reported on are as
many as those that were accepted (`Ledger.Balanced`).  Each move shifts one
request from one summand to another, so this is one line of arithmetic for each
move.  Read for the test "has the ticket `k`", of which at most one is ever
accepted, the equation says that the five summands are zero but for one, which is
one.

That the request *found* in that place is the one that was accepted is the second
invariant (`Ledger.Genuine`): every request in the ledger is an accepted one up
to its retry count, and every report is about an accepted one and has its
response or error from a simulation that was given this very bundle.
-/

namespace MevShare
namespace Backend

open Rpc Rust Draw Machine Relation

variable {B : Type} {cfg : BundleSimulatorServiceConfig}

/-- A request for a bundle that passes the test. -/
def SimulationRequest.about (P : B → Bool) (r : SimulationRequest B) : Bool := P r.request

/-- A report on a bundle that passes the test. -/
def SimulationEvent.about (P : B → Bool) (e : SimulationEvent B) : Bool :=
  e.subject.any fun x => P x.1

theorem SimulationEvent.about_of_subject {P : B → Bool} {e : SimulationEvent B}
    {r : SimulationRequest B} (h : e.subject = some r.job) : e.about P = r.about P := by
  rw [about, h]
  rfl

/-! ## The balance -/

namespace Ledger

/-- The queued requests about `P`. -/
def queuedCount (P : B → Bool) (l : Ledger B) : ℕ :=
  (l.queue .high).countP (SimulationRequest.about P) +
    (l.queue .normal).countP (SimulationRequest.about P)

/-- All that is known of the requests about `P`. -/
def tally (P : B → Bool) (l : Ledger B) : ℕ :=
  l.queuedCount P + l.inFlight.countP (fun f => f.1.about P) +
    l.cleared.countP (SimulationRequest.about P) + l.left.countP (SimulationEvent.about P)

/-- Every accepted request is accounted for, whatever the test. -/
def Balanced (l : Ledger B) : Prop :=
  ∀ P, l.tally P = l.accepted.countP (SimulationRequest.about P)

/-- Where one was accepted, one is found. -/
theorem Balanced.placed {l : Ledger B} (h : l.Balanced) {P : B → Bool}
    (hpos : 0 < l.accepted.countP (SimulationRequest.about P)) :
    (∃ p, ∃ r ∈ l.queue p, r.about P = true) ∨ (∃ f ∈ l.inFlight, f.1.about P = true) ∨
      (∃ r ∈ l.cleared, r.about P = true) ∨ ∃ e ∈ l.left, e.about P = true := by
  by_contra hno
  simp only [not_or, not_exists, not_and] at hno
  obtain ⟨hq, hf, hc, he⟩ := hno
  have hhigh : (l.queue .high).countP (SimulationRequest.about P) = 0 :=
    List.countP_eq_zero.mpr (hq .high)
  have hnormal : (l.queue .normal).countP (SimulationRequest.about P) = 0 :=
    List.countP_eq_zero.mpr (hq .normal)
  have hflight : l.inFlight.countP (fun f => f.1.about P) = 0 := List.countP_eq_zero.mpr hf
  have hcleared : l.cleared.countP (SimulationRequest.about P) = 0 := List.countP_eq_zero.mpr hc
  have hevents : l.left.countP (SimulationEvent.about P) = 0 := List.countP_eq_zero.mpr he
  have htally := h P
  unfold tally queuedCount at htally
  omega

theorem Balanced.empty : (Ledger.empty : Ledger B).Balanced := fun _ => rfl

theorem queuedCount_setQueue (P : B → Bool) (l : Ledger B) (p : SimulationPriority)
    (q : List (SimulationRequest B)) :
    (l.setQueue p q).queuedCount P + (l.queue p).countP (SimulationRequest.about P) =
      l.queuedCount P + q.countP (SimulationRequest.about P) := by
  unfold queuedCount
  cases p
  · rw [setQueue_queue_self, setQueue_queue_of_ne l q (by decide)]
    omega
  · rw [setQueue_queue_self, setQueue_queue_of_ne l q (by decide)]
    omega

/-- **Every move keeps the balance.** -/
theorem Balanced.move {l l' : Ledger B} (h : l.Balanced) (hm : Move cfg l l') : l'.Balanced := by
  intro P
  have hl := h P
  unfold tally at hl ⊢
  cases hm with
  | @accept r hroom =>
    have hq := queuedCount_setQueue P l r.priority (l.queue r.priority ++ [r])
    show (l.setQueue r.priority _).queuedCount P + _ + _ + _ =
      (l.accepted ++ [r]).countP (SimulationRequest.about P)
    rw [List.countP_append] at hq ⊢
    show (l.setQueue r.priority _).queuedCount P +
      l.inFlight.countP (fun f => f.1.about P) + l.cleared.countP (SimulationRequest.about P) +
        l.left.countP (SimulationEvent.about P) = _
    omega
  | clear =>
    show 0 + l.inFlight.countP (fun f => f.1.about P) +
      (l.cleared ++ (l.queue .high ++ l.queue .normal)).countP (SimulationRequest.about P) +
        l.left.countP (SimulationEvent.about P) =
          l.accepted.countP (SimulationRequest.about P)
    unfold queuedCount at hl
    rw [List.countP_append, List.countP_append]
    omega
  | @expire p pre post r nextBlock hq =>
    have hset := queuedCount_setQueue P l p (pre ++ post)
    show (l.setQueue p (pre ++ post)).queuedCount P + l.inFlight.countP (fun f => f.1.about P) +
      l.cleared.countP (SimulationRequest.about P) +
        (l.left ++ [BundleSimulatorService.outdatedEvent nextBlock r]).countP
          (SimulationEvent.about P) = l.accepted.countP (SimulationRequest.about P)
    have habout : (BundleSimulatorService.outdatedEvent nextBlock r).about P = r.about P :=
      SimulationEvent.about_of_subject rfl
    rw [hq, List.countP_append, List.countP_append, List.countP_cons] at hset
    rw [List.countP_append, List.countP_singleton, habout]
    omega
  | @start p pre post r hq hcap =>
    have hset := queuedCount_setQueue P l p (pre ++ post)
    show (l.setQueue p (pre ++ post)).queuedCount P +
      (l.inFlight ++ [(r, l.calls.length)]).countP (fun f => f.1.about P) +
        l.cleared.countP (SimulationRequest.about P) + l.left.countP (SimulationEvent.about P) =
          l.accepted.countP (SimulationRequest.about P)
    rw [hq, List.countP_append, List.countP_append, List.countP_cons] at hset
    simp only [List.countP_append, List.countP_singleton]
    omega
  | @finish pre post r id out e hf he =>
    show l.queuedCount P + (pre ++ post).countP (fun f => f.1.about P) +
      l.cleared.countP (SimulationRequest.about P) +
        (l.left ++ [e]).countP (SimulationEvent.about P) =
          l.accepted.countP (SimulationRequest.about P)
    have habout : e.about P = r.about P :=
      SimulationEvent.about_of_subject (report_subject he)
    rw [hf] at hl
    simp only [List.countP_append, List.countP_cons, List.countP_nil, habout] at hl ⊢
    omega
  | @requeue pre post r id error hf hr =>
    have hset := queuedCount_setQueue P l r.priority
      (l.queue r.priority ++ [BundleSimulatorService.rescheduled r])
    show (l.setQueue r.priority _).queuedCount P + (pre ++ post).countP (fun f => f.1.about P) +
      l.cleared.countP (SimulationRequest.about P) + l.left.countP (SimulationEvent.about P) =
        l.accepted.countP (SimulationRequest.about P)
    have habout : (BundleSimulatorService.rescheduled r).about P = r.about P := rfl
    rw [List.countP_append, List.countP_singleton, habout] at hset
    rw [hf] at hl
    simp only [List.countP_append, List.countP_cons] at hl ⊢
    omega

/-! ## Growth -/

/-- The records of a ledger are only ever appended to. -/
structure Grows (l l' : Ledger B) : Prop where
  accepted : l.accepted <+: l'.accepted
  calls : l.calls <+: l'.calls
  completed : l.completed <+: l'.completed
  left : l.left <+: l'.left

theorem Grows.refl (l : Ledger B) : l.Grows l :=
  ⟨List.prefix_refl _, List.prefix_refl _, List.prefix_refl _, List.prefix_refl _⟩

theorem Grows.trans {l l' l'' : Ledger B} (h : l.Grows l') (h' : l'.Grows l'') : l.Grows l'' :=
  ⟨h.accepted.trans h'.accepted, h.calls.trans h'.calls, h.completed.trans h'.completed,
    h.left.trans h'.left⟩

theorem Grows.of_move {l l' : Ledger B} (hm : Move cfg l l') : l.Grows l' := by
  have hsame : ∀ {α : Type} (xs : List α), xs <+: xs := fun xs => List.prefix_refl xs
  cases hm with
  | accept => exact ⟨List.prefix_append _ _, hsame _, hsame _, hsame _⟩
  | clear => exact ⟨hsame _, hsame _, hsame _, hsame _⟩
  | expire => exact ⟨hsame _, hsame _, hsame _, List.prefix_append _ _⟩
  | start => exact ⟨hsame _, List.prefix_append _ _, hsame _, hsame _⟩
  | finish => exact ⟨hsame _, hsame _, List.prefix_append _ _, List.prefix_append _ _⟩
  | requeue => exact ⟨hsame _, hsame _, List.prefix_append _ _, hsame _⟩

/-- The records of the service are only ever appended to. -/
theorem exec_grows [Bundle B] {profile : BuildProfile} {s t : BundleSimulatorService B}
    {run : List (Action B)} (h : exec (step profile) s run = .ok t) : s.ledger.Grows t.ledger := by
  obtain ⟨-, hmoves⟩ := BundleSimulatorService.exec_moves rfl h
  generalize t.ledger = l at hmoves
  induction hmoves with
  | refl => exact Grows.refl _
  | tail _ hlast ih => exact ih.trans (Grows.of_move hlast)

/-! ## The numbers of the simulations -/

/-- Every simulation has a number of its own, was given what its request says, and
completes at most once. -/
structure Numbered (l : Ledger B) : Prop where
  inFlight : ∀ f ∈ l.inFlight, l.calls[f.2]? = some f.1.job
  completed : ∀ c ∈ l.completed, c.1 < l.calls.length
  nodup : (l.inFlight.map Prod.snd ++ l.completed.map Prod.fst).Nodup

theorem Numbered.empty : (Ledger.empty : Ledger B).Numbered where
  inFlight := fun f hf => by cases hf
  completed := fun c hc => by cases hc
  nodup := List.nodup_nil

theorem Numbered.lt {l : Ledger B} (h : l.Numbered) {f : SimulationRequest B × ℕ}
    (hf : f ∈ l.inFlight) : f.2 < l.calls.length :=
  (List.getElem?_eq_some_iff.mp (h.inFlight f hf)).1

/-- A simulation completes: its number moves to the completed ones. -/
theorem Numbered.complete {l l' : Ledger B} (h : l.Numbered)
    {pre post : List (SimulationRequest B × ℕ)} {r : SimulationRequest B} {id : ℕ}
    {out : BundleSimulationOutcome} (hf : l.inFlight = pre ++ (r, id) :: post)
    (hflight : l'.inFlight = pre ++ post) (hcalls : l'.calls = l.calls)
    (hcompleted : l'.completed = l.completed ++ [(id, out)]) : l'.Numbered := by
  refine ⟨fun f hmem => ?_, fun c hc => ?_, ?_⟩
  · rw [hcalls]
    refine h.inFlight f ?_
    rw [hflight] at hmem
    exact Search.mem_of_mem_cut hf hmem
  · rw [hcalls]
    rw [hcompleted] at hc
    exact Search.forall_mem_concat h.completed (h.lt (f := (r, id)) (by simp [hf])) c hc
  · have hperm : (l'.inFlight.map Prod.snd ++ l'.completed.map Prod.fst).Perm
        (l.inFlight.map Prod.snd ++ l.completed.map Prod.fst) := by
      rw [hflight, hcompleted, hf, List.perm_iff_count]
      intro n
      simp only [List.map_append, List.map_cons, List.map_nil, List.count_append, List.count_cons,
        List.count_nil]
      omega
    exact hperm.nodup_iff.mpr h.nodup

theorem Numbered.move {l l' : Ledger B} (h : l.Numbered) (hm : Move cfg l l') : l'.Numbered := by
  cases hm with
  | accept => exact ⟨h.inFlight, h.completed, h.nodup⟩
  | clear => exact ⟨h.inFlight, h.completed, h.nodup⟩
  | expire => exact ⟨h.inFlight, h.completed, h.nodup⟩
  | @start p pre post r hq hcap =>
    refine ⟨fun f hmem => ?_, fun c hc => ?_, ?_⟩
    · show (l.calls ++ [r.job])[f.2]? = _
      rcases List.mem_append.mp hmem with hmem | hmem
      · rw [List.getElem?_append_left (h.lt hmem)]
        exact h.inFlight f hmem
      · rw [List.mem_singleton.mp hmem]
        exact List.getElem?_concat_length
    · show c.1 < (l.calls ++ [r.job]).length
      have hlt := h.completed c hc
      rw [List.length_append]
      omega
    · show ((l.inFlight ++ [(r, l.calls.length)]).map Prod.snd ++
        l.completed.map Prod.fst).Nodup
      have hfresh : l.calls.length ∉ l.inFlight.map Prod.snd ++ l.completed.map Prod.fst := by
        intro hmem
        rcases List.mem_append.mp hmem with hmem | hmem
        · obtain ⟨f, hf, hid⟩ := List.mem_map.mp hmem
          have hlt := h.lt hf
          omega
        · obtain ⟨c, hc, hid⟩ := List.mem_map.mp hmem
          have hlt := h.completed c hc
          omega
      have hperm : ((l.inFlight ++ [(r, l.calls.length)]).map Prod.snd ++
          l.completed.map Prod.fst).Perm
            (l.calls.length :: (l.inFlight.map Prod.snd ++ l.completed.map Prod.fst)) := by
        rw [List.perm_iff_count]
        intro n
        simp only [List.map_append, List.map_cons, List.map_nil, List.count_append,
          List.count_cons, List.count_nil]
        omega
      exact hperm.nodup_iff.mpr (List.nodup_cons.mpr ⟨hfresh, h.nodup⟩)
  | finish hf he => exact h.complete hf rfl rfl rfl
  | requeue hf hr => exact h.complete hf rfl rfl rfl

/-! ## What is in the ledger was accepted -/

/-- `r` is an accepted request up to its retry count. -/
def Knows (l : Ledger B) (r : SimulationRequest B) : Prop :=
  ∃ a ∈ l.accepted, r = { a with retries := r.retries }

theorem rescheduled_eq {a r : SimulationRequest B} (h : r = { a with retries := r.retries }) :
    BundleSimulatorService.rescheduled r =
      { a with retries := (BundleSimulatorService.rescheduled r).retries } := by
  rw [h]
  rfl

theorem Knows.mono {l l' : Ledger B} (hg : l.Grows l') {r : SimulationRequest B}
    (h : l.Knows r) : l'.Knows r := by
  obtain ⟨a, ha, hr⟩ := h
  exact ⟨a, hg.accepted.subset ha, hr⟩

end Ledger

/-- The event `e` reports on the request `a`: it carries its bundle and overrides,
and a response or an error is the outcome of a simulation that was given them. -/
def Explains (calls : List (B × SimBundleOverrides))
    (completed : List (ℕ × BundleSimulationOutcome)) (a : SimulationRequest B) :
    SimulationEvent B → Prop
  | .simulatedBundle (.ok bundle) =>
      bundle.request = a.request ∧ bundle.overrides = a.overrides ∧
        ∃ id, calls[id]? = some (a.request, a.overrides) ∧
          (id, BundleSimulationOutcome.success bundle.response) ∈ completed
  | .simulatedBundle (.error err) =>
      err.sim = { a with retries := err.sim.retries } ∧
        ∃ id, calls[id]? = some (a.request, a.overrides) ∧
          (id, BundleSimulationOutcome.fatal err.error) ∈ completed
  | .outdatedRequest request overrides _ => request = a.request ∧ overrides = a.overrides
  | .exceededMaxRetries request overrides => request = a.request ∧ overrides = a.overrides
  | .blockNumberUpdated _ _ => False

theorem Explains.mono {calls calls' : List (B × SimBundleOverrides)}
    {completed completed' : List (ℕ × BundleSimulationOutcome)} (hcalls : calls <+: calls')
    (hcompleted : completed <+: completed') {a : SimulationRequest B} {e : SimulationEvent B}
    (h : Explains calls completed a e) : Explains calls' completed' a e := by
  have hget : ∀ (id : ℕ) (job : B × SimBundleOverrides), calls[id]? = some job →
      calls'[id]? = some job := by
    intro id job hid
    obtain ⟨more, rfl⟩ := hcalls
    obtain ⟨hlt, -⟩ := List.getElem?_eq_some_iff.mp hid
    rw [List.getElem?_append_left hlt, hid]
  cases e with
  | simulatedBundle result =>
    cases result with
    | ok bundle =>
      obtain ⟨hreq, hover, id, hid, hmem⟩ := h
      exact ⟨hreq, hover, id, hget id _ hid, hcompleted.subset hmem⟩
    | error err =>
      obtain ⟨hsim, id, hid, hmem⟩ := h
      exact ⟨hsim, id, hget id _ hid, hcompleted.subset hmem⟩
  | outdatedRequest request overrides nextBlock => exact h
  | exceededMaxRetries request overrides => exact h
  | blockNumberUpdated old current => exact h

/-- What explains an event is what the event is about. -/
theorem Explains.subject {calls : List (B × SimBundleOverrides)}
    {completed : List (ℕ × BundleSimulationOutcome)} {a : SimulationRequest B}
    {e : SimulationEvent B} (h : Explains calls completed a e) : e.subject = some a.job := by
  cases e with
  | simulatedBundle result =>
    cases result with
    | ok bundle =>
      obtain ⟨hreq, hover, -⟩ := h
      rw [SimulationEvent.subject, hreq, hover]
      rfl
    | error err =>
      obtain ⟨hsim, -⟩ := h
      rw [SimulationEvent.subject, hsim]
      rfl
  | outdatedRequest request overrides nextBlock =>
    obtain ⟨hreq, hover⟩ := h
    rw [SimulationEvent.subject, hreq, hover]
    rfl
  | exceededMaxRetries request overrides =>
    obtain ⟨hreq, hover⟩ := h
    rw [SimulationEvent.subject, hreq, hover]
    rfl
  | blockNumberUpdated old current => cases h

/-- The report on an outcome is explained by it. -/
theorem explains_report {calls : List (B × SimBundleOverrides)}
    {completed : List (ℕ × BundleSimulationOutcome)} {a r : SimulationRequest B}
    (hr : r = { a with retries := r.retries }) {maxRetries id : ℕ}
    {out : BundleSimulationOutcome} {e : SimulationEvent B}
    (he : report maxRetries out r = some e) (hcall : calls[id]? = some r.job)
    (hmem : (id, out) ∈ completed) : Explains calls completed a e := by
  have hjob : r.job = (a.request, a.overrides) := by rw [hr]; rfl
  have hreq : r.request = a.request := congrArg Prod.fst hjob
  have hover : r.overrides = a.overrides := congrArg Prod.snd hjob
  rw [hjob] at hcall
  unfold report at he
  cases out with
  | success resp =>
    cases he
    exact ⟨hreq, hover, id, hcall, hmem⟩
  | fatal error =>
    cases he
    exact ⟨hr, id, hcall, hmem⟩
  | reschedule error =>
    by_cases hlt : maxRetries < r.retries + 1
    · rw [if_pos hlt] at he
      cases he
      exact ⟨hreq, hover⟩
    · rw [if_neg hlt] at he
      cases he

namespace Ledger

/-- Nothing in the ledger is made up. -/
structure Genuine (l : Ledger B) : Prop where
  queued : ∀ p, ∀ r ∈ l.queue p, l.Knows r
  inFlight : ∀ f ∈ l.inFlight, l.Knows f.1
  cleared : ∀ r ∈ l.cleared, l.Knows r
  left : ∀ e ∈ l.left, ∃ a ∈ l.accepted, Explains l.calls l.completed a e

theorem Genuine.empty : (Ledger.empty : Ledger B).Genuine where
  queued := fun p r hr => by cases hr
  inFlight := fun f hf => by cases hf
  cleared := fun r hr => by cases hr
  left := fun e he => by cases he

theorem Genuine.move {l l' : Ledger B} (h : l.Genuine) (hn : l.Numbered) (hm : Move cfg l l') :
    l'.Genuine := by
  have hg := Grows.of_move hm
  have hqueued : ∀ p, ∀ r ∈ l.queue p, l'.Knows r := fun p r hr => (h.queued p r hr).mono hg
  have hflight : ∀ f ∈ l.inFlight, l'.Knows f.1 := fun f hf => (h.inFlight f hf).mono hg
  have hcleared : ∀ r ∈ l.cleared, l'.Knows r := fun r hr => (h.cleared r hr).mono hg
  have hleft : ∀ e ∈ l.left, ∃ a ∈ l'.accepted, Explains l'.calls l'.completed a e := by
    intro e he
    obtain ⟨a, ha, hexp⟩ := h.left e he
    exact ⟨a, hg.accepted.subset ha, hexp.mono hg.calls hg.completed⟩
  cases hm with
  | @accept r hroom =>
    have hknown : Knows { l.setQueue r.priority (l.queue r.priority ++ [r]) with
        accepted := l.accepted ++ [r] } r :=
      ⟨r, List.mem_append_right _ List.mem_cons_self, rfl⟩
    exact ⟨forall_setQueue hqueued (Search.forall_mem_concat (hqueued _) hknown), hflight, hcleared,
      hleft⟩
  | clear =>
    have hnone : ∀ p, ∀ r ∈ (fun _ => [] : SimulationPriority → List (SimulationRequest B)) p,
        l.Knows r := by
      intro p r hr
      cases hr
    refine ⟨hnone, hflight, fun r hr => ?_, hleft⟩
    rcases List.mem_append.mp hr with hr | hr
    · exact hcleared r hr
    · rcases List.mem_append.mp hr with hr | hr
      · exact hqueued .high r hr
      · exact hqueued .normal r hr
  | @expire p pre post r nextBlock hq =>
    have hsub : ∀ x ∈ pre ++ post, x ∈ l.queue p := fun x hx => Search.mem_of_mem_cut hq hx
    refine ⟨forall_setQueue hqueued fun x hx => hqueued p x (hsub x hx), hflight, hcleared,
      Search.forall_mem_concat hleft ?_⟩
    obtain ⟨a, ha, hr⟩ := h.queued p r (by simp [hq])
    refine ⟨a, ha, ?_⟩
    rw [hr]
    exact ⟨rfl, rfl⟩
  | @start p pre post r hq hcap =>
    have hsub : ∀ x ∈ pre ++ post, x ∈ l.queue p := fun x hx => Search.mem_of_mem_cut hq hx
    exact ⟨forall_setQueue hqueued fun x hx => hqueued p x (hsub x hx),
      Search.forall_mem_concat hflight (hqueued p r (by simp [hq])), hcleared, hleft⟩
  | @finish pre post r id out e hf he =>
    have hsub : ∀ x ∈ pre ++ post, x ∈ l.inFlight := fun x hx => Search.mem_of_mem_cut hf hx
    have hmem : (r, id) ∈ l.inFlight := by simp [hf]
    refine ⟨hqueued, fun f hf => hflight f (hsub f hf), hcleared,
      Search.forall_mem_concat hleft ?_⟩
    obtain ⟨a, ha, hr⟩ := h.inFlight (r, id) hmem
    exact ⟨a, ha, explains_report hr he (hn.inFlight (r, id) hmem) (by simp)⟩
  | @requeue pre post r id error hf hr =>
    have hsub : ∀ x ∈ pre ++ post, x ∈ l.inFlight := fun x hx => Search.mem_of_mem_cut hf hx
    obtain ⟨a, ha, hra⟩ := h.inFlight (r, id) (by simp [hf])
    exact ⟨forall_setQueue hqueued
        (Search.forall_mem_concat (hqueued _) ⟨a, ha, rescheduled_eq hra⟩),
      fun f hf => hflight f (hsub f hf), hcleared, hleft⟩

end Ledger

/-! ## The service -/

def SimulationPriority.other : SimulationPriority → SimulationPriority
  | .high => .normal
  | .normal => .high

/-- How often a ticket is met in each of the places it can be. -/
structure Census where
  ownQueue : ℕ
  otherQueue : ℕ
  inFlight : ℕ
  cleared : ℕ
  /-- The events that report on it. -/
  reported : ℕ
  deriving DecidableEq, Repr

namespace BundleSimulatorService

/-- The census of the ticket `k`, submitted with priority `p`. -/
def census (s : BundleSimulatorService (Ticketed B)) (k : ℕ) (p : SimulationPriority) : Census where
  ownQueue := (s.queue p).countP fun r => hasTicket k r.request
  otherQueue := (s.queue p.other).countP fun r => hasTicket k r.request
  inFlight := s.simulations.countP fun sim => sim.inner.any fun r => hasTicket k r.request
  cleared := s.world.cleared.countP fun r => hasTicket k r.request
  reported := s.world.emitted.countP fun e => e.subject.any fun x => hasTicket k x.1

/-- Wherever the ticket of the accepted request `a` is met, it is met on `a`
itself, up to the retry count; a simulation in flight was given its bundle; and
the events with the ticket report on `a`. -/
structure Faithful (s : BundleSimulatorService (Ticketed B)) (a : SimulationRequest (Ticketed B)) :
    Prop where
  queued : ∀ p, ∀ r ∈ s.queue p, r.request.ticket = a.request.ticket →
    r = { a with retries := r.retries }
  inFlight : ∀ sim ∈ s.simulations, ∀ r, sim.inner = some r →
    r.request.ticket = a.request.ticket →
      r = { a with retries := r.retries } ∧
        s.world.simulateCalls[sim.sim]? = some (a.request, a.overrides)
  cleared : ∀ r ∈ s.world.cleared, r.request.ticket = a.request.ticket →
    r = { a with retries := r.retries }
  reported : ∀ e ∈ s.world.emitted, ∀ x, e.subject = some x →
    x.1.ticket = a.request.ticket → Explains s.world.simulateCalls s.world.completed a e

/-- What is proved of the ledger of every reachable state. -/
structure Audited (cfg : BundleSimulatorServiceConfig) (l : Ledger B) : Prop where
  bounded : l.Bounded cfg
  balanced : l.Balanced
  numbered : l.Numbered
  genuine : l.Genuine

theorem exec_audited [Bundle B] {profile : BuildProfile} {n : U64} {run : List (Action B)}
    {s : BundleSimulatorService B} (h : exec (step profile) (new n cfg) run = .ok s) :
    Audited cfg s.ledger := by
  refine exec_ledger_invariant ⟨.empty, .empty, .empty, .empty⟩ (fun l l' hl hm => ?_) h
  exact ⟨hl.bounded.move hm, hl.balanced.move hm, hl.numbered.move hm,
    hl.genuine.move hl.numbered hm⟩

/-- The census adds up to the number of acceptances. -/
theorem census_sum {s : BundleSimulatorService (Ticketed B)} (h : s.ledger.Balanced) (k : ℕ)
    (p : SimulationPriority) :
    (s.census k p).ownQueue + (s.census k p).otherQueue + (s.census k p).inFlight +
        (s.census k p).cleared + (s.census k p).reported =
      s.ledger.accepted.countP fun r => hasTicket k r.request := by
  have htally := h (hasTicket k)
  have hflight : s.ledger.inFlight.countP (fun f => f.1.about (hasTicket k)) =
      (s.census k p).inFlight := by
    show (s.simulations.filterMap Simulation.entry).countP _ = _
    rw [List.countP_filterMap]
    refine List.countP_congr fun sim _ => ?_
    obtain ⟨id, inner⟩ := sim
    cases inner <;> simp [Simulation.entry, SimulationRequest.about]
  have hleft : s.ledger.left.countP (SimulationEvent.about (hasTicket k)) =
      (s.census k p).reported := by
    show (s.world.emitted.filter SimulationEvent.isTerminal).countP _ = _
    rw [List.countP_filter]
    refine List.countP_congr fun e _ => ?_
    unfold SimulationEvent.about SimulationEvent.isTerminal
    cases e.subject <;> simp
  have hqueued : s.ledger.queuedCount (hasTicket k) =
      (s.census k p).ownQueue + (s.census k p).otherQueue := by
    cases p
    · exact Nat.add_comm _ _
    · rfl
  have hcleared : s.ledger.cleared.countP (SimulationRequest.about (hasTicket k)) =
      (s.census k p).cleared := rfl
  unfold Ledger.tally at htally
  rw [hflight, hleft, hqueued, hcleared] at htally
  exact htally

/-- The accepted request with a ticket is the only one. -/
theorem eq_of_ticket [Bundle B] {profile : BuildProfile} {n : U64} {run : List (Action B)}
    {s : BundleSimulatorService (Ticketed B)}
    (h : exec (step profile) (new n cfg) (ticketed 0 run) = .ok s)
    {a b : SimulationRequest (Ticketed B)} (ha : a ∈ s.ledger.accepted)
    (hb : b ∈ s.ledger.accepted) (hab : b.request.ticket = a.request.ticket) : b = a := by
  refine Search.eq_of_countP_le_one (countP_accepted_le_one h a.request.ticket) hb ha ?_ ?_
  · simpa [hasTicket] using hab
  · simp [hasTicket]

/-- The ledger knows no request with the ticket of `a` but `a`. -/
theorem knows_ticket [Bundle B] {profile : BuildProfile} {n : U64} {run : List (Action B)}
    {s : BundleSimulatorService (Ticketed B)}
    (h : exec (step profile) (new n cfg) (ticketed 0 run) = .ok s)
    {a r : SimulationRequest (Ticketed B)} (ha : a ∈ s.ledger.accepted) (hr : s.ledger.Knows r)
    (hticket : r.request.ticket = a.request.ticket) : r = { a with retries := r.retries } := by
  obtain ⟨b, hb, hrb⟩ := hr
  have hba : b = a := by
    refine eq_of_ticket h ha hb ?_
    rw [← hticket, hrb]
  rw [hba] at hrb
  exact hrb

theorem faithful_of_accepted [Bundle B] {profile : BuildProfile} {n : U64} {run : List (Action B)}
    {s : BundleSimulatorService (Ticketed B)}
    (h : exec (step profile) (new n cfg) (ticketed 0 run) = .ok s)
    {a : SimulationRequest (Ticketed B)} (ha : a ∈ s.ledger.accepted) : s.Faithful a := by
  have haudit := exec_audited h
  refine ⟨fun p r hr => knows_ticket h ha (haudit.genuine.queued p r hr),
    fun sim hsim r hr htic => ?_, fun r hr => knows_ticket h ha (haudit.genuine.cleared r hr),
    fun e he x hx htic => ?_⟩
  · have hmem : (r, sim.sim) ∈ s.ledger.inFlight := by
      refine List.mem_filterMap.mpr ⟨sim, hsim, ?_⟩
      rw [Simulation.entry, hr]
      rfl
    have hra : r = { a with retries := r.retries } :=
      knows_ticket h ha (haudit.genuine.inFlight _ hmem) htic
    refine ⟨hra, ?_⟩
    have hcall : s.world.simulateCalls[sim.sim]? = some r.job :=
      haudit.numbered.inFlight _ hmem
    rw [hcall, hra]
    rfl
  · have hmem : e ∈ s.ledger.left := by
      refine List.mem_filter.mpr ⟨he, ?_⟩
      rw [SimulationEvent.isTerminal, hx]
      rfl
    obtain ⟨b, hb, hexp⟩ := haudit.genuine.left e hmem
    have hsubject := hexp.subject
    rw [hx, Option.some.injEq] at hsubject
    have hba : b = a := by
      refine eq_of_ticket h ha hb ?_
      rw [← htic, hsubject]
      rfl
    rw [hba] at hexp
    exact hexp

/-- The queue of the other priority does not have it. -/
theorem otherQueue_eq_zero [Bundle B] {profile : BuildProfile} {n : U64} {run : List (Action B)}
    {s : BundleSimulatorService (Ticketed B)}
    (h : exec (step profile) (new n cfg) (ticketed 0 run) = .ok s)
    {a : SimulationRequest (Ticketed B)} (ha : a ∈ s.ledger.accepted) :
    (s.census a.request.ticket a.priority).otherQueue = 0 := by
  refine List.countP_eq_zero.mpr fun r hr htic => ?_
  have htic' : r.request.ticket = a.request.ticket := by simpa [hasTicket] using htic
  have hra := (faithful_of_accepted h ha).queued _ r hr htic'
  have hhome : r.priority = a.priority.other := (exec_audited h).bounded.home _ r hr
  rw [hra] at hhome
  cases hp : a.priority <;> rw [hp] at hhome <;> cases hhome

/-- **Conservation of accepted requests.**  A run of the service is a run on
tickets, read without them.  After it, the ticket of every request that was
answered with `Ok` is met exactly once: in the queue of the request's own
priority, on a simulation in flight, among the cleared requests, or on a terminal
event.  Wherever it is met, it is met on the request that was submitted with it. -/
theorem conservation [Bundle B] {profile : BuildProfile} {n : U64} {run : List (Action B)}
    {s : BundleSimulatorService B} (h : exec (step profile) (new n cfg) run = .ok s) :
    ∃ s' : BundleSimulatorService (Ticketed B),
      exec (step profile) (new n cfg) (ticketed 0 run) = .ok s' ∧
      s'.map Ticketed.bundle = s ∧
      ∀ ans ∈ s'.world.answers, ans.result = .ok () →
        run[ans.request.request.ticket]? =
            some (.message (.addSimulation (ans.request.map Ticketed.bundle) ans.tx)) ∧
          (s'.census ans.request.request.ticket ans.request.priority = ⟨1, 0, 0, 0, 0⟩ ∨
            s'.census ans.request.request.ticket ans.request.priority = ⟨0, 0, 1, 0, 0⟩ ∨
            s'.census ans.request.request.ticket ans.request.priority = ⟨0, 0, 0, 1, 0⟩ ∨
            s'.census ans.request.request.ticket ans.request.priority = ⟨0, 0, 0, 0, 1⟩) ∧
          s'.Faithful ans.request := by
  obtain ⟨s', hs', hmap⟩ := exec_ticketed h
  refine ⟨s', hs', hmap, fun ans hans hok => ?_⟩
  have haccepted : ans.request ∈ s'.ledger.accepted := mem_accepted.mpr ⟨ans, hans, hok, rfl⟩
  have hsubmitted : (ans.request, ans.tx) ∈ (ticketed 0 run).filterMap Action.submission := by
    rw [← exec_answeredSubmissions hs']
    exact List.mem_map.mpr ⟨ans, hans, rfl⟩
  refine ⟨(submission_ticketed hsubmitted).2, ?_, faithful_of_accepted hs' haccepted⟩
  have hsum := census_sum (exec_audited hs').balanced ans.request.request.ticket
    ans.request.priority
  have hother := otherQueue_eq_zero hs' haccepted
  have hle := countP_accepted_le_one hs' ans.request.request.ticket
  have hpos : 0 < s'.ledger.accepted.countP
      fun r => hasTicket ans.request.request.ticket r.request :=
    Search.countP_pos_of_mem haccepted (by simp [hasTicket])
  rcases hcensus : s'.census ans.request.request.ticket ans.request.priority with ⟨o, x, f, c, e⟩
  rw [hcensus] at hsum hother
  simp only [Census.mk.injEq] at hsum hother ⊢
  omega

theorem conservation_overshootRun :
    ∃ s, exec (step ⟨true⟩) (new 7 tightConfig) overshootRun = .ok s ∧
      ∃ s' : BundleSimulatorService (Ticketed SendBundleRequest),
        exec (step ⟨true⟩) (new 7 tightConfig) (ticketed 0 overshootRun) = .ok s' ∧
          s'.map Ticketed.bundle = s := by
  obtain ⟨s, hs⟩ := overshootRun_ok
  obtain ⟨s', hs', hmap, -⟩ := conservation hs
  exact ⟨s, hs, s', hs', hmap⟩

end BundleSimulatorService
end Backend
end MevShare
