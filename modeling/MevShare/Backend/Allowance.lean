import Mathlib.Algebra.Order.BigOperators.Group.List
import Mathlib.Algebra.Order.Group.Nat
import MevShare.Backend.Conservation
import MevShare.Backend.Ticket

/-!
# The allowance of the requests

There is no delay before a rescheduled request can be started again, so an iteration
of `poll` may put back into the queues all that it has taken out of them.  What gets
less is the number of times the simulator can still be called.

A request can be started `max_retries + 1 - retries` times.  A queued request has all
of this before it; a request in flight has used one of it, and if it is rescheduled
its new retry count says so.  The sum over the ledger is its `allowance`.  It falls
with every call of the simulator and grows only by what is accepted
(`Ledger.calls_le_of_moves`, `BundleSimulatorService.step_calls_le`).

The subtraction must not be cut off at zero, so all of this needs that no retry count
exceeds the maximum (`Ledger.WithinRetries`).
-/

namespace MevShare
namespace Backend

open Rpc Rust Draw Machine Relation

variable {B : Type} {cfg : BundleSimulatorServiceConfig}

/-! ## What a request can still cost -/

/-- How often the simulator can be called for a request from here on. -/
def BundleSimulatorServiceConfig.budget (cfg : BundleSimulatorServiceConfig)
    (r : SimulationRequest B) : ℕ :=
  cfg.maxRetries + 1 - r.retries

def BundleSimulatorServiceConfig.budgets (cfg : BundleSimulatorServiceConfig)
    (rs : List (SimulationRequest B)) : ℕ :=
  (rs.map cfg.budget).sum

@[simp] theorem budgets_nil : cfg.budgets ([] : List (SimulationRequest B)) = 0 := rfl

@[simp] theorem budgets_cons (r : SimulationRequest B) (rs : List (SimulationRequest B)) :
    cfg.budgets (r :: rs) = cfg.budget r + cfg.budgets rs := List.sum_cons

@[simp] theorem budgets_append (rs rs' : List (SimulationRequest B)) :
    cfg.budgets (rs ++ rs') = cfg.budgets rs + cfg.budgets rs' := by
  rw [BundleSimulatorServiceConfig.budgets, List.map_append, List.sum_append]
  rfl

namespace Ledger

/-- The queued requests. -/
def queued (l : Ledger B) : List (SimulationRequest B) := l.queue .high ++ l.queue .normal

/-- What is left of the budget of a request in flight, which has been called for. -/
def spent (cfg : BundleSimulatorServiceConfig) (f : SimulationRequest B × ℕ) : ℕ :=
  cfg.budget f.1 - 1

/-- How often the simulator can be called for the requests that the ledger has. -/
def allowance (cfg : BundleSimulatorServiceConfig) (l : Ledger B) : ℕ :=
  cfg.budgets l.queued + (l.inFlight.map (spent cfg)).sum

section Fields

variable (l : Ledger B) (p : SimulationPriority) (q : List (SimulationRequest B))

theorem setQueue_inFlight : (l.setQueue p q).inFlight = l.inFlight := rfl

theorem setQueue_accepted : (l.setQueue p q).accepted = l.accepted := rfl

theorem setQueue_calls : (l.setQueue p q).calls = l.calls := rfl

end Fields

/-- The budgets of the queued requests when one is cut out of its queue. -/
theorem budgets_queued_cut (cfg : BundleSimulatorServiceConfig) {l : Ledger B}
    {p : SimulationPriority} {pre post : List (SimulationRequest B)} {r : SimulationRequest B}
    (hq : l.queue p = pre ++ r :: post) :
    cfg.budgets (l.setQueue p (pre ++ post)).queued + cfg.budget r = cfg.budgets l.queued := by
  rcases p with _ | _
  · have hne : SimulationPriority.high ≠ .normal := by decide
    simp only [queued, setQueue_queue_self, l.setQueue_queue_of_ne _ hne, hq, budgets_append,
      budgets_cons]
    omega
  · have hne : SimulationPriority.normal ≠ .high := by decide
    simp only [queued, setQueue_queue_self, l.setQueue_queue_of_ne _ hne, hq, budgets_append,
      budgets_cons]
    omega

/-- And when one is pushed. -/
theorem budgets_queued_push (cfg : BundleSimulatorServiceConfig) (l : Ledger B)
    (p : SimulationPriority) (r : SimulationRequest B) :
    cfg.budgets (l.setQueue p (l.queue p ++ [r])).queued =
      cfg.budgets l.queued + cfg.budget r := by
  rcases p with _ | _
  · have hne : SimulationPriority.high ≠ .normal := by decide
    simp only [queued, setQueue_queue_self, l.setQueue_queue_of_ne _ hne, budgets_append,
      budgets_cons, budgets_nil]
    omega
  · have hne : SimulationPriority.normal ≠ .high := by decide
    simp only [queued, setQueue_queue_self, l.setQueue_queue_of_ne _ hne, budgets_append,
      budgets_cons, budgets_nil]
    omega

/-! ## Retry counts -/

/-- No retry count exceeds the maximum. -/
structure WithinRetries (cfg : BundleSimulatorServiceConfig) (l : Ledger B) : Prop where
  queued : ∀ p, ∀ r ∈ l.queue p, r.retries ≤ cfg.maxRetries
  inFlight : ∀ f ∈ l.inFlight, f.1.retries ≤ cfg.maxRetries
  accepted : ∀ r ∈ l.accepted, r.retries ≤ cfg.maxRetries

theorem WithinRetries.empty : (Ledger.empty : Ledger B).WithinRetries cfg where
  queued := fun p r hr => by cases hr
  inFlight := fun f hf => by cases hf
  accepted := fun r hr => by cases hr

theorem WithinRetries.move {l l' : Ledger B} (h : l.WithinRetries cfg) (hm : Move cfg l l')
    (hacc : ∀ r ∈ l'.accepted, r.retries ≤ cfg.maxRetries) : l'.WithinRetries cfg := by
  cases hm with
  | @accept r hroom =>
    have hnew : r.retries ≤ cfg.maxRetries :=
      hacc r (List.mem_append_right _ (List.mem_singleton_self r))
    exact ⟨forall_setQueue h.queued (Search.forall_mem_concat (h.queued _) hnew), h.inFlight, hacc⟩
  | clear => exact ⟨fun p r hr => absurd hr List.not_mem_nil, h.inFlight, hacc⟩
  | @expire p pre post r nextBlock hq =>
    exact ⟨forall_setQueue h.queued fun x hx => h.queued p x (Search.mem_of_mem_cut hq hx),
      h.inFlight, hacc⟩
  | @start p pre post r hq hcap =>
    have hold : r.retries ≤ cfg.maxRetries := h.queued p r (by simp [hq])
    exact ⟨forall_setQueue h.queued fun x hx => h.queued p x (Search.mem_of_mem_cut hq hx),
      Search.forall_mem_concat h.inFlight hold, hacc⟩
  | finish hf he =>
    exact ⟨h.queued, fun f hf' => h.inFlight f (Search.mem_of_mem_cut hf hf'), hacc⟩
  | requeue hf hr =>
    exact ⟨forall_setQueue h.queued (Search.forall_mem_concat (h.queued _) hr),
      fun f hf' => h.inFlight f (Search.mem_of_mem_cut hf hf'), hacc⟩

/-! ## The allowance pays for the calls -/

/-- **One move.**  A call of the simulator is paid from the allowance, and the
allowance grows only by the budgets of accepted requests. -/
theorem calls_le_of_move {l l' : Ledger B} (h : l.WithinRetries cfg) (hm : Move cfg l l') :
    l'.calls.length + l'.allowance cfg + cfg.budgets l.accepted ≤
      l.calls.length + l.allowance cfg + cfg.budgets l'.accepted := by
  cases hm with
  | @accept r hroom =>
    have hpush := budgets_queued_push cfg l r.priority r
    simp only [allowance, queued, setQueue_inFlight, setQueue_calls, budgets_append, budgets_cons,
      budgets_nil] at hpush ⊢
    omega
  | clear =>
    simp only [allowance, queued, budgets_append, budgets_nil]
    omega
  | @expire p pre post r nextBlock hq =>
    have hcut := budgets_queued_cut cfg hq
    simp only [allowance, queued, setQueue_inFlight, setQueue_accepted, setQueue_calls] at hcut ⊢
    omega
  | @start p pre post r hq hcap =>
    have hcut := budgets_queued_cut cfg hq
    have hle : r.retries ≤ cfg.maxRetries := h.queued p r (by simp [hq])
    have hone : spent cfg (r, l.calls.length) + 1 = cfg.budget r := by
      simp only [spent, BundleSimulatorServiceConfig.budget]
      omega
    simp only [allowance, queued, setQueue_accepted, List.length_append, List.length_singleton,
      List.map_append, List.map_cons, List.map_nil, List.sum_append, List.sum_cons,
      List.sum_nil] at hcut ⊢
    omega
  | @finish pre post r id out e hf he =>
    simp only [allowance, queued, hf, List.map_append, List.map_cons, List.sum_append,
      List.sum_cons]
    omega
  | @requeue pre post r id error hf hr =>
    have hpush := budgets_queued_push cfg l r.priority
      (BundleSimulatorService.rescheduled r)
    have hsame : cfg.budget (BundleSimulatorService.rescheduled r) = spent cfg (r, id) := by
      simp only [spent, BundleSimulatorServiceConfig.budget, BundleSimulatorService.rescheduled]
      omega
    simp only [allowance, queued, setQueue_accepted, setQueue_calls, hf, List.map_append,
      List.map_cons, List.sum_append, List.sum_cons] at hpush ⊢
    omega

/-- **A sequence of moves.**  The same for all the moves between two ledgers. -/
theorem calls_le_of_moves {l l' : Ledger B} (h : l.WithinRetries cfg)
    (hm : ReflTransGen (Move cfg) l l') (hacc : ∀ r ∈ l'.accepted, r.retries ≤ cfg.maxRetries) :
    l'.WithinRetries cfg ∧ l'.calls.length + l'.allowance cfg + cfg.budgets l.accepted ≤
      l.calls.length + l.allowance cfg + cfg.budgets l'.accepted := by
  induction hm with
  | refl => exact ⟨h, Nat.le_refl _⟩
  | tail _ hlast ih =>
    have hgrows := (Grows.of_move hlast).accepted
    obtain ⟨hmid, hle⟩ := ih fun r hr => hacc r (hgrows.subset hr)
    have hlastle := calls_le_of_move hmid hlast
    exact ⟨hmid.move hlast hacc, by omega⟩

end Ledger

/-! ## One step of the service -/

/-- The requests that an action submits, at most one. -/
def Action.submitted (a : Action B) : List (SimulationRequest B) :=
  a.submission.toList.map Prod.fst

namespace BundleSimulatorService

variable [Bundle B] {profile : BuildProfile} {s t : BundleSimulatorService B} {a : Action B}

/-- Only what is submitted in a step is accepted in it. -/
theorem step_accepted (h : step profile s a = .ok t) :
    ∃ admitted, t.ledger.accepted = s.ledger.accepted ++ admitted ∧
      admitted.Sublist a.submitted := by
  have hsame : t.world.answers = s.world.answers →
      ∃ admitted, t.ledger.accepted = s.ledger.accepted ++ admitted ∧
        admitted.Sublist a.submitted := by
    intro hanswers
    refine ⟨[], ?_, List.nil_sublist _⟩
    rw [List.append_nil, ledger, hanswers]
    rfl
  cases step_effect h with
  | @accept r tx hcap =>
    refine ⟨[r], ?_, List.Sublist.refl _⟩
    rw [ledger_accept]
  | refuse tx hcap =>
    refine ⟨[], ?_, List.nil_sublist _⟩
    rw [ledger_refuse, List.append_nil]
  | requeue error hsims hpending hretries =>
    refine hsame ?_
    rw [push_world]
    rfl
  | @batch now nextBlock started dropped q' hcap hadd hb =>
    obtain ⟨delivered, hworld⟩ := afterBatch_world s nextBlock started dropped q'
    exact hsame (by rw [hworld])
  | _ => exact hsame rfl

/-- **One step.**  The allowance pays for the calls of a step, and what the step
submits adds to it at most its budget. -/
theorem step_calls_le (hcfg : s.config = cfg) (hs : s.ledger.WithinRetries cfg)
    (ha : ∀ r ∈ a.submitted, r.retries ≤ cfg.maxRetries) (h : step profile s a = .ok t) :
    t.ledger.WithinRetries cfg ∧
      t.ledger.calls.length + t.ledger.allowance cfg ≤
        s.ledger.calls.length + s.ledger.allowance cfg + cfg.budgets a.submitted := by
  obtain ⟨admitted, haccepted, hsub⟩ := step_accepted h
  have hacc : ∀ r ∈ t.ledger.accepted, r.retries ≤ cfg.maxRetries := by
    intro r hr
    rw [haccepted] at hr
    rcases List.mem_append.mp hr with hr | hr
    · exact hs.accepted r hr
    · exact ha r (hsub.subset hr)
  obtain ⟨ht, hle⟩ := Ledger.calls_le_of_moves hs (step_moves hcfg h) hacc
  have hbudgets : cfg.budgets admitted ≤ cfg.budgets a.submitted :=
    (hsub.map cfg.budget).sum_le_sum fun _ _ => Nat.zero_le _
  rw [haccepted, budgets_append] at hle
  exact ⟨ht, by omega⟩

/-- So the allowance alone grows by no more than that. -/
theorem step_allowance_le (hcfg : s.config = cfg) (hs : s.ledger.WithinRetries cfg)
    (ha : ∀ r ∈ a.submitted, r.retries ≤ cfg.maxRetries) (h : step profile s a = .ok t) :
    t.ledger.allowance cfg ≤ s.ledger.allowance cfg + cfg.budgets a.submitted := by
  have hle := (step_calls_le hcfg hs ha h).2
  have hexec : exec (step profile) s [a] = .ok t := exec_cons.mpr ⟨t, h, rfl⟩
  have hcalls := (Ledger.exec_grows hexec).calls.length_le
  omega

end BundleSimulatorService
end Backend
end MevShare
