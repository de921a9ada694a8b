import MevShare.Backend.Order
import MevShare.Backend.Selection

/-!
# How long a request waits

`Backend.Order` says that nobody gets behind.  Here is what a waiting request can count
on: while it is queued and could start, every start from its queue brings it forward.
So the number of simulations that are started before it is bounded by its position, for
a request of high priority; a request of normal priority also waits for those of high
priority that are started in the meantime.

A step brings it forward by the starts of the step (`position_step`), which is the law
of batches for an entry that stays although it could start; a run by those of the run
(`bounded_waiting`).
-/

namespace MevShare
namespace Backend

open Rpc Rust Draw Machine

variable {B : Type} {cfg : BundleSimulatorServiceConfig}

namespace BundleSimulatorService

/-! ## What a run starts -/

section Starts

variable [Bundle B] {profile : BuildProfile}

/-- The requests that a step starts: what `pop_best_requests` returns. -/
def startedBy (profile : BuildProfile) (s : BundleSimulatorService B) :
    Action B → List (SimulationRequest B)
  | .schedule now =>
      match s.popBestRequests profile now with
      | .ok (_, ready) => ready
      | .error _ => []
  | _ => []

/-- The requests that a run starts, in order. -/
def startsAlong (profile : BuildProfile) :
    BundleSimulatorService B → List (Action B) → List (SimulationRequest B)
  | _, [] => []
  | s, a :: run =>
      s.startedBy profile a ++
        match step profile s a with
        | .ok t => startsAlong profile t run
        | .error _ => []

theorem startsAlong_concat {s t : BundleSimulatorService B} {run : List (Action B)}
    (h : exec (step profile) s run = .ok t) (a : Action B) :
    s.startsAlong profile (run ++ [a]) = s.startsAlong profile run ++ t.startedBy profile a := by
  induction run generalizing s with
  | nil =>
    cases h
    have hlast : t.startsAlong profile [a] = t.startedBy profile a ++ [] := by
      rw [startsAlong]
      rcases step profile t a with e | u <;> rfl
    rw [List.nil_append, hlast, List.append_nil]
    rfl
  | cons b run ih =>
    obtain ⟨v, hv, ht⟩ := exec_cons.mp h
    rw [List.cons_append, startsAlong, startsAlong, hv]
    simp only [ih ht, List.append_assoc]

/-- The simulator is called for what is started. -/
theorem step_startedBy {s t : BundleSimulatorService B} {a : Action B}
    (h : step profile s a = .ok t) :
    t.world.simulateCalls =
      s.world.simulateCalls ++ (s.startedBy profile a).map SimulationRequest.job := by
  have hnone : t.world.simulateCalls = s.world.simulateCalls → s.startedBy profile a = [] →
      t.world.simulateCalls =
        s.world.simulateCalls ++ (s.startedBy profile a).map SimulationRequest.job := by
    intro hcalls hstarted
    rw [hcalls, hstarted, List.map_nil, List.append_nil]
  rcases a with msg | ⟨id, out⟩ | now | tx
  · refine hnone ?_ rfl
    cases step_effect h with
    | accept tx hcap => rw [answer, push_world]
    | _ => rfl
  · refine hnone ?_ rfl
    cases step_effect h with
    | report hsims hpending hrep => rfl
    | requeue error hsims hpending hretries =>
      rw [push_world]
      rfl
  · rcases schedule_cases h with ⟨hcap, rfl⟩ |
      ⟨nextBlock, started, dropped, q', hcap, hadd, hb, hpop, rfl⟩
    · refine hnone rfl ?_
      rw [startedBy, popBestRequests, if_pos hcap]
    · obtain ⟨delivered, hworld⟩ := afterBatch_world s nextBlock started dropped q'
      rw [hworld, startedBy, hpop]
      rfl
  · exact hnone (by cases h; rfl) rfl

theorem exec_startsAlong {s t : BundleSimulatorService B} {run : List (Action B)}
    (h : exec (step profile) s run = .ok t) :
    t.world.simulateCalls =
      s.world.simulateCalls ++ (s.startsAlong profile run).map SimulationRequest.job := by
  induction run generalizing s with
  | nil =>
    cases h
    exact (List.append_nil _).symm
  | cons a run ih =>
    obtain ⟨v, hv, ht⟩ := exec_cons.mp h
    rw [ih ht, step_startedBy hv, startsAlong, hv, List.map_append, List.append_assoc]

end Starts

/-! ## Positions -/

/-- The ticket `k` is queued with the priority `p`. -/
def IsQueued (s : BundleSimulatorService (Ticketed B)) (p : SimulationPriority) (k : ℕ) : Prop :=
  ∃ r ∈ s.queue p, hasTicket k r.request = true

instance (s : BundleSimulatorService (Ticketed B)) (p : SimulationPriority) (k : ℕ) :
    Decidable (s.IsQueued p k) :=
  inferInstanceAs (Decidable (∃ r ∈ s.queue p, hasTicket k r.request = true))

/-- How many requests are queued ahead of the ticket `k`. -/
def position (s : BundleSimulatorService (Ticketed B)) (p : SimulationPriority) (k : ℕ) : ℕ :=
  (s.queue p).findIdx fun r => hasTicket k r.request

/-- If the action schedules, the ticket `k` could be started by it. -/
def CouldStart [Bundle B] (profile : BuildProfile) (p : SimulationPriority) (k : ℕ)
    (s : BundleSimulatorService (Ticketed B)) (a : Action (Ticketed B)) : Prop :=
  ∀ now nextBlock, a = .schedule now → profile.addU64 s.currentBlockNumber 1 = .ok nextBlock →
    ∀ r ∈ s.queue p, hasTicket k r.request = true → r.Startable nextBlock now

/-- The number of starts from the queue of the priority `p`. -/
def countOf (p : SimulationPriority) (started : List (SimulationRequest B)) : ℕ :=
  started.countP fun r => decide (r.priority = p)

variable [Bundle B] {profile : BuildProfile} {n : U64} {run : List (Action B)}
  {s t : BundleSimulatorService (Ticketed B)} {p : SimulationPriority} {k : ℕ}

/-- **One step.**  A request that stays queued, and could have started, comes forward
by the number of starts from its queue; and where it is of high priority, there are no
others. -/
theorem position_step {a : Action (Ticketed B)}
    (h : exec (step profile) (new n cfg) (ticketed 0 run) = .ok s)
    (hstep : step profile s a = .ok t) (hs : s.IsQueued p k) (ht : t.IsQueued p k)
    (hstart : CouldStart profile p k s a) :
    t.position p k + countOf p (s.startedBy profile a) ≤ s.position p k ∧
      (p = .high → ∀ r ∈ s.startedBy profile a, r.priority = .high) := by
  have hbehind : t.position p k ≤ s.position p k := neverBehind_of_step h hstep p k hs ht
  have hnone : s.startedBy profile a = [] →
      t.position p k + countOf p (s.startedBy profile a) ≤ s.position p k ∧
        (p = .high → ∀ r ∈ s.startedBy profile a, r.priority = .high) := by
    intro hstarted
    rw [hstarted]
    exact ⟨hbehind, fun _ r hr => absurd hr List.not_mem_nil⟩
  rcases a with msg | ⟨id, out⟩ | now | tx
  · exact hnone rfl
  · exact hnone rfl
  · rcases schedule_cases hstep with ⟨hcap, -⟩ |
      ⟨nextBlock, started, dropped, q', -, hadd, hb, hpop, rfl⟩
    · refine hnone ?_
      rw [startedBy, popBestRequests, if_pos hcap]
    · have hstarted : s.startedBy profile (.schedule now) = started := by
        rw [startedBy, hpop]
      have hhome := (exec_audited h).bounded.home
      have hone := countP_queue_le_one h k p
      rw [hstarted]
      obtain ⟨m, hm, hk⟩ := ht
      rw [position, position]
      rw [← queueOf_queues, afterBatch_queues] at hm ⊢
      -- the request could have started, so it need not wait
      have hverdict : m ∈ s.queue p → m.verdict nextBlock now ≠ .wait := by
        intro hmem
        rw [SimulationRequest.verdict_eq_start_iff.mpr (hstart now nextBlock rfl hadd m hmem hk)]
        decide
      rcases p with _ | _
      · refine ⟨?_, fun hp => absurd hp (by decide)⟩
        have hmem : m ∈ s.queue .normal := hb.second_sublist.subset hm
        refine hb.findIdx_second hone hm hk (hverdict hmem) fun y hy => ?_
        exact decide_eq_false (by rw [hhome .high y hy]; decide)
      · have hmem : m ∈ s.queue .high := hb.first_sublist.subset hm
        obtain ⟨hsub, hle⟩ := hb.findIdx_first hone hm hk (hverdict hmem)
        refine ⟨?_, fun _ r hr => hhome .high r (hsub r hr)⟩
        have hcount : countOf .high started ≤ started.length := List.countP_le_length
        have hpos : (queueOf q' .high).findIdx (fun r => hasTicket k r.request) +
          started.length ≤ (s.queue .high).findIdx fun r => hasTicket k r.request := hle
        omega
  · exact hnone rfl

/-- **Bounded waiting.**  In every run, as long as a request is queued and could be
started whenever requests are scheduled: it comes forward by every start from its
queue.  So these are no more than were ahead of it, and where it is of high priority
the simulator is called no more often than that. -/
theorem bounded_waiting {more : List (Action B)}
    (h : exec (step profile) (new n cfg) (ticketed 0 run) = .ok s)
    (hmore : exec (step profile) s (ticketed run.length more) = .ok t)
    (hqueued : Along (step profile) s (ticketed run.length more) fun u => u.IsQueued p k)
    (hstart : StepsMeet (step profile) s (ticketed run.length more)
      (CouldStart profile p k)) :
    t.position p k + countOf p (s.startsAlong profile (ticketed run.length more)) ≤
        s.position p k ∧
      (p = .high → t.position p k + t.world.simulateCalls.length ≤
        s.position p k + s.world.simulateCalls.length) := by
  have hrun : t.position p k + countOf p (s.startsAlong profile (ticketed run.length more)) ≤
        s.position p k ∧
      (p = .high → ∀ r ∈ s.startsAlong profile (ticketed run.length more),
        r.priority = .high) := by
    induction more using List.reverseRecOn generalizing t with
    | nil =>
      cases hmore
      exact ⟨Nat.le_refl _, fun _ r hr => absurd hr List.not_mem_nil⟩
    | append_singleton more a ih =>
      rw [ticketed_append] at hmore hqueued hstart ⊢
      obtain ⟨v, hv, hlast⟩ := exec_concat.mp hmore
      have hpre := List.prefix_append (ticketed run.length more)
        (ticketed (run.length + more.length) [a])
      have hreach : exec (step profile) (new n cfg) (ticketed 0 (run ++ more)) = .ok v := by
        rw [ticketed_append, Nat.zero_add]
        exact exec_append.mpr ⟨s, h, hv⟩
      obtain ⟨hle, hhigh⟩ := ih hv (fun pre u hu => hqueued pre u (hu.trans hpre))
        fun pre b u hu => hstart pre b u (hu.trans hpre)
      obtain ⟨hle', hhigh'⟩ := position_step hreach hlast (hqueued _ v hpre hv)
        (hqueued _ t (List.prefix_refl _) hmore) (hstart _ _ v (List.prefix_refl _) hv)
      have hstarts := startsAlong_concat hv (a.map (Ticketed.mk (run.length + more.length)))
      have hcount : countOf p (s.startsAlong profile (ticketed run.length more ++
          ticketed (run.length + more.length) [a])) =
            countOf p (s.startsAlong profile (ticketed run.length more)) +
              countOf p (v.startedBy profile (a.map (Ticketed.mk (run.length + more.length)))) :=
        (congrArg (countOf p) hstarts).trans List.countP_append
      refine ⟨by omega, fun hp r hr => ?_⟩
      rcases List.mem_append.mp ((congrArg (r ∈ ·) hstarts).mp hr) with hr | hr
      · exact hhigh hp r hr
      · exact hhigh' hp r hr
  obtain ⟨hle, hhigh⟩ := hrun
  refine ⟨hle, fun hp => ?_⟩
  have hall : countOf p (s.startsAlong profile (ticketed run.length more)) =
      (s.startsAlong profile (ticketed run.length more)).length := by
    refine List.countP_eq_length.mpr fun r hr => decide_eq_true ?_
    rw [hhigh hp r hr, hp]
  have hcalls := congrArg List.length (exec_startsAlong hmore)
  rw [List.length_append, List.length_map] at hcalls
  omega

/-- Three requests of high priority. -/
def patientRun : List (Action SendBundleRequest) :=
  [.message (.addSimulation { normalRequest 4 none with priority := .high } 0),
    .message (.addSimulation { normalRequest 5 none with priority := .high } 1),
    .message (.addSimulation { normalRequest 6 none with priority := .high } 2)]

/-- Two of them are started before the third. -/
theorem bounded_waiting_patientRun :
    ∃ s t : BundleSimulatorService (Ticketed SendBundleRequest),
      exec (step ⟨true⟩) (new 7 pairConfig) (ticketed 0 patientRun) = .ok s ∧
      exec (step ⟨true⟩) s (ticketed 3 [.schedule 0]) = .ok t ∧
      t.position .high 2 + t.world.simulateCalls.length ≤
        s.position .high 2 + s.world.simulateCalls.length := by
  have hrun : ∃ s t : BundleSimulatorService (Ticketed SendBundleRequest),
      exec (step ⟨true⟩) (new 7 pairConfig) (ticketed 0 patientRun) = .ok s ∧
      exec (step ⟨true⟩) s (ticketed 3 [.schedule 0]) = .ok t ∧
      s.IsQueued .high 2 ∧ t.IsQueued .high 2 ∧ CouldStart ⟨true⟩ .high 2 s (.schedule 0) := by
    refine ⟨_, _, rfl, rfl, by decide, by decide, ?_⟩
    intro now nextBlock ha hadd
    cases ha
    cases hadd
    decide
  obtain ⟨s, t, hs, ht, hfirst, hlast, hstart⟩ := hrun
  have hcases : ∀ pre : List (Action (Ticketed SendBundleRequest)),
      pre <+: [] ++ [.schedule 0] → pre = [.schedule 0] ∨ pre = [] := by
    intro pre hpre
    exact (List.prefix_concat_iff.mp hpre).imp_right List.prefix_nil.mp
  refine ⟨s, t, hs, ht, (bounded_waiting (p := .high) (k := 2) hs ht ?_ ?_).2 rfl⟩
  · intro pre u hpre hu
    rcases hcases pre hpre with rfl | rfl
    · rw [show exec (step ⟨true⟩) s [.schedule 0] = .ok t from ht] at hu
      cases hu
      exact hlast
    · cases hu
      exact hfirst
  · intro pre a u hpre hu
    rcases hcases _ hpre with hall | hnil
    · obtain ⟨rfl, ha⟩ := List.append_inj' (hall.trans (List.nil_append _).symm) rfl
      cases hu
      rw [List.cons.inj ha |>.1]
      exact hstart
    · simp at hnil

end BundleSimulatorService
end Backend
end MevShare
