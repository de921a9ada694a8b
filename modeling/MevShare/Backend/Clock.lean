import MevShare.Backend.Calls
import MevShare.Backend.Termination

/-!
# The clock is read, and it does not matter

A request can be backed off until some instant, and `pop_next_ready` skips it until
then.  For this `poll` reads the clock in every iteration of its loop.  But nothing
ever backs a request off: the handles submit requests that are not, and rescheduling
a request leaves the field as it is.

So no request that is queued is backed off (`Task.exec_unbacked`), the search never
fails for the sake of the clock, and two runs of the task that differ only in what the
clock said are the same run (`Task.clock_irrelevant`).
-/

namespace MevShare
namespace Backend

open Rpc Rust Machine

variable {B : Type}

theorem SimulationRequest.isReadyAt_of_none {r : SimulationRequest B}
    (h : r.backedOffUntil = none) (now : Instant) : r.isReadyAt now = true := by
  rw [isReadyAt, h]

namespace BundleSimulatorService

/-- No queued request is backed off. -/
def Unbacked (s : BundleSimulatorService B) : Prop :=
  ∀ p, ∀ r ∈ s.queue p, r.backedOffUntil = none

theorem unbacked_notifyListeners {s : BundleSimulatorService B} (h : s.Unbacked)
    (e : SimulationEvent B) : (s.notifyListeners e).Unbacked := by
  intro p r hr
  rw [queue_notifyListeners] at hr
  exact h p r hr

/-- Removing a request from the queues adds none to them. -/
theorem unbacked_removeQueued {s t : BundleSimulatorService B} {pos : ℕ}
    {item : SimulationRequest B} (h : s.Unbacked) (hrem : s.removeQueued pos = .ok (item, t)) :
    t.Unbacked := by
  unfold removeQueued at hrem
  by_cases hpos : pos < s.highPriorityQueue.length
  · rw [if_pos hpos] at hrem
    rcases hat : Search.removeAt s.highPriorityQueue pos with _ | ⟨x, rest⟩ <;> rw [hat] at hrem
    · cases hrem
    · cases hrem
      intro p r hr
      rcases p with _ | _
      · exact h .normal r hr
      · exact h .high r ((Search.removeAt_sublist hat).subset hr)
  · rw [if_neg hpos] at hrem
    rcases hat : Search.removeAt s.normalPriorityQueue (pos - s.highPriorityQueue.length) with
      _ | ⟨x, rest⟩ <;> rw [hat] at hrem
    · cases hrem
    · cases hrem
      intro p r hr
      rcases p with _ | _
      · exact h .normal r ((Search.removeAt_sublist hat).subset hr)
      · exact h .high r hr

section Scheduling

variable [Bundle B] {s : BundleSimulatorService B}

/-- The search closure does not ask for the time of a request that is not backed off. -/
theorem readyOrOutdated_of_unbacked {r : SimulationRequest B} (h : r.backedOffUntil = none)
    (nextBlock : U64) (now now' : Instant) :
    readyOrOutdated nextBlock now r = readyOrOutdated nextBlock now' r := by
  funext outdated
  rw [readyOrOutdated, readyOrOutdated, r.isReadyAt_of_none h, r.isReadyAt_of_none h]

theorem position_of_unbacked (h : s.Unbacked) (nextBlock : U64) (now now' : Instant) :
    Search.position (readyOrOutdated nextBlock now)
        (s.highPriorityQueue ++ s.normalPriorityQueue) false =
      Search.position (readyOrOutdated nextBlock now')
        (s.highPriorityQueue ++ s.normalPriorityQueue) false := by
  refine Search.position_congr (fun r hr => ?_) false
  rcases List.mem_append.mp hr with hr | hr
  · exact readyOrOutdated_of_unbacked (h .high r hr) nextBlock now now'
  · exact readyOrOutdated_of_unbacked (h .normal r hr) nextBlock now now'

/-- The search loop finds the same at all times, and leaves nothing backed off. -/
theorem popNextReadyLoop_of_unbacked (nextBlock : U64) (now now' : Instant) (fuel : ℕ)
    (h : s.Unbacked) :
    popNextReadyLoop nextBlock now fuel s = popNextReadyLoop nextBlock now' fuel s ∧
      ∀ t item, popNextReadyLoop nextBlock now fuel s = .ok (t, item) → t.Unbacked := by
  induction fuel generalizing s with
  | zero => exact ⟨rfl, fun t item ht => by cases ht⟩
  | succ fuel ih =>
    rw [popNextReadyLoop, popNextReadyLoop, position_of_unbacked h nextBlock now now']
    rcases Search.position (readyOrOutdated nextBlock now')
      (s.highPriorityQueue ++ s.normalPriorityQueue) false with ⟨_ | pos, outdated⟩
    · refine ⟨rfl, fun t item ht => ?_⟩
      cases ht
      exact h
    · simp only
      rcases hrem : s.removeQueued pos with e | ⟨item, u⟩
      · exact ⟨rfl, fun t item ht => by cases ht⟩
      · have hu := unbacked_removeQueued h hrem
        rcases outdated with _ | _
        · refine ⟨rfl, fun t item ht => ?_⟩
          cases ht
          exact hu
        · exact ih (unbacked_notifyListeners hu _)

theorem popBestRequestsLoop_of_unbacked (nextBlock : U64) (now now' : Instant) (capacity : ℕ)
    (h : s.Unbacked) :
    popBestRequestsLoop nextBlock now capacity s =
      popBestRequestsLoop nextBlock now' capacity s := by
  induction capacity generalizing s with
  | zero => rfl
  | succ capacity ih =>
    obtain ⟨hsame, hkeep⟩ := popNextReadyLoop_of_unbacked nextBlock now now'
      (s.highPriorityQueue.length + s.normalPriorityQueue.length + 1) h
    rw [popBestRequestsLoop, popBestRequestsLoop, popNextReady, popNextReady, ← hsame]
    rcases hpop : popNextReadyLoop nextBlock now
      (s.highPriorityQueue.length + s.normalPriorityQueue.length + 1) s with
      e | ⟨t, _ | req⟩
    · rfl
    · rfl
    · simp only [ih (hkeep t _ hpop)]

/-- **Scheduling does not depend on the time.** -/
theorem popBestRequests_of_unbacked (profile : BuildProfile) (now now' : Instant)
    (h : s.Unbacked) : s.popBestRequests profile now = s.popBestRequests profile now' := by
  unfold popBestRequests
  by_cases hcap : s.capacity = 0
  · rw [if_pos hcap, if_pos hcap]
  · rw [if_neg hcap, if_neg hcap]
    rcases profile.addU64 s.currentBlockNumber 1 with e | nextBlock
    · rfl
    · exact popBestRequestsLoop_of_unbacked nextBlock now now' s.capacity h

end Scheduling

end BundleSimulatorService

/-! ## Nothing is ever backed off -/

/-- The action, with the clock at zero. -/
def TaskAction.timeless : TaskAction B → TaskAction B
  | .schedule _ => .schedule 0
  | a => a

theorem TaskAction.fromHandle_timeless {a : TaskAction B} :
    a.timeless.FromHandle ↔ a.FromHandle := by
  rcases a with _ | _ | _ | _ | _ | _ | _ | now
  all_goals try exact Iff.rfl
  constructor <;> intro _ msg hmsg <;> cases hmsg

namespace Task

variable [Bundle B] {profile : BuildProfile} {n : U64} {cfg : BundleSimulatorServiceConfig}
  {run : List (TaskAction B)} {t : Task B}

/-- What has been answered or is still in the channel is what was sent. -/
theorem exec_submissions (h : exec (Task.step profile) (new n cfg) run = .ok t) :
    t.service.answeredSubmissions ++
        (t.fromHandle.messages.filterMap fun msg => (Action.message msg).submission) =
      (run.filterMap sent?).filterMap fun msg => (Action.message msg).submission := by
  refine exec_history (P := fun run (t : Task B) =>
    t.service.answeredSubmissions ++
        (t.fromHandle.messages.filterMap fun msg => (Action.message msg).submission) =
      (run.filterMap sent?).filterMap fun msg => (Action.message msg).submission) rfl ?_ h
  intro as t a u has ih hstep
  rw [(exec_attended has).submitted_step hstep, ih, List.filterMap_append, List.filterMap_append]
  rcases hsent : sent? a with _ | msg <;> simp [hsent]

/-- **No request that is queued is backed off**, if handles have built it. -/
theorem exec_unbacked (h : exec (Task.step profile) (new n cfg) run = .ok t)
    (hrun : ∀ a ∈ run, a.FromHandle) : t.service.Unbacked := by
  intro p r hr
  obtain ⟨n', cfg', actions, hactions⟩ := (exec_attended h).reached
  -- the request is an accepted one, up to its retry count
  obtain ⟨a, ha, hra⟩ := (BundleSimulatorService.exec_audited hactions).genuine.queued p r hr
  obtain ⟨ans, hans, -, rfl⟩ := BundleSimulatorService.mem_accepted.mp ha
  have hmem : (ans.request, ans.tx) ∈
      (run.filterMap sent?).filterMap fun msg => (Action.message msg).submission := by
    rw [← exec_submissions h]
    exact List.mem_append_left _ (List.mem_map.mpr ⟨ans, hans, rfl⟩)
  obtain ⟨msg, hmsg, hsub⟩ := List.mem_filterMap.mp hmem
  obtain ⟨b, hb, hsent⟩ := List.mem_filterMap.mp hmsg
  have hbmsg : b = .send msg := by
    rcases b with msg' | _ | _ | _ | _ | _ | _ | _ <;> cases hsent
    rfl
  have hbuilt : Action.message msg = .message (.addSimulation ans.request ans.tx) := by
    rcases msg with _ | num | ⟨request, tx⟩ | tx <;> cases hsub
    rfl
  obtain ⟨request, overrides, priority, hrequest⟩ := hrun b hb msg hbmsg _ _ hbuilt
  rw [hra, hrequest]
  rfl

/-- No step of the task sees the clock. -/
theorem step_timeless (h : t.service.Unbacked) (a : TaskAction B) :
    Task.step profile t a.timeless = Task.step profile t a := by
  rcases a with _ | _ | _ | _ | _ | _ | _ | now
  all_goals try rfl
  show (if t.phase = .schedule then t.schedule profile 0 else .error .disabled) =
    if t.phase = .schedule then t.schedule profile now else .error .disabled
  rw [schedule, schedule, BundleSimulatorService.popBestRequests_of_unbacked profile 0 now h]

theorem exec_timeless (hrun : ∀ a ∈ run, a.FromHandle) :
    exec (Task.step profile) (new n cfg) (run.map TaskAction.timeless) =
      exec (Task.step profile) (new n cfg) run := by
  refine exec_map_of_same (P := TaskAction.FromHandle) (I := fun t : Task B =>
    ∃ before : List (TaskAction B), (∀ a ∈ before, a.FromHandle) ∧
      exec (Task.step profile) (new n cfg) before = .ok t) ?_ ?_ ⟨[], by simp, rfl⟩ hrun
  · rintro t a u ⟨before, hbefore, hexec⟩ ha hstep
    refine ⟨before ++ [a], fun b hb => ?_, exec_concat.mpr ⟨t, hexec, hstep⟩⟩
    rcases List.mem_append.mp hb with hb | hb
    · exact hbefore b hb
    · rw [List.mem_singleton.mp hb]
      exact ha
  · rintro t a ⟨before, hbefore, hexec⟩ -
    exact step_timeless (exec_unbacked hexec hbefore) a

/-- **The clock does not matter.**  Two runs of the task that differ only in the
instants, and in which the messages come from handles, are the same run: they end in
the same state, or stop for the same reason. -/
theorem clock_irrelevant {run' : List (TaskAction B)} (hrun : ∀ a ∈ run, a.FromHandle)
    (hsame : run.map TaskAction.timeless = run'.map TaskAction.timeless) :
    exec (Task.step profile) (new n cfg) run = exec (Task.step profile) (new n cfg) run' := by
  have hrun' : ∀ a ∈ run', a.FromHandle := by
    intro a ha
    have hmem : a.timeless ∈ run.map TaskAction.timeless := by
      rw [hsame]
      exact List.mem_map_of_mem ha
    obtain ⟨b, hb, hba⟩ := List.mem_map.mp hmem
    rw [← TaskAction.fromHandle_timeless, ← hba, TaskAction.fromHandle_timeless]
    exact hrun b hb
  rw [← exec_timeless hrun, hsame, exec_timeless hrun']

/-- The clock goes forward in one of the two, and stands still in the other. -/
theorem clock_irrelevant_retryingCall :
    exec (Task.step ⟨true⟩) (new 7 BundleSimulatorService.tightConfig)
        (queuedRun ++ .poll :: retryingCall) =
      exec (Task.step ⟨true⟩) (new 7 BundleSimulatorService.tightConfig)
        ((queuedRun ++ .poll :: retryingCall).map TaskAction.timeless) := by
  refine clock_irrelevant (fun a ha msg hmsg r tx hsub => ?_) ?_
  · subst hmsg
    cases hsub
    simp only [queuedRun, retryingCall, List.cons_append, List.nil_append, List.mem_cons,
      TaskAction.send.injEq, reduceCtorEq, or_false, List.not_mem_nil,
      BundleSimulatorMessage.addSimulation.injEq] at ha
    obtain ⟨rfl, -⟩ := ha
    exact ⟨_, _, _, rfl⟩
  · rw [List.map_map]
    refine List.map_congr_left fun a _ => ?_
    rcases a with _ | _ | _ | _ | _ | _ | _ | now <;> rfl

end Task
end Backend
end MevShare
