import MevShare.Backend.Poll
import MevShare.Backend.Ticket

/-!
# The callers of the service

`BundleSimulatorHandle::add_bundle_simulation_with_prio` is an asynchronous function.  It
sends the request to the service with the sending end of a oneshot channel, and awaits the
receiving end.  `Backend.Handle` has this call with the answer given; here the calls are put
together with the service as the task of `Backend.Poll`.  Any number of handles can call, in
every phase of the task, and a caller can poll its future, or drop it, whenever it likes.

## Oneshot channels

A oneshot channel is known by its number, the number of calls made before.  Its receiver
yields what was sent; it fails where the sending end was dropped without a send.  The sending
end is in the message until the service has processed it, and goes with the service.

## Who gets which answer

The channel to the service is first in, first out, and the service answers each submission in
the step that receives it.  So what has been answered and what is waiting are, in this order,
the calls from the first one on (`Served.order`), and a caller is never given the answer to
another call (`calls_served`).
-/

namespace MevShare
namespace Backend

open Rpc Rust Machine

variable {B : Type}

/-- Where a submission through a handle is. -/
inductive CallState where
  /-- In `rx.await`. -/
  | awaiting
  | returned (result : Except AddSimulationErr Unit)
  /-- The future was dropped before it was ready. -/
  | dropped

/-- A call of `add_bundle_simulation_with_prio`, or of `send_bundle_simulation_with_prio`,
which does not wait for the answer. -/
structure HandleCall (B : Type) where
  request : B
  overrides : SimBundleOverrides
  priority : SimulationPriority
  awaits : Bool
  state : CallState

/-- The request that the call submits. -/
def HandleCall.submission (c : HandleCall B) : SimulationRequest B :=
  .submitted c.request c.overrides c.priority

/-- The service and the calls that were made through its handles; the number of a call, and of
its oneshot channel, is its place in the list. -/
structure CallHub (B : Type) where
  task : Task B
  calls : List (HandleCall B)

/-- What can happen. -/
inductive CallAction (B : Type) where
  /-- The service is polled, or something happens to it that is not a submission. -/
  | task (a : TaskAction B)
  /-- The first poll of `handle.add_bundle_simulation_with_prio(..)`. -/
  | add (request : B) (overrides : SimBundleOverrides) (priority : SimulationPriority)
  /-- `handle.send_bundle_simulation_with_prio(..)`. -/
  | send (request : B) (overrides : SimBundleOverrides) (priority : SimulationPriority)
  /-- `handle.update_block_number(..)`. -/
  | updateBlockNumber (blockNumber : U64)
  /-- `handle.clear_queue()`. -/
  | clearQueue
  /-- The future of the call `k` is polled again. -/
  | poll (k : ℕ)
  /-- The future of the call `k` is dropped. -/
  | cancel (k : ℕ)
  /-- The service is dropped. -/
  | dropService

/-- The oneshot channel of a message. -/
def BundleSimulatorMessage.oneshot? : BundleSimulatorMessage B → Option ℕ
  | .addSimulation _ tx => some tx
  | _ => none

/-- The action is left to the calls. -/
def TaskAction.submits : TaskAction B → Bool
  | .send (.addSimulation _ _) => true
  | _ => false

namespace CallHub

def new (currentBlockNumber : U64) (config : BundleSimulatorServiceConfig) : CallHub B :=
  ⟨Task.new currentBlockNumber config, []⟩

/-- The service has not been dropped. -/
def alive (h : CallHub B) : Bool := h.task.fromHandle.isOpen

/-- The handle of every caller. -/
def handle (h : CallHub B) : BundleSimulatorHandle B := h.task.service.handle h.task.fromHandle

/-- The oneshot channels whose sending end is in a message. -/
def waiting (h : CallHub B) : List ℕ :=
  h.task.fromHandle.messages.filterMap BundleSimulatorMessage.oneshot?

/-- `rx.await.map_err(|_| AddSimulationErr::ServiceUnavailable)?`; `none` is `Pending`. -/
def pollRx (h : CallHub B) (k : ℕ) : Option (Except AddSimulationErr Unit) :=
  match h.task.service.answered k with
  | some result => some result
  | none => if k ∈ h.waiting then none else some (.error .serviceUnavailable)

/-- A submission, up to the answer of the service; `sent` is the state of the call where the
message could be sent. -/
def submit [Bundle B] (profile : BuildProfile) (h : CallHub B) (request : B)
    (overrides : SimBundleOverrides) (priority : SimulationPriority) (awaits : Bool)
    (sent : CallState) : Except Halt (CallHub B) :=
  match h.handle.submit h.calls.length request overrides priority with
  | .error e => .ok { h with
      calls := h.calls ++ [⟨request, overrides, priority, awaits, .returned (.error e)⟩] }
  | .ok _ =>
      -- the same send, with the waker of the task
      match h.task.step profile
          (.send (.addSimulation (.submitted request overrides priority) h.calls.length)) with
      | .error e => .error e
      | .ok task => .ok ⟨task, h.calls ++ [⟨request, overrides, priority, awaits, sent⟩]⟩

/-- A message for which no answer is expected: `self.to_service.send(..).ok()`. -/
def tell [Bundle B] (profile : BuildProfile) (h : CallHub B) (msg : BundleSimulatorMessage B) :
    Except Halt (CallHub B) :=
  match h.task.step profile (.send msg) with
  | .error e => .error e
  | .ok task => .ok { h with task := task }

def step [Bundle B] (profile : BuildProfile) (h : CallHub B) :
    CallAction B → Except Halt (CallHub B)
  | .task a =>
      if h.alive && !a.submits then
        match h.task.step profile a with
        | .error e => .error e
        | .ok task => .ok { h with task := task }
      else .error .disabled
  | .add request overrides priority => h.submit profile request overrides priority true .awaiting
  | .send request overrides priority =>
      h.submit profile request overrides priority false (.returned (.ok ()))
  | .updateBlockNumber blockNumber => h.tell profile (.updateBlockNumber blockNumber)
  | .clearQueue => h.tell profile .clearQueue
  | .poll k =>
      match h.calls[k]? with
      | some c =>
          match c.state with
          | .awaiting =>
              match h.pollRx k with
              | none => .ok h
              | some result => .ok { h with
                  calls := h.calls.set k { c with state := .returned result } }
          | _ => .error .disabled
      | none => .error .disabled
  | .cancel k =>
      match h.calls[k]? with
      | some c =>
          match c.state with
          | .awaiting => .ok { h with calls := h.calls.set k { c with state := .dropped } }
          | _ => .error .disabled
      | none => .error .disabled
  | .dropService => .ok { h with task := { h.task with fromHandle := ⟨false, []⟩ } }

/-! ## What one step can do -/

/-- **The effects of a step.** -/
inductive Effect [Bundle B] (profile : BuildProfile) (h : CallHub B) :
    CallAction B → CallHub B → Prop
  | runs {a : TaskAction B} {task : Task B} (halive : h.alive = true) (ha : a.submits = false)
      (htask : h.task.step profile a = .ok task) :
      Effect profile h (.task a) { h with task := task }
  | tells {a : CallAction B} {msg : BundleSimulatorMessage B} {task : Task B}
      (hmsg : (TaskAction.send msg).submits = false)
      (htask : h.task.step profile (.send msg) = .ok task) :
      Effect profile h a { h with task := task }
  | submits {a : CallAction B} {c : HandleCall B} {task : Task B} (halive : h.alive = true)
      (hstate : c.state = .awaiting ∧ c.awaits = true ∨
        c.state = .returned (.ok ()) ∧ c.awaits = false)
      (htask : h.task.step profile (.send (.addSimulation c.submission h.calls.length)) =
        .ok task) :
      Effect profile h a ⟨task, h.calls ++ [c]⟩
  | fails {a : CallAction B} {c : HandleCall B} (hdead : h.alive = false)
      (hstate : c.state = .returned (.error .serviceUnavailable)) :
      Effect profile h a { h with calls := h.calls ++ [c] }
  | pending (k : ℕ) : Effect profile h (.poll k) h
  | returns {k : ℕ} {c : HandleCall B} {result : Except AddSimulationErr Unit}
      (hc : h.calls[k]? = some c) (hstate : c.state = .awaiting)
      (hresult : h.pollRx k = some result) :
      Effect profile h (.poll k)
        { h with calls := h.calls.set k { c with state := .returned result } }
  | cancels {k : ℕ} {c : HandleCall B} (hc : h.calls[k]? = some c) :
      Effect profile h (.cancel k) { h with calls := h.calls.set k { c with state := .dropped } }
  | dropService :
      Effect profile h .dropService { h with task := { h.task with fromHandle := ⟨false, []⟩ } }

section Steps

variable [Bundle B] {profile : BuildProfile} {h h' : CallHub B}

/-- A submission is sent, or it fails because the service is gone. -/
theorem submit_effect {request : B} {overrides : SimBundleOverrides}
    {priority : SimulationPriority} {awaits : Bool} {sent : CallState} {a : CallAction B}
    (hsent : sent = .awaiting ∧ awaits = true ∨ sent = .returned (.ok ()) ∧ awaits = false)
    (hsubmit : h.submit profile request overrides priority awaits sent = .ok h') :
    Effect profile h a h' := by
  rw [submit, BundleSimulatorHandle.submit, ServiceChannel.send] at hsubmit
  by_cases halive : h.alive = true
  · have hopen : h.handle.toService.isOpen = true := halive
    rw [if_pos hopen] at hsubmit
    simp only at hsubmit
    rcases htask : h.task.step profile
        (.send (.addSimulation (.submitted request overrides priority) h.calls.length)) with
      e | task <;> rw [htask] at hsubmit <;> cases hsubmit
    exact Effect.submits (c := ⟨request, overrides, priority, awaits, sent⟩) halive hsent htask
  · have hclosed : ¬ h.handle.toService.isOpen = true := halive
    rw [if_neg hclosed] at hsubmit
    cases hsubmit
    exact Effect.fails (Bool.eq_false_iff.mpr halive) rfl

/-- A step of the task. -/
theorem step_task {a : TaskAction B} (hstep : step profile h (.task a) = .ok h') :
    h.alive = true ∧ a.submits = false ∧
      ∃ task, h.task.step profile a = .ok task ∧ h' = { h with task := task } := by
  rw [step] at hstep
  by_cases hcond : (h.alive && !a.submits) = true
  · rw [if_pos hcond] at hstep
    obtain ⟨halive, ha⟩ := Bool.and_eq_true_iff.mp hcond
    rcases htask : h.task.step profile a with e | task <;> rw [htask] at hstep <;> cases hstep
    exact ⟨halive, Bool.not_eq_true' _ ▸ ha, task, rfl, rfl⟩
  · rw [if_neg hcond] at hstep
    cases hstep

theorem step_effect {a : CallAction B} (hstep : step profile h a = .ok h') :
    Effect profile h a h' := by
  have htell : ∀ {msg : BundleSimulatorMessage B}, (TaskAction.send msg).submits = false →
      h.tell profile msg = .ok h' → Effect profile h a h' := by
    intro msg hmsg htell
    rw [tell] at htell
    rcases htask : h.task.step profile (.send msg) with e | task <;> rw [htask] at htell <;>
      cases htell
    exact Effect.tells hmsg htask
  rcases a with a | ⟨request, overrides, priority⟩ | ⟨request, overrides, priority⟩ | num | _ | k |
    k | _
  · obtain ⟨halive, ha, task, htask, rfl⟩ := step_task hstep
    exact Effect.runs halive ha htask
  · exact submit_effect (Or.inl ⟨rfl, rfl⟩) hstep
  · exact submit_effect (Or.inr ⟨rfl, rfl⟩) hstep
  · exact htell rfl hstep
  · exact htell rfl hstep
  · rw [step] at hstep
    rcases hc : h.calls[k]? with _ | c <;> simp only [hc] at hstep
    · cases hstep
    · rcases hstate : c.state with _ | result | _ <;> simp only [hstate] at hstep
      · rcases hresult : h.pollRx k with _ | result <;> simp only [hresult] at hstep <;>
          cases hstep
        · exact Effect.pending k
        · exact Effect.returns hc hstate hresult
      · cases hstep
      · cases hstep
  · rw [step] at hstep
    rcases hc : h.calls[k]? with _ | c <;> simp only [hc] at hstep
    · cases hstep
    · rcases hstate : c.state with _ | result | _ <;> simp only [hstate] at hstep <;> cases hstep
      exact Effect.cancels hc
  · cases hstep
    exact Effect.dropService

end Steps

/-! ## The invariant -/

/-- What has been answered, and what is waiting to be. -/
def submitted (h : CallHub B) : List (SimulationRequest B × ℕ) :=
  h.task.service.answeredSubmissions ++
    h.task.fromHandle.messages.filterMap fun msg => (Action.message msg).submission

/-- What the calls submit, each with the number of its oneshot channel. -/
def submissions (h : CallHub B) : List (SimulationRequest B × ℕ) :=
  (h.calls.map HandleCall.submission).zipIdx

/-- The result that a call has returned is its own: the one answer it was given, or, where it
does not wait for one, that the message was sent; or the service is gone, and will not answer. -/
inductive Earned (h : CallHub B) (k : ℕ) (c : HandleCall B) : Except AddSimulationErr Unit → Prop
  | answered {ans : Answer B} (hawaits : c.awaits = true)
      (hans : ans ∈ h.task.service.world.answers) (htx : ans.tx = k) : Earned h k c ans.result
  | sent (hawaits : c.awaits = false) : Earned h k c (.ok ())
  | unavailable (hdead : h.alive = false)
      (hnone : ∀ ans ∈ h.task.service.world.answers, ans.tx ≠ k) :
      Earned h k c (.error .serviceUnavailable)

/-- The calls are served in the order in which they were made. -/
structure Served [Bundle B] (profile : BuildProfile) (h : CallHub B) : Prop where
  order : h.submitted <+: h.submissions
  /-- As long as the service is there, nothing that was sent is lost. -/
  alive : h.alive = true → h.submitted = h.submissions ∧ h.task.Attended profile
  dead : h.alive = false → h.task.fromHandle.messages = []
  awaits : ∀ (k : ℕ) (c : HandleCall B), h.calls[k]? = some c → c.state = .awaiting →
    c.awaits = true
  returned : ∀ k c result, h.calls[k]? = some c → c.state = .returned result →
    h.Earned k c result

end CallHub

/-- A step of the task moves submissions from the channel to the answers, and adds what is
sent. -/
theorem Task.Attended.submitted_step [Bundle B] {profile : BuildProfile} {t u : Task B}
    {a : TaskAction B} (h : t.Attended profile) (hstep : Task.step profile t a = .ok u) :
    u.service.answeredSubmissions ++
        (u.fromHandle.messages.filterMap fun msg => (Action.message msg).submission) =
      t.service.answeredSubmissions ++
        (t.fromHandle.messages.filterMap fun msg => (Action.message msg).submission) ++
        (Task.sent? a).toList.filterMap fun msg => (Action.message msg).submission := by
  obtain ⟨hexec, hmessages, -⟩ := h.projects hstep
  have hsame : ∀ as : List (Action B),
      (as.filterMap Action.message?).filterMap (fun msg => (Action.message msg).submission) =
        as.filterMap Action.submission := by
    intro as
    rw [List.filterMap_filterMap]
    refine List.filterMap_congr fun a _ => ?_
    cases a <;> rfl
  have hanswers : u.service.answeredSubmissions = t.service.answeredSubmissions ++
      (t.action? a).toList.filterMap Action.submission := by
    rcases haction : t.action? a with _ | b <;> rw [haction] at hexec
    · have hsame : t.service = u.service := Except.ok.inj hexec
      rw [← hsame]
      exact (List.append_nil _).symm
    · obtain ⟨s, hs, hu⟩ := exec_cons.mp hexec
      have hlast : s = u.service := Except.ok.inj hu
      rw [← hlast, BundleSimulatorService.step_answeredSubmissions hs]
      cases hb : b.submission <;> simp [hb]
  rw [List.append_assoc, ← List.filterMap_append, hmessages, List.filterMap_append, hsame, hanswers,
    List.append_assoc]

/-- Answers are never taken back. -/
theorem BundleSimulatorService.step_answers [Bundle B] {profile : BuildProfile}
    {s t : BundleSimulatorService B} {a : Action B} (h : Backend.step profile s a = .ok t) :
    s.world.answers <+: t.world.answers := by
  cases step_effect h with
  | accept tx hcap =>
    rw [answer, push_world]
    exact List.prefix_append _ _
  | refuse tx hcap => exact List.prefix_append _ _
  | requeue error hsims hpending hretries =>
    rw [push_world]
    exact List.prefix_refl _
  | @batch now nextBlock started dropped q' hcap hadd hb =>
    obtain ⟨delivered, hworld⟩ := afterBatch_world s nextBlock started dropped q'
    exact ⟨[], by rw [hworld, List.append_nil]⟩
  | _ => exact List.prefix_refl _

theorem Task.Attended.answers_step [Bundle B] {profile : BuildProfile} {t u : Task B}
    {a : TaskAction B} (h : t.Attended profile) (hstep : Task.step profile t a = .ok u) :
    t.service.world.answers <+: u.service.world.answers :=
  exec_invariant (I := fun s => t.service.world.answers <+: s.world.answers)
    (fun _ _ _ hs hstep => hs.trans (BundleSimulatorService.step_answers hstep))
    (List.prefix_refl _) (h.projects hstep).exec

namespace CallHub

section Invariant

variable [Bundle B] {profile : BuildProfile} {h h' : CallHub B} {n : U64}
  {cfg : BundleSimulatorServiceConfig}

omit [Bundle B] in
theorem mem_submitted_of_answer {ans : Answer B} (hans : ans ∈ h.task.service.world.answers) :
    (ans.request, ans.tx) ∈ h.submitted :=
  List.mem_append_left _ (List.mem_map_of_mem hans)

theorem served_new : (new n cfg : CallHub B).Served profile where
  order := List.prefix_refl _
  alive := fun _ => ⟨rfl, Task.attended_new profile n cfg⟩
  dead := fun hdead => by cases hdead
  awaits := fun k c hc => by cases hc
  returned := fun k c result hc => by cases hc

omit [Bundle B] in
/-- Where the calls stay as they are, and the answers are not taken back, what has been
returned is still right. -/
theorem Earned.mono {k : ℕ} {c : HandleCall B} {result : Except AddSimulationErr Unit}
    (hearned : h.Earned k c result)
    (hanswers : h.task.service.world.answers <+: h'.task.service.world.answers)
    (hdead : h.alive = false →
      h'.alive = false ∧ h'.task.service.world.answers = h.task.service.world.answers) :
    h'.Earned k c result := by
  rcases hearned with ⟨hawaits, hans, htx⟩ | hawaits | ⟨hd, hnone⟩
  · exact .answered hawaits (hanswers.subset hans) htx
  · exact .sent hawaits
  · obtain ⟨hd', heq⟩ := hdead hd
    refine .unavailable hd' ?_
    rw [heq]
    exact hnone

/-- A step of the task that submits nothing. -/
theorem Served.task_step (hs : h.Served profile) {a : TaskAction B} {task : Task B}
    (halive : h.alive = true) (ha : a.submits = false) (htask : h.task.step profile a = .ok task) :
    ({ h with task := task } : CallHub B).Served profile := by
  obtain ⟨hall, hatt⟩ := hs.alive halive
  have hsubmitted : ({ h with task := task } : CallHub B).submitted = h.submitted := by
    have hstep := hatt.submitted_step htask
    have hnone : (Task.sent? a).toList.filterMap
        (fun msg => (Action.message msg).submission) = [] := by
      rcases a with (_ | num | ⟨r, tx⟩ | tx) | _ | _ | _ | _ | _ | _ | _ <;> first | rfl | cases ha
    rw [hnone, List.append_nil] at hstep
    exact hstep
  have hatt' := hatt.step htask
  refine ⟨?_, fun _ => ⟨?_, hatt'⟩, fun hdead => ?_, hs.awaits, fun k c result hc hstate => ?_⟩
  · rw [hsubmitted]
    exact hs.order
  · rw [hsubmitted]
    exact hall
  · have hopen : task.fromHandle.isOpen = false := hdead
    rw [hatt'.isOpen] at hopen
    cases hopen
  · refine (hs.returned k c result hc hstate).mono (hatt.answers_step htask) fun hdead => ?_
    rw [halive] at hdead
    cases hdead

/-- A service that is gone takes no message. -/
theorem send_of_dead {msg : BundleSimulatorMessage B} {task : Task B} (hdead : h.alive = false)
    (htask : h.task.step profile (.send msg) = .ok task) : task = h.task := by
  cases Task.step_effect htask with
  | sendClosed _ hopen => rfl
  | send _ hopen =>
    rw [alive, hopen] at hdead
    cases hdead

omit [Bundle B] in
theorem submissions_concat (task : Task B) (c : HandleCall B) :
    (⟨task, h.calls ++ [c]⟩ : CallHub B).submissions =
      h.submissions ++ [(c.submission, h.calls.length)] := by
  rw [submissions, List.map_append, List.zipIdx_append, List.length_map, Nat.zero_add]
  rfl

omit [Bundle B] in
/-- The state of a call is not part of what it submits. -/
theorem submissions_set {k : ℕ} {c : HandleCall B} (hc : h.calls[k]? = some c)
    (state : CallState) :
    ({ h with calls := h.calls.set k { c with state := state } } : CallHub B).submissions =
      h.submissions := by
  have hmap : (h.calls.set k { c with state := state }).map HandleCall.submission =
      h.calls.map HandleCall.submission := by
    obtain ⟨hlt, hget⟩ := List.getElem?_eq_some_iff.mp hc
    have hlt' : k < (h.calls.map HandleCall.submission).length := by rwa [List.length_map]
    have hsame : HandleCall.submission { c with state := state } =
        (h.calls.map HandleCall.submission)[k] := by
      rw [List.getElem_map, hget]
      rfl
    rw [List.map_set, hsame, List.set_getElem_self hlt']
  rw [submissions, submissions, hmap]

/-- A submission that is sent. -/
theorem Served.submit (hs : h.Served profile) {c : HandleCall B} {task : Task B}
    (halive : h.alive = true)
    (hstate : c.state = .awaiting ∧ c.awaits = true ∨
      c.state = .returned (.ok ()) ∧ c.awaits = false)
    (htask : h.task.step profile (.send (.addSimulation c.submission h.calls.length)) = .ok task) :
    (⟨task, h.calls ++ [c]⟩ : CallHub B).Served profile := by
  obtain ⟨hall, hatt⟩ := hs.alive halive
  have hatt' := hatt.step htask
  have hsubmitted : (⟨task, h.calls ++ [c]⟩ : CallHub B).submitted =
      (⟨task, h.calls ++ [c]⟩ : CallHub B).submissions := by
    rw [submissions_concat, ← hall]
    exact hatt.submitted_step htask
  refine ⟨hsubmitted ▸ List.prefix_refl _, fun _ => ⟨hsubmitted, hatt'⟩, fun hdead => ?_,
    fun k c' hc' hawait => ?_, fun k c' result hc' hres => ?_⟩
  · have hopen : task.fromHandle.isOpen = false := hdead
    rw [hatt'.isOpen] at hopen
    cases hopen
  · rcases (Search.getElem?_concat_cases hc').symm with hc' | ⟨-, rfl⟩
    · exact hs.awaits k c' hc' hawait
    · rcases hstate with ⟨-, hawaits⟩ | ⟨hreturned, -⟩
      · exact hawaits
      · rw [hawait] at hreturned
        cases hreturned
  · rcases (Search.getElem?_concat_cases hc').symm with hc' | ⟨-, rfl⟩
    · refine (hs.returned k c' result hc' hres).mono (hatt.answers_step htask) fun hdead => ?_
      rw [halive] at hdead
      cases hdead
    · rcases hstate with ⟨hawait, -⟩ | ⟨hreturned, hawaits⟩
      · rw [hawait] at hres
        cases hres
      · rw [hreturned] at hres
        cases hres
        exact .sent hawaits

/-- A submission that finds the service gone. -/
theorem Served.fail (hs : h.Served profile) {c : HandleCall B} (hdead : h.alive = false)
    (hstate : c.state = .returned (.error .serviceUnavailable)) :
    ({ h with calls := h.calls ++ [c] } : CallHub B).Served profile := by
  have hseen : h.submissions <+:
      ({ h with calls := h.calls ++ [c] } : CallHub B).submissions := by
    rw [submissions_concat]
    exact List.prefix_append _ _
  refine ⟨hs.order.trans hseen, fun halive => ?_, hs.dead, fun k c' hc' hawait => ?_,
    fun k c' result hc' hres => ?_⟩
  · have halive' : h.alive = true := halive
    rw [hdead] at halive'
    cases halive'
  · rcases (Search.getElem?_concat_cases hc').symm with hc' | ⟨-, rfl⟩
    · exact hs.awaits k c' hc' hawait
    · rw [hawait] at hstate
      cases hstate
  · rcases (Search.getElem?_concat_cases hc').symm with hc' | ⟨rfl, rfl⟩
    · exact (hs.returned k c' result hc' hres).mono (List.prefix_refl _) fun _ => ⟨hdead, rfl⟩
    · rw [hres] at hstate
      cases hstate
      -- only the calls before this one have been answered
      refine .unavailable hdead fun ans hans htx => ?_
      have hmem := hs.order.subset (mem_submitted_of_answer hans)
      have hlt := (List.mem_zipIdx' hmem).1
      rw [List.length_map] at hlt
      exact Nat.ne_of_lt hlt htx

omit [Bundle B] in
theorem answered_cases (s : BundleSimulatorService B) (k : ℕ) :
    (∃ ans ∈ s.world.answers, ans.tx = k ∧ s.answered k = some ans.result) ∨
      (∀ ans ∈ s.world.answers, ans.tx ≠ k) ∧ s.answered k = none := by
  rw [BundleSimulatorService.answered]
  rcases hlast : (s.world.answers.filter fun a => a.tx == k).getLast? with _ | ans
  · refine Or.inr ⟨fun ans hans htx => ?_, by rw [hlast]; rfl⟩
    have hnil := List.getLast?_eq_none_iff.mp hlast
    have hmem : ans ∈ s.world.answers.filter fun a => a.tx == k :=
      List.mem_filter.mpr ⟨hans, beq_iff_eq.mpr htx⟩
    rw [hnil] at hmem
    cases hmem
  · obtain ⟨hans, htx⟩ := List.mem_filter.mp (List.mem_of_getLast? hlast)
    exact Or.inl ⟨ans, hans, beq_iff_eq.mp htx, by rw [hlast]; rfl⟩

omit [Bundle B] in
/-- As long as the service is there, a call is answered or waits for it. -/
theorem answered_or_waiting (hall : h.submitted = h.submissions) {k : ℕ} {c : HandleCall B}
    (hc : h.calls[k]? = some c) :
    (∃ ans ∈ h.task.service.world.answers, ans.tx = k) ∨ k ∈ h.waiting := by
  have hmem : (c.submission, k) ∈ h.submissions := by
    refine List.mem_zipIdx_iff_getElem?.mpr ?_
    rw [List.getElem?_map, hc]
    rfl
  rw [← hall] at hmem
  rcases List.mem_append.mp hmem with hans | hwait
  · obtain ⟨ans, hans, heq⟩ := List.mem_map.mp hans
    exact Or.inl ⟨ans, hans, congrArg Prod.snd heq⟩
  · obtain ⟨msg, hmsg, hsub⟩ := List.mem_filterMap.mp hwait
    refine Or.inr (List.mem_filterMap.mpr ⟨msg, hmsg, ?_⟩)
    rcases msg with _ | num | ⟨r, tx⟩ | tx <;> cases hsub
    rfl

/-- What a poll of the future returns is the call's own. -/
theorem Served.earned (hs : h.Served profile) {k : ℕ} {c : HandleCall B}
    (hc : h.calls[k]? = some c) (hstate : c.state = .awaiting)
    {result : Except AddSimulationErr Unit} (hresult : h.pollRx k = some result) :
    h.Earned k c result := by
  rw [pollRx] at hresult
  rcases answered_cases h.task.service k with ⟨ans, hans, htx, heq⟩ | ⟨hnone, heq⟩ <;>
    simp only [heq] at hresult
  · cases hresult
    exact .answered (hs.awaits k c hc hstate) hans htx
  · by_cases hwait : k ∈ h.waiting
    · rw [if_pos hwait] at hresult
      cases hresult
    · rw [if_neg hwait] at hresult
      cases hresult
      refine .unavailable (Bool.eq_false_iff.mpr fun halive => ?_) hnone
      rcases answered_or_waiting (hs.alive halive).1 hc with ⟨ans, hans, htx⟩ | hwait'
      · exact hnone ans hans htx
      · exact hwait hwait'

/-- A call that is polled to its end, or dropped. -/
theorem Served.set (hs : h.Served profile) {k : ℕ} {c : HandleCall B} (hc : h.calls[k]? = some c)
    {state : CallState} (hawait : state ≠ .awaiting)
    (hstate : ∀ result, state = .returned result → h.Earned k c result) :
    ({ h with calls := h.calls.set k { c with state := state } } : CallHub B).Served profile := by
  have hsame := submissions_set (h := h) hc state
  have hearned : ∀ {k : ℕ} {c c' : HandleCall B} {result : Except AddSimulationErr Unit},
      c'.awaits = c.awaits → h.Earned k c result →
        ({ h with calls := h.calls.set k { c with state := state } } : CallHub B).Earned k c'
          result := by
    intro k c c' result hawaits hearned
    rcases hearned with ⟨hw, hans, htx⟩ | hw | ⟨hd, hnone⟩
    · exact .answered (hawaits.trans hw) hans htx
    · exact .sent (hawaits.trans hw)
    · exact .unavailable hd hnone
  refine ⟨hsame ▸ hs.order, fun halive => ?_, hs.dead, fun k' c' hc' hw => ?_,
    fun k' c' result hc' hres => ?_⟩
  · obtain ⟨hall, hatt⟩ := hs.alive halive
    exact ⟨hall.trans hsame.symm, hatt⟩
  · rcases (Search.getElem?_set_cases hc').symm with ⟨-, hc'⟩ | ⟨-, rfl⟩
    · exact hs.awaits k' c' hc' hw
    · exact absurd hw hawait
  · rcases (Search.getElem?_set_cases hc').symm with ⟨-, hc'⟩ | ⟨rfl, rfl⟩
    · exact (hs.returned k' c' result hc' hres).mono (List.prefix_refl _) fun hd => ⟨hd, rfl⟩
    · exact hearned (c := c) rfl (hstate result hres)

/-- **One step keeps the callers served.** -/
theorem Served.step (hs : h.Served profile) {a : CallAction B}
    (hstep : CallHub.step profile h a = .ok h') : h'.Served profile := by
  cases step_effect hstep with
  | runs halive ha htask => exact hs.task_step halive ha htask
  | tells hmsg htask =>
    by_cases halive : h.alive = true
    · exact hs.task_step halive hmsg htask
    · rw [send_of_dead (Bool.eq_false_iff.mpr halive) htask]
      exact hs
  | submits halive hstate htask => exact hs.submit halive hstate htask
  | fails hdead hstate => exact hs.fail hdead hstate
  | pending k => exact hs
  | returns hc hstate hresult =>
    refine hs.set hc (fun hawait => by cases hawait) fun result hres => ?_
    rw [← CallState.returned.inj hres]
    exact hs.earned hc hstate hresult
  | cancels hc =>
    exact hs.set hc (fun hawait => by cases hawait) fun result hres => by cases hres
  | dropService =>
    have hanswered : ({ h with task := { h.task with fromHandle := ⟨false, []⟩ } } :
        CallHub B).submitted <+: h.submitted := by
      rw [submitted, List.filterMap_nil, List.append_nil]
      exact List.prefix_append _ _
    refine ⟨hanswered.trans hs.order, fun halive => ?_, fun _ => rfl, hs.awaits,
      fun k c result hc hres => ?_⟩
    · cases halive
    · exact (hs.returned k c result hc hres).mono (List.prefix_refl _) fun _ => ⟨rfl, rfl⟩

theorem exec_served {run : List (CallAction B)}
    (hrun : exec (CallHub.step profile) (new n cfg) run = .ok h) : h.Served profile :=
  exec_invariant (fun _ _ _ hs hstep => hs.step hstep) served_new hrun

end Invariant

/-! ## The answers -/

/-- Every caller is served, and as its own call deserves it. -/
structure ServesCallers (h : CallHub B) : Prop where
  /-- The calls are answered in order, from the first one on, each with its own request. -/
  order : ∃ m ≤ h.calls.length,
    h.task.service.answeredSubmissions = h.submissions.take m
  /-- No call is answered twice. -/
  once : (h.task.service.world.answers.map Answer.tx).Nodup
  returned : ∀ k c result, h.calls[k]? = some c → c.state = .returned result →
    h.Earned k c result
  /-- A caller that was told so has its request accepted. -/
  accepted : ∀ (k : ℕ) (c : HandleCall B), h.calls[k]? = some c → c.awaits = true →
    c.state = .returned (.ok ()) → c.submission ∈ h.task.service.ledger.accepted

section Results

variable [Bundle B] {profile : BuildProfile} {h : CallHub B} {n : U64}
  {cfg : BundleSimulatorServiceConfig}

/-- **Every caller gets its own answer.**  Whatever the handles, the callers and the service do,
and in whichever order. -/
theorem calls_served {run : List (CallAction B)}
    (hrun : exec (CallHub.step profile) (new n cfg) run = .ok h) : h.ServesCallers := by
  have hs : h.Served profile := exec_served hrun
  have hseen : h.task.service.answeredSubmissions <+: h.submissions :=
    (List.prefix_append _ _).trans hs.order
  have htxs : h.task.service.world.answers.map Answer.tx =
      h.task.service.answeredSubmissions.map Prod.snd := by
    rw [BundleSimulatorService.answeredSubmissions, List.map_map]
    rfl
  have hrange : h.submissions.map Prod.snd = List.range h.calls.length := by
    rw [submissions, List.zipIdx_map_snd, List.length_map, List.range_eq_range']
  have hnodup : (h.task.service.world.answers.map Answer.tx).Nodup := by
    rw [htxs]
    refine (hseen.map Prod.snd).sublist.nodup ?_
    rw [hrange]
    exact List.nodup_range
  refine ⟨⟨h.task.service.answeredSubmissions.length, ?_, List.prefix_iff_eq_take.mp hseen⟩,
    hnodup, hs.returned, fun k c hc hawaits hok => ?_⟩
  · have hle := hseen.length_le
    rwa [submissions, List.length_zipIdx, List.length_map] at hle
  · have hearned := hs.returned k c (.ok ()) hc hok
    generalize hres : (Except.ok () : Except AddSimulationErr Unit) = result at hearned
    rcases hearned with ⟨-, hans, htx⟩ | hnot | ⟨-, -⟩
    · have hmem := List.mem_zipIdx_iff_getElem?.mp (hs.order.subset (mem_submitted_of_answer hans))
      rw [htx, List.getElem?_map, hc] at hmem
      exact BundleSimulatorService.mem_accepted.mpr
        ⟨_, hans, hres.symm, (Option.some.inj hmem).symm⟩
    · rw [hawaits] at hnot
      cases hnot
    · cases hres

/-- Two callers, and room for one request. -/
def twoCalls : List (CallAction SendBundleRequest) :=
  [.add (.new 5 none .v01 []) .default .normal, .add (.new 6 none .v01 []) .default .normal]

theorem calls_served_twoCalls :
    ∃ h, exec (CallHub.step ⟨true⟩) (new 7 BundleSimulatorService.tightConfig)
        (twoCalls ++ [.task .poll, .task .recv, .task .recv, .poll 1, .poll 0]) = .ok h ∧
      h.ServesCallers := by
  have hrun : ∃ h, exec (CallHub.step ⟨true⟩) (new 7 BundleSimulatorService.tightConfig)
      (twoCalls ++ [.task .poll, .task .recv, .task .recv, .poll 1, .poll 0]) = .ok h := ⟨_, rfl⟩
  obtain ⟨h, hrun⟩ := hrun
  exact ⟨h, hrun, calls_served hrun⟩

end Results

end CallHub
end Backend
end MevShare
