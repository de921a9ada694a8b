import Mathlib.Data.List.ReduceOption
import MevShare.Backend.Listeners
import MevShare.Backend.Poll

/-!
# The streams of the clients

`BundleSimulatorHandle::events` makes an event channel, sends its sending end to the
service and keeps the other end, as a `SimulationEventStream` or, after `results()`,
as a `SimulationResultStream`.  This file puts the service, as the task of
`Backend.Poll`, together with any number of such streams.

## Channels

A channel is known by its number, the number of channels made before it.  It is
unbounded and in order, so what it has carried is `received`, and a stream is
described by how much of it has been taken out.  It ends when its last sending end
is gone and everything has been taken out.  The sending ends are the one in the list
of the listeners and, before that, the one in the registration message; both go with
the service.

Only `events` sends a registration, and each with a channel of its own.  This is what
the statements about one channel in `Backend.Listeners` need, and it is proved here
(`Sound`).
-/

namespace MevShare
namespace Backend

open Rpc Rust Machine

variable {B : Type}

/-- `Poll<Option<T>>`, as a channel or a stream returns it. -/
inductive StreamPoll (α : Type) where
  | pending
  | ready (item : Option α)

/-- What `SimulatedBundle` events carry. -/
abbrev SimulationResult (B : Type) := Except (SimulatedBundleError B) (SimulatedBundle B)

/-- `SimulationEventStream::poll_next`, given what `poll_recv` returns. -/
def SimulationEventStream.pollNext (recv : StreamPoll (SimulationEvent B)) :
    StreamPoll (SimulationEvent B) := recv

/-- One turn of the loop of `SimulationResultStream::poll_next`, given what
`poll_recv` returns; `none` is `continue`. -/
def SimulationResultStream.turn : StreamPoll (SimulationEvent B) →
    Option (StreamPoll (SimulationResult B))
  | .pending => some .pending
  | .ready none => some (.ready none)
  | .ready (some (.simulatedBundle res)) => some (.ready (some res))
  | .ready (some _) => none

/-- The kind of a stream, and what it has yielded, oldest first. -/
inductive ClientStream (B : Type) where
  | events (yielded : List (Option (SimulationEvent B)))
  | results (yielded : List (Option (SimulationResult B)))

/-- The receiving end of an event channel. -/
structure EventReceiver (B : Type) where
  /-- How many events have been taken from the channel. -/
  read : ℕ
  stream : ClientStream B

/-- One turn of `poll_next`, given what `poll_recv` returns. -/
def EventReceiver.turn (r : EventReceiver B) (recv : StreamPoll (SimulationEvent B)) :
    EventReceiver B where
  read :=
    match recv with
    | .ready (some _) => r.read + 1
    | _ => r.read
  stream :=
    match r.stream with
    | .events yielded =>
        match SimulationEventStream.pollNext recv with
        | .ready item => .events (yielded ++ [item])
        | .pending => .events yielded
    | .results yielded =>
        match SimulationResultStream.turn recv with
        | some (.ready item) => .results (yielded ++ [item])
        | some .pending => .results yielded
        | none => .results yielded

/-- The service and the streams of its clients; a channel's number is its place in
the list. -/
structure EventHub (B : Type) where
  task : Task B
  receivers : List (EventReceiver B)

/-- What can happen. -/
inductive HubAction (B : Type) where
  /-- The service is polled, or something happens to it that is not about listeners. -/
  | task (a : TaskAction B)
  /-- `handle.events()`. -/
  | events
  /-- `handle.events().results()`. -/
  | results
  /-- The stream on the channel `tx` is polled: one turn of its loop. -/
  | next (tx : ℕ)
  /-- The client drops the stream on the channel `tx`. -/
  | drop (tx : ℕ)
  /-- The service is dropped. -/
  | dropService

/-- The channel of a registration. -/
def BundleSimulatorMessage.registration? : BundleSimulatorMessage B → Option ℕ
  | .addEventListener tx => some tx
  | _ => none

/-- The action is left to `events` and `drop`. -/
def TaskAction.aboutListeners : TaskAction B → Bool
  | .send (.addEventListener _) => true
  | .dropListener _ => true
  | _ => false

namespace EventHub

def new (currentBlockNumber : U64) (config : BundleSimulatorServiceConfig) : EventHub B :=
  ⟨Task.new currentBlockNumber config, []⟩

/-- The service has not been dropped. -/
def alive (h : EventHub B) : Bool := h.task.fromHandle.isOpen

/-- The one log of all events. -/
def log (h : EventHub B) : List (SimulationEvent B) := h.task.service.world.emitted

/-- What the channel `tx` has carried. -/
def received (h : EventHub B) (tx : ℕ) : List (SimulationEvent B) := h.task.service.received tx

/-- The stream on the channel has been dropped. -/
def Dropped (h : EventHub B) (tx : ℕ) : Prop := tx ∈ h.task.service.world.droppedListeners

instance (h : EventHub B) (tx : ℕ) : Decidable (h.Dropped tx) :=
  inferInstanceAs (Decidable (_ ∈ _))

/-- A sending end of the channel is left. -/
def hasSender (h : EventHub B) (tx : ℕ) : Bool :=
  h.alive && (decide (tx ∈ h.task.service.listeners) ||
    decide (tx ∈ h.task.fromHandle.messages.filterMap BundleSimulatorMessage.registration?))

/-- `poll_recv` on the receiving end `r` of the channel `tx`. -/
def pollRecv (h : EventHub B) (tx : ℕ) (r : EventReceiver B) : StreamPoll (SimulationEvent B) :=
  match (h.received tx)[r.read]? with
  | some event => .ready (some event)
  | none => if h.hasSender tx then .pending else .ready none

/-- `BundleSimulatorHandle::events`: `let _ = self.to_service.send(..)`. -/
def subscribe [Bundle B] (profile : BuildProfile) (h : EventHub B) (stream : ClientStream B) :
    Except Halt (EventHub B) :=
  match h.task.step profile (.send (.addEventListener h.receivers.length)) with
  | .error e => .error e
  | .ok task => .ok ⟨task, h.receivers ++ [⟨0, stream⟩]⟩

def step [Bundle B] (profile : BuildProfile) (h : EventHub B) :
    HubAction B → Except Halt (EventHub B)
  | .task a =>
      if h.alive && !a.aboutListeners then
        match h.task.step profile a with
        | .error e => .error e
        | .ok task => .ok { h with task := task }
      else .error .disabled
  | .events => h.subscribe profile (.events [])
  | .results => h.subscribe profile (.results [])
  | .next tx =>
      match h.receivers[tx]? with
      | none => .error .disabled
      | some r =>
          if h.Dropped tx then .error .disabled
          else .ok { h with receivers := h.receivers.set tx (r.turn (h.pollRecv tx r)) }
  | .drop tx =>
      if tx < h.receivers.length then
        .ok { h with task := { h.task with service := h.task.service.dropListener tx } }
      else .error .disabled
  | .dropService => .ok { h with task := { h.task with fromHandle := ⟨false, []⟩ } }

end EventHub

/-! ## One stream -/

/-- What the result stream is about. -/
def SimulationEvent.simulated? : SimulationEvent B → Option (SimulationResult B)
  | .simulatedBundle res => some res
  | _ => none

theorem SimulationResultStream.turn_ready (event : SimulationEvent B) :
    turn (.ready (some event)) = event.simulated?.map fun res => .ready (some res) := by
  cases event <;> rfl

/-- The stream has yielded what it has to yield of the events `taken`. -/
def ClientStream.Shows (taken : List (SimulationEvent B)) : ClientStream B → Prop
  | .events yielded => yielded.reduceOption = taken
  | .results yielded => yielded.reduceOption = taken.filterMap SimulationEvent.simulated?

/-- How often the stream has yielded `None`. -/
def ClientStream.ends : ClientStream B → ℕ
  | .events yielded => yielded.countP Option.isNone
  | .results yielded => yielded.countP Option.isNone

namespace EventReceiver

theorem turn_pending (r : EventReceiver B) : r.turn .pending = r := by
  obtain ⟨read, _ | _⟩ := r <;> rfl

theorem turn_none_shows {r : EventReceiver B} {taken : List (SimulationEvent B)}
    (h : r.stream.Shows taken) : (r.turn (.ready none)).stream.Shows taken := by
  obtain ⟨read, yielded | yielded⟩ := r
  · show (yielded ++ [none]).reduceOption = taken
    rw [List.reduceOption_append, List.reduceOption_singleton]
    exact (List.append_nil _).trans h
  · show (yielded ++ [none]).reduceOption = taken.filterMap SimulationEvent.simulated?
    rw [List.reduceOption_append, List.reduceOption_singleton]
    exact (List.append_nil _).trans h

/-- **A turn shows the event it takes**: the result stream yields it, or skips it and
goes on. -/
theorem turn_some_shows {r : EventReceiver B} {taken : List (SimulationEvent B)}
    (h : r.stream.Shows taken) (event : SimulationEvent B) :
    (r.turn (.ready (some event))).stream.Shows (taken ++ [event]) := by
  obtain ⟨read, yielded | yielded⟩ := r
  · show (yielded ++ [some event]).reduceOption = taken ++ [event]
    have hyielded : yielded.reduceOption = taken := h
    rw [List.reduceOption_append, List.reduceOption_singleton, hyielded]
    rfl
  · have hyielded : yielded.reduceOption = taken.filterMap SimulationEvent.simulated? := h
    have hturn := SimulationResultStream.turn_ready event
    rcases hsim : event.simulated? with _ | res
    · rw [hsim] at hturn
      simp only [turn, hturn, Option.map_none, ClientStream.Shows, List.filterMap_append,
        List.filterMap_cons, hsim, List.filterMap_nil, List.append_nil]
      exact hyielded
    · rw [hsim] at hturn
      simp only [turn, hturn, Option.map_some, ClientStream.Shows, List.filterMap_append,
        List.filterMap_cons, hsim, List.filterMap_nil]
      rw [List.reduceOption_append, List.reduceOption_singleton, hyielded]
      rfl

theorem turn_some_ends (r : EventReceiver B) (event : SimulationEvent B) :
    (r.turn (.ready (some event))).stream.ends = r.stream.ends := by
  obtain ⟨read, yielded | yielded⟩ := r
  · exact List.countP_append
  · have hturn := SimulationResultStream.turn_ready event
    rcases hsim : event.simulated? with _ | res
    · rw [hsim] at hturn
      simp only [turn, hturn, Option.map_none]
    · rw [hsim] at hturn
      simp only [turn, hturn, Option.map_some]
      exact List.countP_append

end EventReceiver

/-! ## The invariant -/

namespace EventHub

/-- The stream `r` on the channel `tx` has yielded what it has taken from the channel,
and it has ended only where the service is gone and nothing is left. -/
structure Follows (h : EventHub B) (tx : ℕ) (r : EventReceiver B) : Prop where
  read_le : r.read ≤ (h.received tx).length
  shows : r.stream.Shows ((h.received tx).take r.read)
  ended : r.stream.ends ≠ 0 → h.alive = false ∧ r.read = (h.received tx).length

/-- The registrations that were processed in a run of the service, and those that are
still on their way. -/
def registrations (h : EventHub B) (run : List (Action B)) : List ℕ :=
  run.filterMap Action.registration? ++
    h.task.fromHandle.messages.filterMap BundleSimulatorMessage.registration?

/-- What an action of the hub does to the service. -/
def action? (h : EventHub B) : HubAction B → Option (Action B)
  | .task a => h.task.action? a
  | .drop tx => some (.dropListener tx)
  | _ => none

/-- `run` is a run of the service that ends in its present state, and its listeners
are the channels of the hub: each is registered once, and in order, unless the
service was dropped before. -/
structure Registered [Bundle B] (profile : BuildProfile) (n : U64)
    (cfg : BundleSimulatorServiceConfig) (h : EventHub B) (run : List (Action B)) : Prop where
  exec : Machine.exec (Backend.step profile) (.new n cfg) run = .ok h.task.service
  listed : ∃ k, h.registrations run = List.range k ∧ k ≤ h.receivers.length ∧
    (h.alive = true → k = h.receivers.length)

/-- What is proved of every state of the hub; `run` is what the service has done. -/
structure Sound [Bundle B] (profile : BuildProfile) (n : U64) (cfg : BundleSimulatorServiceConfig)
    (h : EventHub B) (run : List (Action B)) : Prop where
  attended : h.alive = true → h.task.Attended profile
  registered : Registered profile n cfg h run
  follows : ∀ tx r, h.receivers[tx]? = some r → h.Follows tx r

end EventHub

theorem Action.eq_of_registration? {a : Action B} {tx : ℕ} (h : a.registration? = some tx) :
    a = .message (.addEventListener tx) := by
  unfold Action.registration? at h
  split at h
  case h_1 =>
    cases h
    rfl
  case h_2 => cases h

theorem filterMap_registration? (run : List (Action B)) :
    (run.filterMap Action.message?).filterMap BundleSimulatorMessage.registration? =
      run.filterMap Action.registration? := by
  rw [List.filterMap_filterMap]
  congr 1
  funext a
  rcases a with (_ | _ | _ | _) | _ | _ | _ <;> rfl

namespace EventHub

variable [Bundle B] {profile : BuildProfile} {n : U64} {cfg : BundleSimulatorServiceConfig}

/-- The processed registrations are an initial segment of the channels. -/
theorem Registered.range {h : EventHub B} {run : List (Action B)}
    (hreg : Registered profile n cfg h run) :
    ∃ m, run.filterMap Action.registration? = List.range m := by
  obtain ⟨k, hk, -, -⟩ := hreg.listed
  refine ⟨min (run.filterMap Action.registration?).length k, ?_⟩
  rw [← List.take_range, ← hk, registrations, List.take_left]

/-- Where a channel is registered in a run, the channels before it have been, and the
others have not. -/
theorem Registered.ordered {h : EventHub B} {pre post : List (Action B)} {tx : ℕ}
    (hreg : Registered profile n cfg h (pre ++ .message (.addEventListener tx) :: post)) :
    (∀ tx' ∈ pre.filterMap Action.registration?, tx' < tx) ∧
      ∀ tx' ∈ post.filterMap Action.registration?, tx < tx' := by
  obtain ⟨m, hm⟩ := hreg.range
  have hpair : ((pre ++ .message (.addEventListener tx) :: post).filterMap
      Action.registration?).Pairwise (· < ·) := by
    rw [hm]
    exact List.pairwise_lt_range
  rw [List.filterMap_append, List.pairwise_append] at hpair
  exact ⟨fun tx' htx' => hpair.2.2 tx' htx' tx List.mem_cons_self,
    (List.pairwise_cons.mp hpair.2.1).1⟩

omit [Bundle B] in
theorem exists_registration {run : List (Action B)} {tx : ℕ}
    (htx : tx ∈ run.filterMap Action.registration?) :
    ∃ pre post, run = pre ++ .message (.addEventListener tx) :: post := by
  obtain ⟨a, ha, hatx⟩ := List.mem_filterMap.mp htx
  rw [Action.eq_of_registration? hatx] at ha
  exact List.append_of_mem ha

/-- What a stream that has not been dropped has been sent: the log from where it was
registered. -/
theorem Registered.received_eq {h : EventHub B} {pre post : List (Action B)} {tx : ℕ}
    (hreg : Registered profile n cfg h (pre ++ .message (.addEventListener tx) :: post))
    (hdrop : ¬ h.Dropped tx) {s₀ : BundleSimulatorService B}
    (hs₀ : Machine.exec (Backend.step profile) (.new n cfg) pre = .ok s₀) :
    tx ∈ h.task.service.listeners ∧ h.received tx = h.log.drop s₀.world.emitted.length := by
  obtain ⟨hpre, hpost⟩ := hreg.ordered
  exact BundleSimulatorService.received_eq_drop hs₀ hreg.exec
    (fun htx => Nat.lt_irrefl tx (hpre tx htx)) (fun htx => Nat.lt_irrefl tx (hpost tx htx)) hdrop

/-- A stream that has not been dropped keeps a sending end as long as the service is
there. -/
theorem Registered.hasSender {h : EventHub B} {run : List (Action B)}
    (hreg : Registered profile n cfg h run) (halive : h.alive = true) {tx : ℕ}
    (htx : tx < h.receivers.length) (hdrop : ¬ h.Dropped tx) : h.hasSender tx = true := by
  rw [EventHub.hasSender, halive, Bool.true_and, Bool.or_eq_true, decide_eq_true_eq,
    decide_eq_true_eq]
  obtain ⟨k, hk, -, hcomplete⟩ := hreg.listed
  have hmem : tx ∈ h.registrations run := by
    rw [hk, hcomplete halive]
    exact List.mem_range.mpr htx
  rcases List.mem_append.mp hmem with hrun | hpending
  · obtain ⟨pre, post, rfl⟩ := exists_registration hrun
    obtain ⟨s₀, hs₀, -⟩ := exec_append.mp hreg.exec
    exact Or.inl (hreg.received_eq hdrop hs₀).1
  · exact Or.inr hpending

/-! ## Steps -/

omit [Bundle B] in
/-- The service has gone on, and with it the channel. -/
theorem Follows.extend {h h' : EventHub B} {tx : ℕ} {r : EventReceiver B} (hf : h.Follows tx r)
    (halive : h.alive = true) (hext : h.received tx <+: h'.received tx) : h'.Follows tx r := by
  obtain ⟨es, hes⟩ := hext
  refine ⟨?_, ?_, fun hends => ?_⟩
  · rw [← hes, List.length_append]
    exact Nat.le_add_right_of_le hf.read_le
  · rw [← hes, List.take_append_of_le_length hf.read_le]
    exact hf.shows
  · rw [(hf.ended hends).1] at halive
    cases halive

omit [Bundle B] in
/-- The channel is as before, and so is the service unless it has been dropped. -/
theorem Follows.congr {h h' : EventHub B} {tx : ℕ} {r : EventReceiver B} (hf : h.Follows tx r)
    (hreceived : h'.received tx = h.received tx) (halive : h'.alive = false ∨ h'.alive = h.alive) :
    h'.Follows tx r := by
  refine ⟨hreceived ▸ hf.read_le, hreceived ▸ hf.shows, fun hends => ?_⟩
  obtain ⟨hdead, hread⟩ := hf.ended hends
  refine ⟨?_, hreceived ▸ hread⟩
  rcases halive with hdead' | hsame
  · exact hdead'
  · rw [hsame, hdead]

omit [Bundle B] in
/-- **One turn of a stream**: it takes the next event, waits for it, or ends. -/
theorem Follows.turn {h : EventHub B} {tx : ℕ} {r : EventReceiver B} (hf : h.Follows tx r)
    (hsender : h.alive = true → h.hasSender tx = true) :
    h.Follows tx (r.turn (h.pollRecv tx r)) := by
  unfold pollRecv
  rcases hnext : (h.received tx)[r.read]? with _ | event
  · have hread : r.read = (h.received tx).length :=
      Nat.le_antisymm hf.read_le (List.getElem?_eq_none_iff.mp hnext)
    by_cases hsend : h.hasSender tx = true
    · simp only [if_pos hsend]
      rw [r.turn_pending]
      exact hf
    · simp only [if_neg hsend]
      refine ⟨hf.read_le, EventReceiver.turn_none_shows hf.shows, fun _ => ⟨?_, hread⟩⟩
      rcases halive : h.alive with _ | _
      · rfl
      · exact absurd (hsender halive) hsend
  · obtain ⟨hlt, hget⟩ := List.getElem?_eq_some_iff.mp hnext
    refine ⟨hlt, ?_, fun hends => ?_⟩
    · show (r.turn (.ready (some event))).stream.Shows ((h.received tx).take (r.read + 1))
      rw [List.take_succ_eq_append_getElem hlt, hget]
      exact EventReceiver.turn_some_shows hf.shows event
    · rw [EventReceiver.turn_some_ends] at hends
      have hread := (hf.ended hends).2
      omega

/-- The service is polled, or something happens to it that is not about listeners. -/
theorem Sound.task {h : EventHub B} {run : List (Action B)} (hs : h.Sound profile n cfg run)
    (halive : h.alive = true) {a : TaskAction B} (ha : a.aboutListeners = false) {task : Task B}
    (hstep : h.task.step profile a = .ok task) :
    ({ h with task := task } : EventHub B).Sound profile n cfg
      (run ++ (h.task.action? a).toList) := by
  have hattended := hs.attended halive
  have hprojects := hattended.projects hstep
  have hsent : (Task.sent? a).toList.filterMap BundleSimulatorMessage.registration? = [] := by
    rcases a with (_ | _ | _ | _) | _ | _ | _ | _ | _ | _ | _ <;> first | rfl | cases ha
  -- the registrations that have arrived are those that are no longer on their way
  have hregs : EventHub.registrations { h with task := task } (run ++ (h.task.action? a).toList) =
      h.registrations run := by
    have hpending := congrArg (List.filterMap BundleSimulatorMessage.registration?)
      hprojects.messages
    rw [List.filterMap_append, List.filterMap_append, hsent, List.append_nil,
      filterMap_registration?] at hpending
    rw [registrations, registrations, List.filterMap_append, List.append_assoc, hpending]
  refine ⟨fun _ => hattended.step hstep, ⟨?_, ?_⟩, fun tx r hr => ?_⟩
  · exact exec_append.mpr ⟨_, hs.registered.exec, hprojects.exec⟩
  · obtain ⟨k, hk, hle, hcomplete⟩ := hs.registered.listed
    exact ⟨k, hregs.trans hk, hle, fun _ => hcomplete halive⟩
  · exact (hs.follows tx r hr).extend halive
      ((BundleSimulatorService.exec_extends hprojects.exec).received tx)

/-- A client asks for a stream. -/
theorem Sound.subscribe {h h' : EventHub B} {run : List (Action B)}
    (hs : h.Sound profile n cfg run) {stream : ClientStream B} (hshows : stream.Shows [])
    (hends : stream.ends = 0) (hstep : h.subscribe profile stream = .ok h') :
    h'.Sound profile n cfg run := by
  obtain ⟨k, hk, hle, hcomplete⟩ := hs.registered.listed
  rw [EventHub.subscribe] at hstep
  rcases htask : h.task.step profile (.send (.addEventListener h.receivers.length)) with e | task
  · rw [htask] at hstep
    cases hstep
  · rw [htask] at hstep
    cases hstep
    have hlen : (h.receivers ++ [(⟨0, stream⟩ : EventReceiver B)]).length =
        h.receivers.length + 1 := List.length_append
    -- the old streams keep their channels, the new one has taken nothing
    have hfollows : ∀ g : EventHub B, g.received = h.received → g.alive = h.alive → ∀ tx r,
        (h.receivers ++ [(⟨0, stream⟩ : EventReceiver B)])[tx]? = some r → g.Follows tx r := by
      intro g hreceived halive tx r hr
      by_cases htx : tx < h.receivers.length
      · rw [List.getElem?_append_left htx] at hr
        exact (hs.follows tx r hr).congr (congrFun hreceived tx) (Or.inr halive)
      · rw [List.getElem?_append_right (Nat.not_lt.mp htx)] at hr
        rw [List.mem_singleton.mp (List.mem_of_getElem? hr)]
        exact ⟨Nat.zero_le _, hshows, fun hne => absurd hends hne⟩
    rcases Task.step_effect htask with ⟨_, hopen⟩ | ⟨_, hopen⟩
    · have hdead : ∀ p : Prop, h.alive = true → p := fun p halive =>
        absurd halive (Bool.eq_false_iff.mp hopen)
      exact ⟨hdead _, ⟨hs.registered.exec, k, hk, hlen ▸ Nat.le_succ_of_le hle, hdead _⟩,
        hfollows _ rfl rfl⟩
    · refine ⟨fun _ => (hs.attended hopen).step htask, ⟨hs.registered.exec, k + 1, ?_, ?_, ?_⟩,
        hfollows _ rfl rfl⟩
      · rw [registrations, List.filterMap_append, ← List.append_assoc]
        rw [registrations] at hk
        rw [hk, List.range_succ, hcomplete hopen]
        rfl
      · rw [hlen]
        exact Nat.succ_le_succ hle
      · rw [hlen, hcomplete hopen]
        exact fun _ => rfl

/-- A stream is polled. -/
theorem Sound.next {h : EventHub B} {run : List (Action B)} (hs : h.Sound profile n cfg run)
    {tx : ℕ} {r : EventReceiver B} (hr : h.receivers[tx]? = some r) (hdrop : ¬ h.Dropped tx) :
    ({ h with receivers := h.receivers.set tx (r.turn (h.pollRecv tx r)) } : EventHub B).Sound
      profile n cfg run := by
  have htx : tx < h.receivers.length := (List.getElem?_eq_some_iff.mp hr).1
  refine ⟨hs.attended, ⟨hs.registered.exec, ?_⟩, fun tx' r' hr' => ?_⟩
  · obtain ⟨k, hk, hle, hcomplete⟩ := hs.registered.listed
    rw [List.length_set]
    exact ⟨k, hk, hle, hcomplete⟩
  · by_cases heq : tx = tx'
    · subst heq
      rw [List.getElem?_set_self htx, Option.some.injEq] at hr'
      rw [← hr']
      exact ((hs.follows tx r hr).turn fun halive =>
        hs.registered.hasSender halive htx hdrop).congr rfl (Or.inr rfl)
    · rw [List.getElem?_set_ne heq] at hr'
      exact (hs.follows tx' r' hr').congr rfl (Or.inr rfl)

/-- A client drops its stream. -/
theorem Sound.drop {h h' : EventHub B} {run : List (Action B)} (hs : h.Sound profile n cfg run)
    {tx : ℕ} (htask : h'.task = { h.task with service := h.task.service.dropListener tx })
    (hreceivers : h'.receivers = h.receivers) :
    h'.Sound profile n cfg (run ++ [.dropListener tx]) := by
  have halive : h'.alive = h.alive := by
    rw [alive, alive, htask]
  have hreceived : h'.received = h.received := by
    funext tx'
    rw [received, received, htask]
    rfl
  have hregs : h'.registrations (run ++ [.dropListener tx]) = h.registrations run := by
    rw [registrations, registrations, htask, List.filterMap_append]
    exact congrArg (· ++ _) (List.append_nil _)
  refine ⟨fun h'alive => ?_, ⟨?_, ?_⟩, fun tx' r hr => ?_⟩
  · rw [htask]
    exact (hs.attended (halive ▸ h'alive)).step (a := .dropListener tx) rfl
  · rw [htask]
    exact exec_concat.mpr ⟨_, hs.registered.exec, rfl⟩
  · rw [hregs, hreceivers, halive]
    exact hs.registered.listed
  · rw [hreceivers] at hr
    exact (hs.follows tx' r hr).congr (congrFun hreceived tx') (Or.inr halive)

/-- The service is dropped, and with it the messages on their way. -/
theorem Sound.dropService {h : EventHub B} {run : List (Action B)}
    (hs : h.Sound profile n cfg run) :
    ({ h with task := { h.task with fromHandle := ⟨false, []⟩ } } : EventHub B).Sound
      profile n cfg run := by
  refine ⟨fun halive => (by cases halive), ⟨hs.registered.exec, ?_⟩,
    fun tx r hr => (hs.follows tx r hr).congr rfl (Or.inl rfl)⟩
  obtain ⟨k, hk, hle, -⟩ := hs.registered.listed
  refine ⟨min (run.filterMap Action.registration?).length k, ?_, ?_, fun halive => ?_⟩
  · rw [← List.take_range, ← hk, registrations, registrations, List.take_left]
    exact List.append_nil _
  · exact Nat.le_trans (Nat.min_le_right _ _) hle
  · cases halive

theorem Sound.step {h h' : EventHub B} {run : List (Action B)} {a : HubAction B}
    (hs : h.Sound profile n cfg run) (hstep : h.step profile a = .ok h') :
    h'.Sound profile n cfg (run ++ (h.action? a).toList) := by
  have hnone : h'.Sound profile n cfg run → h'.Sound profile n cfg (run ++ []) := fun hs' => by
    rwa [List.append_nil]
  rcases a with a | _ | _ | tx | tx | _
  · rw [EventHub.step] at hstep
    split at hstep
    case isTrue hcond =>
      rw [Bool.and_eq_true, Bool.not_eq_true'] at hcond
      rcases htask : h.task.step profile a with e | task
      · rw [htask] at hstep
        cases hstep
      · rw [htask] at hstep
        cases hstep
        exact hs.task hcond.1 hcond.2 htask
    case isFalse => cases hstep
  · refine hnone (hs.subscribe ?_ ?_ hstep) <;> rfl
  · refine hnone (hs.subscribe ?_ ?_ hstep) <;> rfl
  · rw [EventHub.step] at hstep
    rcases hr : h.receivers[tx]? with _ | r
    · rw [hr] at hstep
      cases hstep
    · by_cases hdrop : h.Dropped tx
      · simp only [hr, if_pos hdrop] at hstep
        cases hstep
      · simp only [hr, if_neg hdrop] at hstep
        cases hstep
        exact hnone (hs.next hr hdrop)
  · rw [EventHub.step] at hstep
    split at hstep
    case isTrue htx =>
      cases hstep
      exact hs.drop rfl rfl
    case isFalse => cases hstep
  · cases hstep
    exact hnone hs.dropService

/-- A run of the hub, as a run of its service. -/
theorem Sound.exec {h h' : EventHub B} {run : List (Action B)} {hubRun : List (HubAction B)}
    (hs : h.Sound profile n cfg run)
    (hrun : Machine.exec (EventHub.step profile) h hubRun = .ok h') :
    ∃ actions, h'.Sound profile n cfg (run ++ actions) := by
  induction hubRun generalizing h run with
  | nil =>
    cases hrun
    exact ⟨[], by rwa [List.append_nil]⟩
  | cons a hubRun ih =>
    obtain ⟨g, hg, hh'⟩ := exec_cons.mp hrun
    obtain ⟨actions, hactions⟩ := ih (hs.step hg) hh'
    exact ⟨(h.action? a).toList ++ actions, by rwa [← List.append_assoc]⟩

/-! ## What the listeners see -/

/-- Two listeners; the first is dropped between two updates of the block number. -/
def hubRun : List (HubAction SendBundleRequest) :=
  [.events, .results, .task .poll, .task .recv, .task (.send (.updateBlockNumber 8)),
    .task .recv, .task .recv, .next 0, .drop 0, .task (.send (.updateBlockNumber 9)),
    .task .recv, .next 1, .next 1, .next 1]

end EventHub
end Backend
end MevShare
