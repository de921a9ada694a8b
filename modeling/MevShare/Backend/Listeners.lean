import MevShare.Backend.Limits

/-!
# What a listener receives

Events are emitted from five places, and `notify_listeners` prunes the list of the
listeners while it sends.  None of this is seen by a listener: from the moment its
registration is processed until it is dropped, it receives every event that is
emitted, once and in order (`received_eq_drop`).  The steps of the service are
compared through `Hears`, which says how much of the log a channel has received
between two states.

## Block updates

With this the `BlockNumberUpdated` events of a listener can be compared with the
block numbers that the service went through.  `changes` reads them off the messages.
The event is sent exactly where the number changes and its `old` is right, but its
`current` is the number that was read before the update, not the one that was
stored.  So the events describe the history only where there is no event at all
(`describesHistory_iff`).
-/

namespace MevShare
namespace Backend

open Rpc Rust Draw Machine

variable {B : Type}

/-- The channel of an action that processes the registration of a listener. -/
def Action.registration? : Action B → Option ℕ
  | .message (.addEventListener tx) => some tx
  | _ => none

namespace BundleSimulatorService

/-- The events that were sent on a channel, oldest first. -/
def received (s : BundleSimulatorService B) (tx : ℕ) : List (SimulationEvent B) :=
  s.world.delivered.filterMap fun d => if d.1 = tx then some d.2 else none

/-- From `s` to `t` the events `es` were emitted, and each was sent on the channel
`tx` as often as the channel is listed. -/
structure Hears (tx : ℕ) (s t : BundleSimulatorService B) (es : List (SimulationEvent B)) :
    Prop where
  count : t.listeners.count tx = s.listeners.count tx
  emitted : t.world.emitted = s.world.emitted ++ es
  received : t.received tx =
    s.received tx ++ es.flatMap (List.replicate (s.listeners.count tx))

theorem Hears.refl (tx : ℕ) (s : BundleSimulatorService B) : Hears tx s s [] :=
  ⟨rfl, (List.append_nil _).symm, (List.append_nil _).symm⟩

theorem Hears.trans {tx : ℕ} {s t u : BundleSimulatorService B} {es fs : List (SimulationEvent B)}
    (h : Hears tx s t es) (h' : Hears tx t u fs) : Hears tx s u (es ++ fs) := by
  refine ⟨h'.count.trans h.count, ?_, ?_⟩
  · rw [h'.emitted, h.emitted, List.append_assoc]
  · rw [h'.received, h.received, h.count, List.flatMap_append, List.append_assoc]

/-- Where the listeners, the log and the channels are left alone, nothing is heard. -/
theorem Hears.of_eq {tx : ℕ} {s t : BundleSimulatorService B}
    (hlisteners : t.listeners = s.listeners)
    (hdelivered : t.world.delivered = s.world.delivered)
    (hemitted : t.world.emitted = s.world.emitted) : Hears tx s t [] := by
  refine ⟨by rw [hlisteners], by rw [hemitted, List.append_nil], ?_⟩
  rw [BundleSimulatorService.received, hdelivered]
  exact (List.append_nil _).symm

theorem filterMap_map_prod (tx : ℕ) (e : SimulationEvent B) (ls : List ℕ) :
    (ls.map fun l => (l, e)).filterMap (fun d => if d.1 = tx then some d.2 else none) =
      List.replicate (ls.count tx) e := by
  induction ls with
  | nil => rfl
  | cons l ls ih =>
    rw [List.map_cons, List.filterMap_cons, ih]
    by_cases hl : l = tx
    · subst hl
      rw [List.count_cons_self, List.replicate_succ]
      simp only [if_true]
    · rw [List.count_cons_of_ne hl]
      simp only [if_neg hl]

/-- **Pruning costs no one an event.**  What is sent on a channel whose receiver is
there does not depend on the other receivers. -/
theorem Hears.notifyListeners {tx : ℕ} (s : BundleSimulatorService B)
    (hlive : tx ∉ s.world.droppedListeners) (e : SimulationEvent B) :
    Hears tx s (s.notifyListeners e) [e] := by
  have hcount : (s.listeners.filter fun l => decide (l ∉ s.world.droppedListeners)).count tx =
      s.listeners.count tx := by
    rw [List.count_filter]
    exact decide_eq_true hlive
  refine ⟨hcount, rfl, ?_⟩
  show (s.world.delivered ++ _).filterMap _ = _
  rw [List.filterMap_append, filterMap_map_prod, hcount, List.flatMap_singleton]
  rfl

theorem Hears.notifyAll {tx : ℕ} (s : BundleSimulatorService B)
    (hlive : tx ∉ s.world.droppedListeners) (es : List (SimulationEvent B)) :
    Hears tx s (s.notifyAll es) es := by
  induction es generalizing s with
  | nil => exact Hears.refl tx s
  | cons e es ih => exact (Hears.notifyListeners s hlive e).trans (ih (s.notifyListeners e) hlive)

/-- One step of the service, as a live channel hears it. -/
theorem step_hears [Bundle B] {profile : BuildProfile} {s t : BundleSimulatorService B}
    {a : Action B} {tx : ℕ} (h : step profile s a = .ok t) (ha : a.registration? ≠ some tx)
    (hlive : tx ∉ s.world.droppedListeners) : ∃ es, Hears tx s t es := by
  cases step_effect h with
  | clearQueue => exact ⟨[], Hears.of_eq rfl rfl rfl⟩
  | addEventListener tx' =>
    have hne : tx' ≠ tx := fun heq => ha (congrArg some heq)
    refine ⟨[], ?_, (List.append_nil _).symm, (List.append_nil _).symm⟩
    rw [List.count_append, List.count_singleton, beq_eq_false_iff_ne.mpr hne]
    rfl
  | sameBlockNumber => exact ⟨[], Hears.refl tx s⟩
  | @newBlockNumber num hnum =>
    have hsame : Hears tx s { s with inner := { s.inner with currentBlockNumber := num } } [] :=
      Hears.of_eq rfl rfl rfl
    refine ⟨_, hsame.trans (Hears.notifyListeners _ ?_ _)⟩
    exact hlive
  | @accept r tx' hcap =>
    have hlisteners : (s.push r).listeners = s.listeners := by
      unfold push
      cases r.priority <;> rfl
    refine ⟨[], Hears.of_eq hlisteners ?_ ?_⟩ <;> rw [answer, push_world]
  | refuse tx' hcap => exact ⟨[], Hears.of_eq rfl rfl rfl⟩
  | @report id out pre post r e hsims hpending hrep =>
    have hsame : Hears tx s (s.cutSimulation pre post id out) [] := Hears.of_eq rfl rfl rfl
    exact ⟨_, hsame.trans (Hears.notifyListeners (s.cutSimulation pre post id out) hlive e)⟩
  | @requeue id error pre post r hsims hpending hretries =>
    have hlisteners : ∀ r' : SimulationRequest B,
        ((s.cutSimulation pre post id (.reschedule error)).push r').listeners = s.listeners := by
      intro r'
      unfold push
      cases r'.priority <;> rfl
    refine ⟨[], Hears.of_eq (hlisteners _) ?_ ?_⟩ <;> rw [push_world] <;> rfl
  | full now hcap => exact ⟨[], Hears.refl tx s⟩
  | @batch now nextBlock started dropped q' hcap hadd hb =>
    have hall : Hears tx (s.withQueues q') _ _ :=
      Hears.notifyAll (s.withQueues q') hlive (dropped.map (outdatedEvent nextBlock))
    refine ⟨dropped.map (outdatedEvent nextBlock), ?_⟩
    rw [afterBatch, foldl_startSimulation]
    exact ⟨hall.count, hall.emitted, hall.received⟩
  | dropListener tx' => exact ⟨[], Hears.of_eq rfl rfl rfl⟩

/-- The log and the channels only grow. -/
def Extends (s t : BundleSimulatorService B) : Prop :=
  s.world.emitted <+: t.world.emitted ∧ s.world.delivered <+: t.world.delivered

theorem Extends.refl (s : BundleSimulatorService B) : Extends s s :=
  ⟨List.prefix_refl _, List.prefix_refl _⟩

theorem Extends.trans {s t u : BundleSimulatorService B} (h : Extends s t) (h' : Extends t u) :
    Extends s u :=
  ⟨h.1.trans h'.1, h.2.trans h'.2⟩

theorem extends_notifyListeners (s : BundleSimulatorService B) (e : SimulationEvent B) :
    Extends s (s.notifyListeners e) :=
  ⟨List.prefix_append _ _, List.prefix_append _ _⟩

theorem extends_notifyAll (s : BundleSimulatorService B) (es : List (SimulationEvent B)) :
    Extends s (s.notifyAll es) := by
  induction es generalizing s with
  | nil => exact Extends.refl s
  | cons e es ih => exact (extends_notifyListeners s e).trans (ih (s.notifyListeners e))

theorem step_extends [Bundle B] {profile : BuildProfile} {s t : BundleSimulatorService B}
    {a : Action B} (h : step profile s a = .ok t) : Extends s t := by
  cases step_effect h with
  | newBlockNumber hnum => exact extends_notifyListeners _ _
  | accept tx hcap =>
    rw [Extends, answer, push_world]
    exact ⟨List.prefix_refl _, List.prefix_refl _⟩
  | @report id out pre post r e hsims hpending hrep =>
    exact extends_notifyListeners (s.cutSimulation pre post id out) e
  | requeue error hsims hpending hretries =>
    rw [Extends, push_world]
    exact ⟨List.prefix_refl _, List.prefix_refl _⟩
  | @batch now nextBlock started dropped q' hcap hadd hb =>
    have hall := extends_notifyAll (s.withQueues q') (dropped.map (outdatedEvent nextBlock))
    rw [afterBatch, foldl_startSimulation]
    exact hall
  | _ => exact Extends.refl s

theorem exec_extends [Bundle B] {profile : BuildProfile} {s t : BundleSimulatorService B}
    {run : List (Action B)} (h : exec (step profile) s run = .ok t) : Extends s t :=
  exec_invariant (I := Extends s) (fun _ _ _ hs hstep => hs.trans (step_extends hstep))
    (Extends.refl s) h

theorem Extends.received {s t : BundleSimulatorService B} (h : Extends s t) (tx : ℕ) :
    s.received tx <+: t.received tx := by
  obtain ⟨ds, hds⟩ := h.2
  rw [BundleSimulatorService.received, BundleSimulatorService.received, ← hds,
    List.filterMap_append]
  exact List.prefix_append _ _

/-- A receiver that has been dropped stays dropped. -/
theorem step_droppedListeners [Bundle B] {profile : BuildProfile} {s t : BundleSimulatorService B}
    {a : Action B} (h : step profile s a = .ok t) :
    s.world.droppedListeners ⊆ t.world.droppedListeners := by
  cases step_effect h with
  | accept tx hcap =>
    rw [answer, push_world]
    exact List.Subset.refl _
  | requeue error hsims hpending hretries =>
    rw [push_world]
    exact List.Subset.refl _
  | batch hcap hadd hb =>
    obtain ⟨delivered, hworld⟩ := s.afterBatch_world _ _ _ _
    rw [hworld]
    exact List.Subset.refl _
  | dropListener tx => exact List.subset_append_left _ _
  | _ => exact List.Subset.refl _

/-- A run of the service, as a channel hears it that is live to the end. -/
theorem exec_hears [Bundle B] {profile : BuildProfile} {s t : BundleSimulatorService B}
    {run : List (Action B)} {tx : ℕ} (h : exec (step profile) s run = .ok t)
    (hrun : tx ∉ run.filterMap Action.registration?) (hlive : tx ∉ t.world.droppedListeners) :
    ∃ es, Hears tx s t es := by
  induction run using List.reverseRecOn generalizing t with
  | nil =>
    cases h
    exact ⟨[], Hears.refl tx s⟩
  | append_singleton run a ih =>
    obtain ⟨u, hu, hlast⟩ := exec_concat.mp h
    rw [List.filterMap_append, List.mem_append, not_or] at hrun
    have hlive' : tx ∉ u.world.droppedListeners := fun hmem =>
      hlive (step_droppedListeners hlast hmem)
    have ha : a.registration? ≠ some tx := fun ha =>
      hrun.2 (List.mem_filterMap.mpr ⟨a, List.mem_singleton_self a, ha⟩)
    obtain ⟨es, hes⟩ := ih hu hrun.1 hlive'
    obtain ⟨fs, hfs⟩ := step_hears hlast ha hlive'
    exact ⟨es ++ fs, hes.trans hfs⟩

/-- Before its registration is processed, a channel is not listed. -/
theorem count_listeners_eq_zero [Bundle B] {profile : BuildProfile} {n : U64}
    {cfg : BundleSimulatorServiceConfig} {run : List (Action B)} {s : BundleSimulatorService B}
    {tx : ℕ} (h : exec (step profile) (new n cfg) run = .ok s)
    (hrun : tx ∉ run.filterMap Action.registration?) (hlive : tx ∉ s.world.droppedListeners) :
    s.listeners.count tx = 0 ∧ s.received tx = [] := by
  obtain ⟨es, hes⟩ := exec_hears h hrun hlive
  refine ⟨hes.count, ?_⟩
  rw [hes.received]
  show [] ++ es.flatMap (List.replicate 0) = []
  simp

/-- **A listener receives a suffix of the log without gaps**: exactly the events that
are emitted after its registration is processed. -/
theorem received_eq_drop [Bundle B] {profile : BuildProfile} {n : U64}
    {cfg : BundleSimulatorServiceConfig} {pre post : List (Action B)} {tx : ℕ}
    {s₀ s : BundleSimulatorService B} (hpre : exec (step profile) (new n cfg) pre = .ok s₀)
    (h : exec (step profile) (new n cfg) (pre ++ .message (.addEventListener tx) :: post) = .ok s)
    (hfirst : tx ∉ pre.filterMap Action.registration?)
    (honly : tx ∉ post.filterMap Action.registration?) (hlive : tx ∉ s.world.droppedListeners) :
    tx ∈ s.listeners ∧ s.received tx = s.world.emitted.drop s₀.world.emitted.length := by
  obtain ⟨u, hu, hrest⟩ := exec_append.mp h
  rw [hpre, Except.ok.injEq] at hu
  subst hu
  obtain ⟨s₁, hs₁, hpost⟩ := exec_cons.mp hrest
  cases hs₁
  obtain ⟨es, hes⟩ := exec_hears hpost honly hlive
  have hlive₀ : tx ∉ s₀.world.droppedListeners := fun hmem =>
    hlive (exec_invariant (I := fun s => tx ∈ s.world.droppedListeners)
      (fun _ _ _ hs hstep => step_droppedListeners hstep hs) hmem hrest)
  obtain ⟨hcount₀, hreceived₀⟩ := count_listeners_eq_zero hpre hfirst hlive₀
  have hcount : (s₀.listeners ++ [tx]).count tx = 1 := by
    rw [List.count_append, hcount₀, List.count_singleton_self]
  have hreceived : s.received tx = s₀.received tx ++ es.flatMap (List.replicate 1) := by
    have hes' := hes.received
    rwa [onMessage, hcount] at hes'
  refine ⟨List.count_pos_iff.mp ?_, ?_⟩
  · rw [hes.count, onMessage, hcount]
    exact Nat.one_pos
  · have hsingle : es.flatMap (List.replicate 1) = es := List.flatMap_singleton' es
    rw [hreceived, hreceived₀, hsingle, hes.emitted, onMessage, List.drop_left]
    rfl

end BundleSimulatorService

/-! ## The history of the block number -/

/-- What an action does to the block number `n`: the numbers before and after it, if
they differ. -/
def Action.blockChange? (n : U64) : Action B → Option (U64 × U64)
  | .message (.updateBlockNumber num) => if num ≠ n then some (n, num) else none
  | _ => none

/-- The changes of the block number in a run that starts with the number `n`. -/
def changes (n : U64) : List (Action B) → List (U64 × U64)
  | [] => []
  | a :: as =>
      match a.blockChange? n with
      | some c => c :: changes c.2 as
      | none => changes n as

/-- The numbers that a block update reports, `old` first. -/
def SimulationEvent.blockUpdate? : SimulationEvent B → Option (U64 × U64)
  | .blockNumberUpdated old current => some (old, current)
  | _ => none

theorem SimulationEvent.blockUpdate?_of_subject {e : SimulationEvent B} {x : B × SimBundleOverrides}
    (h : e.subject = some x) : e.blockUpdate? = none := by
  cases e with
  | blockNumberUpdated old current => cases h
  | _ => rfl

namespace BundleSimulatorService

/-- What a step reports of the block number: a change is reported with the number
before it, twice. -/
def Reports (s : BundleSimulatorService B) (a : Action B) (t : BundleSimulatorService B) : Prop :=
  t.world.emitted.filterMap SimulationEvent.blockUpdate? =
      s.world.emitted.filterMap SimulationEvent.blockUpdate? ++
        (a.blockChange? s.currentBlockNumber).toList.map (fun c => (c.1, c.1)) ∧
    t.currentBlockNumber =
      ((a.blockChange? s.currentBlockNumber).map Prod.snd).getD s.currentBlockNumber

/-- A step that is about something else. -/
theorem Reports.of_none {s t : BundleSimulatorService B} {a : Action B}
    (es : List (SimulationEvent B)) (ha : a.blockChange? s.currentBlockNumber = none)
    (hinner : t.inner = s.inner) (hemitted : t.world.emitted = s.world.emitted ++ es)
    (hes : es.filterMap SimulationEvent.blockUpdate? = []) : Reports s a t := by
  rw [Reports, ha, hemitted, List.filterMap_append, hes, currentBlockNumber, hinner]
  exact ⟨rfl, rfl⟩

theorem step_reports [Bundle B] {profile : BuildProfile} {s t : BundleSimulatorService B}
    {a : Action B} (h : step profile s a = .ok t) : Reports s a t := by
  have hnil : ∀ es : List (SimulationEvent B), es = es ++ [] := fun es => (List.append_nil es).symm
  cases step_effect h with
  | @newBlockNumber num hnum =>
    rw [Reports, Action.blockChange?, if_pos hnum]
    refine ⟨?_, rfl⟩
    show (s.world.emitted ++ [_]).filterMap _ = _
    rw [List.filterMap_append]
    rfl
  | sameBlockNumber =>
    have hsame : (Action.message (B := B) (.updateBlockNumber s.currentBlockNumber)).blockChange?
        s.currentBlockNumber = none := by
      rw [Action.blockChange?, if_neg (not_not.mpr rfl)]
    exact Reports.of_none [] hsame rfl (hnil _) rfl
  | @accept r tx hcap =>
    refine Reports.of_none [] rfl (push_inner s r) ?_ rfl
    rw [answer, push_world]
    exact hnil _
  | @report id out pre post r e hsims hpending hrep =>
    refine Reports.of_none [e] rfl rfl rfl ?_
    rw [List.filterMap_cons, SimulationEvent.blockUpdate?_of_subject (report_subject hrep)]
    rfl
  | @requeue id error pre post r hsims hpending hretries =>
    refine Reports.of_none [] rfl (push_inner _ _) ?_ rfl
    rw [push_world]
    exact hnil _
  | @batch now nextBlock started dropped q' hcap hadd hb =>
    obtain ⟨delivered, hworld⟩ := s.afterBatch_world nextBlock started dropped q'
    refine Reports.of_none (dropped.map (outdatedEvent nextBlock)) rfl
      (afterBatch_inner _ _ _ _ _) ?_ ?_
    · rw [hworld]
    · rw [List.filterMap_map]
      exact List.filterMap_eq_nil_iff.mpr fun r _ => rfl
  | _ => exact Reports.of_none [] rfl rfl (hnil _) rfl

theorem exec_blocks [Bundle B] {profile : BuildProfile} {s t : BundleSimulatorService B}
    {run : List (Action B)} (h : exec (step profile) s run = .ok t) :
    t.world.emitted.filterMap SimulationEvent.blockUpdate? =
      s.world.emitted.filterMap SimulationEvent.blockUpdate? ++
        (changes s.currentBlockNumber run).map (fun c => (c.1, c.1)) := by
  induction run generalizing s with
  | nil =>
    cases h
    exact (List.append_nil _).symm
  | cons a run ih =>
    obtain ⟨u, hu, ht⟩ := exec_cons.mp h
    obtain ⟨hemitted, hnumber⟩ := step_reports hu
    rw [ih ht, hemitted, hnumber, changes, List.append_assoc]
    rcases a.blockChange? s.currentBlockNumber with _ | c <;> rfl

/-! ## What the events promise -/

/-- The block updates `seen` describe a run that starts with the number `n` and ends
in `s`: there is one for each change, with the number before and after it; they form
a chain of different numbers that ends with the number the scheduler uses. -/
structure DescribesHistory (n : U64) (run : List (Action B)) (s : BundleSimulatorService B)
    (seen : List (U64 × U64)) : Prop where
  exact : seen = changes n run
  chain : seen.IsChain fun e e' => e'.1 = e.2
  ne : ∀ e ∈ seen, e.1 ≠ e.2
  last : ∀ e, seen.getLast? = some e → e.2 = s.currentBlockNumber

/-- The message, if it is an `UpdateBlockNumber`, carries the number that the service
has already. -/
def KeepsBlockNumber (s : BundleSimulatorService B) (a : Action B) : Prop :=
  ∀ num, a = .message (.updateBlockNumber num) → num = s.currentBlockNumber

theorem blockChange?_eq_none {s : BundleSimulatorService B} {a : Action B} :
    a.blockChange? s.currentBlockNumber = none ↔ KeepsBlockNumber s a := by
  constructor
  · rintro h num rfl
    rw [Action.blockChange?] at h
    by_contra hnum
    rw [if_pos hnum] at h
    cases h
  · intro h
    unfold Action.blockChange?
    split
    case h_1 num => rw [if_neg (not_not.mpr (h num rfl))]
    case h_2 => rfl

/-- A run changes the block number nowhere exactly if all its steps keep it. -/
theorem changes_eq_nil_iff [Bundle B] {profile : BuildProfile} {s t : BundleSimulatorService B}
    {run : List (Action B)} (h : exec (step profile) s run = .ok t) :
    changes s.currentBlockNumber run = [] ↔
      StepsMeet (step profile) s run KeepsBlockNumber := by
  induction run generalizing s with
  | nil => simp [changes, stepsMeet_nil]
  | cons a run ih =>
    obtain ⟨u, hu, ht⟩ := exec_cons.mp h
    obtain ⟨-, hnumber⟩ := step_reports hu
    rw [stepsMeet_cons hu, ← blockChange?_eq_none, ← ih ht, hnumber, changes]
    rcases a.blockChange? s.currentBlockNumber with _ | c
    · simp
    · simp

/-- **Block updates describe the history only where there is none.**  For a listener
that is registered at `s₀` and live to the end of the run, the block updates it
receives describe the block numbers of the run if and only if no message of the run
changes the number. -/
theorem describesHistory_iff [Bundle B] {profile : BuildProfile} {n : U64}
    {cfg : BundleSimulatorServiceConfig} {pre post : List (Action B)} {tx : ℕ}
    {s₀ s : BundleSimulatorService B} (hpre : exec (step profile) (new n cfg) pre = .ok s₀)
    (hpost : exec (step profile) (s₀.onMessage (.addEventListener tx)) post = .ok s)
    (hfirst : tx ∉ pre.filterMap Action.registration?)
    (honly : tx ∉ post.filterMap Action.registration?) (hlive : tx ∉ s.world.droppedListeners) :
    DescribesHistory s₀.currentBlockNumber post s
        ((s.received tx).filterMap SimulationEvent.blockUpdate?) ↔
      StepsMeet (step profile) (s₀.onMessage (.addEventListener tx)) post KeepsBlockNumber := by
  have hrun : exec (step profile) (new n cfg) (pre ++ .message (.addEventListener tx) :: post) =
      .ok s := exec_append.mpr ⟨s₀, hpre, exec_cons.mpr ⟨_, rfl, hpost⟩⟩
  have hseen : (s.received tx).filterMap SimulationEvent.blockUpdate? =
      (changes s₀.currentBlockNumber post).map fun c => (c.1, c.1) := by
    obtain ⟨es, hes⟩ := exec_hears hpost honly hlive
    have hemitted : s.world.emitted = s₀.world.emitted ++ es := hes.emitted
    have hblocks := exec_blocks hpost
    rw [hemitted, List.filterMap_append] at hblocks
    rw [(received_eq_drop hpre hrun hfirst honly hlive).2, hemitted, List.drop_left]
    exact List.append_cancel_left hblocks
  have hnone : changes s₀.currentBlockNumber post = [] ↔
      StepsMeet (step profile) (s₀.onMessage (.addEventListener tx)) post KeepsBlockNumber :=
    changes_eq_nil_iff hpost
  rw [← hnone, hseen]
  constructor
  · intro h
    -- an event would have to show two different numbers, and shows one twice
    refine List.eq_nil_iff_forall_not_mem.mpr fun c hc => ?_
    exact h.ne _ (List.mem_map_of_mem hc) rfl
  · intro h
    rw [h]
    exact ⟨h.symm, List.IsChain.nil, (fun e he => by cases he), (fun e he => by cases he)⟩

/-- A listener, and an update of the block number from 7 to 8. -/
def updateRun : List (Action SendBundleRequest) := [.message (.updateBlockNumber 8)]

theorem describesHistory_iff_updateRun :
    ∃ s, exec (step ⟨true⟩) ((new 7 tightConfig).onMessage (.addEventListener 0)) updateRun = .ok s ∧
      (DescribesHistory 7 updateRun s ((s.received 0).filterMap SimulationEvent.blockUpdate?) ↔
        StepsMeet (step ⟨true⟩) ((new 7 tightConfig).onMessage (.addEventListener 0)) updateRun
          KeepsBlockNumber) := by
  have hpre : exec (step ⟨true⟩) (new 7 tightConfig) ([] : List (Action SendBundleRequest)) =
      .ok (new 7 tightConfig) := rfl
  exact ⟨_, rfl, describesHistory_iff hpre rfl (by decide) (by decide) (by decide)⟩

/-- The listener is told that the number went from 7 to 7. -/
theorem updateRun_not_described :
    ∃ s, exec (step ⟨true⟩) ((new 7 tightConfig).onMessage (.addEventListener 0)) updateRun = .ok s ∧
      (s.received 0).filterMap SimulationEvent.blockUpdate? = [(7, 7)] ∧
      ¬ DescribesHistory 7 updateRun s
        ((s.received 0).filterMap SimulationEvent.blockUpdate?) := by
  refine ⟨_, rfl, rfl, fun h => ?_⟩
  exact h.ne (7, 7) (List.mem_singleton_self _) rfl

end BundleSimulatorService
end Backend
end MevShare
