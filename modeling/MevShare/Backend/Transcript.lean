import MevShare.Backend.Retries

/-!
# What the simulator said about a request

Retry accounting counts the simulations of a request.  Here they are read: the
outcomes of the simulations of one request, oldest first, are its transcript, and
the transcript decides the report.

* While the request is not reported on, every outcome so far was a `Reschedule`.
* A report with a response or an error ends the transcript: it is the last
  outcome, and all outcomes before it were reschedules.
* A request that is reported as outdated or as out of retries has nothing but
  reschedules.

So no response is ever lost or reported for another request, and no outcome
follows the one that was reported.  The invariant is `Ledger.Told`; a move adds to
the transcript of one request at most, and conservation says that this request is
in no other place (`alone_queued`, `alone_inFlight`).
-/

namespace MevShare
namespace Backend

open Rpc Rust Machine Relation

variable {B : Type} {cfg : BundleSimulatorServiceConfig}

/-- All these simulations were to be repeated. -/
def Deferred (outs : List BundleSimulationOutcome) : Prop := ∀ out ∈ outs, out.isReschedule = true

theorem deferred_nil : Deferred [] := fun out hout => by cases hout

theorem Deferred.concat {outs : List BundleSimulationOutcome} (h : Deferred outs)
    (error : BoxError) : Deferred (outs ++ [.reschedule error]) :=
  Search.forall_mem_concat h rfl

/-- Reschedules carry an error each. -/
theorem Deferred.exists_errors {outs : List BundleSimulationOutcome} (h : Deferred outs) :
    ∃ errors : List BoxError, outs = errors.map .reschedule := by
  induction outs with
  | nil => exact ⟨[], rfl⟩
  | cons out outs ih =>
    obtain ⟨errors, rfl⟩ := ih fun x hx => h x (List.mem_cons_of_mem out hx)
    have hout := h out List.mem_cons_self
    rcases out with resp | error | error
    · cases hout
    · cases hout
    · exact ⟨error :: errors, rfl⟩

theorem countP_map_reschedule (errors : List BoxError) :
    (errors.map BundleSimulationOutcome.reschedule).countP BundleSimulationOutcome.isReschedule =
      errors.length := by
  have hall : ∀ out ∈ errors.map BundleSimulationOutcome.reschedule, out.isReschedule = true := by
    intro out hout
    obtain ⟨error, -, rfl⟩ := List.mem_map.mp hout
    rfl
  rw [List.countP_eq_length.mpr hall, List.length_map]

/-- The report `e` is what these outcomes come to. -/
def Concludes (outs : List BundleSimulationOutcome) : SimulationEvent B → Prop
  | .simulatedBundle (.ok bundle) =>
      ∃ before, Deferred before ∧ outs = before ++ [.success bundle.response]
  | .simulatedBundle (.error err) =>
      ∃ before, Deferred before ∧ outs = before ++ [.fatal err.error]
  | .outdatedRequest _ _ _ => Deferred outs
  | .exceededMaxRetries _ _ => Deferred outs
  | .blockNumberUpdated _ _ => False

/-- A report on an outcome concludes the outcomes that end with it. -/
theorem concludes_report {maxRetries : ℕ} {outs : List BundleSimulationOutcome}
    {out : BundleSimulationOutcome} {r : SimulationRequest B} {e : SimulationEvent B}
    (he : report maxRetries out r = some e) (h : Deferred outs) : Concludes (outs ++ [out]) e := by
  unfold report at he
  rcases out with resp | error | error
  · cases he
    exact ⟨outs, h, rfl⟩
  · cases he
    exact ⟨outs, h, rfl⟩
  · by_cases hlt : maxRetries < r.retries + 1
    · rw [if_pos hlt] at he
      cases he
      exact h.concat error
    · rw [if_neg hlt] at he
      cases he

namespace Ledger

variable {P : B → Bool}

/-- The outcomes of the simulations of bundles that pass the test, oldest first. -/
def transcript (P : B → Bool) (l : Ledger B) : List BundleSimulationOutcome :=
  (l.completed.filter fun c => (l.calls[c.1]?).any fun job => P job.1).map Prod.snd

/-- The counter of `Backend.Retries` counts in the transcript. -/
theorem rescheduledFor_eq (l : Ledger B) :
    l.rescheduledFor P = (l.transcript P).countP BundleSimulationOutcome.isReschedule := by
  unfold rescheduledFor transcript
  rw [List.countP_map, List.countP_filter]
  rfl

/-- A new call adds nothing to what is known of the completed simulations. -/
theorem transcript_start {l l' : Ledger B} (hn : l.Numbered) {job : B × SimBundleOverrides}
    (hcalls : l'.calls = l.calls ++ [job]) (hcompleted : l'.completed = l.completed) :
    l'.transcript P = l.transcript P := by
  unfold transcript
  rw [hcompleted]
  refine congrArg _ (List.filter_congr fun c hc => ?_)
  rw [hcalls, List.getElem?_append_left (hn.completed c hc)]

theorem transcript_complete {l l' : Ledger B} {r : SimulationRequest B} {id : ℕ}
    {out : BundleSimulationOutcome} (hcall : l.calls[id]? = some r.job)
    (hcalls : l'.calls = l.calls) (hcompleted : l'.completed = l.completed ++ [(id, out)]) :
    l'.transcript P = l.transcript P ++ if r.about P = true then [out] else [] := by
  have hlast : ((l.calls[id]?).any fun job => P job.1) = r.about P := by
    rw [hcall]
    rfl
  unfold transcript
  rw [hcalls, hcompleted, List.filter_append, List.map_append, List.filter_singleton, hlast]
  by_cases hr : r.about P = true
  · rw [hr, if_pos rfl]
    rfl
  · rw [Bool.not_eq_true] at hr
    rw [hr, if_neg (by decide)]
    rfl

/-! ## The invariant -/

/-- What has been reported on the requests about `P` is what the transcript comes
to. -/
structure Told (P : B → Bool) (l : Ledger B) : Prop where
  waiting : (∀ e ∈ l.left, e.about P ≠ true) → Deferred (l.transcript P)
  left : ∀ e ∈ l.left, e.about P = true → Concludes (l.transcript P) e

theorem Told.empty : (Ledger.empty : Ledger B).Told P where
  waiting := fun _ => deferred_nil
  left := fun e he => by cases he

/-- Nothing is heard, and nothing is reported about `P`. -/
theorem Told.of_eq {l l' : Ledger B} (h : l.Told P)
    (hsame : l'.transcript P = l.transcript P) (hsub : ∀ e ∈ l.left, e ∈ l'.left)
    (hleft : ∀ e ∈ l'.left, e ∈ l.left ∨ e.about P ≠ true) : l'.Told P := by
  refine ⟨fun hnone => ?_, fun e he hP => ?_⟩
  · rw [hsame]
    exact h.waiting fun e he => hnone e (hsub e he)
  · rw [hsame]
    rcases hleft e he with hold | hno
    · exact h.left e hold hP
    · exact absurd hP hno

/-- The first report about `P`. -/
theorem Told.reported {l l' : Ledger B} {e : SimulationEvent B}
    (hnone : ∀ e' ∈ l.left, e'.about P ≠ true) (hleft : l'.left = l.left ++ [e])
    (hP : e.about P = true) (he : Concludes (l'.transcript P) e) : l'.Told P := by
  refine ⟨fun hno => ?_, fun e' he' hP' => ?_⟩
  · exact absurd hP (hno e (by rw [hleft]; exact List.mem_append_right _ List.mem_cons_self))
  · rw [hleft] at he'
    rcases List.mem_append.mp he' with hold | hnew
    · exact absurd hP' (hnone e' hold)
    · rw [List.mem_singleton.mp hnew]
      exact he

/-- **Every move keeps what has been told**, as long as at most one request about
`P` is accepted. -/
theorem Told.move {l l' : Ledger B} (h : l.Told P) (hbal : l.Balanced) (hn : l.Numbered)
    (hone : l.accepted.countP (SimulationRequest.about P) ≤ 1) (hm : Move cfg l l') :
    l'.Told P := by
  cases hm with
  | accept hroom => exact ⟨h.waiting, h.left⟩
  | clear => exact ⟨h.waiting, h.left⟩
  | @expire p pre post r nextBlock hq =>
    have habout : (BundleSimulatorService.outdatedEvent nextBlock r).about P = r.about P :=
      SimulationEvent.about_of_subject rfl
    by_cases hr : r.about P = true
    · obtain ⟨-, -, -, hnone⟩ := alone_queued hbal hone hq hr
      exact Told.reported hnone rfl (habout.trans hr) (h.waiting hnone)
    · refine h.of_eq rfl (fun e he => List.mem_append_left _ he) fun e he => ?_
      rcases List.mem_append.mp he with hold | hnew
      · exact Or.inl hold
      · rw [List.mem_singleton.mp hnew, habout]
        exact Or.inr hr
  | start hq hcap =>
    exact h.of_eq (transcript_start hn rfl rfl) (fun e he => he) fun e he => Or.inl he
  | @finish pre post r id out e hf he =>
    have hmem : (r, id) ∈ l.inFlight := by simp [hf]
    have habout : e.about P = r.about P := SimulationEvent.about_of_subject (report_subject he)
    have hheard : Ledger.transcript P { l with
          inFlight := pre ++ post
          completed := l.completed ++ [(id, out)]
          left := l.left ++ [e] } =
        l.transcript P ++ if r.about P = true then [out] else [] :=
      transcript_complete (hn.inFlight _ hmem) rfl rfl
    by_cases hr : r.about P = true
    · obtain ⟨-, -, -, hnone⟩ := alone_inFlight hbal hone hf hr
      rw [if_pos hr] at hheard
      refine Told.reported hnone rfl (habout.trans hr) ?_
      rw [hheard]
      exact concludes_report he (h.waiting hnone)
    · rw [if_neg hr, List.append_nil] at hheard
      refine h.of_eq hheard (fun e' he' => List.mem_append_left _ he') fun e' he' => ?_
      rcases List.mem_append.mp he' with hold | hnew
      · exact Or.inl hold
      · rw [List.mem_singleton.mp hnew, habout]
        exact Or.inr hr
  | @requeue pre post r id error hf hretry =>
    have hmem : (r, id) ∈ l.inFlight := by simp [hf]
    have hheard : Ledger.transcript P { l.setQueue r.priority
            (l.queue r.priority ++ [BundleSimulatorService.rescheduled r]) with
          inFlight := pre ++ post
          completed := l.completed ++ [(id, .reschedule error)] } =
        l.transcript P ++ if r.about P = true then [.reschedule error] else [] :=
      transcript_complete (hn.inFlight _ hmem) rfl rfl
    by_cases hr : r.about P = true
    · obtain ⟨-, -, -, hnone⟩ := alone_inFlight hbal hone hf hr
      rw [if_pos hr] at hheard
      refine ⟨fun _ => ?_, fun e he hP => absurd hP (hnone e he)⟩
      rw [hheard]
      exact (h.waiting hnone).concat error
    · rw [if_neg hr, List.append_nil] at hheard
      exact h.of_eq hheard (fun e he => he) fun e he => Or.inl he

end Ledger

/-- A response or an error among the concluded outcomes is the reported one. -/
theorem Concludes.of_mem {outs : List BundleSimulationOutcome} {e : SimulationEvent B}
    (h : Concludes outs e) {out : BundleSimulationOutcome} (hmem : out ∈ outs)
    (hfinal : out.isReschedule = false) :
    (∃ bundle, e = .simulatedBundle (.ok bundle) ∧ out = .success bundle.response) ∨
      ∃ err, e = .simulatedBundle (.error err) ∧ out = .fatal err.error := by
  have hdeferred : ∀ {before}, Deferred before → out ∉ before := by
    intro before hbefore hin
    rw [hbefore out hin] at hfinal
    cases hfinal
  rcases e with (err | bundle) | ⟨request, overrides, nextBlock⟩ | ⟨request, overrides⟩ |
    ⟨old, current⟩
  · obtain ⟨before, hbefore, rfl⟩ := h
    rcases List.mem_append.mp hmem with hin | hlast
    · exact absurd hin (hdeferred hbefore)
    · exact Or.inr ⟨err, rfl, List.mem_singleton.mp hlast⟩
  · obtain ⟨before, hbefore, rfl⟩ := h
    rcases List.mem_append.mp hmem with hin | hlast
    · exact absurd hin (hdeferred hbefore)
    · exact Or.inl ⟨bundle, rfl, List.mem_singleton.mp hlast⟩
  · exact absurd hmem (hdeferred h)
  · exact absurd hmem (hdeferred h)
  · cases h

/-! ## The service -/

namespace BundleSimulatorService

/-- The outcomes of the simulations of the ticket `k`, oldest first. -/
def outcomesOf (s : BundleSimulatorService (Ticketed B)) (k : ℕ) : List BundleSimulationOutcome :=
  (s.world.completed.filter fun c =>
    (s.world.simulateCalls[c.1]?).any fun job => hasTicket k job.1).map Prod.snd

/-- The outcomes of the simulations of the ticket `k` and the reports on it say the
same. -/
structure OutcomesDecide (cfg : BundleSimulatorServiceConfig)
    (s : BundleSimulatorService (Ticketed B)) (k : ℕ) : Prop where
  waiting : (∀ e ∈ s.world.emitted, e.about (hasTicket k) ≠ true) →
    ∃ errors : List BoxError, s.outcomesOf k = errors.map .reschedule ∧
      errors.length ≤ cfg.maxRetries
  success : ∀ bundle, SimulationEvent.simulatedBundle (.ok bundle) ∈ s.world.emitted →
    bundle.request.ticket = k →
      ∃ errors : List BoxError,
        s.outcomesOf k = errors.map .reschedule ++ [.success bundle.response] ∧
          errors.length = bundle.retries ∧ bundle.retries ≤ cfg.maxRetries
  error : ∀ err, SimulationEvent.simulatedBundle (.error err) ∈ s.world.emitted →
    err.sim.request.ticket = k →
      ∃ errors : List BoxError,
        s.outcomesOf k = errors.map .reschedule ++ [.fatal err.error] ∧
          errors.length = err.sim.retries ∧ err.sim.retries ≤ cfg.maxRetries
  outdated : ∀ request overrides nextBlock,
    SimulationEvent.outdatedRequest request overrides nextBlock ∈ s.world.emitted →
      request.ticket = k →
        ∃ errors : List BoxError, s.outcomesOf k = errors.map .reschedule ∧
          errors.length ≤ cfg.maxRetries
  exceeded : ∀ request overrides,
    SimulationEvent.exceededMaxRetries request overrides ∈ s.world.emitted →
      request.ticket = k →
        ∃ errors : List BoxError, s.outcomesOf k = errors.map .reschedule ∧
          errors.length = cfg.maxRetries + 1
  /-- A response is reported as soon as it is there. -/
  heardSuccess : ∀ resp, BundleSimulationOutcome.success resp ∈ s.outcomesOf k →
    ∃ bundle, SimulationEvent.simulatedBundle (.ok bundle) ∈ s.world.emitted ∧
      bundle.request.ticket = k ∧ bundle.response = resp
  /-- So is an error that is not to be retried. -/
  heardFatal : ∀ error, BundleSimulationOutcome.fatal error ∈ s.outcomesOf k →
    ∃ err, SimulationEvent.simulatedBundle (.error err) ∈ s.world.emitted ∧
      err.sim.request.ticket = k ∧ err.error = error

theorem exec_told [Bundle B] {profile : BuildProfile} {n : U64} {run : List (Action B)}
    {s : BundleSimulatorService (Ticketed B)}
    (h : exec (step profile) (new n cfg) (ticketed 0 run) = .ok s) (k : ℕ) :
    s.ledger.Told (hasTicket k) := by
  have hinv : Audited cfg s.ledger ∧
      (s.ledger.accepted.countP (SimulationRequest.about (hasTicket k)) ≤ 1 →
        s.ledger.Told (hasTicket k)) := by
    refine exec_ledger_invariant (I := fun l : Ledger (Ticketed B) => Audited cfg l ∧
      (l.accepted.countP (SimulationRequest.about (hasTicket k)) ≤ 1 → l.Told (hasTicket k)))
      ?_ ?_ h
    · exact ⟨⟨.empty, .empty, .empty, .empty⟩, fun _ => .empty⟩
    · rintro l l' ⟨haudit, hl⟩ hm
      have hgrows := (Ledger.Grows.of_move hm).accepted
      refine ⟨⟨haudit.bounded.move hm, haudit.balanced.move hm, haudit.numbered.move hm,
        haudit.genuine.move haudit.numbered hm⟩, fun hone => ?_⟩
      have hone' := Nat.le_trans hgrows.sublist.countP_le hone
      exact (hl hone').move haudit.balanced haudit.numbered hone' hm
  exact hinv.2 (countP_accepted_le_one h k)

section Reports

variable {s : BundleSimulatorService (Ticketed B)} {k : ℕ}

/-- The reports on a ticket in the log are those in the ledger. -/
theorem mem_left_of_emitted {e : SimulationEvent (Ticketed B)} (he : e ∈ s.world.emitted)
    (hP : e.about (hasTicket k) = true) : e ∈ s.ledger.left := by
  refine List.mem_filter.mpr ⟨he, ?_⟩
  unfold SimulationEvent.about at hP
  rcases hsub : e.subject with _ | x
  · rw [hsub] at hP
    cases hP
  · exact SimulationEvent.isTerminal_of_subject hsub

theorem about_hasTicket {request : Ticketed B} (hk : request.ticket = k) :
    hasTicket k request = true := by
  simpa [hasTicket] using hk

/-- Reschedules are counted, whatever follows them. -/
theorem rescheduledFor_of_outcomes {errors : List BoxError} {last : List BundleSimulationOutcome}
    (h : s.outcomesOf k = errors.map .reschedule ++ last)
    (hlast : last.countP BundleSimulationOutcome.isReschedule = 0) :
    s.ledger.rescheduledFor (hasTicket k) = errors.length := by
  have hcount : (s.ledger.transcript (hasTicket k)).countP BundleSimulationOutcome.isReschedule =
      errors.length := by
    show (s.outcomesOf k).countP BundleSimulationOutcome.isReschedule = _
    rw [h, List.countP_append, countP_map_reschedule, hlast, Nat.add_zero]
  rw [Ledger.rescheduledFor_eq, hcount]

theorem rescheduledFor_of_deferred {errors : List BoxError}
    (h : s.outcomesOf k = errors.map .reschedule) :
    s.ledger.rescheduledFor (hasTicket k) = errors.length := by
  have happend : s.outcomesOf k = errors.map .reschedule ++ [] := by rw [h, List.append_nil]
  exact rescheduledFor_of_outcomes happend rfl

theorem outcomesDecide_of_told (htold : s.ledger.Told (hasTicket k))
    (hacc : s.ledger.Accounted cfg (hasTicket k)) (hbal : s.ledger.Balanced)
    (hpos : 0 < s.ledger.accepted.countP (SimulationRequest.about (hasTicket k))) :
    s.OutcomesDecide cfg k := by
  -- a report on the ticket, with the numbers it stands for
  have hreport : ∀ e ∈ s.world.emitted, e.about (hasTicket k) = true →
      Concludes (s.outcomesOf k) e ∧ Settled cfg (s.ledger.calledFor (hasTicket k))
        (s.ledger.rescheduledFor (hasTicket k)) e := by
    intro e he hP
    have hleft := mem_left_of_emitted he hP
    exact ⟨htold.left e hleft hP, hacc.left e hleft hP⟩
  -- what is not a reschedule has been reported
  have hheard : ∀ out ∈ s.outcomesOf k, out.isReschedule = false →
      ∃ e ∈ s.world.emitted, e.about (hasTicket k) = true ∧ Concludes (s.outcomesOf k) e := by
    intro out hout hfinal
    by_contra hno
    have hdeferred : Deferred (s.outcomesOf k) := by
      refine htold.waiting fun e he hP => hno ⟨e, (List.mem_filter.mp he).1, hP, ?_⟩
      exact htold.left e he hP
    rw [hdeferred out hout] at hfinal
    cases hfinal
  refine ⟨fun hnone => ?_, fun bundle hb hk => ?_, fun err he hk => ?_,
    fun request overrides nextBlock he hk => ?_, fun request overrides he hk => ?_,
    fun resp hresp => ?_, fun error herror => ?_⟩
  · have hdeferred : Deferred (s.outcomesOf k) :=
      htold.waiting fun e he => hnone e (List.mem_filter.mp he).1
    obtain ⟨errors, herrors⟩ := hdeferred.exists_errors
    have hlen := rescheduledFor_of_deferred herrors
    refine ⟨errors, herrors, ?_⟩
    rcases hacc.numbers hbal hpos with ⟨hle, -⟩ | ⟨request, overrides, he, hP, -, -⟩
    · omega
    · exact absurd hP (hnone _ (List.mem_filter.mp he).1)
  · obtain ⟨⟨before, hbefore, houts⟩, hretries, -, hle⟩ := hreport _ hb (about_hasTicket hk)
    obtain ⟨errors, rfl⟩ := hbefore.exists_errors
    have hlen := rescheduledFor_of_outcomes houts rfl
    exact ⟨errors, houts, by omega, by omega⟩
  · obtain ⟨⟨before, hbefore, houts⟩, hretries, -, hle⟩ := hreport _ he (about_hasTicket hk)
    obtain ⟨errors, rfl⟩ := hbefore.exists_errors
    have hlen := rescheduledFor_of_outcomes houts rfl
    exact ⟨errors, houts, by omega, by omega⟩
  · obtain ⟨hdeferred, -, hle⟩ := hreport _ he (about_hasTicket hk)
    obtain ⟨errors, herrors⟩ := Deferred.exists_errors hdeferred
    have hlen := rescheduledFor_of_deferred herrors
    exact ⟨errors, herrors, by omega⟩
  · obtain ⟨hdeferred, -, hmax⟩ := hreport _ he (about_hasTicket hk)
    obtain ⟨errors, herrors⟩ := Deferred.exists_errors hdeferred
    have hlen := rescheduledFor_of_deferred herrors
    exact ⟨errors, herrors, by omega⟩
  · obtain ⟨e, he, hP, hconcludes⟩ := hheard _ hresp rfl
    rcases hconcludes.of_mem hresp rfl with ⟨bundle, rfl, hout⟩ | ⟨err, -, hout⟩
    · refine ⟨bundle, he, by simpa [SimulationEvent.about, SimulationEvent.subject, hasTicket]
        using hP, ?_⟩
      injection hout with hout
      exact hout.symm
    · cases hout
  · obtain ⟨e, he, hP, hconcludes⟩ := hheard _ herror rfl
    rcases hconcludes.of_mem herror rfl with ⟨bundle, -, hout⟩ | ⟨err, rfl, hout⟩
    · cases hout
    · refine ⟨err, he, by simpa [SimulationEvent.about, SimulationEvent.subject, hasTicket]
        using hP, ?_⟩
      injection hout with hout
      exact hout.symm

end Reports

/-- What the outcomes decide, for every accepted ticket of a run. -/
theorem exec_outcomesDecide [Bundle B] {profile : BuildProfile} {n : U64} {run : List (Action B)}
    {s : BundleSimulatorService (Ticketed B)}
    (h : exec (step profile) (new n cfg) (ticketed 0 run) = .ok s)
    (hrun : ∀ a ∈ run, a.FromHandle) {ans : Answer (Ticketed B)} (hans : ans ∈ s.world.answers)
    (hok : ans.result = .ok ()) : s.OutcomesDecide cfg ans.request.request.ticket := by
  have hretries := retries_of_accepted h (ticketed_fromHandle hrun 0)
  have haccepted : ans.request ∈ s.ledger.accepted := mem_accepted.mpr ⟨ans, hans, hok, rfl⟩
  refine outcomesDecide_of_told (exec_told h _)
    (exec_accounted h _ fun a ha _ => hretries a ha) (exec_audited h).balanced ?_
  exact Search.countP_pos_of_mem haccepted (about_hasTicket rfl)

/-- **The outcomes decide the report.**  In every run whose submissions come from
handles, the outcomes of the simulations of an accepted request are reschedules,
as many as its retry count, and then at most one response or error, which is the
one reported on it.

The retry count is a natural number, as the `usize` of the source is where
`max_retries < usize::MAX`. -/
theorem outcomes_decide [Bundle B] {profile : BuildProfile} {n : U64} {run : List (Action B)}
    {s : BundleSimulatorService B} (h : exec (step profile) (new n cfg) run = .ok s)
    (hrun : ∀ a ∈ run, a.FromHandle) :
    ∃ s' : BundleSimulatorService (Ticketed B),
      exec (step profile) (new n cfg) (ticketed 0 run) = .ok s' ∧
      s'.map Ticketed.bundle = s ∧
      ∀ ans ∈ s'.world.answers, ans.result = .ok () →
        s'.OutcomesDecide cfg ans.request.request.ticket := by
  obtain ⟨s', hs', hmap⟩ := exec_ticketed h
  exact ⟨s', hs', hmap, fun ans hans hok => exec_outcomesDecide hs' hrun hans hok⟩

theorem outcomes_decide_overshootRun :
    ∃ s, exec (step ⟨true⟩) (new 7 tightConfig) overshootRun = .ok s ∧
      ∃ s' : BundleSimulatorService (Ticketed SendBundleRequest),
        s'.map Ticketed.bundle = s ∧
          ∀ ans ∈ s'.world.answers, ans.result = .ok () →
            s'.OutcomesDecide tightConfig ans.request.request.ticket := by
  obtain ⟨s, hs⟩ := overshootRun_ok
  obtain ⟨s', -, hmap, hall⟩ := outcomes_decide hs overshootRun_fromHandle
  exact ⟨s, hs, s', hmap, hall⟩

end BundleSimulatorService
end Backend
end MevShare
