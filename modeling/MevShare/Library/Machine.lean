import Mathlib.Algebra.GroupWithZero.Nat
import Mathlib.Data.List.Basic
import Mathlib.Data.List.Induction

/-!
# Partial deterministic machines and their runs

A machine is a step function `σ → α → Except ε σ`: an action applied to a state
either gives the next state or stops the run with a reason.  `exec` folds it
over a list of actions.  This file is the only place where an induction over a
run is made; what a machine does in one step is carried to whole runs by the
rules below.

* `exec_append`, `exec_concat`: a run is cut at any action.
* `exec_invariant`: what every step preserves holds at the end of every run;
  `exec_invariant_of_forall` is for steps with actions of one kind.
* `exec_history`: the same for a property of the run *and* its last state.
* `exec_amortized`: what every step takes from a potential, a run takes from it;
  `exec_countdown`: a potential that no step raises, and that the actions of one kind lower,
  is used up by enough of them.
* `exec_purge`: actions that a relation between states does not see may be left out.
* `exec_map`: a step-for-step map of machines maps runs; `exec_map_of_same`: what no
  step reads of an action, no run reads.
* `exec_without`: where some actions do nothing and the others do what they do in another
  machine, a run is one of the other machine with those actions left out.
* `Along`, `StepsMeet` and `along_iff_stepsMeet`: a property holds in every
  state of a run exactly when every step of the run meets a condition, as soon
  as one step keeps the property exactly when it meets the condition.
-/

namespace MevShare
namespace Machine

variable {σ τ α β ε : Type*}

/-- The state at the end of a run, or the reason the run stopped. -/
def exec (step : σ → α → Except ε σ) : σ → List α → Except ε σ
  | s, [] => .ok s
  | s, a :: as =>
      match step s a with
      | .ok t => exec step t as
      | .error e => .error e

variable {step : σ → α → Except ε σ}

@[simp] theorem exec_nil (s : σ) : exec step s [] = .ok s := rfl

theorem exec_cons {s u : σ} {a : α} {as : List α} :
    exec step s (a :: as) = .ok u ↔ ∃ t, step s a = .ok t ∧ exec step t as = .ok u := by
  rw [exec]
  cases h : step s a with
  | ok t => simp
  | error e => simp

/-- A run is cut at any action. -/
theorem exec_append {s u : σ} {as bs : List α} :
    exec step s (as ++ bs) = .ok u ↔
      ∃ t, exec step s as = .ok t ∧ exec step t bs = .ok u := by
  induction as generalizing s with
  | nil => simp
  | cons a as ih =>
    rw [List.cons_append, exec_cons]
    simp only [ih, exec_cons]
    constructor
    · rintro ⟨t, ht, v, hv, hu⟩
      exact ⟨v, ⟨t, ht, hv⟩, hu⟩
    · rintro ⟨v, ⟨t, ht, hv⟩, hu⟩
      exact ⟨t, ht, v, hv, hu⟩

theorem exec_concat {s u : σ} {as : List α} {a : α} :
    exec step s (as ++ [a]) = .ok u ↔ ∃ t, exec step s as = .ok t ∧ step t a = .ok u := by
  rw [exec_append]
  simp only [exec_cons, exec_nil, Except.ok.injEq, exists_eq_right]

/-- **The invariant rule.**  What every step preserves holds at the end of every
run. -/
theorem exec_invariant {I : σ → Prop} (hstep : ∀ s a t, I s → step s a = .ok t → I t)
    {s u : σ} {as : List α} (hs : I s) (h : exec step s as = .ok u) : I u := by
  induction as generalizing s with
  | nil =>
    cases h
    exact hs
  | cons a as ih =>
    obtain ⟨t, ht, hu⟩ := exec_cons.mp h
    exact ih (hstep s a t hs ht) hu

/-- The same where only actions that meet `P` are known to preserve it. -/
theorem exec_invariant_of_forall {I : σ → Prop} {P : α → Prop}
    (hstep : ∀ s a t, I s → P a → step s a = .ok t → I t) {s u : σ} {as : List α} (hs : I s)
    (has : ∀ a ∈ as, P a) (h : exec step s as = .ok u) : I u := by
  induction as generalizing s with
  | nil =>
    cases h
    exact hs
  | cons a as ih =>
    obtain ⟨t, ht, hu⟩ := exec_cons.mp h
    exact ih (hstep s a t hs (has a List.mem_cons_self) ht)
      (fun b hb => has b (List.mem_cons_of_mem a hb)) hu

/-- **The history rule.**  A property of the run so far and the state it has
reached, kept by every step, holds of every run. -/
theorem exec_history {P : List α → σ → Prop} {s : σ} (hnil : P [] s)
    (hstep : ∀ as t a u, exec step s as = .ok t → P as t → step t a = .ok u → P (as ++ [a]) u)
    {as : List α} {u : σ} (h : exec step s as = .ok u) : P as u := by
  induction as using List.reverseRecOn generalizing u with
  | nil =>
    cases h
    exact hnil
  | append_singleton as a ih =>
    obtain ⟨t, ht, hu⟩ := exec_concat.mp h
    exact hstep as t a u ht (ih ht) hu

/-- **Amortised bounds.**  Where every action pays for what it gains, out of a
potential and its own load, so does every run. -/
theorem exec_amortized {I : σ → Prop} {P : α → Prop} {potential : σ → ℕ} {gain load : α → ℕ}
    (hstep : ∀ s a t, I s → P a → step s a = .ok t →
      I t ∧ potential t + gain a ≤ potential s + load a)
    {s u : σ} {as : List α} (hs : I s) (has : ∀ a ∈ as, P a) (h : exec step s as = .ok u) :
    I u ∧ potential u + (as.map gain).sum ≤ potential s + (as.map load).sum := by
  induction as generalizing s with
  | nil =>
    cases h
    exact ⟨hs, Nat.le_refl _⟩
  | cons a as ih =>
    obtain ⟨t, ht, hu⟩ := exec_cons.mp h
    obtain ⟨hI, hle⟩ := hstep s a t hs (has a List.mem_cons_self) ht
    obtain ⟨hIu, hrest⟩ := ih hI (fun b hb => has b (List.mem_cons_of_mem a hb)) hu
    rw [List.map_cons, List.map_cons, List.sum_cons, List.sum_cons]
    exact ⟨hIu, by omega⟩

/-- **Countdown.**  Where no action raises the potential, and those that are marked lower
it as long as there is something left of it, so many of them lower it so far. -/
theorem exec_countdown {I : σ → Prop} {P : α → Prop} {marked : α → Bool} {potential : σ → ℕ}
    (hstep : ∀ s a t, I s → P a → step s a = .ok t →
      I t ∧ potential t ≤ potential s - if marked a then 1 else 0)
    {s u : σ} {as : List α} (hs : I s) (has : ∀ a ∈ as, P a) (h : exec step s as = .ok u) :
    I u ∧ potential u ≤ potential s - as.countP marked := by
  induction as generalizing s with
  | nil =>
    cases h
    exact ⟨hs, Nat.le_refl _⟩
  | cons a as ih =>
    obtain ⟨t, ht, hu⟩ := exec_cons.mp h
    obtain ⟨hI, hle⟩ := hstep s a t hs (has a List.mem_cons_self) ht
    obtain ⟨hIu, hrest⟩ := ih hI (fun b hb => has b (List.mem_cons_of_mem a hb)) hu
    rw [List.countP_cons]
    exact ⟨hIu, by omega⟩

/-- Where every action that meets `P` is possible, so is every run of them. -/
theorem exec_total {P : α → Prop} (hstep : ∀ s a, P a → ∃ t, step s a = .ok t) {as : List α}
    (has : ∀ a ∈ as, P a) (s : σ) : ∃ u, exec step s as = .ok u := by
  induction as generalizing s with
  | nil => exact ⟨s, rfl⟩
  | cons a as ih =>
    obtain ⟨t, ht⟩ := hstep s a (has a List.mem_cons_self)
    obtain ⟨u, hu⟩ := ih (fun b hb => has b (List.mem_cons_of_mem a hb)) t
    exact ⟨u, exec_cons.mpr ⟨t, ht, hu⟩⟩

/-! ## Maps of machines -/

/-- **A step-for-step map of machines maps runs.** -/
theorem exec_map {step' : τ → β → Except ε τ} {f : σ → τ} {g : α → β}
    (hfg : ∀ s a, step' (f s) (g a) = (step s a).map f) (s : σ) (as : List α) :
    exec step' (f s) (as.map g) = (exec step s as).map f := by
  induction as generalizing s with
  | nil => rfl
  | cons a as ih =>
    rw [List.map_cons, exec, exec, hfg]
    cases h : step s a with
    | ok t => exact ih t
    | error e => rfl

/-- A change of the actions that no step sees is not seen by a run: where `I` holds of the
states and `P` of the actions. -/
theorem exec_map_of_same {I : σ → Prop} {P : α → Prop} {f : α → α}
    (hkeep : ∀ s a t, I s → P a → step s a = .ok t → I t)
    (hsame : ∀ s a, I s → P a → step s (f a) = step s a) {s : σ} {as : List α} (hs : I s)
    (has : ∀ a ∈ as, P a) : exec step s (as.map f) = exec step s as := by
  induction as generalizing s with
  | nil => rfl
  | cons a as ih =>
    have ha := has a List.mem_cons_self
    rw [List.map_cons, exec, exec, hsame s a hs ha]
    rcases hstep : step s a with e | t
    · rfl
    · exact ih (hkeep s a t hs ha hstep) fun b hb => has b (List.mem_cons_of_mem a hb)

/-! ## Leaving out actions that are not seen -/

/-- **The purge rule.**  A relation between states does not see the actions outside `p`,
and those in `p` keep it.  Then every run ends in a state that is related to the end of the
run in which only the actions in `p` are taken. -/
theorem exec_purge {R : σ → σ → Prop} {p : α → Bool} {s₀ : σ} (h₀ : R s₀ s₀)
    (hkeep : ∀ as s t a s', exec step s₀ as = .ok s → exec step s₀ (as.filter p) = .ok t →
      R s t → p a = true → step s a = .ok s' → ∃ t', step t a = .ok t' ∧ R s' t')
    (hskip : ∀ s t a s', R s t → p a = false → step s a = .ok s' → R s' t) {as : List α} {s : σ}
    (h : exec step s₀ as = .ok s) : ∃ t, exec step s₀ (as.filter p) = .ok t ∧ R s t := by
  refine exec_history (P := fun as s => ∃ t, exec step s₀ (as.filter p) = .ok t ∧ R s t)
    ⟨s₀, rfl, h₀⟩ ?_ h
  rintro as s a s' hs ⟨t, ht, hR⟩ hstep
  rw [List.filter_append]
  by_cases hp : p a = true
  · obtain ⟨t', ht', hR'⟩ := hkeep as s t a s' hs ht hR hp hstep
    refine ⟨t', ?_, hR'⟩
    rw [List.filter_cons_of_pos hp]
    exact exec_concat.mpr ⟨t, ht, ht'⟩
  · refine ⟨t, ?_, hskip s t a s' hR (Bool.eq_false_iff.mpr hp) hstep⟩
    rw [List.filter_cons_of_neg hp, List.filter_nil, List.append_nil]
    exact ht

/-! ## Properties of every state of a run -/

/-- `I` holds in every state that the run `as` from `s` passes through. -/
def Along (step : σ → α → Except ε σ) (s : σ) (as : List α) (I : σ → Prop) : Prop :=
  ∀ pre t, pre <+: as → exec step s pre = .ok t → I t

/-- Every step of the run `as` from `s` meets `C`, a condition on the action and
the state it is applied to. -/
def StepsMeet (step : σ → α → Except ε σ) (s : σ) (as : List α) (C : σ → α → Prop) : Prop :=
  ∀ pre a t, pre ++ [a] <+: as → exec step s pre = .ok t → C t a

theorem stepsMeet_nil (s : σ) (C : σ → α → Prop) : StepsMeet step s [] C := by
  intro pre a t hpre ht
  have hnil := List.prefix_nil.mp hpre
  exact absurd hnil (List.append_ne_nil_of_right_ne_nil pre (List.cons_ne_nil a []))

theorem stepsMeet_cons {s t : σ} {a : α} {as : List α} (ha : step s a = .ok t)
    {C : σ → α → Prop} :
    StepsMeet step s (a :: as) C ↔ C s a ∧ StepsMeet step t as C := by
  constructor
  · intro h
    refine ⟨h [] a s ⟨as, rfl⟩ rfl, fun pre b u hpre hu => ?_⟩
    have hpre' : (a :: pre) ++ [b] <+: a :: as := (List.prefix_cons_inj a).mpr hpre
    exact h (a :: pre) b u hpre' (exec_cons.mpr ⟨t, ha, hu⟩)
  · rintro ⟨hC, h⟩ (_ | ⟨c, pre⟩) b u hpre hu
    · obtain ⟨post, hpost⟩ := hpre
      cases hpost
      cases hu
      exact hC
    · obtain ⟨rfl, hpre'⟩ := List.cons_prefix_cons.mp hpre
      obtain ⟨t', ht', hu⟩ := exec_cons.mp hu
      rw [ha] at ht'
      cases ht'
      exact h pre b u hpre' hu

/-- The first step of a run meets what its steps meet. -/
theorem stepsMeet_head {s : σ} {a : α} {as : List α} {C : σ → α → Prop}
    (h : StepsMeet step s (a :: as) C) : C s a := h [] a s ⟨as, rfl⟩ rfl

/-- What is left of a run meets what the run meets. -/
theorem stepsMeet_drop {s t : σ} {as bs : List α} {C : σ → α → Prop}
    (h : StepsMeet step s (as ++ bs) C) (ht : exec step s as = .ok t) : StepsMeet step t bs C := by
  intro pre a u hpre hu
  refine h (as ++ pre) a u ?_ (exec_append.mpr ⟨t, ht, hu⟩)
  rw [List.append_assoc]
  exact (List.prefix_append_right_inj as).mpr hpre

/-- Two conditions that agree wherever the run comes are met by the same runs. -/
theorem stepsMeet_congr {s : σ} {as : List α} {C D : σ → α → Prop}
    (h : ∀ pre a t, pre ++ [a] <+: as → exec step s pre = .ok t → (C t a ↔ D t a)) :
    StepsMeet step s as C ↔ StepsMeet step s as D := by
  constructor
  · intro hC pre a t hpre ht
    exact (h pre a t hpre ht).mp (hC pre a t hpre ht)
  · intro hD pre a t hpre ht
    exact (h pre a t hpre ht).mpr (hD pre a t hpre ht)

/-- **Guarded invariants.**  If the steps that meet `C` preserve `I`, then `I`
holds in every state of a run all of whose steps meet `C`. -/
theorem along_of_stepsMeet {I : σ → Prop} {C : σ → α → Prop}
    (hstep : ∀ s a t, I s → C s a → step s a = .ok t → I t) {s : σ} (hs : I s)
    {as : List α} (h : StepsMeet step s as C) : Along step s as I := by
  intro pre
  induction pre using List.reverseRecOn with
  | nil =>
    intro t _ ht
    cases ht
    exact hs
  | append_singleton pre a ih =>
    intro u hpre hu
    obtain ⟨t, ht, hta⟩ := exec_concat.mp hu
    have hI : I t := ih t ((List.prefix_append pre [a]).trans hpre) ht
    exact hstep t a u hI (h pre a t hpre ht) hta

/-- A run that reaches its end reaches the end of each of its prefixes. -/
theorem exec_of_prefix {s u : σ} {as pre : List α} (hu : exec step s as = .ok u)
    (hpre : pre <+: as) : ∃ t, exec step s pre = .ok t := by
  obtain ⟨post, rfl⟩ := hpre
  obtain ⟨t, ht, -⟩ := exec_append.mp hu
  exact ⟨t, ht⟩

/-- **Exactness.**  When a step out of a good state keeps `I` exactly if it meets
`C`, a run keeps `I` in all its states exactly if all its steps meet `C`. -/
theorem along_iff_stepsMeet {I : σ → Prop} {C : σ → α → Prop}
    (hstep : ∀ s a t, I s → step s a = .ok t → (I t ↔ C s a)) {s u : σ} (hs : I s)
    {as : List α} (hu : exec step s as = .ok u) :
    Along step s as I ↔ StepsMeet step s as C := by
  constructor
  · intro h pre a t hpre ht
    obtain ⟨v, hv⟩ := exec_of_prefix hu hpre
    obtain ⟨t', ht', hta⟩ := exec_concat.mp hv
    rw [ht] at ht'
    cases ht'
    have hI : I t := h pre t ((List.prefix_append pre [a]).trans hpre) ht
    exact (hstep t a v hI hta).mp (h (pre ++ [a]) v hpre hv)
  · exact along_of_stepsMeet (fun s a t hI hC ha => (hstep s a t hI ha).mpr hC) hs

/-- **Exactness with a property of the steps.**  When a step out of a good state keeps
`I` and has the property `A` exactly if it meets `C`, a run keeps `I` in all its states
and has `A` in all its steps exactly if all its steps meet `C`. -/
theorem along_and_stepsMeet_iff {I : σ → Prop} {A C : σ → α → Prop}
    (hstep : ∀ s a t, I s → step s a = .ok t → (I t ∧ A s a ↔ C s a)) {s u : σ} (hs : I s)
    {as : List α} (hu : exec step s as = .ok u) :
    Along step s as I ∧ StepsMeet step s as A ↔ StepsMeet step s as C := by
  have hnext : ∀ pre a t, pre ++ [a] <+: as → exec step s pre = .ok t →
      ∃ v, step t a = .ok v ∧ exec step s (pre ++ [a]) = .ok v := by
    intro pre a t hpre ht
    obtain ⟨v, hv⟩ := exec_of_prefix hu hpre
    obtain ⟨t', ht', hta⟩ := exec_concat.mp hv
    rw [ht] at ht'
    cases ht'
    exact ⟨v, hta, hv⟩
  constructor
  · rintro ⟨hI, hA⟩ pre a t hpre ht
    obtain ⟨v, hta, hv⟩ := hnext pre a t hpre ht
    have hIt : I t := hI pre t ((List.prefix_append pre [a]).trans hpre) ht
    exact (hstep t a v hIt hta).mp ⟨hI (pre ++ [a]) v hpre hv, hA pre a t hpre ht⟩
  · intro hC
    have hI : Along step s as I := along_of_stepsMeet
      (fun s a t hIs hCs ha => ((hstep s a t hIs ha).mpr hCs).1) hs hC
    refine ⟨hI, fun pre a t hpre ht => ?_⟩
    obtain ⟨v, hta, -⟩ := hnext pre a t hpre ht
    have hIt : I t := hI pre t ((List.prefix_append pre [a]).trans hpre) ht
    exact ((hstep t a v hIt hta).mpr (hC pre a t hpre ht)).2

/-! ## Leaving out idle actions -/

section Idle

variable {C : σ → α → Prop} [∀ s a, Decidable (C s a)]

/-- The run `as` from `s` without the actions that meet `C` where they are taken.  What
comes after the end of a run that stops is kept. -/
def without (step : σ → α → Except ε σ) (C : σ → α → Prop) [∀ s a, Decidable (C s a)] :
    σ → List α → List α
  | _, [] => []
  | s, a :: as =>
      if C s a then
        without step C s as
      else
        match step s a with
        | .ok t => a :: without step C t as
        | .error _ => a :: as

theorem without_sublist (s : σ) (as : List α) : (without step C s as).Sublist as := by
  induction as generalizing s with
  | nil => exact List.Sublist.refl _
  | cons a as ih =>
    rw [without]
    by_cases hC : C s a
    · rw [if_pos hC]
      exact (ih s).cons a
    · rw [if_neg hC]
      rcases step s a with e | t
      · exact List.Sublist.refl _
      · exact (ih t).cons_cons a

/-- Actions that never meet `C` are not left out. -/
theorem filter_without {p : α → Bool} (hp : ∀ s a, C s a → p a = false) (s : σ) (as : List α) :
    (without step C s as).filter p = as.filter p := by
  induction as generalizing s with
  | nil => rfl
  | cons a as ih =>
    rw [without]
    by_cases hC : C s a
    · rw [if_pos hC, ih, List.filter_cons_of_neg (by rw [hp s a hC]; exact Bool.false_ne_true)]
    · rw [if_neg hC]
      rcases step s a with e | t
      · rfl
      · simp only [List.filter_cons, ih t]

variable {step' : σ → α → Except ε σ} {D : σ → α → Prop}

/-- **Idle actions may be left out.**  In a run whose steps meet `D`: where the actions that
meet `C` do nothing, and all others do what they do in another machine, it is a run of the
other machine in which those actions are left out. -/
theorem exec_without (hidle : ∀ s a, D s a → C s a → step s a = .ok s)
    (hsame : ∀ s a, D s a → ¬ C s a → step' s a = step s a) {s : σ} {as : List α}
    (hD : StepsMeet step s as D) : exec step' s (without step C s as) = exec step s as := by
  induction as generalizing s with
  | nil => rfl
  | cons a as ih =>
    have ha := stepsMeet_head hD
    rw [without]
    by_cases hC : C s a
    · have hstep := hidle s a ha hC
      rw [if_pos hC, exec, hstep]
      exact ih ((stepsMeet_cons hstep).mp hD).2
    · rw [if_neg hC, exec]
      rcases hstep : step s a with e | t
      · simp only [exec, hsame s a ha hC, hstep]
      · simp only [exec, hsame s a ha hC, hstep, ih ((stepsMeet_cons hstep).mp hD).2]

/-- Nothing is left out of a run that another machine makes and that `C` would stop
there. -/
theorem without_eq_self (hstop : ∀ s a t, D s a → C s a → step' s a ≠ .ok t)
    (hsame : ∀ s a, D s a → ¬ C s a → step' s a = step s a) {s u : σ} {as : List α}
    (hD : StepsMeet step s as D) (h : exec step' s as = .ok u) : without step C s as = as := by
  induction as generalizing s with
  | nil => rfl
  | cons a as ih =>
    obtain ⟨t, ht, hu⟩ := exec_cons.mp h
    have ha := stepsMeet_head hD
    have hC : ¬ C s a := fun hC => hstop s a t ha hC ht
    have hstep : step s a = .ok t := (hsame s a ha hC).symm.trans ht
    rw [without, if_neg hC, hstep]
    simp only [ih ((stepsMeet_cons hstep).mp hD).2 hu]

end Idle

end Machine
end MevShare
