import MevShare.Library.Draw

/-!
# A batch in one pass

The draws of `Library.Draw` start their search from the front again after every removal.
`sweep` reads a queue once instead: it goes on until as many entries have been started as
there is room for, and leaves what has to wait where it stands.

`Batch.eq_sweep` says that a batch is a sweep over the first queue and, with the room that
is left, one over the second.  What a sweep starts, drops and leaves is then said without
it (`Batch.one_pass`): with `reach` for the number of entries that are read,

* the entries that start are the first ones that may;
* of the entries that are read, those are dropped that are to be;
* the other entries that are read stay, before all that are not read.
-/

namespace MevShare
namespace Draw

variable {α : Type*}

/-- The entry is to be started. -/
def starts (v : α → Verdict) (x : α) : Bool := decide (v x = .start)

/-- The entry is to be dropped. -/
def drops (v : α → Verdict) (x : α) : Bool := decide (v x = .drop)

/-- The entry has to wait. -/
def waits (v : α → Verdict) (x : α) : Bool := decide (v x = .wait)

/-- What comes of reading a queue once. -/
structure Swept (α : Type*) where
  started : List α
  dropped : List α
  kept : List α

/-- Reading a queue until `n` entries have been started. -/
def sweep (v : α → Verdict) : ℕ → List α → Swept α
  | 0, l => ⟨[], [], l⟩
  | _ + 1, [] => ⟨[], [], []⟩
  | n + 1, x :: l =>
      match v x with
      | .wait => { sweep v (n + 1) l with kept := x :: (sweep v (n + 1) l).kept }
      | .drop => { sweep v (n + 1) l with dropped := x :: (sweep v (n + 1) l).dropped }
      | .start => { sweep v n l with started := x :: (sweep v n l).started }

theorem sweep_zero (v : α → Verdict) (l : List α) : sweep v 0 l = ⟨[], [], l⟩ := by
  rw [sweep]

/-- How many entries are read until `n` of them have satisfied `p`. -/
def reach (p : α → Bool) : ℕ → List α → ℕ
  | 0, _ => 0
  | _ + 1, [] => 0
  | n + 1, x :: l => (if p x then reach p n l else reach p (n + 1) l) + 1

theorem reach_zero (p : α → Bool) (l : List α) : reach p 0 l = 0 := by
  rw [reach]

/-- The entries of a list that are read until `n` of them have satisfied `p` are `k`: none if
`n` is zero, all if fewer than `n` satisfy it, and up to the `n`-th that does if not. -/
structure Reaches (p : α → Bool) (n : ℕ) (l : List α) (k : ℕ) : Prop where
  none : n = 0 → k = 0
  all : l.countP p < n → k = l.length
  nth : 0 < n → n ≤ l.countP p →
    ∃ pre x post, l = pre ++ x :: post ∧ p x = true ∧ pre.countP p + 1 = n ∧ k = pre.length + 1

/-! ## How far a list is read -/

section Reach

variable {p : α → Bool} {n : ℕ} {l : List α}

theorem reach_of_countP_lt (h : l.countP p < n) : reach p n l = l.length := by
  induction l generalizing n with
  | nil =>
    cases n with
    | zero => rfl
    | succ n => rfl
  | cons x l ih =>
    cases n with
    | zero => omega
    | succ n =>
      rw [List.countP_cons] at h
      rw [reach, List.length_cons]
      by_cases hx : p x = true
      · rw [if_pos hx] at h ⊢
        rw [ih (by omega)]
      · rw [if_neg hx] at h ⊢
        rw [ih (by omega)]

theorem reach_nth (hn : 0 < n) (h : n ≤ l.countP p) :
    ∃ pre x post, l = pre ++ x :: post ∧ p x = true ∧ pre.countP p + 1 = n ∧
      reach p n l = pre.length + 1 := by
  induction l generalizing n with
  | nil =>
    rw [List.countP_nil] at h
    omega
  | cons x l ih =>
    obtain ⟨n, rfl⟩ : ∃ m, n = m + 1 := ⟨n - 1, by omega⟩
    rw [List.countP_cons] at h
    by_cases hx : p x = true
    · rw [if_pos hx] at h
      by_cases hzero : n = 0
      · subst hzero
        refine ⟨[], x, l, rfl, hx, rfl, ?_⟩
        rw [reach, if_pos hx, reach_zero]
        rfl
      · obtain ⟨pre, y, post, rfl, hy, hcount, hreach⟩ := ih (n := n) (by omega) (by omega)
        refine ⟨x :: pre, y, post, rfl, hy, ?_, ?_⟩
        · rw [List.countP_cons, if_pos hx, hcount]
        · rw [reach, if_pos hx, hreach, List.length_cons]
    · rw [if_neg hx] at h
      obtain ⟨pre, y, post, rfl, hy, hcount, hreach⟩ := ih (n := n + 1) (by omega) (by omega)
      refine ⟨x :: pre, y, post, rfl, hy, ?_, ?_⟩
      · rw [List.countP_cons, if_neg hx, Nat.add_zero, hcount]
      · rw [reach, if_neg hx, hreach, List.length_cons]

theorem reach_reaches (p : α → Bool) (n : ℕ) (l : List α) : Reaches p n l (reach p n l) where
  none hn := by
    rw [hn, reach_zero]
  all := reach_of_countP_lt
  nth := reach_nth

theorem reach_le_length (p : α → Bool) (n : ℕ) (l : List α) : reach p n l ≤ l.length := by
  by_cases hlt : l.countP p < n
  · exact Nat.le_of_eq (reach_of_countP_lt hlt)
  · by_cases hzero : n = 0
    · rw [hzero, reach_zero]
      exact Nat.zero_le _
    · obtain ⟨pre, x, post, hl, -, -, hreach⟩ :=
        reach_nth (Nat.pos_of_ne_zero hzero) (Nat.not_lt.mp hlt)
      rw [hreach, hl, List.length_append, List.length_cons]
      omega

/-- Two lists are read one after the other. -/
theorem reach_append (p : α → Bool) (n : ℕ) (l l' : List α) :
    reach p n (l ++ l') =
      if l.countP p < n then l.length + reach p (n - l.countP p) l' else reach p n l := by
  induction l generalizing n with
  | nil =>
    rw [List.countP_nil, List.nil_append, List.length_nil, Nat.zero_add, Nat.sub_zero]
    cases n with
    | zero => rw [reach_zero, reach_zero, ite_self]
    | succ n => rw [if_pos (Nat.succ_pos n)]
  | cons x l ih =>
    cases n with
    | zero => rfl
    | succ n =>
      rw [List.cons_append, reach, reach, List.countP_cons, List.length_cons]
      by_cases hx : p x = true
      · simp only [if_pos hx, ih, Nat.add_lt_add_iff_right, Nat.add_sub_add_right]
        split
        · omega
        · rfl
      · simp only [if_neg hx, ih, Nat.add_zero]
        split
        · omega
        · rfl

end Reach

/-! ## What a sweep does -/

section Sweep

variable {v : α → Verdict}

theorem sweep_started (v : α → Verdict) (n : ℕ) (l : List α) :
    (sweep v n l).started = (l.filter (starts v)).take n := by
  induction l generalizing n with
  | nil =>
    rw [List.filter_nil, List.take_nil]
    cases n with
    | zero => rfl
    | succ n => rfl
  | cons x l ih =>
    cases n with
    | zero => rfl
    | succ n =>
      rw [sweep, List.filter_cons]
      cases hx : v x with
      | wait =>
        have hnot : ¬ starts v x = true := by simp [starts, hx]
        rw [if_neg hnot]
        exact ih (n + 1)
      | drop =>
        have hnot : ¬ starts v x = true := by simp [starts, hx]
        rw [if_neg hnot]
        exact ih (n + 1)
      | start =>
        have hyes : starts v x = true := by simp [starts, hx]
        rw [if_pos hyes, List.take_succ_cons, ← ih n]

theorem sweep_dropped (v : α → Verdict) (n : ℕ) (l : List α) :
    (sweep v n l).dropped = (l.take (reach (starts v) n l)).filter (drops v) := by
  induction l generalizing n with
  | nil =>
    rw [List.take_nil, List.filter_nil]
    cases n with
    | zero => rfl
    | succ n => rfl
  | cons x l ih =>
    cases n with
    | zero => rfl
    | succ n =>
      rw [sweep, reach, List.take_succ_cons, List.filter_cons]
      cases hx : v x with
      | wait =>
        have hnot : ¬ starts v x = true := by simp [starts, hx]
        have hdrop : ¬ drops v x = true := by simp [drops, hx]
        rw [if_neg hnot, if_neg hdrop]
        exact ih (n + 1)
      | drop =>
        have hnot : ¬ starts v x = true := by simp [starts, hx]
        have hdrop : drops v x = true := by simp [drops, hx]
        rw [if_neg hnot, if_pos hdrop, ← ih (n + 1)]
      | start =>
        have hyes : starts v x = true := by simp [starts, hx]
        have hdrop : ¬ drops v x = true := by simp [drops, hx]
        rw [if_pos hyes, if_neg hdrop]
        exact ih n

theorem sweep_kept (v : α → Verdict) (n : ℕ) (l : List α) :
    (sweep v n l).kept =
      (l.take (reach (starts v) n l)).filter (waits v) ++ l.drop (reach (starts v) n l) := by
  induction l generalizing n with
  | nil =>
    rw [List.take_nil, List.filter_nil, List.drop_nil]
    cases n with
    | zero => rfl
    | succ n => rfl
  | cons x l ih =>
    cases n with
    | zero => rfl
    | succ n =>
      rw [sweep, reach, List.take_succ_cons, List.drop_succ_cons, List.filter_cons]
      cases hx : v x with
      | wait =>
        have hnot : ¬ starts v x = true := by simp [starts, hx]
        have hwait : waits v x = true := by simp [waits, hx]
        rw [if_neg hnot, if_pos hwait, List.cons_append, ← ih (n + 1)]
      | drop =>
        have hnot : ¬ starts v x = true := by simp [starts, hx]
        have hwait : ¬ waits v x = true := by simp [waits, hx]
        rw [if_neg hnot, if_neg hwait]
        exact ih (n + 1)
      | start =>
        have hyes : starts v x = true := by simp [starts, hx]
        have hwait : ¬ waits v x = true := by simp [waits, hx]
        rw [if_pos hyes, if_neg hwait]
        exact ih n

/-- Entries that have to wait are passed over. -/
theorem sweep_wait_append {pre : List α} (hpre : ∀ y ∈ pre, v y = .wait) (n : ℕ) (l : List α) :
    sweep v n (pre ++ l) =
      ⟨(sweep v n l).started, (sweep v n l).dropped, pre ++ (sweep v n l).kept⟩ := by
  induction pre with
  | nil => rfl
  | cons y pre ih =>
    rw [List.forall_mem_cons] at hpre
    cases n with
    | zero => rw [sweep_zero, sweep_zero]
    | succ n =>
      rw [List.cons_append, sweep, hpre.1, ih hpre.2]
      rfl

theorem sweep_of_wait {l : List α} (hl : ∀ y ∈ l, v y = .wait) (n : ℕ) :
    sweep v n l = ⟨[], [], l⟩ := by
  have hnil : sweep v n [] = ⟨[], [], []⟩ := by
    cases n with
    | zero => rfl
    | succ n => rfl
  have happend := sweep_wait_append hl n []
  rw [hnil, List.append_nil] at happend
  exact happend

/-- The first entry that need not wait is the first that a sweep removes. -/
theorem sweep_start_append {pre post : List α} {x : α} (hpre : ∀ y ∈ pre, v y = .wait)
    (hx : v x = .start) (n : ℕ) :
    sweep v (n + 1) (pre ++ x :: post) =
      ⟨x :: (sweep v n (pre ++ post)).started, (sweep v n (pre ++ post)).dropped,
        (sweep v n (pre ++ post)).kept⟩ := by
  rw [sweep_wait_append hpre, sweep_wait_append hpre, sweep, hx]

theorem sweep_drop_append {pre post : List α} {x : α} (hpre : ∀ y ∈ pre, v y = .wait)
    (hx : v x = .drop) (n : ℕ) :
    sweep v (n + 1) (pre ++ x :: post) =
      ⟨(sweep v (n + 1) (pre ++ post)).started, x :: (sweep v (n + 1) (pre ++ post)).dropped,
        (sweep v (n + 1) (pre ++ post)).kept⟩ := by
  rw [sweep_wait_append hpre, sweep_wait_append hpre, sweep, hx]

end Sweep

/-! ## A batch is a sweep over both queues -/

/-- The first queue is swept, and the second with the room that is left. -/
def Queues.sweep (v : α → Verdict) (n : ℕ) (q : Queues α) : Swept α × Swept α :=
  (Draw.sweep v n q.first,
    Draw.sweep v (n - (Draw.sweep v n q.first).started.length) q.second)

theorem Batch.eq_sweep {v : α → Verdict} {n : ℕ} {q q' : Queues α} {started dropped : List α}
    (h : Batch v n q started dropped q') :
    started = (q.sweep v n).1.started ++ (q.sweep v n).2.started ∧
      dropped = (q.sweep v n).1.dropped ++ (q.sweep v n).2.dropped ∧
      q' = ⟨(q.sweep v n).1.kept, (q.sweep v n).2.kept⟩ := by
  unfold Queues.sweep
  induction h with
  | full =>
    rw [sweep_zero, Nat.zero_sub, sweep_zero]
    exact ⟨rfl, rfl, rfl⟩
  | idle hall =>
    rw [sweep_of_wait fun y hy => hall y (List.mem_append_left _ hy),
      sweep_of_wait fun y hy => hall y (List.mem_append_right _ hy)]
    exact ⟨rfl, rfl, rfl⟩
  | start ht hx hb ih =>
    obtain ⟨hstarted, hdropped, hkept⟩ := ih
    cases ht with
    | first hpre _ =>
      simp only [sweep_start_append hpre hx, List.length_cons, Nat.add_sub_add_right]
      exact ⟨congrArg (List.cons _) hstarted, hdropped, hkept⟩
    | second hfirst hpre _ =>
      simp only [sweep_of_wait hfirst, List.length_nil, Nat.sub_zero] at hstarted hdropped hkept ⊢
      rw [sweep_start_append hpre hx]
      exact ⟨congrArg (List.cons _) hstarted, hdropped, hkept⟩
  | drop ht hx hb ih =>
    obtain ⟨hstarted, hdropped, hkept⟩ := ih
    cases ht with
    | first hpre _ =>
      simp only [sweep_drop_append hpre hx]
      exact ⟨hstarted, congrArg (List.cons _) hdropped, hkept⟩
    | second hfirst hpre _ =>
      simp only [sweep_of_wait hfirst, List.length_nil, Nat.sub_zero] at hstarted hdropped hkept ⊢
      rw [sweep_drop_append hpre hx]
      exact ⟨hstarted, congrArg (List.cons _) hdropped, hkept⟩

/-- How far both queues are read, and each of them. -/
theorem reach_all {p : α → Bool} {n : ℕ} {q : Queues α} :
    q.first.take (reach p n q.all) = q.first.take (reach p n q.first) ∧
      q.first.drop (reach p n q.all) = q.first.drop (reach p n q.first) ∧
      reach p n q.all - q.first.length = reach p (n - q.first.countP p) q.second := by
  rw [Queues.all, reach_append]
  by_cases hlt : q.first.countP p < n
  · rw [if_pos hlt, reach_of_countP_lt hlt, Nat.add_sub_cancel_left, List.take_length,
      List.drop_length]
    have hle : q.first.length ≤ q.first.length + reach p (n - q.first.countP p) q.second :=
      Nat.le_add_right _ _
    exact ⟨List.take_of_length_le hle, List.drop_eq_nil_of_le hle, rfl⟩
  · rw [if_neg hlt, Nat.sub_eq_zero_of_le (reach_le_length p n q.first),
      Nat.sub_eq_zero_of_le (Nat.not_lt.mp hlt), reach_zero]
    exact ⟨rfl, rfl, rfl⟩

/-- **A batch in one pass.**  The entries that start are the first ones that may, up to the
capacity.  Of the entries that are read until then, those that are to be dropped are, and the
others stay in their queues and in their order, before all that are not read. -/
theorem Batch.one_pass {v : α → Verdict} {n : ℕ} {q q' : Queues α} {started dropped : List α}
    (h : Batch v n q started dropped q') :
    started = (q.all.filter (starts v)).take n ∧
      ∃ k, Reaches (starts v) n q.all k ∧
        dropped = (q.all.take k).filter (drops v) ∧
        q'.first = (q.first.take k).filter (waits v) ++ q.first.drop k ∧
        q'.second = (q.second.take (k - q.first.length)).filter (waits v) ++
          q.second.drop (k - q.first.length) := by
  obtain ⟨hstarted, hdropped, rfl⟩ := h.eq_sweep
  simp only [Queues.sweep] at hstarted hdropped ⊢
  have hroom : n - (sweep v n q.first).started.length = n - q.first.countP (starts v) := by
    rw [sweep_started, List.length_take, List.countP_eq_length_filter]
    omega
  obtain ⟨htake, hdrop, hsecond⟩ := reach_all (p := starts v) (n := n) (q := q)
  refine ⟨?_, reach (starts v) n q.all, reach_reaches _ _ _, ?_, ?_, ?_⟩
  · rw [hstarted, hroom, sweep_started, sweep_started, Queues.all, List.filter_append,
      List.take_append, List.countP_eq_length_filter]
  · rw [hdropped, hroom, sweep_dropped, sweep_dropped, ← htake, ← hsecond, ← List.filter_append,
      ← List.take_append]
    rfl
  · rw [sweep_kept, htake, hdrop]
  · rw [hroom, sweep_kept, hsecond]

end Draw
end MevShare
