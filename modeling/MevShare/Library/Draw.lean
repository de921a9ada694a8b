import Mathlib.Data.List.Basic
import Mathlib.Data.List.Count

/-!
# Drawing batches from two queues

A scheduler with two classes of work keeps a first and a second queue and reads
them one after the other.  Every entry is judged: it may have to `wait`, it may
be `drop`ped, or it may `start`.  A draw walks over both queues from the front,
removes entries to be dropped as it meets them and hands out entries to start,
until a given number has been handed out or every entry left has to wait.

* `Take`: removing the first entry that need not wait.
* `Pop`: one draw, which drops entries until it starts one or runs dry.
* `Batch`: draws repeated up to a capacity, in one relation.
* `Batch.countP_eq`: a batch loses and duplicates nothing.
* `Batch.first_sublist`, `Batch.second_sublist`: what stays keeps its queue and
  its order.
* `Batch.mem_started_of_le`: with room for every entry, every entry to be started
  is started.
* `Batch.no_overtaking`: an entry that stays while a later one is started has to
  wait.
* `Batch.first_wait_of_last_notMem_first`: where the second queue is reached,
  every entry of the first has to wait.
* `Batch.findIdx_first`, `Batch.findIdx_second`: every start from the queue of an
  entry that could start and stays brings it forward by one.

The judgement is an arbitrary function `v`, and entries are of an arbitrary
type.
-/

namespace MevShare
namespace Draw

variable {α : Type*}

/-- What is to be done with a queued entry now. -/
inductive Verdict where
  | wait
  | drop
  | start
  deriving DecidableEq

/-- The two queues of a scheduler, read first then second. -/
structure Queues (α : Type*) where
  first : List α
  second : List α

/-- All entries, in the order in which they are read. -/
def Queues.all (q : Queues α) : List α := q.first ++ q.second

/-- `Take v q x q'`: `x` is the first entry of `q` that need not wait, and `q'`
is `q` without it. -/
inductive Take (v : α → Verdict) : Queues α → α → Queues α → Prop
  | first {pre post second : List α} {x : α} (hpre : ∀ y ∈ pre, v y = .wait)
      (hx : v x ≠ .wait) : Take v ⟨pre ++ x :: post, second⟩ x ⟨pre ++ post, second⟩
  | second {first pre post : List α} {x : α} (hfirst : ∀ y ∈ first, v y = .wait)
      (hpre : ∀ y ∈ pre, v y = .wait) (hx : v x ≠ .wait) :
      Take v ⟨first, pre ++ x :: post⟩ x ⟨first, pre ++ post⟩

/-- `Pop v q dropped r q'`: one draw from `q` drops the entries `dropped`, starts
`r` if it is an entry and runs dry otherwise, and leaves `q'`. -/
inductive Pop (v : α → Verdict) : Queues α → List α → Option α → Queues α → Prop
  | idle {q : Queues α} (hall : ∀ x ∈ q.all, v x = .wait) : Pop v q [] none q
  | start {q q' : Queues α} {x : α} (ht : Take v q x q') (hx : v x = .start) :
      Pop v q [] (some x) q'
  | drop {q q₁ q' : Queues α} {x : α} {dropped : List α} {r : Option α} (ht : Take v q x q₁)
      (hx : v x = .drop) (hp : Pop v q₁ dropped r q') : Pop v q (x :: dropped) r q'

/-- `Batch v n q started dropped q'`: draws from `q`, repeated until `n` entries
have been started or a draw runs dry, start `started`, drop `dropped` and leave
`q'`. -/
inductive Batch (v : α → Verdict) : ℕ → Queues α → List α → List α → Queues α → Prop
  | full {q : Queues α} : Batch v 0 q [] [] q
  | idle {n : ℕ} {q : Queues α} (hall : ∀ x ∈ q.all, v x = .wait) : Batch v (n + 1) q [] [] q
  | start {n : ℕ} {q q₁ q' : Queues α} {x : α} {started dropped : List α}
      (ht : Take v q x q₁) (hx : v x = .start) (hb : Batch v n q₁ started dropped q') :
      Batch v (n + 1) q (x :: started) dropped q'
  | drop {n : ℕ} {q q₁ q' : Queues α} {x : α} {started dropped : List α}
      (ht : Take v q x q₁) (hx : v x = .drop) (hb : Batch v (n + 1) q₁ started dropped q') :
      Batch v (n + 1) q started (x :: dropped) q'

/-! ## A batch is a sequence of draws -/

theorem Pop.batch_some {v : α → Verdict} {q q₁ : Queues α} {dropped : List α} {r : Option α}
    (hp : Pop v q dropped r q₁) {x : α} (hr : r = some x) {n : ℕ} {q' : Queues α}
    {started dropped' : List α} (hb : Batch v n q₁ started dropped' q') :
    Batch v (n + 1) q (x :: started) (dropped ++ dropped') q' := by
  induction hp with
  | idle hall => cases hr
  | start ht hx =>
    cases hr
    exact Batch.start ht hx hb
  | drop ht hx _ ih => exact Batch.drop ht hx (ih hr hb)

theorem Pop.batch_none {v : α → Verdict} {q q' : Queues α} {dropped : List α} {r : Option α}
    (hp : Pop v q dropped r q') (hr : r = none) (n : ℕ) : Batch v (n + 1) q [] dropped q' := by
  induction hp with
  | idle hall => exact Batch.idle hall
  | start ht hx => cases hr
  | drop ht hx _ ih => exact Batch.drop ht hx (ih hr)

/-! ## What one removal does -/

variable {v : α → Verdict} {q q' : Queues α} {x : α}

theorem Take.mem (h : Take v q x q') : x ∈ q.first ∨ x ∈ q.second := by
  cases h with
  | first hpre hx => exact Or.inl (by simp)
  | second hfirst hpre hx => exact Or.inr (by simp)

theorem Take.first_sublist (h : Take v q x q') : q'.first.Sublist q.first := by
  cases h with
  | first hpre hx => exact List.Sublist.append_left (List.sublist_cons_self _ _) _
  | second hfirst hpre hx => exact List.Sublist.refl _

theorem Take.second_sublist (h : Take v q x q') : q'.second.Sublist q.second := by
  cases h with
  | first hpre hx => exact List.Sublist.refl _
  | second hfirst hpre hx => exact List.Sublist.append_left (List.sublist_cons_self _ _) _

theorem Take.countP_eq (h : Take v q x q') (p : α → Bool) :
    q.first.countP p + q.second.countP p =
      [x].countP p + (q'.first.countP p + q'.second.countP p) := by
  cases h with
  | first hpre hx =>
    simp only [List.countP_append, List.countP_cons, List.countP_nil]
    omega
  | second hfirst hpre hx =>
    simp only [List.countP_append, List.countP_cons, List.countP_nil]
    omega

/-- Where the removed entry is not of the first queue, every entry of the first
queue has to wait, and the first queue is as it was. -/
theorem Take.of_notMem_first (h : Take v q x q') (hx : x ∉ q.first) :
    (∀ y ∈ q.first, v y = .wait) ∧ q'.first = q.first := by
  cases h with
  | first hpre hx' => exact absurd (by simp) hx
  | second hfirst hpre hx' => exact ⟨hfirst, rfl⟩

/-! ## What a batch does -/

variable {n : ℕ} {started dropped : List α}

theorem Batch.first_sublist (h : Batch v n q started dropped q') :
    q'.first.Sublist q.first := by
  induction h with
  | full => exact List.Sublist.refl _
  | idle hall => exact List.Sublist.refl _
  | start ht hx hb ih => exact ih.trans ht.first_sublist
  | drop ht hx hb ih => exact ih.trans ht.first_sublist

theorem Batch.second_sublist (h : Batch v n q started dropped q') :
    q'.second.Sublist q.second := by
  induction h with
  | full => exact List.Sublist.refl _
  | idle hall => exact List.Sublist.refl _
  | start ht hx hb ih => exact ih.trans ht.second_sublist
  | drop ht hx hb ih => exact ih.trans ht.second_sublist

/-- **A batch loses and duplicates nothing**: every entry is started, dropped or
left, counted by any predicate. -/
theorem Batch.countP_eq (h : Batch v n q started dropped q') (p : α → Bool) :
    q.first.countP p + q.second.countP p =
      started.countP p + dropped.countP p + (q'.first.countP p + q'.second.countP p) := by
  induction h with
  | full => simp
  | idle hall => simp
  | start ht hx hb ih =>
    have hcount := ht.countP_eq p
    rw [List.countP_cons]
    rw [List.countP_cons, List.countP_nil] at hcount
    omega
  | drop ht hx hb ih =>
    have hcount := ht.countP_eq p
    rw [List.countP_cons]
    rw [List.countP_cons, List.countP_nil] at hcount
    omega

theorem Batch.verdict_started (h : Batch v n q started dropped q') :
    ∀ x ∈ started, v x = .start := by
  induction h with
  | full => simp
  | idle hall => simp
  | start ht hx hb ih =>
    intro y hy
    rcases List.mem_cons.mp hy with rfl | hy
    · exact hx
    · exact ih y hy
  | drop ht hx hb ih => exact ih

theorem Batch.verdict_dropped (h : Batch v n q started dropped q') :
    ∀ x ∈ dropped, v x = .drop := by
  induction h with
  | full => simp
  | idle hall => simp
  | start ht hx hb ih => exact ih
  | drop ht hx hb ih =>
    intro y hy
    rcases List.mem_cons.mp hy with rfl | hy
    · exact hx
    · exact ih y hy

theorem Batch.mem_of_started (h : Batch v n q started dropped q') :
    ∀ x ∈ started, x ∈ q.first ∨ x ∈ q.second := by
  induction h with
  | full => simp
  | idle hall => simp
  | start ht hx hb ih =>
    intro y hy
    rcases List.mem_cons.mp hy with rfl | hy
    · exact ht.mem
    · exact (ih y hy).imp (fun h => ht.first_sublist.subset h) fun h => ht.second_sublist.subset h
  | drop ht hx hb ih =>
    intro y hy
    exact (ih y hy).imp (fun h => ht.first_sublist.subset h) fun h => ht.second_sublist.subset h

/-- Where every entry has to wait, a batch is empty. -/
theorem Batch.eq_of_wait (h : Batch v n q started dropped q') (hall : ∀ x, v x = .wait) :
    started = [] ∧ dropped = [] ∧ q' = q := by
  cases h with
  | full => exact ⟨rfl, rfl, rfl⟩
  | idle _ => exact ⟨rfl, rfl, rfl⟩
  | @start _ _ _ _ x _ _ ht hx _ =>
    rw [hall x] at hx
    cases hx
  | @drop _ _ _ _ x _ _ ht hx _ =>
    rw [hall x] at hx
    cases hx

/-- A batch that could have started more has left only entries that have to
wait. -/
theorem Batch.wait_of_length_lt (h : Batch v n q started dropped q') (hlt : started.length < n) :
    ∀ x ∈ q'.all, v x = .wait := by
  induction h with
  | full => exact absurd hlt (Nat.not_lt_zero _)
  | idle hall => exact hall
  | start ht hx hb ih => exact ih (Nat.lt_of_succ_lt_succ hlt)
  | drop ht hx hb ih => exact ih hlt

/-- With room for every entry, every entry to be started is. -/
theorem Batch.mem_started_of_le (h : Batch v n q started dropped q') (hn : q.all.length ≤ n)
    (hx : x ∈ q.all) (hv : v x = .start) : x ∈ started := by
  classical
  by_contra hnot
  have hcount := h.countP_eq fun y => decide (y = x)
  have hpos : 0 < q.all.countP fun y => decide (y = x) :=
    List.countP_pos_iff.mpr ⟨x, hx, by simp⟩
  have hstarted : started.countP (fun y => decide (y = x)) = 0 :=
    List.countP_eq_zero.mpr fun y hy hyx => hnot (of_decide_eq_true hyx ▸ hy)
  have hdropped : dropped.countP (fun y => decide (y = x)) = 0 := by
    refine List.countP_eq_zero.mpr fun y hy hyx => ?_
    have hdrop := h.verdict_dropped y hy
    rw [of_decide_eq_true hyx, hv] at hdrop
    cases hdrop
  have hleft : 0 < q'.all.countP fun y => decide (y = x) := by
    unfold Queues.all at hpos ⊢
    rw [List.countP_append] at hpos ⊢
    omega
  obtain ⟨y, hy, hyx⟩ := List.countP_pos_iff.mp hleft
  obtain rfl : y = x := of_decide_eq_true hyx
  have htrue := h.countP_eq fun _ => true
  have hmem : 0 < q'.all.length := List.length_pos_of_mem hy
  have hlt : started.length < n := by
    unfold Queues.all at hn hmem
    rw [List.length_append] at hn hmem
    simp only [List.countP_true] at htrue
    omega
  have hwait := h.wait_of_length_lt hlt y hy
  rw [hv] at hwait
  cases hwait

/-! ## Order -/

/-- The removed entry cuts the two queues, read as one list, behind entries that
have to wait. -/
theorem Take.all_eq (h : Take v q x q') :
    ∃ pre post, q.all = pre ++ x :: post ∧ q'.all = pre ++ post ∧ ∀ y ∈ pre, v y = .wait := by
  cases h with
  | @first pre post second _ hpre hx =>
    exact ⟨pre, post ++ second, by simp [Queues.all], by simp [Queues.all], hpre⟩
  | @second first pre post _ hfirst hpre hx =>
    refine ⟨first ++ pre, post, by simp [Queues.all], by simp [Queues.all], ?_⟩
    intro y hy
    rcases List.mem_append.mp hy with hy | hy
    · exact hfirst y hy
    · exact hpre y hy

theorem Take.length_lt (h : Take v q x q') : q'.all.length < q.all.length := by
  obtain ⟨pre, post, hq, hq', -⟩ := h.all_eq
  rw [hq, hq']
  simp only [List.length_append, List.length_cons]
  omega

theorem Batch.all_sublist (h : Batch v n q started dropped q') : q'.all.Sublist q.all :=
  h.first_sublist.append h.second_sublist

theorem mem_of_pair_sublist {a b : α} {pre post : List α} (hnd : (pre ++ b :: post).Nodup)
    (h : [a, b].Sublist (pre ++ b :: post)) : a ∈ pre := by
  obtain ⟨l₁, l₂, hl, h₁, h₂⟩ := List.sublist_append_iff.mp h
  have hpost : b ∉ post := (List.nodup_cons.mp (List.nodup_append.mp hnd).2.1).1
  rcases l₁ with _ | ⟨c, l₁⟩
  · rw [List.nil_append] at hl
    rw [← hl] at h₂
    cases h₂ with
    | cons _ h => exact absurd (h.subset (by simp)) hpost
    | cons_cons _ h => exact absurd (h.subset (by simp)) hpost
  · rw [List.cons_append, List.cons.injEq] at hl
    rw [hl.1]
    exact h₁.subset List.mem_cons_self

/-- Removing an entry of two queues that are free of repetitions leaves them so,
and leaves the order of the entries that stay. -/
theorem Take.pair_sublist (ht : Take v q x q') (hnd : q.all.Nodup) {a b : α}
    (hab : [a, b].Sublist q.all) (ha : a ∈ q'.all) (hb : b ∈ q'.all) :
    q'.all.Nodup ∧ [a, b].Sublist q'.all := by
  classical
  obtain ⟨pre, post, hq, hq', -⟩ := ht.all_eq
  rw [hq] at hnd hab
  rw [hq'] at ha hb ⊢
  have hnd' : (x :: (pre ++ post)).Nodup := List.perm_middle.nodup_iff.mp hnd
  have hne : ∀ y ∈ pre ++ post, y ≠ x := fun y hy hyx =>
    (List.nodup_cons.mp hnd').1 (hyx ▸ hy)
  have hfilter : (pre ++ x :: post).filter (· ≠ x) = pre ++ post := by
    rw [List.filter_append, List.filter_cons_of_neg (by simp), ← List.filter_append]
    exact List.filter_eq_self.mpr fun y hy => by simpa using hne y hy
  have hpair : [a, b].filter (· ≠ x) = [a, b] := by simp [hne a ha, hne b hb]
  refine ⟨hnd'.of_cons, ?_⟩
  rw [← hfilter, ← hpair]
  exact hab.filter _

/-- **No overtaking.**  Where all entries are different, an entry that is still
queued after a batch which started an entry behind it has to wait. -/
theorem Batch.no_overtaking (h : Batch v n q started dropped q') (hnd : q.all.Nodup) {a b : α}
    (hab : [a, b].Sublist q.all) (ha : a ∈ q'.all) (hb : b ∈ started) : v a = .wait := by
  induction h with
  | full => simp at hb
  | idle hall => simp at hb
  | start ht hx hb' ih =>
    rcases List.mem_cons.mp hb with rfl | hb
    · obtain ⟨pre, post, hq, -, hwait⟩ := ht.all_eq
      rw [hq] at hnd hab
      exact hwait a (mem_of_pair_sublist hnd hab)
    · obtain ⟨hnd₁, hab₁⟩ := ht.pair_sublist hnd hab (hb'.all_sublist.subset ha)
        (List.mem_append.mpr (hb'.mem_of_started b hb))
      exact ih hnd₁ hab₁ ha hb
  | drop ht hx hb' ih =>
    obtain ⟨hnd₁, hab₁⟩ := ht.pair_sublist hnd hab (hb'.all_sublist.subset ha)
      (List.mem_append.mpr (hb'.mem_of_started b hb))
    exact ih hnd₁ hab₁ ha hb

/-- **The second queue is reached last.**  If the last entry a batch starts up to
its capacity is not of the first queue, every entry then left in the first queue
has to wait. -/
theorem Batch.first_wait_of_last_notMem_first (h : Batch v n q started dropped q')
    {pre : List α} {x : α} (hs : started = pre ++ [x]) (hn : n = pre.length + 1)
    (hx : x ∉ q.first) : ∀ y ∈ q'.first, v y = .wait := by
  induction h generalizing pre with
  | full => omega
  | idle hall => exact absurd hs (by simp)
  | @start n q q₁ q' z started dropped ht hz hb ih =>
    rcases pre with _ | ⟨z', pre⟩
    · rw [List.nil_append, List.cons.injEq] at hs
      obtain ⟨rfl, rfl⟩ := hs
      obtain rfl : n = 0 := by simpa using hn
      obtain ⟨hwait, hq₁⟩ := ht.of_notMem_first hx
      cases hb
      rw [hq₁]
      exact hwait
    · rw [List.cons_append, List.cons.injEq] at hs
      have hn' : n = pre.length + 1 := by simpa using hn
      exact ih hs.2 hn' fun hmem => hx (ht.first_sublist.subset hmem)
  | drop ht hz hb ih =>
    exact ih hs hn fun hmem => hx (ht.first_sublist.subset hmem)

/-! ## Waiting -/

section Waiting

variable {π : α → Bool} {m : α}

/-- Where one entry is marked, cutting out an entry ahead of it brings it forward. -/
theorem findIdx_cut {pre post : List α} {x : α} (hone : (pre ++ x :: post).countP π ≤ 1)
    (hm : m ∈ post) (hπ : π m = true) :
    (pre ++ x :: post).findIdx π = (pre ++ post).findIdx π + 1 := by
  have hpost : 0 < post.countP π := List.countP_pos_iff.mpr ⟨m, hm, hπ⟩
  rw [List.countP_append, List.countP_cons] at hone
  have hx : π x = false := by
    by_contra hx
    rw [if_pos (Bool.not_eq_false _ ▸ hx)] at hone
    omega
  have hpre : ∀ y ∈ pre, π y = false := by
    intro y hy
    have hzero : pre.countP π = 0 := by omega
    exact Bool.not_eq_true _ ▸ List.countP_eq_zero.mp hzero y hy
  have hlen : pre.findIdx π = pre.length := List.findIdx_eq_length.mpr hpre
  rw [List.findIdx_append, List.findIdx_append, hlen, if_neg (Nat.lt_irrefl _),
    if_neg (Nat.lt_irrefl _), List.findIdx_cons, hx]
  simp only [cond_false]
  omega

/-- What is taken while an entry of the first queue need not wait is ahead of it. -/
theorem Take.findIdx_first (h : Take v q x q') (hone : q.first.countP π ≤ 1) (hm : m ∈ q'.first)
    (hπ : π m = true) (hv : v m ≠ .wait) :
    x ∈ q.first ∧ q.first.findIdx π = q'.first.findIdx π + 1 := by
  cases h with
  | @first pre post second _ hpre hx =>
    refine ⟨by simp, ?_⟩
    rcases List.mem_append.mp hm with hm | hm
    · exact absurd (hpre m hm) hv
    · exact findIdx_cut hone hm hπ
  | second hfirst hpre hx => exact absurd (hfirst m hm) hv

/-- What is taken while an entry of the second queue need not wait is ahead of it, or
of the first queue. -/
theorem Take.findIdx_second (h : Take v q x q') (hone : q.second.countP π ≤ 1)
    (hm : m ∈ q'.second) (hπ : π m = true) (hv : v m ≠ .wait) :
    x ∈ q.first ∧ q'.second = q.second ∨
      q.second.findIdx π = q'.second.findIdx π + 1 := by
  cases h with
  | @first pre post second _ hpre hx => exact Or.inl ⟨by simp, rfl⟩
  | @second first pre post _ hfirst hpre hx =>
    refine Or.inr ?_
    rcases List.mem_append.mp hm with hm | hm
    · exact absurd (hpre m hm) hv
    · exact findIdx_cut hone hm hπ

/-- **Waiting in the first queue.**  A batch that leaves an entry of the first queue
behind, although it could start, has started only entries of the first queue, and each
of them was ahead of it. -/
theorem Batch.findIdx_first (h : Batch v n q started dropped q') (hone : q.first.countP π ≤ 1)
    (hm : m ∈ q'.first) (hπ : π m = true) (hv : v m ≠ .wait) :
    (∀ y ∈ started, y ∈ q.first) ∧
      q'.first.findIdx π + started.length ≤ q.first.findIdx π := by
  induction h with
  | full => exact ⟨by simp, Nat.le_refl _⟩
  | idle hall => exact ⟨by simp, Nat.le_refl _⟩
  | @start n q q₁ q' x started dropped ht hx hb ih =>
    have hone₁ : q₁.first.countP π ≤ 1 := Nat.le_trans ht.first_sublist.countP_le hone
    obtain ⟨hsub, hle⟩ := ih hone₁ hm
    obtain ⟨hfirst, hidx⟩ := ht.findIdx_first hone (hb.first_sublist.subset hm) hπ hv
    refine ⟨fun y hy => ?_, ?_⟩
    · rcases List.mem_cons.mp hy with rfl | hy
      · exact hfirst
      · exact ht.first_sublist.subset (hsub y hy)
    · rw [List.length_cons]
      omega
  | @drop n q q₁ q' x started dropped ht hx hb ih =>
    have hone₁ : q₁.first.countP π ≤ 1 := Nat.le_trans ht.first_sublist.countP_le hone
    obtain ⟨hsub, hle⟩ := ih hone₁ hm
    obtain ⟨hfirst, hidx⟩ := ht.findIdx_first hone (hb.first_sublist.subset hm) hπ hv
    exact ⟨fun y hy => ht.first_sublist.subset (hsub y hy), by omega⟩

/-- **Waiting in the second queue.**  The same for the second queue, without the starts
from the first. -/
theorem Batch.findIdx_second (h : Batch v n q started dropped q')
    (hone : q.second.countP π ≤ 1) (hm : m ∈ q'.second) (hπ : π m = true) (hv : v m ≠ .wait)
    {c : α → Bool} (hc : ∀ y ∈ q.first, c y = false) :
    q'.second.findIdx π + started.countP c ≤ q.second.findIdx π := by
  induction h with
  | full => exact Nat.le_refl _
  | idle hall => exact Nat.le_refl _
  | @start n q q₁ q' x started dropped ht hx hb ih =>
    have hone₁ : q₁.second.countP π ≤ 1 := Nat.le_trans ht.second_sublist.countP_le hone
    have hle := ih hone₁ hm fun y hy => hc y (ht.first_sublist.subset hy)
    have hone' : [x].countP c ≤ 1 := List.countP_le_length
    rw [← List.singleton_append, List.countP_append]
    rcases ht.findIdx_second hone (hb.second_sublist.subset hm) hπ hv with ⟨hfirst, hsame⟩ | hidx
    · have hzero : [x].countP c = 0 := by
        rw [List.countP_singleton, hc x hfirst]
        rfl
      rw [hsame] at hle
      omega
    · omega
  | @drop n q q₁ q' x started dropped ht hx hb ih =>
    have hone₁ : q₁.second.countP π ≤ 1 := Nat.le_trans ht.second_sublist.countP_le hone
    have hle := ih hone₁ hm fun y hy => hc y (ht.first_sublist.subset hy)
    rcases ht.findIdx_second hone (hb.second_sublist.subset hm) hπ hv with ⟨-, hsame⟩ | hidx
    · rw [hsame] at hle
      exact hle
    · omega

end Waiting

end Draw
end MevShare
