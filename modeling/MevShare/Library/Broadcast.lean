import Mathlib.Data.List.Basic
import Mathlib.Data.List.Range
import Mathlib.Data.List.Pairwise

/-!
# Bounded broadcast channels

A broadcast channel keeps the last `capacity` values that were sent.  Every receiver
has a cursor of its own, the position of the value it receives next, and is given each
value of which its cursor is not too far behind.  A receiver whose value was overwritten
is told so, and its cursor moves to the oldest value that is kept.

`sent` is everything that was ever sent, so that a value is known by its position; the
ring has of it what is not `Overwritten`.  `Reads` is what a receiver knows of its own
past: the positions it has read, in order, and that whatever it has passed without
reading was overwritten.

* `Reads.subscribe`, `Reads.send`, `Reads.recv`: every operation keeps it.
* `Contiguous` is the past of a receiver that was never behind.
* `Receiver.recv_behind`: receiving brings a receiver closer to the end, until it is there;
  `Reads.kept` is what it has read by then: all that the ring still has.
* `sublist_of_positions`: values at increasing positions are a sublist.
-/

namespace MevShare
namespace Broadcast

variable {α : Type*}

/-- The sending half: the size of the ring, what was sent, and whether every sender is
gone. -/
structure Channel (α : Type*) where
  capacity : ℕ
  sent : List α
  closed : Bool

namespace Channel

def send (c : Channel α) (a : α) : Channel α := { c with sent := c.sent ++ [a] }

def close (c : Channel α) : Channel α := { c with closed := true }

/-- The value at this position is no longer in the ring. -/
def Overwritten (c : Channel α) (p : ℕ) : Prop := p + c.capacity < c.sent.length

instance (c : Channel α) (p : ℕ) : Decidable (c.Overwritten p) := Nat.decLt _ _

theorem Overwritten.send {c : Channel α} {p : ℕ} (h : c.Overwritten p) (a : α) :
    (c.send a).Overwritten p := by
  show p + c.capacity < (c.sent ++ [a]).length
  rw [List.length_append]
  exact Nat.lt_add_right _ h

end Channel

/-- The receiving half: the position of the next value. -/
structure Receiver where
  next : ℕ
  deriving DecidableEq, Repr

/-- A new receiver receives what is sent from now on. -/
def Channel.subscribe (c : Channel α) : Receiver := ⟨c.sent.length⟩

/-- What a receiver is told. -/
inductive Recv (α : Type*) where
  | value (a : α)
  /-- So many values were overwritten before they were received. -/
  | lagged (skipped : ℕ)
  /-- There is no value yet. -/
  | empty
  /-- There is no value, and no sender that could send one. -/
  | closed

/-- Receiving, without waiting. -/
def Receiver.recv (r : Receiver) (c : Channel α) : Receiver × Recv α :=
  if c.Overwritten r.next then
    let oldest := c.sent.length - c.capacity
    (⟨oldest⟩, .lagged (oldest - r.next))
  else
    match c.sent[r.next]? with
    | some a => (⟨r.next + 1⟩, .value a)
    | none => (r, if c.closed then .closed else .empty)

/-- **What receiving does.**  The receiver lags, and its cursor moves on to the oldest
value there is; or it is given the value at its cursor; or it waits. -/
theorem Receiver.recv_cases {r r' : Receiver} {c : Channel α} {out : Recv α}
    (h : r.recv c = (r', out)) :
    (c.Overwritten r.next ∧ r' = ⟨c.sent.length - c.capacity⟩ ∧
        ∃ skipped, out = .lagged skipped) ∨
      (¬ c.Overwritten r.next ∧
        ((∃ a, c.sent[r.next]? = some a ∧ r' = ⟨r.next + 1⟩ ∧ out = .value a) ∨
          (c.sent[r.next]? = none ∧ r' = r ∧ (out = .closed ∨ out = .empty)))) := by
  unfold recv at h
  by_cases hover : c.Overwritten r.next
  · rw [if_pos hover] at h
    cases h
    exact Or.inl ⟨hover, rfl, _, rfl⟩
  · rw [if_neg hover] at h
    refine Or.inr ⟨hover, ?_⟩
    cases hget : c.sent[r.next]? with
    | some a =>
      rw [hget] at h
      cases h
      exact Or.inl ⟨a, rfl, rfl, rfl⟩
    | none =>
      rw [hget] at h
      cases h
      refine Or.inr ⟨rfl, rfl, ?_⟩
      cases c.closed with
      | true => exact Or.inl rfl
      | false => exact Or.inr rfl

/-- A receiver is told that the channel is closed only if it is. -/
theorem Receiver.closed_of_recv {r : Receiver} {c : Channel α} (h : (r.recv c).2 = .closed) :
    c.closed = true := by
  unfold recv at h
  by_cases hover : c.Overwritten r.next
  · rw [if_pos hover] at h
    cases h
  · rw [if_neg hover] at h
    rcases hget : c.sent[r.next]? with _ | a <;> rw [hget] at h
    · rcases hclosed : c.closed with _ | _
      · rw [hclosed] at h
        cases h
      · rfl
    · cases h

/-- How many values a receiver has before it. -/
def Receiver.behind (r : Receiver) (c : Channel α) : ℕ := c.sent.length - r.next

/-- **Receiving brings a receiver closer to the end**, or it is there. -/
theorem Receiver.recv_behind {r r' : Receiver} {c : Channel α} {out : Recv α}
    (h : r.recv c = (r', out)) :
    (∃ a, out = .value a ∧ r'.behind c + 1 = r.behind c) ∨
      (∃ skipped, out = .lagged skipped ∧ r'.behind c < r.behind c) ∨
        (out = .closed ∨ out = .empty) ∧ r' = r ∧ c.sent.length ≤ r.next := by
  rcases recv_cases h with ⟨hover, rfl, skipped, rfl⟩ |
    ⟨-, ⟨a, hget, rfl, rfl⟩ | ⟨hget, rfl, hout⟩⟩
  · refine Or.inr (Or.inl ⟨skipped, rfl, ?_⟩)
    have hlt : r.next + c.capacity < c.sent.length := hover
    show c.sent.length - (c.sent.length - c.capacity) < c.sent.length - r.next
    omega
  · refine Or.inl ⟨a, rfl, ?_⟩
    obtain ⟨hlt, -⟩ := List.getElem?_eq_some_iff.mp hget
    show c.sent.length - (r.next + 1) + 1 = c.sent.length - r.next
    omega
  · exact Or.inr (Or.inr ⟨hout, rfl, List.getElem?_eq_none_iff.mp hget⟩)

/-! ## The past of a receiver -/

/-- The positions that a receiver has read since it was at `start`. -/
structure Reads (c : Channel α) (start : ℕ) (r : Receiver) (reads : List ℕ) : Prop where
  sorted : reads.Pairwise (· < ·)
  bounds : ∀ p ∈ reads, start ≤ p ∧ p < r.next
  start_le : start ≤ r.next
  next_le : r.next ≤ c.sent.length
  passed : ∀ p, start ≤ p → p < r.next → p ∉ reads → c.Overwritten p

namespace Reads

variable {c : Channel α} {start : ℕ} {r : Receiver} {reads : List ℕ}

theorem subscribe (c : Channel α) : Reads c c.sent.length c.subscribe [] where
  sorted := List.Pairwise.nil
  bounds _ hp := absurd hp List.not_mem_nil
  start_le := Nat.le_refl _
  next_le := Nat.le_refl _
  passed _ hstart hnext _ := absurd hstart (Nat.not_le.mpr hnext)

theorem send (h : Reads c start r reads) (a : α) : Reads (c.send a) start r reads where
  sorted := h.sorted
  bounds := h.bounds
  start_le := h.start_le
  next_le := by
    show r.next ≤ (c.sent ++ [a]).length
    rw [List.length_append]
    exact Nat.le_add_right_of_le h.next_le
  passed p hstart hnext hmem := (h.passed p hstart hnext hmem).send a

theorem close (h : Reads c start r reads) : Reads c.close start r reads :=
  ⟨h.sorted, h.bounds, h.start_le, h.next_le, h.passed⟩

/-- The value at the cursor is read. -/
theorem value (h : Reads c start r reads) {a : α} (hget : c.sent[r.next]? = some a) :
    Reads c start ⟨r.next + 1⟩ (reads ++ [r.next]) where
  sorted := by
    refine List.pairwise_append.mpr ⟨h.sorted, List.pairwise_singleton _ _, fun p hp q hq => ?_⟩
    rw [List.mem_singleton.mp hq]
    exact (h.bounds p hp).2
  bounds p hp := by
    rcases List.mem_append.mp hp with hp | hp
    · exact ⟨(h.bounds p hp).1, Nat.lt_succ_of_lt (h.bounds p hp).2⟩
    · rw [List.mem_singleton.mp hp]
      exact ⟨h.start_le, Nat.lt_succ_self _⟩
  start_le := Nat.le_succ_of_le h.start_le
  next_le := by
    obtain ⟨hlt, -⟩ := List.getElem?_eq_some_iff.mp hget
    exact hlt
  passed p hstart hnext hmem := by
    have hne : p ≠ r.next := fun heq => hmem (List.mem_append_right _ (by simp [heq]))
    have hlt : p < r.next := Nat.lt_of_le_of_ne (Nat.lt_succ_iff.mp hnext) hne
    exact h.passed p hstart hlt fun hp => hmem (List.mem_append_left _ hp)

/-- What lies between the cursor and the oldest value was overwritten. -/
theorem lagged (h : Reads c start r reads) (hover : c.Overwritten r.next) :
    Reads c start ⟨c.sent.length - c.capacity⟩ reads := by
  have hnext : r.next < c.sent.length - c.capacity := Nat.lt_sub_of_add_lt hover
  refine ⟨h.sorted, fun p hp => ?_, ?_, Nat.sub_le _ _, fun p hstart hp hmem => ?_⟩
  · exact ⟨(h.bounds p hp).1, Nat.lt_trans (h.bounds p hp).2 hnext⟩
  · exact Nat.le_trans h.start_le (Nat.le_of_lt hnext)
  · exact Nat.add_lt_of_lt_sub hp

/-- The first positions that were read: what they pass over was overwritten. -/
theorem passed_take (h : Reads c start r reads) {positions rest : List ℕ}
    (hreads : reads = positions ++ rest) {p q : ℕ} (hp : start ≤ p) (hq : q ∈ positions)
    (hlt : p < q) (hmem : p ∉ positions) : p ∉ reads ∧ c.Overwritten p := by
  have hnot : p ∉ reads := by
    intro hread
    rw [hreads] at hread
    rcases List.mem_append.mp hread with hread | hread
    · exact hmem hread
    · -- `p` would have been read after `q`
      have hsorted := h.sorted
      rw [hreads] at hsorted
      exact Nat.lt_asymm hlt ((List.pairwise_append.mp hsorted).2.2 q hq p hread)
  have hqr : q ∈ reads := by
    rw [hreads]
    exact List.mem_append_left _ hq
  exact ⟨hnot, h.passed p hp (Nat.lt_trans hlt (h.bounds q hqr).2) hnot⟩

/-- **A receiver that has come to the end** has read all that the ring still has: from a
position on that is not overwritten, it has read everything. -/
theorem kept (h : Reads c start r reads) (hend : c.sent.length ≤ r.next) {m : ℕ}
    (hstart : start ≤ m) (hm : c.sent.length ≤ m + c.capacity) :
    reads.filter (m ≤ ·) = List.range' m (c.sent.length - m) := by
  have hsorted : (reads.filter (m ≤ ·)).Pairwise (· < ·) := h.sorted.filter _
  have hrange : (List.range' m (c.sent.length - m)).Pairwise (· < ·) :=
    List.pairwise_lt_range'
  have hmem : ∀ p, p ∈ reads.filter (m ≤ ·) ↔ p ∈ List.range' m (c.sent.length - m) := by
    intro p
    rw [List.mem_filter, List.mem_range'_1, decide_eq_true_eq]
    constructor
    · rintro ⟨hread, hp⟩
      have hlt := (h.bounds p hread).2
      have hle := h.next_le
      omega
    · rintro ⟨hp, hlt⟩
      refine ⟨?_, hp⟩
      by_contra hnot
      have hover : p + c.capacity < c.sent.length :=
        h.passed p (Nat.le_trans hstart hp) (by omega) hnot
      omega
  have hperm : (reads.filter (m ≤ ·)).Perm (List.range' m (c.sent.length - m)) :=
    (List.perm_ext_iff_of_nodup (hsorted.imp Nat.ne_of_lt) (hrange.imp Nat.ne_of_lt)).mpr hmem
  refine hperm.eq_of_pairwise (fun p q _ _ hpq hqp => ?_) hsorted hrange
  exact absurd hpq (Nat.lt_asymm hqp)

end Reads

/-- Every position from `start` up to the cursor was read. -/
def Contiguous (start : ℕ) (r : Receiver) (reads : List ℕ) : Prop :=
  reads = List.range' start (r.next - start)

theorem Contiguous.value {start : ℕ} {r : Receiver} {reads : List ℕ} (hle : start ≤ r.next)
    (h : Contiguous start r reads) : Contiguous start ⟨r.next + 1⟩ (reads ++ [r.next]) := by
  unfold Contiguous at h ⊢
  have hlength : r.next + 1 - start = (r.next - start) + 1 := Nat.succ_sub hle
  have hlast : start + 1 * (r.next - start) = r.next := by omega
  rw [hlength, List.range'_concat, ← h, hlast]

/-- Of a contiguous past, the first positions are contiguous. -/
theorem Contiguous.take {start : ℕ} {r : Receiver} {reads positions rest : List ℕ}
    (h : Contiguous start r reads) (hreads : reads = positions ++ rest) :
    positions = List.range' start positions.length := by
  obtain ⟨k, -, hpositions, -⟩ := List.range'_eq_append_iff.mp (h.symm.trans hreads)
  rw [hpositions, List.length_range']

/-! ## Values by position -/

/-- Of a sorted list, the elements from `m` on are at the end. -/
theorem filter_suffix {l : List ℕ} (h : l.Pairwise (· < ·)) (m : ℕ) :
    l.filter (m ≤ ·) <:+ l := by
  induction l with
  | nil => exact List.suffix_refl []
  | cons p l ih =>
    obtain ⟨hfirst, hsorted⟩ := List.pairwise_cons.mp h
    by_cases hp : m ≤ p
    · have hall : (p :: l).filter (m ≤ ·) = p :: l := by
        refine List.filter_eq_self.mpr fun q hq => decide_eq_true ?_
        rcases List.mem_cons.mp hq with rfl | hq
        · exact hp
        · exact Nat.le_of_lt (Nat.lt_of_le_of_lt hp (hfirst q hq))
      exact ⟨[], (List.nil_append _).trans hall⟩
    · rw [List.filter_cons_of_neg (by simpa using hp)]
      exact (ih hsorted).trans (List.suffix_cons p l)

/-- The values from a position on, by position. -/
theorem map_getElem?_range' (l : List α) (m : ℕ) :
    (List.range' m (l.length - m)).map (fun p => l[p]?) = (l.drop m).map some := by
  refine List.ext_getElem (by simp) fun i hi hi' => ?_
  rw [List.getElem_map, List.getElem_range', Nat.one_mul, List.getElem_map, List.getElem_drop]
  exact List.getElem?_eq_getElem _

/-- The values at increasing positions from `start` on are a sublist of what comes there. -/
theorem sublist_of_positions {positions : List ℕ} {start : ℕ} {l values : List α}
    (hsorted : positions.Pairwise (· < ·)) (hstart : ∀ p ∈ positions, start ≤ p)
    (hvalues : positions.map (fun p => l[p]?) = values.map some) :
    values.Sublist (l.drop start) := by
  induction positions generalizing start values with
  | nil =>
    rw [List.map_nil] at hvalues
    rw [List.map_eq_nil_iff.mp hvalues.symm]
    exact List.nil_sublist _
  | cons p positions ih =>
    cases values with
    | nil => cases hvalues
    | cons a values =>
      rw [List.map_cons, List.map_cons, List.cons_eq_cons] at hvalues
      obtain ⟨hget, hvalues⟩ := hvalues
      obtain ⟨hfirst, hsorted⟩ := List.pairwise_cons.mp hsorted
      have hrest : values.Sublist (l.drop (p + 1)) := ih hsorted hfirst hvalues
      obtain ⟨hlt, ha⟩ := List.getElem?_eq_some_iff.mp hget
      have hdrop : l.drop p = a :: l.drop (p + 1) := by
        rw [List.drop_eq_getElem_cons hlt, ha]
      have hp : (a :: values).Sublist (l.drop p) := by
        rw [hdrop]
        exact hrest.cons_cons a
      exact hp.trans (List.drop_sublist_drop_left l (hstart p List.mem_cons_self))

end Broadcast
end MevShare
