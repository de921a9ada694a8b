import Mathlib.Data.List.Basic
import Mathlib.Data.List.Count
import Mathlib.Data.List.InsertIdx

/-!
# Sequential search and removal by index

Two operations of the Rust standard library on a vector, with a list for the
vector, and the facts about a predicate that few entries of a list satisfy.

* `position` is `Iterator::position` with a closure that may write to one
  captured flag; `position_cases` says which entry it stops at, for a closure
  that writes the flag only where it stops.
* `removeAt` is `Vec::remove`, with `none` for its panic on an index that is out
  of range; `removeAt_append` is the in-range case.
* `mem_of_mem_cut`: what is left when an entry is cut out was there before;
  `forall_mem_concat`: what is put at the end has to be checked once.
* `eq_of_countP_le_one`: two entries satisfying a predicate that at most one
  entry satisfies are the same entry.
* `findIdx_le_of_sublist`: deleting entries never moves the only entry that
  satisfies a predicate to the back.
* `exists_split`: the list around the entry with an index.
* `getElem?_concat_cases`, `getElem?_set_cases`: an entry is the new one or an old one.
-/

namespace MevShare
namespace Search

variable {α β : Type*}

/-- `Iterator::position`: the index of the first entry on which the closure
returns `true`, and the captured flag as the closure leaves it. -/
def position (f : α → Bool → Bool × Bool) : List α → Bool → Option ℕ × Bool
  | [], flag => (none, flag)
  | x :: xs, flag =>
      match f x flag with
      | (true, flag) => (some 0, flag)
      | (false, flag) => ((position f xs flag).1.map (· + 1), (position f xs flag).2)

/-- **The search stops at the first hit.**  The hypothesis is the shape of every
closure that sets its flag just before it returns `true`. -/
theorem position_cases {f : α → Bool → Bool × Bool} {flag : Bool}
    (hf : ∀ x, (f x flag).1 = false → (f x flag).2 = flag) (xs : List α) :
    ((∀ x ∈ xs, (f x flag).1 = false) ∧ position f xs flag = (none, flag)) ∨
      ∃ pre x post, xs = pre ++ x :: post ∧ (∀ y ∈ pre, (f y flag).1 = false) ∧
        (f x flag).1 = true ∧ position f xs flag = (some pre.length, (f x flag).2) := by
  induction xs with
  | nil => exact Or.inl ⟨by simp, rfl⟩
  | cons x xs ih =>
    rcases hx : f x flag with ⟨hit, flag'⟩
    cases hit with
    | true =>
      refine Or.inr ⟨[], x, xs, rfl, by simp, by rw [hx], ?_⟩
      rw [position, hx]
      rfl
    | false =>
      have hflag : flag' = flag := by
        have h := hf x (by rw [hx])
        rwa [hx] at h
      subst hflag
      rcases ih with ⟨hall, hpos⟩ | ⟨pre, y, post, rfl, hpre, hy, hpos⟩
      · refine Or.inl ⟨?_, ?_⟩
        · intro z hz
          rcases List.mem_cons.mp hz with rfl | hz
          · rw [hx]
          · exact hall z hz
        · rw [position, hx]
          simp only [hpos, Option.map_none]
      · refine Or.inr ⟨x :: pre, y, post, rfl, ?_, hy, ?_⟩
        · intro z hz
          rcases List.mem_cons.mp hz with rfl | hz
          · rw [hx]
          · exact hpre z hz
        · rw [position, hx]
          simp only [hpos, Option.map_some, List.length_cons]

theorem position_map (f : β → Bool → Bool × Bool) (g : α → β) (xs : List α) (flag : Bool) :
    position f (xs.map g) flag = position (fun x => f (g x)) xs flag := by
  induction xs generalizing flag with
  | nil => rfl
  | cons x xs ih =>
    rw [List.map_cons, position, position]
    rcases f (g x) flag with ⟨hit, flag'⟩
    cases hit with
    | true => rfl
    | false => simp only [ih]

/-- The search asks the closure about the entries only. -/
theorem position_congr {f g : α → Bool → Bool × Bool} {xs : List α} (h : ∀ x ∈ xs, f x = g x)
    (flag : Bool) : position f xs flag = position g xs flag := by
  induction xs generalizing flag with
  | nil => rfl
  | cons x xs ih =>
    rw [position, position, h x List.mem_cons_self]
    rcases g x flag with ⟨_ | _, flag'⟩
    · simp only [ih (fun y hy => h y (List.mem_cons_of_mem x hy))]
    · rfl

/-- `Vec::remove`: the entry at an index and the vector without it, or `none`
where the index is out of range and the call panics. -/
def removeAt (xs : List α) (i : ℕ) : Option (α × List α) :=
  match xs[i]? with
  | some x => some (x, xs.eraseIdx i)
  | none => none

theorem removeAt_append (pre post : List α) (x : α) :
    removeAt (pre ++ x :: post) pre.length = some (x, pre ++ post) := by
  have hget : (pre ++ x :: post)[pre.length]? = some x := by
    rw [List.getElem?_append_right (Nat.le_refl _), Nat.sub_self]
    rfl
  have herase : (pre ++ x :: post).eraseIdx pre.length = pre ++ post := by
    rw [List.eraseIdx_append_of_length_le (Nat.le_refl _), Nat.sub_self]
    rfl
  rw [removeAt, hget]
  simp only [herase]

theorem removeAt_sublist {xs rest : List α} {i : ℕ} {x : α} (h : removeAt xs i = some (x, rest)) :
    rest.Sublist xs := by
  unfold removeAt at h
  split at h
  · cases h
    exact List.eraseIdx_sublist ..
  · cases h

theorem removeAt_map (g : α → β) (xs : List α) (i : ℕ) :
    removeAt (xs.map g) i = (removeAt xs i).map fun p => (g p.1, p.2.map g) := by
  rw [removeAt, removeAt, List.getElem?_map]
  cases xs[i]? with
  | none => rfl
  | some x =>
    simp only [Option.map_some]
    rw [List.eraseIdx_map]

/-! ## Predicates that few entries satisfy -/

/-- Two entries satisfying a predicate that at most one entry satisfies are the
same entry. -/
theorem eq_of_countP_le_one {p : α → Bool} {l : List α} (h : l.countP p ≤ 1) {x y : α}
    (hx : x ∈ l) (hy : y ∈ l) (hpx : p x = true) (hpy : p y = true) : x = y := by
  have hlen : (l.filter p).length ≤ 1 := by rwa [← List.countP_eq_length_filter]
  have hx' : x ∈ l.filter p := List.mem_filter.mpr ⟨hx, hpx⟩
  have hy' : y ∈ l.filter p := List.mem_filter.mpr ⟨hy, hpy⟩
  rcases hl : l.filter p with _ | ⟨a, _ | ⟨b, l'⟩⟩
  · rw [hl] at hx'
    simp at hx'
  · rw [hl, List.mem_singleton] at hx' hy'
    rw [hx', hy']
  · rw [hl] at hlen
    simp at hlen

theorem mem_of_mem_cut {xs pre post : List α} {x y : α} (hxs : xs = pre ++ x :: post)
    (hy : y ∈ pre ++ post) : y ∈ xs := by
  rw [hxs]
  exact ((List.sublist_cons_self x post).append_left pre).subset hy

/-- What holds of the entries of a list and of one that is put at its end. -/
theorem forall_mem_concat {p : α → Prop} {l : List α} {a : α} (hl : ∀ x ∈ l, p x) (ha : p a) :
    ∀ x ∈ l ++ [a], p x :=
  List.forall_mem_append.mpr ⟨hl, List.forall_mem_singleton.mpr ha⟩

/-- An entry found is one that counts. -/
theorem countP_pos_of_mem {p : α → Bool} {l : List α} {x : α} (hx : x ∈ l) (hpx : p x = true) :
    0 < l.countP p :=
  List.countP_pos_iff.mpr ⟨x, hx, hpx⟩

/-- Deleting entries of a list never moves the only entry satisfying `p`, if it
stays, further from the front. -/
theorem findIdx_le_of_sublist {p : α → Bool} {l' l : List α} (hsub : l'.Sublist l)
    (hone : l.countP p ≤ 1) (hmem : ∃ x ∈ l', p x = true) : l'.findIdx p ≤ l.findIdx p := by
  induction hsub with
  | slnil => exact Nat.le_refl _
  | @cons l' l a hsub ih =>
    obtain ⟨x, hx, hpx⟩ := hmem
    have hpos : 0 < l.countP p := countP_pos_of_mem (hsub.subset hx) hpx
    rw [List.countP_cons] at hone
    have hpa : p a = false := by
      cases hpa : p a with
      | false => rfl
      | true =>
        rw [hpa, if_pos rfl] at hone
        omega
    have hle : l'.findIdx p ≤ l.findIdx p := ih (by omega) ⟨x, hx, hpx⟩
    rw [List.findIdx_cons, hpa]
    exact Nat.le_succ_of_le hle
  | @cons_cons l' l a hsub ih =>
    rw [List.findIdx_cons, List.findIdx_cons]
    cases hpa : p a with
    | true => exact Nat.le_refl _
    | false =>
      obtain ⟨x, hx, hpx⟩ := hmem
      have hx' : x ∈ l' := by
        rcases List.mem_cons.mp hx with rfl | hx
        · rw [hpa] at hpx
          exact absurd hpx (by decide)
        · exact hx
      rw [List.countP_cons] at hone
      exact Nat.succ_le_succ (ih (by omega) ⟨x, hx', hpx⟩)

/-- The list around the entry with an index, without the entry, and with another one in its
place. -/
theorem exists_split {l : List α} {k : ℕ} {a : α} (h : l[k]? = some a) :
    ∃ pre post, l = pre ++ a :: post ∧ l.eraseIdx k = pre ++ post ∧
      ∀ b, l.set k b = pre ++ b :: post := by
  obtain ⟨hk, rfl⟩ := List.getElem?_eq_some_iff.mp h
  refine ⟨l.take k, l.drop (k + 1), ?_, List.eraseIdx_eq_take_drop_succ .., fun b => ?_⟩
  · rw [← List.drop_eq_getElem_cons hk, List.take_append_drop]
  · rw [List.set_eq_take_append_cons_drop, if_pos hk]

theorem getElem?_concat_cases {l : List α} {a b : α} {i : ℕ} (h : (l ++ [a])[i]? = some b) :
    i = l.length ∧ b = a ∨ l[i]? = some b := by
  rcases Nat.lt_or_ge i l.length with hlt | hge
  · exact Or.inr ((List.getElem?_append_left hlt).symm.trans h)
  · have hlen := (List.getElem?_eq_some_iff.mp h).1
    rw [List.length_append, List.length_singleton] at hlen
    obtain rfl : i = l.length := by omega
    rw [List.getElem?_concat_length, Option.some.injEq] at h
    exact Or.inl ⟨rfl, h.symm⟩

theorem getElem?_set_cases {l : List α} {a b : α} {i k : ℕ} (h : (l.set k a)[i]? = some b) :
    i = k ∧ b = a ∨ i ≠ k ∧ l[i]? = some b := by
  by_cases hik : i = k
  · subst hik
    have hlen := (List.getElem?_eq_some_iff.mp h).1
    rw [List.length_set] at hlen
    rw [List.getElem?_set_self hlen, Option.some.injEq] at h
    exact Or.inl ⟨rfl, h.symm⟩
  · exact Or.inr ⟨hik, (List.getElem?_set_ne (Ne.symm hik)).symm.trans h⟩

end Search
end MevShare
