import MevShare.Library.Rust
import Mathlib.Data.List.Count

/-!
# Services that are called when they are ready

A service of the `tower` kind has two functions.  `poll_ready` is called until it says that
the service is ready, and then `call` may be called, once.  A clone of a service is another
instance, which is not ready because the service is.  A service may panic where it is called
without being ready.

`Pool` has the instances of such a service.  It is the strictest there is: `Pool.call`
always panics where the instance is not ready, and a call uses the readiness up.  Whatever
does not panic with it keeps the contract with every service.
-/

namespace MevShare
namespace Tower

open Rust

variable {Q : Type}

/-! ## Counting entries by their number -/

theorem count_insert (f : Q → ℕ) (pre post : List Q) (a : Q) (id : ℕ) :
    ((pre ++ a :: post).map f).count id =
      ((pre ++ post).map f).count id + if id = f a then 1 else 0 := by
  rw [List.map_append, List.map_append, List.map_cons, List.count_append, List.count_append,
    List.count_cons]
  by_cases h : f a = id
  · rw [h, beq_self_eq_true, if_pos rfl, if_pos rfl]
    omega
  · rw [beq_false_of_ne h, if_neg Bool.false_ne_true, if_neg fun h' => h h'.symm]
    rfl

theorem count_concat (f : Q → ℕ) (l : List Q) (a : Q) (id : ℕ) :
    ((l ++ [a]).map f).count id = (l.map f).count id + if id = f a then 1 else 0 := by
  rw [count_insert, List.append_nil]

/-! ## The instances -/

/-- The instances of a service, by number, and what they have been called with. -/
structure Pool (Q : Type) where
  /-- The number of the next instance. -/
  next : ℕ
  ready : List ℕ
  calls : List (ℕ × Q)

namespace Pool

def empty : Pool Q := ⟨0, [], []⟩

/-- One more instance, new or cloned; its number is `next`. -/
def create (p : Pool Q) : Pool Q := { p with next := p.next + 1 }

/-- `poll_ready`, where it says that the instance is ready or that it is not. -/
def pollReady (p : Pool Q) (id : ℕ) (isReady : Bool) : Pool Q :=
  if isReady then { p with ready := id :: p.ready } else p

def call (p : Pool Q) (id : ℕ) (q : Q) : Except Halt (Pool Q) :=
  if id ∈ p.ready then
    .ok { p with ready := p.ready.filter (· ≠ id), calls := p.calls ++ [(id, q)] }
  else
    .error (.panicked "poll_ready must be called first")

/-- Calls of one instance, one after the other. -/
def callAll (p : Pool Q) (id : ℕ) : List Q → Except Halt (Pool Q)
  | [] => .ok p
  | q :: qs =>
      match p.call id q with
      | .error e => .error e
      | .ok p => p.callAll id qs

/-- How often an instance has been called. -/
def callCount (p : Pool Q) (id : ℕ) : ℕ := (p.calls.map Prod.fst).count id

theorem mem_ready_pollReady {p : Pool Q} {id id' : ℕ} {isReady : Bool} (h : id ∈ p.ready) :
    id ∈ (p.pollReady id' isReady).ready := by
  rcases isReady with _ | _
  · exact h
  · exact List.mem_cons_of_mem id' h

/-- What a call of a ready instance does. -/
theorem call_of_ready {p : Pool Q} {id : ℕ} (h : id ∈ p.ready) (q : Q) :
    p.call id q =
      .ok { p with ready := p.ready.filter (· ≠ id), calls := p.calls ++ [(id, q)] } :=
  if_pos h

/-- **At most one call** of a ready instance is no breach of the contract, and it leaves
the other instances ready. -/
theorem callAll_of_ready {p : Pool Q} {id : ℕ} (h : id ∈ p.ready) {qs : List Q}
    (hqs : qs.length ≤ 1) :
    ∃ p', p.callAll id qs = .ok p' ∧ p'.next = p.next ∧
      p'.calls = p.calls ++ qs.map (Prod.mk id) ∧
      (∀ id', p'.callCount id' ≤ p.callCount id' + if id' = id then 1 else 0) ∧
      ∀ id' ∈ p.ready, id' ≠ id → id' ∈ p'.ready := by
  rcases qs with _ | ⟨q, _ | ⟨q', qs⟩⟩
  · exact ⟨p, rfl, rfl, (List.append_nil _).symm, fun _ => Nat.le_add_right _ _,
      fun id' hid' _ => hid'⟩
  · refine ⟨{ p with ready := p.ready.filter (· ≠ id), calls := p.calls ++ [(id, q)] }, ?_, rfl,
      rfl, fun id' => Nat.le_of_eq (count_concat Prod.fst p.calls (id, q) id'),
      fun id' hid' hne => List.mem_filter.mpr ⟨hid', decide_eq_true hne⟩⟩
    rw [callAll, call_of_ready h]
    rfl
  · rw [List.length_cons, List.length_cons] at hqs
    omega

end Pool
end Tower
end MevShare
