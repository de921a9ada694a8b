import MevShare.Sse.Departure

/-!
# Connections do not interfere

All connections of a service hang on one channel, and each has a receiver, a task and a
client of its own.  A task that is never scheduled, an encoder that takes nothing and a
client that has gone fill up nothing that the others need: the ring overwrites what is not
read in time.

`connections_isolated` says so of whole runs.  From the run all that happens at the other
connections is left out, and the connection ends in the same state, with the same messages
given to its client.  The requests themselves are not left out: they create receivers, and a
message is broadcast only if there is one.

That is also the only way in which connections could see each other: `SseBroadcaster::send`
looks at the number of receivers.  As long as a message can be sent no task has ended
(`closed_of_ended`), so the number does not depend on what the tasks have done.
-/

namespace MevShare
namespace Sse

open Rpc Rust Machine Broadcast

variable {T : Type} {profile : BuildProfile} {toJson : T → Except JsonError Bytes}
  {fromSlice : Bytes → Except JsonError T} {s s' t : SseService T} {a : ServeAction T} {k : ℕ}

/-- The action is one of the task or the client of another connection than `k`. -/
def ServeAction.elsewhere (k : ℕ) : ServeAction T → Bool
  | .forward j _ => decide (j ≠ k)
  | .poll j _ => decide (j ≠ k)
  | .disconnect j => decide (j ≠ k)
  | _ => false

namespace SseService

/-- The two services agree in everything but connections other than `k`, and have equally
many of these. -/
structure Agrees (k : ℕ) (s t : SseService T) : Prop where
  sender : t.sender = s.sender
  receivers : t.receivers = s.receivers
  values : t.values = s.values
  length : t.connections.length = s.connections.length
  same : t.connections[k]? = s.connections[k]?

theorem Agrees.refl (k : ℕ) (s : SseService T) : s.Agrees k s := ⟨rfl, rfl, rfl, rfl, rfl⟩

/-- While no task has ended, every connection has its receiver. -/
theorem receiverCount_of_running (h : ∀ c ∈ s.connections, c.task ≠ .ended) :
    s.receiverCount = s.receivers + s.connections.length := by
  rw [receiverCount, List.countP_eq_length.mpr fun c hc => decide_eq_true (h c hc)]

/-- The connection `k` after a change of it. -/
theorem Agrees.set (h : s.Agrees k t) (c : ServedConnection T) :
    ({ s with connections := s.connections.set k c } : SseService T).Agrees k
      { t with connections := t.connections.set k c } := by
  refine ⟨h.sender, h.receivers, h.values, ?_, ?_⟩
  · rw [List.length_set, List.length_set, h.length]
  · rw [List.getElem?_set_self', List.getElem?_set_self', h.same]

/-- A new connection has the same number in both. -/
theorem Agrees.concat (h : s.Agrees k t) (c : ServedConnection T) :
    ({ s with connections := s.connections ++ [c] } : SseService T).Agrees k
      { t with connections := t.connections ++ [c] } := by
  refine ⟨h.sender, h.receivers, h.values, ?_, ?_⟩
  · rw [List.length_append, List.length_append, h.length]
  · show (t.connections ++ [c])[k]? = (s.connections ++ [c])[k]?
    rw [List.getElem?_append, List.getElem?_append, h.length, h.same]

/-- **What happens at another connection** is not seen. -/
theorem Agrees.skip (h : s.Agrees k t) (ha : a.elsewhere k = true)
    (hstep : serve profile toJson fromSlice s a = .ok s') : s'.Agrees k t := by
  have hset : ∀ {j : ℕ} (c : ServedConnection T), j ≠ k →
      ({ s with connections := s.connections.set j c } : SseService T).Agrees k t := by
    intro j c hj
    refine ⟨h.sender, h.receivers, h.values, ?_, ?_⟩
    · rw [List.length_set, h.length]
    · rw [List.getElem?_set_ne hj, h.same]
  cases serve_effect hstep with
  | forward taken hj => exact hset _ (of_decide_eq_true ha)
  | poll hj hconnected hpoll => exact hset _ (of_decide_eq_true ha)
  | disconnect hj => exact hset _ (of_decide_eq_true ha)
  | _ => cases ha

/-- **What happens elsewhere than at other connections** happens in both. -/
theorem Agrees.step (h : s.Agrees k t)
    (hcount : s.sender.closed = false → t.receiverCount = s.receiverCount)
    (ha : a.elsewhere k = false) (hstep : serve profile toJson fromSlice s a = .ok s') :
    ∃ t', serve profile toJson fromSlice t a = .ok t' ∧ s'.Agrees k t' := by
  obtain ⟨sender, receivers, connections, values⟩ := t
  obtain rfl : sender = s.sender := h.sender
  obtain rfl : receivers = s.receivers := h.receivers
  obtain rfl : values = s.values := h.values
  have hsame : connections[k]? = s.connections[k]? := h.same
  rcases a with msg | _ | _ | _ | ⟨client, endpoint, query⟩ | ⟨j, taken⟩ | ⟨j, arrived⟩ | j
  · rcases hclosed : s.sender.closed with _ | _
    · simp only [serve, hclosed, if_neg Bool.false_ne_true] at hstep ⊢
      rw [hcount hclosed]
      rcases hsend : SseBroadcaster.send toJson s.sender s.receiverCount msg with
        ⟨sender, e | n⟩ <;>
        simp only [hsend] at hstep ⊢ <;> cases hstep
      · exact ⟨_, rfl, rfl, rfl, rfl, h.length, h.same⟩
      · exact ⟨_, rfl, rfl, rfl, rfl, h.length, h.same⟩
    · rw [serve, if_pos hclosed] at hstep
      cases hstep
  · rw [serve] at hstep ⊢
    split at hstep
    · cases hstep
    · cases hstep
      exact ⟨_, if_neg ‹_›, rfl, rfl, rfl, h.length, h.same⟩
  · rw [serve] at hstep ⊢
    split at hstep
    · cases hstep
    · cases hstep
      exact ⟨_, if_neg ‹_›, rfl, rfl, rfl, h.length, h.same⟩
  · cases hstep
    exact ⟨_, rfl, rfl, rfl, rfl, h.length, h.same⟩
  · rw [serve] at hstep ⊢
    split at hstep
    · cases hstep
    · cases hstep
      exact ⟨_, if_neg ‹_›, h.concat _⟩
  · obtain rfl : j = k := of_not_not (of_decide_eq_false ha)
    rcases hj : s.connections[j]? with _ | c <;> simp only [serve, hj] at hstep <;> cases hstep
    refine ⟨_, ?_, h.set (c.forward s.sender taken)⟩
    simp only [serve, hsame, hj]
  · obtain rfl : j = k := of_not_not (of_decide_eq_false ha)
    rcases hj : s.connections[j]? with _ | c <;> simp only [serve, hj] at hstep
    · cases hstep
    · by_cases hconnected : c.connected = true
      · rw [if_pos hconnected] at hstep
        rcases hpoll : c.poll profile fromSlice arrived with e | c' <;> rw [hpoll] at hstep <;>
          cases hstep
        refine ⟨_, ?_, h.set c'⟩
        simp only [serve, hsame, hj, if_pos hconnected, hpoll]
      · rw [if_neg hconnected] at hstep
        cases hstep
  · obtain rfl : j = k := of_not_not (of_decide_eq_false ha)
    rcases hj : s.connections[j]? with _ | c <;> simp only [serve, hj] at hstep <;> cases hstep
    refine ⟨_, ?_, h.set { c with connected := false }⟩
    simp only [serve, hsame, hj]

/-- **Connections do not interfere.**  Whatever the tasks and the clients of other
connections do, and whether they do anything at all, a connection is left in the same state:
every run agrees, in the connection `k`, the channel and the values that were sent, with
the run from which all that is left out. -/
theorem connections_isolated {capacity : ℕ} {run : List (ServeAction T)}
    (h : exec (serve profile toJson fromSlice) (start capacity) run = .ok s) (k : ℕ) :
    ∃ t, exec (serve profile toJson fromSlice) (start capacity)
      (run.filter fun a => !a.elsewhere k) = .ok t ∧ s.Agrees k t := by
  refine exec_purge (R := Agrees k) (Agrees.refl k _) ?_ ?_ h
  · intro as s t a s' hs ht hagrees ha hstep
    refine hagrees.step (fun hopen => ?_) (Bool.not_eq_true' _ ▸ ha) hstep
    have hrunning : ∀ {bs : List (ServeAction T)} {u : SseService T}, u.sender.closed = false →
        exec (serve profile toJson fromSlice) (start capacity) bs = .ok u →
          ∀ c ∈ u.connections, c.task ≠ .ended := by
      intro bs u hu hexec c hc hended
      exact absurd (closed_of_ended hexec c hc hended) (Bool.eq_false_iff.mp hu)
    rw [receiverCount_of_running (hrunning hopen hs),
      receiverCount_of_running (hrunning (hagrees.sender ▸ hopen) ht), hagrees.receivers,
      hagrees.length]
  · intro s t a s' hagrees ha hstep
    exact hagrees.skip (Bool.not_eq_false' _ ▸ ha) hstep

/-- Two clients, the first of which never polls and goes in the end. -/
def idleNeighbour : List (ServeAction Bool) :=
  [.call EventClient.new "/" none, .call EventClient.new "/" none, .send true, .forward 0 true,
    .forward 1 true, .forward 0 false, .forward 1 true, .disconnect 0, .poll 1 true]

theorem connections_isolated_idleNeighbour :
    ∃ s t, exec (serve ⟨true⟩ boolToJson boolFromSlice) (start 1) idleNeighbour = .ok s ∧
      exec (serve ⟨true⟩ boolToJson boolFromSlice) (start 1)
        (idleNeighbour.filter fun a => !a.elsewhere 1) = .ok t ∧ s.Agrees 1 t := by
  have hrun : ∃ s, exec (serve ⟨true⟩ boolToJson boolFromSlice) (start 1) idleNeighbour = .ok s :=
    ⟨_, rfl⟩
  obtain ⟨s, hs⟩ := hrun
  obtain ⟨t, ht, hagrees⟩ := connections_isolated hs 1
  exact ⟨s, t, hs, ht, hagrees⟩

end SseService
end Sse
end MevShare
