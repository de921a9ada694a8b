import MevShare.Library.Search
import MevShare.Sse.Forwarding

/-!
# Departed clients

A client that drops its response drops the encoder with it, and from then on every send of
the forwarding task fails.  The task is told so by the result of the send, and ignores it:
it goes back to its stream, and keeps its receiver for as long as there is a broadcaster
(`closed_of_ended`).

`StopsWhenGone` is what one would want of a run: a task whose send has failed has ended, and
after its client has gone it has read one more message at most.  The race between the
stream and the disconnect is all that can save the service: a run is like this exactly if no
task comes to send a message after its client has gone (`stopsWhenGone_iff`).
-/

namespace MevShare
namespace Sse

open Rpc Rust Machine Broadcast

variable {T : Type} {profile : BuildProfile} {toJson : T → Except JsonError Bytes}
  {fromSlice : Bytes → Except JsonError T}

/-- The step is a turn of the task of the connection `k`, and sends a message to an encoder
that was dropped: the send fails. -/
def SseService.SendFails (s : SseService T) (a : ServeAction T) (k : ℕ) : Prop :=
  ∃ taken c data, a = .forward k taken ∧ s.connections[k]? = some c ∧ c.connected = false ∧
    c.task = .sending data

/-- In the run `run` of a service with a channel for `capacity` messages, every forwarding
task stops when its client is gone. -/
structure StopsWhenGone (profile : BuildProfile) (toJson : T → Except JsonError Bytes)
    (fromSlice : Bytes → Except JsonError T) (capacity : ℕ) (run : List (ServeAction T)) :
    Prop where
  /-- Once the client is gone, one more message is read at most. -/
  reads : ∀ pre mid (s u : SseService T) (k : ℕ) c c', pre ++ mid <+: run →
    exec (serve profile toJson fromSlice) (SseService.start capacity) pre = .ok s →
    s.connections[k]? = some c → c.connected = false →
    exec (serve profile toJson fromSlice) s mid = .ok u → u.connections[k]? = some c' →
      c'.reads.length ≤ c.reads.length + 1
  /-- Once a send has failed, the task has ended, and its receiver is dropped. -/
  ends : ∀ pre a mid (s u : SseService T) (k : ℕ) c', pre ++ a :: mid <+: run →
    exec (serve profile toJson fromSlice) (SseService.start capacity) pre = .ok s →
    s.SendFails a k → exec (serve profile toJson fromSlice) s (a :: mid) = .ok u →
    u.connections[k]? = some c' → c'.task = .ended

/-! ## One step -/

/-- The connection of a client that has gone is touched by its forwarding task only. -/
theorem serve_departed {s t : SseService T} {a : ServeAction T} {k : ℕ} {c : ServedConnection T}
    (h : serve profile toJson fromSlice s a = .ok t) (hk : s.connections[k]? = some c)
    (hgone : c.connected = false) :
    t.connections[k]? = some c ∨
      ∃ taken, a = .forward k taken ∧ t.connections[k]? = some (c.forward s.sender taken) := by
  have hlt : k < s.connections.length := (List.getElem?_eq_some_iff.mp hk).1
  cases serve_effect h with
  | call client endpoint query => exact Or.inl ((List.getElem?_append_left hlt).trans hk)
  | @forward j d taken hj =>
    by_cases hjk : j = k
    · subst hjk
      obtain rfl : d = c := Option.some.inj (hj.symm.trans hk)
      exact Or.inr ⟨taken, rfl, List.getElem?_set_self hlt⟩
    · exact Or.inl ((List.getElem?_set_ne hjk).trans hk)
  | @poll j d d' arrived hj hconnected hpoll =>
    by_cases hjk : j = k
    · -- a client that has gone does not poll
      subst hjk
      obtain rfl : d = c := Option.some.inj (hj.symm.trans hk)
      rw [hgone] at hconnected
      cases hconnected
    · exact Or.inl ((List.getElem?_set_ne hjk).trans hk)
  | @disconnect j d hj =>
    by_cases hjk : j = k
    · subst hjk
      obtain rfl : d = c := Option.some.inj (hj.symm.trans hk)
      refine Or.inl ((List.getElem?_set_self hlt).trans ?_)
      rw [← hgone]
    · exact Or.inl ((List.getElem?_set_ne hjk).trans hk)
  | _ => exact Or.inl hk

/-- A send is attempted wherever it is the turn of a task with a message in its hand. -/
theorem serve_sendFails {s : SseService T} {a : ServeAction T} {k : ℕ} (h : s.SendFails a k) :
    ∃ u c', serve profile toJson fromSlice s a = .ok u ∧ u.connections[k]? = some c' ∧
      c'.task = .next := by
  obtain ⟨taken, c, data, rfl, hk, hgone, htask⟩ := h
  have hlt : k < s.connections.length := (List.getElem?_eq_some_iff.mp hk).1
  have hforward : (c.forward s.sender taken).task = .next := by
    simp only [ServedConnection.forward, htask, hgone]
    rfl
  refine ⟨{ s with connections := s.connections.set k (c.forward s.sender taken) },
    c.forward s.sender taken, ?_, List.getElem?_set_self hlt, hforward⟩
  rw [serve, hk]

namespace ServedConnection

/-- A task that reads has one message more, and then it has it in its hand. -/
theorem forward_next (sender : Channel SSeBroadcastMessage) {c : ServedConnection T}
    (htask : c.task = .next) (taken : Bool) :
    (c.forward sender taken).connected = c.connected ∧
      (c.forward sender taken).reads.length ≤ c.reads.length + 1 ∧
      ((c.forward sender taken).task = .next →
        (c.forward sender taken).reads.length = c.reads.length) := by
  simp only [forward, htask, SseBroadcastStream.turn]
  rcases hrecv : c.st.st.recv sender with ⟨st, out⟩
  rcases out with data | skipped | _ | _
  · refine ⟨rfl, ?_, fun hnext => ?_⟩
    · exact Nat.le_of_eq List.length_append
    · cases hnext
  · exact ⟨rfl, Nat.le_succ _, fun _ => rfl⟩
  · exact ⟨rfl, Nat.le_succ _, fun _ => rfl⟩
  · exact ⟨rfl, Nat.le_succ _, fun _ => rfl⟩

/-- Only the end of the channel ends the task. -/
theorem closed_of_forward {sender : Channel SSeBroadcastMessage} {c : ServedConnection T}
    {taken : Bool} (htask : c.task ≠ .ended) (h : (c.forward sender taken).task = .ended) :
    sender.closed = true := by
  rcases hc : c.task with _ | data | _
  · simp only [forward, hc, SseBroadcastStream.turn] at h
    rcases hrecv : c.st.st.recv sender with ⟨st, out⟩
    rw [hrecv] at h
    rcases out with data | skipped | _ | _
    · cases h
    · cases h
    · cases h
    · refine Receiver.closed_of_recv (r := c.st.st) ?_
      rw [hrecv]
  · simp only [forward, hc] at h
    split at h
    · split at h
      · cases h
      · rw [hc] at h
        cases h
    · cases h
  · exact absurd hc htask

theorem arrive_task (c : ServedConnection T) (arrived : Bool) :
    (c.arrive arrived).task = c.task := by
  unfold arrive
  split <;> rfl

theorem poll_task {c c' : ServedConnection T} {arrived : Bool}
    (h : c.poll profile fromSlice arrived = .ok c') : c'.task = c.task := by
  unfold poll at h
  split at h
  · cases h
  · cases h
    exact c.arrive_task arrived

end ServedConnection

/-! ## Runs -/

/-- **A task ends only with the broadcaster.**  Whatever its client does. -/
theorem closed_of_ended {capacity : ℕ} {run : List (ServeAction T)} {s : SseService T}
    (h : exec (serve profile toJson fromSlice) (SseService.start capacity) run = .ok s) :
    ∀ c ∈ s.connections, c.task = .ended → s.sender.closed = true := by
  refine exec_invariant (I := fun s : SseService T =>
    ∀ c ∈ s.connections, c.task = .ended → s.sender.closed = true) ?_ ?_ h
  · intro s a t hs hstep
    rcases serve_cases hstep with ⟨msg, text, -, hsender, -, hconns⟩ | ⟨hsender, -, hconns⟩
    · rw [hsender, hconns]
      exact hs
    · have hclosed : s.sender.closed = true → t.sender.closed = true := by
        intro hc
        rcases hsender with hsender | hsender
        · rw [hsender]
          exact hc
        · rw [hsender]
          rfl
      have hold : ∀ c ∈ s.connections, c.task = .ended → t.sender.closed = true :=
        fun c hc htask => hclosed (hs c hc htask)
      rcases hconns with hconns | ⟨client, endpoint, query, -, hconns⟩ |
        ⟨k, c, c', hsame, hk, hconns, hc'⟩
      · rw [hconns]
        exact hold
      · rw [hconns]
        exact Search.forall_mem_concat hold fun htask => by cases htask
      · rw [hconns]
        intro d hd htask
        have hmem : c ∈ s.connections := List.mem_of_getElem? hk
        rcases List.mem_or_eq_of_mem_set hd with hd | rfl
        · exact hold d hd htask
        · by_cases hended : c.task = .ended
          · exact hold c hmem hended
          · -- the step has ended the task, so it was a turn of the task
            rcases hc' with ⟨taken, rfl⟩ | ⟨arrived, -, hpoll⟩ | rfl
            · exact hclosed (ServedConnection.closed_of_forward hended htask)
            · exact absurd ((ServedConnection.poll_task hpoll).symm.trans htask) hended
            · exact absurd htask hended
  · exact fun c hc => absurd hc List.not_mem_nil

/-- The client of the connection `k` has gone, and since it had read `n` messages it has
read one more at most, which is in the hand of the task. -/
def SseService.Departing (k n : ℕ) (s : SseService T) : Prop :=
  ∃ c, s.connections[k]? = some c ∧ c.connected = false ∧ c.reads.length ≤ n + 1 ∧
    (c.task = .next → c.reads.length ≤ n)

theorem SseService.Departing.step {s t : SseService T} {a : ServeAction T} {k n : ℕ}
    (h : s.Departing k n) (hfails : ¬ s.SendFails a k)
    (hstep : serve profile toJson fromSlice s a = .ok t) : t.Departing k n := by
  obtain ⟨c, hk, hgone, hreads, hnext⟩ := h
  rcases serve_departed hstep hk hgone with hsame | ⟨taken, rfl, hforward⟩
  · exact ⟨c, hsame, hgone, hreads, hnext⟩
  · rcases htask : c.task with _ | data | _
    · obtain ⟨hconnected, hle, hsame⟩ := c.forward_next s.sender htask taken
      have hn := hnext htask
      refine ⟨_, hforward, hconnected.trans hgone, by omega, fun htask' => ?_⟩
      have hlen := hsame htask'
      omega
    · exact absurd ⟨taken, c, data, rfl, hk, hgone, htask⟩ hfails
    · have hended : c.forward s.sender taken = c := by rw [ServedConnection.forward, htask]
      rw [hended] at hforward
      exact ⟨c, hforward, hgone, hreads, hnext⟩

/-- **When the tasks stop.**  In a run every forwarding task stops when its client is
gone, exactly if none of them comes to send a message after that. -/
theorem stopsWhenGone_iff (capacity : ℕ) (run : List (ServeAction T)) :
    StopsWhenGone profile toJson fromSlice capacity run ↔
      StepsMeet (serve profile toJson fromSlice) (SseService.start capacity) run
        fun s a => ∀ k, ¬ s.SendFails a k := by
  constructor
  · intro h pre a s hpre hs k hfails
    obtain ⟨u, c', hu, hk, htask⟩ : ∃ u c', serve profile toJson fromSlice s a = .ok u ∧
        u.connections[k]? = some c' ∧ c'.task = .next := serve_sendFails hfails
    have hended := h.ends pre a [] s u k c' hpre hs hfails (exec_cons.mpr ⟨u, hu, rfl⟩) hk
    rw [htask] at hended
    cases hended
  · intro h
    refine ⟨fun pre mid s u k c c' hpre hs hk hgone hu hk' => ?_,
      fun pre a mid s u k c' hpre hs hfails => ?_⟩
    · have hmeet : StepsMeet (serve profile toJson fromSlice) s mid
          fun s a => ∀ k, ¬ s.SendFails a k :=
        stepsMeet_drop (fun pre' a t hpre' ht => h pre' a t (hpre'.trans hpre) ht) hs
      have hdeparting : s.Departing k c.reads.length :=
        ⟨c, hk, hgone, Nat.le_succ _, fun _ => Nat.le_refl _⟩
      have halong := along_of_stepsMeet (I := SseService.Departing k c.reads.length)
        (fun s a t hs hfails hstep => hs.step (hfails k) hstep) hdeparting hmeet
      obtain ⟨d, hd, -, hreads, -⟩ := halong mid u (List.prefix_refl mid) hu
      rw [hk'] at hd
      cases hd
      exact hreads
    · have hpre' : pre ++ [a] <+: run :=
        ((List.prefix_append_right_inj pre).mpr ⟨mid, rfl⟩).trans hpre
      exact absurd hfails (h pre a s hpre' hs k)

/-- The client goes while the first of three messages is in the hand of the task. -/
def departedRun : List (ServeAction Bool) :=
  [.call EventClient.new "/" none, .send true, .send false, .send true, .forward 0 true,
    .disconnect 0, .forward 0 true, .forward 0 true, .forward 0 true, .forward 0 true]

/-- Two sends fail, and the task reads the next message after each. -/
theorem departedRun_goesOn :
    (∃ s c, exec (serve ⟨true⟩ boolToJson boolFromSlice) (SseService.start 4) departedRun = .ok s ∧
      s.connections[0]? = some c ∧ c.connected = false ∧ c.reads = [0, 1, 2]) ∧
      ¬ StopsWhenGone ⟨true⟩ boolToJson boolFromSlice 4 departedRun := by
  refine ⟨⟨_, _, rfl, rfl, rfl, rfl⟩, fun h => ?_⟩
  have hended := h.ends
    [.call EventClient.new "/" none, .send true, .send false, .send true, .forward 0 true,
      .disconnect 0]
    (.forward 0 true) [] _ _ 0 _ ⟨[.forward 0 true, .forward 0 true, .forward 0 true], rfl⟩ rfl
    ⟨true, _, _, rfl, rfl, rfl, rfl⟩ rfl rfl
  cases hended

end Sse
end MevShare
