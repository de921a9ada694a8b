import MevShare.Sse.Departure

/-!
# Clients that keep reading catch up

When nothing more is broadcast, a connection has so many turns of its task before it, and
its client so many polls: two turns for every message that the receiver has before it, one
to read and one to send, and a poll for every message on its way.  A lag only shortens the
way, for what was overwritten is not read.

`catches_up`: in whatever order the tasks and the clients of all connections are scheduled,
after that many turns of the task, and then that many polls, the client has been given all
that the ring still had; and if the ring has never been too small for it, every value that
was sent since its request, in order and once.

Two things could stop a connection before its end: a task that has ended has read
everything, and a client whose stream has ended has no message left to read (`Attended`).
-/

namespace MevShare
namespace Sse

open Rpc Rust Machine Broadcast

variable {T : Type} {profile : BuildProfile} {toJson : T → Except JsonError Bytes}
  {fromSlice : Bytes → Except JsonError T}

namespace ServedConnection

variable {sender : Channel SSeBroadcastMessage} {c c' : ServedConnection T}

/-- The task ends when there is nothing more to read, and the stream of a client that
listens ends after that. -/
structure Attended (sender : Channel SSeBroadcastMessage) (c : ServedConnection T) : Prop where
  ended : c.task = .ended → sender.closed = true ∧ sender.sent.length ≤ c.st.st.next
  listens : c.connected = true → (∃ st, c.client.state = some (.active st)) ∨
    c.task = .ended ∧ c.body = []

/-- The turns that the task has to make. -/
def turnsLeft (sender : Channel SSeBroadcastMessage) (c : ServedConnection T) : ℕ :=
  2 * c.st.st.behind sender + c.task.inHand.length

/-- The messages that the client has before it. -/
def onTheWay (sender : Channel SSeBroadcastMessage) (c : ServedConnection T) : ℕ :=
  c.st.st.behind sender + c.task.inHand.length + c.body.length

/-! ## One turn of the task -/

/-- **A turn of the task**, in normal form. -/
inductive Forwarded (sender : Channel SSeBroadcastMessage) (c : ServedConnection T)
    (taken : Bool) : ServedConnection T → Prop
  | reads {data : SSeBroadcastMessage} {st : Receiver} (htask : c.task = .next)
      (hbehind : st.behind sender + 1 = c.st.st.behind sender) :
      Forwarded sender c taken
        { c with st := ⟨st⟩, task := .sending data, reads := c.reads ++ [c.st.st.next] }
  | lags {st : Receiver} (htask : c.task = .next)
      (hbehind : st.behind sender < c.st.st.behind sender) :
      Forwarded sender c taken { c with st := ⟨st⟩, lagged := true }
  | waits (htask : c.task = .next) (hend : sender.sent.length ≤ c.st.st.next) :
      Forwarded sender c taken c
  | ends (htask : c.task = .next) (hend : sender.sent.length ≤ c.st.st.next)
      (hclosed : sender.closed = true) : Forwarded sender c taken { c with task := .ended }
  | sends {data : SSeBroadcastMessage} (htask : c.task = .sending data)
      (hconnected : c.connected = true) (htaken : taken = true) :
      Forwarded sender c taken { c with task := .next, body := c.body ++ [data] }
  | blocked {data : SSeBroadcastMessage} (htask : c.task = .sending data)
      (htaken : taken = false) : Forwarded sender c taken c
  | loses {data : SSeBroadcastMessage} (htask : c.task = .sending data)
      (hconnected : c.connected = false) : Forwarded sender c taken { c with task := .next }
  | done (htask : c.task = .ended) : Forwarded sender c taken c

theorem forwarded (sender : Channel SSeBroadcastMessage) (c : ServedConnection T)
    (taken : Bool) : Forwarded sender c taken (c.forward sender taken) := by
  obtain ⟨st, task, connected, body, client, created, reads, lagged⟩ := c
  rcases task with _ | data | _
  · simp only [forward, SseBroadcastStream.turn]
    rcases hrecv : st.st.recv sender with ⟨next, out⟩
    rcases Receiver.recv_behind hrecv with ⟨data, rfl, hbehind⟩ | ⟨skipped, rfl, hbehind⟩ |
      ⟨rfl | rfl, rfl, hend⟩
    · exact Forwarded.reads rfl hbehind
    · exact Forwarded.lags rfl hbehind
    · exact Forwarded.ends rfl hend (Receiver.closed_of_recv (by rw [hrecv]))
    · exact Forwarded.waits rfl hend
  · simp only [forward]
    by_cases hconnected : connected = true
    · rw [if_pos hconnected]
      rcases taken with _ | _
      · exact Forwarded.blocked rfl rfl
      · exact Forwarded.sends rfl hconnected rfl
    · rw [if_neg hconnected]
      exact Forwarded.loses rfl (Bool.eq_false_iff.mpr hconnected)
  · exact Forwarded.done rfl

theorem Attended.active (h : c.Attended sender) (hconnected : c.connected = true)
    (htask : c.task ≠ .ended) : ∃ st, c.client.state = some (.active st) :=
  (h.listens hconnected).resolve_right fun hended => htask hended.1

theorem behind_eq_zero {r : Receiver} (hend : sender.sent.length ≤ r.next) :
    r.behind sender = 0 :=
  Nat.sub_eq_zero_of_le hend

theorem Forwarded.connected_eq {taken : Bool} (h : Forwarded sender c taken c') :
    c'.connected = c.connected := by
  cases h <;> rfl

/-- The task does not leave a client behind that still listens. -/
theorem Forwarded.attended {taken : Bool} (h : Forwarded sender c taken c')
    (hc : c.Attended sender) : c'.Attended sender := by
  have hlistens : c.task ≠ .ended → c.connected = true →
      (∃ st, c.client.state = some (.active st)) ∨ c'.task = .ended ∧ c'.body = [] :=
    fun htask hconnected => Or.inl (hc.active hconnected htask)
  cases h with
  | reads htask hbehind => exact ⟨nofun, hlistens (by simp [htask])⟩
  | lags htask hbehind =>
    refine ⟨fun hended => ?_, hlistens (by simp [htask])⟩
    rw [show c.task = .ended from hended] at htask
    cases htask
  | waits htask hend => exact hc
  | ends htask hend hclosed =>
    exact ⟨fun _ => ⟨hclosed, hend⟩, hlistens (by simp [htask])⟩
  | sends htask hconnected htaken => exact ⟨nofun, hlistens (by simp [htask])⟩
  | blocked htask htaken => exact hc
  | loses htask hconnected => exact ⟨nofun, hlistens (by simp [htask])⟩
  | done htask => exact hc

/-- A turn in which the encoder takes what it is handed is one turn less to make. -/
theorem Forwarded.turnsLeft_le {taken : Bool} (h : Forwarded sender c taken c')
    (hc : c.Attended sender) (hconnected : c.connected = true) :
    c'.turnsLeft sender ≤ c.turnsLeft sender - if taken then 1 else 0 := by
  have hone : (if taken then 1 else 0) ≤ 1 := by
    cases taken <;> decide
  cases h with
  | reads htask hbehind =>
    simp only [turnsLeft, htask, ForwardTask.inHand, List.length_singleton, List.length_nil]
    omega
  | lags htask hbehind =>
    simp only [turnsLeft, htask, ForwardTask.inHand, List.length_nil]
    omega
  | waits htask hend =>
    simp only [turnsLeft, htask, ForwardTask.inHand, List.length_nil, behind_eq_zero hend]
    omega
  | ends htask hend hclosed =>
    simp only [turnsLeft, htask, ForwardTask.inHand, List.length_nil, behind_eq_zero hend]
    omega
  | sends htask hconn htaken =>
    simp only [turnsLeft, htask, ForwardTask.inHand, List.length_singleton, List.length_nil]
    omega
  | blocked htask htaken =>
    rw [htaken, if_neg Bool.false_ne_true]
    exact Nat.le_refl _
  | loses htask hgone =>
    rw [hconnected] at hgone
    cases hgone
  | done htask =>
    simp only [turnsLeft, htask, ForwardTask.inHand, List.length_nil,
      behind_eq_zero (hc.ended htask).2]
    omega

/-- No turn of the task puts more messages on the way. -/
theorem Forwarded.onTheWay_le {taken : Bool} (h : Forwarded sender c taken c') :
    c'.onTheWay sender ≤ c.onTheWay sender := by
  cases h with
  | reads htask hbehind =>
    simp only [onTheWay, htask, ForwardTask.inHand, List.length_singleton, List.length_nil]
    omega
  | lags htask hbehind =>
    simp only [onTheWay, htask, ForwardTask.inHand, List.length_nil]
    omega
  | waits htask hend => exact Nat.le_refl _
  | ends htask hend hclosed =>
    simp only [onTheWay, htask, ForwardTask.inHand, List.length_nil]
    exact Nat.le_refl _
  | sends htask hconnected htaken =>
    simp only [onTheWay, htask, ForwardTask.inHand, List.length_singleton, List.length_nil,
      List.length_append]
    omega
  | blocked htask htaken => exact Nat.le_refl _
  | loses htask hgone =>
    simp only [onTheWay, htask, ForwardTask.inHand, List.length_singleton, List.length_nil]
    omega
  | done htask => exact Nat.le_refl _

/-! ## One poll of the client -/

/-- **A poll of a client that listens** takes the message that has arrived, if one has, and
leaves the rest to the next. -/
theorem Attended.poll (h : c.Attended sender) (hconnected : c.connected = true) {arrived : Bool}
    (hpoll : c.poll profile fromSlice arrived = .ok c') :
    ∃ client body, c' = { c with client := client, body := body } ∧ c'.Attended sender ∧
      body.length = c.body.length - if arrived then 1 else 0 := by
  unfold ServedConnection.poll at hpoll
  rcases hnext : (c.arrive arrived).client.pollNext profile fromSlice [⟨false, .pending⟩] with
    e | ⟨client, res⟩ <;> rw [hnext] at hpoll <;> cases hpoll
  have hturn := turn_of_pollNext hnext
  by_cases hactive : ∃ st, c.client.state = some (.active st)
  · obtain ⟨st, hstate⟩ := hactive
    -- the decoder says one thing, and the stream goes on after everything but the end
    have hgoes : ∀ {script : DecoderPoll} {body : List SSeBroadcastMessage}, script = .pending ∨
        (∃ data, script = .item (.ok (.message data))) →
        ({ c.client with state := some (.active { st with st := [script] }) } :
          EventStream T).turn profile fromSlice ⟨false, .pending⟩ = .ok (client, some res) →
        ({ c with client := client, body := body } : ServedConnection T).Attended sender := by
      intro script body hscript hturn
      refine ⟨h.ended, fun _ => Or.inl ?_⟩
      rcases EventStream.turn_active rfl hturn with ⟨hst, -⟩ | ⟨rest, -, -, rfl⟩ |
        ⟨rest, duration, hst, -⟩ | ⟨rest, res', item, -, -, -, rfl⟩
      · cases hst
      · exact ⟨_, rfl⟩
      · rcases hscript with rfl | ⟨data, rfl⟩ <;> cases hst
      · exact ⟨_, rfl⟩
    rcases arrived with _ | _
    · simp only [arrive, hstate] at hturn ⊢
      exact ⟨client, c.body, rfl, hgoes (Or.inl rfl) hturn, rfl⟩
    · rcases hbody : c.body with _ | ⟨data, body⟩
      · by_cases hended : c.task = .ended
        · simp only [arrive, hstate, hbody, if_pos hended] at hturn ⊢
          exact ⟨client, [], rfl, ⟨h.ended, fun _ => Or.inr ⟨hended, rfl⟩⟩, rfl⟩
        · simp only [arrive, hstate, hbody, if_neg hended] at hturn ⊢
          exact ⟨client, [], rfl, hgoes (Or.inl rfl) hturn, rfl⟩
      · simp only [arrive, hstate, hbody] at hturn ⊢
        exact ⟨client, body, rfl, hgoes (Or.inr ⟨data, rfl⟩) hturn, rfl⟩
  · obtain ⟨htask, hbody⟩ := (h.listens hconnected).resolve_left hactive
    rw [c.arrive_of_not_active arrived fun st hst => hactive ⟨st, hst⟩]
    refine ⟨client, c.body, rfl, ⟨h.ended, fun _ => Or.inr ⟨htask, hbody⟩⟩, ?_⟩
    rw [hbody, List.length_nil, Nat.zero_sub]

end ServedConnection

/-! ## The service -/

/-- The action is a turn of the task of the connection `k`, and the encoder takes what it
is handed. -/
def ServeAction.isTurn (k : ℕ) : ServeAction T → Bool
  | .forward j taken => decide (j = k) && taken
  | _ => false

/-- The action is a poll of the client of the connection `k`, and what is in the body of the
response has arrived. -/
def ServeAction.isPoll (k : ℕ) : ServeAction T → Bool
  | .poll j arrived => decide (j = k) && arrived
  | _ => false

/-- Nothing is broadcast, and the client of the connection `k` stays. -/
def ServeAction.Quiet (k : ℕ) : ServeAction T → Prop
  | .send _ => False
  | .disconnect j => j ≠ k
  | _ => True

namespace SseService

variable {s t u : SseService T} {a : ServeAction T} {k capacity : ℕ}

/-- No connection ends before its time. -/
structure Attending (capacity : ℕ) (s : SseService T) : Prop where
  capacity_eq : s.sender.capacity = capacity
  attended : ∀ c ∈ s.connections, c.Attended s.sender

theorem Attending.step (hs : s.Attending capacity)
    (hstep : serve profile toJson fromSlice s a = .ok t) : t.Attending capacity := by
  have hset : ∀ {j : ℕ} {c c' : ServedConnection T}, s.connections[j]? = some c →
      (c.Attended s.sender → c'.Attended s.sender) →
        ∀ d ∈ s.connections.set j c', d.Attended s.sender := by
    intro j c c' hj hc d hd
    rcases List.mem_or_eq_of_mem_set hd with hd | rfl
    · exact hs.attended d hd
    · exact hc (hs.attended c (List.mem_of_getElem? hj))
  have hopen : ∀ {msg : T}, a = .send msg → s.sender.closed = false := by
    rintro msg rfl
    by_contra hclosed
    rw [serve, if_pos (Bool.not_eq_false _ ▸ hclosed)] at hstep
    cases hstep
  cases serve_effect hstep with
  | broadcast hjson =>
    refine ⟨hs.capacity_eq, fun c hc => ⟨fun hended => ?_, (hs.attended c hc).listens⟩⟩
    have hclosed := ((hs.attended c hc).ended hended).1
    rw [hopen rfl] at hclosed
    cases hclosed
  | refused msg => exact hs
  | subscribe => exact ⟨hs.capacity_eq, hs.attended⟩
  | dropReceiver => exact ⟨hs.capacity_eq, hs.attended⟩
  | close =>
    refine ⟨hs.capacity_eq, fun c hc => ⟨fun hended => ⟨rfl, ?_⟩, (hs.attended c hc).listens⟩⟩
    exact ((hs.attended c hc).ended hended).2
  | call client endpoint query =>
    refine ⟨hs.capacity_eq, Search.forall_mem_concat hs.attended ⟨fun hended => ?_, fun _ => ?_⟩⟩
    · cases hended
    · exact Or.inl ⟨_, rfl⟩
  | forward taken hj =>
    exact ⟨hs.capacity_eq, hset hj fun hc => (ServedConnection.forwarded _ _ taken).attended hc⟩
  | poll hj hconnected hpoll =>
    refine ⟨hs.capacity_eq, hset hj fun hc => ?_⟩
    obtain ⟨client, body, -, hc', -⟩ := hc.poll hconnected hpoll
    exact hc'
  | disconnect hj =>
    refine ⟨hs.capacity_eq, hset hj fun hc => ⟨hc.ended, fun hconnected => ?_⟩⟩
    cases hconnected

theorem exec_attending {run : List (ServeAction T)}
    (h : exec (serve profile toJson fromSlice) (start capacity) run = .ok s) :
    s.Attending capacity :=
  exec_invariant (I := Attending capacity) (fun _ _ _ hs hstep => hs.step hstep)
    ⟨rfl, fun _ hc => absurd hc List.not_mem_nil⟩ h

/-- The turns that the task of the connection `k` has to make. -/
def turnsLeft (k : ℕ) (s : SseService T) : ℕ :=
  match s.connections[k]? with
  | some c => c.turnsLeft s.sender
  | none => 0

/-- The messages that the client of the connection `k` has before it. -/
def onTheWay (k : ℕ) (s : SseService T) : ℕ :=
  match s.connections[k]? with
  | some c => c.onTheWay s.sender
  | none => 0

/-- The client of the connection `k` is there, and nothing was sent but `sent`. -/
structure Listening (k capacity : ℕ) (sent : List SSeBroadcastMessage) (s : SseService T) :
    Prop where
  attending : s.Attending capacity
  sent_eq : s.sender.sent = sent
  client : ∃ c, s.connections[k]? = some c ∧ c.connected = true

theorem turnsLeft_eq {c : ServedConnection T} (hk : s.connections[k]? = some c) :
    s.turnsLeft k = c.turnsLeft s.sender := by
  rw [turnsLeft, hk]

theorem onTheWay_eq {c : ServedConnection T} (hk : s.connections[k]? = some c) :
    s.onTheWay k = c.onTheWay s.sender := by
  rw [onTheWay, hk]

/-- **What a step does for the connection `k`** while nothing is broadcast: no step adds to
its way, a turn of its task is one turn less, and once the task has nothing to do a poll
of its client is one message less. -/
theorem Listening.step {sent : List SSeBroadcastMessage} (hs : s.Listening k capacity sent)
    (ha : a.Quiet k) (hstep : serve profile toJson fromSlice s a = .ok t) :
    t.Listening k capacity sent ∧
      t.turnsLeft k ≤ s.turnsLeft k - (if a.isTurn k then 1 else 0) ∧
      t.onTheWay k ≤ s.onTheWay k ∧
      (s.turnsLeft k = 0 → t.onTheWay k ≤ s.onTheWay k - if a.isPoll k then 1 else 0) := by
  obtain ⟨c, hk, hconnected⟩ := hs.client
  have hatt : t.Attending capacity := hs.attending.step hstep
  have hlt : k < s.connections.length := (List.getElem?_eq_some_iff.mp hk).1
  have hc : c.Attended s.sender := hs.attending.attended c (List.mem_of_getElem? hk)
  -- the connection is not touched
  have hsame : t.sender.sent = s.sender.sent → t.connections[k]? = some c →
      a.isTurn k = false → a.isPoll k = false →
        t.Listening k capacity sent ∧
          t.turnsLeft k ≤ s.turnsLeft k - (if a.isTurn k then 1 else 0) ∧
          t.onTheWay k ≤ s.onTheWay k ∧
          (s.turnsLeft k = 0 → t.onTheWay k ≤ s.onTheWay k - if a.isPoll k then 1 else 0) := by
    intro hsent hk' hturn hpoll
    have hturns : t.turnsLeft k = s.turnsLeft k := by
      rw [turnsLeft_eq hk', turnsLeft_eq hk, ServedConnection.turnsLeft, Receiver.behind, hsent]
      rfl
    have hway : t.onTheWay k = s.onTheWay k := by
      rw [onTheWay_eq hk', onTheWay_eq hk, ServedConnection.onTheWay, Receiver.behind, hsent]
      rfl
    rw [hturns, hway, hturn, hpoll, if_neg Bool.false_ne_true]
    exact ⟨⟨hatt, hsent.trans hs.sent_eq, c, hk', hconnected⟩, Nat.le_refl _, Nat.le_refl _,
      fun _ => Nat.le_refl _⟩
  have helsewhere : ∀ {j : ℕ} (b : Bool), j ≠ k → (decide (j = k) && b) = false := by
    intro j b hj
    rw [decide_eq_false hj, Bool.false_and]
  cases serve_effect hstep with
  | broadcast hjson => exact ha.elim
  | refused msg => exact ha.elim
  | subscribe => exact hsame rfl hk rfl rfl
  | dropReceiver => exact hsame rfl hk rfl rfl
  | close => exact hsame rfl hk rfl rfl
  | call client endpoint query =>
    exact hsame rfl ((List.getElem?_append_left hlt).trans hk) rfl rfl
  | @forward j d taken hj =>
    by_cases hjk : j = k
    · subst hjk
      obtain rfl : d = c := Option.some.inj (hj.symm.trans hk)
      have hk' : (s.connections.set j (d.forward s.sender taken))[j]? =
          some (d.forward s.sender taken) := List.getElem?_set_self hlt
      have hforward := ServedConnection.forwarded s.sender d taken
      have hturn : ServeAction.isTurn j (.forward j taken : ServeAction T) = taken := by
        rw [ServeAction.isTurn, decide_eq_true rfl, Bool.true_and]
      rw [turnsLeft_eq hk', onTheWay_eq hk', turnsLeft_eq hk, onTheWay_eq hk, hturn]
      refine ⟨⟨hatt, hs.sent_eq, _, hk', ?_⟩, hforward.turnsLeft_le hc hconnected,
        hforward.onTheWay_le, fun _ => hforward.onTheWay_le⟩
      exact hforward.connected_eq.trans hconnected
    · exact hsame rfl ((List.getElem?_set_ne hjk).trans hk) (helsewhere taken hjk) rfl
  | @poll j d d' arrived hj hd hpoll =>
    by_cases hjk : j = k
    · subst hjk
      obtain rfl : d = c := Option.some.inj (hj.symm.trans hk)
      obtain ⟨client, body, rfl, -, hbody⟩ := hc.poll hconnected hpoll
      have hk' : (s.connections.set j { d with client := client, body := body })[j]? =
          some { d with client := client, body := body } := List.getElem?_set_self hlt
      have hispoll : ServeAction.isPoll j (.poll j arrived : ServeAction T) = arrived := by
        rw [ServeAction.isPoll, decide_eq_true rfl, Bool.true_and]
      rw [turnsLeft_eq hk', onTheWay_eq hk', turnsLeft_eq hk, onTheWay_eq hk, hispoll]
      refine ⟨⟨hatt, hs.sent_eq, _, hk', hconnected⟩, Nat.le_refl _, ?_, fun hzero => ?_⟩
      · simp only [ServedConnection.onTheWay, hbody]
        omega
      · -- nothing is before the task, so all that is on the way has arrived
        simp only [ServedConnection.turnsLeft] at hzero
        simp only [ServedConnection.onTheWay, hbody]
        omega
    · exact hsame rfl ((List.getElem?_set_ne hjk).trans hk) rfl (helsewhere arrived hjk)
  | @disconnect j d hj => exact hsame rfl ((List.getElem?_set_ne ha).trans hk) rfl rfl

/-- **Enough turns and then enough polls** leave nothing on the way. -/
theorem Listening.drained {sent : List SSeBroadcastMessage} (hs : s.Listening k capacity sent)
    {first second : List (ServeAction T)} (hquiet : ∀ a ∈ first ++ second, a.Quiet k)
    (hturns : s.turnsLeft k ≤ first.countP (ServeAction.isTurn k))
    (hpolls : s.onTheWay k ≤ second.countP (ServeAction.isPoll k))
    (hu : exec (serve profile toJson fromSlice) s (first ++ second) = .ok u) :
    u.Listening k capacity sent ∧ u.turnsLeft k = 0 ∧ u.onTheWay k = 0 := by
  obtain ⟨t, ht, hu⟩ := exec_append.mp hu
  have hreads : ∀ (v : SseService T) (a : ServeAction T) w,
      v.Listening k capacity sent ∧ v.onTheWay k ≤ s.onTheWay k → a.Quiet k →
        serve profile toJson fromSlice v a = .ok w →
          (w.Listening k capacity sent ∧ w.onTheWay k ≤ s.onTheWay k) ∧
            w.turnsLeft k ≤ v.turnsLeft k - if ServeAction.isTurn k a then 1 else 0 := by
    intro v a w hv ha hstep
    obtain ⟨hw, hturn, hway, -⟩ := hv.1.step ha hstep
    exact ⟨⟨hw, Nat.le_trans hway hv.2⟩, hturn⟩
  obtain ⟨⟨hlistening, hway⟩, hturn⟩ := exec_countdown hreads ⟨hs, Nat.le_refl _⟩
    (fun a ha => hquiet a (List.mem_append_left _ ha)) ht
  have hzero : t.turnsLeft k = 0 := by omega
  have hgives : ∀ (v : SseService T) (a : ServeAction T) w,
      v.Listening k capacity sent ∧ v.turnsLeft k = 0 → a.Quiet k →
        serve profile toJson fromSlice v a = .ok w →
          (w.Listening k capacity sent ∧ w.turnsLeft k = 0) ∧
            w.onTheWay k ≤ v.onTheWay k - if ServeAction.isPoll k a then 1 else 0 := by
    intro v a w hv ha hstep
    obtain ⟨hw, hturn, -, hway⟩ := hv.1.step ha hstep
    have hdone : w.turnsLeft k = 0 := by omega
    exact ⟨⟨hw, hdone⟩, hway hv.2⟩
  obtain ⟨⟨hlast, hlastTurn⟩, hpoll⟩ := exec_countdown hgives ⟨hlistening, hzero⟩
    (fun a ha => hquiet a (List.mem_append_right _ ha)) hu
  exact ⟨hlast, hlastTurn, by omega⟩

end SseService

/-! ## Catching up -/

/-- **What a client was given** are the values at the first positions that its receiver has
read; the others are on their way as long as the client is there. -/
theorem ServedConnection.Forwards.positions {sender : Channel SSeBroadcastMessage}
    {c : ServedConnection T} (h : c.Forwards fromSlice sender) {values : List T}
    (hvalues : ∀ (p : ℕ) (text : SSeBroadcastMessage), sender.sent[p]? = some text →
      ∃ v, values[p]? = some v ∧ (fromSlice text).toOption = some v) :
    ∃ positions waiting, c.reads = positions ++ waiting ∧ positions.Pairwise (· < ·) ∧
      (∀ p ∈ positions, c.created ≤ p ∧ p < sender.sent.length) ∧
      positions.map (fun p => values[p]?) = c.items.map some ∧
      (c.connected = true → waiting.length = (c.body ++ c.task.inHand).length) := by
  obtain ⟨got, rest, hread, hitems, hrest⟩ := h.account
  obtain ⟨positions, waiting, hreads, hgot, hwaiting⟩ :=
    List.map_eq_append_iff.mp (hread.trans List.map_append)
  have hsorted := h.reads.sorted
  rw [hreads] at hsorted
  refine ⟨positions, waiting, hreads, (List.pairwise_append.mp hsorted).1, fun p hp => ?_, ?_,
    fun hconnected => ?_⟩
  · obtain ⟨hle, hlt⟩ := h.reads.bounds p (hreads ▸ List.mem_append_left _ hp)
    exact ⟨hle, Nat.lt_of_lt_of_le hlt h.reads.next_le⟩
  · rw [hitems]
    exact values_of_texts hvalues hgot
  · have hlength := congrArg List.length hwaiting
    rw [List.length_map, List.length_map] at hlength
    rw [hlength, hrest hconnected]

/-- What a client was given once nothing is on its way: the values at all positions that its
receiver has read, and these are all that the ring has not overwritten. -/
theorem ServedConnection.Forwards.caughtUp {sender : Channel SSeBroadcastMessage}
    {c : ServedConnection T} (h : c.Forwards fromSlice sender) (hconnected : c.connected = true)
    (hway : c.onTheWay sender = 0) {values : List T}
    (hlength : values.length = sender.sent.length)
    (hvalues : ∀ (p : ℕ) (text : SSeBroadcastMessage), sender.sent[p]? = some text →
      ∃ v, values[p]? = some v ∧ (fromSlice text).toOption = some v) :
    values.drop (max c.created (values.length - sender.capacity)) <:+ c.items ∧
      (values.length ≤ c.created + sender.capacity → c.items = values.drop c.created) := by
  obtain ⟨positions, waiting, hreads, -, -, hmap, hwaiting⟩ := h.positions hvalues
  have hnone : (c.body ++ c.task.inHand).length = 0 ∧ sender.sent.length ≤ c.st.st.next := by
    simp only [onTheWay, Receiver.behind] at hway
    rw [List.length_append]
    omega
  have hall : c.reads.map (fun p => values[p]?) = c.items.map some := by
    rw [hreads, List.length_eq_zero_iff.mp ((hwaiting hconnected).trans hnone.1),
      List.append_nil, hmap]
  -- from `m` on, the positions that were read are all there are
  have hkept : ∀ m, c.created ≤ m → values.length ≤ m + sender.capacity →
      (c.reads.filter (m ≤ ·)).map (fun p => values[p]?) = (values.drop m).map some := by
    intro m hm hcap
    rw [h.reads.kept hnone.2 hm (hlength ▸ hcap), ← hlength]
    exact map_getElem?_range' values m
  constructor
  · have hsuffix := (filter_suffix h.reads.sorted
      (max c.created (values.length - sender.capacity))).map fun p => values[p]?
    rw [hall, hkept _ (Nat.le_max_left _ _) (by omega)] at hsuffix
    obtain ⟨front, hfront⟩ := hsuffix
    obtain ⟨given, last, hgiven, -, hlast⟩ := List.map_eq_append_iff.mp hfront.symm
    have hlast' : last = values.drop (max c.created (values.length - sender.capacity)) :=
      List.map_injective_iff.mpr (fun _ _ => Option.some.inj) hlast
    rw [hgiven, hlast']
    exact List.suffix_append _ _
  · intro hcap
    have hself : c.reads.filter (c.created ≤ ·) = c.reads :=
      List.filter_eq_self.mpr fun p hp => decide_eq_true (h.reads.bounds p hp).1
    have hmap := hkept c.created (Nat.le_refl _) hcap
    rw [hself, hall] at hmap
    exact List.map_injective_iff.mpr (fun _ _ => Option.some.inj) hmap

namespace SseService

/-- **A client that keeps reading catches up.**  From every reachable state, if nothing is
broadcast and the client of the connection `k` stays, then after as many turns of its task as
it has to make, and then as many polls as there are messages on the way, in whatever order
everything else happens, the client has been given the last values that were sent, as many
as the ring holds; and every value since its request, if the ring holds so many. -/
theorem catches_up (hround : ∀ msg text, toJson msg = .ok text → fromSlice text = .ok msg)
    {capacity : ℕ} {run first second : List (ServeAction T)} {s u : SseService T}
    (hs : exec (serve profile toJson fromSlice) (start capacity) run = .ok s) {k : ℕ}
    {c : ServedConnection T} (hk : s.connections[k]? = some c) (hconnected : c.connected = true)
    (hquiet : ∀ a ∈ first ++ second, a.Quiet k)
    (hturns : s.turnsLeft k ≤ first.countP (ServeAction.isTurn k))
    (hpolls : s.onTheWay k ≤ second.countP (ServeAction.isPoll k))
    (hu : exec (serve profile toJson fromSlice) s (first ++ second) = .ok u) :
    ∃ c', u.connections[k]? = some c' ∧
      u.values.drop (max c'.created (u.values.length - capacity)) <:+ c'.items ∧
      (u.values.length ≤ c'.created + capacity → c'.items = u.values.drop c'.created) := by
  have hlistening : s.Listening k capacity s.sender.sent :=
    ⟨exec_attending hs, rfl, c, hk, hconnected⟩
  obtain ⟨⟨hatt, -, c', hk', hconnected'⟩, -, hway⟩ :=
    hlistening.drained hquiet hturns hpolls hu
  rw [onTheWay_eq hk'] at hway
  obtain ⟨hrecorded, hforwards⟩ := exec_serves (exec_append.mpr ⟨s, hs, hu⟩)
  have hcaught := (hforwards c' (List.mem_of_getElem? hk')).caughtUp hconnected' hway
    hrecorded.length_eq fun _ _ => hrecorded.value hround
  rw [hatt.capacity_eq] at hcaught
  exact ⟨c', hk', hcaught⟩

/-- The second of two clients reads on while the first is stuck. -/
def busyRun : List (ServeAction Bool) :=
  [.call EventClient.new "/" none, .call EventClient.new "/" none, .send true, .send false]

theorem catches_up_busyRun :
    ∃ s u c', exec (serve ⟨true⟩ boolToJson boolFromSlice) (start 2) busyRun = .ok s ∧
      exec (serve ⟨true⟩ boolToJson boolFromSlice) s
        (List.replicate 4 (.forward 1 true) ++
          [.forward 0 false, .poll 1 true, .disconnect 0, .poll 1 true]) = .ok u ∧
      u.connections[1]? = some c' ∧
      u.values.drop (max c'.created (u.values.length - 2)) <:+ c'.items ∧
      (u.values.length ≤ c'.created + 2 → c'.items = u.values.drop c'.created) := by
  have hrun : ∃ s, exec (serve ⟨true⟩ boolToJson boolFromSlice) (start 2) busyRun = .ok s ∧
      s.turnsLeft 1 = 4 ∧ s.onTheWay 1 = 2 ∧ ∃ c, s.connections[1]? = some c ∧
        c.connected = true ∧ ∃ u, exec (serve ⟨true⟩ boolToJson boolFromSlice) s
          (List.replicate 4 (.forward 1 true) ++
            [.forward 0 false, .poll 1 true, .disconnect 0, .poll 1 true]) = .ok u :=
    ⟨_, rfl, rfl, rfl, _, rfl, rfl, _, rfl⟩
  obtain ⟨s, hs, hturns, hway, c, hk, hconnected, u, hu⟩ := hrun
  obtain ⟨c', hc'⟩ := catches_up boolFromSlice_boolToJson hs hk hconnected
    (by simp [ServeAction.Quiet])
    (by rw [hturns]; decide) (by rw [hway]; decide) hu
  exact ⟨s, u, c', hs, hu, hc'⟩

end SseService
end Sse
end MevShare
