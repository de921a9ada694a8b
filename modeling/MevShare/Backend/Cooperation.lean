import MevShare.Backend.Calls

/-!
# The budget of a call

An executor may limit what a task does in one call of `poll`, so that other tasks get their
turn; `tokio` does.  The task has a budget, which is restored before every call, and each
message that it receives takes one unit of it.  So does whatever else the task has in hand
that counts its units, the future of a simulation, say.  When nothing is left, `poll_recv`
wakes the task and returns `Pending`, messages or not, and `poll` goes on as if the channel
was empty.

`BudgetedHub` is the service and its callers (`CallHub`) on an executor of this kind, with
the units that the call has used.  Without a budget it is `CallHub` itself.

A call drains the channel before it does anything else, or uses up its budget.
`poll_answers` is the result: when it returns, every submission that was made before it
began has been answered; or the budget is used up, the task is to be polled again, and the
messages that came first have been received, as many as the units that were left for them.
-/

namespace MevShare
namespace Backend

open Rpc Rust Machine

variable {B : Type}

/-- The executor calls `poll`. -/
def TaskAction.begins : TaskAction B → Bool
  | .poll => true
  | _ => false

def TaskAction.receives : TaskAction B → Bool
  | .recv => true
  | _ => false

def CallAction.begins : CallAction B → Bool
  | .task a => a.begins
  | _ => false

def CallAction.receives : CallAction B → Bool
  | .task a => a.receives
  | _ => false

/-- `poll_recv` returns `Pending` because nothing is left of the budget. -/
def Task.yield (t : Task B) : Task B := { t with phase := .simulations, woken := true }

/-- The service and its callers, in a task with a budget. -/
structure BudgetedHub (B : Type) where
  hub : CallHub B
  /-- The messages that were received in the last call of `poll`. -/
  received : ℕ
  /-- The units that went elsewhere in this call. -/
  spent : ℕ

inductive BudgetAction (B : Type) where
  | call (a : CallAction B)
  /-- `from_handle.poll_recv(cx)`, with nothing left of the budget. -/
  | yield
  /-- Something else in the task uses a unit. -/
  | spend

def BudgetAction.begins : BudgetAction B → Bool
  | .call a => a.begins
  | _ => false

namespace BudgetedHub

def new (currentBlockNumber : U64) (config : BundleSimulatorServiceConfig) : BudgetedHub B :=
  ⟨CallHub.new currentBlockNumber config, 0, 0⟩

/-- What is in the channel. -/
def messages (h : BudgetedHub B) : List (BundleSimulatorMessage B) :=
  h.hub.task.fromHandle.messages

/-- Nothing is left of the budget, if there is one. -/
def exhausted (budget : Option ℕ) (h : BudgetedHub B) : Bool :=
  match budget with
  | none => false
  | some limit => decide (limit ≤ h.received + h.spent)

/-- A call begins with a full budget, and a message takes one unit of it. -/
def account (h : BudgetedHub B) (a : CallAction B) (hub : CallHub B) : BudgetedHub B :=
  if a.begins then ⟨hub, 0, 0⟩
  else if a.receives && !h.messages.isEmpty then { h with hub := hub, received := h.received + 1 }
  else { h with hub := hub }

def step [Bundle B] (profile : BuildProfile) (budget : Option ℕ) (h : BudgetedHub B) :
    BudgetAction B → Except Halt (BudgetedHub B)
  | .call a =>
      if a.receives && h.exhausted budget then .error .disabled
      else
        match h.hub.step profile a with
        | .error e => .error e
        | .ok hub => .ok (h.account a hub)
  | .yield =>
      if h.hub.alive ∧ h.hub.task.phase = .messages ∧ h.exhausted budget then
        .ok { h with hub := { h.hub with task := h.hub.task.yield } }
      else .error .disabled
  | .spend =>
      if h.exhausted budget then .error .disabled else .ok { h with spent := h.spent + 1 }

end BudgetedHub

/-! ## What a step leaves of the messages -/

/-- One more is taken from the front. -/
theorem take_front {α : Type} {l rest later : List α} {x : α} {n : ℕ}
    (h : x :: rest = l.drop n ++ later) :
    (∃ later', rest = l.drop (n + 1) ++ later') ∧ ∀ y ∈ l.take (n + 1), y ∈ l.take n ∨ y = x := by
  rcases hdrop : l.drop n with _ | ⟨z, l'⟩
  · have hlength : l.length ≤ n := List.drop_eq_nil_iff.mp hdrop
    refine ⟨⟨rest, ?_⟩, fun y hy => Or.inl ?_⟩
    · rw [List.drop_eq_nil_iff.mpr (Nat.le_succ_of_le hlength), List.nil_append]
    · rwa [List.take_of_length_le hlength, ← List.take_of_length_le (Nat.le_succ_of_le hlength)]
  · rw [hdrop, List.cons_append] at h
    obtain ⟨rfl, rfl⟩ := List.cons.inj h
    have hget : l[n]? = some x := by
      rw [← List.head?_drop, hdrop]
      rfl
    refine ⟨⟨later, ?_⟩, fun y hy => ?_⟩
    · rw [List.drop_add_one_eq_tail_drop, hdrop]
      rfl
    · rw [List.take_add_one, hget] at hy
      exact (List.mem_append.mp hy).imp_right List.mem_singleton.mp

section Steps

variable [Bundle B] {profile : BuildProfile}

/-- What all steps of a task have in common, except for those that begin a call or receive:
answers are kept, messages are added behind those that are there, and a task that is woken
stays woken. -/
structure Task.Keeps (t u : Task B) : Prop where
  answers : t.service.world.answers <+: u.service.world.answers
  messages : ∃ later, u.fromHandle.messages = t.fromHandle.messages ++ later
  phase : u.phase ≠ .messages → t.phase ≠ .messages
  woken : t.woken = true → u.woken = true

theorem Task.Attended.keeps {t u : Task B} {a : TaskAction B} (h : t.Attended profile)
    (hstep : Task.step profile t a = .ok u) (hbegins : a.begins = false)
    (hreceives : a.receives = false) : t.Keeps u := by
  have hanswers := h.answers_step hstep
  cases Task.step_effect hstep with
  | sendClosed msg hopen => exact ⟨hanswers, ⟨[], (List.append_nil _).symm⟩, id, id⟩
  | send msg hopen =>
    exact ⟨hanswers, ⟨[msg], rfl⟩, id, fun hwoken => by rw [hwoken, Bool.true_or]⟩
  | wake id hid =>
    exact ⟨hanswers, ⟨[], (List.append_nil _).symm⟩, fun hphase => hphase,
      fun hwoken => by rw [hwoken, Bool.true_or]⟩
  | poll hphase => cases hbegins
  | recv hphase hmessages | drained hphase hmessages => cases hreceives
  | noneReady hphase hready | returns hphase hpop hserv =>
    exact ⟨hanswers, ⟨[], (List.append_nil _).symm⟩,
      fun _ => by rw [hphase]; decide, id⟩
  | starts hphase hsims hserv =>
    exact ⟨hanswers, ⟨[], (List.append_nil _).symm⟩, fun hne => absurd rfl hne, id⟩
  | _ => exact ⟨hanswers, ⟨[], (List.append_nil _).symm⟩, fun hphase => hphase, fun h => h⟩

theorem Task.recv_cases {t u : Task B} (hstep : Task.step profile t .recv = .ok u) :
    (∃ msg rest, t.fromHandle.messages = msg :: rest ∧ u.fromHandle.messages = rest ∧
      u.service = t.service.onMessage msg ∧ u.phase = .messages) ∨
      t.fromHandle.messages = [] ∧ u.fromHandle.messages = [] := by
  cases Task.step_effect hstep with
  | recv hphase hmessages => exact Or.inl ⟨_, _, hmessages, rfl, rfl, hphase⟩
  | drained hphase hmessages => exact Or.inr ⟨hmessages, hmessages⟩

/-- A task that yields is woken, so nothing is missed. -/
theorem Task.Attended.yield {t : Task B} (h : t.Attended profile) : t.yield.Attended profile :=
  have hphase : ¬ (Phase.simulations = .schedule ∨ Phase.simulations = .idle) := by decide
  { h with
    channel := fun _ => Or.inr rfl
    futures := fun hp => absurd hp hphase
    polled := fun hp => absurd hp hphase }

/-- A submission that is received is answered. -/
theorem BundleSimulatorService.answers_onMessage {s : BundleSimulatorService B}
    {msg : BundleSimulatorMessage B} {tx : ℕ} (htx : msg.oneshot? = some tx) :
    ∃ ans ∈ (s.onMessage msg).world.answers, ans.tx = tx := by
  have hstep : Backend.step ⟨true⟩ s (.message msg) = .ok (s.onMessage msg) := rfl
  rcases msg with _ | num | ⟨r, tx'⟩ | tx' <;> cases htx
  have hmem : (r, tx) ∈ (s.onMessage (.addSimulation r tx)).answeredSubmissions := by
    rw [BundleSimulatorService.step_answeredSubmissions hstep]
    exact List.mem_append_right _ (List.mem_singleton_self _)
  obtain ⟨ans, hans, heq⟩ := List.mem_map.mp hmem
  exact ⟨ans, hans, congrArg Prod.snd heq⟩

end Steps

namespace CallHub

section Steps

variable [Bundle B] {profile : BuildProfile} {h h' : CallHub B}

/-- The answer to a call has been given. -/
def Answered (h : CallHub B) (k : ℕ) : Prop :=
  ∃ ans ∈ h.task.service.world.answers, ans.tx = k

omit [Bundle B] in
/-- The caller finds it. -/
theorem Answered.pollRx {k : ℕ} (hk : h.Answered k) :
    ∃ ans ∈ h.task.service.world.answers, ans.tx = k ∧ h.pollRx k = some ans.result := by
  obtain ⟨ans, hans, htx⟩ := hk
  rcases answered_cases h.task.service k with ⟨ans', hans', htx', heq⟩ | ⟨hnone, -⟩
  · refine ⟨ans', hans', htx', ?_⟩
    rw [CallHub.pollRx, heq]
  · exact absurd htx (hnone ans hans)

omit [Bundle B] in
theorem Answered.mono {k : ℕ} (hk : h.Answered k)
    (hanswers : h.task.service.world.answers <+: h'.task.service.world.answers) :
    h'.Answered k := by
  obtain ⟨ans, hans, htx⟩ := hk
  exact ⟨ans, hanswers.subset hans, htx⟩

/-- The same of the steps of service and callers; the messages go where the service goes. -/
structure Keeps (h h' : CallHub B) : Prop where
  answers : h.task.service.world.answers <+: h'.task.service.world.answers
  messages : h'.alive = true → h.alive = true ∧
    ∃ later, h'.task.fromHandle.messages = h.task.fromHandle.messages ++ later
  phase : h'.task.phase ≠ .messages → h.task.phase ≠ .messages
  woken : h.task.woken = true → h'.task.woken = true
  calls : h.calls.length ≤ h'.calls.length

omit [Bundle B] in
/-- Steps that leave the task as it is. -/
theorem Keeps.of_calls {calls : List (HandleCall B)} (hcalls : h.calls.length ≤ calls.length) :
    h.Keeps { h with calls := calls } :=
  ⟨List.prefix_refl _, fun halive => ⟨halive, [], (List.append_nil _).symm⟩, id, id, hcalls⟩

omit [Bundle B] in
theorem Keeps.of_task {task : Task B} {calls : List (HandleCall B)} (halive : h.alive = true)
    (htask : h.task.Keeps task) (hcalls : h.calls.length ≤ calls.length) :
    h.Keeps ⟨task, calls⟩ :=
  ⟨htask.answers, fun _ => ⟨halive, htask.messages⟩, htask.phase, htask.woken, hcalls⟩

theorem Served.keeps (hs : h.Served profile) {a : CallAction B}
    (hstep : CallHub.step profile h a = .ok h') (hbegins : a.begins = false)
    (hreceives : a.receives = false) : h.Keeps h' := by
  cases step_effect hstep with
  | runs halive ha htask =>
    exact .of_task halive ((hs.alive halive).2.keeps htask hbegins hreceives) (Nat.le_refl _)
  | tells hmsg htask =>
    by_cases halive : h.alive = true
    · exact .of_task halive ((hs.alive halive).2.keeps htask rfl rfl) (Nat.le_refl _)
    · rw [send_of_dead (Bool.eq_false_iff.mpr halive) htask]
      exact .of_calls (Nat.le_refl _)
  | submits halive hstate htask =>
    refine .of_task halive ((hs.alive halive).2.keeps htask rfl rfl) ?_
    rw [List.length_append]
    exact Nat.le_add_right _ _
  | fails hdead hstate =>
    refine .of_calls ?_
    rw [List.length_append]
    exact Nat.le_add_right _ _
  | pending k => exact .of_calls (Nat.le_refl _)
  | returns hc hstate hresult => exact .of_calls (Nat.le_of_eq (List.length_set).symm)
  | cancels hc => exact .of_calls (Nat.le_of_eq (List.length_set).symm)
  | dropService =>
    exact ⟨List.prefix_refl _, fun halive => (by cases halive), id, id, Nat.le_refl _⟩

/-- A task that yields leaves the callers served. -/
theorem Served.yield (hs : h.Served profile) :
    ({ h with task := h.task.yield } : CallHub B).Served profile where
  order := hs.order
  alive halive := ⟨(hs.alive halive).1, (hs.alive halive).2.yield⟩
  dead := hs.dead
  awaits := hs.awaits
  returned k c result hc hres :=
    (hs.returned k c result hc hres).mono (List.prefix_refl _) fun hdead => ⟨hdead, rfl⟩

/-- With an empty channel, every call has been answered. -/
theorem Served.answered_of_empty (hs : h.Served profile) (halive : h.alive = true)
    (hempty : h.task.fromHandle.messages = []) {k : ℕ} (hk : k < h.calls.length) :
    h.Answered k := by
  have hc : h.calls[k]? = some h.calls[k] := List.getElem?_eq_getElem hk
  rcases answered_or_waiting (hs.alive halive).1 hc with hans | hwait
  · exact hans
  · rw [waiting, hempty] at hwait
    cases hwait

end Steps

end CallHub

/-! ## A call of `poll` -/

namespace BudgetedHub

variable [Bundle B] {profile : BuildProfile} {budget : Option ℕ} {h₀ h h' : BudgetedHub B}
  {n : U64} {cfg : BundleSimulatorServiceConfig}

/-- **What a step can do.** -/
theorem step_cases {a : BudgetAction B} (hstep : step profile budget h a = .ok h') :
    (∃ a' hub, a = .call a' ∧ (a'.receives = true → h.exhausted budget = false) ∧
      h.hub.step profile a' = .ok hub ∧ h' = h.account a' hub) ∨
      (a = .yield ∧ h.exhausted budget = true ∧
        h' = { h with hub := { h.hub with task := h.hub.task.yield } }) ∨
      a = .spend ∧ h.exhausted budget = false ∧ h' = { h with spent := h.spent + 1 } := by
  rcases a with a | _ | _ <;> rw [step] at hstep
  · by_cases hcond : (a.receives && h.exhausted budget) = true
    · rw [if_pos hcond] at hstep
      cases hstep
    · rw [if_neg hcond] at hstep
      rcases hhub : h.hub.step profile a with e | hub <;> rw [hhub] at hstep <;> cases hstep
      refine Or.inl ⟨a, hub, rfl, fun hreceives => ?_, hhub, rfl⟩
      exact Bool.eq_false_iff.mpr fun hout => hcond (Bool.and_eq_true_iff.mpr ⟨hreceives, hout⟩)
  · by_cases hcond : h.hub.alive = true ∧ h.hub.task.phase = .messages ∧ h.exhausted budget = true
    · rw [if_pos hcond] at hstep
      cases hstep
      exact Or.inr (Or.inl ⟨rfl, hcond.2.2, rfl⟩)
    · rw [if_neg hcond] at hstep
      cases hstep
  · by_cases hout : h.exhausted budget = true
    · rw [if_pos hout] at hstep
      cases hstep
    · rw [if_neg hout] at hstep
      cases hstep
      exact Or.inr (Or.inr ⟨rfl, Bool.eq_false_iff.mpr hout, rfl⟩)

omit [Bundle B] in
theorem account_hub (a : CallAction B) (hub : CallHub B) : (h.account a hub).hub = hub := by
  unfold account
  split
  · rfl
  · split <;> rfl

/-- The callers are served, whatever the budget is. -/
theorem step_served (hs : h.hub.Served profile) {a : BudgetAction B}
    (hstep : step profile budget h a = .ok h') : h'.hub.Served profile := by
  rcases step_cases hstep with ⟨a', hub, -, -, hhub, rfl⟩ | ⟨-, -, rfl⟩ | ⟨-, -, rfl⟩
  · rw [account_hub]
    exact hs.step hhub
  · exact hs.yield
  · exact hs

/-- Since a call of `poll` has begun in `h₀`: the messages that were there are received from
the first one on, a unit each, and the submissions among them are answered.  Beyond the
draining of the channel, all calls that were made before have been answered, or nothing is
left of the budget and the task is woken. -/
structure Answering [Bundle B] (profile : BuildProfile) (budget : Option ℕ)
    (h₀ h : BudgetedHub B) : Prop where
  served : h.hub.Served profile
  calls : h₀.hub.calls.length ≤ h.hub.calls.length
  within : ∀ limit, budget = some limit → h.received + h.spent ≤ limit
  rest : h.hub.alive = true → ∃ later, h.messages = h₀.messages.drop h.received ++ later
  taken : ∀ msg ∈ h₀.messages.take h.received, ∀ k, msg.oneshot? = some k → h.hub.Answered k
  drained : h.hub.task.phase ≠ .messages → (∀ k < h₀.hub.calls.length, h.hub.Answered k) ∨
    h.exhausted budget = true ∧ h.hub.task.woken = true

/-- A step that does not receive, and uses nothing. -/
theorem Answering.keeps (hj : Answering profile budget h₀ h) {hub : CallHub B}
    (hs : hub.Served profile) (hkeeps : h.hub.Keeps hub) :
    Answering profile budget h₀ { h with hub := hub } where
  served := hs
  calls := Nat.le_trans hj.calls hkeeps.calls
  within := hj.within
  rest halive := by
    obtain ⟨halive', later, hlater⟩ := hkeeps.messages halive
    obtain ⟨later', hlater'⟩ := hj.rest halive'
    refine ⟨later' ++ later, ?_⟩
    rw [← List.append_assoc, ← hlater']
    exact hlater
  taken msg hmsg k hk := (hj.taken msg hmsg k hk).mono hkeeps.answers
  drained hphase := (hj.drained (hkeeps.phase hphase)).imp
    (fun hall k hk => (hall k hk).mono hkeeps.answers)
    (fun hout => ⟨hout.1, hkeeps.woken hout.2⟩)

/-- **A message is received**, or the channel is empty. -/
theorem Answering.recv (hj : Answering profile budget h₀ h) {hub : CallHub B}
    (hfree : h.exhausted budget = false) (hstep : h.hub.step profile (.task .recv) = .ok hub) :
    Answering profile budget h₀ (h.account (.task .recv) hub) := by
  have hs := hj.served.step hstep
  obtain ⟨halive, -, task, htask, rfl⟩ := CallHub.step_task hstep
  have hatt := (hj.served.alive halive).2
  have hanswers := hatt.answers_step htask
  have halive' : task.fromHandle.isOpen = true := (hatt.step htask).isOpen
  obtain ⟨later, hlater⟩ := hj.rest halive
  rcases Task.recv_cases htask with ⟨msg, rest, hmessages, hrest, hservice, hphase⟩ |
    ⟨hmessages, hempty⟩
  · have haccount : h.account (.task .recv) { h.hub with task := task } =
        ⟨{ h.hub with task := task }, h.received + 1, h.spent⟩ := by
      simp [account, CallAction.begins, TaskAction.begins, CallAction.receives,
        TaskAction.receives, messages, hmessages]
    rw [messages, hmessages] at hlater
    obtain ⟨⟨later', hlater'⟩, htake⟩ := take_front hlater
    rw [haccount]
    refine ⟨hs, hj.calls, fun limit hlimit => ?_, fun _ => ⟨later', hrest.trans hlater'⟩,
      fun msg' hmsg' k hk => ?_, fun hne => absurd hphase hne⟩
    · simp only [exhausted, hlimit, decide_eq_false_iff_not] at hfree
      simp only
      omega
    · rcases htake msg' hmsg' with hold | rfl
      · exact (hj.taken msg' hold k hk).mono hanswers
      · obtain ⟨ans, hans, htx⟩ := BundleSimulatorService.answers_onMessage
          (s := h.hub.task.service) hk
        refine ⟨ans, ?_, htx⟩
        rw [← hservice] at hans
        exact hans
  · have haccount : h.account (.task .recv) { h.hub with task := task } =
        { h with hub := { h.hub with task := task } } := by
      simp [account, CallAction.begins, TaskAction.begins, CallAction.receives,
        TaskAction.receives, messages, hmessages]
    rw [haccount]
    refine ⟨hs, hj.calls, hj.within, fun _ => ⟨later, ?_⟩,
      fun msg' hmsg' k hk => (hj.taken msg' hmsg' k hk).mono hanswers, fun _ => Or.inl ?_⟩
    · rw [messages, hmessages] at hlater
      exact hempty.trans hlater
    · -- all that was sent has been received
      exact fun k hk => hs.answered_of_empty halive' hempty (Nat.lt_of_lt_of_le hk hj.calls)

theorem Answering.call (hj : Answering profile budget h₀ h) {a : CallAction B} {hub : CallHub B}
    (hbegins : a.begins = false) (hfree : a.receives = true → h.exhausted budget = false)
    (hstep : h.hub.step profile a = .ok hub) :
    Answering profile budget h₀ (h.account a hub) := by
  by_cases hreceives : a.receives = true
  · have hrecv : a = .task .recv := by
      rcases a with (_ | _ | _ | _ | _ | _ | _ | _) | _ | _ | _ | _ | _ | _ | _ <;>
        first | rfl | cases hreceives
    subst hrecv
    exact hj.recv (hfree rfl) hstep
  · have hreceives' := Bool.eq_false_iff.mpr hreceives
    have haccount : h.account a hub = { h with hub := hub } := by
      simp [account, hbegins, hreceives']
    rw [haccount]
    exact hj.keeps (hj.served.step hstep) (hj.served.keeps hstep hbegins hreceives')

theorem Answering.step (hj : Answering profile budget h₀ h) {a : BudgetAction B}
    (ha : a.begins = false) (hstep : BudgetedHub.step profile budget h a = .ok h') :
    Answering profile budget h₀ h' := by
  rcases step_cases hstep with ⟨a', hub, rfl, hfree, hhub, rfl⟩ | ⟨-, hout, rfl⟩ |
    ⟨-, hfree, rfl⟩
  · exact hj.call ha hfree hhub
  · exact ⟨hj.served.yield, hj.calls, hj.within, hj.rest, hj.taken, fun _ => Or.inr ⟨hout, rfl⟩⟩
  · refine ⟨hj.served, hj.calls, fun limit hlimit => ?_, hj.rest, hj.taken, fun hphase => ?_⟩
    · simp only [exhausted, hlimit, decide_eq_false_iff_not] at hfree
      simp only
      omega
    · refine (hj.drained hphase).imp_right fun hout => ?_
      rw [hfree] at hout
      exact absurd hout.1 Bool.false_ne_true

/-- **One call of `poll` answers everyone, or does what it may.**  When it returns, every
submission that was made before it began has been answered, and a caller that awaits the
answer finds it; or the budget is used up, the task is woken, and this holds of the
submissions among the messages that were received, the first that were there. -/
theorem poll_answers {before during : List (BudgetAction B)} {now : Instant}
    (hbefore : exec (BudgetedHub.step profile budget) (new n cfg) before = .ok h₀)
    (hcall : exec (BudgetedHub.step profile budget) h₀
      (.call (.task .poll) :: during ++ [.call (.task (.schedule now))]) = .ok h)
    (hduring : ∀ a ∈ during, a.begins = false) (hreturns : h.hub.task.phase = .idle) :
    (∀ k < h₀.hub.calls.length, ∃ ans ∈ h.hub.task.service.world.answers,
      ans.tx = k ∧ h.hub.pollRx k = some ans.result) ∨
    budget = some (h.received + h.spent) ∧ h.hub.task.woken = true ∧
      ∀ msg ∈ h₀.messages.take h.received, ∀ k, msg.oneshot? = some k →
        ∃ ans ∈ h.hub.task.service.world.answers,
          ans.tx = k ∧ h.hub.pollRx k = some ans.result := by
  have hserved : h₀.hub.Served profile :=
    exec_invariant (I := fun h => h.hub.Served profile) (fun _ _ _ hs hstep => step_served hs hstep)
      CallHub.served_new hbefore
  obtain ⟨h₁, hpoll, hrest⟩ := exec_cons.mp hcall
  have hstart : Answering profile budget h₀ h₁ := by
    rcases step_cases hpoll with ⟨a', hub, ha', -, hhub, rfl⟩ | ⟨ha, -⟩ | ⟨ha, -⟩
    · cases ha'
      obtain ⟨-, -, task, htask, rfl⟩ := CallHub.step_task hhub
      cases Task.step_effect htask with
      | poll hidle =>
        exact ⟨hserved.step hhub, Nat.le_refl _, fun _ _ => Nat.zero_le _,
          fun _ => ⟨[], (List.append_nil _).symm⟩, fun _ hmsg => absurd hmsg List.not_mem_nil,
          fun hphase => absurd rfl hphase⟩
    · cases ha
    · cases ha
  have hquiet : ∀ a ∈ during ++ [.call (.task (.schedule now))], a.begins = false :=
    Search.forall_mem_concat hduring rfl
  have hlast : Answering profile budget h₀ h :=
    exec_invariant_of_forall (fun _ _ _ hj ha hstep => hj.step ha hstep) hstart hquiet hrest
  have hne : h.hub.task.phase ≠ .messages := by
    rw [hreturns]
    decide
  rcases hlast.drained hne with hall | ⟨hout, hwoken⟩
  · exact Or.inl fun k hk => (hall k hk).pollRx
  · refine Or.inr ⟨?_, hwoken, fun msg hmsg k hk => (hlast.taken msg hmsg k hk).pollRx⟩
    rcases hbudget : budget with _ | limit
    · simp only [exhausted, hbudget] at hout
      cases hout
    · have hle := hlast.within limit hbudget
      simp only [exhausted, hbudget, decide_eq_true_eq] at hout
      rw [Nat.le_antisymm hout hle]

/-- With one unit, the task receives one of two submissions and starts it.  It yields once
more, and finds that the simulation is not ready. -/
def oneUnitCall : List (BudgetAction SendBundleRequest) :=
  [.call (.task .recv), .yield, .call (.task .pollNextPending), .call (.task (.schedule 0)),
    .yield, .call (.task (.pollNext 0 none)), .call (.task .pollNextPending)]

theorem poll_answers_oneUnit :
    ∃ h₀ h, exec (BudgetedHub.step ⟨true⟩ (some 1)) (new 7 BundleSimulatorService.tightConfig)
        (CallHub.twoCalls.map .call) = .ok h₀ ∧
      exec (BudgetedHub.step ⟨true⟩ (some 1)) h₀
        (.call (.task .poll) :: oneUnitCall ++ [.call (.task (.schedule 1))]) = .ok h ∧
      ((∀ k < h₀.hub.calls.length, ∃ ans ∈ h.hub.task.service.world.answers,
        ans.tx = k ∧ h.hub.pollRx k = some ans.result) ∨
      some 1 = some (h.received + h.spent) ∧ h.hub.task.woken = true ∧
        ∀ msg ∈ h₀.messages.take h.received, ∀ k, msg.oneshot? = some k →
          ∃ ans ∈ h.hub.task.service.world.answers,
            ans.tx = k ∧ h.hub.pollRx k = some ans.result) := by
  obtain ⟨h₀, hbefore⟩ : ∃ h₀, exec (BudgetedHub.step ⟨true⟩ (some 1))
      (new 7 BundleSimulatorService.tightConfig) (CallHub.twoCalls.map .call) = .ok h₀ := ⟨_, rfl⟩
  obtain ⟨h, hrun, hidle⟩ : ∃ h, exec (BudgetedHub.step ⟨true⟩ (some 1))
      (new 7 BundleSimulatorService.tightConfig) (CallHub.twoCalls.map .call ++
        (.call (.task .poll) :: oneUnitCall ++ [.call (.task (.schedule 1))])) = .ok h ∧
      h.hub.task.phase = .idle := ⟨_, rfl, rfl⟩
  obtain ⟨h₀', hbefore', hcall⟩ := exec_append.mp hrun
  rw [hbefore] at hbefore'
  cases hbefore'
  have hduring : ∀ a ∈ oneUnitCall, a.begins = false := by
    simp only [oneUnitCall, List.forall_mem_cons]
    exact ⟨rfl, rfl, rfl, rfl, rfl, rfl, rfl, fun _ ha => absurd ha List.not_mem_nil⟩
  exact ⟨h₀, h, hbefore, hcall, poll_answers hbefore hcall hduring hidle⟩

end BudgetedHub
end Backend
end MevShare
