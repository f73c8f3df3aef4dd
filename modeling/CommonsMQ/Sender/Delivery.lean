import CommonsMQ.Sender.Invariant

/-! # What one call of Send does to the queues

Each call keeps a record of its attempts and of the answers of `Reconnect`.
`SendPc.Trace` says, for every position in `SendWithCreator`, what that record
looks like there; the number of attempts, the runs of the creator and the value
returned are read off it. A ledger then ties the messages on the queues to the
records of all calls.

Some statements depend on what a failed `MQPUT` may do. `clean` stands for the
assumption that it leaves no message behind.
-/

namespace CommonsMQ

open Interleave

/-- An attempt before its `MQPUT`. -/
structure PutAttempt.Unput (a : PutAttempt) : Prop where
  creator : a.given.length ≤ 1
  fresh : ∀ g ∈ a.given, g.2 = .fresh
  puts : a.puts = []
  landed : a.landed = 0

def PutAttempt.Running (a : PutAttempt) : PutPc → Prop
  | .openQueue | .runCreator => a = {}
  | .mqput _ => a.Unput

/-- An attempt whose `put` returned `result`. -/
structure PutAttempt.Ended (clean : Prop) (a : PutAttempt) (result : Except GoError String) :
    Prop where
  creator : a.given.length ≤ 1
  fresh : ∀ g ∈ a.given, g.2 = .fresh
  outcome : (∃ id, a.puts = [.ok id] ∧ result = .ok id.hex ∧ a.landed = 1) ∨
    ∃ err, (∀ p ∈ a.puts, ∃ e, p = .error e) ∧ result = .error err ∧
      0 ≤ a.landed ∧ a.landed ≤ 1 ∧ (clean → a.landed = 0)

abbrev Attempts := List (PutAttempt × Except GoError String)

section Traces

variable (clean : Prop) (attempts : Attempts) (reconnects : List (Option GoError))
  (current : PutAttempt)

/-- One attempt was made, and its error was one of the connection. -/
def BrokenOff : Prop :=
  ∃ a err, a.Ended clean (.error err) ∧ isConnectionError err = true ∧
    attempts = [(a, .error err)]

/-- The last attempt failed, and there is no further one. -/
def GaveUp : Prop :=
  (∃ a err, a.Ended clean (.error err) ∧ attempts = [(a, .error err)] ∧ reconnects = []) ∨
  (BrokenOff clean attempts ∧ ∃ err, reconnects = [some err]) ∨
  ∃ first a err, BrokenOff clean [first] ∧ a.Ended clean (.error err) ∧
    attempts = [first, (a, .error err)] ∧ reconnects = [none]

def Succeeded (msgID : String) : Prop :=
  (∃ a, a.Ended clean (.ok msgID) ∧ attempts = [(a, .ok msgID)] ∧ reconnects = []) ∨
  ∃ first a, BrokenOff clean [first] ∧ a.Ended clean (.ok msgID) ∧
    attempts = [first, (a, .ok msgID)] ∧ reconnects = [none]

def EndsWith : Except GoError String → Prop
  | .ok msgID => Succeeded clean attempts reconnects msgID
  | .error _ => attempts = [] ∧ reconnects = [] ∨ GaveUp clean attempts reconnects

def SendPc.Trace : SendPc → Prop
  | .resolve | .enter | .acquire _ => attempts = [] ∧ reconnects = [] ∧ current = {}
  | .put _ false pc => attempts = [] ∧ reconnects = [] ∧ current.Running pc
  | .put _ true pc => BrokenOff clean attempts ∧ reconnects = [none] ∧ current.Running pc
  | .markReconnecting _ _ | .reconnect _ _ =>
      BrokenOff clean attempts ∧ reconnects = [] ∧ current = {}
  | .markReconnected _ => BrokenOff clean attempts ∧ reconnects = [none] ∧ current = {}
  | .closeConn _ _ | .uncreate _ _ | .uncount _ | .markDiscarded _ =>
      GaveUp clean attempts reconnects ∧ current = {}
  | .markSent _ msgID => Succeeded clean attempts reconnects msgID ∧ current = {}
  | .release _ result | .finish result | .returned result =>
      EndsWith clean attempts reconnects result ∧ current = {}
  | .unwinding | .panicked =>
      (attempts = [] ∧ reconnects = [] ∨ BrokenOff clean attempts ∧ reconnects = [none]) ∧
        current.Unput

end Traces

def SendCall.Trace (clean : Prop) (call : SendCall) : Prop :=
  call.pc.Trace clean call.attempts call.reconnects call.current

section Steps

variable {clean : Prop} {s s' : Sender}

/-- What `put` leaves in the record, whichever way it goes. -/
def PutOutcome.Leaves (clean : Prop) (a : PutAttempt) : PutOutcome → Prop
  | .running pc => a.Running pc
  | .returned result => a.Ended clean result
  | .panicked => a.Unput

theorem PutStep.leaves {queueName span attempt pc answer attempt' out}
    (step : PutStep s queueName span attempt pc answer s' attempt' out)
    (running : attempt.Running pc) (unharmed : clean → ∀ err id, answer ≠ .putFailed err (some id)) :
    out.Leaves clean attempt' := by
  cases step with
  | opened => exact running
  | openFailed =>
      obtain rfl := running
      exact ⟨by simp, by simp, .inr ⟨_, by simp, rfl, by simp, by simp, fun _ => rfl⟩⟩
  | noCreator =>
      obtain rfl := running
      exact ⟨by simp, by simp, rfl, rfl⟩
  | created | panicked =>
      obtain rfl := running
      exact ⟨by simp, by simp, rfl, rfl⟩
  | creatorFailed =>
      obtain rfl := running
      exact ⟨by simp, by simp, .inr ⟨_, by simp, rfl, by simp, by simp, fun _ => rfl⟩⟩
  | putOk =>
      obtain ⟨creator, fresh, puts, landed⟩ := running
      exact ⟨creator, fresh, .inl ⟨_, by simp [puts], rfl, by simp [landed]⟩⟩
  | putFailed =>
      obtain ⟨creator, fresh, puts, landed⟩ := running
      exact ⟨creator, fresh,
        .inr ⟨_, by simp [puts], rfl, by simp [landed], by simp [landed], fun _ => landed⟩⟩
  | putUncertain =>
      obtain ⟨creator, fresh, puts, landed⟩ := running
      exact ⟨creator, fresh, .inr ⟨_, by simp [puts], rfl, by simp [landed], by simp [landed],
        fun assumed => absurd rfl (unharmed assumed _ _)⟩⟩

/-- After the first `put`. -/
theorem afterPut_trace {a : PutAttempt} {result : Except GoError String} (conn : ConnId)
    (ended : a.Ended clean result) :
    (afterPut conn false result).Trace clean [(a, result)] [] {} := by
  cases result with
  | ok msgID => exact ⟨.inl ⟨a, ended, rfl, rfl⟩, rfl⟩
  | error err =>
      simp only [afterPut, Bool.false_eq_true, if_false]
      split
      · exact ⟨⟨a, err, ended, ‹_›, rfl⟩, rfl, rfl⟩
      · exact ⟨.inr (.inl ⟨a, err, ended, rfl, rfl⟩), rfl⟩

/-- After the second one. -/
theorem afterPut_retry_trace {first : PutAttempt × Except GoError String} {a : PutAttempt}
    {result : Except GoError String} (conn : ConnId) (broken : BrokenOff clean [first])
    (ended : a.Ended clean result) :
    (afterPut conn true result).Trace clean [first, (a, result)] [none] {} := by
  cases result with
  | ok msgID => exact ⟨.inr ⟨first, a, broken, ended, rfl, rfl⟩, rfl⟩
  | error err => exact ⟨.inr (.inr ⟨first, a, err, broken, ended, rfl, rfl⟩), rfl⟩

theorem SendStep.trace {call call' : SendCall} {answer} (step : SendStep s call answer s' call')
    (trace : call.Trace clean) (unharmed : clean → ∀ err id, answer ≠ .putFailed err (some id)) :
    call'.Trace clean := by
  unfold SendCall.Trace at trace
  cases step with
  | noDestination here | rejected here =>
      rw [here] at trace
      obtain ⟨attempts, reconnects, current⟩ := trace
      exact ⟨.inl ⟨attempts, reconnects⟩, current⟩
  | resolved here | admitted here =>
      rw [here] at trace
      exact trace
  | acquiring here =>
      rw [here] at trace
      exact trace
  | acquireFailed here =>
      rw [here] at trace
      obtain ⟨attempts, reconnects, current⟩ := trace
      exact ⟨.inl ⟨attempts, reconnects⟩, current⟩
  | acquired here =>
      rw [here] at trace
      exact trace
  | putting here inner =>
      rename_i conn retry _ _ _
      rw [here] at trace
      cases retry with
      | false => exact ⟨trace.1, trace.2.1, inner.leaves trace.2.2 unharmed⟩
      | true => exact ⟨trace.1, trace.2.1, inner.leaves trace.2.2 unharmed⟩
  | putReturned here inner =>
      rename_i conn retry _ _ _
      rw [here] at trace
      cases retry with
      | false =>
          obtain ⟨attempts, reconnects, running⟩ := trace
          simp only [SendCall.Trace, attempts, reconnects, List.nil_append]
          exact afterPut_trace conn (inner.leaves running unharmed)
      | true =>
          obtain ⟨broken, reconnects, running⟩ := trace
          obtain ⟨a, err, ended, isBroken, attempts⟩ := broken
          simp only [SendCall.Trace, attempts, reconnects, List.singleton_append]
          exact afterPut_retry_trace conn ⟨a, err, ended, isBroken, rfl⟩
            (inner.leaves running unharmed)
  | putPanicked here inner =>
      rename_i retry _ _ _
      rw [here] at trace
      cases retry with
      | false => exact ⟨.inl ⟨trace.1, trace.2.1⟩, inner.leaves trace.2.2 unharmed⟩
      | true => exact ⟨.inr ⟨trace.1, trace.2.1⟩, inner.leaves trace.2.2 unharmed⟩
  | markReconnecting here | reconnecting here =>
      rw [here] at trace
      exact trace
  | reconnected here =>
      rw [here] at trace
      obtain ⟨broken, reconnects, current⟩ := trace
      exact ⟨broken, by simp [reconnects], current⟩
  | reconnectFailed here =>
      rw [here] at trace
      obtain ⟨broken, reconnects, current⟩ := trace
      exact ⟨.inr (.inl ⟨broken, _, by rw [reconnects]; rfl⟩), current⟩
  | markReconnected here =>
      rw [here] at trace
      exact trace
  | closeConn here | uncreate here | uncount here =>
      rw [here] at trace
      exact trace
  | markDiscarded here =>
      rw [here] at trace
      exact ⟨.inr trace.1, trace.2⟩
  | markSent here | release here | finish here =>
      rw [here] at trace
      exact trace
  | unwound here =>
      rw [here] at trace
      exact trace

theorem ThreadStep.trace {t t' answer} (step : ThreadStep s t answer s' t')
    (trace : ∀ call, t = .send call → call.Trace clean)
    (unharmed : clean → ∀ err id, answer ≠ .putFailed err (some id)) :
    ∀ call, t' = .send call → call.Trace clean := by
  rintro call rfl
  cases step with
  | cancel => exact (trace _ rfl :)
  | send inner => exact inner.trace (trace _ rfl) unharmed

end Steps

/-! ## Messages made and messages left -/

namespace SendCall

/-- The attempts of a call, the one in progress last. -/
def tries (call : SendCall) : List PutAttempt := call.attempts.map Prod.fst ++ [call.current]

/-- Messages that a call has left on its queue. -/
def landed (call : SendCall) : ℤ := tally PutAttempt.landed call.tries

/-- The `Message` values handed to its creator, by allocation number. -/
def given (call : SendCall) : List Nat := call.tries.flatMap fun a => a.given.map Prod.fst

end SendCall

namespace SenderThread

def landedIn (queue : String) : SenderThread → ℤ
  | .send call => if call.destination = queue then call.landed else 0
  | .probe _ | .close _ => 0

def given : SenderThread → List Nat
  | .send call => call.given
  | .probe _ | .close _ => []

end SenderThread

def Sender.onQueue (s : Sender) (queue : String) : ℤ :=
  s.queues.countP fun m => decide (m.queue = queue)

section Records

variable {s s' : Sender}

theorem PutStep.onQueue {queueName span attempt pc answer attempt' out}
    (step : PutStep s queueName span attempt pc answer s' attempt' out) (queue : String) :
    s'.onQueue queue = s.onQueue queue +
      if queueName = queue then attempt'.landed - attempt.landed else 0 := by
  cases step with
  | opened | openFailed | noCreator | created | creatorFailed | panicked | putFailed =>
      simp [Sender.onQueue]
  | putOk | putUncertain =>
      simp only [Sender.onQueue, Sender.landed, List.countP_append, List.countP_singleton]
      by_cases same : queueName = queue <;> simp [same]

/-- A creator runs on a `Message` allocated for it. -/
theorem PutStep.given {queueName span attempt pc answer attempt' out}
    (step : PutStep s queueName span attempt pc answer s' attempt' out) :
    attempt'.given = attempt.given ∧ s.nextMsg ≤ s'.nextMsg ∨
      attempt'.given = attempt.given ++ [(s.nextMsg, .fresh)] ∧ s'.nextMsg = s.nextMsg + 1 := by
  cases step with
  | created | creatorFailed | panicked => exact .inr ⟨rfl, rfl⟩
  | noCreator => exact .inl ⟨rfl, Nat.le_succ _⟩
  | opened | openFailed | putOk | putFailed | putUncertain => exact .inl ⟨rfl, le_rfl⟩

theorem AcquireStep.queues {ctx answer pc out} (step : AcquireStep s ctx answer pc s' out) :
    s'.queues = s.queues ∧ s'.nextMsg = s.nextMsg := by
  cases step with
  | dialed _ added =>
      obtain ⟨live, -, rfl⟩ := Sender.addConn_cases added
      exact ⟨rfl, rfl⟩
  | markDialFailed => split <;> exact ⟨rfl, rfl⟩
  | _ => exact ⟨rfl, rfl⟩

/-- What a step does to the record of its call: nothing, or what `put` did. -/
inductive RecordStep (s : Sender) (call : SendCall) (s' : Sender) (call' : SendCall) : Prop where
  | same : s'.queues = s.queues → s'.nextMsg = s.nextMsg → call'.tries = call.tries →
      call'.destination = call.destination ∨ call.pc = .resolve → RecordStep s call s' call'
  | put {span pc answer s₁ attempt out} :
      PutStep s call.destination span call.current pc answer s₁ attempt out →
      s'.queues = s₁.queues → s'.nextMsg = s₁.nextMsg → call'.destination = call.destination →
      call'.tries = call.attempts.map Prod.fst ++ [attempt] ∨
        call'.tries = call.attempts.map Prod.fst ++ [attempt, {}] →
      RecordStep s call s' call'

theorem SendStep.record {call call' : SendCall} {answer} (step : SendStep s call answer s' call') :
    RecordStep s call s' call' := by
  cases step with
  | resolved here => exact .same rfl rfl rfl (.inr here)
  | acquiring _ inner | acquireFailed _ inner | acquired _ inner =>
      exact .same inner.queues.1 inner.queues.2 rfl (.inl rfl)
  | putting _ inner => exact .put inner rfl rfl rfl (.inl rfl)
  | putPanicked _ inner => exact .put inner rfl rfl rfl (.inl rfl)
  | putReturned _ inner => exact .put inner rfl rfl rfl (.inr (by simp [SendCall.tries]))
  | markReconnecting _ _ set | reconnecting _ _ _ set | reconnected _ _ _ set
  | reconnectFailed _ _ _ set | closeConn _ _ set =>
      obtain ⟨old, live, -, -, rfl⟩ := Sender.setConn_cases set
      exact .same rfl rfl rfl (.inl rfl)
  | markDiscarded => split <;> exact .same rfl rfl rfl (.inl rfl)
  | _ => exact .same rfl rfl rfl (.inl rfl)

/-- The queues gain what the call adds to its record. -/
theorem RecordStep.onQueue {clean : Prop} {call call' : SendCall}
    (step : RecordStep s call s' call') (trace : call.Trace clean) (queue : String) :
    s'.onQueue queue - s.onQueue queue =
      (SenderThread.send call').landedIn queue - (SenderThread.send call).landedIn queue := by
  cases step with
  | same queues _ tries destination =>
      have landed : call'.landed = call.landed := by rw [SendCall.landed, tries, SendCall.landed]
      rw [Sender.onQueue, Sender.onQueue, queues, SenderThread.landedIn, SenderThread.landedIn,
        landed]
      rcases destination with kept | here
      · rw [kept]
        omega
      · rw [SendCall.Trace, here] at trace
        obtain ⟨attempts, -, current⟩ := trace
        have none : call.landed = 0 := by simp [SendCall.landed, SendCall.tries, attempts, current]
        simp [none]
  | @put span pc answer s₁ attempt out inner queues _ destination tries =>
      have landed : call'.landed = call.landed + (attempt.landed - call.current.landed) := by
        have before : call.landed =
            tally PutAttempt.landed (call.attempts.map Prod.fst) + call.current.landed := by
          simp [SendCall.landed, SendCall.tries]
        rw [before, SendCall.landed]
        rcases tries with running | returned
        · rw [running, tally_append, tally_cons, tally_nil]
          omega
        · rw [returned, tally_append, tally_cons, tally_cons, tally_nil]
          simp only
          omega
      have gained := inner.onQueue queue
      rw [Sender.onQueue, queues, ← Sender.onQueue, gained, SenderThread.landedIn,
        SenderThread.landedIn, destination, landed]
      split <;> omega

theorem RecordStep.given {call call' : SendCall} (step : RecordStep s call s' call') :
    call'.given = call.given ∧ s.nextMsg ≤ s'.nextMsg ∨
      call'.given = call.given ++ [s.nextMsg] ∧ s'.nextMsg = s.nextMsg + 1 := by
  cases step with
  | same _ nextMsg tries _ =>
      exact .inl ⟨by rw [SendCall.given, tries, SendCall.given], nextMsg.ge⟩
  | @put span pc answer s₁ attempt out inner _ nextMsg _ tries =>
      have shape : call'.given =
          (call.attempts.map Prod.fst).flatMap (fun a => a.given.map Prod.fst) ++
            attempt.given.map Prod.fst := by
        rcases tries with running | returned
        · simp [SendCall.given, running]
        · simp [SendCall.given, returned]
      rw [nextMsg, shape]
      rcases inner.given with ⟨same, le⟩ | ⟨one, count⟩
      · exact .inl ⟨by simp [SendCall.given, SendCall.tries, same], le⟩
      · exact .inr ⟨by simp [SendCall.given, SendCall.tries, one], count⟩

end Records

theorem ThreadStep.onQueue {clean : Prop} {s s' : Sender} {t t' answer}
    (step : ThreadStep s t answer s' t') (trace : ∀ call, t = .send call → call.Trace clean)
    (queue : String) :
    s'.onQueue queue - s.onQueue queue = t'.landedIn queue - t.landedIn queue := by
  cases step with
  | cancel =>
      rw [sub_self]
      exact (sub_self _).symm
  | send inner => exact inner.record.onQueue (trace _ rfl) queue
  | probe inner => cases inner <;> simp [SenderThread.landedIn, Sender.onQueue]
  | close inner =>
      cases inner with
      | closing _ set =>
          obtain ⟨old, live, -, -, rfl⟩ := Sender.setConn_cases set
          simp [SenderThread.landedIn, Sender.onQueue]
      | _ => simp [SenderThread.landedIn, Sender.onQueue]

theorem ThreadStep.given {s s' : Sender} {t t' answer} (step : ThreadStep s t answer s' t') :
    t'.given = t.given ∧ s.nextMsg ≤ s'.nextMsg ∨
      t'.given = t.given ++ [s.nextMsg] ∧ s'.nextMsg = s.nextMsg + 1 := by
  cases step with
  | cancel => exact .inl ⟨rfl, le_rfl⟩
  | send inner => exact inner.record.given
  | probe inner => exact .inl ⟨rfl, by cases inner <;> exact le_rfl⟩
  | close inner =>
      refine .inl ⟨rfl, ?_⟩
      cases inner with
      | closing _ set =>
          obtain ⟨old, live, -, -, rfl⟩ := Sender.setConn_cases set
          exact le_rfl
      | _ => exact le_rfl

/-- How often `Message` number `k` was handed to a creator, over all threads. -/
def handedOut (k : Nat) (threads : List SenderThread) : ℤ :=
  tally (fun t => (t.given.count k : ℤ)) threads

structure DeliveryInv (clean : Prop) (c : SenderConfig) : Prop where
  traces : ∀ t ∈ c.threads, ∀ call, t = .send call → call.Trace clean
  ledger : ∀ queue, c.shared.onQueue queue = tally (SenderThread.landedIn queue) c.threads
  once : ∀ k, handedOut k c.threads ≤ 1
  unused : ∀ k, c.shared.nextMsg ≤ k → handedOut k c.threads = 0

theorem DeliveryInv.next {clean : Prop} {c c' : SenderConfig} {m : SenderMove}
    (inv : DeliveryInv clean c)
    (unharmed : clean → ∀ i err id, m ≠ .act i (.putFailed err (some id)))
    (moved : senderProgram.next c m = some c') : DeliveryInv clean c' := by
  obtain ⟨r, -, rfl⟩ | ⟨i, answer, t, s, t', rfl, found, step, rfl⟩ := sender_cases moved
  · have given : (senderProgram.start r).given = [] := by
      cases r <;> simp [senderProgram, SenderThread.given, SendCall.given, SendCall.tries]
    refine ⟨?_, ?_, ?_, ?_⟩
    · intro t member call same
      rcases List.mem_append.mp member with old | new
      · exact inv.traces t old call same
      · obtain rfl := List.mem_singleton.mp new
        cases r with
        | send =>
            cases same
            exact ⟨rfl, rfl, rfl⟩
        | health | close => cases same
    · intro queue
      rw [tally_append, inv.ledger queue]
      cases r <;> simp [senderProgram, SenderThread.landedIn, SendCall.landed, SendCall.tries]
    · simpa [handedOut, given] using inv.once
    · simpa [handedOut, given] using inv.unused
  · have trace := inv.traces t (List.mem_of_getElem? found)
    have allowed : clean → ∀ err id, answer ≠ .putFailed err (some id) := by
      rintro assumed err id rfl
      exact unharmed assumed i err id rfl
    have counts : ∀ k, handedOut k (c.threads.set i t') =
        handedOut k c.threads + ((t'.given.count k : ℤ) - t.given.count k) := by
      intro k
      exact tally_set (fun t : SenderThread => (t.given.count k : ℤ)) found t'
    refine ⟨?_, ?_, ?_, ?_⟩
    · refine Program.forall_threads_set (step.trace trace allowed) ?_
      intro j u _ at_j
      exact inv.traces u (List.mem_of_getElem? at_j)
    · intro queue
      have gained := step.onQueue trace queue
      have before := inv.ledger queue
      rw [tally_set _ found]
      simp only
      omega
    · intro k
      have before := inv.once k
      have fresh := inv.unused k
      have after := counts k
      simp only
      rcases step.given with ⟨same, -⟩ | ⟨more, -⟩
      · rw [same] at after
        omega
      · rw [more, List.count_append, List.count_singleton] at after
        by_cases new : c.shared.nextMsg = k
        · have := fresh new.le
          simp only [new, beq_self_eq_true, if_true] at after
          omega
        · simp only [beq_iff_eq, new, if_false] at after
          omega
    · intro k later
      have after := counts k
      simp only at later ⊢
      rcases step.given with ⟨same, le⟩ | ⟨more, count⟩
      · have before := inv.unused k (by omega)
        rw [same] at after
        omega
      · have before := inv.unused k (by omega)
        have other : ¬c.shared.nextMsg = k := by omega
        rw [more, List.count_append, List.count_singleton] at after
        simp only [beq_iff_eq, other, if_false] at after
        omega

theorem DeliveryInv.run {clean : Prop} {s : Sender} {ms : List SenderMove} {c : SenderConfig}
    (fresh : s.Fresh) (unharmed : clean → ∀ i err id, .act i (.putFailed err (some id)) ∉ ms)
    (run : senderProgram.exec ⟨s, []⟩ ms = some c) : DeliveryInv clean c := by
  have keep : ∀ c m c', DeliveryInv clean c →
      (clean → ∀ i err id, m ≠ .act i (.putFailed err (some id))) →
      senderProgram.next c m = some c' → DeliveryInv clean c' :=
    fun _ _ _ inv allowed moved => inv.next allowed moved
  have start : DeliveryInv clean ⟨s, []⟩ :=
    ⟨by simp, by simp [Sender.onQueue, fresh.queues], by simp [handedOut], by simp [handedOut]⟩
  refine Program.exec_invariant keep start (Program.meets_of_forall ?_) run
  intro m member assumed i err id same
  exact unharmed assumed i err id (same ▸ member)

/-! ## The promise of SendWithCreator -/

/-- All records that a call can have. -/
inductive History (clean : Prop) : Attempts → List (Option GoError) → Prop where
  | nothing : History clean [] []
  | one {a result} : a.Ended clean result → History clean [(a, result)] []
  | broken {a err answer} : a.Ended clean (.error err) → isConnectionError err = true →
      History clean [(a, .error err)] [answer]
  | two {a err b result} : a.Ended clean (.error err) → isConnectionError err = true →
      b.Ended clean result → History clean [(a, .error err), (b, result)] [none]

section Histories

variable {clean : Prop} {attempts : Attempts} {reconnects : List (Option GoError)}

theorem BrokenOff.history (broken : BrokenOff clean attempts) :
    History clean attempts [] ∧ ∀ answer, History clean attempts [answer] := by
  obtain ⟨a, err, ended, isBroken, rfl⟩ := broken
  exact ⟨.one ended, fun _ => .broken ended isBroken⟩

theorem GaveUp.history (gaveUp : GaveUp clean attempts reconnects) :
    History clean attempts reconnects := by
  rcases gaveUp with ⟨a, err, ended, rfl, rfl⟩ | ⟨broken, err, rfl⟩ |
    ⟨first, b, err, ⟨a, e, ended, isBroken, first_eq⟩, endedToo, rfl, rfl⟩
  · exact .one ended
  · exact broken.history.2 _
  · cases first_eq
    exact .two ended isBroken endedToo

theorem Succeeded.history {msgID : String} (sent : Succeeded clean attempts reconnects msgID) :
    History clean attempts reconnects := by
  rcases sent with ⟨a, ended, rfl, rfl⟩ |
    ⟨first, b, ⟨a, e, ended, isBroken, first_eq⟩, endedToo, rfl, rfl⟩
  · exact .one ended
  · cases first_eq
    exact .two ended isBroken endedToo

theorem EndsWith.history {result : Except GoError String}
    (ends : EndsWith clean attempts reconnects result) : History clean attempts reconnects := by
  cases result with
  | ok msgID => exact Succeeded.history ends
  | error err =>
      rcases ends with ⟨rfl, rfl⟩ | gaveUp
      · exact .nothing
      · exact gaveUp.history

theorem PutAttempt.unput_empty : ({} : PutAttempt).Unput := ⟨by simp, by simp, rfl, rfl⟩

theorem PutAttempt.Running.unput {a : PutAttempt} {pc : PutPc} (running : a.Running pc) :
    a.Unput := by
  cases pc with
  | openQueue | runCreator =>
      obtain rfl := running
      exact unput_empty
  | mqput => exact running

/-- What holds of the record at every position. -/
theorem SendPc.Trace.history {pc : SendPc} {current : PutAttempt}
    (trace : pc.Trace clean attempts reconnects current) :
    History clean attempts reconnects ∧ current.Unput := by
  cases pc with
  | resolve | enter | acquire =>
      obtain ⟨rfl, rfl, rfl⟩ := trace
      exact ⟨.nothing, PutAttempt.unput_empty⟩
  | put conn retry pc =>
      cases retry with
      | false =>
          obtain ⟨rfl, rfl, running⟩ := trace
          exact ⟨.nothing, running.unput⟩
      | true =>
          obtain ⟨broken, rfl, running⟩ := trace
          exact ⟨broken.history.2 _, running.unput⟩
  | markReconnecting | reconnect =>
      obtain ⟨broken, rfl, rfl⟩ := trace
      exact ⟨broken.history.1, PutAttempt.unput_empty⟩
  | markReconnected =>
      obtain ⟨broken, rfl, rfl⟩ := trace
      exact ⟨broken.history.2 _, PutAttempt.unput_empty⟩
  | closeConn | uncreate | uncount | markDiscarded =>
      obtain ⟨gaveUp, rfl⟩ := trace
      exact ⟨gaveUp.history, PutAttempt.unput_empty⟩
  | markSent =>
      obtain ⟨sent, rfl⟩ := trace
      exact ⟨sent.history, PutAttempt.unput_empty⟩
  | release | finish | returned =>
      obtain ⟨ends, rfl⟩ := trace
      exact ⟨ends.history, PutAttempt.unput_empty⟩
  | unwinding | panicked =>
      obtain ⟨⟨rfl, rfl⟩ | ⟨broken, rfl⟩, unput⟩ := trace
      · exact ⟨.nothing, unput⟩
      · exact ⟨broken.history.2 _, unput⟩

/-- While an attempt runs, it is the first, or the second after a reconnect. -/
theorem SendPc.Trace.running {pc : SendPc} {current : PutAttempt}
    (trace : pc.Trace clean attempts reconnects current)
    (running : (∃ conn retry p, pc = .put conn retry p) ∨ pc = .unwinding ∨ pc = .panicked) :
    attempts = [] ∨ BrokenOff clean attempts ∧ reconnects = [none] := by
  rcases running with ⟨conn, retry, p, rfl⟩ | rfl | rfl
  · cases retry with
    | false => exact .inl trace.1
    | true => exact .inr ⟨trace.1, trace.2.1⟩
  · exact trace.1.imp And.left id
  · exact trace.1.imp And.left id

theorem PutAttempt.Ended.landed_bounds {a : PutAttempt} {result : Except GoError String}
    (ended : a.Ended clean result) : 0 ≤ a.landed ∧ a.landed ≤ 1 := by
  rcases ended.outcome with ⟨id, -, -, one⟩ | ⟨err, -, -, lower, upper, -⟩
  · omega
  · exact ⟨lower, upper⟩

theorem History.length_le (history : History clean attempts reconnects) : attempts.length ≤ 2 := by
  cases history <;> simp

theorem History.second (history : History clean attempts reconnects) (two : 2 ≤ attempts.length) :
    ∃ a err, attempts.head? = some (a, .error err) ∧ isConnectionError err = true ∧
      reconnects = [none] := by
  cases history with
  | nothing | one | broken => simp at two
  | two _ isBroken _ => exact ⟨_, _, rfl, isBroken, rfl⟩

theorem History.ended (history : History clean attempts reconnects) :
    ∀ x ∈ attempts, x.1.Ended clean x.2 := by
  cases history with
  | nothing => simp
  | one ended | broken ended => simpa using ended
  | two ended _ endedToo => simpa using ⟨ended, endedToo⟩

theorem History.landed_bounds (history : History clean attempts reconnects) :
    0 ≤ tally PutAttempt.landed (attempts.map Prod.fst) ∧
      tally PutAttempt.landed (attempts.map Prod.fst) ≤ 2 := by
  cases history with
  | nothing => simp
  | one ended | broken ended =>
      have := ended.landed_bounds
      simp only [List.map_cons, List.map_nil, tally_cons, tally_nil]
      omega
  | two ended _ endedToo =>
      have := ended.landed_bounds
      have := endedToo.landed_bounds
      simp only [List.map_cons, List.map_nil, tally_cons, tally_nil]
      omega

end Histories

/-- Inside `put`, or on the way out of a creator that panicked there. -/
def SendPc.isPutting : SendPc → Bool
  | .put _ _ _ | .unwinding | .panicked => true
  | _ => false

/-- Calls of `put` that have begun. -/
def SendCall.started (call : SendCall) : Nat :=
  call.attempts.length + if call.pc.isPutting then 1 else 0

section Discipline

variable {clean : Prop} {call : SendCall}

theorem SendPc.isPutting_iff (pc : SendPc) : pc.isPutting = true ↔
    (∃ conn retry p, pc = .put conn retry p) ∨ pc = .unwinding ∨ pc = .panicked := by
  cases pc <;> simp [isPutting]

theorem SendCall.Trace.second (trace : call.Trace clean) (two : 2 ≤ call.started) :
    ∃ a err, call.attempts.head? = some (a, .error err) ∧ isConnectionError err = true ∧
      call.reconnects = [none] := by
  unfold SendCall.started at two
  by_cases putting : call.pc.isPutting = true
  · rw [if_pos putting] at two
    rcases SendPc.Trace.running trace (call.pc.isPutting_iff.mp putting) with
      none | ⟨⟨a, err, -, isBroken, one⟩, reconnects⟩
    · simp [none] at two
    · exact ⟨a, err, by rw [one]; rfl, isBroken, reconnects⟩
  · rw [if_neg putting] at two
    exact (SendPc.Trace.history trace).1.second two

theorem SendCall.Trace.creator (trace : call.Trace clean) :
    ∀ a ∈ call.tries, a.given.length ≤ 1 ∧ ∀ g ∈ a.given, g.2 = .fresh := by
  obtain ⟨history, unput⟩ := SendPc.Trace.history trace
  intro a member
  rcases List.mem_append.mp member with finished | running
  · obtain ⟨x, inAttempts, rfl⟩ := List.mem_map.mp finished
    have ended := history.ended x inAttempts
    exact ⟨ended.creator, ended.fresh⟩
  · obtain rfl := List.mem_singleton.mp running
    exact ⟨unput.creator, unput.fresh⟩

/-- The last attempt decides what is returned. -/
theorem EndsWith.last {attempts : Attempts} {reconnects : List (Option GoError)}
    {result : Except GoError String} (ends : EndsWith clean attempts reconnects result) :
    (attempts = [] ∧ ∃ err, result = .error err) ∨
      ∃ a r, attempts.getLast? = some (a, r) ∧ a.Ended clean r ∧
        ∀ msgID, result = .ok msgID ↔ r = .ok msgID := by
  cases result with
  | ok msgID =>
      rcases ends with ⟨a, ended, rfl, -⟩ | ⟨first, a, -, ended, rfl, -⟩
      · exact .inr ⟨a, _, rfl, ended, by simp⟩
      · exact .inr ⟨a, _, rfl, ended, by simp⟩
  | error err =>
      rcases ends with ⟨rfl, -⟩ | ⟨a, e, ended, rfl, -⟩ | ⟨⟨a, e, ended, -, rfl⟩, -⟩ |
        ⟨first, a, e, -, ended, rfl, -⟩
      · exact .inl ⟨rfl, err, rfl⟩
      · exact .inr ⟨a, _, rfl, ended, by simp⟩
      · exact .inr ⟨a, _, rfl, ended, by simp⟩
      · exact .inr ⟨a, _, rfl, ended, by simp⟩

theorem SendCall.Trace.landed_bounds (trace : call.Trace clean) :
    0 ≤ call.landed ∧ call.landed ≤ 2 := by
  obtain ⟨history, unput⟩ := SendPc.Trace.history trace
  have bounds := history.landed_bounds
  simp only [SendCall.landed, SendCall.tries, tally_append, tally_cons, tally_nil, unput.landed]
  omega

end Discipline

/-- The connection breaks under the first `MQPUT`, `Reconnect` dials again, and the
    second `MQPUT` succeeds. -/
def retriesOnce (i : Nat) (handle : Handle) : List SenderMove :=
  [.act i (.opened none), .act i .go,
    .act i (.putFailed (.mqReturn ⟨2, 2009, "MQRC_CONNECTION_BROKEN"⟩) none), .act i .go,
    .act i (.loop .check), .act i (.loop (.dialed (.ok handle))), .act i .go] ++ putsAndReturns i

end CommonsMQ
