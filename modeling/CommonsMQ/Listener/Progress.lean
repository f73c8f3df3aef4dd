import CommonsMQ.Lib.Progress
import CommonsMQ.Listener.Handoff
import CommonsMQ.Listener.Lifecycle
import CommonsMQ.Listener.Shutdown

/-! # A listener that is told to stop does so

Once the context of the run is done, a consumer leaves each of its loops at the next look at
it. From wherever it stands it has at most eleven steps to go and hands over at most the one
message that its GET was about to return. `Start` and `close` wait for nobody else.
-/

namespace CommonsMQ

open Interleave

/-! ## The countdown of a stopped listener -/

def ConsumePc.left : ConsumePc → Nat
  | .poll => 1
  | .openQueue | .reporting => 2
  | .handling _ => 3
  | .got _ _ => 4
  | .get => 5

/-- How many steps a consumer can still make if the context is done. -/
def ConsumerPc.left : ConsumerPc → Nat
  | .entry => 10
  | .markDialing | .markReconnecting => 9
  | .dialing pc | .reconnect pc => 7 + LoopRank.done.left pc
  | .markConnected | .markReconnected => 7
  | .consume pc => 6 + pc.left
  | .loopTop | .loopReturned _ | .reconnectFailed _ => 6
  | .closeConn _ | .dialFailed _ => 5
  | .markFinal _ => 4
  | .finalCallback _ => 3
  | .sendErr _ => 2
  | .wgDone _ => 1
  | .exited _ => 0

/-- `Start` launches `n` consumers. -/
def StartPc.left (n : Nat) : StartPc → Nat
  | .begin => n + 5
  | .launch next => n - next + 4
  | .await => 3
  | .cancelRun _ => 2
  | .closeDone _ => 1
  | .returned _ | .rejected _ => 0

def StopPc.left : StopPc → Nat
  | .begin => 3
  | .cancelRun _ => 2
  | .await _ => 1
  | .returned | .repeated => 0

/-- A probe looks at `n` slots. -/
def ListenerProbePc.left (n : Nat) : ListenerProbePc → Nat
  | .snapshot => n + 2
  | .scan _ details => n - details.length + 1
  | .returned _ => 0

def ListenerThread.left (n : Nat) : ListenerThread → Nat
  | .start call => call.pc.left n
  | .consumer k => k.pc.left
  | .probe pc => pc.left n
  | .close pc => pc.left

def ListenerAnswer.isCancel : ListenerAnswer → Bool
  | .cancel _ => true
  | _ => false

section Steps

variable {l l' : Listener} {k k' : Consumer}

theorem ConsumeStep.left {pc pc'} (step : ConsumeStep l k pc l' k' (.inl pc'))
    (stopped : l.runCtx.isSome = true) : pc'.left < pc.left := by
  cases step with
  | polled live => simp [live] at stopped
  | _ => simp [ConsumePc.left]

theorem ConsumePc.left_pos (pc : ConsumePc) : 1 ≤ pc.left := by
  cases pc <;> simp [left]

theorem ConsumerStep.left {pc} (step : ConsumerStep l k pc l' k')
    (stopped : l.runCtx.isSome = true) : k'.pc.left < pc.left := by
  have counts := LoopRank.done_counts (n := l.dialConfig.attempts) stopped
  cases step with
  | entered live | dialGaveUp live | loopEntered live | connectionLost live | loopFailed live
  | reconnectGaveUp live => simp [live] at stopped
  | dialing looped =>
      exact Nat.add_lt_add_left (counts _ _ _ (newConnectionWithRetry_step looped)) _
  | reconnecting looped =>
      exact Nat.add_lt_add_left (counts _ _ _ (Connection.reconnect_step looped)) _
  | @dialFailed pc | @dialed pc | @reconnected pc | @reconnectFailed pc =>
      have := LoopRank.done.positive pc
      simp only [ConsumerPc.left]
      omega
  | consuming inner => exact Nat.add_lt_add_left (inner.left stopped) _
  | @consumed pc =>
      have := pc.left_pos
      simp only [ConsumerPc.left]
      omega
  | markDialing | markReconnecting => simp [ConsumerPc.left, LoopRank.done]
  | _ => simp [ConsumerPc.left]

theorem startListener_left {call call' : StartCall} {answer fresh} {n : Nat}
    (stepped : startListener l call answer = some (l', call', fresh))
    (size : l.concurrency.toNat = n) :
    if answer.isCancel then call'.pc = call.pc else call'.pc.left n < call.pc.left n := by
  cases answer with
  | cancel e =>
      simp only [startListener] at stepped
      obtain ⟨-, rfl, -⟩ := stepped
      rfl
  | go =>
      simp only [startListener] at stepped
      simp only [ListenerAnswer.isCancel, Bool.false_eq_true, if_false]
      cases here : call.pc with
      | begin =>
          simp only [here] at stepped
          split at stepped
          · obtain ⟨-, rfl, -⟩ := stepped
            simp [StartPc.left]
          · split at stepped <;> obtain ⟨-, rfl, -⟩ := stepped <;> simp [StartPc.left]
      | launch next =>
          simp only [here] at stepped
          split at stepped
          · obtain ⟨-, rfl, -⟩ := stepped
            simp only [StartPc.left]
            omega
          · obtain ⟨-, rfl, -⟩ := stepped
            simp only [StartPc.left]
            omega
      | await =>
          simp only [here] at stepped
          split at stepped
          · obtain ⟨-, rfl, -⟩ := stepped
            simp [StartPc.left]
          · cases stepped
      | cancelRun | closeDone =>
          simp only [here] at stepped
          obtain ⟨-, rfl, -⟩ := stepped
          simp [StartPc.left]
      | returned | rejected =>
          simp only [here] at stepped
          cases stepped
  | _ => cases stepped

theorem StopStep.left {pc pc'} (step : StopStep l pc l' pc') : pc'.left < pc.left := by
  cases step <;> simp [StopPc.left]

theorem listenerHealthProber_left {pc pc' answer}
    (stepped : listenerHealthProber l pc answer = some pc') :
    pc'.left l.states.length < pc.left l.states.length := by
  unfold listenerHealthProber at stepped
  split at stepped
  · cases stepped
    simp [ListenerProbePc.left]
  · rename_i details
    split at stepped
    · cases stepped
      simp [ListenerProbePc.left]
    · rename_i found
      cases stepped
      have inside := (List.getElem?_eq_some_iff.mp found).1
      simp only [ListenerProbePc.left, List.length_append, List.length_singleton]
      omega
  · cases stepped

theorem listenerProgram_left {t t' : ListenerThread} {answer fresh}
    (stepped : listenerProgram.step l t answer = some (l', t', fresh))
    (size : l.states.length = l.concurrency.toNat) (stopped : l.runCtx.isSome = true) :
    t'.left l.states.length < t.left l.states.length ∨
      answer.isCancel = true ∧ t'.left l.states.length = t.left l.states.length := by
  cases t with
  | start call =>
      obtain ⟨⟨l₁, call', started⟩, moved, same⟩ := Option.map_eq_some_iff.mp stepped
      obtain ⟨rfl, rfl, rfl⟩ := same
      have left := startListener_left moved size.symm
      split at left
      · exact .inr ⟨‹_›, congrArg (StartPc.left _) left⟩
      · exact .inl left
  | consumer k =>
      obtain ⟨⟨l₁, k'⟩, moved, same⟩ := Option.map_eq_some_iff.mp stepped
      obtain ⟨rfl, rfl, rfl⟩ := same
      exact .inl ((runConsumer_step moved).left stopped)
  | probe pc =>
      obtain ⟨pc', moved, same⟩ := Option.map_eq_some_iff.mp stepped
      obtain ⟨rfl, rfl, rfl⟩ := same
      exact .inl (listenerHealthProber_left moved)
  | close pc =>
      obtain ⟨⟨l₁, pc'⟩, moved, same⟩ := Option.map_eq_some_iff.mp stepped
      obtain ⟨rfl, rfl, rfl⟩ := same
      exact .inl (closeListener_step moved).left

end Steps

/-- A running listener with `n` slots whose context is done. -/
structure Stopped (n : Nat) (c : ListenerConfig) : Prop where
  protocol : ProtocolInv c
  size : c.shared.states.length = n
  started : c.shared.started = true
  done : c.shared.runCtx.isSome = true

theorem Stopped.next {n : Nat} {c c' : ListenerConfig} {m : ListenerMove} (stopped : Stopped n c)
    (moved : listenerProgram.next c m = some c') : Stopped n c' := by
  refine ⟨stopped.protocol.next moved, ?_, ?_, ?_⟩ <;>
    obtain ⟨r, -, rfl⟩ | ⟨i, answer, t, l, t', fresh, -, -, step, rfl⟩ := listener_cases moved
  · exact stopped.size
  · exact step.size.1.trans stopped.size
  · exact stopped.started
  · exact step.stays_started stopped.started
  · exact stopped.done
  · exact step.context.2 stopped.started stopped.done

/-- The steps of all threads of a stopped listener. -/
def stopCountdown (n : Nat) : Countdown listenerProgram where
  Fixed := Stopped n
  Counted _ := True
  idle := ListenerAnswer.isCancel
  left := ListenerThread.left n
  stays moved stopped := stopped.next moved
  kept _ _ _ := trivial
  idles stepped stopped _ _ := by
    rw [← stopped.size]
    obtain less | ⟨-, same⟩ := listenerProgram_left stepped stopped.protocol.size stopped.done
    · exact less.le
    · exact same.le
  counts stepped stopped _ running := by
    rw [← stopped.size]
    obtain less | ⟨idle, -⟩ := listenerProgram_left stepped stopped.protocol.size stopped.done
    · exact less
    · rw [idle] at running
      cases running

/-- The most steps that a thread of a stopped listener makes. -/
def ListenerThread.mostSteps (n : Nat) : ListenerThread → Nat
  | .start _ => n + 5
  | .consumer _ => 11
  | .probe _ => n + 2
  | .close _ => 3

theorem ListenerThread.left_le (n : Nat) (t : ListenerThread) : t.left n ≤ t.mostSteps n := by
  cases t with
  | start call =>
      cases here : call.pc <;> simp only [left, here, StartPc.left, mostSteps] <;> omega
  | consumer k =>
      cases here : k.pc with
      | dialing pc | reconnect pc =>
          cases pc <;> simp [left, here, ConsumerPc.left, mostSteps, LoopRank.done]
      | consume pc => cases pc <;> simp [left, here, ConsumerPc.left, ConsumePc.left, mostSteps]
      | _ => simp [left, here, ConsumerPc.left, mostSteps]
  | probe pc => cases pc <;> simp only [left, ListenerProbePc.left, mostSteps] <;> omega
  | close pc => cases pc <;> simp [left, StopPc.left, mostSteps]

/-! ## Threads that can go on -/

section Enabled

variable {c c' : ListenerConfig} {l l' : Listener} {k k' : Consumer} {t : ListenerThread} {i : Nat}

theorem ConsumerStep.live_nodup {pc} (step : ConsumerStep l k pc l' k')
    (distinct : l.live.Nodup) : l'.live.Nodup := by
  cases step with
  | dialed _ changed | reconnecting _ changed | reconnected _ changed | reconnectFailed _ changed
  | closeConn changed => exact relive_nodup distinct changed
  | consuming inner | consumed inner =>
      obtain ⟨⟨heap, rfl⟩, -⟩ := inner.frame
      exact distinct
  | _ => exact distinct

theorem live_nodup_next {m : ListenerMove} (distinct : c.shared.live.Nodup)
    (moved : listenerProgram.next c m = some c') : c'.shared.live.Nodup := by
  obtain ⟨r, -, rfl⟩ | ⟨i, answer, t, l, t', fresh, -, -, step, rfl⟩ := listener_cases moved
  · exact distinct
  · cases step with
    | start inner => exact inner.sameConsumers.live ▸ distinct
    | consumer inner => exact inner.live_nodup distinct
    | probe => exact distinct
    | close inner => exact inner.sameConsumers.live ▸ distinct

theorem live_nodup_run {ms : List ListenerMove} (distinct : c.shared.live.Nodup)
    (run : listenerProgram.exec c ms = some c') : c'.shared.live.Nodup := by
  have keep : ∀ (c : ListenerConfig) m c', c.shared.live.Nodup → True →
      listenerProgram.next c m = some c' → c'.shared.live.Nodup :=
    fun _ _ _ distinct _ moved => live_nodup_next distinct moved
  exact Program.exec_invariant keep distinct (Program.meets_true ms) run

theorem newListener_live_nodup {client : ClientConfig} {queueName : String}
    {opts : List ListenerOption} {ms : List ListenerMove}
    (run : listenerProgram.exec ⟨newListener client queueName opts, []⟩ ms = some c) :
    c.shared.live.Nodup := by
  refine live_nodup_run ?_ run
  obtain ⟨cfg, queue, concurrency, maxRetries, onError, same⟩ :=
    newListener_fresh client queueName opts
  simp [same, Listener.initStates]

def ListenerThread.Over : ListenerThread → Prop
  | .start call => (∃ err, call.pc = .returned err) ∨ ∃ err, call.pc = .rejected err
  | .consumer k => ∃ ret, k.pc = .exited ret
  | .probe pc => ∃ details, pc = .returned details
  | .close pc => pc = .returned ∨ pc = .repeated

/-- Thread `i` can make a step of its own. -/
def ListenerCanStep (c : ListenerConfig) (i : Nat) : Prop :=
  listenerProgram.CanStep ListenerAnswer.isCancel c i

theorem ListenerCanStep.of_step (answer : ListenerAnswer) (found : c.threads[i]? = some t)
    (own : answer.isCancel = false) (enabled : (t.step c.shared answer).isSome) :
    ListenerCanStep c i :=
  Program.CanStep.of_step found own enabled

theorem ListenerCanStep.consumer (answer : ListenerAnswer)
    (found : c.threads[i]? = some (.consumer k)) (own : answer.isCancel = false)
    (enabled : (runConsumer c.shared k answer).isSome) : ListenerCanStep c i := by
  refine .of_step answer found own ?_
  simpa [ListenerThread.step] using enabled

theorem canStep_consume {pc : ConsumePc} (found : c.threads[i]? = some (.consumer k))
    (here : k.pc = .consume pc) : ListenerCanStep c i := by
  have enabled : ∀ answer, answer.isCancel = false → (consumeLoop c.shared k pc answer).isSome →
      ListenerCanStep c i := by
    intro answer own enabled
    refine .consumer answer found own ?_
    simp only [runConsumer, here]
    obtain ⟨⟨l', k', out⟩, moved⟩ := Option.isSome_iff_exists.mp enabled
    rw [moved]
    obtain pc' | err := out <;> rfl
  cases pc with
  | openQueue => exact enabled (.opened none) rfl rfl
  | poll => exact enabled .go rfl rfl
  | get => exact enabled (.getFailed ErrConnectionFailed) rfl rfl
  | got => exact enabled .go rfl rfl
  | handling => exact enabled (.handled .ok) rfl rfl
  | reporting => exact enabled (.callback false) rfl rfl

/-- Nothing keeps a consumer from going on. -/
theorem canStep_consumer (distinct : c.shared.live.Nodup)
    (found : c.threads[i]? = some (.consumer k)) (running : ∀ ret, k.pc ≠ .exited ret) :
    ListenerCanStep c i := by
  have going : (runConsumer c.shared k .go).isSome → ListenerCanStep c i :=
    .consumer .go found rfl
  cases here : k.pc with
  | dialing pc =>
      obtain ⟨answer, out, looped, failed⟩ :=
        newConnectionWithRetry_goesOn c.shared.dialConfig c.shared.runCtx pc
      refine .consumer (.loop answer) found rfl ?_
      simp only [runConsumer, here, looped]
      obtain pc' | err | x := out
      · rfl
      · rfl
      · exact absurd rfl (failed x)
  | consume pc => exact canStep_consume found here
  | reconnect pc =>
      obtain ⟨answer, x, out, looped, same⟩ :=
        k.conn.reconnect_goesOn c.shared.dialConfig c.shared.runCtx pc
      refine .consumer (.loop answer) found rfl ?_
      simp only [runConsumer, here, looped, Option.isSome_map]
      exact relive_isSome distinct same
  | closeConn ret =>
      refine .consumer (.disced none) found rfl ?_
      simp only [runConsumer, here, Option.isSome_map]
      exact relive_isSome distinct (.inl rfl)
  | loopReturned err =>
      refine going ?_
      cases err <;> simp [runConsumer, here]
  | markFinal ret =>
      refine going ?_
      cases ret with
      | none => simp [runConsumer, here]
      | some err =>
          simp only [runConsumer, here]
          split <;> rfl
  | finalCallback err =>
      refine .consumer (.callback false) found rfl ?_
      simp [runConsumer, here]
  | entry | markDialing | dialFailed | markConnected | loopTop | markReconnecting | reconnectFailed
  | markReconnected | sendErr | wgDone => exact going (by simp [runConsumer, here])
  | exited ret => exact absurd here (running ret)

/-- `Start` waits only for consumers that can go on. -/
theorem canStep_start {call : StartCall} (inv : ProtocolInv c) (distinct : c.shared.live.Nodup)
    (found : c.threads[i]? = some (.start call)) (running : ¬(ListenerThread.start call).Over) :
    ∃ j, ListenerCanStep c j := by
  have going : (startListener c.shared call .go).isSome → ∃ j, ListenerCanStep c j :=
    fun enabled => ⟨i, .of_step .go found rfl (by simpa [ListenerThread.step] using enabled)⟩
  cases here : call.pc with
  | begin =>
      refine going ?_
      simp only [startListener, here]
      split
      · rfl
      · split <;> rfl
  | launch next =>
      refine going ?_
      simp only [startListener, here]
      split <;> rfl
  | await =>
      by_cases waited : c.shared.wg = 0
      · exact going (by simp [startListener, here, waited])
      · have nonneg := tally_nonneg ListenerThread.runs_nonneg c.threads
        rw [inv.wg] at waited
        obtain ⟨u, member, runs⟩ := exists_of_tally_pos (lt_of_le_of_ne nonneg (Ne.symm waited))
        obtain ⟨j, at_j⟩ := List.mem_iff_getElem?.mp member
        cases u with
        | consumer k =>
            refine ⟨j, canStep_consumer distinct at_j fun ret exited => ?_⟩
            simp [ListenerThread.runs, exited, ConsumerPc.running] at runs
        | start | probe | close => exact absurd runs (lt_irrefl 0)
  | cancelRun | closeDone => exact going (by simp [startListener, here])
  | returned err => exact absurd (.inl ⟨err, here⟩) running
  | rejected err => exact absurd (.inr ⟨err, here⟩) running

/-- `close` waits only for the admitted `Start`. -/
theorem canStep_close {pc : StopPc} (inv : ProtocolInv c) (distinct : c.shared.live.Nodup)
    (found : c.threads[i]? = some (.close pc)) (unfinished : ¬(ListenerThread.close pc).Over) :
    ∃ j, ListenerCanStep c j := by
  have going : (closeListener c.shared pc .go).isSome → ∃ j, ListenerCanStep c j :=
    fun enabled => ⟨i, .of_step .go found rfl (by simpa [ListenerThread.step] using enabled)⟩
  cases pc with
  | begin =>
      refine going ?_
      simp only [closeListener]
      split <;> rfl
  | cancelRun => exact going rfl
  | await running =>
      by_cases waits : running = true ∧ c.shared.doneClosed = false
      · have agrees : running = c.shared.started := inv.agrees _ (List.mem_of_getElem? found)
        obtain ⟨call, member, admitted⟩ := inv.exists_admitted (agrees ▸ waits.1)
        obtain ⟨j, at_j⟩ := List.mem_iff_getElem?.mp member
        refine canStep_start inv distinct at_j ?_
        rintro (⟨err, returned⟩ | ⟨err, rejected⟩)
        · have done := inv.done.mpr ⟨_, member, err, returned⟩
          simp [done] at waits
        · simp [rejected, StartPc.admitted] at admitted
      · refine going ?_
        rw [closeListener, if_neg waits]
        rfl
  | returned => exact absurd (.inl rfl) unfinished
  | repeated => exact absurd (.inr rfl) unfinished

theorem listener_canStep (inv : ProtocolInv c) (distinct : c.shared.live.Nodup)
    (found : c.threads[i]? = some t) (running : ¬t.Over) : ∃ j, ListenerCanStep c j := by
  cases t with
  | start call => exact canStep_start inv distinct found running
  | consumer k =>
      exact ⟨i, canStep_consumer distinct found fun ret exited => running ⟨ret, exited⟩⟩
  | close pc => exact canStep_close inv distinct found running
  | probe pc =>
      refine ⟨i, .of_step .go found rfl ?_⟩
      cases pc with
      | snapshot => rfl
      | scan closed details =>
          simp only [ListenerThread.step, listenerHealthProber, Option.isSome_map]
          split <;> rfl
      | returned details => exact absurd ⟨details, rfl⟩ running

end Enabled

/-! ## The stop -/

/-- A message is on its way to the handler. -/
def ConsumerPc.toHand : ConsumerPc → Nat
  | .consume .get | .consume (.got _ _) => 1
  | _ => 0

theorem closeHandOff_length (outcome : HandlerOutcome) (handed : List HandOff) :
    (closeHandOff outcome handed).length = handed.length := by
  have same := congrArg List.length (closeHandOff_msg outcome handed)
  simpa using same

theorem ConsumerStep.handed {l l' : Listener} {k k' : Consumer} {pc}
    (step : ConsumerStep l k pc l' k') (stopped : l.runCtx.isSome = true) :
    k'.handed.length + k'.pc.toHand ≤ k.handed.length + pc.toHand := by
  cases step with
  | consuming inner =>
      cases inner with
      | polled live => simp [live] at stopped
      | _ => simp [ConsumerPc.toHand, closeHandOff_length]
  | consumed inner => cases inner <;> simp [ConsumerPc.toHand]
  | _ => simp [ConsumerPc.toHand]

theorem ConsumerPc.toHand_le (pc : ConsumerPc) : pc.toHand ≤ 1 := by
  unfold toHand
  split <;> omega

theorem consumer_run {c c' : ListenerConfig} {ms : List ListenerMove} {i : Nat} {k : Consumer}
    (found : c.threads[i]? = some (.consumer k)) (run : listenerProgram.exec c ms = some c') :
    ∃ k', c'.threads[i]? = some (.consumer k') := by
  have own : ∀ l t a l' t' fresh, (∃ k, t = ListenerThread.consumer k) →
      listenerProgram.step l t a = some (l', t', fresh) → ∃ k, t' = .consumer k := by
    rintro l _ a l' t' fresh ⟨k, rfl⟩ stepped
    cases listenerProgram_step stepped with
    | consumer => exact ⟨_, rfl⟩
  obtain ⟨_, at_i, k', rfl⟩ := Program.exec_thread own ⟨_, found, k, rfl⟩ run
  exact ⟨k', at_i⟩

def ListenerThread.HandsAtMost (b : Nat) : ListenerThread → Prop
  | .consumer k => k.handed.length + k.pc.toHand ≤ b
  | .start _ | .probe _ | .close _ => True

/-- In a stopped listener a bound on what a consumer hands over stays one, and a consumer that
    is started then hands over nothing. -/
theorem handed_run {c c' : ListenerConfig} {ms : List ListenerMove} {i : Nat} (b : Nat)
    (started : c.shared.started = true) (stopped : c.shared.runCtx.isSome = true)
    (here : ∀ t, c.threads[i]? = some t → t.HandsAtMost b)
    (run : listenerProgram.exec c ms = some c') :
    ∀ t, c'.threads[i]? = some t → t.HandsAtMost b := by
  have keep : ∀ (l : Listener) t a l' t' fresh, (l.started = true ∧ l.runCtx.isSome = true) →
      listenerProgram.step l t a = some (l', t', fresh) →
      (l'.started = true ∧ l'.runCtx.isSome = true) ∧
      (∀ u : ListenerThread, u.HandsAtMost b → u.HandsAtMost b) ∧
      (t.HandsAtMost b → t'.HandsAtMost b) ∧ ∀ u ∈ fresh, u.HandsAtMost b := by
    rintro l t a l' t' fresh ⟨started, stopped⟩ stepped
    have step := listenerProgram_step stepped
    refine ⟨⟨step.stays_started started, step.context.2 started stopped⟩, fun _ few => few, ?_, ?_⟩
    · intro few
      cases step with
      | consumer inner => exact (inner.handed stopped).trans few
      | start | probe | close => trivial
    · intro u new
      obtain ⟨next, rfl⟩ := step.fresh_new new
      exact Nat.zero_le b
  exact Program.exec_position (fun _ r _ => by cases r <;> trivial) keep ⟨started, stopped⟩ here run

/-- A stopped listener between `mid` and `c`. -/
structure ComesToRest (mid : ListenerConfig) (rest : List ListenerMove) (c : ListenerConfig) :
    Prop where
  steps : ∀ (i : Nat) t, c.threads[i]? = some t →
    stepsOf ListenerAnswer.isCancel i rest ≤ t.mostSteps mid.shared.states.length
  handed : ∀ (i : Nat) k, mid.threads[i]? = some (.consumer k) →
    ∃ k', c.threads[i]? = some (.consumer k') ∧ k'.handed.length ≤ k.handed.length + 1
  late : ∀ (i : Nat) k, mid.threads.length ≤ i → c.threads[i]? = some (.consumer k) → k.handed = []
  goesOn : (∀ t ∈ c.threads, t.Over) ∨ ∃ i, ListenerCanStep c i

/-- Once the context of a running listener is done, each of its threads makes only a fixed
    number of steps more, a consumer hands over one message more at most and none if it was
    started later, and some thread can go on until `Start`, `close` and all consumers have
    ended. -/
theorem listener_stops (client : ClientConfig) (queueName : String) (opts : List ListenerOption)
    (ms rest : List ListenerMove) (mid c : ListenerConfig)
    (run : listenerProgram.exec ⟨newListener client queueName opts, []⟩ ms = some mid)
    (started : mid.shared.started = true) (stopped : mid.shared.runCtx.isSome = true)
    (goesOn : listenerProgram.exec mid rest = some c) : ComesToRest mid rest c := by
  have protocol := (ProtocolInv.start client queueName opts).run run
  have fixed : Stopped mid.shared.states.length mid := ⟨protocol, rfl, started, stopped⟩
  constructor
  case steps =>
    intro i t found
    refine (stopCountdown _).steps_le_bound (fun _ => trivial) ?_
      (fun t _ => t.left_le _) fixed (fun _ _ => trivial) goesOn found
    intro l t answer l' t' fresh stepped
    refine ⟨?_, fun _ _ => trivial⟩
    cases listenerProgram_step stepped <;> rfl
  case handed =>
    intro i k found
    obtain ⟨k', at_i⟩ := consumer_run found goesOn
    have few := handed_run (k.handed.length + k.pc.toHand) started stopped
      (by rintro t at_i; cases found.symm.trans at_i; exact le_rfl) goesOn _ at_i
    have := k.pc.toHand_le
    simp only [ListenerThread.HandsAtMost] at few
    exact ⟨k', at_i, by omega⟩
  case late =>
    intro i k new found
    have none : mid.threads[i]? = none := List.getElem?_eq_none new
    have few := handed_run 0 started stopped (by simp [none]) goesOn _ found
    exact List.eq_nil_of_length_eq_zero (Nat.eq_zero_of_add_eq_zero_right (Nat.le_zero.mp few))
  case goesOn =>
    by_contra stuck
    push Not at stuck
    obtain ⟨⟨t, member, running⟩, still⟩ := stuck
    obtain ⟨i, found⟩ := List.mem_iff_getElem?.mp member
    have distinct := newListener_live_nodup (Program.exec_trans run goesOn)
    obtain ⟨j, canStep⟩ := listener_canStep (protocol.run goesOn) distinct found running
    exact still j canStep

/-- The listener is closed while its consumer waits for a message. -/
def closedInGet : List ListenerMove :=
  [.call (.start none none), .act 0 .go, .act 0 .go, .act 0 .go, .act 1 .go, .act 1 .go,
    .act 1 (.loop .check), .act 1 (.loop (.dialed (.ok 7))), .act 1 .go, .act 1 .go,
    .act 1 (.opened none), .act 1 .go, .call .close, .act 2 .go, .act 2 .go]

/-- The message comes and is the last. -/
def handsOverLast : List ListenerMove :=
  [.act 1 (.got {} [1]), .act 1 .go, .act 1 (.handled .ok), .act 1 .go, .act 1 .go,
    .act 1 (.disced none), .act 1 .go, .act 1 .go, .act 0 .go, .act 0 .go, .act 0 .go, .act 2 .go]

theorem listener_stops_handsOverLast :
    ∃ mid c k, listenerProgram.exec
        ⟨newListener .minimal "IN" [.withListenerConcurrency 1], []⟩ closedInGet = some mid ∧
      listenerProgram.exec mid handsOverLast = some c ∧ c.threads[1]? = some (.consumer k) ∧
      k.handed.length = 1 ∧ ComesToRest mid handsOverLast c :=
  ⟨_, _, _, rfl, rfl, rfl, rfl, listener_stops .minimal "IN" [.withListenerConcurrency 1]
    closedInGet handsOverLast _ _ rfl rfl rfl rfl⟩

end CommonsMQ
