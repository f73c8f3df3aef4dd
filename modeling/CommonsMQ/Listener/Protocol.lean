import CommonsMQ.Listener.Steps

/-! # The start/close protocol of a Listener

`started` admits one call of `Start` and `closed` one call of `close`; `wg` counts
the consumers that have not exited, and each handle that is live belongs to one of
them. `close` waits for the admitted `Start`, which waits for the consumers, so
after `close` nothing of the listener is left running.
-/

namespace CommonsMQ

open Interleave

def ConsumerPc.running : ConsumerPc → ℤ
  | .exited _ => 0
  | _ => 1

theorem ConsumerPc.running_nonneg (pc : ConsumerPc) : 0 ≤ pc.running := by
  cases pc <;> simp [running]

/-- Between a successful dial and the deferred `Close`. -/
def ConsumerPc.attached : ConsumerPc → Bool
  | .markConnected | .loopTop | .consume _ | .loopReturned _ | .markReconnecting | .reconnect _
  | .reconnectFailed _ | .markReconnected | .closeConn _ => true
  | .entry | .markDialing | .dialing _ | .dialFailed _ | .markFinal _ | .finalCallback _
  | .sendErr _ | .wgDone _ | .exited _ => false

/-- How many of `n` consumers have been launched. -/
def StartPc.launched (n : Nat) : StartPc → Nat
  | .begin | .rejected _ => 0
  | .launch next => next
  | .await | .cancelRun _ | .closeDone _ | .returned _ => n

/-- The value to be returned, once all consumers have exited. -/
def StartPc.result : StartPc → Option (Option GoError)
  | .cancelRun err | .closeDone err | .returned err => some err
  | .begin | .rejected _ | .launch _ | .await => none

namespace ListenerThread

def admits : ListenerThread → ℤ
  | .start call => flag call.pc.admitted
  | _ => 0

/-- The call of `close` that found `closed` unset. -/
def stops : ListenerThread → ℤ
  | .close .begin | .close .repeated => 0
  | .close _ => 1
  | _ => 0

def runs : ListenerThread → ℤ
  | .consumer k => k.pc.running
  | _ => 0

def slot : ListenerThread → Option Nat
  | .consumer k => some k.idx
  | _ => none

def owns (handle : Handle) : ListenerThread → ℤ
  | .consumer k => k.conn.owns handle
  | _ => 0

theorem admits_nonneg (t : ListenerThread) : 0 ≤ t.admits := by
  cases t with
  | start call => cases admitted : call.pc.admitted <;> simp [admits, admitted]
  | consumer | probe | close => exact le_rfl

theorem admitted_of_admits {call : StartCall} (admits : (ListenerThread.start call).admits ≠ 0) :
    call.pc.admitted = true := by
  by_contra outside
  rw [Bool.not_eq_true] at outside
  exact admits (by rw [ListenerThread.admits, outside, flag_false])

theorem stops_nonneg (t : ListenerThread) : 0 ≤ t.stops := by
  unfold stops
  split <;> omega

theorem runs_nonneg (t : ListenerThread) : 0 ≤ t.runs := by
  cases t with
  | consumer k => exact k.pc.running_nonneg
  | start | probe | close => exact le_rfl

theorem owns_nonneg (handle : Handle) (t : ListenerThread) : 0 ≤ t.owns handle := by
  cases t with
  | consumer k => exact k.conn.owns_nonneg handle
  | start | probe | close => exact le_rfl

end ListenerThread

/-- The consumers that exist or have existed, by slot. -/
def slots (threads : List ListenerThread) : List Nat := threads.filterMap ListenerThread.slot

/-! ## What each kind of step leaves alone -/

/-- A consumer's step leaves the protocol's flags, the context and the settings alone. -/
structure Listener.SameRun (l l' : Listener) : Prop where
  cfg : l'.cfg = l.cfg
  runSpan : l'.runSpan = l.runSpan
  concurrency : l'.concurrency = l.concurrency
  onError : l'.onError = l.onError
  started : l'.started = l.started
  closed : l'.closed = l.closed
  runCtx : l'.runCtx = l.runCtx
  doneClosed : l'.doneClosed = l.doneClosed
  length : l'.states.length = l.states.length

/-- `Start` and `close` leave alone what the consumers work on. -/
structure Listener.SameConsumers (l l' : Listener) : Prop where
  cfg : l'.cfg = l.cfg
  concurrency : l'.concurrency = l.concurrency
  onError : l'.onError = l.onError
  states : l'.states = l.states
  errs : l'.errs = l.errs
  heap : l'.heap = l.heap
  live : l'.live = l.live

section Steps

variable {l l' : Listener} {k k' : Consumer} {t t' : ListenerThread} {fresh : List ListenerThread}

theorem ConsumeStep.frame {pc out} (step : ConsumeStep l k pc l' k' out) :
    (∃ heap, l' = { l with heap := heap }) ∧ k'.idx = k.idx ∧ k'.conn = k.conn := by
  cases step <;> exact ⟨⟨_, rfl⟩, rfl, rfl⟩

theorem ConsumerStep.idx {pc} (step : ConsumerStep l k pc l' k') : k'.idx = k.idx := by
  cases step with
  | consuming inner | consumed inner => exact inner.frame.2.1
  | _ => rfl

theorem ConsumerStep.sameRun {pc} (step : ConsumerStep l k pc l' k') : l.SameRun l' := by
  cases step with
  | consuming inner | consumed inner =>
      obtain ⟨⟨heap, rfl⟩, -⟩ := inner.frame
      exact ⟨rfl, rfl, rfl, rfl, rfl, rfl, rfl, rfl, rfl⟩
  | markDialing | markConnected | markReconnecting | markReconnected | markStopped | markFailed
  | markFailedSilently =>
      exact ⟨rfl, rfl, rfl, rfl, rfl, rfl, rfl, rfl, List.length_set⟩
  | _ => exact ⟨rfl, rfl, rfl, rfl, rfl, rfl, rfl, rfl, rfl⟩

/-- Only a consumer that has not exited takes steps. -/
theorem ConsumerStep.running {pc} (step : ConsumerStep l k pc l' k') : pc.running = 1 := by
  cases step <;> rfl

theorem ConsumerStep.wg {pc} (step : ConsumerStep l k pc l' k') :
    l'.wg - l.wg = k'.pc.running - pc.running := by
  cases step with
  | consuming inner | consumed inner =>
      obtain ⟨⟨heap, rfl⟩, -⟩ := inner.frame
      simp [ConsumerPc.running]
  | wgDone =>
      simp only [ConsumerPc.running]
      omega
  | _ => simp [ConsumerPc.running, Listener.setConsumerState]

/-- A launching step starts one consumer, in the next slot. -/
theorem StartStep.fresh_cases {call call' : StartCall} {pc fresh}
    (step : StartStep l call pc l' call' fresh) :
    fresh = [] ∧ l'.wg = l.wg ∨
      ∃ next : Nat, pc = .launch next ∧ (next : Int) < l.concurrency ∧ fresh = [{ idx := next }] ∧
        call'.pc = .launch (next + 1) ∧ l'.wg = l.wg + 1 := by
  cases step with
  | launch below => exact .inr ⟨_, rfl, below, rfl, rfl, rfl⟩
  | _ => exact .inl ⟨rfl, rfl⟩

theorem StartStep.closed_eq {call call' : StartCall} {pc fresh}
    (step : StartStep l call pc l' call' fresh) : l'.closed = l.closed := by
  cases step <;> rfl

theorem StartStep.sameConsumers {call call' : StartCall} {pc fresh}
    (step : StartStep l call pc l' call' fresh) : l.SameConsumers l' := by
  cases step <;> exact ⟨rfl, rfl, rfl, rfl, rfl, rfl, rfl⟩

theorem StopStep.sameConsumers {pc pc'} (step : StopStep l pc l' pc') : l.SameConsumers l' := by
  cases step <;> exact ⟨rfl, rfl, rfl, rfl, rfl, rfl, rfl⟩

theorem StopStep.sameStart {pc pc'} (step : StopStep l pc l' pc') :
    l'.started = l.started ∧ l'.wg = l.wg ∧ l'.doneClosed = l.doneClosed := by
  cases step <;> exact ⟨rfl, rfl, rfl⟩

theorem StartStep.started {call call' : StartCall} {pc fresh}
    (step : StartStep l call pc l' call' fresh) :
    flag l'.started - flag l.started = flag call'.pc.admitted - flag pc.admitted := by
  cases step with
  | admitted _ unset => simp [StartPc.admitted, unset]
  | cancelled | cancelledOutside => simp
  | _ => simp [StartPc.admitted]

theorem StartStep.monotone {call call' : StartCall} {pc fresh}
    (step : StartStep l call pc l' call' fresh) :
    (l.closed = true → l'.started = l.started) ∧ (l.started = true → l'.started = true) ∧
      (l.doneClosed = true → l'.doneClosed = true) := by
  cases step with
  | admitted unset => exact ⟨fun closed => by simp [closed] at unset, fun _ => rfl, id⟩
  | closeDone => exact ⟨fun _ => rfl, id, fun _ => rfl⟩
  | _ => exact ⟨fun _ => rfl, id, id⟩

theorem tally_consumers {f : ListenerThread → ℤ} (zero : ∀ k, f (.consumer k) = 0)
    (fresh : List Consumer) : tally f (fresh.map .consumer) = 0 := by
  apply tally_eq_zero
  intro t member
  obtain ⟨k, -, rfl⟩ := List.mem_map.mp member
  exact zero k

theorem ListenerStep.started (step : ListenerStep l t l' t' fresh) :
    flag l'.started - flag l.started =
      t'.admits - t.admits + tally ListenerThread.admits fresh := by
  cases step with
  | start inner =>
      rw [tally_consumers (fun _ => rfl), add_zero]
      exact inner.started
  | consumer inner => simp [ListenerThread.admits, inner.sameRun.started]
  | probe => simp [ListenerThread.admits]
  | close inner => simp [ListenerThread.admits, inner.sameStart.1]

theorem ListenerStep.closed (step : ListenerStep l t l' t' fresh) :
    flag l'.closed - flag l.closed = t'.stops - t.stops + tally ListenerThread.stops fresh := by
  cases step with
  | start inner =>
      rw [tally_consumers (fun _ => rfl), inner.closed_eq]
      simp [ListenerThread.stops]
  | consumer inner => simp [ListenerThread.stops, inner.sameRun.closed]
  | probe => simp [ListenerThread.stops]
  | close inner =>
      cases inner with
      | begin unset => simp [ListenerThread.stops, unset]
      | _ => simp [ListenerThread.stops]

theorem ListenerStep.wg (step : ListenerStep l t l' t' fresh) :
    l'.wg - l.wg = t'.runs - t.runs + tally ListenerThread.runs fresh := by
  cases step with
  | start inner =>
      obtain ⟨rfl, wg⟩ | ⟨next, -, -, rfl, -, wg⟩ := inner.fresh_cases
      · simp [ListenerThread.runs, wg]
      · simp [ListenerThread.runs, wg, ConsumerPc.running]
  | consumer inner => simpa [ListenerThread.runs] using inner.wg
  | probe => simp [ListenerThread.runs]
  | close inner => simp [ListenerThread.runs, inner.sameStart.2.1]

theorem ListenerStep.size (step : ListenerStep l t l' t' fresh) :
    l'.states.length = l.states.length ∧ l'.concurrency = l.concurrency := by
  cases step with
  | start inner => exact ⟨congrArg _ inner.sameConsumers.states, inner.sameConsumers.concurrency⟩
  | consumer inner => exact ⟨inner.sameRun.length, inner.sameRun.concurrency⟩
  | probe => exact ⟨rfl, rfl⟩
  | close inner => exact ⟨congrArg _ inner.sameConsumers.states, inner.sameConsumers.concurrency⟩

theorem ListenerStep.slot (step : ListenerStep l t l' t' fresh) : t'.slot = t.slot := by
  cases step with
  | consumer inner => exact congrArg some inner.idx
  | start | probe | close => rfl

/-- Nobody is admitted after `closed` has been set. -/
theorem ListenerStep.started_of_closed (step : ListenerStep l t l' t' fresh)
    (closed : l.closed = true) : l'.started = l.started := by
  cases step with
  | start inner => exact inner.monotone.1 closed
  | consumer inner => exact inner.sameRun.started
  | probe => rfl
  | close inner => exact inner.sameStart.1

theorem ListenerStep.stays_started (step : ListenerStep l t l' t' fresh)
    (started : l.started = true) : l'.started = true := by
  cases step with
  | start inner => exact inner.monotone.2.1 started
  | consumer inner => exact inner.sameRun.started.trans started
  | probe => exact started
  | close inner => exact inner.sameStart.1.trans started

theorem ListenerStep.stays_done (step : ListenerStep l t l' t' fresh)
    (done : l.doneClosed = true) : l'.doneClosed = true := by
  cases step with
  | start inner => exact inner.monotone.2.2 done
  | consumer inner => exact inner.sameRun.doneClosed.trans done
  | probe => exact done
  | close inner => exact inner.sameStart.2.2.trans done

/-- Only the admitted `Start` launches. -/
theorem ListenerStep.fresh_nil (step : ListenerStep l t l' t' fresh) (outside : t.admits = 0) :
    fresh = [] := by
  cases step with
  | start inner =>
      obtain ⟨rfl, -⟩ | ⟨next, here, -⟩ := inner.fresh_cases
      · rfl
      · simp [ListenerThread.admits, here, StartPc.admitted] at outside
  | consumer | probe | close => rfl

theorem ListenerStep.queue (step : ListenerStep l t l' t' fresh) : l'.queue = l.queue := by
  cases step with
  | start inner =>
      rename_i call _ _
      generalize call.pc = pc at inner
      cases inner <;> rfl
  | consumer inner =>
      rename_i k _
      generalize k.pc = pc at inner
      cases inner with
      | consuming inner | consumed inner => cases inner <;> rfl
      | _ => rfl
  | probe => rfl
  | close inner => cases inner <;> rfl

theorem ListenerStep.fresh_new {u : ListenerThread} (step : ListenerStep l t l' t' fresh)
    (member : u ∈ fresh) : ∃ next, u = .consumer { idx := next } := by
  cases step with
  | start inner =>
      obtain ⟨rfl, -⟩ | ⟨next, -, -, rfl, -⟩ := inner.fresh_cases
      · simp at member
      · exact ⟨next, by simpa using member⟩
  | consumer | probe | close => simp at member

/-- Neither `wg` nor the errors change but by a consumer, or by the `Start` that
    launches one. -/
theorem ListenerStep.settled (step : ListenerStep l t l' t' fresh) (idle : t.runs = 0)
    (outside : t.admits = 0) : l'.wg = l.wg ∧ l'.errs = l.errs := by
  cases step with
  | start inner =>
      obtain ⟨-, wg⟩ | ⟨next, here, -⟩ := inner.fresh_cases
      · exact ⟨wg, inner.sameConsumers.errs⟩
      · simp [ListenerThread.admits, here, StartPc.admitted] at outside
  | consumer inner =>
      have running := inner.running
      simp only [ListenerThread.runs] at idle
      omega
  | probe => exact ⟨rfl, rfl⟩
  | close inner => exact ⟨inner.sameStart.2.1, inner.sameConsumers.errs⟩

end Steps

/-! ## The invariant -/

def ListenerThread.Finished : ListenerThread → Prop
  | .start call => ∃ err, call.pc = .returned err
  | _ => False

/-- What a call of `Start` or `close` may rely on, given the slots launched so far. -/
def Listener.Agrees (l : Listener) (launched : List Nat) : ListenerThread → Prop
  | .start call =>
      (call.pc.admitted = true → launched = List.range (call.pc.launched l.states.length) ∧
        call.pc.launched l.states.length ≤ l.states.length) ∧
      ∀ err, call.pc.result = some err → l.wg = 0 ∧ err = joinErrors l.errs
  | .close (.cancelRun running) | .close (.await running) => running = l.started
  | .close .returned => l.started = true → l.doneClosed = true
  | _ => True

structure ProtocolInv (c : ListenerConfig) : Prop where
  started : flag c.shared.started = tally ListenerThread.admits c.threads
  closed : flag c.shared.closed = tally ListenerThread.stops c.threads
  wg : c.shared.wg = tally ListenerThread.runs c.threads
  size : c.shared.states.length = c.shared.concurrency.toNat
  unlaunched : c.shared.started = false → slots c.threads = []
  agrees : ∀ t ∈ c.threads, c.shared.Agrees (slots c.threads) t
  done : c.shared.doneClosed = true ↔ ∃ t ∈ c.threads, t.Finished

theorem newListener_fresh (client : ClientConfig) (queueName : String)
    (opts : List ListenerOption) :
    ∃ cfg queue concurrency maxRetries onError, newListener client queueName opts =
      Listener.initStates { cfg, queue, concurrency, maxRetries, onError } := by
  unfold newListener
  suffices ∀ l : Listener, (∃ cfg queue concurrency maxRetries onError,
      l = { cfg, queue, concurrency, maxRetries, onError }) →
      ∃ cfg queue concurrency maxRetries onError,
        opts.foldl ListenerOption.apply l = { cfg, queue, concurrency, maxRetries, onError } by
    obtain ⟨cfg, queue, concurrency, maxRetries, onError, same⟩ :=
      this _ ⟨_, _, _, _, _, rfl⟩
    exact ⟨cfg, queue, concurrency, maxRetries, onError, congrArg _ same⟩
  intro l plain
  induction opts generalizing l with
  | nil => exact plain
  | cons opt rest ih =>
      apply ih
      obtain ⟨cfg, queue, concurrency, maxRetries, onError, rfl⟩ := plain
      cases opt with
      | withListenerConcurrency n | withListenerMaxRetries n =>
          simp only [ListenerOption.apply]
          split <;> exact ⟨_, _, _, _, _, rfl⟩
      | withListenerErrorHandler isSet => exact ⟨_, _, _, _, _, rfl⟩

theorem ProtocolInv.start (client : ClientConfig) (queueName : String)
    (opts : List ListenerOption) : ProtocolInv ⟨newListener client queueName opts, []⟩ := by
  obtain ⟨cfg, queue, concurrency, maxRetries, onError, same⟩ :=
    newListener_fresh client queueName opts
  rw [same]
  exact {
    started := rfl
    closed := rfl
    wg := rfl
    size := List.length_replicate
    unlaunched := fun _ => rfl
    agrees := by simp
    done := by simp [Listener.initStates] }

section Keeps

variable {c : ListenerConfig} {l : Listener} {t t' u : ListenerThread}
  {fresh : List ListenerThread} {i j : Nat}

theorem slots_append (threads fresh : List ListenerThread) :
    slots (threads ++ fresh) = slots threads ++ slots fresh :=
  List.filterMap_append

theorem slots_act (found : c.threads[i]? = some t) (step : ListenerStep c.shared t l t' fresh) :
    slots (c.threads.set i t' ++ fresh) = slots c.threads ++ slots fresh := by
  rw [slots_append, slots, filterMap_set_same found step.slot, ← slots]

/-- The consumers after a step: the one that moved, the others, a new one. -/
theorem consumer_after {k : Consumer} (found : c.threads[i]? = some t)
    (step : ListenerStep c.shared t l t' fresh)
    (member : .consumer k ∈ c.threads.set i t' ++ fresh) :
    (∃ k₀, t = .consumer k₀ ∧ ConsumerStep c.shared k₀ k₀.pc l k) ∨
      (∃ j, j ≠ i ∧ c.threads[j]? = some (.consumer k)) ∨
      ∃ next, k = { idx := next } ∧ fresh = [.consumer k] := by
  rcases List.mem_append.mp member with old | new
  · obtain rfl | other := Program.mem_threads_set old
    · cases step with
      | consumer inner => exact .inl ⟨_, rfl, inner⟩
    · exact .inr (.inl other)
  · cases step with
    | start inner =>
        obtain ⟨rfl, -⟩ | ⟨next, -, -, rfl, -⟩ := inner.fresh_cases
        · simp at new
        · obtain rfl : k = { idx := next } := by simpa using new
          exact .inr (.inr ⟨next, rfl, rfl⟩)
    | consumer | probe | close => simp at new

theorem consumer_after_call {k : Consumer} {r : ListenerRequest}
    (member : .consumer k ∈ c.threads ++ [listenerProgram.start r]) :
    .consumer k ∈ c.threads := by
  rcases List.mem_append.mp member with old | new
  · exact old
  · cases r <;> simp [listenerProgram] at new

theorem ProtocolInv.call (inv : ProtocolInv c) (r : ListenerRequest) :
    ProtocolInv ⟨c.shared, c.threads ++ [listenerProgram.start r]⟩ := by
  have same : slots (c.threads ++ [listenerProgram.start r]) = slots c.threads := by
    rw [slots_append]
    cases r <;> simp [slots, listenerProgram, ListenerThread.slot]
  refine ⟨?_, ?_, ?_, inv.size, ?_, ?_, ?_⟩
  · rw [tally_append, inv.started]
    cases r <;> simp [listenerProgram, ListenerThread.admits, StartPc.admitted]
  · rw [tally_append, inv.closed]
    cases r <;> simp [listenerProgram, ListenerThread.stops]
  · rw [tally_append, inv.wg]
    cases r <;> simp [listenerProgram, ListenerThread.runs]
  · intro unset
    exact same.trans (inv.unlaunched unset)
  · intro u member
    rw [same]
    rcases List.mem_append.mp member with old | new
    · exact inv.agrees u old
    · obtain rfl := List.mem_singleton.mp new
      cases r with
      | start => exact ⟨nofun, nofun⟩
      | health | close => trivial
  · rw [inv.done]
    constructor
    · rintro ⟨u, member, finished⟩
      exact ⟨u, List.mem_append_left _ member, finished⟩
    · rintro ⟨u, member, finished⟩
      rcases List.mem_append.mp member with old | new
      · exact ⟨u, old, finished⟩
      · obtain rfl := List.mem_singleton.mp new
        cases r with
        | start =>
            obtain ⟨err, returned⟩ := finished
            cases returned
        | health | close => exact finished.elim

theorem ProtocolInv.admits_unique (inv : ProtocolInv c) (found : c.threads[i]? = some t)
    (admitted : t.admits = 1) (different : j ≠ i) (at_j : c.threads[j]? = some u) :
    u.admits = 0 := by
  have both := pair_le_tally ListenerThread.admits_nonneg different at_j found
  have most : flag c.shared.started ≤ 1 := by cases c.shared.started <;> simp
  have nonneg := u.admits_nonneg
  rw [← inv.started, admitted] at both
  omega

/-- A listener was started by a `Start`. -/
theorem ProtocolInv.exists_admitted (inv : ProtocolInv c) (started : c.shared.started = true) :
    ∃ call : StartCall, .start call ∈ c.threads ∧ call.pc.admitted = true := by
  have one : 0 < tally ListenerThread.admits c.threads := by
    rw [← inv.started, started, flag_true]
    exact one_pos
  obtain ⟨t, member, positive⟩ := exists_of_tally_pos one
  cases t with
  | start call => exact ⟨call, member, ListenerThread.admitted_of_admits positive.ne'⟩
  | consumer | probe | close => exact absurd positive (lt_irrefl 0)

theorem ProtocolInv.idle (inv : ProtocolInv c) (waited : c.shared.wg = 0)
    (member : t ∈ c.threads) : t.runs = 0 := by
  have below := le_tally ListenerThread.runs_nonneg member
  have nonneg := t.runs_nonneg
  rw [← inv.wg, waited] at below
  omega

theorem ProtocolInv.exited (inv : ProtocolInv c) (waited : c.shared.wg = 0) {k : Consumer}
    (member : .consumer k ∈ c.threads) : ∃ ret, k.pc = .exited ret := by
  have idle := inv.idle waited member
  simp only [ListenerThread.runs] at idle
  cases here : k.pc with
  | exited ret => exact ⟨ret, rfl⟩
  | _ => simp [here, ConsumerPc.running] at idle

theorem ProtocolInv.started_of_consumer (inv : ProtocolInv c) {k : Consumer}
    (member : .consumer k ∈ c.threads) : c.shared.started = true := by
  by_contra unset
  rw [Bool.not_eq_true] at unset
  have inside : k.idx ∈ slots c.threads := List.mem_filterMap.mpr ⟨_, member, rfl⟩
  simp [inv.unlaunched unset] at inside

theorem StartPc.admitted_of_result {pc : StartPc} {err} (result : pc.result = some err) :
    pc.admitted = true := by
  cases pc with
  | cancelRun | closeDone | returned => rfl
  | begin | rejected | launch | await => cases result

/-- A step of one thread leaves what the others rely on as it is. -/
theorem ProtocolInv.agrees_other (inv : ProtocolInv c) (found : c.threads[i]? = some t)
    (step : ListenerStep c.shared t l t' fresh) (different : j ≠ i)
    (at_j : c.threads[j]? = some u) : l.Agrees (slots c.threads ++ slots fresh) u := by
  have member := List.mem_of_getElem? at_j
  have before := inv.agrees u member
  cases u with
  | start call =>
      have outside : call.pc.admitted = true → t.admits = 0 := fun admitted =>
        inv.admits_unique at_j (by simp [ListenerThread.admits, admitted]) different.symm found
      constructor
      · intro admitted
        rw [step.fresh_nil (outside admitted), step.size.1]
        simpa [slots] using before.1 admitted
      · intro err result
        obtain ⟨waited, joined⟩ := before.2 err result
        obtain ⟨wg, errs⟩ := step.settled (inv.idle waited (List.mem_of_getElem? found))
          (outside (StartPc.admitted_of_result result))
        exact ⟨wg.trans waited, by rw [joined, errs]⟩
  | consumer | probe => trivial
  | close pc =>
      have closed : (ListenerThread.close pc).stops = 1 → c.shared.closed = true :=
        flag_of_tally inv.closed ListenerThread.stops_nonneg member
      cases pc with
      | begin | repeated => trivial
      | cancelRun running | await running =>
          exact (before :).trans (step.started_of_closed (closed rfl)).symm
      | returned =>
          intro started
          rw [step.started_of_closed (closed rfl)] at started
          exact step.stays_done (before started)

theorem StartStep.agrees {l' : Listener} {call call' : StartCall} {pc} {new : List Consumer}
    {launched : List Nat} (step : StartStep l call pc l' call' new)
    (size : l.states.length = l.concurrency.toNat) (unlaunched : l.started = false → launched = [])
    (before : l.Agrees launched (.start { call with pc := pc })) :
    l'.Agrees (launched ++ slots (new.map .consumer)) (.start call') := by
  have none : launched ++ slots (([] : List Consumer).map .consumer) = launched :=
    List.append_nil launched
  cases step with
  | cancelled | cancelledOutside | cancelRun | closeDone =>
      rw [none]
      exact before
  | clientClosed | startedTwice =>
      exact ⟨nofun, nofun⟩
  | admitted _ unset =>
      refine ⟨fun _ => ⟨?_, Nat.zero_le _⟩, nofun⟩
      rw [unlaunched unset]
      rfl
  | @launch next below =>
      obtain ⟨range, -⟩ := before.1 rfl
      refine ⟨fun _ => ⟨?_, ?_⟩, nofun⟩
      · rw [range]
        simp [slots, StartPc.launched, ListenerThread.slot, List.range_succ]
      · simp only [StartPc.launched]
        omega
  | @launched next above =>
      obtain ⟨range, most⟩ := before.1 rfl
      refine ⟨fun _ => ⟨?_, le_rfl⟩, nofun⟩
      have all : next = l.states.length := by
        simp only [StartPc.launched] at most
        omega
      rw [none, range, all]
      rfl
  | awaited waited =>
      obtain ⟨range, -⟩ := before.1 rfl
      refine ⟨fun _ => ⟨none.trans range, le_rfl⟩, fun err result => ?_⟩
      cases result
      exact ⟨waited, rfl⟩

theorem StopStep.agrees {l' : Listener} {pc pc' : StopPc} {launched launched' : List Nat}
    (step : StopStep l pc l' pc') (before : l.Agrees launched (.close pc)) :
    l'.Agrees launched' (.close pc') := by
  cases step with
  | repeated => trivial
  | begin => rfl
  | cancelled | nothingToCancel => exact before
  | awaited finished =>
      intro started
      rcases finished with rfl | done
      · rw [← (before :)] at started
        cases started
      · exact done

theorem StartStep.finished {l' : Listener} {call call' : StartCall} {pc new}
    (step : StartStep l call pc l' call' new) :
    ((∃ err, pc = .returned err) → ∃ err, call'.pc = .returned err) ∧
      (l'.doneClosed = l.doneClosed ∧
          ((∃ err, call'.pc = .returned err) → ∃ err, pc = .returned err) ∨
        l'.doneClosed = true ∧ ∃ err, call'.pc = .returned err) := by
  cases step with
  | closeDone => exact ⟨by simp, .inr ⟨rfl, _, rfl⟩⟩
  | cancelled | cancelledOutside => exact ⟨id, .inl ⟨rfl, id⟩⟩
  | _ => exact ⟨by simp, .inl ⟨rfl, by simp⟩⟩

/-- A `Start` that has returned stays so, and returning is what closes `done`. -/
theorem ListenerStep.finished {l' : Listener} (step : ListenerStep l t l' t' fresh) :
    (t.Finished → t'.Finished) ∧
      (l'.doneClosed = l.doneClosed ∧ (t'.Finished → t.Finished) ∨
        l'.doneClosed = true ∧ t'.Finished) := by
  cases step with
  | start inner => exact inner.finished
  | consumer inner => exact ⟨id, .inl ⟨inner.sameRun.doneClosed, id⟩⟩
  | probe => exact ⟨id, .inl ⟨rfl, id⟩⟩
  | close inner => exact ⟨id, .inl ⟨inner.sameStart.2.2, id⟩⟩

theorem ListenerStep.fresh_consumer {l' : Listener} (step : ListenerStep l t l' t' fresh)
    (member : u ∈ fresh) : ∃ k, u = .consumer k := by
  cases step with
  | start =>
      obtain ⟨k, -, rfl⟩ := List.mem_map.mp member
      exact ⟨k, rfl⟩
  | consumer | probe | close => simp at member

theorem ProtocolInv.act (inv : ProtocolInv c) (found : c.threads[i]? = some t)
    (step : ListenerStep c.shared t l t' fresh) :
    ProtocolInv ⟨l, c.threads.set i t' ++ fresh⟩ := by
  have member := List.mem_of_getElem? found
  refine ⟨?_, ?_, ?_, ?_, ?_, ?_, ?_⟩
  · have moved := step.started
    have before := inv.started
    rw [tally_append, tally_set _ found]
    simp only
    omega
  · have moved := step.closed
    have before := inv.closed
    rw [tally_append, tally_set _ found]
    simp only
    omega
  · have moved := step.wg
    have before := inv.wg
    rw [tally_append, tally_set _ found]
    simp only
    omega
  · rw [step.size.1, step.size.2]
    exact inv.size
  · intro unset
    have before : c.shared.started = false := by
      by_contra set
      rw [Bool.not_eq_false] at set
      simp [step.stays_started set] at unset
    have outside : t.admits = 0 := by
      have below := le_tally ListenerThread.admits_nonneg member
      have nonneg := t.admits_nonneg
      rw [← inv.started, before, flag_false] at below
      omega
    rw [slots_act found step, inv.unlaunched before, step.fresh_nil outside]
    rfl
  · rw [slots_act found step]
    apply Program.forall_threads_act
    · cases step with
      | start inner => exact inner.agrees inv.size inv.unlaunched (inv.agrees _ member)
      | consumer | probe => trivial
      | close inner => exact inner.agrees (inv.agrees _ member)
    · intro u new
      obtain ⟨k, rfl⟩ := step.fresh_consumer new
      trivial
    · intro j u different at_j
      exact inv.agrees_other found step different at_j
  · obtain ⟨stays, ⟨kept, back⟩ | ⟨done, finished⟩⟩ := step.finished
    · rw [kept, inv.done]
      constructor
      · exact Program.exists_threads_act found stays
      · rintro ⟨u, inside, finished⟩
        rcases List.mem_append.mp inside with old | new
        · obtain rfl | ⟨j, -, at_j⟩ := Program.mem_threads_set old
          · exact ⟨t, member, back finished⟩
          · exact ⟨u, List.mem_of_getElem? at_j, finished⟩
        · obtain ⟨k, rfl⟩ := step.fresh_consumer new
          exact finished.elim
    · have own := Program.mem_threads_set_self found t'
      exact ⟨fun _ => ⟨t', List.mem_append_left _ own, finished⟩, fun _ => done⟩

theorem ProtocolInv.next {c' : ListenerConfig} {m : ListenerMove} (inv : ProtocolInv c)
    (moved : listenerProgram.next c m = some c') : ProtocolInv c' := by
  obtain ⟨r, -, rfl⟩ | ⟨i, answer, t, l, t', fresh, -, found, step, rfl⟩ := listener_cases moved
  · exact inv.call r
  · exact inv.act found step

theorem ProtocolInv.run {c' : ListenerConfig} {ms : List ListenerMove} (inv : ProtocolInv c)
    (run : listenerProgram.exec c ms = some c') : ProtocolInv c' :=
  Program.exec_invariant (fun _ _ _ inv _ moved => inv.next moved) inv (Program.meets_true ms) run

end Keeps

end CommonsMQ
