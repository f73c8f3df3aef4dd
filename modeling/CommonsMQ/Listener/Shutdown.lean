import CommonsMQ.Lib.Gate
import CommonsMQ.Listener.Protocol

/-! # Starting and closing a Listener

With the books of `wg` and of the live handles, the protocol says what is left of
a listener when its first `close` has returned: nothing.
-/

namespace CommonsMQ

open Interleave

/-- Each live handle is the connection of one consumer between its dial and its
    deferred `Close`. -/
structure LiveInv (c : ListenerConfig) : Prop where
  placed : ∀ handle,
    (c.shared.live.count handle : ℤ) = tally (ListenerThread.owns handle) c.threads
  detached : ∀ k, .consumer k ∈ c.threads → k.pc.attached = false → k.conn.handle = none

section Live

variable {l l' : Listener} {k k' : Consumer} {t t' : ListenerThread} {fresh : List ListenerThread}
  {c c' : ListenerConfig}

theorem ConsumerStep.live {pc} (step : ConsumerStep l k pc l' k')
    (own : ∀ handle, k.conn.handle = some handle → handle ∈ l.live) (handle : Handle) :
    (l'.live.count handle : ℤ) =
      l.live.count handle + k'.conn.owns handle - k.conn.owns handle := by
  cases step with
  | dialed _ changed | reconnecting _ changed | reconnected _ changed | reconnectFailed _ changed
  | closeConn changed => exact relive_count own changed handle
  | consuming inner | consumed inner =>
      obtain ⟨⟨heap, rfl⟩, -, conn⟩ := inner.frame
      simp [conn]
  | markReconnecting => simp [Listener.setConsumerState, Connection.owns]
  | _ => simp [Listener.setConsumerState]

theorem ConsumerStep.detached {pc} (step : ConsumerStep l k pc l' k')
    (before : pc.attached = false → k.conn.handle = none) :
    k'.pc.attached = false → k'.conn.handle = none := by
  cases step with
  | entryCancelled | entered | markDialing | dialing | dialFailed | dialCancelled | dialGaveUp
  | markStopped | markFailed | markFailedSilently | calledBack | sendErr | wgDone =>
      exact fun _ => before rfl
  | closeConn => exact fun _ => rfl
  | dialed | markConnected | loopCancelled | loopEntered | consuming | consumed | stopped
  | connectionLost | loopFailed | markReconnecting | reconnecting | reconnected | reconnectFailed
  | reconnectCancelled | reconnectGaveUp | markReconnected => exact nofun

theorem LiveInv.own (inv : LiveInv c) (member : .consumer k ∈ c.threads) {handle : Handle}
    (has : k.conn.handle = some handle) : handle ∈ c.shared.live := by
  have below := le_tally (ListenerThread.owns_nonneg handle) member
  have one : (ListenerThread.consumer k).owns handle = 1 := by
    simp [ListenerThread.owns, Connection.owns, has]
  rw [← inv.placed, one] at below
  exact List.count_pos_iff.mp (by omega)

theorem LiveInv.start (client : ClientConfig) (queueName : String) (opts : List ListenerOption) :
    LiveInv ⟨newListener client queueName opts, []⟩ := by
  obtain ⟨cfg, queue, concurrency, maxRetries, onError, same⟩ :=
    newListener_fresh client queueName opts
  rw [same]
  exact { placed := fun _ => rfl, detached := by simp }

theorem ListenerStep.live (step : ListenerStep l t l' t' fresh)
    (own : ∀ k handle, t = .consumer k → k.conn.handle = some handle → handle ∈ l.live)
    (handle : Handle) :
    (l'.live.count handle : ℤ) = l.live.count handle + (t'.owns handle - t.owns handle) +
      tally (ListenerThread.owns handle) fresh := by
  cases step with
  | start inner =>
      obtain ⟨rfl, -⟩ | ⟨next, -, -, rfl, -⟩ := inner.fresh_cases
      · simp [ListenerThread.owns, inner.sameConsumers.live]
      · simp [ListenerThread.owns, inner.sameConsumers.live, Connection.owns, Connection.new]
  | consumer inner =>
      have moved := inner.live (fun handle has => own _ handle rfl has) handle
      simp only [ListenerThread.owns, tally_nil]
      omega
  | probe => simp [ListenerThread.owns]
  | close inner => simp [ListenerThread.owns, inner.sameConsumers.live]

theorem LiveInv.next {m : ListenerMove} (inv : LiveInv c)
    (moved : listenerProgram.next c m = some c') : LiveInv c' := by
  obtain ⟨r, -, rfl⟩ | ⟨i, answer, t, l, t', fresh, -, found, step, rfl⟩ := listener_cases moved
  · constructor
    · intro handle
      rw [tally_append, inv.placed]
      cases r <;> simp [listenerProgram, ListenerThread.owns]
    · intro k member
      exact inv.detached k (consumer_after_call member)
  · have member := List.mem_of_getElem? found
    constructor
    · intro handle
      have moved := step.live (fun k handle same has => inv.own (same ▸ member) has) handle
      rw [tally_append, tally_set _ found, ← inv.placed]
      omega
    · intro k inside
      obtain ⟨k₀, rfl, inner⟩ | ⟨j, -, at_j⟩ | ⟨next, rfl, -⟩ := consumer_after found step inside
      · exact inner.detached (inv.detached _ member)
      · exact inv.detached k (List.mem_of_getElem? at_j)
      · exact fun _ => rfl

theorem LiveInv.run {ms : List ListenerMove} (inv : LiveInv c)
    (run : listenerProgram.exec c ms = some c') : LiveInv c' :=
  Program.exec_invariant (fun _ _ _ inv _ moved => inv.next moved) inv (Program.meets_true ms) run

end Live

/-! ## After `close` -/

/-- No consumer is left, and no connection. -/
structure Quiet (c : ListenerConfig) : Prop where
  exited : ∀ k, .consumer k ∈ c.threads → ∃ ret, k.pc = .exited ret
  released : c.shared.live = []

section Quiet

variable {c c' : ListenerConfig}

theorem ProtocolInv.quiet (inv : ProtocolInv c) (live : LiveInv c)
    (closed : .close .returned ∈ c.threads) : Quiet c := by
  have exited : ∀ k, .consumer k ∈ c.threads → ∃ ret, k.pc = .exited ret := by
    intro k member
    cases started : c.shared.started with
    | false =>
        have none := inv.unlaunched started
        have inside : k.idx ∈ slots c.threads := List.mem_filterMap.mpr ⟨_, member, rfl⟩
        simp [none] at inside
    | true =>
        have done : c.shared.doneClosed = true := inv.agrees _ closed started
        obtain ⟨u, inside, finished⟩ := inv.done.mp done
        cases u with
        | start call =>
            obtain ⟨err, returned⟩ := finished
            have result : call.pc.result = some err := by rw [returned]; rfl
            exact inv.exited ((inv.agrees _ inside).2 err result).1 member
        | consumer | probe | close => exact finished.elim
  refine ⟨exited, List.eq_nil_iff_forall_not_mem.mpr fun handle member => ?_⟩
  have none : tally (ListenerThread.owns handle) c.threads = 0 := by
    apply tally_eq_zero
    intro t inside
    cases t with
    | consumer k =>
        obtain ⟨ret, here⟩ := exited k inside
        have detached := live.detached k inside (by rw [here]; rfl)
        simp [ListenerThread.owns, Connection.owns, detached]
    | start | probe | close => rfl
  have positive := List.count_pos_iff.mpr member
  have placed := live.placed handle
  omega

theorem returned_run {ms : List ListenerMove} (run : listenerProgram.exec c ms = some c')
    (closed : .close .returned ∈ c.threads) : .close .returned ∈ c'.threads := by
  have keep : ∀ c m c', (∃ u ∈ c.threads, u = .close .returned) → True →
      listenerProgram.next c m = some c' → ∃ u ∈ c'.threads, u = .close .returned := by
    intro c m c' before _ moved
    obtain ⟨r, -, rfl⟩ | ⟨i, answer, t, l, t', fresh, -, found, step, rfl⟩ := listener_cases moved
    · obtain ⟨u, member, same⟩ := before
      exact ⟨u, List.mem_append_left _ member, same⟩
    · refine Program.exists_threads_act found ?_ before
      rintro rfl
      cases step with
      | close inner => cases inner
  obtain ⟨u, member, rfl⟩ :=
    Program.exec_invariant keep ⟨_, closed, rfl⟩ (Program.meets_true ms) run
  exact member

end Quiet

section Late

variable {l l' : Listener} {t t' : ListenerThread} {fresh : List ListenerThread}

theorem ListenerStep.stays_closed (step : ListenerStep l t l' t' fresh) (closed : l.closed = true) :
    l'.closed = true := by
  cases step with
  | start inner => exact inner.closed_eq.trans closed
  | consumer inner => exact inner.sameRun.closed.trans closed
  | probe => exact closed
  | close inner =>
      cases inner with
      | begin => rfl
      | _ => exact closed

/-- A `Start` that was not admitted: it has not come to the check, or was rejected. -/
def StartPc.Refused (pc : StartPc) : Prop := pc = .begin ∨ pc = .rejected ErrClientClosed

theorem StartStep.refused {call call' : StartCall} {pc launched}
    (step : StartStep l call pc l' call' launched) (closed : l.closed = true)
    (refused : pc.Refused) : call'.pc.Refused := by
  cases step with
  | cancelled | cancelledOutside => exact refused
  | clientClosed => exact .inr rfl
  | startedTwice opened | admitted opened => simp [closed] at opened
  | launch | launched | awaited | cancelRun | closeDone =>
      rcases refused with here | here <;> cases here

/-- On a closed listener no `Start` is admitted. -/
def listenerGate : Gate listenerProgram where
  shut := Listener.closed
  Outside _ t := ∀ call, t = .start call → call.pc.Refused
  left
    | .start call => match call.pc with
        | .begin => 1
        | _ => 0
    | .consumer _ | .probe _ | .close _ => 0
  Shuts t := ∃ pc, t = .close pc ∧ pc ≠ .begin
  start l r := by
    refine ⟨?_, ?_⟩
    · rintro call same
      cases r with
      | start =>
          cases same
          exact .inl rfl
      | health | close => cases same
    · rintro ⟨pc, same, begun⟩
      cases r with
      | start | health => cases same
      | close =>
          cases same
          exact begun rfl
  stays := by
    intro l t a l' t' started stepped closed
    have step := listenerProgram_step stepped
    refine ⟨step.stays_closed closed, fun u late => late, ?_, ?_⟩
    · rintro late call rfl
      cases step with
      | start inner => exact inner.refused closed (late _ rfl)
    · rintro u new call rfl
      obtain ⟨k, same⟩ := step.fresh_consumer new
      cases same
  sets := by
    intro l t a l' t' started stepped
    have step := listenerProgram_step stepped
    refine ⟨?_, ?_⟩
    · rintro ⟨pc', rfl, -⟩
      cases step with
      | close inner =>
          cases inner with
          | repeated closed => exact .inr closed
          | begin => exact .inr rfl
          | _ => exact .inl ⟨_, rfl, nofun⟩
    · rintro u new ⟨pc, rfl, -⟩
      obtain ⟨k, same⟩ := step.fresh_consumer new
      cases same
  answers := by
    intro l t closed outside left
    cases t with
    | start call =>
        rcases outside call rfl with here | here
        · refine ⟨.go, .start { call with pc := .rejected ErrClientClosed }, ?_, ?_⟩
          · simp [listenerProgram, ListenerThread.step, startListener, here, closed]
          · simp [here]
        · simp [here] at left
    | consumer | probe | close => simp at left

end Late

/-- The admitted `Start` has not returned. -/
def StartPending (c : ListenerConfig) : Prop :=
  ∃ call : StartCall, .start call ∈ c.threads ∧ call.pc.admitted = true ∧
    ∀ err, call.pc ≠ .returned err

/-- The promises of `Start` and `close` in one state of a run. -/
structure StartClose (c : ListenerConfig) : Prop where
  atMostOne : ∀ (i j : Nat) (call call' : StartCall), c.threads[i]? = some (.start call) →
    c.threads[j]? = some (.start call') → call.pc.admitted = true → call'.pc.admitted = true → i = j
  launches : ∀ m c', listenerProgram.next c m = some c' → slots c'.threads ≠ slots c.threads →
    ∃ (i : Nat) (answer : ListenerAnswer) (call : StartCall), m = .act i answer ∧
      c.threads[i]? = some (.start call) ∧ call.pc.admitted = true
  rejects : c.shared.closed = true → ∀ (i : Nat) (call : StartCall),
    c.threads[i]? = some (.start call) → call.pc = .begin → listenerProgram.next c (.act i .go) =
      some ⟨c.shared, c.threads.set i (.start { call with pc := .rejected ErrClientClosed })⟩
  quiet : .close .returned ∈ c.threads → ∀ ms c', listenerProgram.exec c ms = some c' → Quiet c'
  waits : ∀ (i : Nat) (pc : StopPc), c.threads[i]? = some (.close pc) →
    listenerProgram.next c (.act i .go) = none →
    pc = .returned ∨ pc = .repeated ∨ pc = .await true ∧ StartPending c

section Theorem

variable {c c' : ListenerConfig}

theorem launches_admitted {m : ListenerMove}
    (moved : listenerProgram.next c m = some c') (more : slots c'.threads ≠ slots c.threads) :
    ∃ (i : Nat) (answer : ListenerAnswer) (call : StartCall), m = .act i answer ∧
      c.threads[i]? = some (.start call) ∧ call.pc.admitted = true := by
  obtain ⟨r, -, rfl⟩ | ⟨i, answer, t, l, t', fresh, rfl, found, step, rfl⟩ := listener_cases moved
  · refine absurd ?_ more
    rw [slots_append]
    cases r <;> simp [slots, listenerProgram, ListenerThread.slot]
  · have admits : t.admits ≠ 0 := by
      intro outside
      apply more
      rw [slots_act found step, step.fresh_nil outside]
      exact List.append_nil _
    cases t with
    | start call =>
        exact ⟨i, answer, call, rfl, found, ListenerThread.admitted_of_admits admits⟩
    | consumer | probe | close => exact absurd rfl admits

theorem ProtocolInv.waits (inv : ProtocolInv c) {i : Nat} {pc : StopPc}
    (found : c.threads[i]? = some (.close pc))
    (blocked : listenerProgram.next c (.act i .go) = none) :
    pc = .returned ∨ pc = .repeated ∨ pc = .await true ∧ StartPending c := by
  have agrees := inv.agrees _ (List.mem_of_getElem? found)
  have stuck : closeListener c.shared pc .go = none := by
    by_contra free
    obtain ⟨r, moved⟩ := Option.ne_none_iff_exists'.mp free
    simp [Program.next, found, listenerProgram, ListenerThread.step, moved] at blocked
  cases pc with
  | begin =>
      simp only [closeListener] at stuck
      split at stuck <;> cases stuck
  | cancelRun => cases stuck
  | returned => exact .inl rfl
  | repeated => exact .inr (.inl rfl)
  | await running =>
      have waiting : running = true ∧ c.shared.doneClosed = false := by
        by_contra free
        simp [closeListener, free] at stuck
      obtain ⟨rfl, notDone⟩ := waiting
      have started : c.shared.started = true := (agrees :).symm
      obtain ⟨call, member, admitted⟩ := inv.exists_admitted started
      refine .inr (.inr ⟨rfl, call, member, admitted, fun err returned => ?_⟩)
      have done := inv.done.mpr ⟨_, member, err, returned⟩
      simp [notDone] at done

end Theorem

theorem listener_start_close (client : ClientConfig) (queueName : String)
    (opts : List ListenerOption) (ms : List ListenerMove) (c : ListenerConfig)
    (run : listenerProgram.exec ⟨newListener client queueName opts, []⟩ ms = some c) :
    StartClose c := by
  have inv := (ProtocolInv.start client queueName opts).run run
  have live := (LiveInv.start client queueName opts).run run
  constructor
  · intro i j call call' first second admitted also
    exact flag_unique inv.started ListenerThread.admits_nonneg first second
      (by simp [ListenerThread.admits, admitted]) (by simp [ListenerThread.admits, also])
  · intro m c' moved more
    exact launches_admitted moved more
  · intro closed i call found here
    simp [Program.next, found, listenerProgram, ListenerThread.step, startListener, here, closed]
  · intro closed ms' c' further
    exact (inv.run further).quiet (live.run further) (returned_run further closed)
  · intro i pc found blocked
    exact inv.waits found blocked

/-- One consumer dials, receives a message, and is in the handler while the listener
    is closed. -/
def closedWhileHandling : List ListenerMove :=
  [.call (.start none none), .act 0 .go, .act 0 .go, .act 0 .go, .act 1 .go, .act 1 .go,
    .act 1 (.loop .check), .act 1 (.loop (.dialed (.ok 7))), .act 1 .go, .act 1 .go,
    .act 1 (.opened none), .act 1 .go, .act 1 (.got {} [1, 2, 3]), .act 1 .go,
    .call .close, .act 2 .go, .act 2 .go, .act 1 (.handled .ok), .act 1 .go, .act 1 .go,
    .act 1 (.disced none), .act 1 .go, .act 1 .go, .act 0 .go, .act 0 .go, .act 0 .go, .act 2 .go]

theorem listener_start_close_handling : ∃ c,
    listenerProgram.exec ⟨newListener .minimal "IN" [.withListenerConcurrency 1], []⟩
      closedWhileHandling = some c ∧ c.threads.length = 3 ∧ .close .returned ∈ c.threads ∧
    StartClose c := by
  obtain ⟨c, run, length, returned⟩ : ∃ c,
      listenerProgram.exec ⟨newListener .minimal "IN" [.withListenerConcurrency 1], []⟩
        closedWhileHandling = some c ∧ c.threads.length = 3 ∧
      c.threads[2]? = some (.close .returned) := by
    refine ⟨_, rfl, rfl, rfl⟩
  exact ⟨c, run, length, List.mem_of_getElem? returned, listener_start_close _ _ _ _ c run⟩

end CommonsMQ
