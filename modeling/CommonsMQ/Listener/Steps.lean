import CommonsMQ.Listener.Model

/-! # What a step of a listener thread can do

One relation per source function, as for the Sender.
-/

namespace CommonsMQ

open Memory

inductive ConsumeStep (l : Listener) (k : Consumer) :
    ConsumePc → Listener → Consumer → ConsumePc ⊕ Option GoError → Prop where
  | opened : ConsumeStep l k .openQueue
      { l with heap := (l.heap.alloc (Cell.ofList [])).1 }
      { k with buf := ⟨l.heap.cells.length, bufferSize⟩, sawCancel := l.runCtx.isSome } (.inl .poll)
  | openFailed {err} : ConsumeStep l k .openQueue l { k with sawCancel := l.runCtx.isSome }
      (.inr (some (l.openFailed err)))
  | cancelled : l.runCtx.isSome = true → ConsumeStep l k .poll l k (.inr none)
  | polled : l.runCtx.isSome = false → ConsumeStep l k .poll l k (.inl .get)
  | got {md data} : data.length ≤ bufferSize →
      ConsumeStep l k .get { l with heap := l.heap.write k.buf.cell data }
        { k with removed := k.removed ++ [(md, data)], sawCancel := l.runCtx.isSome }
        (.inl (.got md ⟨k.buf.cell, data.length⟩))
  | empty {err} : isEmptyQueueError err = true →
      ConsumeStep l k .get l { k with sawCancel := l.runCtx.isSome } (.inl .poll)
  | getFailed {err} : isEmptyQueueError err = false →
      ConsumeStep l k .get l { k with sawCancel := l.runCtx.isSome } (.inr (some err))
  | handOff {md data msg} : msg = messageFromMQMD md ⟨l.heap.cells.length, data.length⟩ →
      ConsumeStep l k (.got md data)
        { l with heap := (l.heap.alloc (Cell.ofList (l.heap.read data))).1 }
        { k with handed := k.handed ++
            [⟨msg, extractFromMessage l.cfg.propagator l.runSpan msg, none⟩] }
        (.inl (.handling msg))
  | handled {msg outcome} : invokeHandler outcome = none →
      ConsumeStep l k (.handling msg) l { k with handed := closeHandOff outcome k.handed }
        (.inl .poll)
  | unreported {msg outcome err} : invokeHandler outcome = some err → l.onError = false →
      ConsumeStep l k (.handling msg) l { k with handed := closeHandOff outcome k.handed }
        (.inl .poll)
  | reported {msg outcome err} : invokeHandler outcome = some err → l.onError = true →
      ConsumeStep l k (.handling msg) l
        { k with
          handed := closeHandOff outcome k.handed, reports := k.reports ++ [(some msg, err)] }
        (.inl .reporting)
  | calledBack : ConsumeStep l k .reporting l k (.inl .poll)

theorem consumeLoop_step {l l' : Listener} {k k' : Consumer} {pc answer out}
    (h : consumeLoop l k pc answer = some (l', k', out)) : ConsumeStep l k pc l' k' out := by
  unfold consumeLoop at h
  split at h
  · obtain ⟨rfl, rfl, rfl⟩ := h
    exact .opened
  · obtain ⟨rfl, rfl, rfl⟩ := h
    exact .openFailed
  · obtain ⟨rfl, rfl, rfl⟩ := h
    split
    · exact .cancelled ‹_›
    · exact .polled (Bool.eq_false_iff.mpr ‹_›)
  · split at h
    · obtain ⟨rfl, rfl, rfl⟩ := h
      exact .got ‹_›
    · cases h
  · obtain ⟨rfl, rfl, rfl⟩ := h
    split
    · exact .empty ‹_›
    · exact .getFailed (Bool.eq_false_iff.mpr ‹_›)
  · obtain ⟨rfl, rfl, rfl⟩ := h
    exact .handOff rfl
  · simp only at h
    split at h
    · obtain ⟨rfl, rfl, rfl⟩ := h
      exact .handled ‹_›
    · split at h
      · obtain ⟨rfl, rfl, rfl⟩ := h
        exact .reported ‹_› ‹_›
      · obtain ⟨rfl, rfl, rfl⟩ := h
        exact .unreported ‹_› (Bool.eq_false_iff.mpr ‹_›)
  · obtain ⟨rfl, rfl, rfl⟩ := h
    exact .calledBack
  · cases h

inductive ConsumerStep (l : Listener) (k : Consumer) :
    ConsumerPc → Listener → Consumer → Prop where
  | entryCancelled : l.runCtx.isSome = true →
      ConsumerStep l k .entry l { k with pc := .markFinal none }
  | entered : l.runCtx.isSome = false → ConsumerStep l k .entry l { k with pc := .markDialing }
  | markDialing : ConsumerStep l k .markDialing (l.setConsumerState k.idx .reconnecting)
      { k with pc := .dialing (.head 0) }
  | dialing {pc answer pc'} :
      newConnectionWithRetry l.dialConfig l.runCtx pc answer = some (.inl pc') →
      ConsumerStep l k (.dialing pc) l { k with pc := .dialing pc', sawCancel := l.runCtx.isSome }
  | dialFailed {pc answer err} :
      newConnectionWithRetry l.dialConfig l.runCtx pc answer = some (.inr (.error err)) →
      ConsumerStep l k (.dialing pc) l { k with pc := .dialFailed err, sawCancel := l.runCtx.isSome }
  | dialed {pc answer c live} :
      newConnectionWithRetry l.dialConfig l.runCtx pc answer = some (.inr (.ok c)) →
      relive l.live k.conn c = some live →
      ConsumerStep l k (.dialing pc) { l with live := live }
        { k with pc := .markConnected, conn := c, sawCancel := l.runCtx.isSome }
  | dialCancelled {err} : l.runCtx.isSome = true →
      ConsumerStep l k (.dialFailed err) l { k with pc := .markFinal none }
  | dialGaveUp {err} : l.runCtx.isSome = false →
      ConsumerStep l k (.dialFailed err) l { k with pc := .markFinal (some err) }
  | markConnected : ConsumerStep l k .markConnected (l.setConsumerState k.idx .connected)
      { k with pc := .loopTop }
  | loopCancelled : l.runCtx.isSome = true →
      ConsumerStep l k .loopTop l { k with pc := .closeConn none }
  | loopEntered : l.runCtx.isSome = false →
      ConsumerStep l k .loopTop l { k with pc := .consume .openQueue }
  | consuming {pc l' k' pc'} : ConsumeStep l k pc l' k' (.inl pc') →
      ConsumerStep l k (.consume pc) l' { k' with pc := .consume pc' }
  | consumed {pc l' k' err} : ConsumeStep l k pc l' k' (.inr err) →
      ConsumerStep l k (.consume pc) l' { k' with pc := .loopReturned err }
  | stopped {err} : err = none ∨ l.runCtx.isSome = true →
      ConsumerStep l k (.loopReturned err) l { k with pc := .closeConn none }
  | connectionLost {err} : l.runCtx.isSome = false → isConnectionError err = true →
      ConsumerStep l k (.loopReturned (some err)) l { k with pc := .markReconnecting }
  | loopFailed {err} : l.runCtx.isSome = false → isConnectionError err = false →
      ConsumerStep l k (.loopReturned (some err)) l { k with pc := .closeConn (some err) }
  | markReconnecting : ConsumerStep l k .markReconnecting (l.setConsumerState k.idx .reconnecting)
      { k with pc := .reconnect (.head 0), conn := { k.conn with state := .reconnecting } }
  | reconnecting {pc answer c pc' live} :
      k.conn.reconnect l.dialConfig l.runCtx pc answer = some (c, .inl pc') →
      relive l.live k.conn c = some live →
      ConsumerStep l k (.reconnect pc) { l with live := live }
        { k with pc := .reconnect pc', conn := c, sawCancel := l.runCtx.isSome }
  | reconnected {pc answer c live} :
      k.conn.reconnect l.dialConfig l.runCtx pc answer = some (c, .inr none) →
      relive l.live k.conn c = some live →
      ConsumerStep l k (.reconnect pc) { l with live := live }
        { k with pc := .markReconnected, conn := c, sawCancel := l.runCtx.isSome }
  | reconnectFailed {pc answer c err live} :
      k.conn.reconnect l.dialConfig l.runCtx pc answer = some (c, .inr (some err)) →
      relive l.live k.conn c = some live →
      ConsumerStep l k (.reconnect pc) { l with live := live }
        { k with pc := .reconnectFailed err, conn := c, sawCancel := l.runCtx.isSome }
  | reconnectCancelled {err} : l.runCtx.isSome = true →
      ConsumerStep l k (.reconnectFailed err) l { k with pc := .closeConn none }
  | reconnectGaveUp {err} : l.runCtx.isSome = false →
      ConsumerStep l k (.reconnectFailed err) l { k with pc := .closeConn (some err) }
  | markReconnected : ConsumerStep l k .markReconnected (l.setConsumerState k.idx .connected)
      { k with pc := .loopTop }
  | closeConn {ret err live} :
      relive l.live k.conn (k.conn.close l.dialConfig err).1 = some live →
      ConsumerStep l k (.closeConn ret) { l with live := live }
        { k with pc := .markFinal ret, conn := (k.conn.close l.dialConfig err).1 }
  | markStopped : ConsumerStep l k (.markFinal none) (l.setConsumerState k.idx .stopped)
      { k with pc := .wgDone none }
  | markFailed {err} : l.onError = true →
      ConsumerStep l k (.markFinal (some err)) (l.setConsumerState k.idx .failed)
        { k with pc := .finalCallback err, reports := k.reports ++ [(none, err)] }
  | markFailedSilently {err} : l.onError = false →
      ConsumerStep l k (.markFinal (some err)) (l.setConsumerState k.idx .failed)
        { k with pc := .sendErr err }
  | calledBack {err} : ConsumerStep l k (.finalCallback err) l { k with pc := .sendErr err }
  | sendErr {err} : ConsumerStep l k (.sendErr err) { l with errs := l.errs ++ [err] }
      { k with pc := .wgDone (some err) }
  | wgDone {ret} : ConsumerStep l k (.wgDone ret) { l with wg := l.wg - 1 }
      { k with pc := .exited ret }

theorem runConsumer_step {l l' : Listener} {k k' : Consumer} {answer}
    (h : runConsumer l k answer = some (l', k')) : ConsumerStep l k k.pc l' k' := by
  unfold runConsumer at h
  generalize k.pc = pc at h ⊢
  split at h
  · obtain ⟨rfl, rfl⟩ := h
    split
    · exact .entryCancelled ‹_›
    · exact .entered (Bool.eq_false_iff.mpr ‹_›)
  · obtain ⟨rfl, rfl⟩ := h
    exact .markDialing
  · simp only at h
    split at h
    · cases h
    · obtain ⟨rfl, rfl⟩ := h
      exact .dialing ‹_›
    · obtain ⟨rfl, rfl⟩ := h
      exact .dialFailed ‹_›
    · obtain ⟨live, changed, same⟩ := Option.map_eq_some_iff.mp h
      obtain ⟨rfl, rfl⟩ := same
      exact .dialed ‹_› changed
  · obtain ⟨rfl, rfl⟩ := h
    split
    · exact .dialCancelled ‹_›
    · exact .dialGaveUp (Bool.eq_false_iff.mpr ‹_›)
  · obtain ⟨rfl, rfl⟩ := h
    exact .markConnected
  · obtain ⟨rfl, rfl⟩ := h
    split
    · exact .loopCancelled ‹_›
    · exact .loopEntered (Bool.eq_false_iff.mpr ‹_›)
  · split at h
    · cases h
    · obtain ⟨rfl, rfl⟩ := h
      exact .consuming (consumeLoop_step ‹_›)
    · obtain ⟨rfl, rfl⟩ := h
      exact .consumed (consumeLoop_step ‹_›)
  · split at h
    · obtain ⟨rfl, rfl⟩ := h
      exact .stopped (.inl rfl)
    · obtain ⟨rfl, rfl⟩ := h
      split
      · exact .stopped (.inr ‹_›)
      · split
        · exact .connectionLost (Bool.eq_false_iff.mpr ‹_›) ‹_›
        · exact .loopFailed (Bool.eq_false_iff.mpr ‹_›) (Bool.eq_false_iff.mpr ‹_›)
  · obtain ⟨rfl, rfl⟩ := h
    exact .markReconnecting
  · simp only at h
    split at h
    · cases h
    · rename_i c out moved
      obtain ⟨live, changed, same⟩ := Option.map_eq_some_iff.mp h
      obtain ⟨rfl, rfl⟩ := same
      rcases out with pc' | _ | err
      · exact .reconnecting moved changed
      · exact .reconnected moved changed
      · exact .reconnectFailed moved changed
  · obtain ⟨rfl, rfl⟩ := h
    split
    · exact .reconnectCancelled ‹_›
    · exact .reconnectGaveUp (Bool.eq_false_iff.mpr ‹_›)
  · obtain ⟨rfl, rfl⟩ := h
    exact .markReconnected
  · obtain ⟨live, changed, same⟩ := Option.map_eq_some_iff.mp h
    obtain ⟨rfl, rfl⟩ := same
    exact .closeConn changed
  · obtain ⟨rfl, rfl⟩ := h
    exact .markStopped
  · simp only at h
    split at h
    · obtain ⟨rfl, rfl⟩ := h
      exact .markFailed ‹_›
    · obtain ⟨rfl, rfl⟩ := h
      exact .markFailedSilently (Bool.eq_false_iff.mpr ‹_›)
  · obtain ⟨rfl, rfl⟩ := h
    exact .calledBack
  · obtain ⟨rfl, rfl⟩ := h
    exact .sendErr
  · obtain ⟨rfl, rfl⟩ := h
    exact .wgDone
  · cases h

inductive StartStep (l : Listener) (call : StartCall) :
    StartPc → Listener → StartCall → List Consumer → Prop where
  | cancelled {pc e} : pc.admitted = true →
      StartStep l call pc { l with runCtx := some (l.runCtx.getD e) }
        { call with ctx := some (call.ctx.getD e), pc := pc } []
  | cancelledOutside {pc e} : pc.admitted = false →
      StartStep l call pc l { call with ctx := some (call.ctx.getD e), pc := pc } []
  | clientClosed : l.closed = true →
      StartStep l call .begin l { call with pc := .rejected ErrClientClosed } []
  | startedTwice : l.closed = false → l.started = true →
      StartStep l call .begin l { call with pc := .rejected startedTwice } []
  | admitted : l.closed = false → l.started = false →
      StartStep l call .begin
        { l with started := true, runCtx := call.ctx, runSpan := call.span }
        { call with pc := .launch 0 } []
  | launch {next : Nat} : (next : Int) < l.concurrency →
      StartStep l call (.launch next) { l with wg := l.wg + 1 }
        { call with pc := .launch (next + 1) } [{ idx := next }]
  | launched {next : Nat} : l.concurrency ≤ next →
      StartStep l call (.launch next) l { call with pc := .await } []
  | awaited : l.wg = 0 →
      StartStep l call .await l { call with pc := .cancelRun (joinErrors l.errs) } []
  | cancelRun {err} :
      StartStep l call (.cancelRun err) { l with runCtx := some (l.runCtx.getD .canceled) }
        { call with pc := .closeDone err } []
  | closeDone {err} :
      StartStep l call (.closeDone err) { l with doneClosed := true }
        { call with pc := .returned err } []

theorem startListener_step {l l' : Listener} {call call' : StartCall} {answer started}
    (h : startListener l call answer = some (l', call', started)) :
    StartStep l call call.pc l' call' started := by
  unfold startListener at h
  split at h
  · obtain ⟨rfl, rfl, rfl⟩ := h
    split
    · exact .cancelled ‹_›
    · exact .cancelledOutside (Bool.eq_false_iff.mpr ‹_›)
  · generalize call.pc = pc at h ⊢
    split at h
    · split at h
      · obtain ⟨rfl, rfl, rfl⟩ := h
        exact .clientClosed ‹_›
      · split at h
        · obtain ⟨rfl, rfl, rfl⟩ := h
          exact .startedTwice (Bool.eq_false_iff.mpr ‹_›) ‹_›
        · obtain ⟨rfl, rfl, rfl⟩ := h
          exact .admitted (Bool.eq_false_iff.mpr ‹_›) (Bool.eq_false_iff.mpr ‹_›)
    · split at h
      · obtain ⟨rfl, rfl, rfl⟩ := h
        exact .launch ‹_›
      · obtain ⟨rfl, rfl, rfl⟩ := h
        exact .launched (by omega)
    · split at h
      · obtain ⟨rfl, rfl, rfl⟩ := h
        exact .awaited ‹_›
      · cases h
    · obtain ⟨rfl, rfl, rfl⟩ := h
      exact .cancelRun
    · obtain ⟨rfl, rfl, rfl⟩ := h
      exact .closeDone
    · cases h
    · cases h
  · cases h

inductive StopStep (l : Listener) : StopPc → Listener → StopPc → Prop where
  | repeated : l.closed = true → StopStep l .begin l .repeated
  | begin : l.closed = false →
      StopStep l .begin { l with closed := true } (.cancelRun l.started)
  | cancelled : StopStep l (.cancelRun true) { l with runCtx := some (l.runCtx.getD .canceled) }
      (.await true)
  | nothingToCancel : StopStep l (.cancelRun false) l (.await false)
  | awaited {running} : running = false ∨ l.doneClosed = true →
      StopStep l (.await running) l .returned

theorem closeListener_step {l l' : Listener} {pc pc' answer}
    (h : closeListener l pc answer = some (l', pc')) : StopStep l pc l' pc' := by
  unfold closeListener at h
  split at h
  · split at h
    · obtain ⟨rfl, rfl⟩ := h
      exact .repeated ‹_›
    · obtain ⟨rfl, rfl⟩ := h
      exact .begin (Bool.eq_false_iff.mpr ‹_›)
  · rename_i running
    obtain ⟨rfl, rfl⟩ := h
    cases running with
    | false => exact .nothingToCancel
    | true => exact .cancelled
  · split at h
    · cases h
    · obtain ⟨rfl, rfl⟩ := h
      rename_i waits
      exact .awaited (by simpa [not_and, Bool.not_eq_true, or_iff_not_imp_left] using waits)
  · cases h

inductive ListenerStep (l : Listener) :
    ListenerThread → Listener → ListenerThread → List ListenerThread → Prop where
  | start {call l' call' started} : StartStep l call call.pc l' call' started →
      ListenerStep l (.start call) l' (.start call') (started.map .consumer)
  | consumer {k l' k'} : ConsumerStep l k k.pc l' k' →
      ListenerStep l (.consumer k) l' (.consumer k') []
  | probe {pc pc'} : ListenerStep l (.probe pc) l (.probe pc') []
  | close {pc l' pc'} : StopStep l pc l' pc' → ListenerStep l (.close pc) l' (.close pc') []

theorem listenerProgram_step {l l' : Listener} {t t' answer started}
    (h : listenerProgram.step l t answer = some (l', t', started)) :
    ListenerStep l t l' t' started := by
  cases t with
  | start call =>
      obtain ⟨⟨l', call', started⟩, moved, same⟩ := Option.map_eq_some_iff.mp h
      obtain ⟨rfl, rfl, rfl⟩ := same
      exact .start (startListener_step moved)
  | consumer k =>
      obtain ⟨⟨l', k'⟩, moved, same⟩ := Option.map_eq_some_iff.mp h
      obtain ⟨rfl, rfl, rfl⟩ := same
      exact .consumer (runConsumer_step moved)
  | probe pc =>
      obtain ⟨pc', -, same⟩ := Option.map_eq_some_iff.mp h
      obtain ⟨rfl, rfl, rfl⟩ := same
      exact .probe
  | close pc =>
      obtain ⟨⟨l', pc'⟩, moved, same⟩ := Option.map_eq_some_iff.mp h
      obtain ⟨rfl, rfl, rfl⟩ := same
      exact .close (closeListener_step moved)

/-- All that a move of a listener's run can be. -/
theorem listener_cases {c c' : ListenerConfig} {m : ListenerMove}
    (moved : listenerProgram.next c m = some c') :
    (∃ r, m = .call r ∧ c' = ⟨c.shared, c.threads ++ [listenerProgram.start r]⟩) ∨
    (∃ i answer t l t' started, m = .act i answer ∧ c.threads[i]? = some t ∧
      ListenerStep c.shared t l t' started ∧ c' = ⟨l, c.threads.set i t' ++ started⟩) := by
  obtain called | ⟨i, answer, t, l, t', started, rfl, found, stepped, rfl⟩ :=
    Interleave.Program.next_cases moved
  · exact .inl called
  · exact .inr ⟨i, answer, t, l, t', started, rfl, found, listenerProgram_step stepped, rfl⟩

end CommonsMQ
