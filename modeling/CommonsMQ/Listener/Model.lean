import CommonsMQ.Lib.Interleave
import CommonsMQ.Lib.Memory
import CommonsMQ.Connection
import CommonsMQ.Wire

/-! # The Listener: Start, its consumers, and shutdown

`Start` launches one consumer goroutine per slot and waits for all of them.
Each step is a lock section, an operation on a channel or an atomic, a call into
the MQ binding, or the return of a callback of the application.

Message bodies are slices of the heap, because a consumer receives every message
into one buffer. `live` belongs to the queue manager. A consumer records what its
GETs removed, what it passed to the handler, and the runs of the error callback;
`sawCancel` notes whether the context was done when the last dial, wait, open or
GET returned.
-/

namespace CommonsMQ

open Memory

structure Listener where
  cfg : Config
  queue : String
  concurrency : Int
  maxRetries : Int
  /-- Whether an error callback is registered. -/
  onError : Bool := false
  started : Bool := false
  closed : Bool := false
  /-- `runCtx.Err()` of the admitted `Start`, and the span its context carries. -/
  runCtx : Option CtxErr := none
  runSpan : Option SpanContext := none
  doneClosed : Bool := false
  states : List ConnectionState := []
  /-- Buffered channel of the admitted `Start`. -/
  errs : List GoError := []
  wg : Int := 0
  heap : Heap UInt8 := {}
  live : List Handle := []

inductive ListenerOption where
  | withListenerConcurrency (n : Int)
  | withListenerMaxRetries (n : Int)
  | withListenerErrorHandler (isSet : Bool)

def ListenerOption.apply (l : Listener) : ListenerOption → Listener
  | .withListenerConcurrency n => if 1 ≤ n then { l with concurrency := n } else l
  | .withListenerMaxRetries n => if 0 ≤ n then { l with maxRetries := n } else l
  | .withListenerErrorHandler isSet => { l with onError := isSet }

def Listener.initStates (l : Listener) : Listener :=
  { l with states := List.replicate l.concurrency.toNat .unknown }

def newListener (client : ClientConfig) (queueName : String) (opts : List ListenerOption) :
    Listener :=
  (opts.foldl ListenerOption.apply
    { cfg := client.cfg, queue := queueName, concurrency := client.cfg.inputConcurrency
      maxRetries := client.cfg.maxRetries }).initStates

inductive HandlerOutcome where
  | ok
  | failed (err : GoError)
  | panicked (value : String)

/-- What `invokeHandler` returns. -/
def invokeHandler : HandlerOutcome → Option GoError
  | .ok => none
  | .failed err => some err
  | .panicked value => some (.wrap (ErrHandlerPanic.text ++ ": " ++ value) [ErrHandlerPanic])

inductive ListenerAnswer where
  | go
  /-- The context passed to `Start` becomes done. -/
  | cancel (e : CtxErr)
  | loop (answer : LoopAnswer)
  | opened (err : Option GoError)
  | got (md : MQMD) (data : Bytes)
  | getFailed (err : GoError)
  | handled (outcome : HandlerOutcome)
  /-- The error callback returns, or panics and is recovered. -/
  | callback (panics : Bool)
  | disced (err : Option GoError)

/-- A message passed to the handler, with the span context that `extractFromMessage`
    found, and how the handler ended. -/
structure HandOff where
  msg : Message Slice
  parent : Option SpanContext
  outcome : Option HandlerOutcome := none

/-- Positions in `consumeLoop`. -/
inductive ConsumePc where
  | openQueue
  | poll
  | get
  | got (md : MQMD) (data : Slice)
  | handling (msg : Message Slice)
  | reporting

/-- Positions in `runConsumer` and in the goroutine around it. -/
inductive ConsumerPc where
  | entry
  | markDialing
  | dialing (pc : LoopPc)
  | dialFailed (err : GoError)
  | markConnected
  | loopTop
  | consume (pc : ConsumePc)
  | loopReturned (err : Option GoError)
  | markReconnecting
  | reconnect (pc : LoopPc)
  | reconnectFailed (err : GoError)
  | markReconnected
  /-- The deferred actions, with the value to be returned. -/
  | closeConn (ret : Option GoError)
  | markFinal (ret : Option GoError)
  | finalCallback (err : GoError)
  | sendErr (err : GoError)
  | wgDone (ret : Option GoError)
  | exited (ret : Option GoError)

structure Consumer where
  idx : Nat
  pc : ConsumerPc := .entry
  conn : Connection := .new
  buf : Slice := ⟨0, 0⟩
  removed : List (MQMD × Bytes) := []
  handed : List HandOff := []
  reports : List (Option (Message Slice) × GoError) := []
  sawCancel : Bool := false

namespace Listener

/-- The settings under which consumers dial. -/
def dialConfig (l : Listener) : Config := { l.cfg with maxRetries := l.maxRetries }

def setConsumerState (l : Listener) (idx : Nat) (state : ConnectionState) : Listener :=
  { l with states := l.states.set idx state }

def openFailed (l : Listener) (err : GoError) : GoError :=
  .wrap ("commons-mq-go: failed to open queue " ++ quote l.queue ++ ": " ++
    (sanitizeError err).text) [sanitizeError err]

end Listener

/-- Write how the handler ended into the last hand-off. -/
def closeHandOff (outcome : HandlerOutcome) (handed : List HandOff) : List HandOff :=
  match handed.getLast? with
  | none => handed
  | some last => handed.dropLast ++ [{ last with outcome := some outcome }]

/-- One step of `consumeLoop`. -/
def consumeLoop (l : Listener) (k : Consumer) :
    ConsumePc → ListenerAnswer → Option (Listener × Consumer × (ConsumePc ⊕ Option GoError))
  | .openQueue, .opened none =>
      let (heap, cell) := l.heap.alloc (Cell.ofList [])
      some ({ l with heap := heap },
        { k with buf := ⟨cell, bufferSize⟩, sawCancel := l.runCtx.isSome }, .inl .poll)
  | .openQueue, .opened (some err) =>
      some (l, { k with sawCancel := l.runCtx.isSome }, .inr (some (l.openFailed err)))
  | .poll, .go => some (l, k, if l.runCtx.isSome then .inr none else .inl .get)
  | .get, .got md data =>
      if data.length ≤ bufferSize then
        some ({ l with heap := l.heap.write k.buf.cell data },
          { k with removed := k.removed ++ [(md, data)], sawCancel := l.runCtx.isSome },
          .inl (.got md ⟨k.buf.cell, data.length⟩))
      else none
  | .get, .getFailed err =>
      some (l, { k with sawCancel := l.runCtx.isSome },
        if isEmptyQueueError err then .inl .poll else .inr (some err))
  | .got md data, .go =>
      let (heap, cell) := l.heap.alloc (Cell.ofList (l.heap.read data))
      let msg := messageFromMQMD md (Slice.mk cell data.length)
      some ({ l with heap := heap },
        { k with handed := k.handed ++
            [⟨msg, extractFromMessage l.cfg.propagator l.runSpan msg, none⟩] },
        .inl (.handling msg))
  | .handling msg, .handled outcome =>
      let k' := { k with handed := closeHandOff outcome k.handed }
      match invokeHandler outcome with
      | none => some (l, k', .inl .poll)
      | some err =>
          if l.onError then
            some (l, { k' with reports := k'.reports ++ [(some msg, err)] }, .inl .reporting)
          else some (l, k', .inl .poll)
  | .reporting, .callback _ => some (l, k, .inl .poll)
  | _, _ => none

/-- One step of `runConsumer`, and of the goroutine that calls it. -/
def runConsumer (l : Listener) (k : Consumer) (answer : ListenerAnswer) :
    Option (Listener × Consumer) :=
  match k.pc, answer with
  | .entry, .go =>
      some (l, { k with pc := if l.runCtx.isSome then .markFinal none else .markDialing })
  | .markDialing, .go =>
      some (l.setConsumerState k.idx .reconnecting, { k with pc := .dialing (.head 0) })
  | .dialing pc, .loop answer =>
      let k := { k with sawCancel := l.runCtx.isSome }
      match newConnectionWithRetry l.dialConfig l.runCtx pc answer with
      | none => none
      | some (.inl pc') => some (l, { k with pc := .dialing pc' })
      | some (.inr (.error err)) => some (l, { k with pc := .dialFailed err })
      | some (.inr (.ok c)) => (relive l.live k.conn c).map fun live =>
          ({ l with live := live }, { k with pc := .markConnected, conn := c })
  | .dialFailed err, .go =>
      some (l, { k with pc := .markFinal (if l.runCtx.isSome then none else some err) })
  | .markConnected, .go =>
      some (l.setConsumerState k.idx .connected, { k with pc := .loopTop })
  | .loopTop, .go =>
      some (l, { k with pc := if l.runCtx.isSome then .closeConn none else .consume .openQueue })
  | .consume pc, answer =>
      match consumeLoop l k pc answer with
      | none => none
      | some (l', k', .inl pc') => some (l', { k' with pc := .consume pc' })
      | some (l', k', .inr err) => some (l', { k' with pc := .loopReturned err })
  | .loopReturned err, .go =>
      match err with
      | none => some (l, { k with pc := .closeConn none })
      | some loopErr =>
          some (l, { k with
            pc := if l.runCtx.isSome then .closeConn none
              else if isConnectionError loopErr then .markReconnecting
              else .closeConn (some loopErr) })
  | .markReconnecting, .go =>
      some (l.setConsumerState k.idx .reconnecting,
        { k with pc := .reconnect (.head 0), conn := { k.conn with state := .reconnecting } })
  | .reconnect pc, .loop answer =>
      let k := { k with sawCancel := l.runCtx.isSome }
      match k.conn.reconnect l.dialConfig l.runCtx pc answer with
      | none => none
      | some (c, out) => (relive l.live k.conn c).map fun live =>
          ({ l with live := live }, { k with
            conn := c
            pc := match out with
              | .inl pc' => .reconnect pc'
              | .inr none => .markReconnected
              | .inr (some err) => .reconnectFailed err })
  | .reconnectFailed err, .go =>
      some (l, { k with pc := .closeConn (if l.runCtx.isSome then none else some err) })
  | .markReconnected, .go =>
      some (l.setConsumerState k.idx .connected, { k with pc := .loopTop })
  | .closeConn ret, .disced err =>
      (relive l.live k.conn (k.conn.close l.dialConfig err).1).map fun live =>
        ({ l with live := live },
          { k with pc := .markFinal ret, conn := (k.conn.close l.dialConfig err).1 })
  | .markFinal none, .go =>
      some (l.setConsumerState k.idx .stopped, { k with pc := .wgDone none })
  | .markFinal (some err), .go =>
      let l' := l.setConsumerState k.idx .failed
      if l.onError then
        some (l', { k with pc := .finalCallback err, reports := k.reports ++ [(none, err)] })
      else some (l', { k with pc := .sendErr err })
  | .finalCallback err, .callback _ => some (l, { k with pc := .sendErr err })
  | .sendErr err, .go => some ({ l with errs := l.errs ++ [err] }, { k with pc := .wgDone (some err) })
  | .wgDone ret, .go => some ({ l with wg := l.wg - 1 }, { k with pc := .exited ret })
  | _, _ => none

inductive StartPc where
  | begin
  | launch (next : Nat)
  | await
  /-- The two deferred actions, with the value to be returned. -/
  | cancelRun (err : Option GoError)
  | closeDone (err : Option GoError)
  | returned (err : Option GoError)
  | rejected (err : GoError)

structure StartCall where
  ctx : Option CtxErr
  span : Option SpanContext
  pc : StartPc := .begin

def startedTwice : GoError := .plain "commons-mq-go: Listener.Start may only be called once"

/-- Past the check of `closed` and `started`. -/
def StartPc.admitted : StartPc → Bool
  | .begin | .rejected _ => false
  | .launch _ | .await | .cancelRun _ | .closeDone _ | .returned _ => true

/-- One step of `Start`, and the consumers it launches. -/
def startListener (l : Listener) (call : StartCall) :
    ListenerAnswer → Option (Listener × StartCall × List Consumer)
  | .cancel e =>
      -- `runCtx` is derived from the context of the call
      some (if call.pc.admitted then { l with runCtx := some (l.runCtx.getD e) } else l,
        { call with ctx := some (call.ctx.getD e) }, [])
  | .go =>
      match call.pc with
      | .begin =>
          if l.closed then some (l, { call with pc := .rejected ErrClientClosed }, [])
          else if l.started then some (l, { call with pc := .rejected startedTwice }, [])
          else some ({ l with started := true, runCtx := call.ctx, runSpan := call.span },
            { call with pc := .launch 0 }, [])
      | .launch next =>
          if (next : Int) < l.concurrency then
            some ({ l with wg := l.wg + 1 }, { call with pc := .launch (next + 1) },
              [{ idx := next }])
          else some (l, { call with pc := .await }, [])
      | .await =>
          if l.wg = 0 then some (l, { call with pc := .cancelRun (joinErrors l.errs) }, [])
          else none
      | .cancelRun err =>
          some ({ l with runCtx := some (l.runCtx.getD .canceled) },
            { call with pc := .closeDone err }, [])
      | .closeDone err => some ({ l with doneClosed := true }, { call with pc := .returned err }, [])
      | .returned _ | .rejected _ => none
  | _ => none

inductive StopPc where
  | begin
  /-- `running` is whether `cancel` and `done` were set when the lock was held. -/
  | cancelRun (running : Bool)
  | await (running : Bool)
  | returned
  /-- A further call, which returns at once. -/
  | repeated

/-- One step of `close`. -/
def closeListener (l : Listener) : StopPc → ListenerAnswer → Option (Listener × StopPc)
  | .begin, .go =>
      if l.closed then some (l, .repeated)
      else some ({ l with closed := true }, .cancelRun l.started)
  | .cancelRun running, .go =>
      some (if running then { l with runCtx := some (l.runCtx.getD .canceled) } else l,
        .await running)
  | .await running, .go =>
      if running = true ∧ l.doneClosed = false then none else some (l, .returned)
  | _, _ => none

inductive ListenerProbePc where
  | snapshot
  | scan (closed : Bool) (details : List ConnectionStatus)
  | returned (details : List ConnectionStatus)

/-- One step of the probe that `listenerHealthProber` returns. -/
def listenerHealthProber (l : Listener) :
    ListenerProbePc → ListenerAnswer → Option ListenerProbePc
  | .snapshot, .go => some (.scan l.closed [])
  | .scan closed details, .go =>
      match l.states[details.length]? with
      | none => some (.returned details)
      | some state =>
          let alive := state = .connected ∧ closed = false
          let reason :=
            if closed then "listener is closed"
            else if alive then "" else connectionStateReason state
          some (.scan closed (details ++ [⟨l.cfg.queueManagerName, alive, reason,
            "listener " ++ quote l.queue ++ " consumer " ++ toString details.length⟩]))
  | _, _ => none

inductive ListenerRequest where
  | start (ctx : Option CtxErr) (span : Option SpanContext)
  | health
  | close

inductive ListenerThread where
  | start (call : StartCall)
  | consumer (k : Consumer)
  | probe (pc : ListenerProbePc)
  | close (pc : StopPc)

def ListenerThread.step (l : Listener) :
    ListenerThread → ListenerAnswer → Option (Listener × ListenerThread × List ListenerThread)
  | .start call, answer =>
      (startListener l call answer).map fun r => (r.1, .start r.2.1, r.2.2.map .consumer)
  | .consumer k, answer => (runConsumer l k answer).map fun r => (r.1, .consumer r.2, [])
  | .probe pc, answer => (listenerHealthProber l pc answer).map fun pc' => (l, .probe pc', [])
  | .close pc, answer => (closeListener l pc answer).map fun r => (r.1, .close r.2, [])

abbrev ListenerConfig := Interleave.Config Listener ListenerThread
abbrev ListenerMove := Interleave.Move ListenerRequest ListenerAnswer

def listenerProgram :
    Interleave.Program Listener ListenerRequest ListenerThread ListenerAnswer where
  start
    | .start ctx span => .start { ctx, span }
    | .health => .probe .snapshot
    | .close => .close .begin
  step l t answer := t.step l answer

end CommonsMQ
