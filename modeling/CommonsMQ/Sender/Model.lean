import CommonsMQ.Lib.Interleave
import CommonsMQ.Connection
import CommonsMQ.Wire

/-! # The Sender: sends, health probes and shutdown over one connection pool

Every lock section, channel operation and call into the MQ binding is one step of
its thread. Connections are kept in a table, so that the pool channel and the
goroutines hold references; which goroutine may touch which connection is a
theorem, not part of the model.

`live`, `queues` belong to the queue manager. `gone`, `writtenOff` and `nextMsg`
are bookkeeping: connections out of service, slots that stay counted without a
connection, and the number of `Message` values allocated for creators.
-/

namespace CommonsMQ

abbrev ConnId := Nat

structure Sender where
  cfg : Config
  queue : String
  maxConns : Int
  poolCap : Nat
  /-- Buffered channel, oldest element first. -/
  pool : List ConnId := []
  poolMu : Bool := false
  created : Int := 0
  closed : Bool := false
  state : ConnectionState := .unknown
  lastErr : Option GoError := none
  wg : Int := 0
  activeConns : Int := 0
  conns : List Connection := []
  live : List Handle := []
  queues : List Queued := []
  gone : List ConnId := []
  writtenOff : Int := 0
  nextMsg : Nat := 0

inductive SenderOption where
  | withSenderConcurrency (n : Int)

def SenderOption.apply (s : Sender) : SenderOption → Sender
  | .withSenderConcurrency n =>
      if 1 ≤ n then { s with maxConns := n, poolCap := n.toNat, pool := [] } else s

def newSender (client : ClientConfig) (destinationQueue : String) (opts : List SenderOption) :
    Sender :=
  opts.foldl SenderOption.apply
    { cfg := client.cfg
      queue := if destinationQueue = "" then client.cfg.outputQueue else destinationQueue
      maxConns := client.cfg.outputConcurrency
      poolCap := client.cfg.outputConcurrency.toNat }

/-- What a step of a sender thread learns from outside. -/
inductive SendAnswer where
  /-- Nothing: the step is the program's own. -/
  | go
  /-- The context of the call becomes done. -/
  | cancel (e : CtxErr)
  | loop (answer : LoopAnswer)
  /-- The arm that the blocking `select` of `acquireConn` takes. -/
  | receive
  | giveUp
  | opened (err : Option GoError)
  /-- The creator returns, with the message as it left it. -/
  | created (result : Except GoError (Message Bytes))
  | panics
  | putOk (id : MsgId)
  /-- A failed `MQPUT` may still have left the message on the queue. -/
  | putFailed (err : GoError) (landed : Option MsgId)
  | disced (err : Option GoError)

namespace Sender

def setState (s : Sender) (state : ConnectionState) (err : Option GoError) : Sender :=
  { s with state := state, lastErr := err }

/-- Enter a freshly dialed connection. -/
def addConn (s : Sender) (c : Connection) : Option Sender :=
  (relive s.live .new c).map fun live => { s with conns := s.conns ++ [c], live := live }

/-- Replace connection `id`. -/
def setConn (s : Sender) (id : ConnId) (c' : Connection) : Option Sender :=
  match s.conns[id]? with
  | none => none
  | some c => (relive s.live c c').map fun live =>
      { s with conns := s.conns.set id c', live := live }

end Sender

inductive AcquirePc where
  | checkCtx
  | poll
  | reserve
  | dialing (pc : LoopPc)
  | unreserve (err : GoError)
  | markDialFailed (err : GoError)
  | countActive (conn : ConnId)
  | await
  | markConnected (conn : ConnId)

/-- One step of `acquireConn`. -/
def acquireConn (s : Sender) (ctx : Option CtxErr) :
    AcquirePc → SendAnswer → Option (Sender × (AcquirePc ⊕ Except GoError ConnId))
  | .checkCtx, .go =>
      match ctx with
      | some e => some (s, .inr (.error (.context e)))
      | none => some (s, .inl .poll)
  | .poll, .go =>
      match s.pool with
      | conn :: rest => some ({ s with pool := rest }, .inl (.markConnected conn))
      | [] => some (s, .inl .reserve)
  | .reserve, .go =>
      if s.created < s.maxConns then
        some ({ s with created := s.created + 1 }, .inl (.dialing (.head 0)))
      else some (s, .inl .await)
  | .dialing pc, .loop answer =>
      match newConnectionWithRetry s.cfg ctx pc answer with
      | none => none
      | some (.inl pc') => some (s, .inl (.dialing pc'))
      | some (.inr (.error err)) => some (s, .inl (.unreserve err))
      | some (.inr (.ok c)) =>
          (s.addConn c).map fun s' => (s', .inl (.countActive s.conns.length))
  | .unreserve err, .go =>
      some ({ s with created := s.created - 1 }, .inl (.markDialFailed err))
  | .markDialFailed err, .go =>
      some (if ctx.isNone then s.setState .failed (some err) else s, .inr (.error err))
  | .countActive conn, .go =>
      some ({ s with activeConns := s.activeConns + 1 }, .inl (.markConnected conn))
  | .await, .receive =>
      match s.pool with
      | conn :: rest => some ({ s with pool := rest }, .inl (.markConnected conn))
      | [] => none
  | .await, .giveUp => ctx.map fun e => (s, .inr (.error (.context e)))
  | .markConnected conn, .go => some (s.setState .connected none, .inr (.ok conn))
  | _, _ => none

inductive PutPc where
  | openQueue
  | runCreator
  | mqput (msg : Message Bytes)

/-- What one call of `put` has done so far. -/
structure PutAttempt where
  /-- The messages handed to the creator, by allocation number. -/
  given : List (Nat × Message Bytes) := []
  /-- The answers of `MQPUT`. -/
  puts : List (Except GoError MsgId) := []
  /-- Messages it left on the queue. -/
  landed : Int := 0

inductive PutOutcome where
  | running (pc : PutPc)
  | returned (result : Except GoError String)
  | panicked

/-- The errors that `put` makes of a failed open or `MQPUT`. -/
def openFailure (queueName : String) (err : GoError) : GoError :=
  .wrap ("commons-mq-go: failed to open queue " ++ quote queueName ++ " for output: " ++
    (sanitizeError err).text) [sanitizeError err]

def putFailure (queueName : String) (err : GoError) : GoError :=
  .wrap ("commons-mq-go: failed to put message to queue " ++ quote queueName ++ ": " ++
    (sanitizeError err).text) [sanitizeError err]

/-- The memory after a message reached its queue under identifier `id`. -/
def Sender.landed (s : Sender) (queueName : String) (msg : Message Bytes) (id : MsgId) : Sender :=
  { s with queues := s.queues ++
      [⟨queueName, { putDescriptor s.cfg msg with msgId := id }, msg.body⟩] }

/-- One step of `put` with the wrapped creator of `SendWithCreator`. -/
def put (s : Sender) (queueName : String) (hasCreator : Bool) (span : Option SpanContext)
    (attempt : PutAttempt) : PutPc → SendAnswer → Option (Sender × PutAttempt × PutOutcome)
  | .openQueue, .opened none => some (s, attempt, .running .runCreator)
  | .openQueue, .opened (some err) =>
      some (s, attempt, .returned (.error (openFailure queueName err)))
  | .runCreator, .go =>
      if hasCreator then none
      else some ({ s with nextMsg := s.nextMsg + 1 }, attempt,
        .running (.mqput (injectToMessage s.cfg.propagator span .fresh)))
  | .runCreator, .created result =>
      if hasCreator then
        let s' := { s with nextMsg := s.nextMsg + 1 }
        let attempt' := { attempt with given := attempt.given ++ [(s.nextMsg, .fresh)] }
        match result with
        | .ok msg => some (s', attempt',
            .running (.mqput (injectToMessage s.cfg.propagator span msg)))
        | .error err => some (s', attempt', .returned (.error (creatorFailure err)))
      else none
  | .runCreator, .panics =>
      if hasCreator then
        some ({ s with nextMsg := s.nextMsg + 1 },
          { attempt with given := attempt.given ++ [(s.nextMsg, .fresh)] }, .panicked)
      else none
  | .mqput msg, .putOk id =>
      some (s.landed queueName msg id,
        { attempt with puts := attempt.puts ++ [.ok id], landed := attempt.landed + 1 },
        .returned (.ok id.hex))
  | .mqput msg, .putFailed err landed =>
      let attempt' := { attempt with puts := attempt.puts ++ [.error err] }
      match landed with
      | none => some (s, attempt', .returned (.error (putFailure queueName err)))
      | some id =>
          some (s.landed queueName msg id, { attempt' with landed := attempt.landed + 1 },
            .returned (.error (putFailure queueName err)))
  | _, _ => none

/-- Why a connection is thrown away, and whether the sender is marked failed. -/
structure Discard where
  err : GoError
  failed : Bool

inductive SendPc where
  | resolve
  | enter
  | acquire (pc : AcquirePc)
  | put (conn : ConnId) (retry : Bool) (pc : PutPc)
  | markReconnecting (conn : ConnId) (err : GoError)
  | reconnect (conn : ConnId) (pc : LoopPc)
  | markReconnected (conn : ConnId)
  | closeConn (conn : ConnId) (why : Discard)
  | uncreate (conn : ConnId) (why : Discard)
  | uncount (why : Discard)
  | markDiscarded (why : Discard)
  | markSent (conn : ConnId) (msgID : String)
  | release (conn : ConnId) (result : Except GoError String)
  /-- The deferred `wg.Done()` is still to run. -/
  | finish (result : Except GoError String)
  | returned (result : Except GoError String)
  | unwinding
  | panicked

/-- A call of `SendWithCreator`. -/
structure SendCall where
  destination : String
  ctx : Option CtxErr
  hasCreator : Bool
  span : Option SpanContext
  pc : SendPc := .resolve
  /-- The attempt in progress, the finished ones, and the answers of `Reconnect`. -/
  current : PutAttempt := {}
  attempts : List (PutAttempt × Except GoError String) := []
  reconnects : List (Option GoError) := []

def noDestination : GoError :=
  .plain "commons-mq-go: no destination queue specified and Config.OutputQueue is empty"

/-- The queue a call is for: its own, or the default one. -/
def Sender.destination (s : Sender) (destination : String) : String :=
  if destination = "" then s.queue else destination

/-- Where `SendWithCreator` goes when `put` has returned. -/
def afterPut (conn : ConnId) (retry : Bool) : Except GoError String → SendPc
  | .ok msgID => .markSent conn msgID
  | .error err =>
      if retry then .closeConn conn ⟨err, isConnectionError err⟩
      else if isConnectionError err then .markReconnecting conn err
      else .release conn (.error err)

/-- One step of `SendWithCreator`. -/
def sendWithCreator (s : Sender) (call : SendCall) (answer : SendAnswer) :
    Option (Sender × SendCall) :=
  match call.pc, answer with
  | .resolve, .go =>
      if s.destination call.destination = "" then
        some (s, { call with pc := .returned (.error noDestination) })
      else some (s, { call with destination := s.destination call.destination, pc := .enter })
  | .enter, .go =>
      if s.closed then some (s, { call with pc := .returned (.error ErrClientClosed) })
      else some ({ s with wg := s.wg + 1 }, { call with pc := .acquire .checkCtx })
  | .acquire pc, answer =>
      match acquireConn s call.ctx pc answer with
      | none => none
      | some (s', .inl pc') => some (s', { call with pc := .acquire pc' })
      | some (s', .inr (.error err)) => some (s', { call with pc := .finish (.error err) })
      | some (s', .inr (.ok conn)) => some (s', { call with pc := .put conn false .openQueue })
  | .put conn retry pc, answer =>
      match put s call.destination call.hasCreator call.span call.current pc answer with
      | none => none
      | some (s', attempt, .running pc') =>
          some (s', { call with pc := .put conn retry pc', current := attempt })
      | some (s', attempt, .returned result) =>
          some (s', { call with
            pc := afterPut conn retry result, current := {}
            attempts := call.attempts ++ [(attempt, result)] })
      | some (s', attempt, .panicked) =>
          -- no deferred action hands the connection back
          some ({ s' with gone := conn :: s'.gone, writtenOff := s'.writtenOff + 1 },
            { call with pc := .unwinding, current := attempt })
  | .markReconnecting conn err, .go =>
      match s.conns[conn]? with
      | none => none
      | some c =>
          ((s.setState .reconnecting (some err)).setConn conn { c with state := .reconnecting }).map
            fun s' => (s', { call with pc := .reconnect conn (.head 0) })
  | .reconnect conn pc, .loop answer =>
      match s.conns[conn]? with
      | none => none
      | some c =>
          match c.reconnect s.cfg call.ctx pc answer with
          | none => none
          | some (c', .inl pc') =>
              (s.setConn conn c').map fun s' => (s', { call with pc := .reconnect conn pc' })
          | some (c', .inr none) =>
              (s.setConn conn c').map fun s' => (s', { call with
                pc := .markReconnected conn, reconnects := call.reconnects ++ [none] })
          | some (c', .inr (some err)) =>
              (s.setConn conn c').map fun s' => (s', { call with
                pc := .closeConn conn ⟨err, true⟩
                reconnects := call.reconnects ++ [some err] })
  | .markReconnected conn, .go =>
      some (s.setState .connected none, { call with pc := .put conn true .openQueue })
  | .closeConn conn why, .disced err =>
      match s.conns[conn]? with
      | none => none
      | some c =>
          (s.setConn conn (c.close s.cfg err).1).map fun s' =>
            (s', { call with pc := .uncreate conn why })
  | .uncreate conn why, .go =>
      some ({ s with created := s.created - 1, gone := conn :: s.gone },
        { call with pc := .uncount why })
  | .uncount why, .go =>
      some ({ s with activeConns := s.activeConns - 1 }, { call with pc := .markDiscarded why })
  | .markDiscarded why, .go =>
      some (if why.failed then s.setState .failed (some why.err) else s,
        { call with pc := .finish (.error why.err) })
  | .markSent conn msgID, .go =>
      some (s.setState .connected none, { call with pc := .release conn (.ok msgID) })
  | .release conn result, .go =>
      -- sending on a full channel blocks
      if s.pool.length < s.poolCap then
        some ({ s with pool := s.pool ++ [conn] }, { call with pc := .finish result })
      else none
  | .finish result, .go =>
      some ({ s with wg := s.wg - 1 }, { call with pc := .returned result })
  | .unwinding, .go => some ({ s with wg := s.wg - 1 }, { call with pc := .panicked })
  | _, _ => none

inductive ProbePc where
  | snapshot
  | lockPool (state : ConnectionState)
  | peek (state : ConnectionState)
  | putBack (conn : ConnId)
  | returned (details : List ConnectionStatus)

/-- One step of the probe that `senderHealthProber` returns. -/
def senderHealthProber (s : Sender) : ProbePc → SendAnswer → Option (Sender × ProbePc)
  | .snapshot, .go =>
      let dead (reason : String) : ProbePc :=
        .returned [⟨s.cfg.queueManagerName, false, reason, "sender " ++ quote s.queue⟩]
      let because (reason : String) : ProbePc :=
        dead (reason ++ (s.lastErr.map fun err => ": " ++ err.text).getD "")
      if s.closed then some (s, dead "sender is closed")
      else
        match s.state with
        | .reconnecting => some (s, dead (connectionStateReason .reconnecting))
        | .failed => some (s, because (connectionStateReason .failed))
        | state =>
            if s.created = 0 then
              if s.lastErr.isSome then some (s, because "no live connections")
              else some (s, .returned [])
            else some (s, .lockPool state)
  | .lockPool state, .go => if s.poolMu then none else some ({ s with poolMu := true }, .peek state)
  | .peek state, .go =>
      match s.pool with
      | conn :: rest => some ({ s with pool := rest }, .putBack conn)
      | [] =>
          let status (alive : Bool) (reason : String) : ProbePc :=
            .returned [⟨s.cfg.queueManagerName, alive, reason, "sender " ++ quote s.queue⟩]
          some ({ s with poolMu := false },
            if state = .connected ∨ state = .unknown then status true ""
            else status false (connectionStateReason state))
  | .putBack conn, .go =>
      match s.conns[conn]? with
      | none => none
      | some c =>
          let status (alive : Bool) (reason : String) : ProbePc :=
            .returned [⟨s.cfg.queueManagerName, alive, reason, "sender " ++ quote s.queue⟩]
          if s.pool.length < s.poolCap then
            some ({ s with pool := s.pool ++ [conn], poolMu := false },
              if c.state = .connected then status true ""
              else status false (connectionStateReason c.state))
          else none
  | _, _ => none

inductive ClosePc where
  | begin
  /-- `created` is the value read under the lock. -/
  | await (created : Int)
  | lockPool (created : Int)
  | drain (left : Nat) (errs : List GoError)
  | closing (left : Nat) (conn : ConnId) (errs : List GoError)
  | returned (err : Option GoError)
  /-- A further call of `close`, which returns at once. -/
  | repeated

/-- One step of `close`. -/
def closeSender (s : Sender) : ClosePc → SendAnswer → Option (Sender × ClosePc)
  | .begin, .go =>
      if s.closed then some (s, .repeated)
      else some ({ s with closed := true, state := .stopped, lastErr := none }, .await s.created)
  | .await created, .go => if s.wg = 0 then some (s, .lockPool created) else none
  | .lockPool created, .go =>
      if s.poolMu then none else some ({ s with poolMu := true }, .drain created.toNat [])
  | .drain 0 errs, .go => some ({ s with poolMu := false }, .returned (joinErrors errs))
  | .drain (left + 1) errs, .go =>
      match s.pool with
      | conn :: rest => some ({ s with pool := rest }, .closing left conn errs)
      | [] => some (s, .drain left errs)
  | .closing left conn errs, .disced err =>
      match s.conns[conn]? with
      | none => none
      | some c =>
          (s.setConn conn (c.close s.cfg err).1).map fun s' =>
            ({ s' with gone := conn :: s'.gone, writtenOff := s'.writtenOff + 1 },
              .drain left (errs ++ (c.close s.cfg err).2.toList))
  | _, _ => none

inductive SenderRequest where
  | send (destination : String) (ctx : Option CtxErr) (hasCreator : Bool)
      (span : Option SpanContext)
  | health
  | close

inductive SenderThread where
  | send (call : SendCall)
  | probe (pc : ProbePc)
  | close (pc : ClosePc)

def SenderThread.step (s : Sender) : SenderThread → SendAnswer → Option (Sender × SenderThread)
  | .send call, .cancel e =>
      some (s, .send { call with ctx := some (call.ctx.getD e) })
  | .send call, answer => (sendWithCreator s call answer).map fun r => (r.1, .send r.2)
  | .probe pc, answer => (senderHealthProber s pc answer).map fun r => (r.1, .probe r.2)
  | .close pc, answer => (closeSender s pc answer).map fun r => (r.1, .close r.2)

abbrev SenderConfig := Interleave.Config Sender SenderThread
abbrev SenderMove := Interleave.Move SenderRequest SendAnswer

def senderProgram : Interleave.Program Sender SenderRequest SenderThread SendAnswer where
  start
    | .send destination ctx hasCreator span => .send { destination, ctx, hasCreator, span }
    | .health => .probe .snapshot
    | .close => .close .begin
  step s t answer := (t.step s answer).map fun r => (r.1, r.2, [])

end CommonsMQ
