import CommonsMQ.Lib.Interleave
import CommonsMQ.Connection
import CommonsMQ.Wire

/-! # The request-reply client

Each call owns a connection and runs one of two flows on it: over a dynamic reply
queue of its own, or over a fixed reply queue from which it gets by correlation
identifier. A flow is given one MQI call at a time; beside its next position a step
yields the message it put, if any.
-/

namespace CommonsMQ

inductive RequestReplyMode where
  | temporaryQueue
  | fixedQueueSelector
  deriving Repr, DecidableEq

structure RequestReplyClient where
  cfg : Config
  requestQueue : String
  replyQueue : String := ""
  mode : RequestReplyMode
  closed : Bool := false
  state : ConnectionState := .unknown
  lastErr : Option GoError := none
  /-- The queue manager's: live handles, and the requests put. -/
  live : List Handle := []
  requests : List Queued := []

inductive RROption where
  | withRRReplyQueue (queue : String)

def RROption.apply (r : RequestReplyClient) : RROption → RequestReplyClient
  | .withRRReplyQueue queue =>
      if r.mode = .fixedQueueSelector then { r with replyQueue := queue } else r

def newRequestReplyClient (client : ClientConfig) (requestQueue : String) (opts : List RROption) :
    RequestReplyClient :=
  opts.foldl RROption.apply
    { cfg := client.cfg, requestQueue := requestQueue, mode := .temporaryQueue }

def newRequestReplyClientFixed (client : ClientConfig) (requestQueue replyQueue : String)
    (opts : List RROption) : RequestReplyClient :=
  opts.foldl RROption.apply
    { cfg := client.cfg, requestQueue := requestQueue, replyQueue := replyQueue
      mode := .fixedQueueSelector }

inductive RRAnswer where
  | go
  | cancel (e : CtxErr)
  | dialed (answer : Except GoError Handle)
  /-- `rand.Read` fills the key. -/
  | random (answer : Except GoError MsgId)
  | opened (err : Option GoError)
  /-- The model queue was opened, and this is the name of the dynamic queue. -/
  | openedDynamic (name : String)
  | created (result : Except GoError (Message Bytes))
  | panics
  | putOk (id : MsgId)
  | putFailed (err : GoError) (landed : Option MsgId)
  | got (md : MQMD) (data : Bytes)
  | getFailed (err : GoError)
  | disced (err : Option GoError)

inductive FlowOutcome (π : Type) where
  | running (pc : π)
  | returned (result : Except GoError (Message Bytes))
  | panicked

/-- `MQGMO.WaitInterval` for a timeout in nanoseconds. -/
def waitInterval (timeout : Int) : Int :=
  if toInt32 (timeout.tdiv 1000000) ≤ 0 then 1 else toInt32 (timeout.tdiv 1000000)

/-- The descriptor of a request. -/
def requestDescriptor (cfg : Config) (replyQueue : String) (correlId : MsgId)
    (msg : Message Bytes) : MQMD where
  expiry := expiryOf msg.ttl
  correlId := correlId
  replyToQ := replyQueue
  replyToQMgr := if cfg.setQueueManager then cfg.queueManagerName else ""

/-- What a flow makes of the answer `err` of one of its MQI calls. -/
def flowFailure (what : String) (err : GoError) : GoError :=
  .wrap ("commons-mq-go: failed to " ++ what ++ ": " ++ (sanitizeError err).text)
    [sanitizeError err]

/-- A call that is to put a request on `requestQueue`. -/
structure RequestSpec where
  cfg : Config
  requestQueue : String
  timeout : Int
  hasCreator : Bool
  span : Option SpanContext

/-- What the wrapped creator makes of `prepared`. -/
def wrappedCreator (spec : RequestSpec) (prepared : Message Bytes) :
    RRAnswer → Option (FlowOutcome (Message Bytes))
  | .created result =>
      if spec.hasCreator then
        match result with
        | .ok msg => some (.running (injectToMessage spec.cfg.propagator spec.span msg))
        | .error err => some (.returned (.error (creatorFailure err)))
      else none
  | .go =>
      if spec.hasCreator then none
      else some (.running (injectToMessage spec.cfg.propagator spec.span prepared))
  | .panics => if spec.hasCreator then some .panicked else none
  | _ => none

/-- The request of `spec` as it lands on its queue. -/
def RequestSpec.queued (spec : RequestSpec) (replyQueue : String) (correlId : MsgId)
    (msg : Message Bytes) (id : MsgId) : Queued :=
  ⟨spec.requestQueue,
    { requestDescriptor spec.cfg replyQueue correlId msg with msgId := id }, msg.body⟩

/-! ## The fixed reply queue -/

inductive FixedPc where
  | generate
  | runCreator (generated : MsgId)
  | openReply (key : MsgId) (msg : Message Bytes)
  | openRequest (key : MsgId) (msg : Message Bytes)
  | mqput (key : MsgId) (msg : Message Bytes)
  | get (key : MsgId) (wait : Int)

def invalidCorrelationID (correlationID : String) : GoError :=
  .plain ("commons-mq-go: invalid correlation ID " ++ quote correlationID ++
    ": must be an even-length hex string of at most 48 characters")

/-- The key under which request and reply are matched. -/
def correlationKey (generated : MsgId) (correlationID : String) : Except GoError MsgId :=
  if correlationID = "" then .ok generated
  else
    match Hex.decodeString correlationID with
    | none => .error (invalidCorrelationID correlationID)
    | some decoded =>
        if idLength < decoded.length then .error (invalidCorrelationID correlationID)
        else .ok (MsgId.zero.copy decoded)

/-- One step of `requestReplyViaFixedQueue`. -/
def requestReplyViaFixedQueue (spec : RequestSpec) (replyQueue : String) :
    FixedPc → RRAnswer → Option (Option Queued × FlowOutcome FixedPc)
  | .generate, .random (.error err) => some (none, .returned (.error (.wrap
      ("commons-mq-go: failed to generate correlation ID: " ++ err.text) [err])))
  | .generate, .random (.ok generated) => some (none, .running (.runCreator generated))
  | .runCreator generated, answer =>
      let prepared : Message Bytes :=
        { correlationID := generated.hex, replyToQueue := replyQueue, body := []
          userProperties := some ∅ }
      match wrappedCreator spec prepared answer with
      | none => none
      | some .panicked => some (none, .panicked)
      | some (.returned result) => some (none, .returned result)
      | some (.running msg) =>
          match correlationKey generated msg.correlationID with
          | .error err => some (none, .returned (.error err))
          | .ok key => some (none, .running (.openReply key msg))
  | .openReply key msg, .opened none => some (none, .running (.openRequest key msg))
  | .openReply _ _, .opened (some err) => some (none, .returned (.error
      (flowFailure ("open fixed reply queue " ++ quote replyQueue) err)))
  | .openRequest key msg, .opened none => some (none, .running (.mqput key msg))
  | .openRequest _ _, .opened (some err) => some (none, .returned (.error
      (flowFailure ("open request queue " ++ quote spec.requestQueue) err)))
  | .mqput key msg, .putOk id =>
      some (some (spec.queued replyQueue key msg id),
        .running (.get key (waitInterval spec.timeout)))
  | .mqput key msg, .putFailed err landed =>
      some (landed.map (spec.queued replyQueue key msg), .returned (.error
        (flowFailure ("put request to queue " ++ quote spec.requestQueue) err)))
  | .get _ _, .got md data =>
      if data.length ≤ bufferSize then some (none, .returned (.ok (messageFromMQMD md data)))
      else none
  | .get _ _, .getFailed err => some (none, .returned (.error
      (if isEmptyQueueError err then ErrTimeout else flowFailure "receive fixed-queue reply" err)))
  | _, _ => none

/-! ## The temporary reply queue -/

inductive TempPc where
  | openReply
  | runCreator (replyQueue : String)
  | openRequest (replyQueue : String) (msg : Message Bytes)
  | mqput (replyQueue : String) (msg : Message Bytes)
  | get (replyQueue : String) (wait : Int)

/-- One step of `requestReplyViaTempQueue`. -/
def requestReplyViaTempQueue (spec : RequestSpec) :
    TempPc → RRAnswer → Option (Option Queued × FlowOutcome TempPc)
  | .openReply, .openedDynamic name => some (none, .running (.runCreator name))
  | .openReply, .opened (some err) =>
      some (none, .returned (.error (flowFailure "open temporary reply queue" err)))
  | .runCreator replyQueue, answer =>
      let prepared : Message Bytes :=
        { replyToQueue := replyQueue, body := [], userProperties := some ∅ }
      match wrappedCreator spec prepared answer with
      | none => none
      | some .panicked => some (none, .panicked)
      | some (.returned result) => some (none, .returned result)
      | some (.running msg) => some (none, .running (.openRequest replyQueue msg))
  | .openRequest replyQueue msg, .opened none => some (none, .running (.mqput replyQueue msg))
  | .openRequest _ _, .opened (some err) => some (none, .returned (.error
      (flowFailure ("open request queue " ++ quote spec.requestQueue) err)))
  | .mqput replyQueue msg, .putOk id =>
      some (some (spec.queued replyQueue (correlIdOf msg.correlationID) msg id),
        .running (.get replyQueue (waitInterval spec.timeout)))
  | .mqput replyQueue msg, .putFailed err landed =>
      some (landed.map (spec.queued replyQueue (correlIdOf msg.correlationID) msg),
        .returned (.error
          (flowFailure ("put request message to queue " ++ quote spec.requestQueue) err)))
  | .get _ _, .got md data =>
      -- unlike `messageFromMQMD`, the map stays nil
      if data.length ≤ bufferSize then
        some (none, .returned (.ok { messageFromMQMD md data with userProperties := none }))
      else none
  | .get _ _, .getFailed err => some (none, .returned (.error
      (if isEmptyQueueError err then ErrTimeout else flowFailure "receive reply message" err)))
  | _, _ => none

/-! ## The calls -/

inductive RRPc where
  | checkCtx
  | checkClosed
  | dial
  | markDialFailed (err : GoError)
  | fixed (pc : FixedPc)
  | temp (pc : TempPc)
  | record (result : Except GoError (Message Bytes))
  /-- The deferred `Close`; `none` while a panic of the creator unwinds. -/
  | closeConn (result : Option (Except GoError (Message Bytes)))
  | returned (result : Except GoError (Message Bytes))
  | panicked

/-- A call of `RequestReplyWithCreator`. -/
structure RRCall where
  ctx : Option CtxErr
  timeout : Int
  hasCreator : Bool
  span : Option SpanContext
  pc : RRPc := .checkCtx
  conn : Connection := .new

def RRCall.spec (r : RequestReplyClient) (call : RRCall) : RequestSpec where
  cfg := r.cfg
  requestQueue := r.requestQueue
  timeout := call.timeout
  hasCreator := call.hasCreator
  span := call.span

namespace RequestReplyClient

def recordState (r : RequestReplyClient) (state : ConnectionState) (err : Option GoError) :
    RequestReplyClient :=
  { r with state := state, lastErr := err }

/-- A timeout or a non-connection error means the connection itself worked. -/
def recordResult (r : RequestReplyClient) : Except GoError (Message Bytes) → RequestReplyClient
  | .ok _ => r.recordState .connected none
  | .error err =>
      if err.is .timeout ∨ isConnectionError err = false then r.recordState .connected none
      else r.recordState .failed (some err)

end RequestReplyClient

/-- Where a call goes after a step of its flow. -/
def FlowOutcome.next {π : Type} (inside : π → RRPc) : FlowOutcome π → RRPc
  | .running pc => inside pc
  | .returned result => .record result
  | .panicked => .closeConn none

/-- One step of `RequestReplyWithCreator`. -/
def requestReplyWithCreator (r : RequestReplyClient) (call : RRCall) (answer : RRAnswer) :
    Option (RequestReplyClient × RRCall) :=
  match call.pc, answer with
  | .checkCtx, .go =>
      match call.ctx with
      | some e => some (r, { call with pc := .returned (.error (.context e)) })
      | none => some (r, { call with pc := .checkClosed })
  | .checkClosed, .go =>
      if r.closed then some (r, { call with pc := .returned (.error ErrClientClosed) })
      else some (r, { call with pc := .dial })
  | .dial, .dialed answer =>
      match Connection.new.dial r.cfg answer with
      | (_, some err) => some (r, { call with pc := .markDialFailed err })
      | (c, none) => (relive r.live call.conn c).map fun live =>
          ({ r with live := live }, { call with
            conn := c
            pc := if r.mode = .fixedQueueSelector then .fixed .generate else .temp .openReply })
  | .markDialFailed err, .go =>
      some (r.recordState .failed (some err), { call with pc := .returned (.error err) })
  | .fixed pc, answer =>
      match requestReplyViaFixedQueue (call.spec r) r.replyQueue pc answer with
      | none => none
      | some (put, out) => some ({ r with requests := r.requests ++ put.toList },
          { call with pc := out.next .fixed })
  | .temp pc, answer =>
      match requestReplyViaTempQueue (call.spec r) pc answer with
      | none => none
      | some (put, out) => some ({ r with requests := r.requests ++ put.toList },
          { call with pc := out.next .temp })
  | .record result, .go => some (r.recordResult result, { call with pc := .closeConn (some result) })
  | .closeConn result, .disced err =>
      (relive r.live call.conn (call.conn.close r.cfg err).1).map fun live =>
        ({ r with live := live }, { call with
          conn := (call.conn.close r.cfg err).1
          pc := match result with
            | some result => .returned result
            | none => .panicked })
  | _, _ => none

/-- The probe that `requestReplyHealthProber` returns. -/
def requestReplyHealthProber (r : RequestReplyClient) : List ConnectionStatus :=
  let component := "request-reply " ++ quote r.requestQueue
  if r.closed then
    [⟨r.cfg.queueManagerName, false, "request-reply client is closed", component⟩]
  else if r.state = .unknown ∧ r.lastErr.isNone then []
  else if r.state = .failed then
    let reason := connectionStateReason .failed ++
      match r.lastErr with
      | none => ""
      | some err => ": " ++ err.text
    [⟨r.cfg.queueManagerName, false, reason, component⟩]
  else [⟨r.cfg.queueManagerName, true, "", component⟩]

inductive RRRequest where
  | requestReply (ctx : Option CtxErr) (timeout : Int) (hasCreator : Bool)
      (span : Option SpanContext)
  | health
  | close

inductive RRThread where
  | call (call : RRCall)
  | probe (details : Option (List ConnectionStatus))
  | close (returned : Bool)

def RRThread.step (r : RequestReplyClient) :
    RRThread → RRAnswer → Option (RequestReplyClient × RRThread)
  | .call running, .cancel e =>
      some (r, .call { running with ctx := some (running.ctx.getD e) })
  | .call running, answer =>
      (requestReplyWithCreator r running answer).map fun s => (s.1, .call s.2)
  | .probe none, .go => some (r, .probe (some (requestReplyHealthProber r)))
  | .close false, .go => some ({ r with closed := true }, .close true)
  | _, _ => none

abbrev RRConfig := Interleave.Config RequestReplyClient RRThread
abbrev RRMove := Interleave.Move RRRequest RRAnswer

def requestReplyProgram :
    Interleave.Program RequestReplyClient RRRequest RRThread RRAnswer where
  start
    | .requestReply ctx timeout hasCreator span => .call { ctx, timeout, hasCreator, span }
    | .health => .probe none
    | .close => .close false
  step r t answer := (t.step r answer).map fun s => (s.1, s.2, [])

end CommonsMQ
