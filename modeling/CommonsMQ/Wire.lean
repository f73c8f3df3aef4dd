import CommonsMQ.Config

/-! # What travels on a queue

`put` turns the creator's message into a descriptor and a body; a listener turns
the descriptor and the body it got back into a message. -/

namespace CommonsMQ

variable {β : Type}

/-- The propagator that `newMQTelemetry` resolves. -/
def Config.propagator (cfg : Config) : Propagator :=
  match cfg.telemetry with
  | none => .noop
  | some tel => tel.propagator.getD .noop

def injectToMessage (p : Propagator) (ctx : Option SpanContext) (msg : Message β) : Message β :=
  let carrier := msg.userProperties.getD ∅
  { msg with
    userProperties := some ((p.inject ctx carrier).foldl (fun m kv => m.insert kv.1 kv.2) carrier) }

def extractFromMessage (p : Propagator) (ctx : Option SpanContext) (msg : Message β) :
    Option SpanContext :=
  p.extract ctx (msg.userProperties.getD ∅)

/-- `MQMD.Expiry` for a lifetime, in tenths of a second. -/
def expiryOf (ttl : Int) : Int :=
  if 0 < ttl then toInt32 (ttl.tdiv 100000000) else -1

/-- `CorrelId` as `Sender.put` and the temporary-queue request set it: text that
    is not hex, or too long, leaves it zero. -/
def correlIdOf (correlationID : String) : MsgId :=
  if correlationID = "" then .zero
  else
    match Hex.decodeString correlationID with
    | some decoded => if decoded.length ≤ idLength then MsgId.zero.copy decoded else .zero
    | none => .zero

/-- The descriptor that `Sender.put` passes to `MQPUT`. -/
def putDescriptor (cfg : Config) (msg : Message Bytes) : MQMD where
  expiry := expiryOf (if msg.ttl = 0 then cfg.producerTTL else msg.ttl)
  correlId := correlIdOf msg.correlationID
  replyToQ := msg.replyToQueue
  replyToQMgr :=
    if msg.replyToQueue ≠ "" ∧ msg.replyToQueueManager = "" ∧ cfg.setQueueManager then
      cfg.queueManagerName
    else msg.replyToQueueManager

/-- What becomes of the error of a creator. -/
def creatorFailure (err : GoError) : GoError :=
  .wrap ("commons-mq-go: MessageCreator returned error: " ++ err.text) [err]

/-- `4*1024*1024`, the size of every receive buffer. -/
def bufferSize : Nat := 4194304

/-- A message on a queue. -/
structure Queued where
  queue : String
  md : MQMD
  body : Bytes

/-- `body` is the caller's own copy of the bytes. -/
def messageFromMQMD (md : MQMD) (body : β) : Message β where
  id := md.msgId.hex
  correlationID := md.correlId.hex
  replyToQueue := md.replyToQ
  replyToQueueManager := md.replyToQMgr
  body := body
  userProperties := some ∅

/-- A correlation ID shown by a listener and set on an outgoing message arrives
    as the same bytes. -/
theorem correlIdOf_hex (id : MsgId) : correlIdOf id.hex = id := by
  simp only [correlIdOf, id.hex_ne_empty, if_false, id.decode_hex, id.size, le_refl, if_true,
    MsgId.copy_bytes]

end CommonsMQ
