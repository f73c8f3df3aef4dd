import CommonsMQ.Errors

/-! # What the components tell OpenTelemetry

The calls on the tracer, on a span and on the instruments of `mqTelemetry`, with everything
that is passed to them but contexts and durations. A goroutine has at most one span open at
a time, so that the calls of one goroutine say which span they are on.
-/

namespace CommonsMQ

inductive SpanKind where
  | producer
  | consumer
  | client
  deriving Repr, DecidableEq

inductive TelemetryCall where
  | start (name : String) (kind : SpanKind) (attributes : List (String × String))
  | setAttribute (key value : String)
  | recordError (err : GoError)
  /-- `SetStatus` with `codes.Error`. -/
  | setStatus (description : String)
  | endSpan
  | publishDuration
  | receiveDuration
  | errorsTotal (errType : String)

def startProducerSpan (queueName : String) : TelemetryCall :=
  .start "messaging send" .producer
    [("messaging.system", "ibmmq"), ("messaging.destination.name", queueName),
      ("messaging.operation.type", "send")]

def startConsumerSpan (queueName msgID : String) : TelemetryCall :=
  .start "messaging receive" .consumer
    [("messaging.system", "ibmmq"), ("messaging.destination.name", queueName),
      ("messaging.operation.type", "receive"), ("messaging.message.id", msgID)]

def startClientSpan (queueName : String) : TelemetryCall :=
  .start "messaging request-reply" .client
    [("messaging.system", "ibmmq"), ("messaging.destination.name", queueName),
      ("messaging.operation.type", "receive")]

def incError (errType : String) : TelemetryCall := .errorsTotal errType

/-- `endSpan`. -/
def endSpan : Option GoError → List TelemetryCall
  | none => [.endSpan]
  | some err => [.recordError err, .setStatus err.text, .endSpan]

namespace TelemetryCall

def isStart : TelemetryCall → Bool
  | .start _ _ _ => true
  | _ => false

def isEnd : TelemetryCall → Bool
  | .endSpan => true
  | _ => false

def isPublish : TelemetryCall → Bool
  | .publishDuration => true
  | _ => false

end TelemetryCall

end CommonsMQ
