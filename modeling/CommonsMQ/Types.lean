import Mathlib.Data.Finmap
import CommonsMQ.Lib.Hex
import CommonsMQ.Errors

/-! # Messages, descriptors and connection states -/

namespace CommonsMQ

inductive ConnectionState where
  | connected
  | reconnecting
  | failed
  | unknown
  | stopped
  deriving Repr, DecidableEq

def stateLabel : ConnectionState → String
  | .connected => "connected"
  | .reconnecting => "reconnecting"
  | .failed => "failed"
  | .stopped => "stopped"
  | .unknown => "unknown"

def connectionStateReason (state : ConnectionState) : String :=
  "connection state: " ++ stateLabel state

/-- One entry of `HealthStatus.Details`. -/
structure ConnectionStatus where
  queueManager : String
  alive : Bool
  reason : String := ""
  component : String
  deriving Repr, DecidableEq

abbrev Bytes := List UInt8

/-- The width of `MQMD.MsgId` and `MQMD.CorrelId`. -/
def idLength : Nat := 24

/-- A message or correlation identifier: always exactly `idLength` bytes. -/
structure MsgId where
  bytes : Bytes
  size : bytes.length = idLength
  deriving DecidableEq

namespace MsgId

def zero : MsgId := ⟨List.replicate idLength 0, by simp⟩

/-- Go's `copy(id, src)`: the overlap is overwritten, the rest stays. -/
def copy (id : MsgId) (src : Bytes) : MsgId :=
  ⟨src.take idLength ++ id.bytes.drop src.length, by
    have := id.size
    simp only [List.length_append, List.length_take, List.length_drop]
    omega⟩

/-- The text under which an identifier is shown to the application. -/
def hex (id : MsgId) : String := Hex.encodeToString id.bytes

theorem ext_bytes {a b : MsgId} (same : a.bytes = b.bytes) : a = b := by
  cases a
  cases b
  simpa using same

@[simp] theorem copy_bytes (id src : MsgId) : id.copy src.bytes = src := by
  apply ext_bytes
  simp only [copy, src.size, List.drop_eq_nil_of_le id.size.le, List.append_nil]
  exact List.take_of_length_le src.size.le

@[simp] theorem decode_hex (id : MsgId) : Hex.decodeString id.hex = some id.bytes :=
  Hex.decodeString_encodeToString id.bytes

theorem hex_ne_empty (id : MsgId) : id.hex ≠ "" := by
  intro empty
  have none := Hex.encodeToString_eq_empty empty
  have size := id.size
  simp [none, idLength] at size

end MsgId

/-- The fields of the message descriptor that the library sets or reads. -/
structure MQMD where
  /-- Remaining lifetime in tenths of a second; `-1` is `MQEI_UNLIMITED`. -/
  expiry : Int := -1
  msgId : MsgId := .zero
  correlId : MsgId := .zero
  replyToQ : String := ""
  replyToQMgr : String := ""

/-- Go's `map[string]string`. -/
abbrev Properties := Finmap (fun _ : String => String)

/-- `Message`, over what stands for its `Body`: the bytes themselves, or a
    reference to them where aliasing matters. -/
structure Message (β : Type) where
  id : String := ""
  correlationID : String := ""
  replyToQueue : String := ""
  replyToQueueManager : String := ""
  body : β
  /-- `none` is the nil map. -/
  userProperties : Option Properties := none
  /-- Nanoseconds. -/
  ttl : Int := 0

def Message.mapBody {β γ : Type} (f : β → γ) (msg : Message β) : Message γ where
  id := msg.id
  correlationID := msg.correlationID
  replyToQueue := msg.replyToQueue
  replyToQueueManager := msg.replyToQueueManager
  body := f msg.body
  userProperties := msg.userProperties
  ttl := msg.ttl

/-- The message `put` hands to the creator. -/
def Message.fresh : Message Bytes := { body := [], userProperties := some ∅ }

/-- Conversion to `int32`, which wraps. -/
def toInt32 (n : Int) : Int := n.bmod (2 ^ 32)

end CommonsMQ
