import Mathlib.Data.Rat.Defs
import Mathlib.Algebra.Order.Ring.Unbundled.Rat
import CommonsMQ.Types

/-! # Configuration and telemetry settings

`NewClient` fills defaults into the caller's settings, validates them and stores
the result; everything else in the library reads the stored value.
-/

namespace CommonsMQ

/-- What a context carries of tracing: the span context it was derived from. -/
structure SpanContext where
  traceID : String
  spanID : String
  deriving Repr, DecidableEq

/-- A text map propagator. The carrier interface offers no deletion, so an
    injection is the list of its `Set` calls. -/
structure Propagator where
  inject : Option SpanContext → Properties → List (String × String)
  extract : Option SpanContext → Properties → Option SpanContext

/-- `noopTextMapPropagator`. -/
def Propagator.noop : Propagator where
  inject _ _ := []
  extract ctx _ := ctx

structure TelemetryConfig where
  propagator : Option Propagator

structure TLSConfig where
  keyRepository : String := ""
  certificateLabel : String := ""
  cipherSpec : String := ""
  peerName : String := ""
  fipsRequired : Bool := false

/-- Durations are nanoseconds; the multiplier is read as an exact rational. -/
structure Config where
  queueManagerName : String := ""
  connectionName : String := ""
  channelName : String := ""
  username : String := ""
  password : String := ""
  tls : Option TLSConfig := none
  outputQueue : String := ""
  modelQueue : String := ""
  inputConcurrency : Int := 0
  outputConcurrency : Int := 0
  producerTTL : Int := 0
  maxRetries : Int := 0
  initialRetryInterval : Int := 0
  retryMultiplier : ℚ := 0
  maxRetryInterval : Int := 0
  setQueueManager : Bool := false
  telemetry : Option TelemetryConfig := none

namespace Config

def applyDefaults (c : Config) : Config :=
  { c with
    modelQueue := if c.modelQueue = "" then "SYSTEM.DEFAULT.MODEL.QUEUE" else c.modelQueue
    inputConcurrency := if c.inputConcurrency ≤ 0 then 1 else c.inputConcurrency
    outputConcurrency := if c.outputConcurrency ≤ 0 then 1 else c.outputConcurrency
    maxRetries := if c.maxRetries ≤ 0 then 10 else c.maxRetries
    initialRetryInterval :=
      if c.initialRetryInterval ≤ 0 then 2000000000 else c.initialRetryInterval
    retryMultiplier := if c.retryMultiplier < 1 then 2 else c.retryMultiplier
    maxRetryInterval := if c.maxRetryInterval ≤ 0 then 30000000000 else c.maxRetryInterval }

/-- The complaints of `Validate`, in its order. -/
def complaints (c : Config) : List String :=
  (if c.queueManagerName = "" then ["QueueManagerName is required"] else []) ++
  (if c.connectionName = "" then ["ConnectionName is required"] else []) ++
  (if c.channelName = "" then ["ChannelName is required"] else []) ++
  (if c.inputConcurrency < 1 then ["InputConcurrency must be ≥ 1"] else []) ++
  (if c.outputConcurrency < 1 then ["OutputConcurrency must be ≥ 1"] else []) ++
  (if c.maxRetries < 0 then ["MaxRetries must be ≥ 0"] else []) ++
  (if c.retryMultiplier < 1 then ["RetryMultiplier must be ≥ 1.0"] else []) ++
  (if c.producerTTL < 0 then ["ProducerTTL must be ≥ 0"] else [])

def validate (c : Config) : Option GoError :=
  match c.complaints with
  | [] => none
  | first :: rest =>
      let msg := rest.foldl (fun msg e => msg ++ "; " ++ e) first
      some (.wrap (ErrInvalidConfig.text ++ ": " ++ msg) [ErrInvalidConfig])

/-- Defaults pass their own checks: only required names and the lifetime can
    still be refused. -/
theorem complaints_applyDefaults (c : Config) :
    c.applyDefaults.complaints = [] ↔
      c.queueManagerName ≠ "" ∧ c.connectionName ≠ "" ∧ c.channelName ≠ "" ∧
        0 ≤ c.producerTTL := by
  have input : ¬c.applyDefaults.inputConcurrency < 1 := by
    simp only [applyDefaults]
    split <;> omega
  have output : ¬c.applyDefaults.outputConcurrency < 1 := by
    simp only [applyDefaults]
    split <;> omega
  have retries : ¬c.applyDefaults.maxRetries < 0 := by
    simp only [applyDefaults]
    split <;> omega
  have multiplier : ¬c.applyDefaults.retryMultiplier < 1 := by
    simp only [applyDefaults]
    split
    · decide
    · assumption
  simp only [complaints, input, output, retries, multiplier, if_false, List.append_nil,
    List.append_eq_nil_iff, ite_eq_right_iff, List.cons_ne_nil, imp_false, and_assoc]
  simp only [applyDefaults, ne_eq, not_lt]

end Config

/-- The settings of a `Client`: defaults are filled in and `Validate` passed. -/
structure ClientConfig where
  cfg : Config
  defaulted : ∃ raw : Config, raw.applyDefaults = cfg
  valid : cfg.complaints = []

/-- `NewClient`, as far as it decides which settings are stored. -/
def newClient (raw : Config) : Except GoError ClientConfig :=
  match h : raw.applyDefaults.complaints with
  | [] => .ok ⟨raw.applyDefaults, ⟨raw, rfl⟩, h⟩
  | _ :: _ => .error ((raw.applyDefaults.validate).getD ErrInvalidConfig)

namespace ClientConfig

theorem outputConcurrency_pos (c : ClientConfig) : 1 ≤ c.cfg.outputConcurrency := by
  obtain ⟨raw, defaulted⟩ := c.defaulted
  rw [← defaulted, Config.applyDefaults]
  simp only
  split <;> omega

theorem inputConcurrency_pos (c : ClientConfig) : 1 ≤ c.cfg.inputConcurrency := by
  obtain ⟨raw, defaulted⟩ := c.defaulted
  rw [← defaulted, Config.applyDefaults]
  simp only
  split <;> omega

/-- Only the required names are set. -/
def minimal : ClientConfig where
  cfg := Config.applyDefaults
    { queueManagerName := "QM1", connectionName := "localhost(1414)", channelName := "APP" }
  defaulted := ⟨_, rfl⟩
  valid := (Config.complaints_applyDefaults _).mpr
    ⟨by decide, by decide, by decide, by decide⟩

end ClientConfig

end CommonsMQ
