import CommonsMQ.Lib.Log
import CommonsMQ.Listener.Handoff
import CommonsMQ.Listener.Lifecycle
import CommonsMQ.Telemetry.Model

/-! # The spans and metrics of consumers, and their gauge

A consumer makes one span for every message it hands over. Between the return of a failed
handler and the return of the error callback it owes the end of the span and the duration.
The gauge of connections goes up when a consumer is connected for the first time and down
when `runConsumer` begins to return.
-/

namespace CommonsMQ

open Interleave

/-- What `invokeHandler` returned for the last message. -/
def Consumer.handlerErr (k : Consumer) : Option GoError :=
  (k.handed.getLast?.bind HandOff.outcome).bind invokeHandler

/-- The error counter after the handler has returned. -/
def handlerMetric (err : Option GoError) : List TelemetryCall :=
  (err.map fun _ => incError "handler_failed").toList

/-- The end of one turn of `consumeLoop`. -/
def receiveEnding (err : Option GoError) : List TelemetryCall := .receiveDuration :: endSpan err

/-- What `consumeLoop` tells the instruments in one step. -/
def consumerTelemetry (l : Listener) (k k' : Consumer) : List TelemetryCall :=
  match k.pc, k'.pc with
  | .consume (.got _ _), .consume (.handling msg) => [startConsumerSpan l.queue msg.id]
  | .consume (.handling _), .consume .reporting => handlerMetric k'.handlerErr
  | .consume (.handling _), .consume .poll =>
      handlerMetric k'.handlerErr ++ receiveEnding k'.handlerErr
  | .consume .reporting, .consume .poll => receiveEnding k.handlerErr
  | _, _ => []

def listenerTelemetry (l : Listener) :
    ListenerThread → ListenerAnswer → ListenerThread → List TelemetryCall
  | .consumer k, _, .consumer k' => consumerTelemetry l k k'
  | _, _, _ => []

/-! ## What a consumer has told -/

namespace HandOff

/-- A failed handler is counted, whether it returned an error or panicked. -/
def errorCount (h : HandOff) : List TelemetryCall :=
  match h.outcome with
  | none | some .ok => []
  | some (.failed _) | some (.panicked _) => [.errorsTotal "handler_failed"]

/-- What is told when the turn of `consumeLoop` ends: the duration, and the end of the span
    with the error of the handler on it. -/
def ending (h : HandOff) : List TelemetryCall :=
  match h.outcome with
  | none => []
  | some .ok => [.receiveDuration, .endSpan]
  | some (.failed err) => [.receiveDuration, .recordError err, .setStatus err.text, .endSpan]
  | some (.panicked value) =>
      [.receiveDuration,
        .recordError (.wrap (ErrHandlerPanic.text ++ ": " ++ value) [ErrHandlerPanic]),
        .setStatus (ErrHandlerPanic.text ++ ": " ++ value), .endSpan]

/-- All that is told for one message. -/
def telemetry (queue : String) (h : HandOff) : List TelemetryCall :=
  .start "messaging receive" .consumer
      [("messaging.system", "ibmmq"), ("messaging.destination.name", queue),
        ("messaging.operation.type", "receive"), ("messaging.message.id", h.msg.id)] ::
    (h.errorCount ++ h.ending)

@[simp] theorem errorCount_running (msg : Message Memory.Slice) (parent : Option SpanContext) :
    errorCount ⟨msg, parent, none⟩ = [] := rfl

@[simp] theorem errorCount_some (msg : Message Memory.Slice) (parent : Option SpanContext)
    (outcome : HandlerOutcome) :
    errorCount ⟨msg, parent, some outcome⟩ = handlerMetric (invokeHandler outcome) := by
  cases outcome <;> rfl

@[simp] theorem ending_running (msg : Message Memory.Slice) (parent : Option SpanContext) :
    ending ⟨msg, parent, none⟩ = [] := rfl

@[simp] theorem ending_some (msg : Message Memory.Slice) (parent : Option SpanContext)
    (outcome : HandlerOutcome) :
    ending ⟨msg, parent, some outcome⟩ = receiveEnding (invokeHandler outcome) := by
  cases outcome <;> rfl

end HandOff

/-- What a consumer is still to tell for its last message. -/
def Consumer.owed (k : Consumer) : List TelemetryCall :=
  match k.pc with
  | .consume .reporting => (k.handed.getLast?.map HandOff.ending).getD []
  | _ => []

structure Consumer.Tells (l : Listener) (past : List TelemetryCall) (k : Consumer) : Prop where
  calls : past ++ k.owed = k.handed.flatMap (HandOff.telemetry l.queue)
  reported : k.Reported l
  owing : k.pc = .consume .reporting → k.handed ≠ []

section Steps

variable {l l' : Listener} {k k' : Consumer} {past : List TelemetryCall}

theorem closeHandOff_append (outcome : HandlerOutcome) (before : List HandOff) (h : HandOff) :
    closeHandOff outcome (before ++ [h]) = before ++ [{ h with outcome := some outcome }] := by
  simp [closeHandOff]

/-- The turn of `consumeLoop` in which a handler returns. -/
theorem Consumer.Tells.handled {msg : Message Memory.Slice} (tells : k.Tells l past)
    (here : k.pc = .consume (.handling msg)) (outcome : HandlerOutcome) :
    (closeHandOff outcome k.handed).flatMap (HandOff.telemetry l.queue) =
        past ++ (handlerMetric (invokeHandler outcome) ++ receiveEnding (invokeHandler outcome)) ∧
      ((closeHandOff outcome k.handed).getLast?.bind HandOff.outcome).bind invokeHandler =
        invokeHandler outcome ∧
      ((closeHandOff outcome k.handed).getLast?.map HandOff.ending).getD [] =
        receiveEnding (invokeHandler outcome) := by
  have calls := tells.calls
  simp only [Consumer.owed, here, List.append_nil] at calls
  obtain ⟨before, parent, handed, -⟩ := tells.reported.running msg here
  rw [handed] at calls ⊢
  rw [closeHandOff_append]
  refine ⟨?_, by simp, by simp⟩
  rw [calls]
  simp [HandOff.telemetry]

/-- While the error callback runs, the end of the turn is owed. -/
theorem Consumer.Tells.reporting (tells : k.Tells l past)
    (here : k.pc = .consume .reporting) : k.owed = receiveEnding k.handlerErr := by
  obtain ⟨before, h, handed⟩ :=
    (List.eq_nil_or_concat' k.handed).resolve_left (tells.owing here)
  have ended := tells.reported.ended (by simp [here]) h (by simp [handed])
  obtain ⟨msg, parent, outcome⟩ := h
  obtain ⟨outcome, rfl⟩ := Option.isSome_iff_exists.mp ended
  simp [Consumer.owed, Consumer.handlerErr, here, handed]

/-- Only a handler that has returned is reported. -/
theorem ConsumerStep.owing (step : ConsumerStep l k k.pc l' k') (tells : k.Tells l past)
    (reports : k'.pc = .consume .reporting) : k'.handed ≠ [] := by
  generalize here : k.pc = pc at step
  cases step with
  | consuming inner =>
      cases inner with
      | reported =>
          obtain ⟨before, parent, handed, -⟩ := tells.reported.running _ here
          simp [handed, closeHandOff_append]
      | _ => cases reports
  | _ => cases reports

theorem ConsumeStep.telemetry {pc : ConsumePc} {pc' : ConsumePc} (here : k.pc = .consume pc)
    (step : ConsumeStep l k pc l' k' (.inl pc')) (tells : k.Tells l past) :
    past ++ consumerTelemetry l k { k' with pc := .consume pc' } ++
        Consumer.owed { k' with pc := .consume pc' } =
      k'.handed.flatMap (HandOff.telemetry l.queue) := by
  have calls := tells.calls
  cases step with
  | opened | polled _ | got _ | empty _ =>
      simp only [Consumer.owed, here, List.append_nil] at calls
      simpa [Consumer.owed, consumerTelemetry, here] using calls
  | handOff shape =>
      simp only [Consumer.owed, here, List.append_nil] at calls
      simp [Consumer.owed, consumerTelemetry, here, calls, HandOff.telemetry, startConsumerSpan]
  | handled fine | unreported fine _ | reported fine _ =>
      have calls := fun outcome => (tells.handled here outcome).1
      have last := fun outcome => (tells.handled here outcome).2.1
      have ending := fun outcome => (tells.handled here outcome).2.2
      simp [Consumer.owed, consumerTelemetry, here, Consumer.handlerErr, calls, last, ending]
  | calledBack =>
      rw [tells.reporting here] at calls
      simp [Consumer.owed, consumerTelemetry, here, calls]

/-- Outside of the loop nothing is told. -/
theorem Consumer.Tells.outside (tells : k.Tells l past) (left : ∀ pc, k.pc ≠ .consume pc)
    (stays : ∀ pc, k'.pc = .consume pc → pc = .openQueue) (handed : k'.handed = k.handed) :
    past ++ consumerTelemetry l k k' ++ k'.owed =
      k'.handed.flatMap (HandOff.telemetry l.queue) := by
  have owed : k.owed = [] := by
    unfold Consumer.owed
    split <;> simp_all
  have owed' : k'.owed = [] := by
    unfold Consumer.owed
    split <;> simp_all
  have silent : consumerTelemetry l k k' = [] := by
    unfold consumerTelemetry
    split <;> simp_all
  rw [silent, owed', handed, ← tells.calls, owed, List.append_nil]

theorem ConsumerStep.telemetry (step : ConsumerStep l k k.pc l' k') (tells : k.Tells l past) :
    past ++ consumerTelemetry l k k' ++ k'.owed =
      k'.handed.flatMap (HandOff.telemetry l.queue) := by
  generalize here : k.pc = pc at step
  cases step with
  | consuming inner => exact inner.telemetry here tells
  | consumed inner =>
      have calls := tells.calls
      cases inner with
      | openFailed | cancelled _ | getFailed _ =>
          simp only [Consumer.owed, here, List.append_nil] at calls
          simpa [Consumer.owed, consumerTelemetry, here] using calls
  | _ => exact tells.outside (by simp [here]) (by simp) rfl

end Steps

/-! ## Over whole runs -/

def ListenerThread.Tells (l : Listener) (past : List TelemetryCall) : ListenerThread → Prop
  | .consumer k => k.Tells l past
  | .start _ | .probe _ | .close _ => past = []

theorem listenerProgram_tells :
    Program.Tells listenerProgram listenerTelemetry (fun _ => True)
      fun l past t => t.Tells l past := by
  intro l t a l' t' started _ stepped
  have step := listenerProgram_step stepped
  refine ⟨trivial, fun past u tells => ?_, fun past tells => ?_, fun u member => ?_⟩
  · cases u with
    | consumer k =>
        exact ⟨step.queue ▸ tells.calls, tells.reported.other step.onError, tells.owing⟩
    | start | probe | close => exact tells
  · have queue := step.queue
    cases step with
    | start | probe | close =>
        obtain rfl := tells
        rfl
    | consumer inner =>
        exact ⟨queue ▸ inner.telemetry tells, inner.keeps_reported tells.reported,
          inner.owing tells⟩
  · obtain ⟨next, rfl⟩ := step.fresh_new member
    exact ⟨rfl, ⟨by simp, by simp, by simp [Consumer.messageReports]⟩, by simp⟩

/-- A consumer has told the instruments one whole span for every message it handed over, but
    for what it owes while the error callback runs; a span without an end is that of a handler
    that still runs. -/
theorem consumer_telemetry (l : Listener) (ms : List ListenerMove) (c : ListenerConfig) (i : Nat)
    (k : Consumer) (run : listenerProgram.exec ⟨l, []⟩ ms = some c)
    (found : c.threads[i]? = some (.consumer k)) :
    entriesOf i (listenerProgram.log listenerTelemetry ⟨l, []⟩ ms) ++ k.owed =
        k.handed.flatMap (HandOff.telemetry c.shared.queue) ∧
      ((∀ msg, k.pc ≠ .consume (.handling msg)) → ∀ h ∈ k.handed, h.outcome.isSome = true) := by
  have tells : ListenerThread.Tells c.shared _ (.consumer k) :=
    Program.exec_log (fun _ r _ => by cases r <;> rfl) listenerProgram_tells trivial run found
  exact ⟨tells.calls, tells.reported.ended⟩

/-- One message is handled with an error and reported, the next one is being handled. -/
def receivesTwo : List ListenerMove :=
  [.call (.start none none), .act 0 .go, .act 0 .go, .act 0 .go, .act 1 .go, .act 1 .go,
    .act 1 (.loop .check), .act 1 (.loop (.dialed (.ok 7))), .act 1 .go, .act 1 .go,
    .act 1 (.opened none), .act 1 .go, .act 1 (.got {} [1]), .act 1 .go,
    .act 1 (.handled (.panicked "boom")), .act 1 (.callback false), .act 1 .go,
    .act 1 (.got {} [2]), .act 1 .go]

theorem consumer_telemetry_two :
    ∃ c k, listenerProgram.exec ⟨newListener .minimal "IN" [.withListenerConcurrency 1,
        .withListenerErrorHandler true], []⟩ receivesTwo = some c ∧
      c.threads[1]? = some (.consumer k) ∧ k.handed.length = 2 ∧
      entriesOf 1 (listenerProgram.log listenerTelemetry ⟨newListener .minimal "IN"
          [.withListenerConcurrency 1, .withListenerErrorHandler true], []⟩ receivesTwo) ++ k.owed =
        k.handed.flatMap (HandOff.telemetry c.shared.queue) := by
  obtain ⟨c, k, run, found, two⟩ : ∃ c k,
      listenerProgram.exec ⟨newListener .minimal "IN" [.withListenerConcurrency 1,
        .withListenerErrorHandler true], []⟩ receivesTwo = some c ∧
      c.threads[1]? = some (.consumer k) ∧ k.handed.length = 2 :=
    ⟨_, _, rfl, rfl, rfl⟩
  exact ⟨c, k, run, found, two, (consumer_telemetry _ _ c 1 k run found).1⟩

/-! ## The gauge -/

/-- What a consumer adds to the gauge in one step. -/
def Consumer.gaugeChange (k k' : Consumer) : List ℤ :=
  match k.pc, k'.pc with
  | .markConnected, .loopTop => [1]
  | .loopTop, .closeConn _ | .loopReturned _, .closeConn _ | .reconnectFailed _, .closeConn _ =>
      [-1]
  | _, _ => []

def listenerGauge (_ : Listener) :
    ListenerThread → ListenerAnswer → ListenerThread → List ℤ
  | .consumer k, _, .consumer k' => k.gaugeChange k'
  | _, _, _ => []

/-- Between the two. -/
def ConsumerPc.counted : ConsumerPc → Bool
  | .loopTop | .consume _ | .loopReturned _ | .markReconnecting | .reconnect _
  | .reconnectFailed _ | .markReconnected => true
  | _ => false

def ListenerThread.counted : ListenerThread → Bool
  | .consumer k => k.pc.counted
  | .start _ | .probe _ | .close _ => false

theorem ConsumerStep.gauge {l l' : Listener} {k k' : Consumer} (step : ConsumerStep l k k.pc l' k') :
    tally id (k.gaugeChange k') = flag k'.pc.counted - flag k.pc.counted := by
  generalize here : k.pc = pc at step
  cases step <;> simp [Consumer.gaugeChange, here, ConsumerPc.counted]

theorem listenerGauge_tells :
    Program.Tells listenerProgram listenerGauge (fun _ => True)
      fun _ past t => tally id past = flag t.counted := by
  intro l t a l' t' started _ stepped
  have step := listenerProgram_step stepped
  refine ⟨trivial, fun _ _ told => told, fun past told => ?_, fun u member => ?_⟩
  · simp only [tally_append, told]
    cases step with
    | start | probe | close => rfl
    | consumer inner =>
        have change := inner.gauge
        simp only [listenerGauge, ListenerThread.counted]
        omega
  · obtain ⟨next, rfl⟩ := step.fresh_new member
    rfl

/-- The value of the gauge after a run. -/
def gaugeAfter (l : Listener) (ms : List ListenerMove) : ℤ :=
  tally (fun e => e.2) (listenerProgram.log listenerGauge ⟨l, []⟩ ms)

theorem gaugeAfter_eq {l : Listener} {ms : List ListenerMove} {c : ListenerConfig}
    (run : listenerProgram.exec ⟨l, []⟩ ms = some c) :
    gaugeAfter l ms = c.threads.countP ListenerThread.counted := by
  have sum := Program.tally_log (fun _ r _ => by cases r <;> rfl) listenerGauge_tells
    (fun _ _ _ told => told) trivial run
  exact sum.trans (tally_eq_countP fun _ _ => rfl)

/-- The gauge counts the consumers between their first connection and their return. It stays
    between zero and the concurrency, and is zero again when `Start` has returned. -/
theorem listener_gauge (client : ClientConfig) (queueName : String) (opts : List ListenerOption)
    (ms : List ListenerMove) (c : ListenerConfig)
    (run : listenerProgram.exec ⟨newListener client queueName opts, []⟩ ms = some c) :
    gaugeAfter (newListener client queueName opts) ms =
        c.threads.countP ListenerThread.counted ∧
      gaugeAfter (newListener client queueName opts) ms ≤ c.shared.concurrency.toNat ∧
      ∀ call err, .start call ∈ c.threads → call.pc = .returned err →
        gaugeAfter (newListener client queueName opts) ms = 0 := by
  have inv := (ProtocolInv.start client queueName opts).run run
  refine ⟨gaugeAfter_eq run, ?_, fun call err member returned => ?_⟩
  · have most : c.threads.countP ListenerThread.counted ≤ (slots c.threads).length := by
      rw [slots, List.length_filterMap_eq_countP]
      apply List.countP_mono_left
      intro t _ counted
      cases t with
      | consumer k => rfl
      | start | probe | close => cases counted
    obtain ⟨n, small, range⟩ := inv.slots_range
    rw [range, List.length_range] at most
    have size := inv.size
    rw [gaugeAfter_eq run]
    omega
  · have waited := ((inv.agrees _ member).2 err (by rw [returned]; rfl)).1
    rw [gaugeAfter_eq run, Nat.cast_eq_zero, List.countP_eq_zero]
    intro t member counted
    cases t with
    | consumer k =>
        obtain ⟨ret, exited⟩ := inv.exited waited member
        simp [ListenerThread.counted, exited, ConsumerPc.counted] at counted
    | start | probe | close => cases counted

theorem listener_gauge_failsAndStops :
    ∃ c, listenerProgram.exec
        ⟨newListener .minimal "IN" [.withListenerConcurrency 2, .withListenerMaxRetries 1,
          .withListenerErrorHandler true], []⟩ failsAndStops = some c ∧
      gaugeAfter (newListener .minimal "IN" [.withListenerConcurrency 2,
        .withListenerMaxRetries 1, .withListenerErrorHandler true]) failsAndStops = 0 := by
  obtain ⟨c, call, err, run, found, returned⟩ : ∃ c call err,
      listenerProgram.exec
        ⟨newListener .minimal "IN" [.withListenerConcurrency 2, .withListenerMaxRetries 1,
          .withListenerErrorHandler true], []⟩ failsAndStops = some c ∧
      c.threads[0]? = some (.start call) ∧ call.pc = .returned err :=
    ⟨_, _, _, rfl, rfl, rfl⟩
  exact ⟨c, run, (listener_gauge _ _ _ _ c run).2.2 call err (List.mem_of_getElem? found) returned⟩

end CommonsMQ
