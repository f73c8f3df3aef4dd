import CommonsMQ.Lib.Log
import CommonsMQ.Sender.Closing
import CommonsMQ.Sender.Delivery
import CommonsMQ.Telemetry.Model

/-! # The spans and metrics of sends

Every admitted send starts one producer span. What the call has told the instruments is at
every moment a function of its position and of the record of its attempts, whatever other
goroutines do in between; counts over all calls follow. The gauge of connections is
`Sender.activeConns`.
-/

namespace CommonsMQ

open Interleave

/-- The label under which a send counts a connection that it throws away. -/
def discardLabel (reconnects : List (Option GoError)) : String :=
  match reconnects.getLast? with
  | some none => "put_failed"
  | _ => "connection_failed"

/-- What `SendWithCreator` tells the instruments in one step. -/
def sendTelemetry (call call' : SendCall) : List TelemetryCall :=
  match call.pc, call'.pc with
  | .enter, .acquire _ => [startProducerSpan call.destination]
  | .acquire _, .finish (.error err) => incError "connection_failed" :: endSpan (some err)
  | .markDiscarded why, .finish _ =>
      incError (discardLabel call.reconnects) :: endSpan (some why.err)
  | .release _ (.ok msgID), .finish _ =>
      .publishDuration ::
        (if msgID = "" then [] else [.setAttribute "messaging.message.id" msgID]) ++ endSpan none
  | .release _ (.error err), .finish _ =>
      .publishDuration :: incError "put_failed" :: endSpan (some err)
  | _, _ => []

def senderTelemetry (_ : Sender) : SenderThread → SendAnswer → SenderThread → List TelemetryCall
  | .send call, _, .send call' => sendTelemetry call call'
  | _, _, _ => []

/-! ## What a call has told -/

/-- The error of a call that `SendWithCreator` turned away before it counted it. -/
def GoError.isRefusal : GoError → Bool
  | .sentinel .clientClosed => true
  | .plain text => text == noDestination.text
  | _ => false

namespace SendCall

/-- It found no connection, or could not renew the one it had. -/
def lacksConnection (call : SendCall) : Bool :=
  call.attempts.isEmpty || (call.reconnects.getLast?.bind id).isSome

/-- Its only attempt was made on the connection it found. -/
def keptConnection (call : SendCall) : Bool :=
  !call.attempts.isEmpty && call.reconnects.isEmpty

/-- The metrics of a failed send. -/
def failureMetrics (call : SendCall) : List TelemetryCall :=
  (if call.keptConnection then [.publishDuration] else []) ++
    [.errorsTotal (if call.lacksConnection then "connection_failed" else "put_failed")]

/-- What the call tells when its result is settled. -/
def ending (call : SendCall) : Except GoError String → List TelemetryCall
  | .ok msgID => [.publishDuration, .setAttribute "messaging.message.id" msgID, .endSpan]
  | .error err =>
      call.failureMetrics ++ [.recordError err, .setStatus err.text, .endSpan]

/-- A call that has passed the check of `closed`. -/
def admitted (call : SendCall) : Bool :=
  match call.pc with
  | .resolve | .enter => false
  | .returned (.error err) => !err.isRefusal
  | _ => true

/-- What an admitted call has settled on. -/
def settled (call : SendCall) : Option (Except GoError String) :=
  match call.pc with
  | .finish result => some result
  | .returned (.ok msgID) => some (.ok msgID)
  | .returned (.error err) => if err.isRefusal then none else some (.error err)
  | _ => none

/-- What the call has told by now: nothing unless it was admitted, then the start of its span,
    and all the rest once it has settled. -/
def telemetry (call : SendCall) : List TelemetryCall :=
  if call.admitted then
    startProducerSpan call.destination :: (call.settled.map call.ending).getD []
  else []

end SendCall

/-- The error that the call is going to return. -/
def SendPc.carried : SendPc → Option GoError
  | .acquire (.unreserve err) | .acquire (.markDialFailed err) => some err
  | .closeConn _ why | .uncreate _ why | .uncount why | .markDiscarded why => some why.err
  | .release _ (.error err) | .finish (.error err) => some err
  | _ => none

/-- An admitted call does not fail with the error of a refused one. -/
def SendCall.OwnError (call : SendCall) : Prop :=
  ∀ err, call.pc.carried = some err → err.isRefusal = false

/-- A connection is thrown away after a call of `Reconnect` only, and kept after an error only
    if there was none. -/
def SendCall.Kept (call : SendCall) : Prop :=
  match call.pc with
  | .closeConn _ _ | .uncreate _ _ | .uncount _ | .markDiscarded _ => call.reconnects ≠ []
  | .release _ (.error _) => call.attempts ≠ [] ∧ call.reconnects = []
  | _ => True

section Errors

variable {cfg : Config} {ctx : Option CtxErr} {pc : LoopPc} {answer : LoopAnswer} {err : GoError}

theorem newConnectionWithRetry_ownError
    (h : newConnectionWithRetry cfg ctx pc answer = some (.inr (.error err))) :
    err.isRefusal = false := by
  unfold newConnectionWithRetry at h
  split at h
  · split at h <;> cases h
    rfl
  · split at h
    · cases h
    · split at h <;> cases h
      rfl
  · cases h
  · obtain ⟨e, -, same⟩ := Option.map_eq_some_iff.mp h
    cases same
    rfl
  · cases h

theorem reconnect_ownError {c c' : Connection}
    (h : c.reconnect cfg ctx pc answer = some (c', .inr (some err))) : err.isRefusal = false := by
  unfold Connection.reconnect at h
  split at h
  · split at h <;> cases h
    rfl
  · split at h
    · cases h
    · split at h <;> cases h
      rfl
  · cases h
  · obtain ⟨e, -, same⟩ := Option.map_eq_some_iff.mp h
    cases same
    rfl
  · cases h

end Errors

section Steps

variable {s s' : Sender} {call call' : SendCall} {answer : SendAnswer} {err : GoError}

theorem AcquireStep.ownError {ctx : Option CtxErr} {pc : AcquirePc}
    {out : AcquirePc ⊕ Except GoError ConnId} (step : AcquireStep s ctx answer pc s' out)
    (own : ∀ err, (SendPc.acquire pc).carried = some err → err.isRefusal = false) :
    match out with
    | .inl pc' => ∀ err, (SendPc.acquire pc').carried = some err → err.isRefusal = false
    | .inr (.error err) => err.isRefusal = false
    | .inr (.ok _) => True := by
  cases step with
  | dialFailed failed =>
      intro err same
      cases same
      exact newConnectionWithRetry_ownError failed
  | unreserve => exact own
  | markDialFailed => exact own _ rfl
  | cancelled | giveUp => rfl
  | markConnected => trivial
  | _ => simp [SendPc.carried]

theorem PutStep.ownError {queueName span attempt pc attempt'}
    (step : PutStep s queueName span attempt pc answer s' attempt' (.returned (.error err))) :
    err.isRefusal = false := by
  cases step <;> rfl

theorem afterPut_carried (conn : ConnId) (retry : Bool) (result : Except GoError String) :
    (afterPut conn retry result).carried = none ∨
      ∃ err, result = .error err ∧ (afterPut conn retry result).carried = some err := by
  cases result with
  | ok msgID => exact .inl rfl
  | error err =>
      simp only [afterPut]
      split
      · exact .inr ⟨err, rfl, rfl⟩
      · split
        · exact .inl rfl
        · exact .inr ⟨err, rfl, rfl⟩

theorem SendStep.ownError (step : SendStep s call answer s' call') (own : call.OwnError) :
    call'.OwnError := by
  unfold SendCall.OwnError at own ⊢
  cases step with
  | acquiring here inner =>
      rw [here] at own
      exact inner.ownError own
  | acquireFailed here inner =>
      rw [here] at own
      intro err same
      cases same
      exact inner.ownError own
  | putReturned here inner =>
      rename_i conn retry _ _ result
      intro err carried
      obtain none | ⟨e, rfl, some⟩ := afterPut_carried conn retry result
      · simp [none] at carried
      · obtain rfl : e = err := by simpa [some] using carried
        exact inner.ownError
  | reconnectFailed here _ failed =>
      intro err same
      cases same
      exact reconnect_ownError failed
  | closeConn here | uncreate here | uncount here | markDiscarded here =>
      rw [here] at own
      exact own
  | release here room =>
      rename_i conn result
      rw [here] at own
      cases result with
      | ok msgID => simp [SendPc.carried]
      | error err => exact own
  | _ => simp [SendPc.carried]

theorem SendStep.kept (step : SendStep s call answer s' call') (trace : call.Trace False)
    (kept : call.Kept) : call'.Kept := by
  unfold SendCall.Trace at trace
  unfold SendCall.Kept at kept ⊢
  cases step with
  | putReturned here inner =>
      rename_i conn retry _ _ result
      rw [here] at trace
      cases result with
      | ok msgID => trivial
      | error err =>
          cases retry with
          | true => simp [afterPut, trace.2.1]
          | false => by_cases broken : isConnectionError err = true <;>
              simp [afterPut, broken, trace.2.1]
  | reconnectFailed here => simp
  | closeConn here | uncreate here | uncount here =>
      rw [here] at kept
      exact kept
  | _ => trivial

/-- What `put` returns does not end the call. -/
theorem afterPut_telemetry {conn : ConnId} {retry : Bool} {result : Except GoError String}
    (here : call.pc = afterPut conn retry result) :
    call.telemetry = [startProducerSpan call.destination] := by
  unfold afterPut at here
  split at here
  · simp [SendCall.telemetry, SendCall.admitted, SendCall.settled, here]
  · repeat' split at here
    all_goals simp [SendCall.telemetry, SendCall.admitted, SendCall.settled, here]

theorem sendTelemetry_put {conn : ConnId} {retry : Bool} {pc : PutPc}
    (here : call.pc = .put conn retry pc) (call' : SendCall) : sendTelemetry call call' = [] := by
  simp only [sendTelemetry, here]

theorem Succeeded.msgID_ne_empty {attempts : Attempts} {reconnects : List (Option GoError)}
    {msgID : String} (succeeded : Succeeded False attempts reconnects msgID) : msgID ≠ "" := by
  have ended : ∃ a : PutAttempt, a.Ended False (.ok msgID) := by
    obtain ⟨a, ended, -⟩ | ⟨-, a, -, ended, -⟩ := succeeded
    · exact ⟨a, ended⟩
    · exact ⟨a, ended⟩
  obtain ⟨a, -, -, ⟨id, -, same, -⟩ | ⟨err, -, same, -⟩⟩ := ended
  · cases same
    exact id.hex_ne_empty
  · cases same

/-- Of a discarded connection, the record says what the label says. -/
theorem GaveUp.failureMetrics {call : SendCall}
    (gaveUp : GaveUp False call.attempts call.reconnects) (some : call.reconnects ≠ []) :
    call.failureMetrics = [incError (discardLabel call.reconnects)] := by
  obtain ⟨-, -, -, -, none⟩ | ⟨⟨a, e, -, -, attempts⟩, err, reconnects⟩ |
    ⟨first, a, err, -, -, attempts, reconnects⟩ := gaveUp
  · exact absurd none some
  all_goals
    simp [SendCall.failureMetrics, SendCall.keptConnection, SendCall.lacksConnection, discardLabel,
      incError, attempts, reconnects]

open SendCall in
/-- A step adds to the story what it tells. -/
theorem sendStep_tells (step : SendStep s call answer s' call') (trace : call.Trace False)
    (own : call.OwnError) (kept : call.Kept) :
    call'.telemetry = call.telemetry ++ sendTelemetry call call' := by
  unfold SendCall.Trace at trace
  unfold OwnError at own
  unfold Kept at kept
  cases step with
  | noDestination here =>
      have refused : GoError.isRefusal noDestination = true := rfl
      simp [telemetry, admitted, sendTelemetry, here, refused]
  | rejected here =>
      have refused : GoError.isRefusal ErrClientClosed = true := rfl
      simp [telemetry, admitted, sendTelemetry, here, refused]
  | resolved here | admitted here | acquiring here | acquired here =>
      simp [telemetry, admitted, settled, sendTelemetry, here]
  | acquireFailed here =>
      rw [here] at trace
      simp [telemetry, admitted, settled, sendTelemetry, here, ending, failureMetrics,
        keptConnection, lacksConnection, trace.1, incError, endSpan]
  | putting here | putPanicked here =>
      rw [sendTelemetry_put here]
      simp [telemetry, admitted, settled, here]
  | putReturned here =>
      rw [sendTelemetry_put here, afterPut_telemetry rfl]
      simp [telemetry, admitted, settled, here]
  | markReconnecting here | reconnecting here | reconnected here | reconnectFailed here
  | markReconnected here | closeConn here | uncreate here | uncount here | markSent here
  | unwound here => simp [telemetry, admitted, settled, sendTelemetry, here]
  | markDiscarded here =>
      rename_i why
      rw [here] at trace kept
      have metrics :=
        @GaveUp.failureMetrics { call with pc := .finish (.error why.err) } trace.1 kept
      simp [telemetry, admitted, settled, sendTelemetry, here, ending, metrics, endSpan]
  | release here room =>
      rename_i conn result
      rw [here] at trace kept
      cases result with
      | ok msgID =>
          simp [telemetry, admitted, settled, sendTelemetry, here, ending, endSpan,
            Succeeded.msgID_ne_empty trace.1]
      | error err =>
          obtain ⟨some, reconnects⟩ := kept
          obtain ⟨first, rest, attempts⟩ := List.exists_cons_of_ne_nil some
          simp [telemetry, admitted, settled, sendTelemetry, here, ending, failureMetrics,
            keptConnection, lacksConnection, attempts, reconnects, incError, endSpan]
  | finish here =>
      rename_i result
      rw [here] at own
      cases result with
      | ok msgID => simp [telemetry, admitted, settled, sendTelemetry, here, ending]
      | error err =>
          simp [telemetry, admitted, settled, sendTelemetry, here, ending, failureMetrics,
            keptConnection, lacksConnection, own err rfl]

end Steps

/-! ## Over whole runs -/

def SenderThread.Told (past : List TelemetryCall) : SenderThread → Prop
  | .send call => call.Trace False ∧ call.OwnError ∧ call.Kept ∧ past = call.telemetry
  | .probe _ | .close _ => past = []

theorem SenderThread.told_start (r : SenderRequest) : (senderProgram.start r).Told [] := by
  cases r with
  | send => exact ⟨⟨rfl, rfl, rfl⟩, by simp [SendCall.OwnError, SendPc.carried], trivial, rfl⟩
  | health | close => rfl

theorem ThreadStep.told {s s' : Sender} {t t' : SenderThread} {answer : SendAnswer}
    {past : List TelemetryCall} (step : ThreadStep s t answer s' t') (told : t.Told past) :
    t'.Told (past ++ senderTelemetry s t answer t') := by
  cases step with
  | cancel =>
      rename_i call e
      obtain ⟨trace, own, kept, rfl⟩ := told
      refine ⟨trace, own, kept, ?_⟩
      have silent : sendTelemetry call { call with ctx := some (call.ctx.getD e) } = [] := by
        unfold sendTelemetry
        split <;> simp_all
      rw [senderTelemetry, silent, List.append_nil]
      rfl
  | send inner =>
      obtain ⟨trace, own, kept, rfl⟩ := told
      exact ⟨inner.trace trace (fun h => h.elim), inner.ownError own, inner.kept trace kept,
        (sendStep_tells inner trace own kept).symm⟩
  | probe | close =>
      obtain rfl := told
      rfl

theorem senderProgram_tells :
    Program.Tells senderProgram senderTelemetry (fun _ => True) fun _ past t => t.Told past := by
  intro s t a s' t' started _ stepped
  obtain ⟨step, rfl⟩ := senderProgram_step stepped
  exact ⟨trivial, fun _ _ told => told, fun _ told => step.told told, by simp⟩

/-- Whatever runs beside it, a send has told the instruments exactly what its position and the
    record of its attempts say. -/
theorem send_telemetry (s : Sender) (ms : List SenderMove) (c : SenderConfig) (i : Nat)
    (call : SendCall) (run : senderProgram.exec ⟨s, []⟩ ms = some c)
    (found : c.threads[i]? = some (.send call)) :
    entriesOf i (senderProgram.log senderTelemetry ⟨s, []⟩ ms) = call.telemetry := by
  have told := Program.exec_log (fun _ r _ => SenderThread.told_start r) senderProgram_tells
    trivial run found
  exact told.2.2.2

def SenderThread.attempts : SenderThread → Nat
  | .send call => call.attempts.length
  | .probe _ | .close _ => 0

theorem send_telemetry_retried :
    ∃ c call, senderProgram.exec ⟨newSender .minimal "ORDERS" [], []⟩
        (.call (.send "" none false none) :: acquiresByDial 0 7 ++ retriesOnce 0 8) = some c ∧
      c.threads[0]? = some (.send call) ∧ call.attempts.length = 2 ∧
      entriesOf 0 (senderProgram.log senderTelemetry ⟨newSender .minimal "ORDERS" [], []⟩
        (.call (.send "" none false none) :: acquiresByDial 0 7 ++ retriesOnce 0 8)) =
          call.telemetry := by
  have sent : (senderProgram.exec ⟨newSender .minimal "ORDERS" [], []⟩
      (.call (.send "" none false none) :: acquiresByDial 0 7 ++ retriesOnce 0 8)).map
      (fun c => c.threads.map SenderThread.attempts) = some [2] := by
    decide +kernel
  obtain ⟨c, run, lengths⟩ := Option.map_eq_some_iff.mp sent
  obtain ⟨t, threads, two⟩ := List.map_eq_singleton_iff.mp lengths
  have found : c.threads[0]? = some t := by simp [threads]
  cases t with
  | send call => exact ⟨c, call, run, found, two, send_telemetry _ _ c 0 call run found⟩
  | probe | close => cases two

/-! ## Counts -/

namespace SendCall

def failedFor (noConnection : Bool) (call : SendCall) : Bool :=
  match call.settled with
  | some (.error _) => call.lacksConnection == noConnection
  | _ => false

/-- A success, or an error after which the connection stayed in use. -/
def timed (call : SendCall) : Bool :=
  match call.settled with
  | some (.ok _) => true
  | some (.error _) => call.keptConnection
  | none => false

end SendCall

/-- The sends of a sender, and what holds for them. -/
def SenderThread.sends (q : SendCall → Bool) : SenderThread → Bool
  | .send call => q call
  | .probe _ | .close _ => false

/-- Count entries of one kind if every call makes at most one. -/
theorem count_senderLog {s : Sender} {ms : List SenderMove} {c : SenderConfig}
    (kind : TelemetryCall → Bool) {q : SendCall → Bool}
    (each : ∀ call : SendCall, call.telemetry.countP kind = if q call then 1 else 0)
    (run : senderProgram.exec ⟨s, []⟩ ms = some c) :
    (senderProgram.log senderTelemetry ⟨s, []⟩ ms).countP (fun e => kind e.2) =
      c.threads.countP (SenderThread.sends q) := by
  have counted : ∀ (_ : Sender) past (t : SenderThread), t.Told past →
      tally (fun e => if kind e then 1 else 0) past = if t.sends q then 1 else 0 := by
    intro _ past t told
    rw [tally_eq_countP fun _ _ => rfl]
    cases t with
    | send call =>
        obtain ⟨-, -, -, rfl⟩ := told
        rw [each call, SenderThread.sends]
        cases q call <;> rfl
    | probe | close =>
        obtain rfl := told
        rfl
  have sum := Program.tally_log (fun _ r _ => SenderThread.told_start r) senderProgram_tells
    counted trivial run
  rw [tally_eq_countP fun _ _ => rfl, tally_eq_countP fun _ _ => rfl] at sum
  exact_mod_cast sum

/-- The error counter under one label. -/
def TelemetryCall.isErrorOf (label : String) : TelemetryCall → Bool
  | .errorsTotal errType => errType == label
  | _ => false

namespace SendCall

section Kinds

variable (call : SendCall)

theorem admitted_of_settled {result : Except GoError String} (some : call.settled = some result) :
    call.admitted = true := by
  unfold settled at some
  split at some
  · simp only [admitted, ‹call.pc = _›]
  · simp only [admitted, ‹call.pc = _›]
  · split at some
    · cases some
    · simp [admitted, *]
  · cases some

/-- Entries other than the start of the span are made when the call settles. -/
theorem count_settled {kind : TelemetryCall → Bool} {q : Bool}
    (notStart : kind (startProducerSpan call.destination) = false)
    (running : call.settled = none → q = false)
    (each : ∀ result, call.settled = some result →
      (call.ending result).countP kind = if q then 1 else 0) :
    call.telemetry.countP kind = if q then 1 else 0 := by
  unfold telemetry
  cases settled : call.settled with
  | none => split <;> simp [running settled, notStart]
  | some result => simp [call.admitted_of_settled settled, notStart, each result settled]

theorem count_start :
    call.telemetry.countP TelemetryCall.isStart = if call.admitted then 1 else 0 := by
  have none : ∀ result, (call.ending result).countP TelemetryCall.isStart = 0 := by
    intro result
    cases result with
    | ok msgID => rfl
    | error err =>
        simp only [ending, failureMetrics]
        cases call.keptConnection <;> rfl
  unfold telemetry
  split
  · rw [List.countP_cons]
    cases call.settled with
    | none => rfl
    | some result => simp [none, startProducerSpan, TelemetryCall.isStart]
  · rfl

theorem count_end :
    call.telemetry.countP TelemetryCall.isEnd = if call.settled.isSome then 1 else 0 := by
  apply count_settled
  · rfl
  · simp +contextual
  · intro result settled
    rw [settled]
    cases result with
    | ok msgID => rfl
    | error err =>
        simp only [ending, failureMetrics]
        cases call.keptConnection <;> rfl

theorem count_error (noConnection : Bool) :
    call.telemetry.countP
        (TelemetryCall.isErrorOf (if noConnection then "connection_failed" else "put_failed")) =
      if call.failedFor noConnection then 1 else 0 := by
  apply count_settled
  · cases noConnection <;> rfl
  · intro running
    simp [failedFor, running]
  · intro result settled
    cases result with
    | ok msgID =>
        simp only [failedFor, settled]
        cases noConnection <;> rfl
    | error err =>
        simp only [failedFor, settled, ending, failureMetrics]
        cases call.keptConnection <;> cases call.lacksConnection <;> cases noConnection <;> rfl

theorem count_publish :
    call.telemetry.countP TelemetryCall.isPublish = if call.timed then 1 else 0 := by
  apply count_settled
  · rfl
  · intro running
    simp [timed, running]
  · intro result settled
    cases result with
    | ok msgID =>
        simp only [timed, settled]
        rfl
    | error err =>
        simp only [timed, settled, ending, failureMetrics]
        cases call.keptConnection <;> rfl

end Kinds

end SendCall

/-- The error counter has every failed send once, under the label of what it lacked; the
    publish histogram has every send whose connection stayed in use. -/
theorem send_metrics (s : Sender) (ms : List SenderMove) (c : SenderConfig)
    (run : senderProgram.exec ⟨s, []⟩ ms = some c) :
    let log := senderProgram.log senderTelemetry ⟨s, []⟩ ms
    log.countP (fun e => TelemetryCall.isErrorOf "connection_failed" e.2) =
        c.threads.countP (SenderThread.sends (SendCall.failedFor true)) ∧
      log.countP (fun e => TelemetryCall.isErrorOf "put_failed" e.2) =
        c.threads.countP (SenderThread.sends (SendCall.failedFor false)) ∧
      log.countP (fun e => e.2.isPublish) = c.threads.countP (SenderThread.sends SendCall.timed) :=
  ⟨count_senderLog _ (fun call => call.count_error true) run,
    count_senderLog _ (fun call => call.count_error false) run,
    count_senderLog _ (fun call => call.count_publish) run⟩

theorem send_metrics_retried :
    ∃ c, senderProgram.exec ⟨newSender .minimal "ORDERS" [], []⟩
        (.call (.send "" none false none) :: acquiresByDial 0 7 ++ retriesOnce 0 8) = some c ∧
      (senderProgram.log senderTelemetry ⟨newSender .minimal "ORDERS" [], []⟩
        (.call (.send "" none false none) :: acquiresByDial 0 7 ++ retriesOnce 0 8)).countP
          (fun e => e.2.isPublish) = c.threads.countP (SenderThread.sends SendCall.timed) := by
  have sent : (senderProgram.exec ⟨newSender .minimal "ORDERS" [], []⟩
      (.call (.send "" none false none) :: acquiresByDial 0 7 ++ retriesOnce 0 8)).isSome = true := by
    decide +kernel
  obtain ⟨c, run⟩ := Option.isSome_iff_exists.mp sent
  exact ⟨c, run, (send_metrics _ _ c run).2.2⟩

/-! ## Spans left open -/

def SendCall.isPanicked (call : SendCall) : Bool :=
  match call.pc with
  | .panicked => true
  | _ => false

/-- Outside of the counted section, an admitted call has settled or panicked. -/
theorem SendCall.flag_admitted {call : SendCall} (outside : call.pc.inFlight = 0) :
    flag call.admitted = flag call.settled.isSome + flag call.isPanicked := by
  unfold admitted settled isPanicked
  cases here : call.pc with
  | resolve | enter | panicked => rfl
  | returned result =>
      cases result with
      | ok msgID => rfl
      | error err => by_cases refused : err.isRefusal = true <;> simp [refused]
  | _ => simp [here, SendPc.inFlight] at outside

/-- Once `close` has returned, the spans that were started and not ended are those of the
    calls whose creator panicked. -/
theorem spans_after_close (client : ClientConfig) (destinationQueue : String)
    (opts : List SenderOption) (ms : List SenderMove) (c : SenderConfig) (err : Option GoError)
    (run : senderProgram.exec ⟨newSender client destinationQueue opts, []⟩ ms = some c)
    (closed : .close (.returned err) ∈ c.threads) :
    let log := senderProgram.log senderTelemetry ⟨newSender client destinationQueue opts, []⟩ ms
    log.countP (fun e => e.2.isStart) =
      log.countP (fun e => e.2.isEnd) +
        c.threads.countP (SenderThread.sends SendCall.isPanicked) := by
  intro log
  have inv := (GuardInv.start (newSender_fresh client destinationQueue opts)).run run
  have waited := inv.quiet _ closed trivial
  rw [count_senderLog _ SendCall.count_start run, count_senderLog _ SendCall.count_end run]
  apply countP_split
  intro t member
  cases t with
  | send call => exact SendCall.flag_admitted (inv.outside waited member)
  | probe | close => rfl

def SenderThread.hasClosed : SenderThread → Bool
  | .close (.returned none) => true
  | _ => false

/-- A creator panics, and then the sender is closed. -/
def panicsThenCloses : List SenderMove :=
  .call (.send "" none true none) :: acquiresByDial 0 7 ++
    [.act 0 (.opened none), .act 0 .panics, .act 0 .go, .call .close] ++
    List.replicate 5 (.act 1 .go)

theorem spans_after_close_panicked :
    ∃ c, senderProgram.exec ⟨newSender .minimal "ORDERS" [], []⟩ panicsThenCloses = some c ∧
      c.threads.countP (SenderThread.sends SendCall.isPanicked) = 1 ∧
      (senderProgram.log senderTelemetry ⟨newSender .minimal "ORDERS" [], []⟩
        panicsThenCloses).countP (fun e => e.2.isStart) =
      (senderProgram.log senderTelemetry ⟨newSender .minimal "ORDERS" [], []⟩
        panicsThenCloses).countP (fun e => e.2.isEnd) + 1 := by
  have closes : (senderProgram.exec ⟨newSender .minimal "ORDERS" [], []⟩ panicsThenCloses).map
      (fun c => (c.threads.countP (SenderThread.sends SendCall.isPanicked),
        c.threads.any SenderThread.hasClosed)) = some (1, true) := by
    decide +kernel
  obtain ⟨c, run, facts⟩ := Option.map_eq_some_iff.mp closes
  obtain ⟨one, closed⟩ := Prod.mk.inj facts
  obtain ⟨t, member, isClose⟩ := List.any_eq_true.mp closed
  have closed : .close (.returned none) ∈ c.threads := by
    unfold SenderThread.hasClosed at isClose
    split at isClose
    · exact member
    · cases isClose
  have spans := spans_after_close .minimal "ORDERS" [] panicsThenCloses c none run closed
  rw [one] at spans
  exact ⟨c, run, one, spans⟩

end CommonsMQ
