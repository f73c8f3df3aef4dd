import CommonsMQ.Lib.Log
import CommonsMQ.RequestReply.Cancellation
import CommonsMQ.Telemetry.Model

/-! # The spans of requests

A request that passes its two checks has one client span. It is ended by a deferred call, so
that a panic of the creator ends it too. Errors are recorded on the span, but its status is
never set, and no instrument is told anything.
-/

namespace CommonsMQ

open Interleave

/-- What `RequestReplyWithCreator` tells the tracer in one step. -/
def requestTelemetry (r : RequestReplyClient) (call call' : RRCall) : List TelemetryCall :=
  match call.pc, call'.pc with
  | .checkClosed, .dial => [startClientSpan r.requestQueue]
  | .markDialFailed err, .returned _ => [.recordError err, .endSpan]
  | .record (.error err), .closeConn _ => [.recordError err]
  | .closeConn _, .returned _ | .closeConn _, .panicked => [.endSpan]
  | _, _ => []

def requestReplyTelemetry (r : RequestReplyClient) :
    RRThread → RRAnswer → RRThread → List TelemetryCall
  | .call call, _, .call call' => requestTelemetry r call call'
  | _, _, _ => []

/-! ## What a call has told -/

/-- The error of a call that did not pass the checks. -/
def GoError.turnsAway : GoError → Bool
  | .context _ | .sentinel .clientClosed => true
  | _ => false

def recorded : Except GoError (Message Bytes) → List TelemetryCall
  | .ok _ => []
  | .error err => [.recordError err]

/-- What the call has told by now. -/
def RRCall.telemetry (queue : String) (call : RRCall) : List TelemetryCall :=
  match call.pc with
  | .checkCtx | .checkClosed => []
  | .dial | .markDialFailed _ | .fixed _ | .temp _ | .record _ | .closeConn none =>
      [startClientSpan queue]
  | .closeConn (some result) => startClientSpan queue :: recorded result
  | .returned (.ok _) => [startClientSpan queue, .endSpan]
  | .returned (.error err) =>
      if err.turnsAway then [] else [startClientSpan queue, .recordError err, .endSpan]
  | .panicked => [startClientSpan queue, .endSpan]

/-- A call past the checks does not fail with the error of one that was turned away. -/
def RRCall.OwnError (call : RRCall) : Prop :=
  ∀ err, call.pc.failure = some err → err.turnsAway = false

section Errors

variable {spec : RequestSpec} {answer : RRAnswer} {put : Option Queued} {err : GoError}

theorem wrappedCreator_ownError {prepared : Message Bytes}
    (h : wrappedCreator spec prepared answer = some (.returned (.error err))) :
    err.turnsAway = false := by
  unfold wrappedCreator at h
  split at h
  · split at h
    · split at h <;> cases h
      rfl
    · cases h
  · split at h <;> cases h
  · split at h <;> cases h
  · cases h

theorem correlationKey_ownError {generated : MsgId} {correlationID : String}
    (h : correlationKey generated correlationID = .error err) : err.turnsAway = false := by
  unfold correlationKey at h
  split at h
  · cases h
  · split at h
    · cases h
      rfl
    · split at h <;> cases h
      rfl

theorem getFailure_ownError (what : String) (err : GoError) :
    (if isEmptyQueueError err then ErrTimeout else flowFailure what err).turnsAway = false := by
  split <;> rfl

theorem requestReplyViaFixedQueue_ownError {replyQueue : String} {pc : FixedPc}
    (h : requestReplyViaFixedQueue spec replyQueue pc answer =
      some (put, .returned (.error err))) : err.turnsAway = false := by
  unfold requestReplyViaFixedQueue at h
  split at h
  case h_3 =>
      dsimp only at h
      split at h
      · cases h
      · cases h
      · rename_i returned
        cases h
        exact wrappedCreator_ownError returned
      · split at h
        · rename_i rejected
          cases h
          exact correlationKey_ownError rejected
        · cases h
  case h_10 => split at h <;> cases h
  case h_11 =>
      cases h
      exact getFailure_ownError _ _
  all_goals
    cases h
    try rfl

theorem requestReplyViaTempQueue_ownError {pc : TempPc}
    (h : requestReplyViaTempQueue spec pc answer = some (put, .returned (.error err))) :
    err.turnsAway = false := by
  unfold requestReplyViaTempQueue at h
  split at h
  case h_3 =>
      dsimp only at h
      split at h
      · cases h
      · cases h
      · rename_i returned
        cases h
        exact wrappedCreator_ownError returned
      · cases h
  case h_8 => split at h <;> cases h
  case h_9 =>
      cases h
      exact getFailure_ownError _ _
  all_goals
    cases h
    try rfl

end Errors

section Steps

variable {r r' : RequestReplyClient} {call call' : RRCall} {answer : RRAnswer}

/-- What a flow may leave to the call. -/
theorem FlowOutcome.next_ownError {π : Type} {inside : π → RRPc} {out : FlowOutcome π}
    (running : ∀ pc, (inside pc).failure = none)
    (own : ∀ err, out = .returned (.error err) → err.turnsAway = false) :
    ∀ err, (out.next inside).failure = some err → err.turnsAway = false := by
  intro err failure
  cases out with
  | running pc =>
      rw [next, running pc] at failure
      cases failure
  | returned result =>
      cases result with
      | ok msg => cases failure
      | error e =>
          cases failure
          exact own _ rfl
  | panicked => cases failure

theorem RequestStep.ownError (step : RequestStep r call call.pc answer r' call')
    (own : call.OwnError) : call'.OwnError := by
  unfold RRCall.OwnError at own ⊢
  generalize call.pc = pc at step own
  cases step with
  | dialFailed failed =>
      rename_i answer _ _
      intro err same
      cases same
      cases answer with
      | ok handle => cases failed
      | error e =>
          cases failed
          rfl
  | dialed =>
      intro err failure
      unfold RequestReplyClient.flow at failure
      split at failure <;> cases failure
  | fixed inner =>
      exact FlowOutcome.next_ownError (fun _ => rfl) fun err returned =>
        requestReplyViaFixedQueue_ownError (returned ▸ inner)
  | temp inner =>
      exact FlowOutcome.next_ownError (fun _ => rfl) fun err returned =>
        requestReplyViaTempQueue_ownError (returned ▸ inner)
  | recorded =>
      rename_i result
      cases result with
      | ok msg => simp [RRPc.failure]
      | error err => exact own
  | _ => simp [RRPc.failure]

theorem FlowOutcome.next_telemetry {π : Type} {inside : π → RRPc} (out : FlowOutcome π)
    (here : call.pc = out.next inside) (running : ∀ pc, (∃ pc', inside pc = .fixed pc') ∨
      ∃ pc', inside pc = .temp pc') (queue : String) :
    call.telemetry queue = [startClientSpan queue] := by
  cases out with
  | running pc =>
      obtain ⟨pc', flow⟩ | ⟨pc', flow⟩ := running pc <;>
        simp [RRCall.telemetry, here, next, flow]
  | returned result => simp [RRCall.telemetry, here, next]
  | panicked => simp [RRCall.telemetry, here, next]

theorem RequestStep.telemetry (step : RequestStep r call call.pc answer r' call')
    (own : call.OwnError) :
    call'.telemetry r.requestQueue =
      call.telemetry r.requestQueue ++ requestTelemetry r call call' := by
  unfold RRCall.OwnError at own
  generalize here : call.pc = pc at step own
  cases step with
  | done | refused =>
      simp [RRCall.telemetry, requestTelemetry, here, GoError.turnsAway]
  | live | passed => simp [RRCall.telemetry, requestTelemetry, here]
  | dialFailed => simp [RRCall.telemetry, requestTelemetry, here]
  | dialed =>
      have flow : r.flow = .fixed .generate ∨ r.flow = .temp .openReply := by
        unfold RequestReplyClient.flow
        split <;> simp
      obtain flow | flow := flow <;> simp [RRCall.telemetry, requestTelemetry, here, flow]
  | markDialFailed => simp [RRCall.telemetry, requestTelemetry, here, own _ rfl]
  | fixed inner =>
      rename_i out
      rw [FlowOutcome.next_telemetry out rfl fun pc => .inl ⟨pc, rfl⟩]
      simp [RRCall.telemetry, requestTelemetry, here]
  | temp inner =>
      rename_i out
      rw [FlowOutcome.next_telemetry out rfl fun pc => .inr ⟨pc, rfl⟩]
      simp [RRCall.telemetry, requestTelemetry, here]
  | recorded =>
      rename_i result
      cases result <;> simp [RRCall.telemetry, requestTelemetry, here, CommonsMQ.recorded]
  | closed =>
      rename_i result _ _ _
      cases result with
      | ok msg => simp [RRCall.telemetry, requestTelemetry, here, CommonsMQ.recorded]
      | error err =>
          simp [RRCall.telemetry, requestTelemetry, here, CommonsMQ.recorded, own err rfl]
  | unwound => simp [RRCall.telemetry, requestTelemetry, here]

theorem RequestStep.requestQueue {pc : RRPc} (step : RequestStep r call pc answer r' call') :
    r'.requestQueue = r.requestQueue := by
  cases step with
  | recorded =>
      unfold RequestReplyClient.recordResult
      split
      · rfl
      · split <;> rfl
  | _ => rfl

end Steps

/-! ## Over whole runs -/

def RRThread.Told (queue : String) (past : List TelemetryCall) : RRThread → Prop
  | .call running => running.OwnError ∧ past = running.telemetry queue
  | .probe _ | .close _ => past = []

theorem RRStep.told {r r' : RequestReplyClient} {t t' : RRThread} {answer : RRAnswer}
    {past : List TelemetryCall} (step : RRStep r t answer r' t')
    (told : t.Told r.requestQueue past) :
    t'.Told r.requestQueue (past ++ requestReplyTelemetry r t answer t') := by
  cases step with
  | cancelled =>
      rename_i call e
      obtain ⟨own, rfl⟩ := told
      have silent : requestTelemetry r call { call with ctx := some (call.ctx.getD e) } = [] := by
        unfold requestTelemetry
        split <;> simp_all
      refine ⟨own, ?_⟩
      rw [requestReplyTelemetry, silent, List.append_nil]
      rfl
  | called stepped =>
      obtain ⟨own, rfl⟩ := told
      have step := requestReplyWithCreator_step stepped
      exact ⟨step.ownError own, (step.telemetry own).symm⟩
  | probed | closed =>
      obtain rfl := told
      rfl

theorem RRStep.requestQueue {r r' : RequestReplyClient} {t t' : RRThread} {answer : RRAnswer}
    (step : RRStep r t answer r' t') : r'.requestQueue = r.requestQueue := by
  cases step with
  | called stepped => exact (requestReplyWithCreator_step stepped).requestQueue
  | cancelled | probed | closed => rfl

theorem requestReplyProgram_tells (queue : String) :
    Program.Tells requestReplyProgram requestReplyTelemetry (fun r => r.requestQueue = queue)
      fun _ past t => t.Told queue past := by
  intro r t a r' t' started same stepped
  obtain ⟨step, rfl⟩ := requestReplyProgram_step stepped
  obtain rfl := same
  exact ⟨step.requestQueue, fun _ _ told => told, fun _ told => step.told told, by simp⟩

theorem RRThread.told_start (queue : String) (request : RRRequest) :
    (requestReplyProgram.start request).Told queue [] := by
  cases request with
  | requestReply => exact ⟨by simp [RRCall.OwnError, RRPc.failure], rfl⟩
  | health | close => rfl

/-- Whatever runs beside it, a request has told the tracer exactly what its position says: one
    span for each call past the checks, ended when the call has returned or panicked. -/
theorem request_telemetry (r : RequestReplyClient) (ms : List RRMove) (c : RRConfig) (i : Nat)
    (call : RRCall) (run : requestReplyProgram.exec ⟨r, []⟩ ms = some c)
    (found : c.threads[i]? = some (.call call)) :
    entriesOf i (requestReplyProgram.log requestReplyTelemetry ⟨r, []⟩ ms) =
      call.telemetry r.requestQueue := by
  have told : RRThread.Told r.requestQueue _ (.call call) :=
    Program.exec_log (G := fun r' => r'.requestQueue = r.requestQueue)
      (fun _ request _ => RRThread.told_start r.requestQueue request)
      (requestReplyProgram_tells r.requestQueue) rfl run found
  exact told.2

/-- The creator of a request over a temporary queue panics. -/
def panicsInCreator : List RRMove :=
  [.call (.requestReply none 1000000000 true none), .act 0 .go, .act 0 .go, .act 0 (.dialed (.ok 7)),
    .act 0 (.openedDynamic "AMQ.1"), .act 0 .panics, .act 0 (.disced none)]

theorem request_telemetry_panicked :
    ∃ c call, requestReplyProgram.exec ⟨newRequestReplyClient .minimal "QUOTES" [], []⟩
        panicsInCreator = some c ∧ c.threads[0]? = some (.call call) ∧ call.pc = .panicked ∧
      entriesOf 0 (requestReplyProgram.log requestReplyTelemetry
        ⟨newRequestReplyClient .minimal "QUOTES" [], []⟩ panicsInCreator) =
        [startClientSpan "QUOTES", .endSpan] := by
  obtain ⟨c, call, run, found, panicked⟩ : ∃ c call,
      requestReplyProgram.exec ⟨newRequestReplyClient .minimal "QUOTES" [], []⟩
        panicsInCreator = some c ∧ c.threads[0]? = some (.call call) ∧ call.pc = .panicked :=
    ⟨_, _, rfl, rfl, rfl⟩
  refine ⟨c, call, run, found, panicked, ?_⟩
  rw [request_telemetry _ _ c 0 call run found]
  simp only [RRCall.telemetry, panicked]
  rfl

end CommonsMQ
