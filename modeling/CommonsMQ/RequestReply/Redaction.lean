import CommonsMQ.Redaction
import CommonsMQ.RequestReply.Model

/-! # Credentials and the request-reply client

Every answer of the binding is sanitized by the dial or by `flowFailure` before it
becomes part of an error. -/

namespace CommonsMQ

open Interleave

def RequestReplyClient.redact (r : RequestReplyClient) : RequestReplyClient :=
  { r with cfg := r.cfg.redact }

def RRAnswer.redact : RRAnswer → RRAnswer
  | .dialed answer => .dialed (answer.mapError GoError.redact)
  | .opened err => .opened (err.map GoError.redact)
  | .putFailed err landed => .putFailed err.redact landed
  | .getFailed err => .getFailed err.redact
  | .disced err => .disced (err.map GoError.redact)
  | answer => answer

def RequestSpec.redact (spec : RequestSpec) : RequestSpec := { spec with cfg := spec.cfg.redact }

def RRCall.redact (call : RRCall) : RRCall := { call with conn := call.conn.redact }

def RRThread.redact : RRThread → RRThread
  | .call running => .call running.redact
  | thread => thread

theorem RROption.apply_redact (r : RequestReplyClient) (opt : RROption) :
    opt.apply r.redact = (opt.apply r).redact := by
  obtain ⟨queue⟩ := opt
  by_cases fixed : r.mode = .fixedQueueSelector <;>
    simp [RROption.apply, RequestReplyClient.redact, fixed]

theorem redact_newRequestReplyClient (client : ClientConfig) (requestQueue : String)
    (opts : List RROption) :
    (newRequestReplyClient client requestQueue opts).redact =
      newRequestReplyClient client.redact requestQueue opts :=
  (List.foldl_hom RequestReplyClient.redact RROption.apply_redact).symm

theorem redact_newRequestReplyClientFixed (client : ClientConfig)
    (requestQueue replyQueue : String) (opts : List RROption) :
    (newRequestReplyClientFixed client requestQueue replyQueue opts).redact =
      newRequestReplyClientFixed client.redact requestQueue replyQueue opts :=
  (List.foldl_hom RequestReplyClient.redact RROption.apply_redact).symm

@[simp] theorem flowFailure_redact (what : String) (err : GoError) :
    flowFailure what err.redact = flowFailure what err := by
  simp only [flowFailure, sanitizeError_redact]

@[simp] theorem RequestSpec.requestQueue_redact (spec : RequestSpec) :
    spec.redact.requestQueue = spec.requestQueue := rfl

@[simp] theorem RequestSpec.queued_redact (spec : RequestSpec) :
    spec.redact.queued = spec.queued := rfl

@[simp] theorem RRCall.spec_redact (r : RequestReplyClient) (call : RRCall) :
    call.redact.spec r.redact = (call.spec r).redact := rfl

theorem wrappedCreator_redact (spec : RequestSpec) (prepared : Message Bytes)
    (answer : RRAnswer) :
    wrappedCreator spec.redact prepared answer.redact = wrappedCreator spec prepared answer := by
  cases answer <;> rfl

theorem requestReplyViaFixedQueue_redact (spec : RequestSpec) (replyQueue : String)
    (pc : FixedPc) (answer : RRAnswer) :
    requestReplyViaFixedQueue spec.redact replyQueue pc answer.redact =
      requestReplyViaFixedQueue spec replyQueue pc answer := by
  cases pc
  case runCreator generated =>
      simp only [requestReplyViaFixedQueue, wrappedCreator_redact]
  all_goals cases answer <;> try rfl
  case openReply.opened err => cases err <;> simp [requestReplyViaFixedQueue, RRAnswer.redact]
  case openRequest.opened err => cases err <;> simp [requestReplyViaFixedQueue, RRAnswer.redact]
  case mqput.putFailed => simp [requestReplyViaFixedQueue, RRAnswer.redact]
  case get.getFailed => simp [requestReplyViaFixedQueue, RRAnswer.redact]

theorem requestReplyViaTempQueue_redact (spec : RequestSpec) (pc : TempPc) (answer : RRAnswer) :
    requestReplyViaTempQueue spec.redact pc answer.redact =
      requestReplyViaTempQueue spec pc answer := by
  cases pc
  case runCreator replyQueue =>
      simp only [requestReplyViaTempQueue, wrappedCreator_redact]
  all_goals cases answer <;> try rfl
  case openReply.opened err => cases err <;> simp [requestReplyViaTempQueue, RRAnswer.redact]
  case openRequest.opened err => cases err <;> simp [requestReplyViaTempQueue, RRAnswer.redact]
  case mqput.putFailed => simp [requestReplyViaTempQueue, RRAnswer.redact]
  case get.getFailed => simp [requestReplyViaTempQueue, RRAnswer.redact]

theorem requestReplyWithCreator_redact (r : RequestReplyClient) (call : RRCall)
    (answer : RRAnswer) :
    requestReplyWithCreator r.redact call.redact answer.redact =
      (requestReplyWithCreator r call answer).map fun s => (s.1.redact, s.2.redact) := by
  have spec := call.spec_redact r
  obtain ⟨ctx, timeout, hasCreator, span, pc, conn⟩ := call
  cases pc
  case fixed pc =>
      simp only [RRCall.redact] at spec
      have queue : r.redact.replyQueue = r.replyQueue := rfl
      simp only [requestReplyWithCreator, RRCall.redact, spec, queue,
        requestReplyViaFixedQueue_redact]
      rcases requestReplyViaFixedQueue _ r.replyQueue pc answer with _ | ⟨put, out⟩ <;> rfl
  case temp pc =>
      simp only [RRCall.redact] at spec
      simp only [requestReplyWithCreator, RRCall.redact, spec, requestReplyViaTempQueue_redact]
      rcases requestReplyViaTempQueue _ pc answer with _ | ⟨put, out⟩ <;> rfl
  all_goals cases answer <;> try rfl
  case checkCtx.go => cases ctx <;> rfl
  case checkClosed.go =>
      cases refused : r.closed <;>
        simp [requestReplyWithCreator, RRCall.redact, RRAnswer.redact, RequestReplyClient.redact,
          refused]
  case dial.dialed answer =>
      have dialed := Connection.dial_redact r.cfg .new answer
      change Connection.new.dial r.redact.cfg _ = _ at dialed
      simp only [requestReplyWithCreator, RRAnswer.redact, RRCall.redact, dialed]
      rcases Connection.new.dial r.cfg answer with ⟨c, _ | err⟩
      · have same : relive r.redact.live conn.redact c.redact = relive r.live conn c := rfl
        simp only [same, Option.map_map]
        rfl
      · rfl
  case record.go result =>
      cases result with
      | ok reply => rfl
      | error err =>
          by_cases worked : err.is .timeout = true ∨ isConnectionError err = false <;>
            simp [requestReplyWithCreator, RRAnswer.redact, RRCall.redact, worked,
              RequestReplyClient.redact, RequestReplyClient.recordResult,
              RequestReplyClient.recordState]

theorem RRThread.step_redact (r : RequestReplyClient) (t : RRThread) (answer : RRAnswer) :
    t.redact.step r.redact answer.redact =
      (t.step r answer).map fun s => (s.1.redact, s.2.redact) := by
  cases t with
  | call running =>
      have called := requestReplyWithCreator_redact r running answer
      cases answer with
      | cancel e => rfl
      | _ =>
          simp only [RRAnswer.redact] at called
          simp only [redact, RRAnswer.redact, RRThread.step, called, Option.map_map]
          rfl
  | probe details => cases details <;> cases answer <;> rfl
  | close returned => cases returned <;> cases answer <;> rfl

/-- What a request-reply client does, as far as it can depend on credentials. -/
def requestReplyRedaction : Projection requestReplyProgram where
  memory := RequestReplyClient.redact
  thread := RRThread.redact
  answer := RRAnswer.redact
  ok _ := True
  ok_answer _ := Iff.rfl
  start r := by cases r <;> rfl
  step r t a _ := by
    simp only [requestReplyProgram, RRThread.step_redact, Option.map_map]
    rfl

/-- The error texts and the reasons that a call has returned. -/
def RRThread.texts : RRThread → List String
  | .call running =>
      match running.pc with
      | .returned (.error err) => [err.text]
      | _ => []
  | .probe (some details) => details.map ConnectionStatus.reason
  | .probe none | .close _ => []

theorem RRThread.texts_redact (t : RRThread) : t.redact.texts = t.texts := by
  cases t <;> rfl

end CommonsMQ
