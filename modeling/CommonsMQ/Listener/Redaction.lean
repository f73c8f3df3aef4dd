import CommonsMQ.Redaction
import CommonsMQ.Listener.Model

/-! # Credentials and the Listener

The answer of a failed GET leaves `consumeLoop` as it is, so a consumer treats
redacted answers alike only while its GETs fail with return codes. -/

namespace CommonsMQ

open Interleave

def Listener.redact (l : Listener) : Listener := { l with cfg := l.cfg.redact }

def ListenerAnswer.redact : ListenerAnswer → ListenerAnswer
  | .loop answer => .loop answer.redact
  | .opened err => .opened (err.map GoError.redact)
  | .getFailed err => .getFailed err.redact
  | .disced err => .disced (err.map GoError.redact)
  | answer => answer

/-- A failed GET comes with a return code. -/
def ListenerAnswer.Coded : ListenerAnswer → Prop
  | .getFailed err => err.asMQReturn.isSome
  | _ => True

instance : DecidablePred ListenerAnswer.Coded
  | .getFailed err => inferInstanceAs (Decidable (err.asMQReturn.isSome = true))
  | .go | .cancel _ | .loop _ | .opened _ | .got _ _ | .handled _ | .callback _ | .disced _ =>
      inferInstanceAs (Decidable True)

theorem ListenerAnswer.coded_redact (answer : ListenerAnswer) :
    answer.redact.Coded ↔ answer.Coded := by
  cases answer with
  | getFailed err => simp only [redact, Coded, GoError.asMQReturn_redact]
  | _ => exact Iff.rfl

def Consumer.redact (k : Consumer) : Consumer := { k with conn := k.conn.redact }

def ListenerThread.redact : ListenerThread → ListenerThread
  | .consumer k => .consumer k.redact
  | thread => thread

theorem ListenerOption.apply_redact (l : Listener) (opt : ListenerOption) :
    opt.apply l.redact = (opt.apply l).redact := by
  cases opt with
  | withListenerConcurrency n =>
      by_cases positive : 1 ≤ n <;> simp [ListenerOption.apply, Listener.redact, positive]
  | withListenerMaxRetries n =>
      by_cases valid : 0 ≤ n <;> simp [ListenerOption.apply, Listener.redact, valid]
  | withListenerErrorHandler isSet => rfl

theorem redact_newListener (client : ClientConfig) (queue : String) (opts : List ListenerOption) :
    (newListener client queue opts).redact = newListener client.redact queue opts :=
  congrArg Listener.initStates (List.foldl_hom Listener.redact ListenerOption.apply_redact).symm

theorem consumeLoop_redact (l : Listener) (k : Consumer) (pc : ConsumePc)
    (answer : ListenerAnswer) (coded : answer.Coded) :
    consumeLoop l.redact k.redact pc answer.redact =
      (consumeLoop l k pc answer).map fun r => (r.1.redact, r.2.1.redact, r.2.2) := by
  cases pc <;> cases answer <;> try rfl
  case openQueue.opened err =>
      cases err with
      | none => rfl
      | some err =>
          simp [consumeLoop, ListenerAnswer.redact, Listener.openFailed, Listener.redact,
            Consumer.redact]
  case get.got md data =>
      by_cases fits : data.length ≤ bufferSize <;>
        simp [consumeLoop, ListenerAnswer.redact, Listener.redact, Consumer.redact, fits]
  case get.getFailed err =>
      simp only [ListenerAnswer.redact, GoError.redact_of_code coded]
      rfl
  case handling.handled msg outcome =>
      simp only [consumeLoop, ListenerAnswer.redact]
      cases invokeHandler outcome with
      | none => rfl
      | some err =>
          cases told : l.onError <;> simp [Listener.redact, Consumer.redact, told]

theorem runConsumer_redact (l : Listener) (k : Consumer) (answer : ListenerAnswer)
    (coded : answer.Coded) :
    runConsumer l.redact k.redact answer.redact =
      (runConsumer l k answer).map fun r => (r.1.redact, r.2.redact) := by
  obtain ⟨idx, pc, conn, buf, removed, handed, reports, sawCancel⟩ := k
  cases pc
  case consume pc =>
      have looped := consumeLoop_redact l ⟨idx, .consume pc, conn, buf, removed, handed, reports,
        sawCancel⟩ pc answer coded
      simp only [Consumer.redact] at looped
      simp only [runConsumer, Consumer.redact, looped]
      rcases consumeLoop l _ pc answer with _ | ⟨l', k', pc' | err⟩ <;> rfl
  case markFinal ret =>
      cases ret <;> cases answer <;> try rfl
      case some.go err =>
          cases told : l.onError <;>
            simp [runConsumer, ListenerAnswer.redact, Consumer.redact, Listener.redact,
              Listener.setConsumerState, told]
  all_goals cases answer <;> try rfl
  case dialing.loop pc answer =>
      have dialed := newConnectionWithRetry_redact l.dialConfig l.runCtx pc answer
      change newConnectionWithRetry l.redact.dialConfig l.redact.runCtx pc answer.redact = _
        at dialed
      simp only [runConsumer, ListenerAnswer.redact, Consumer.redact, dialed]
      rcases newConnectionWithRetry l.dialConfig l.runCtx pc answer with _ | pc' | err | c
      · rfl
      · rfl
      · rfl
      · have same : relive l.redact.live conn.redact c.redact = relive l.live conn c := rfl
        simp only [Option.map_some, Sum.map_inr, Except.map, same, Option.map_map]
        rfl
  case loopReturned.go err => cases err <;> rfl
  case reconnect.loop pc answer =>
      have dialed := conn.reconnect_redact l.dialConfig l.runCtx pc answer
      change conn.redact.reconnect l.redact.dialConfig l.redact.runCtx pc answer.redact = _
        at dialed
      simp only [runConsumer, ListenerAnswer.redact, Consumer.redact, dialed]
      rcases conn.reconnect l.dialConfig l.runCtx pc answer with _ | ⟨c, out⟩
      · rfl
      · have same : relive l.redact.live conn.redact c.redact = relive l.live conn c := rfl
        simp only [Option.map_some, same, Option.map_map]
        rfl

theorem startListener_redact (l : Listener) (call : StartCall) (answer : ListenerAnswer) :
    startListener l.redact call answer.redact =
      (startListener l call answer).map
        fun r => (r.1.redact, r.2.1, r.2.2.map Consumer.redact) := by
  obtain ⟨ctx, span, pc⟩ := call
  cases answer <;> try rfl
  case cancel e => cases pc <;> rfl
  case go =>
      cases pc <;> try rfl
      case begin =>
          cases refused : l.closed <;> cases again : l.started <;>
            simp [startListener, ListenerAnswer.redact, Listener.redact, refused, again]
      case launch next =>
          by_cases more : (next : Int) < l.concurrency <;>
            simp [startListener, ListenerAnswer.redact, Listener.redact, Consumer.redact,
              Connection.redact, Connection.new, more]
      case await =>
          by_cases idle : l.wg = 0 <;>
            simp [startListener, ListenerAnswer.redact, Listener.redact, idle]

theorem closeListener_redact (l : Listener) (pc : StopPc) (answer : ListenerAnswer) :
    closeListener l.redact pc answer.redact =
      (closeListener l pc answer).map fun r => (r.1.redact, r.2) := by
  cases pc <;> cases answer <;> try rfl
  case begin.go =>
      cases closed : l.closed <;>
        simp [closeListener, ListenerAnswer.redact, Listener.redact, closed]
  case cancelRun.go running => cases running <;> rfl
  case await.go running =>
      cases running <;> cases done : l.doneClosed <;>
        simp [closeListener, ListenerAnswer.redact, Listener.redact, done]

theorem listenerHealthProber_redact (l : Listener) (pc : ListenerProbePc)
    (answer : ListenerAnswer) :
    listenerHealthProber l.redact pc answer.redact = listenerHealthProber l pc answer := by
  cases pc <;> cases answer <;> rfl

theorem ListenerThread.step_redact (l : Listener) (t : ListenerThread) (answer : ListenerAnswer)
    (coded : answer.Coded) :
    t.redact.step l.redact answer.redact =
      (t.step l answer).map fun r => (r.1.redact, r.2.1.redact, r.2.2.map redact) := by
  cases t with
  | start call =>
      simp only [redact, ListenerThread.step, startListener_redact, Option.map_map]
      cases startListener l call answer with
      | none => rfl
      | some r => simp [redact, Function.comp_def]
  | consumer k =>
      simp only [redact, ListenerThread.step, runConsumer_redact _ _ _ coded, Option.map_map]
      rfl
  | probe pc =>
      simp only [redact, ListenerThread.step, listenerHealthProber_redact, Option.map_map]
      rfl
  | close pc =>
      simp only [redact, ListenerThread.step, closeListener_redact, Option.map_map]
      rfl

/-- What a listener does, as far as it can depend on credentials. -/
def listenerRedaction : Projection listenerProgram where
  memory := Listener.redact
  thread := ListenerThread.redact
  answer := ListenerAnswer.redact
  ok := ListenerAnswer.Coded
  ok_answer := ListenerAnswer.coded_redact
  start r := by cases r <;> rfl
  step l t a coded := t.step_redact l a coded

/-- The error texts and the reasons that a call has returned, and the texts of the errors
    that a consumer has reported to the error callback. -/
def ListenerThread.texts : ListenerThread → List String
  | .start call =>
      match call.pc with
      | .returned err => err.toList.map GoError.text
      | .rejected err => [err.text]
      | _ => []
  | .consumer k => k.reports.map fun report => report.2.text
  | .probe (.returned details) => details.map ConnectionStatus.reason
  | .probe _ | .close _ => []

theorem ListenerThread.texts_redact (t : ListenerThread) : t.redact.texts = t.texts := by
  cases t <;> rfl

end CommonsMQ
