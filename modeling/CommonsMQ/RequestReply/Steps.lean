import CommonsMQ.Lib.Gate
import CommonsMQ.RequestReply.Model

/-! # What one step of a request can do

`FixedStep` lists the steps of the fixed-queue flow. Before the request is put a
step can only fail or move on, and from the creator on the key is carried along
unchanged: the descriptor of the request and the filter of the get are both built
from it. `TempStep` does the same for the temporary queue. The second part is about
calls that have not passed the check of `closed`.
-/

namespace CommonsMQ

open Interleave

/-- The key that the flow has settled on. -/
def FixedPc.key : FixedPc → Option MsgId
  | .generate | .runCreator _ => none
  | .openReply key _ | .openRequest key _ | .mqput key _ | .get key _ => some key

/-- Positions before `MQPUT`. -/
def FixedPc.early : FixedPc → Bool
  | .generate | .runCreator _ | .openReply _ _ | .openRequest _ _ => true
  | .mqput _ _ | .get _ _ => false

inductive FixedStep (spec : RequestSpec) (replyQueue : String) :
    FixedPc → RRAnswer → Option Queued → FlowOutcome FixedPc → Prop where
  | failed {pc answer err} : pc.early = true →
      FixedStep spec replyQueue pc answer none (.returned (.error err))
  | panicked {generated answer} :
      FixedStep spec replyQueue (.runCreator generated) answer none .panicked
  | generated {generated} : FixedStep spec replyQueue .generate (.random (.ok generated)) none
      (.running (.runCreator generated))
  | created {generated answer key msg} : correlationKey generated msg.correlationID = .ok key →
      FixedStep spec replyQueue (.runCreator generated) answer none
        (.running (.openReply key msg))
  | openedReply {key msg} : FixedStep spec replyQueue (.openReply key msg) (.opened none) none
      (.running (.openRequest key msg))
  | openedRequest {key msg} : FixedStep spec replyQueue (.openRequest key msg) (.opened none) none
      (.running (.mqput key msg))
  | put {key msg id} : FixedStep spec replyQueue (.mqput key msg) (.putOk id)
      (some (spec.queued replyQueue key msg id)) (.running (.get key (waitInterval spec.timeout)))
  | putFailed {key msg err landed failure} :
      FixedStep spec replyQueue (.mqput key msg) (.putFailed err landed)
        (landed.map (spec.queued replyQueue key msg)) (.returned (.error failure))
  | got {key wait md data} : FixedStep spec replyQueue (.get key wait) (.got md data) none
      (.returned (.ok (messageFromMQMD md data)))
  | getFailed {key wait err failure} : FixedStep spec replyQueue (.get key wait) (.getFailed err)
      none (.returned (.error failure))

theorem wrappedCreator_returned {spec prepared answer result}
    (h : wrappedCreator spec prepared answer = some (.returned result)) :
    ∃ err, result = .error err := by
  unfold wrappedCreator at h
  split at h
  · split at h
    · split at h
      · simp at h
      · simp only [Option.some.injEq, FlowOutcome.returned.injEq] at h
        exact ⟨_, h.symm⟩
    · simp at h
  · split at h <;> simp at h
  · split at h <;> simp at h
  · simp at h

theorem requestReplyViaFixedQueue_step {spec replyQueue pc answer put out}
    (h : requestReplyViaFixedQueue spec replyQueue pc answer = some (put, out)) :
    FixedStep spec replyQueue pc answer put out := by
  unfold requestReplyViaFixedQueue at h
  split at h
  case h_3 =>
      dsimp only at h
      split at h
      · simp at h
      · obtain ⟨rfl, rfl⟩ := Prod.mk.inj (Option.some.inj h)
        exact .panicked
      · rename_i returned
        obtain ⟨err, rfl⟩ := wrappedCreator_returned returned
        obtain ⟨rfl, rfl⟩ := Prod.mk.inj (Option.some.inj h)
        exact .failed rfl
      · split at h
        · obtain ⟨rfl, rfl⟩ := Prod.mk.inj (Option.some.inj h)
          exact .failed rfl
        · rename_i key settled
          obtain ⟨rfl, rfl⟩ := Prod.mk.inj (Option.some.inj h)
          exact .created settled
  case h_10 =>
      split at h
      · obtain ⟨rfl, rfl⟩ := Prod.mk.inj (Option.some.inj h)
        exact .got
      · simp at h
  case h_12 => simp at h
  all_goals
    obtain ⟨rfl, rfl⟩ := Prod.mk.inj (Option.some.inj h)
    first
      | exact .generated
      | exact .openedReply
      | exact .openedRequest
      | exact .put
      | exact .putFailed
      | exact .getFailed
      | exact .failed rfl

/-- Positions before `MQPUT`. -/
def TempPc.early : TempPc → Bool
  | .openReply | .runCreator _ | .openRequest _ _ => true
  | .mqput _ _ | .get _ _ => false

inductive TempStep (spec : RequestSpec) :
    TempPc → RRAnswer → Option Queued → FlowOutcome TempPc → Prop where
  | failed {pc answer err} : pc.early = true →
      TempStep spec pc answer none (.returned (.error err))
  | panicked {replyQueue answer} : TempStep spec (.runCreator replyQueue) answer none .panicked
  | openedReply {name} : TempStep spec .openReply (.openedDynamic name) none
      (.running (.runCreator name))
  | created {replyQueue answer msg} : TempStep spec (.runCreator replyQueue) answer none
      (.running (.openRequest replyQueue msg))
  | openedRequest {replyQueue msg} : TempStep spec (.openRequest replyQueue msg) (.opened none) none
      (.running (.mqput replyQueue msg))
  | put {replyQueue msg id} : TempStep spec (.mqput replyQueue msg) (.putOk id)
      (some (spec.queued replyQueue (correlIdOf msg.correlationID) msg id))
      (.running (.get replyQueue (waitInterval spec.timeout)))
  | putFailed {replyQueue msg err landed failure} :
      TempStep spec (.mqput replyQueue msg) (.putFailed err landed)
        (landed.map (spec.queued replyQueue (correlIdOf msg.correlationID) msg))
        (.returned (.error failure))
  | got {replyQueue wait md data reply} : TempStep spec (.get replyQueue wait) (.got md data) none
      (.returned (.ok reply))
  | getFailed {replyQueue wait err failure} : TempStep spec (.get replyQueue wait) (.getFailed err)
      none (.returned (.error failure))

theorem requestReplyViaTempQueue_step {spec pc answer put out}
    (h : requestReplyViaTempQueue spec pc answer = some (put, out)) :
    TempStep spec pc answer put out := by
  unfold requestReplyViaTempQueue at h
  split at h
  case h_3 =>
      dsimp only at h
      split at h
      · simp at h
      · obtain ⟨rfl, rfl⟩ := Prod.mk.inj (Option.some.inj h)
        exact .panicked
      · rename_i returned
        obtain ⟨err, rfl⟩ := wrappedCreator_returned returned
        obtain ⟨rfl, rfl⟩ := Prod.mk.inj (Option.some.inj h)
        exact .failed rfl
      · obtain ⟨rfl, rfl⟩ := Prod.mk.inj (Option.some.inj h)
        exact .created
  case h_8 =>
      split at h
      · obtain ⟨rfl, rfl⟩ := Prod.mk.inj (Option.some.inj h)
        exact .got
      · simp at h
  case h_10 => simp at h
  all_goals
    obtain ⟨rfl, rfl⟩ := Prod.mk.inj (Option.some.inj h)
    first
      | exact .openedReply
      | exact .openedRequest
      | exact .put
      | exact .putFailed
      | exact .getFailed
      | exact .failed rfl

/-! ## The check of `closed` -/

/-- A call that has not passed the checks. -/
def RRPc.Refused (pc : RRPc) : Prop :=
  pc = .checkCtx ∨ pc = .checkClosed ∨ pc = .returned (.error ErrClientClosed) ∨
    ∃ e, pc = .returned (.error (.context e))

def RRPc.leftToCheck : RRPc → Nat
  | .checkCtx => 2
  | .checkClosed => 1
  | _ => 0

theorem RequestReplyClient.recordResult_closed (r : RequestReplyClient)
    (result : Except GoError (Message Bytes)) : (r.recordResult result).closed = r.closed := by
  cases result with
  | ok => rfl
  | error err =>
      simp only [recordResult]
      split <;> rfl

/-- Where the flow of a call begins. -/
def RequestReplyClient.flow (r : RequestReplyClient) : RRPc :=
  if r.mode = .fixedQueueSelector then .fixed .generate else .temp .openReply

inductive RequestStep (r : RequestReplyClient) (call : RRCall) :
    RRPc → RRAnswer → RequestReplyClient → RRCall → Prop where
  | done {e} : call.ctx = some e →
      RequestStep r call .checkCtx .go r { call with pc := .returned (.error (.context e)) }
  | live : RequestStep r call .checkCtx .go r { call with pc := .checkClosed }
  | refused : r.closed = true →
      RequestStep r call .checkClosed .go r { call with pc := .returned (.error ErrClientClosed) }
  | passed : r.closed = false →
      RequestStep r call .checkClosed .go r { call with pc := .dial }
  | dialFailed {answer c err} : Connection.new.dial r.cfg answer = (c, some err) →
      RequestStep r call .dial (.dialed answer) r { call with pc := .markDialFailed err }
  | dialed {answer c live} : Connection.new.dial r.cfg answer = (c, none) →
      relive r.live call.conn c = some live →
      RequestStep r call .dial (.dialed answer) { r with live := live }
        { call with conn := c, pc := r.flow }
  | markDialFailed {err} : RequestStep r call (.markDialFailed err) .go
      (r.recordState .failed (some err)) { call with pc := .returned (.error err) }
  | fixed {pc answer put out} :
      requestReplyViaFixedQueue (call.spec r) r.replyQueue pc answer = some (put, out) →
      RequestStep r call (.fixed pc) answer { r with requests := r.requests ++ put.toList }
        { call with pc := out.next .fixed }
  | temp {pc answer put out} :
      requestReplyViaTempQueue (call.spec r) pc answer = some (put, out) →
      RequestStep r call (.temp pc) answer { r with requests := r.requests ++ put.toList }
        { call with pc := out.next .temp }
  | recorded {result} : RequestStep r call (.record result) .go (r.recordResult result)
      { call with pc := .closeConn (some result) }
  | closed {result err live} : relive r.live call.conn (call.conn.close r.cfg err).1 = some live →
      RequestStep r call (.closeConn (some result)) (.disced err) { r with live := live }
        { call with conn := (call.conn.close r.cfg err).1, pc := .returned result }
  | unwound {err live} : relive r.live call.conn (call.conn.close r.cfg err).1 = some live →
      RequestStep r call (.closeConn none) (.disced err) { r with live := live }
        { call with conn := (call.conn.close r.cfg err).1, pc := .panicked }

theorem requestReplyWithCreator_step {r r' : RequestReplyClient} {call call' : RRCall} {answer}
    (h : requestReplyWithCreator r call answer = some (r', call')) :
    RequestStep r call call.pc answer r' call' := by
  unfold requestReplyWithCreator at h
  generalize call.pc = pc at h ⊢
  split at h
  · split at h <;> obtain ⟨rfl, rfl⟩ := Prod.mk.inj (Option.some.inj h)
    · exact .done ‹_›
    · exact .live
  · split at h <;> obtain ⟨rfl, rfl⟩ := Prod.mk.inj (Option.some.inj h)
    · exact .refused ‹_›
    · exact .passed (Bool.eq_false_iff.mpr ‹_›)
  · split at h
    · obtain ⟨rfl, rfl⟩ := Prod.mk.inj (Option.some.inj h)
      exact .dialFailed ‹_›
    · obtain ⟨live, changed, same⟩ := Option.map_eq_some_iff.mp h
      obtain ⟨rfl, rfl⟩ := Prod.mk.inj same
      exact .dialed ‹_› changed
  · obtain ⟨rfl, rfl⟩ := Prod.mk.inj (Option.some.inj h)
    exact .markDialFailed
  · split at h
    · simp at h
    · obtain ⟨rfl, rfl⟩ := Prod.mk.inj (Option.some.inj h)
      exact .fixed ‹_›
  · split at h
    · simp at h
    · obtain ⟨rfl, rfl⟩ := Prod.mk.inj (Option.some.inj h)
      exact .temp ‹_›
  · obtain ⟨rfl, rfl⟩ := Prod.mk.inj (Option.some.inj h)
    exact .recorded
  · rename_i result err
    obtain ⟨live, changed, same⟩ := Option.map_eq_some_iff.mp h
    obtain ⟨rfl, rfl⟩ := Prod.mk.inj same
    cases result with
    | none => exact .unwound changed
    | some result => exact .closed changed
  · simp at h

section Closed

variable {r r' : RequestReplyClient} {call call' : RRCall} {pc : RRPc} {answer : RRAnswer}

theorem RequestStep.closed_eq (step : RequestStep r call pc answer r' call') :
    r'.closed = r.closed := by
  cases step with
  | recorded => exact r.recordResult_closed _
  | _ => rfl

theorem RequestStep.stays_refused (step : RequestStep r call pc answer r' call')
    (closed : r.closed = true) (refused : pc.Refused) : call'.pc.Refused := by
  cases step with
  | done => exact .inr (.inr (.inr ⟨_, rfl⟩))
  | live => exact .inr (.inl rfl)
  | refused => exact .inr (.inr (.inl rfl))
  | passed opened => simp [closed] at opened
  | dialFailed | dialed | markDialFailed | fixed | temp | recorded | closed | unwound =>
      simp [RRPc.Refused] at refused

end Closed

theorem RRPc.Refused.answers {r : RequestReplyClient} {call : RRCall} (closed : r.closed = true)
    (refused : call.pc.Refused) (left : 0 < call.pc.leftToCheck) :
    ∃ call', requestReplyWithCreator r call .go = some (r, call') ∧
      call'.pc.leftToCheck < call.pc.leftToCheck := by
  rcases refused with here | here | here | ⟨e, here⟩
  · simp only [requestReplyWithCreator, here]
    split
    · exact ⟨_, rfl, by simp [leftToCheck]⟩
    · exact ⟨_, rfl, by simp [leftToCheck]⟩
  · exact ⟨{ call with pc := .returned (.error ErrClientClosed) },
      by simp [requestReplyWithCreator, here, closed], by simp [here, leftToCheck]⟩
  · simp [here, leftToCheck] at left
  · simp [here, leftToCheck] at left

inductive RRStep (r : RequestReplyClient) :
    RRThread → RRAnswer → RequestReplyClient → RRThread → Prop where
  | cancelled {call e} : RRStep r (.call call) (.cancel e) r
      (.call { call with ctx := some (call.ctx.getD e) })
  | called {call answer r' call'} : requestReplyWithCreator r call answer = some (r', call') →
      RRStep r (.call call) answer r' (.call call')
  | probed {answer} : RRStep r (.probe none) answer r (.probe (some (requestReplyHealthProber r)))
  | closed {answer} : RRStep r (.close false) answer { r with closed := true } (.close true)

theorem requestReplyProgram_step {r r' : RequestReplyClient} {t t' : RRThread} {answer started}
    (h : requestReplyProgram.step r t answer = some (r', t', started)) :
    RRStep r t answer r' t' ∧ started = [] := by
  obtain ⟨⟨r₁, t₁⟩, moved, same⟩ := Option.map_eq_some_iff.mp h
  simp only [Prod.mk.injEq] at same
  obtain ⟨rfl, rfl, rfl⟩ := same
  refine ⟨?_, rfl⟩
  unfold RRThread.step at moved
  split at moved
  · obtain ⟨rfl, rfl⟩ := Prod.mk.inj (Option.some.inj moved)
    exact .cancelled
  · obtain ⟨⟨r₂, call'⟩, inner, same⟩ := Option.map_eq_some_iff.mp moved
    obtain ⟨rfl, rfl⟩ := Prod.mk.inj same
    exact .called inner
  · obtain ⟨rfl, rfl⟩ := Prod.mk.inj (Option.some.inj moved)
    exact .probed
  · obtain ⟨rfl, rfl⟩ := Prod.mk.inj (Option.some.inj moved)
    exact .closed
  · simp at moved

/-- A step of a request, unless its context is cancelled. -/
theorem next_request {c : RRConfig} {i : Nat} {call : RRCall} {a : RRAnswer}
    (found : c.threads[i]? = some (.call call)) (running : ∀ e, a ≠ .cancel e) :
    requestReplyProgram.next c (.act i a) = (requestReplyWithCreator c.shared call a).map
      fun r => ⟨r.1, c.threads.set i (.call r.2)⟩ := by
  have own : RRThread.step c.shared (.call call) a =
      (requestReplyWithCreator c.shared call a).map fun r => (r.1, .call r.2) := by
    cases a with
    | cancel e => exact absurd rfl (running e)
    | _ => rfl
  simp only [Program.next, found, requestReplyProgram, own]
  cases requestReplyWithCreator c.shared call a with
  | none => rfl
  | some r => simp

/-- On a closed request-reply client no call gets as far as a connection. -/
def requestReplyGate : Gate requestReplyProgram where
  shut := RequestReplyClient.closed
  Outside _ t := ∀ call, t = .call call → call.pc.Refused
  left
    | .call call => call.pc.leftToCheck
    | .probe _ | .close _ => 0
  Shuts t := t = .close true
  start r request := by
    refine ⟨?_, ?_⟩
    · rintro call same
      cases request with
      | requestReply =>
          cases same
          exact .inl rfl
      | health | close => cases same
    · cases request <;> nofun
  stays := by
    intro r t a r' t' started stepped closed
    obtain ⟨step, rfl⟩ := requestReplyProgram_step stepped
    refine ⟨?_, fun u late => late, ?_, by simp⟩
    · cases step with
      | cancelled | probed => exact closed
      | called inner => exact (requestReplyWithCreator_step inner).closed_eq.trans closed
      | closed => rfl
    · rintro late call rfl
      cases step with
      | cancelled => exact (late _ rfl :)
      | called inner => exact (requestReplyWithCreator_step inner).stays_refused closed (late _ rfl)
  sets := by
    intro r t a r' t' started stepped
    obtain ⟨step, rfl⟩ := requestReplyProgram_step stepped
    refine ⟨?_, by simp⟩
    rintro rfl
    cases step with
    | closed => exact .inr rfl
  answers := by
    intro r t closed outside left
    cases t with
    | call running =>
        obtain ⟨call', moved, fewer⟩ := (outside running rfl).answers closed left
        exact ⟨.go, .call call', by simp [requestReplyProgram, RRThread.step, moved], fewer⟩
    | probe | close => simp at left

end CommonsMQ
