import CommonsMQ.Lib.Progress
import CommonsMQ.RequestReply.Steps

/-! # Requests come to an end

A request runs straight through: no step goes back, and nothing that another thread does
keeps it from its next step. Its answers (of the queue manager, of the creator) are the only
things it waits for.
-/

namespace CommonsMQ

open Interleave

def FixedPc.left : FixedPc → Nat
  | .generate => 6
  | .runCreator _ => 5
  | .openReply _ _ => 4
  | .openRequest _ _ => 3
  | .mqput _ _ => 2
  | .get _ _ => 1

def TempPc.left : TempPc → Nat
  | .openReply => 5
  | .runCreator _ => 4
  | .openRequest _ _ => 3
  | .mqput _ _ => 2
  | .get _ _ => 1

def RRPc.left : RRPc → Nat
  | .checkCtx => 11
  | .checkClosed => 10
  | .dial => 9
  | .fixed pc => 2 + pc.left
  | .temp pc => 2 + pc.left
  | .record _ => 2
  | .markDialFailed _ | .closeConn _ => 1
  | .returned _ | .panicked => 0

def RRThread.left : RRThread → Nat
  | .call running => running.pc.left
  | .probe none | .close false => 1
  | .probe (some _) | .close true => 0

def RRAnswer.isCancel : RRAnswer → Bool
  | .cancel _ => true
  | _ => false

section Steps

variable {r r' : RequestReplyClient} {call call' : RRCall}

theorem FixedStep.left {spec replyQueue pc answer put out}
    (step : FixedStep spec replyQueue pc answer put out) :
    (out.next .fixed).left < (RRPc.fixed pc).left := by
  cases step with
  | @failed pc => cases pc <;> simp [FlowOutcome.next, RRPc.left, FixedPc.left]
  | _ => simp [FlowOutcome.next, RRPc.left, FixedPc.left]

theorem TempStep.left {spec pc answer put out} (step : TempStep spec pc answer put out) :
    (out.next .temp).left < (RRPc.temp pc).left := by
  cases step with
  | @failed pc => cases pc <;> simp [FlowOutcome.next, RRPc.left, TempPc.left]
  | _ => simp [FlowOutcome.next, RRPc.left, TempPc.left]

theorem RequestStep.left {pc answer} (step : RequestStep r call pc answer r' call') :
    call'.pc.left < pc.left := by
  cases step with
  | fixed inner => exact (requestReplyViaFixedQueue_step inner).left
  | temp inner => exact (requestReplyViaTempQueue_step inner).left
  | dialed =>
      simp only [RequestReplyClient.flow]
      split <;> simp [RRPc.left, FixedPc.left, TempPc.left]
  | _ => simp [RRPc.left]

theorem RRStep.left {t t' answer} (step : RRStep r t answer r' t') :
    t'.left < t.left ∨ answer.isCancel = true ∧ t'.left = t.left := by
  cases step with
  | cancelled => exact .inr ⟨rfl, rfl⟩
  | called inner => exact .inl (requestReplyWithCreator_step inner).left
  | probed | closed => exact .inl one_pos

end Steps

/-- The steps of all threads of a request-reply client. -/
def requestCountdown : Countdown requestReplyProgram where
  Fixed _ := True
  Counted _ := True
  idle := RRAnswer.isCancel
  left := RRThread.left
  stays _ _ := trivial
  kept _ _ _ := trivial
  idles stepped _ _ _ := by
    obtain less | ⟨-, same⟩ := (requestReplyProgram_step stepped).1.left
    · exact less.le
    · exact same.le
  counts stepped _ _ running := by
    obtain less | ⟨idle, -⟩ := (requestReplyProgram_step stepped).1.left
    · exact less
    · rw [idle] at running
      cases running

/-! ## Requests can go on -/

def RRThread.Over : RRThread → Prop
  | .call running => (∃ result, running.pc = .returned result) ∨ running.pc = .panicked
  | .probe details => details.isSome
  | .close returned => returned = true

/-- Thread `i` can make a step of its own. -/
def RRCanStep (c : RRConfig) (i : Nat) : Prop := requestReplyProgram.CanStep RRAnswer.isCancel c i

section Enabled

variable {c : RRConfig} {i : Nat} {request : RRCall}

theorem RRCanStep.of_step {t : RRThread} (answer : RRAnswer) (found : c.threads[i]? = some t)
    (own : answer.isCancel = false) (enabled : (t.step c.shared answer).isSome) :
    RRCanStep c i := by
  refine Program.CanStep.of_step found own ?_
  simpa [requestReplyProgram] using enabled

theorem RRCanStep.call (answer : RRAnswer) (found : c.threads[i]? = some (.call request))
    (own : answer.isCancel = false)
    (enabled : (requestReplyWithCreator c.shared request answer).isSome) : RRCanStep c i := by
  refine .of_step answer found own ?_
  cases answer with
  | cancel => cases own
  | _ => simpa [RRThread.step] using enabled

/-- The creator, if there is one, can always end. -/
theorem wrappedCreator_goesOn (spec : RequestSpec) (prepared : Message Bytes) :
    ∃ answer out, answer.isCancel = false ∧ wrappedCreator spec prepared answer = some out := by
  cases creator : spec.hasCreator with
  | false => exact ⟨.go, _, rfl, by rw [wrappedCreator, creator]; rfl⟩
  | true => exact ⟨.panics, _, rfl, by rw [wrappedCreator, creator]; rfl⟩

theorem requestReplyViaFixedQueue_goesOn (spec : RequestSpec) (replyQueue : String)
    (pc : FixedPc) : ∃ answer, answer.isCancel = false ∧
      (requestReplyViaFixedQueue spec replyQueue pc answer).isSome := by
  cases pc with
  | generate => exact ⟨.random (.ok .zero), rfl, rfl⟩
  | runCreator generated =>
      obtain ⟨answer, out, own, created⟩ := wrappedCreator_goesOn spec
        { correlationID := generated.hex, replyToQueue := replyQueue, body := []
          userProperties := some ∅ }
      refine ⟨answer, own, ?_⟩
      simp only [requestReplyViaFixedQueue, created]
      cases out with
      | running msg =>
          dsimp only
          split <;> rfl
      | returned | panicked => rfl
  | openReply | openRequest => exact ⟨.opened none, rfl, rfl⟩
  | mqput => exact ⟨.putOk .zero, rfl, rfl⟩
  | get => exact ⟨.getFailed ErrTimeout, rfl, rfl⟩

theorem requestReplyViaTempQueue_goesOn (spec : RequestSpec) (pc : TempPc) :
    ∃ answer, answer.isCancel = false ∧ (requestReplyViaTempQueue spec pc answer).isSome := by
  cases pc with
  | openReply => exact ⟨.openedDynamic "", rfl, rfl⟩
  | runCreator replyQueue =>
      obtain ⟨answer, out, own, created⟩ := wrappedCreator_goesOn spec
        { replyToQueue := replyQueue, body := [], userProperties := some ∅ }
      refine ⟨answer, own, ?_⟩
      simp only [requestReplyViaTempQueue, created]
      cases out <;> rfl
  | openRequest => exact ⟨.opened none, rfl, rfl⟩
  | mqput => exact ⟨.putOk .zero, rfl, rfl⟩
  | get => exact ⟨.getFailed ErrTimeout, rfl, rfl⟩

theorem canStep_request (found : c.threads[i]? = some (.call request))
    (running : ¬(RRThread.call request).Over) : RRCanStep c i := by
  cases here : request.pc with
  | checkCtx =>
      refine .call .go found rfl ?_
      cases ctx : request.ctx <;> simp [requestReplyWithCreator, here, ctx]
  | checkClosed =>
      refine .call .go found rfl ?_
      cases closed : c.shared.closed <;> simp [requestReplyWithCreator, here, closed]
  | dial =>
      refine .call (.dialed (.error ErrConnectionFailed)) found rfl ?_
      simp [requestReplyWithCreator, here, Connection.dial]
  | fixed pc =>
      obtain ⟨answer, own, enabled⟩ :=
        requestReplyViaFixedQueue_goesOn (request.spec c.shared) c.shared.replyQueue pc
      obtain ⟨⟨put, out⟩, moved⟩ := Option.isSome_iff_exists.mp enabled
      exact .call answer found own (by simp [requestReplyWithCreator, here, moved])
  | temp pc =>
      obtain ⟨answer, own, enabled⟩ :=
        requestReplyViaTempQueue_goesOn (request.spec c.shared) pc
      obtain ⟨⟨put, out⟩, moved⟩ := Option.isSome_iff_exists.mp enabled
      exact .call answer found own (by simp [requestReplyWithCreator, here, moved])
  | closeConn result =>
      refine .call (.disced none) found rfl ?_
      simp [requestReplyWithCreator, here, relive, Connection.close]
  | markDialFailed | record =>
      exact .call .go found rfl (by simp [requestReplyWithCreator, here])
  | returned result => exact absurd (.inl ⟨result, here⟩) running
  | panicked => exact absurd (.inr here) running

theorem requestReply_canStep {t : RRThread} (found : c.threads[i]? = some t) (running : ¬t.Over) :
    RRCanStep c i := by
  cases t with
  | call request => exact canStep_request found running
  | probe details =>
      cases details with
      | none => exact .of_step .go found rfl rfl
      | some => exact absurd rfl running
  | close returned =>
      cases returned with
      | false => exact .of_step .go found rfl rfl
      | true => exact absurd rfl running

end Enabled

/-- The most steps that a thread makes. -/
def RRThread.mostSteps : RRThread → Nat
  | .call _ => 11
  | .probe _ | .close _ => 1

theorem RRThread.left_le (t : RRThread) : t.left ≤ t.mostSteps := by
  cases t with
  | call running =>
      cases here : running.pc with
      | fixed pc => cases pc <;> simp [left, here, RRPc.left, FixedPc.left, mostSteps]
      | temp pc => cases pc <;> simp [left, here, RRPc.left, TempPc.left, mostSteps]
      | _ => simp [left, here, RRPc.left, mostSteps]
  | probe details => cases details <;> simp [left, mostSteps]
  | close returned => cases returned <;> simp [left, mostSteps]

/-- Whatever else goes on at a request-reply client, a thread of it can go on until it has
    ended, which takes a request at most eleven steps. -/
theorem requests_end (r : RequestReplyClient) (ms : List RRMove) (c : RRConfig)
    (run : requestReplyProgram.exec ⟨r, []⟩ ms = some c) (i : Nat) (t : RRThread)
    (found : c.threads[i]? = some t) :
    stepsOf RRAnswer.isCancel i ms ≤ t.mostSteps ∧ (t.Over ∨ RRCanStep c i) := by
  constructor
  · refine requestCountdown.steps_le_bound (fun _ => trivial) ?_ (fun t _ => t.left_le) trivial
      (by simp) run found
    intro r t answer r' t' started stepped
    refine ⟨?_, fun _ _ => trivial⟩
    cases (requestReplyProgram_step stepped).1 <;> rfl
  · by_contra stuck
    push Not at stuck
    exact stuck.2 (requestReply_canStep found stuck.1)

/-- A request of the longer kind, answered and returned. -/
def answeredInFull : List RRMove :=
  [.call (.requestReply none 1000000000 true none), .act 0 .go, .act 0 .go,
    .act 0 (.dialed (.ok 7)), .act 0 (.random (.ok .zero)), .act 0 (.created (.ok .fresh)),
    .act 0 (.opened none), .act 0 (.opened none), .act 0 (.putOk .zero), .act 0 (.got {} [1]), .act 0 .go,
    .act 0 (.disced none)]

theorem requests_end_answeredInFull :
    ∃ c t, requestReplyProgram.exec
        ⟨newRequestReplyClientFixed .minimal "QUOTES" "REPLIES" [], []⟩ answeredInFull = some c ∧
      c.threads[0]? = some t ∧ stepsOf RRAnswer.isCancel 0 answeredInFull = 11 ∧
      stepsOf RRAnswer.isCancel 0 answeredInFull ≤ t.mostSteps ∧ (t.Over ∨ RRCanStep c 0) :=
  ⟨_, _, rfl, rfl, rfl, requests_end (newRequestReplyClientFixed .minimal "QUOTES" "REPLIES" [])
    answeredInFull _ rfl 0 _ rfl⟩

end CommonsMQ
