import CommonsMQ.Listener.Protocol

/-! # From the queue to the handler

A consumer takes messages off the queue without a transaction, so what its GETs
removed must reach the handler: nothing skipped, nothing twice. All of them arrive
in one buffer, and every message gets its own copy of the bytes. `Receives` is what
one step can do with the buffer, the message in it and the messages handed on.
-/

namespace CommonsMQ

open Interleave Memory

/-- The cell into which the consumer may still receive. -/
def ConsumerPc.buffer (buf : Slice) : ConsumerPc → Option Nat
  | .consume .openQueue => none
  | .consume _ => some buf.cell
  | _ => none

/-- The message that was received and not yet handed on. -/
def ConsumerPc.pending : ConsumerPc → List (MQMD × Slice)
  | .consume (.got md data) => [(md, data)]
  | _ => []

namespace Consumer

def buffer (k : Consumer) : Option Nat := k.pc.buffer k.buf

def pending (k : Consumer) : List (MQMD × Slice) := k.pc.pending

def messages (k : Consumer) : List (Message Slice) := k.handed.map HandOff.msg

end Consumer

/-- A message as the handler sees it. -/
def Listener.seen (l : Listener) (msg : Message Slice) : Message Bytes := msg.mapBody l.heap.read

theorem closeHandOff_msg (outcome : HandlerOutcome) (handed : List HandOff) :
    (closeHandOff outcome handed).map HandOff.msg = handed.map HandOff.msg := by
  unfold closeHandOff
  cases last : handed.getLast? with
  | none => rfl
  | some h =>
      obtain ⟨init, rfl⟩ := List.getLast?_eq_some_iff.mp last
      simp

/-! ## One step with the buffer -/

inductive Receives (l : Listener) (k : Consumer) (pc : ConsumerPc) (l' : Listener)
    (k' : Consumer) : Prop where
  | kept : l'.heap = l.heap → k'.buffer = pc.buffer k.buf → k'.pending = pc.pending →
      k'.messages = k.messages → k'.removed = k.removed → Receives l k pc l' k'
  | dropped : l'.heap = l.heap → k'.buffer = none → k'.pending = [] → pc.pending = [] →
      k'.messages = k.messages → k'.removed = k.removed → Receives l k pc l' k'
  | opened : l'.heap = (l.heap.alloc (Cell.ofList [])).1 → pc.buffer k.buf = none →
      k'.buffer = some l.heap.cells.length → k'.pending = [] → pc.pending = [] →
      k'.messages = k.messages → k'.removed = k.removed → Receives l k pc l' k'
  | got {md data cell} : l'.heap = l.heap.write cell data → pc.buffer k.buf = some cell →
      k'.buffer = some cell → k'.pending = [(md, ⟨cell, data.length⟩)] → pc.pending = [] →
      k'.messages = k.messages → k'.removed = k.removed ++ [(md, data)] → Receives l k pc l' k'
  | handOff {md data} : l'.heap = (l.heap.alloc (Cell.ofList (l.heap.read data))).1 →
      k'.buffer = pc.buffer k.buf → pc.pending = [(md, data)] → k'.pending = [] →
      k'.messages = k.messages ++ [messageFromMQMD md ⟨l.heap.cells.length, data.length⟩] →
      k'.removed = k.removed → Receives l k pc l' k'

section Steps

variable {l l' : Listener} {k k' : Consumer}

theorem ConsumeStep.receives {pc pc'} (step : ConsumeStep l k pc l' k' (.inl pc')) :
    Receives l k (.consume pc) l' { k' with pc := .consume pc' } := by
  cases step with
  | opened => exact .opened rfl rfl rfl rfl rfl rfl rfl
  | polled | empty | calledBack => exact .kept rfl rfl rfl rfl rfl
  | got => exact .got rfl rfl rfl rfl rfl rfl rfl
  | handOff same =>
      subst same
      exact .handOff rfl rfl rfl rfl (List.map_append ..) rfl
  | handled | unreported | reported => exact .kept rfl rfl rfl (closeHandOff_msg _ _) rfl

theorem ConsumerStep.receives {pc} (step : ConsumerStep l k pc l' k') :
    Receives l k pc l' k' := by
  cases step with
  | consuming inner => exact inner.receives
  | consumed inner =>
      cases inner with
      | openFailed | cancelled | getFailed => exact .dropped rfl rfl rfl rfl rfl rfl
  | _ => exact .kept rfl rfl rfl rfl rfl

theorem Receives.grows {pc} (step : Receives l k pc l' k') :
    l.heap.Grows (pc.buffer k.buf) l'.heap := by
  cases step with
  | kept heap | dropped heap =>
      rw [heap]
      exact .refl _ _
  | opened heap | handOff heap =>
      rw [heap]
      exact Heap.grows_alloc _ _ _
  | got heap buffer =>
      rw [heap, buffer]
      exact Heap.grows_write _ _ _

end Steps

/-! ## The invariant -/

def ListenerThread.buffer : ListenerThread → Option Nat
  | .consumer k => k.buffer
  | _ => none

def buffers (threads : List ListenerThread) : List Nat :=
  threads.filterMap ListenerThread.buffer

/-- Everything a consumer has received is with the handler, or still in the buffer. -/
structure Holds (l : Listener) (written : List Nat) (k : Consumer) : Prop where
  apart : ∀ msg ∈ k.messages, msg.body.cell < l.heap.cells.length ∧ msg.body.cell ∉ written
  within : ∀ p ∈ k.pending, k.buffer = some p.2.cell
  delivered : k.messages.map l.seen ++
      k.pending.map (fun p => messageFromMQMD p.1 (l.heap.read p.2)) =
    k.removed.map fun r => messageFromMQMD r.1 r.2

structure BodyInv (c : ListenerConfig) : Prop where
  distinct : (buffers c.threads).Nodup
  inside : ∀ cell ∈ buffers c.threads, cell < c.shared.heap.cells.length
  holds : ∀ k, .consumer k ∈ c.threads → Holds c.shared (buffers c.threads) k

section Keeps

variable {c : ListenerConfig} {l l' : Listener} {k k' : Consumer} {t t' : ListenerThread}
  {fresh : List ListenerThread} {i j : Nat} {written written' : List Nat}

theorem ListenerStep.grows (step : ListenerStep l t l' t' fresh) :
    l.heap.Grows t.buffer l'.heap := by
  cases step with
  | start inner =>
      rw [inner.sameConsumers.heap]
      exact .refl _ _
  | consumer inner => exact inner.receives.grows
  | probe => exact .refl _ _
  | close inner =>
      rw [inner.sameConsumers.heap]
      exact .refl _ _

/-- A buffer is kept, given up, or new. -/
theorem ListenerStep.buffer (step : ListenerStep l t l' t' fresh) :
    t'.buffer = t.buffer ∨ t'.buffer = none ∨
      t.buffer = none ∧ t'.buffer = some l.heap.cells.length ∧
        l.heap.cells.length < l'.heap.cells.length := by
  cases step with
  | consumer inner =>
      cases inner.receives with
      | kept _ same => exact .inl same
      | dropped _ none => exact .inr (.inl none)
      | opened heap before after =>
          refine .inr (.inr ⟨before, after, ?_⟩)
          rw [heap]
          simp [Heap.alloc]
      | got _ before after => exact .inl (after.trans before.symm)
      | handOff _ same => exact .inl same
  | start | probe | close => exact .inl rfl

theorem ListenerStep.fresh_buffer (step : ListenerStep l t l' t' fresh) : buffers fresh = [] := by
  cases step with
  | start inner =>
      obtain ⟨rfl, -⟩ | ⟨next, -, -, rfl, -⟩ := inner.fresh_cases
      · rfl
      · rfl
  | consumer | probe | close => rfl

/-- The buffers after a step: those from before, and perhaps a new cell. -/
theorem BodyInv.buffers_act (inv : BodyInv c) (found : c.threads[i]? = some t)
    (step : ListenerStep c.shared t l t' fresh) :
    (buffers (c.threads.set i t' ++ fresh)).Nodup ∧
      ∀ cell ∈ buffers (c.threads.set i t' ++ fresh), cell ∈ buffers c.threads ∨
        cell = c.shared.heap.cells.length ∧ t.buffer = none ∧
          c.shared.heap.cells.length < l.heap.cells.length := by
  have apart : buffers (c.threads.set i t' ++ fresh) = buffers (c.threads.set i t') := by
    rw [buffers, List.filterMap_append]
    exact (congrArg _ step.fresh_buffer).trans (List.append_nil _)
  rw [apart]
  obtain same | none | ⟨before, after, more⟩ := step.buffer
  · rw [buffers, filterMap_set_same found same]
    exact ⟨inv.distinct, fun cell member => .inl member⟩
  · have fewer : (buffers (c.threads.set i t')).Sublist (buffers c.threads) :=
      filterMap_set_sublist none
    exact ⟨inv.distinct.sublist fewer, fun cell member => .inl (fewer.subset member)⟩
  · have perm : (buffers (c.threads.set i t')).Perm (_ :: buffers c.threads) :=
      filterMap_set_perm found before after
    constructor
    · refine perm.nodup_iff.mpr (List.nodup_cons.mpr ⟨fun member => ?_, inv.distinct⟩)
      exact absurd (inv.inside _ member) (lt_irrefl _)
    · intro cell member
      rcases List.mem_cons.mp (perm.subset member) with rfl | old
      · exact .inr ⟨rfl, before, more⟩
      · exact .inl old

theorem seen_eq {writes : Option Nat} (grows : l.heap.Grows writes l'.heap) {msg : Message Slice}
    (inside : msg.body.cell < l.heap.cells.length) (other : writes ≠ some msg.body.cell) :
    l'.seen msg = l.seen msg := by
  simp only [Listener.seen, Message.mapBody, grows.read_eq _ inside other]

/-- What was handed on stays readable while other cells are written or added. -/
theorem Holds.messages_eq (holds : Holds l written k) {writes : Option Nat}
    (grows : l.heap.Grows writes l'.heap) (into : ∀ cell, writes = some cell → cell ∈ written) :
    k.messages.map l'.seen = k.messages.map l.seen := by
  apply List.map_congr_left
  intro msg member
  obtain ⟨inside, notWritten⟩ := holds.apart msg member
  exact seen_eq grows inside fun same => notWritten (into _ same)

theorem Holds.apart_of (holds : Holds l written k)
    (size : l.heap.cells.length ≤ l'.heap.cells.length)
    (older : ∀ cell ∈ written', cell ∈ written ∨ cell = l.heap.cells.length) :
    ∀ msg ∈ k.messages, msg.body.cell < l'.heap.cells.length ∧ msg.body.cell ∉ written' := by
  intro msg member
  obtain ⟨inside, notWritten⟩ := holds.apart msg member
  refine ⟨by omega, fun now => ?_⟩
  rcases older _ now with old | new
  · exact notWritten old
  · omega

theorem Holds.other (holds : Holds l written k) {writes : Option Nat}
    (grows : l.heap.Grows writes l'.heap) (into : ∀ cell, writes = some cell → cell ∈ written)
    (own : ∀ cell, k.buffer = some cell → cell < l.heap.cells.length ∧ writes ≠ some cell)
    (older : ∀ cell ∈ written', cell ∈ written ∨ cell = l.heap.cells.length) :
    Holds l' written' k := by
  refine ⟨holds.apart_of grows.length_le older, holds.within, ?_⟩
  rw [holds.messages_eq grows into, ← holds.delivered]
  congr 1
  apply List.map_congr_left
  intro p member
  obtain ⟨inside, other⟩ := own _ (holds.within p member)
  rw [grows.read_eq _ inside other]

theorem Receives.holds {pc} (step : Receives l k pc l' k') (same : pc = k.pc)
    (holds : Holds l written k) (into : ∀ cell, k.buffer = some cell → cell ∈ written)
    (inside : ∀ cell ∈ written, cell < l.heap.cells.length)
    (older : ∀ cell ∈ written', cell ∈ written ∨
      cell = l.heap.cells.length ∧ k.buffer = none) : Holds l' written' k' := by
  subst same
  have grows := step.grows
  have read := holds.messages_eq grows into
  have apart := holds.apart_of grows.length_le fun cell now => (older cell now).imp_right And.left
  have delivered := holds.delivered
  cases step with
  | kept heap buffer pending messages removed =>
      refine ⟨messages ▸ apart, ?_, ?_⟩
      · rw [pending, buffer]
        exact holds.within
      · rw [messages, pending, removed, read, heap]
        exact delivered
  | dropped heap buffer pending before messages removed
  | opened heap empty buffer pending before messages removed =>
      refine ⟨messages ▸ apart, by simp [pending], ?_⟩
      rw [messages, pending, removed, read]
      simpa [Consumer.pending, before] using delivered
  | @got md data cell heap before buffer pending none messages removed =>
      refine ⟨messages ▸ apart, by simp [pending, buffer], ?_⟩
      have written : l'.heap.read ⟨cell, data.length⟩ = data := by
        rw [heap]
        exact Heap.read_write_self (inside cell (into cell before)) data
      rw [messages, pending, removed, read, List.map_append, ← delivered]
      simp [Consumer.pending, none, written]
  | @handOff md data heap buffer pending none messages removed =>
      have from_buffer := holds.within (md, data) (by simp [Consumer.pending, pending])
      have here : data.cell < l.heap.cells.length := inside _ (into _ from_buffer)
      have copied : l'.heap.read ⟨l.heap.cells.length, data.length⟩ = l.heap.read data := by
        rw [heap, ← Heap.length_read here]
        exact Heap.read_alloc_new l.heap (l.heap.read data)
      refine ⟨?_, by simp [none], ?_⟩
      · rw [messages]
        intro msg member
        rcases List.mem_append.mp member with old | new
        · exact apart msg old
        · obtain rfl := List.mem_singleton.mp new
          constructor
          · simp [messageFromMQMD, heap, Heap.alloc]
          · intro now
            rcases older _ now with old | ⟨-, unbuffered⟩
            · exact absurd (inside _ old) (lt_irrefl _)
            · simp [from_buffer] at unbuffered
      · rw [messages, none, removed, List.map_append, read, ← delivered]
        simp [Consumer.pending, pending, Listener.seen, Message.mapBody, messageFromMQMD, copied]

theorem mem_buffers {cell : Nat} (member : t ∈ c.threads) (buffer : t.buffer = some cell) :
    cell ∈ buffers c.threads :=
  List.mem_filterMap.mpr ⟨t, member, buffer⟩

theorem BodyInv.act (inv : BodyInv c) (found : c.threads[i]? = some t)
    (step : ListenerStep c.shared t l t' fresh) : BodyInv ⟨l, c.threads.set i t' ++ fresh⟩ := by
  have member := List.mem_of_getElem? found
  have grows := step.grows
  obtain ⟨distinct, older⟩ := inv.buffers_act found step
  refine ⟨distinct, ?_, ?_⟩
  · intro cell now
    rcases older cell now with old | ⟨rfl, -, more⟩
    · exact lt_of_lt_of_le (inv.inside cell old) grows.length_le
    · exact more
  · intro k inside
    obtain ⟨k₀, rfl, inner⟩ | ⟨j, different, at_j⟩ | ⟨next, rfl, -⟩ :=
      consumer_after found step inside
    · refine inner.receives.holds rfl (inv.holds k₀ member) (fun cell => mem_buffers member)
        inv.inside fun cell now => ?_
      exact (older cell now).imp_right fun ⟨same, unbuffered, _⟩ => ⟨same, unbuffered⟩
    · have inside := List.mem_of_getElem? at_j
      refine (inv.holds k inside).other grows (fun cell => mem_buffers member) ?_ ?_
      · intro cell own
        refine ⟨inv.inside cell (mem_buffers inside own), fun also => ?_⟩
        exact filterMap_nodup_ne inv.distinct different at_j found own also rfl
      · intro cell now
        exact (older cell now).imp_right And.left
    · exact ⟨by simp [Consumer.messages], nofun, rfl⟩

theorem BodyInv.next {c' : ListenerConfig} {m : ListenerMove} (inv : BodyInv c)
    (moved : listenerProgram.next c m = some c') : BodyInv c' := by
  obtain ⟨r, -, rfl⟩ | ⟨i, answer, t, l, t', fresh, -, found, step, rfl⟩ := listener_cases moved
  · have same : buffers (c.threads ++ [listenerProgram.start r]) = buffers c.threads := by
      rw [buffers, List.filterMap_append]
      cases r <;> exact List.append_nil _
    refine ⟨?_, ?_, ?_⟩
    · rw [same]
      exact inv.distinct
    · rw [same]
      exact inv.inside
    · rw [same]
      exact fun k member => inv.holds k (consumer_after_call member)
  · exact inv.act found step

theorem BodyInv.run {c' : ListenerConfig} {ms : List ListenerMove} (inv : BodyInv c)
    (run : listenerProgram.exec c ms = some c') : BodyInv c' :=
  Program.exec_invariant (fun _ _ _ inv _ moved => inv.next moved) inv (Program.meets_true ms) run

end Keeps

/-! ## Failing handlers -/

/-- The message and error of a hand-off whose handler failed. -/
def HandOff.failure (h : HandOff) : Option (Message Slice × GoError) :=
  match h.outcome with
  | none | some .ok => none
  | some (.failed err) => some (h.msg, err)
  | some (.panicked value) =>
      some (h.msg, .wrap (ErrHandlerPanic.text ++ ": " ++ value) [ErrHandlerPanic])

@[simp] theorem HandOff.failure_running (msg : Message Slice) (parent : Option SpanContext) :
    HandOff.failure ⟨msg, parent, none⟩ = none := rfl

@[simp] theorem HandOff.failure_some (msg : Message Slice) (parent : Option SpanContext)
    (outcome : HandlerOutcome) :
    HandOff.failure ⟨msg, parent, some outcome⟩ =
      (invokeHandler outcome).map fun err => (msg, err) := by
  cases outcome <;> rfl

def withMessage : Option (Message Slice) × GoError → Option (Message Slice × GoError)
  | (some msg, err) => some (msg, err)
  | (none, _) => none

/-- The runs of the error callback with a message. -/
def Consumer.messageReports (k : Consumer) : List (Message Slice × GoError) :=
  k.reports.filterMap withMessage

/-- Only the last hand-off can still be running, and then the consumer waits for it. -/
structure Consumer.Reported (l : Listener) (k : Consumer) : Prop where
  running : ∀ msg, k.pc = .consume (.handling msg) →
    ∃ before parent, k.handed = before ++ [⟨msg, parent, none⟩] ∧
      ∀ h ∈ before, h.outcome.isSome = true
  ended : (∀ msg, k.pc ≠ .consume (.handling msg)) → ∀ h ∈ k.handed, h.outcome.isSome = true
  reports : k.messageReports = if l.onError then k.handed.filterMap HandOff.failure else []

section Reported

variable {c : ListenerConfig} {l l' : Listener} {k k' : Consumer}

/-- When the handler returns, its hand-off is closed and reported if it failed. -/
theorem Consumer.Reported.handled {msg : Message Slice} {outcome : HandlerOutcome}
    (before : Consumer.Reported l { k with pc := .consume (.handling msg) })
    (more : List (Option (Message Slice) × GoError)) (pc : ConsumePc)
    (after : ∀ msg, pc ≠ .handling msg)
    (told : more.filterMap withMessage =
      if l.onError then ((invokeHandler outcome).map fun err => (msg, err)).toList else []) :
    Consumer.Reported l { k with
      handed := closeHandOff outcome k.handed
      reports := k.reports ++ more
      pc := .consume pc } := by
  obtain ⟨init, parent, handed, ended⟩ := before.running msg rfl
  simp only at handed
  have closed : closeHandOff outcome k.handed = init ++ [⟨msg, parent, some outcome⟩] := by
    simp [closeHandOff, handed]
  refine ⟨?_, ?_, ?_⟩
  · intro msg' here
    simp only [ConsumerPc.consume.injEq] at here
    exact absurd here (after msg')
  · intro _ h member
    simp only [closed] at member
    rcases List.mem_append.mp member with old | new
    · exact ended h old
    · obtain rfl := List.mem_singleton.mp new
      rfl
  · have old := before.reports
    simp only [Consumer.messageReports, handed] at old
    simp only [Consumer.messageReports, List.filterMap_append, told, old, closed]
    cases l.onError with
    | false => rfl
    | true =>
        cases failed : invokeHandler outcome with
        | none => simp [failed]
        | some err => simp [failed]

/-- A step that neither begins nor ends a handler. -/
theorem Consumer.Reported.apart {pc pc'} (before : Consumer.Reported l { k with pc := pc })
    (outside : ∀ msg, pc ≠ .consume (.handling msg))
    (still : ∀ msg, pc' ≠ .consume (.handling msg)) (onError : l'.onError = l.onError)
    (handed : k'.handed = k.handed) (reports : k'.messageReports = k.messageReports)
    (here : k'.pc = pc') : k'.Reported l' := by
  subst here
  refine ⟨fun msg there => absurd there (still msg), fun _ => ?_, ?_⟩
  · rw [handed]
    exact before.ended outside
  · rw [reports, handed, onError]
    exact before.reports

theorem ConsumeStep.keeps_reported {pc pc'} (step : ConsumeStep l k pc l' k' (.inl pc'))
    (before : Consumer.Reported l { k with pc := .consume pc }) :
    Consumer.Reported l' { k' with pc := .consume pc' } := by
  cases step with
  | opened | polled | got | empty | calledBack =>
      exact before.apart (by simp) (by simp) rfl rfl rfl rfl
  | handOff =>
      have ended := before.ended (by simp)
      refine ⟨?_, ?_, ?_⟩
      · intro msg here
        simp only [ConsumerPc.consume.injEq, ConsumePc.handling.injEq] at here
        subst here
        exact ⟨_, _, rfl, ended⟩
      · intro outside
        exact absurd rfl (outside _)
      · simpa [Consumer.messageReports, List.filterMap_cons] using before.reports
  | handled returned =>
      simpa using before.handled [] .poll (by simp) (by simp [returned])
  | unreported failed unset =>
      simpa using before.handled [] .poll (by simp) (by simp [unset])
  | reported failed set =>
      exact before.handled [(some _, _)] .reporting (by simp) (by simp [set, failed, withMessage])

theorem ConsumerStep.keeps_reported {pc} (step : ConsumerStep l k pc l' k')
    (before : Consumer.Reported l { k with pc := pc }) : k'.Reported l' := by
  cases step with
  | consuming inner => exact inner.keeps_reported before
  | consumed inner =>
      cases inner with
      | openFailed | cancelled | getFailed =>
          exact before.apart (by simp) (by simp) rfl rfl rfl rfl
  | markFailed =>
      refine before.apart (by simp) (by simp) rfl rfl ?_ rfl
      simp [Consumer.messageReports, withMessage]
  | _ => exact before.apart (by simp) (by simp) rfl rfl rfl rfl

theorem Consumer.Reported.other (before : k.Reported l) (onError : l'.onError = l.onError) :
    k.Reported l' :=
  ⟨before.running, before.ended, onError ▸ before.reports⟩

theorem ListenerStep.onError {t t' : ListenerThread} {fresh : List ListenerThread}
    (step : ListenerStep l t l' t' fresh) : l'.onError = l.onError := by
  cases step with
  | start inner => exact inner.sameConsumers.onError
  | consumer inner => exact inner.sameRun.onError
  | probe => rfl
  | close inner => exact inner.sameConsumers.onError

/-- If the thread is a consumer, its reports are right. -/
def ListenerThread.Told (l : Listener) (t : ListenerThread) : Prop :=
  ∀ k, t = .consumer k → k.Reported l

theorem reported_run {c' : ListenerConfig} {ms : List ListenerMove} {i : Nat}
    (here : ∀ k, c.threads[i]? = some (.consumer k) → k.Reported c.shared)
    (run : listenerProgram.exec c ms = some c') {k : Consumer}
    (found : c'.threads[i]? = some (.consumer k)) : k.Reported c'.shared := by
  have start : ∀ l r, True → (listenerProgram.start r).Told l := by
    rintro l r - k same
    cases r <;> cases same
  have keep : ∀ l t a l' t' started, True →
      listenerProgram.step l t a = some (l', t', started) →
      True ∧ (∀ u : ListenerThread, u.Told l → u.Told l') ∧ (t.Told l → t'.Told l') ∧
        ∀ u ∈ started, u.Told l' := by
    rintro l t a l' t' started - stepped
    have step := listenerProgram_step stepped
    refine ⟨trivial, ?_, ?_, ?_⟩
    · rintro u told k rfl
      exact (told k rfl).other step.onError
    · rintro told k rfl
      cases step with
      | consumer inner => exact inner.keeps_reported (told _ rfl)
    · rintro u new k rfl
      cases step with
      | start inner =>
          obtain ⟨rfl, -⟩ | ⟨next, -, -, rfl, -⟩ := inner.fresh_cases
          · simp at new
          · obtain rfl : k = { idx := next } := by simpa using new
            exact ⟨nofun, by simp, by simp [Consumer.messageReports]⟩
      | consumer | probe | close => simp at new
  exact Program.exec_position start keep trivial (by rintro t at_i k rfl; exact here k at_i) run _
    found k rfl

end Reported

/-- What a consumer has done with the messages it removed from the queue. -/
structure ExactlyOnce (l : Listener) (k : Consumer) : Prop where
  inOrder : k.messages.map l.seen ++
      k.pending.map (fun p => messageFromMQMD p.1 (l.heap.read p.2)) =
    k.removed.map fun r => messageFromMQMD r.1 r.2
  complete : (∀ md data, k.pc ≠ .consume (.got md data)) →
    k.messages.map l.seen = k.removed.map fun r => messageFromMQMD r.1 r.2
  reported : k.messageReports = if l.onError then k.handed.filterMap HandOff.failure else []
  panicked : ∀ h ∈ k.handed, ∀ value, h.outcome = some (.panicked value) →
    ∃ err, h.failure = some (h.msg, err) ∧ err.is .handlerPanic = true
  failed : ∀ h ∈ k.handed, ∀ err, h.outcome = some (.failed err) → h.failure = some (h.msg, err)
  ok : ∀ h ∈ k.handed, h.outcome = some .ok → h.failure = none

/-- Where the consumer goes when the handler has returned. -/
def HandlerOutcome.leadsTo (onError : Bool) : HandlerOutcome → ConsumePc
  | .ok => .poll
  | .failed _ | .panicked _ => if onError then .reporting else .poll

/-- Neither cancellation nor what the two callbacks do keeps consumer `i` from going on. -/
structure GoesOn (c : ListenerConfig) (i : Nat) (k : Consumer) : Prop where
  handsOn : ∀ md data, k.pc = .consume (.got md data) → ∃ c' k' msg,
    listenerProgram.next c (.act i .go) = some c' ∧ c'.threads[i]? = some (.consumer k') ∧
      k'.pc = .consume (.handling msg) ∧ k'.messages = k.messages ++ [msg]
  returns : ∀ msg outcome, k.pc = .consume (.handling msg) → ∃ c' k',
    listenerProgram.next c (.act i (.handled outcome)) = some c' ∧
      c'.threads[i]? = some (.consumer k') ∧
      k'.pc = .consume (outcome.leadsTo c.shared.onError)
  resumes : ∀ panics, k.pc = .consume .reporting → ∃ c' k',
    listenerProgram.next c (.act i (.callback panics)) = some c' ∧
      c'.threads[i]? = some (.consumer k') ∧ k'.pc = .consume .poll

theorem GoesOn.of_found {c : ListenerConfig} {i : Nat} {k : Consumer}
    (found : c.threads[i]? = some (.consumer k)) : GoesOn c i k := by
  have moves : ∀ pc answer l k' pc', k.pc = .consume pc →
      consumeLoop c.shared k pc answer = some (l, k', .inl pc') →
      ∃ c', listenerProgram.next c (.act i answer) = some c' ∧
        c'.threads[i]? = some (.consumer { k' with pc := .consume pc' }) := by
    intro pc answer l k' pc' here moved
    refine ⟨⟨l, c.threads.set i (.consumer { k' with pc := .consume pc' })⟩, ?_,
      List.getElem?_set_self (List.getElem?_eq_some_iff.mp found).1⟩
    simp [Program.next, found, listenerProgram, ListenerThread.step, runConsumer, here, moved]
  refine ⟨?_, ?_, ?_⟩
  · intro md data here
    obtain ⟨c', moved, at_i⟩ := moves _ .go _ _ _ here rfl
    exact ⟨c', _, _, moved, at_i, rfl, List.map_append ..⟩
  · intro msg outcome here
    have moved : ∃ k', consumeLoop c.shared k (.handling msg) (.handled outcome) =
        some (c.shared, k', .inl (outcome.leadsTo c.shared.onError)) := by
      cases outcome with
      | ok => exact ⟨_, rfl⟩
      | failed | panicked =>
          simp only [consumeLoop, invokeHandler, HandlerOutcome.leadsTo]
          split
          · exact ⟨_, rfl⟩
          · exact ⟨_, rfl⟩
    obtain ⟨k', moved⟩ := moved
    obtain ⟨c', moved, at_i⟩ := moves _ (.handled outcome) _ _ _ here moved
    exact ⟨c', _, moved, at_i, rfl⟩
  · intro panics here
    obtain ⟨c', moved, at_i⟩ := moves _ (.callback panics) _ _ _ here rfl
    exact ⟨c', _, moved, at_i, rfl⟩

theorem exactly_once_handoff (client : ClientConfig) (queueName : String)
    (opts : List ListenerOption) (ms : List ListenerMove) (c : ListenerConfig)
    (run : listenerProgram.exec ⟨newListener client queueName opts, []⟩ ms = some c) (i : Nat)
    (k : Consumer) (found : c.threads[i]? = some (.consumer k)) :
    ExactlyOnce c.shared k ∧ GoesOn c i k := by
  have fresh : BodyInv ⟨newListener client queueName opts, []⟩ :=
    ⟨List.nodup_nil, by simp [buffers], by simp⟩
  have holds := (fresh.run run).holds k (List.mem_of_getElem? found)
  have reported := reported_run (by simp) run found
  refine ⟨⟨holds.delivered, ?_, reported.reports, ?_, ?_, ?_⟩, .of_found found⟩
  · intro between
    have none : k.pending = [] := by
      unfold Consumer.pending ConsumerPc.pending
      split
      · exact absurd ‹_› (between _ _)
      · rfl
    simpa [none] using holds.delivered
  · intro h _ value panicked
    exact ⟨_, by rw [HandOff.failure, panicked], rfl⟩
  · intro h _ err failed
    rw [HandOff.failure, failed]
  · intro h _ ok
    rw [HandOff.failure, ok]

/-- The handler panics on the first of two messages, and so does the error callback;
    the second message is received into the same buffer. -/
def panicsOnFirst : List ListenerMove :=
  [.call (.start none none), .act 0 .go, .act 0 .go, .act 0 .go, .act 1 .go, .act 1 .go,
    .act 1 (.loop .check), .act 1 (.loop (.dialed (.ok 7))), .act 1 .go, .act 1 .go,
    .act 1 (.opened none), .act 1 .go, .act 1 (.got {} [1, 2, 3]), .act 1 .go,
    .act 1 (.handled (.panicked "boom")), .act 1 (.callback true), .act 1 .go,
    .act 1 (.got {} [9]), .act 1 .go, .act 1 (.handled .ok)]

theorem exactly_once_handoff_panicsOnFirst : ∃ c k,
    listenerProgram.exec ⟨newListener .minimal "IN" [.withListenerConcurrency 1,
      .withListenerErrorHandler true], []⟩ panicsOnFirst = some c ∧
    c.threads[1]? = some (.consumer k) ∧ k.messages.length = 2 ∧ k.messageReports.length = 1 ∧
    ExactlyOnce c.shared k ∧ GoesOn c 1 k := by
  obtain ⟨c, k, run, found, messages, reports⟩ : ∃ c k,
      listenerProgram.exec ⟨newListener .minimal "IN" [.withListenerConcurrency 1,
        .withListenerErrorHandler true], []⟩ panicsOnFirst = some c ∧
      c.threads[1]? = some (.consumer k) ∧ k.messages.length = 2 ∧ k.messageReports.length = 1 :=
    ⟨_, _, rfl, rfl, rfl, rfl⟩
  exact ⟨c, k, run, found, messages, reports, exactly_once_handoff _ _ _ _ c run 1 k found⟩

end CommonsMQ
