import CommonsMQ.Client.Model
import CommonsMQ.Listener.Shutdown
import CommonsMQ.RequestReply.Steps
import CommonsMQ.Sender.Shutdown

/-! # What one step of a client can do

A component inside a client is a run of its own program from what the factory built,
so everything proved of senders, listeners and request-reply clients alone holds of it.
What is needed here of the three is that they are gates.
-/

namespace CommonsMQ

open Interleave

namespace Component

def shut : Component → Bool
  | .sender c => c.shared.closed
  | .listener c => c.shared.closed
  | .requestReply c => c.shared.closed

/-- The component is a run of its own program. -/
def Reached (cfg : ClientConfig) : Component → Prop
  | .sender c => ∃ queue opts ms, senderProgram.exec ⟨newSender cfg queue opts, []⟩ ms = some c
  | .listener c => ∃ queue opts ms,
      listenerProgram.exec ⟨newListener cfg queue opts, []⟩ ms = some c
  | .requestReply c => ∃ r ms, requestReplyProgram.exec ⟨r, []⟩ ms = some c ∧
      ((∃ queue opts, r = newRequestReplyClient cfg queue opts) ∨
        ∃ queue replyQueue opts, r = newRequestReplyClientFixed cfg queue replyQueue opts)

theorem reached_build (cfg : ClientConfig) (what : Factory) : (what.build cfg).Reached cfg := by
  cases what with
  | newListener queue opts => exact ⟨queue, opts, [], rfl⟩
  | newSender queue opts => exact ⟨queue, opts, [], rfl⟩
  | newRequestReplyClient queue opts => exact ⟨_, [], rfl, .inl ⟨queue, opts, rfl⟩⟩
  | newRequestReplyClientFixed queue replyQueue opts =>
      exact ⟨_, [], rfl, .inr ⟨queue, replyQueue, opts, rfl⟩⟩

inductive Step : Component → ComponentMove → Component → Prop where
  | sender {c m c'} : senderProgram.next c m = some c' → Step (.sender c) (.sender m) (.sender c')
  | listener {c m c'} : listenerProgram.next c m = some c' →
      Step (.listener c) (.listener m) (.listener c')
  | requestReply {c m c'} : requestReplyProgram.next c m = some c' →
      Step (.requestReply c) (.requestReply m) (.requestReply c')

theorem next_sender (c : SenderConfig) (m : SenderMove) :
    (Component.sender c).next (.sender m) = (senderProgram.next c m).map .sender := rfl

theorem next_listener (c : ListenerConfig) (m : ListenerMove) :
    (Component.listener c).next (.listener m) = (listenerProgram.next c m).map .listener := rfl

theorem next_requestReply (c : RRConfig) (m : RRMove) :
    (Component.requestReply c).next (.requestReply m) =
      (requestReplyProgram.next c m).map .requestReply := rfl

theorem next_step {component component' : Component} {m : ComponentMove}
    (h : component.next m = some component') : Step component m component' := by
  unfold next at h
  split at h
  · obtain ⟨c', moved, rfl⟩ := Option.map_eq_some_iff.mp h
    exact .sender moved
  · obtain ⟨c', moved, rfl⟩ := Option.map_eq_some_iff.mp h
    exact .listener moved
  · obtain ⟨c', moved, rfl⟩ := Option.map_eq_some_iff.mp h
    exact .requestReply moved
  · simp at h

variable {cfg : ClientConfig} {component component' : Component} {m : ComponentMove}

theorem Reached.next (reached : component.Reached cfg) (step : Step component m component') :
    component'.Reached cfg := by
  cases step with
  | sender moved =>
      obtain ⟨queue, opts, ms, run⟩ := reached
      exact ⟨queue, opts, _, Program.exec_trans run (Program.exec_single moved)⟩
  | listener moved =>
      obtain ⟨queue, opts, ms, run⟩ := reached
      exact ⟨queue, opts, _, Program.exec_trans run (Program.exec_single moved)⟩
  | requestReply moved =>
      obtain ⟨r, ms, run, made⟩ := reached
      exact ⟨r, _, Program.exec_trans run (Program.exec_single moved), made⟩

/-- A teardown that has returned has shut its component. -/
theorem Reached.shut (reached : component.Reached cfg) {i : Nat} {err : Option GoError}
    (closed : component.closeResult i = some err) : component.shut = true := by
  cases component with
  | sender c =>
      obtain ⟨queue, opts, ms, run⟩ := reached
      have marked := Gate.Marked.run senderGate run
      simp only [closeResult] at closed
      split at closed
      · rename_i found
        exact marked _ (List.mem_of_getElem? found) ⟨_, rfl, by simp⟩
      · rename_i found
        exact marked _ (List.mem_of_getElem? found) ⟨_, rfl, by simp⟩
      · simp at closed
  | listener c =>
      obtain ⟨queue, opts, ms, run⟩ := reached
      have marked := Gate.Marked.run listenerGate run
      simp only [closeResult] at closed
      split at closed
      · rename_i found
        exact marked _ (List.mem_of_getElem? found) ⟨_, rfl, by simp⟩
      · rename_i found
        exact marked _ (List.mem_of_getElem? found) ⟨_, rfl, by simp⟩
      · simp at closed
  | requestReply c =>
      obtain ⟨r, ms, run, -⟩ := reached
      have marked := Gate.Marked.run requestReplyGate run
      simp only [closeResult] at closed
      split at closed
      · rename_i found
        exact marked _ (List.mem_of_getElem? found) rfl
      · simp at closed

/-- Shut, and every call at a position in `late` is turned away. -/
def ClosedTo (late : Nat → Prop) : Component → Prop
  | .sender c => senderGate.ClosedTo late c
  | .listener c => listenerGate.ClosedTo late c
  | .requestReply c => requestReplyGate.ClosedTo late c

theorem closedTo_later (shut : component.shut = true) :
    component.ClosedTo (component.size ≤ ·) := by
  cases component with
  | sender c => exact senderGate.closedTo_later shut
  | listener c => exact listenerGate.closedTo_later shut
  | requestReply c => exact requestReplyGate.closedTo_later shut

theorem ClosedTo.next {late : Nat → Prop} (before : component.ClosedTo late)
    (step : Step component m component') : component'.ClosedTo late := by
  cases step with
  | sender moved => exact Gate.ClosedTo.next senderGate before moved
  | listener moved => exact Gate.ClosedTo.next listenerGate before moved
  | requestReply moved => exact Gate.ClosedTo.next requestReplyGate before moved

theorem Step.stays_shut (step : Step component m component') (shut : component.shut = true) :
    component'.shut = true := by
  have after := (closedTo_later shut).next step
  cases component' with
  | sender | listener | requestReply => exact after.1

/-- The component with nobody inside can only be called. -/
theorem Step.of_empty (step : Step component m component') (empty : component.size = 0) :
    m.permitted false = false := by
  cases step with
  | @sender c m c' moved =>
      cases m with
      | call r => cases r <;> rfl
      | act i a => simp_all [Program.next, size]
  | @listener c m c' moved =>
      cases m with
      | call r => cases r <;> rfl
      | act i a => simp_all [Program.next, size]
  | @requestReply c m c' moved =>
      cases m with
      | call r => rfl
      | act i a => simp_all [Program.next, size]

/-- Replay moves of one component. -/
def exec : Component → List ComponentMove → Option Component
  | component, [] => some component
  | component, m :: rest =>
      match component.next m with
      | none => none
      | some component' => exec component' rest

/-- The call at position `i` has returned without having passed the check of `closed`. -/
def TurnedAway : Component → Nat → Prop
  | .sender c, i => senderGate.TurnedAway c i
  | .listener c, i => listenerGate.TurnedAway c i
  | .requestReply c, i => requestReplyGate.TurnedAway c i

end Component

/-- The move is a step of the call at position `i`. -/
def ComponentMove.IsOf (i : Nat) : ComponentMove → Prop
  | .sender m => ∃ a, m = .act i a
  | .listener m => ∃ a, m = .act i a
  | .requestReply m => ∃ a, m = .act i a

section Lift

variable {σ ρ τ α : Type} {p : Program σ ρ τ α} {inject : Interleave.Config σ τ → Component}
  {wrap : Move ρ α → ComponentMove}

/-- A run of a component's program is a run of the component. -/
theorem Component.exec_lift (lifts : ∀ c m, (inject c).next (wrap m) = (p.next c m).map inject)
    {c c' : Interleave.Config σ τ} {ms : List (Move ρ α)} (run : p.exec c ms = some c') :
    (inject c).exec (ms.map wrap) = some (inject c') := by
  induction ms generalizing c with
  | nil =>
      obtain rfl : c = c' := by simpa [Program.exec] using run
      rfl
  | cons m rest ih =>
      obtain ⟨mid, moved, later⟩ := Program.exec_cons run
      simpa only [List.map_cons, exec, lifts, moved, Option.map_some] using ih later

theorem Component.answered_lift (g : Gate p)
    (lifts : ∀ c m, (inject c).next (wrap m) = (p.next c m).map inject)
    (own : ∀ i a, ComponentMove.IsOf i (wrap (.act i a))) (bound : ∀ t, g.left t ≤ 2)
    {c : Interleave.Config σ τ} {late : Nat → Prop} {i : Nat} (closed : g.ClosedTo late c) (isLate : late i)
    (called : i < c.threads.length) :
    ∃ ms c', ms.length ≤ 2 ∧ (∀ m ∈ ms, ComponentMove.IsOf i m) ∧
      (inject c).exec ms = some (inject c') ∧ g.TurnedAway c' i := by
  have found : c.threads[i]? = some c.threads[i] := List.getElem?_eq_getElem called
  obtain ⟨answers, c', short, run, away⟩ :=
    g.answered closed.1 found (closed.2 i _ isLate found)
  refine ⟨(answers.map (Move.act i)).map wrap, c', ?_, ?_, exec_lift lifts run, away⟩
  · have few := bound c.threads[i]
    simp only [List.length_map]
    omega
  · intro m member
    obtain ⟨-, ⟨a, -, rfl⟩, rfl⟩ := by simpa only [List.mem_map] using member
    exact own i a

end Lift

theorem listenerGate_left (t : ListenerThread) : listenerGate.left t ≤ 2 := by
  cases t with
  | start call =>
      simp only [listenerGate]
      split <;> decide
  | consumer | probe | close => exact Nat.zero_le 2

theorem requestReplyGate_left (t : RRThread) : requestReplyGate.left t ≤ 2 := by
  cases t with
  | call running =>
      simp only [requestReplyGate, RRPc.leftToCheck]
      split <;> decide
  | probe | close => exact Nat.zero_le 2

/-- On a component that is closed to it a call has its answer after two steps of its own. -/
theorem Component.ClosedTo.answered {component : Component} {late : Nat → Prop} {i : Nat}
    (closed : component.ClosedTo late) (isLate : late i) (called : i < component.size) :
    ∃ ms component', ms.length ≤ 2 ∧ (∀ m ∈ ms, ComponentMove.IsOf i m) ∧
      component.exec ms = some component' ∧ component'.TurnedAway i := by
  cases component with
  | sender c =>
      obtain ⟨ms, c', short, own, run, away⟩ := answered_lift senderGate next_sender
        (fun _ a => ⟨a, rfl⟩) senderGate_left closed isLate called
      exact ⟨ms, _, short, own, run, away⟩
  | listener c =>
      obtain ⟨ms, c', short, own, run, away⟩ := answered_lift listenerGate next_listener
        (fun _ a => ⟨a, rfl⟩) listenerGate_left closed isLate called
      exact ⟨ms, _, short, own, run, away⟩
  | requestReply c =>
      obtain ⟨ms, c', short, own, run, away⟩ := answered_lift requestReplyGate next_requestReply
        (fun _ a => ⟨a, rfl⟩) requestReplyGate_left closed isLate called
      exact ⟨ms, _, short, own, run, away⟩

/-! ## The client itself -/

inductive ClientStep (c : Client) : ClientThread → Client → ClientThread → Prop where
  | constructed {what} : ClientStep c (.factory what .construct)
      { c with components := c.components ++ [what.build c.cfg] }
      (.factory what (.register c.components.length))
  | registered {what k} : ClientStep c (.factory what (.register k)) (c.register k)
      (.factory what (.registerHealthProber k))
  | handedOut {what k} : ClientStep c (.factory what (.registerHealthProber k))
      { c.registerHealthProber k with handedOut := c.handedOut ++ [k] }
      (.factory what (.returned k))
  | repeated : c.closed = true → ClientStep c (.close .begin) c (.close .repeated)
  | began : c.closed = false → ClientStep c (.close .begin)
      { c with closed := true, closers := [] } (.close (.teardown c.closers.reverse []))
  | returned {errs} : ClientStep c (.close (.teardown [] errs)) c
      (.close (.returned (joinErrors errs)))
  | invoked {k rest errs component component'} : c.components[k]? = some component →
      component.Step component.teardown component' →
      ClientStep c (.close (.teardown (k :: rest) errs)) (c.setComponent k component')
        (.close (.await k component.size rest errs))
  | ran {k i rest errs component err} : c.components[k]? = some component →
      component.closeResult i = some err →
      ClientStep c (.close (.await k i rest errs)) { c with ran := c.ran ++ [k] }
        (.close (.teardown rest (errs ++ err.toList)))
  | used {k m component component'} : c.components[k]? = some component →
      m.permitted (k ∈ c.handedOut) = true → component.Step m component' →
      ClientStep c .application (c.setComponent k component') .application

theorem Client.build_step {c c' : Client} {what : Factory} {pc pc' : FactoryPc}
    (h : c.build what pc = some (c', pc')) :
    ClientStep c (.factory what pc) c' (.factory what pc') := by
  cases pc with
  | construct =>
      obtain ⟨rfl, rfl⟩ := Prod.mk.inj (Option.some.inj h)
      exact .constructed
  | register k =>
      obtain ⟨rfl, rfl⟩ := Prod.mk.inj (Option.some.inj h)
      exact .registered
  | registerHealthProber k =>
      obtain ⟨rfl, rfl⟩ := Prod.mk.inj (Option.some.inj h)
      exact .handedOut
  | returned => cases h

theorem Client.close_step {c c' : Client} {pc pc' : ClientClosePc}
    (h : c.close pc = some (c', pc')) : ClientStep c (.close pc) c' (.close pc') := by
  unfold close at h
  split at h
  · split at h <;> obtain ⟨rfl, rfl⟩ := Prod.mk.inj (Option.some.inj h)
    · exact .repeated ‹_›
    · exact .began (Bool.eq_false_iff.mpr ‹_›)
  · obtain ⟨rfl, rfl⟩ := Prod.mk.inj (Option.some.inj h)
    exact .returned
  · split at h
    · simp at h
    · rename_i found
      obtain ⟨component', moved, same⟩ := Option.map_eq_some_iff.mp h
      obtain ⟨rfl, rfl⟩ := Prod.mk.inj same
      exact .invoked found (Component.next_step moved)
  · split at h
    · simp at h
    · rename_i found
      obtain ⟨err, closed, same⟩ := Option.map_eq_some_iff.mp h
      obtain ⟨rfl, rfl⟩ := Prod.mk.inj same
      exact .ran found closed
  · simp at h
  · simp at h

theorem Client.use_step {c c' : Client} {k : Nat} {m : ComponentMove} (h : c.use k m = some c') :
    ClientStep c .application c' .application := by
  unfold use at h
  split at h
  · simp at h
  · rename_i found
    split at h
    · rename_i allowed
      obtain ⟨component', moved, rfl⟩ := Option.map_eq_some_iff.mp h
      exact .used found allowed (Component.next_step moved)
    · simp at h

theorem clientProgram_step {c c' : Client} {t t' : ClientThread} {answer started}
    (h : clientProgram.step c t answer = some (c', t', started)) :
    ClientStep c t c' t' ∧ started = [] := by
  obtain ⟨⟨c₁, t₁⟩, moved, same⟩ := Option.map_eq_some_iff.mp h
  simp only [Prod.mk.injEq] at same
  obtain ⟨rfl, rfl, rfl⟩ := same
  refine ⟨?_, rfl⟩
  unfold ClientThread.step at moved
  split at moved
  · obtain ⟨⟨c₂, pc'⟩, inner, same⟩ := Option.map_eq_some_iff.mp moved
    obtain ⟨rfl, rfl⟩ := Prod.mk.inj same
    exact Client.build_step inner
  · obtain ⟨⟨c₂, pc'⟩, inner, same⟩ := Option.map_eq_some_iff.mp moved
    obtain ⟨rfl, rfl⟩ := Prod.mk.inj same
    exact Client.close_step inner
  · obtain ⟨c₂, inner, same⟩ := Option.map_eq_some_iff.mp moved
    obtain ⟨rfl, rfl⟩ := Prod.mk.inj same
    exact Client.use_step inner
  · simp at moved

end CommonsMQ
