import CommonsMQ.Client.Waiting
import CommonsMQ.Listener.Progress
import CommonsMQ.RequestReply.Progress
import CommonsMQ.Sender.Progress

/-! # Close waits only for what can go on

`Client.Close` waits for one teardown after the other. Each of them waits in turn for the
threads of its component, and these can go on: only a sender in which every call that is left
waits for a connection can keep its teardown, and with it `Close`, from returning.
-/

namespace CommonsMQ

open Interleave

/-- A step that a thread inside a component makes. -/
def ComponentMove.isStep : ComponentMove → Bool
  | .sender (.act _ answer) => !answer.isCancel
  | .listener (.act _ answer) => !answer.isCancel
  | .requestReply (.act _ answer) => !answer.isCancel
  | .sender (.call _) | .listener (.call _) | .requestReply (.call _) => false

/-- The context of a call inside becomes done. -/
def ComponentMove.isCancel : ComponentMove → Bool
  | .sender (.act _ answer) => answer.isCancel
  | .listener (.act _ answer) => answer.isCancel
  | .requestReply (.act _ answer) => answer.isCancel
  | .sender (.call _) | .listener (.call _) | .requestReply (.call _) => false

theorem ComponentMove.permitted_of_isStep {m : ComponentMove} (step : m.isStep = true)
    (handedOut : Bool) : m.permitted handedOut = true := by
  unfold isStep at step
  split at step
  · rfl
  · rfl
  · rfl
  · cases step
  · cases step
  · cases step

namespace Component

/-- The call at position `i` is a close. -/
def ClosesAt (i : Nat) : Component → Prop
  | .sender c => ∃ pc, c.threads[i]? = some (.close pc)
  | .listener c => ∃ pc, c.threads[i]? = some (.close pc)
  | .requestReply c => ∃ returned, c.threads[i]? = some (.close returned)

/-- A thread inside can make a step. -/
def CanMove (component : Component) : Prop := ∃ m, m.isStep = true ∧ (component.next m).isSome

/-- Calls of Send wait that nobody will serve, and nobody else is left but `close`. -/
def LeavesBehind : Component → Prop
  | .sender c => ¬NoLostWakeup c ∧ Deadlocked c
  | .listener _ | .requestReply _ => False

/-- The close at position `i` does not return before some context is done. -/
def Hangs (component : Component) (i : Nat) : Prop :=
  ∀ ms component', (∀ m ∈ ms, m.isCancel = false) → component.exec ms = some component' →
    component'.closeResult i = none

variable {cfg : ClientConfig} {component component' : Component} {m : ComponentMove} {i : Nat}

theorem Step.closesAt (step : Step component m component') (closes : component.ClosesAt i) :
    component'.ClosesAt i := by
  cases step with
  | sender moved =>
      obtain ⟨pc, found⟩ := closes
      obtain ⟨-, kept⟩ | ⟨a, t', started, -, stepped, at_i⟩ := Program.next_at found moved
      · exact ⟨pc, kept⟩
      · cases (senderProgram_step stepped).1
        exact ⟨_, at_i⟩
  | listener moved =>
      obtain ⟨pc, found⟩ := closes
      obtain ⟨-, kept⟩ | ⟨a, t', started, -, stepped, at_i⟩ := Program.next_at found moved
      · exact ⟨pc, kept⟩
      · cases listenerProgram_step stepped
        exact ⟨_, at_i⟩
  | @requestReply c m c' moved =>
      obtain ⟨returned, found⟩ := closes
      obtain ⟨r', threads⟩ := c'
      obtain ⟨-, kept⟩ | ⟨a, t', started, -, stepped, at_i⟩ := Program.next_at found moved
      · exact ⟨returned, kept⟩
      · cases (requestReplyProgram_step stepped).1
        exact ⟨_, at_i⟩

theorem Step.teardown_closesAt (step : Step component component.teardown component') :
    component'.ClosesAt component.size := by
  cases component with
  | sender c =>
      cases step with
      | sender moved =>
          obtain rfl := Option.some.inj moved
          exact ⟨_, List.getElem?_concat_length⟩
  | listener c =>
      cases step with
      | listener moved =>
          obtain rfl := Option.some.inj moved
          exact ⟨_, List.getElem?_concat_length⟩
  | requestReply c =>
      cases step with
      | requestReply moved =>
          obtain rfl := Option.some.inj moved
          exact ⟨_, List.getElem?_concat_length⟩

theorem teardown_isSome (component : Component) :
    (component.next component.teardown).isSome := by
  cases component <;> rfl

/-- A teardown that has not returned can go on itself or waits for a thread that can. -/
theorem Reached.canMove (reached : component.Reached cfg) (closes : component.ClosesAt i)
    (waits : component.closeResult i = none) : component.CanMove ∨ component.LeavesBehind := by
  cases component with
  | sender c =>
      obtain ⟨queue, opts, ms, run⟩ := reached
      obtain ⟨pc, found⟩ := closes
      have inv := (GuardInv.start (newSender_fresh cfg queue opts)).run run
      have running : ¬(SenderThread.close pc).Over := by
        rintro (⟨err, rfl⟩ | rfl) <;> simp [closeResult, found] at waits
      by_cases canStep : ∃ j, SenderCanStep c j
      · obtain ⟨j, answer, own, enabled⟩ := canStep
        exact .inl ⟨.sender (.act j answer), by simp [ComponentMove.isStep, own],
          by simpa [next_sender] using enabled⟩
      · refine .inr ⟨fun served => canStep (inv.canStep served found running), ?_⟩
        exact inv.deadlocked (not_exists.mp canStep) found running
  | listener c =>
      obtain ⟨queue, opts, ms, run⟩ := reached
      obtain ⟨pc, found⟩ := closes
      have inv := (ProtocolInv.start cfg queue opts).run run
      have running : ¬(ListenerThread.close pc).Over := by
        rintro (rfl | rfl) <;> simp [closeResult, found] at waits
      obtain ⟨j, answer, own, enabled⟩ :=
        listener_canStep inv (newListener_live_nodup run) found running
      exact .inl ⟨.listener (.act j answer), by simp [ComponentMove.isStep, own],
        by simpa [next_listener] using enabled⟩
  | requestReply c =>
      obtain ⟨returned, found⟩ := closes
      have running : ¬(RRThread.close returned).Over := by
        rintro rfl
        simp [closeResult, found] at waits
      obtain ⟨answer, own, enabled⟩ := requestReply_canStep found running
      exact .inl ⟨.requestReply (.act i answer), by simp [ComponentMove.isStep, own],
        by simpa [next_requestReply] using enabled⟩

/-- No move but a cancellation brings a hung sender, and with it its teardown, to an end. -/
theorem hangs_of_hung {c : SenderConfig} {created : Int} (hung : Hung c)
    (waits : c.threads[i]? = some (.close (.await created))) : (Component.sender c).Hangs i := by
  intro ms component' own run
  induction ms generalizing c with
  | nil =>
      obtain rfl := Option.some.inj run
      simp [closeResult, waits]
  | cons m rest ih =>
      have here := own m List.mem_cons_self
      simp only [exec] at run
      split at run
      · cases run
      rename_i component₁ moved
      cases m with
      | sender m =>
          obtain ⟨c₁, stepped, rfl⟩ := Option.map_eq_some_iff.mp moved
          have uncancelled : ∀ j e, m ≠ .act j (.cancel e) := by
            rintro j e rfl
            cases here
          obtain ⟨hung₁, still⟩ := hung.next (i := i) uncancelled stepped
          exact ih hung₁ (still created waits) (fun m later => own m (List.mem_cons_of_mem _ later))
            run
      | listener | requestReply => cases moved

theorem LeavesBehind.hangs (left : component.LeavesBehind) (closes : component.ClosesAt i)
    (running : component.closeResult i = none) : component.Hangs i := by
  cases component with
  | sender c =>
      obtain ⟨pc, found⟩ := closes
      obtain (⟨err, rfl⟩ | rfl) | waits | ⟨created, same⟩ :=
        left.2.waits _ (List.mem_of_getElem? found)
      · simp [closeResult, found] at running
      · simp [closeResult, found] at running
      · exact waits.elim
      · cases same
        exact hangs_of_hung left.2.hung found
  | listener | requestReply => exact left.elim

end Component

/-! ## The teardown that Close waits for -/

/-- What each step of component `k` keeps, each step of the client keeps. -/
theorem ClientStep.keeps {P : Component → Prop} {c c' : Client} {t t' : ClientThread} {k : Nat}
    (kept : ∀ {component m component'}, Component.Step component m component' → P component →
      P component')
    (step : ClientStep c t c' t') (before : ∃ component, c.components[k]? = some component ∧
      P component) : ∃ component, c'.components[k]? = some component ∧ P component := by
  obtain ⟨component, at_k, holds⟩ := before
  have inside := (List.getElem?_eq_some_iff.mp at_k).1
  have moves : ∀ {j m old new}, c.components[j]? = some old → Component.Step old m new →
      ∃ component, (c.setComponent j new).components[k]? = some component ∧ P component := by
    intro j m old new at_j moved
    by_cases same : j = k
    · subst same
      obtain rfl := Option.some.inj (at_k.symm.trans at_j)
      exact ⟨new, List.getElem?_set_self inside, kept moved holds⟩
    · exact ⟨component, (List.getElem?_set_ne same).trans at_k, holds⟩
  cases step with
  | constructed => exact ⟨component, (List.getElem?_append_left inside).trans at_k, holds⟩
  | invoked at_j moved => exact moves at_j moved
  | used at_j _ moved => exact moves at_j moved
  | _ => exact ⟨component, at_k, holds⟩

/-- A `Close` waits for the teardown that it has called. -/
def Client.Awaits (c : Client) (t : ClientThread) : Prop :=
  ∀ k i rest errs, t = .close (.await k i rest errs) →
    ∃ component, c.components[k]? = some component ∧ component.ClosesAt i

theorem ClientStep.awaits {c c' : Client} {t t' u : ClientThread} (step : ClientStep c t c' t')
    (before : c.Awaits u) : c'.Awaits u := by
  intro k i rest errs same
  exact step.keeps (fun moved closes => moved.closesAt closes) (before k i rest errs same)

theorem ClientStep.awaits_own {c c' : Client} {t t' : ClientThread} (step : ClientStep c t c' t') :
    c'.Awaits t' := by
  rintro k i rest errs rfl
  cases step with
  | invoked found moved =>
      exact ⟨_, List.getElem?_set_self (List.getElem?_eq_some_iff.mp found).1,
        moved.teardown_closesAt⟩

theorem awaits_run {cfg : ClientConfig} {ms : List ClientMove} {c : ClientState}
    (run : clientProgram.exec ⟨{ cfg := cfg }, []⟩ ms = some c) :
    ∀ t ∈ c.threads, c.shared.Awaits t := by
  have keep : ∀ (c : ClientState) m c', (∀ t ∈ c.threads, c.shared.Awaits t) → True →
      clientProgram.next c m = some c' → ∀ t ∈ c'.threads, c'.shared.Awaits t := by
    intro c m c' before _ moved
    obtain ⟨r, -, rfl⟩ | ⟨i, a, t, s, t', started, -, found, stepped, rfl⟩ :=
      Program.next_cases moved
    · refine Program.forall_threads_call before ?_
      cases r <;> simp [Client.Awaits, clientProgram]
    · obtain ⟨step, rfl⟩ := clientProgram_step stepped
      refine Program.forall_threads_act step.awaits_own (by simp) fun j u _ at_j => ?_
      exact step.awaits (before u (List.mem_of_getElem? at_j))
  exact Program.exec_invariant keep (by simp) (Program.meets_true ms) run

/-! ## Close -/

/-- How many steps a `Close` has left that has taken the teardowns. -/
def ClientClosePc.left : ClientClosePc → Nat
  | .teardown rest _ => 2 * rest.length + 1
  | .await _ _ rest _ => 2 * rest.length + 2
  | .begin | .returned _ | .repeated => 0

def ClientClosePc.began : ClientClosePc → Bool
  | .begin => false
  | .teardown _ _ | .await _ _ _ _ | .returned _ | .repeated => true

/-- The steps of a `Close` that has taken the teardowns. -/
def closeCountdown : Countdown clientProgram where
  Fixed _ := True
  Counted t := ∃ pc, t = .close pc ∧ pc.began = true
  idle _ := false
  left
    | .close pc => pc.left
    | .factory _ _ | .application => 0
  stays _ _ := trivial
  kept stepped _ counted := by
    obtain ⟨pc, rfl, began⟩ := counted
    cases (clientProgram_step stepped).1 with
    | repeated | began => cases began
    | returned | invoked | ran => exact ⟨_, rfl, rfl⟩
  idles _ _ _ idle := by cases idle
  counts stepped _ counted _ := by
    obtain ⟨pc, rfl, began⟩ := counted
    cases (clientProgram_step stepped).1 with
    | repeated | began => cases began
    | returned | invoked | ran =>
        simp only [ClientClosePc.left, List.length_cons, List.length_nil]
        omega

/-- The `Close` at position `i` stands at `pc`. -/
inductive CloseGoesOn (c : ClientState) (i : Nat) : ClientClosePc → Prop where
  | returned {pc} : (ClientThread.close pc).CloseReturned → CloseGoesOn c i pc
  | enabled {pc} : (clientProgram.next c (.act i .go)).isSome → CloseGoesOn c i pc
  /-- A thread of the component that it waits for can make a step. -/
  | awaits {k j rest errs} {m : ComponentMove} : m.isStep = true → (c.shared.use k m).isSome →
      CloseGoesOn c i (.await k j rest errs)
  | leftBehind {k j rest errs} {component : Component} :
      c.shared.components[k]? = some component → component.LeavesBehind → component.Hangs j →
      CloseGoesOn c i (.await k j rest errs)

theorem closeGoesOn {cfg : ClientConfig} {ms : List ClientMove} {c : ClientState} {i : Nat}
    {pc : ClientClosePc} (run : clientProgram.exec ⟨{ cfg := cfg }, []⟩ ms = some c)
    (found : c.threads[i]? = some (.close pc)) : CloseGoesOn c i pc := by
  have inv := ClientBase.run run
  have going : (c.shared.close pc).isSome → CloseGoesOn c i pc := by
    intro enabled
    obtain ⟨⟨s, pc'⟩, moved⟩ := Option.isSome_iff_exists.mp enabled
    exact .enabled (by simp [Program.next, found, clientProgram, ClientThread.step, moved])
  cases pc with
  | begin =>
      refine going ?_
      simp only [Client.close]
      split <;> rfl
  | teardown rest errs =>
      cases rest with
      | nil => exact going rfl
      | cons k rest =>
          have registered := inv.registered_of_work (List.mem_of_getElem? found)
            (k := k) List.mem_cons_self
          have at_k := List.getElem?_eq_getElem (inv.count_registered registered).2
          refine going ?_
          simp only [Client.close, at_k, Option.isSome_map]
          exact Component.teardown_isSome _
  | await k j rest errs =>
      obtain ⟨component, at_k, closes⟩ :=
        awaits_run run _ (List.mem_of_getElem? found) k j rest errs rfl
      cases result : component.closeResult j with
      | some err => exact going (by simp [Client.close, at_k, result])
      | none =>
          have reached := inv.reached component (List.mem_of_getElem? at_k)
          obtain ⟨m, step, enabled⟩ | left := reached.canMove closes result
          · refine .awaits step ?_
            simp only [Client.use, at_k, ComponentMove.permitted_of_isStep step, if_true,
              Option.isSome_map]
            exact enabled
          · exact .leftBehind at_k left (left.hangs closes result)
  | returned | repeated => exact .returned trivial

/-- A `Close` that has taken `n` teardowns makes at most `2n + 1` steps more. At each moment
    it can go on or waits for a component that can, unless that is a sender at a standstill;
    then it waits until some context is done. -/
theorem close_proceeds (cfg : ClientConfig) (ms rest : List ClientMove) (mid c : ClientState)
    (run : clientProgram.exec ⟨{ cfg := cfg }, []⟩ ms = some mid)
    (goesOn : clientProgram.exec mid rest = some c) (i : Nat) (taken : List Nat)
    (errs : List GoError) (found : mid.threads[i]? = some (.close (.teardown taken errs))) :
    ∃ pc, c.threads[i]? = some (.close pc) ∧
      stepsOf (fun _ => false) i rest ≤ 2 * taken.length + 1 ∧ CloseGoesOn c i pc := by
  obtain ⟨t, at_i, ⟨pc, rfl, -⟩, steps⟩ :=
    closeCountdown.steps_le trivial found ⟨_, rfl, rfl⟩ goesOn
  refine ⟨pc, at_i, ?_, closeGoesOn (Program.exec_trans run goesOn) at_i⟩
  exact (Nat.le_add_right _ _).trans steps

/-- `Close` waits for a sender with a send in flight. -/
theorem close_proceeds_whileSending : ∃ mid c pc,
    clientProgram.exec ⟨{ cfg := .minimal }, []⟩ (makesAndSends ++ [.call .close, .act 2 .go]) =
        some mid ∧
      clientProgram.exec mid (.act 2 .go :: usesSender 1 [.act 1 .go]) = some c ∧
      mid.threads[2]? = some (.close (.teardown [0] [])) ∧
      c.threads[2]? = some (.close pc) ∧
      stepsOf (fun _ => false) 2 (.act 2 .go :: usesSender 1 [.act 1 .go]) ≤ 3 ∧
      CloseGoesOn c 2 pc := by
  obtain ⟨mid, c, run, taken, goesOn⟩ : ∃ mid c,
      clientProgram.exec ⟨{ cfg := .minimal }, []⟩ (makesAndSends ++ [.call .close, .act 2 .go]) =
        some mid ∧ mid.threads[2]? = some (.close (.teardown [0] [])) ∧
      clientProgram.exec mid (.act 2 .go :: usesSender 1 [.act 1 .go]) = some c :=
    ⟨_, _, rfl, rfl, rfl⟩
  obtain ⟨pc, at_i, steps, proceeds⟩ := close_proceeds .minimal _ _ mid c run goesOn 2 [0] [] taken
  exact ⟨mid, c, pc, run, goesOn, taken, at_i, steps, proceeds⟩

/-- The client is closed after a send was left behind. -/
def closesLeftBehind : List ClientMove :=
  [.call (.build (.newSender "ORDERS" [.withSenderConcurrency 1])), .act 0 .go, .act 0 .go,
    .act 0 .go, .call .application] ++ usesSender 1 abandonedDial ++
  [.call .close, .act 2 .go, .act 2 .go] ++ usesSender 1 [.act 2 .go]

-- the exception occurs
example : ∃ c sender,
    clientProgram.exec ⟨{ cfg := .minimal }, []⟩ closesLeftBehind = some c ∧
      c.threads[2]? = some (.close (.await 0 2 [] [])) ∧
      c.shared.components[0]? = some (.sender sender) ∧ Deadlocked sender := by
  obtain ⟨c, sender, run, waiting, at_0, threads, closed, pool, wg⟩ : ∃ c sender,
      clientProgram.exec ⟨{ cfg := .minimal }, []⟩ closesLeftBehind = some c ∧
      c.threads[2]? = some (.close (.await 0 2 [] [])) ∧
      c.shared.components[0]? = some (.sender sender) ∧
      sender.threads =
        [.send ⟨"ORDERS", some .canceled, true, none, .returned (.error (.context .canceled)),
            {}, [], []⟩,
          .send ⟨"ORDERS", none, true, none, .acquire .await, {}, [], []⟩, .close (.await 0)] ∧
      sender.shared.closed = true ∧ sender.shared.pool = [] ∧ sender.shared.wg = 1 :=
    ⟨_, _, rfl, rfl, rfl, rfl, rfl, rfl, rfl⟩
  refine ⟨c, sender, run, waiting, at_0, closed, pool, by simp [wg], ?_⟩
  simp [threads, SenderThread.Over, SenderThread.Waits]

end CommonsMQ
