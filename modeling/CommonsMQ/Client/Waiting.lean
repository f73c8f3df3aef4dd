import CommonsMQ.Client.Closing
import CommonsMQ.RequestReply.InFlight

/-! # What a returned Close has waited for

The teardown of a sender or a listener returns when nothing runs in it any more, that of
a request-reply client at once. A `Close` that finds the client closed does not wait at
all. Both leave a gap, and the two theorems here say how far the promise of `Close` goes:
for request-reply clients if nobody is inside when their teardown returns, and for senders
and listeners if no second `Close` overlaps with the first.
-/

namespace CommonsMQ

open Interleave

/-! ## Teardowns are called once -/

def SenderThread.isClose : SenderThread → Bool
  | .close _ => true
  | .send _ | .probe _ => false

def ListenerThread.isClose : ListenerThread → Bool
  | .close _ => true
  | .start _ | .consumer _ | .probe _ => false

namespace Component

/-- The calls of the teardown; a request-reply client's `Close` is also the application's. -/
def closes : Component → ℤ
  | .sender c => tally (fun t => flag t.isClose) c.threads
  | .listener c => tally (fun t => flag t.isClose) c.threads
  | .requestReply _ => 0

def exported : Component → Bool
  | .requestReply _ => true
  | .sender _ | .listener _ => false

/-- The teardown has come back, and not because it had been called before. -/
def TornDown : Component → Prop
  | .sender c => ∃ err, .close (.returned err) ∈ c.threads
  | .listener c => .close .returned ∈ c.threads
  | .requestReply _ => True

/-- No send is between its admission and its end, no handler is running, and no consumer is left. -/
def Finished : Component → Prop
  | .sender c => ∀ t ∈ c.threads, t.inFlight = 0
  | .listener c => Quiet c
  | .requestReply _ => True

section Step

variable {cfg : ClientConfig} {component component' : Component} {m : ComponentMove}

theorem Step.exported_eq (step : Step component m component') :
    component'.exported = component.exported := by
  cases step <;> rfl

theorem Step.closes_teardown (step : Step component component.teardown component')
    (own : component.exported = false) : component'.closes = component.closes + 1 := by
  cases component with
  | requestReply => cases own
  | sender c =>
      cases step with
      | sender moved =>
          obtain rfl := Option.some.inj moved
          simp [closes, senderProgram, SenderThread.isClose]
  | listener c =>
      cases step with
      | listener moved =>
          obtain rfl := Option.some.inj moved
          simp [closes, listenerProgram, ListenerThread.isClose]

theorem Step.closes_permitted {held : Bool} (step : Step component m component')
    (allowed : m.permitted held = true) : component'.closes = component.closes := by
  cases step with
  | sender moved =>
      obtain ⟨r, rfl, rfl⟩ | ⟨i, a, t, s, t', rfl, found, inner, rfl⟩ := sender_cases moved
      · cases r with
        | send | health => simp [closes, senderProgram, SenderThread.isClose]
        | close => cases allowed
      · have same : t'.isClose = t.isClose := by cases inner <;> rfl
        simp [closes, tally_set _ found, same]
  | listener moved =>
      obtain ⟨r, rfl, rfl⟩ | ⟨i, a, t, l, t', fresh, rfl, found, inner, rfl⟩ := listener_cases moved
      · cases r with
        | start | health => simp [closes, listenerProgram, ListenerThread.isClose]
        | close => cases allowed
      · have same : t'.isClose = t.isClose := by cases inner <;> rfl
        have new : tally (fun t : ListenerThread => flag t.isClose) fresh = 0 := by
          apply tally_eq_zero
          intro u member
          obtain ⟨k, rfl⟩ := inner.fresh_consumer member
          rfl
        simp [closes, tally_set _ found, same, new]
  | requestReply => rfl

theorem Step.stays_tornDown (step : Step component m component') (before : component.TornDown) :
    component'.TornDown := by
  cases step with
  | sender moved =>
      obtain ⟨err, member⟩ := before
      obtain ⟨r, rfl, rfl⟩ | ⟨i, a, t, s, t', rfl, found, inner, rfl⟩ := sender_cases moved
      · exact ⟨err, List.mem_append_left _ member⟩
      · refine ⟨err, ?_⟩
        obtain ⟨j, at_j⟩ := List.mem_iff_getElem?.mp member
        by_cases same : j = i
        · subst same
          obtain rfl := Option.some.inj (at_j.symm.trans found)
          cases inner with
          | close inner => cases inner
        · exact Program.mem_threads_set_of_ne same at_j
  | listener moved => exact returned_run (Program.exec_single moved) before
  | requestReply => trivial

end Step

/-- When the teardown has come back from its wait, the component is finished. -/
theorem Reached.finished {cfg : ClientConfig} {component : Component}
    (reached : component.Reached cfg) (down : component.TornDown) : component.Finished := by
  cases component with
  | sender c =>
      obtain ⟨queue, opts, ms, run⟩ := reached
      obtain ⟨err, member⟩ := down
      have inv := (GuardInv.start (newSender_fresh cfg queue opts)).run run
      exact fun t there => inv.outside (inv.quiet _ member trivial) there
  | listener c =>
      obtain ⟨queue, opts, ms, run⟩ := reached
      exact ((ProtocolInv.start cfg queue opts).run run).quiet
        ((LiveInv.start cfg queue opts).run run) down
  | requestReply => trivial

/-- A close that has returned on a component closed only once is no repeated one. -/
theorem Reached.tornDown {cfg : ClientConfig} {component : Component} {i : Nat}
    {err : Option GoError} (reached : component.Reached cfg) (once : component.closes ≤ 1)
    (result : component.closeResult i = some err) : component.TornDown := by
  cases component with
  | sender c =>
      obtain ⟨queue, opts, ms, run⟩ := reached
      have inv := (GuardInv.start (newSender_fresh cfg queue opts)).run run
      simp only [closeResult] at result
      split at result
      · exact ⟨_, List.mem_of_getElem? ‹_›⟩
      · rename_i found
        have closed : c.shared.closed = true :=
          Gate.Marked.run senderGate run _ (List.mem_of_getElem? found) ⟨_, rfl, by simp⟩
        have first : 0 < tally SenderThread.firstClose c.threads := by
          rw [← inv.closed, closed, flag_true]
          exact one_pos
        have twice := two_le_tally (g := fun t : SenderThread => flag t.isClose)
          (fun t => by cases t.isClose <;> decide) first
          (fun t positive => by cases t <;> simp_all [SenderThread.isClose, SenderThread.firstClose])
          found rfl rfl
        simp only [closes] at once
        omega
      · cases result
  | listener c =>
      obtain ⟨queue, opts, ms, run⟩ := reached
      have inv := (ProtocolInv.start cfg queue opts).run run
      simp only [closeResult] at result
      split at result
      · exact List.mem_of_getElem? ‹_›
      · rename_i found
        have closed : c.shared.closed = true :=
          Gate.Marked.run listenerGate run _ (List.mem_of_getElem? found) ⟨_, rfl, by simp⟩
        have first : 0 < tally ListenerThread.stops c.threads := by
          rw [← inv.closed, closed, flag_true]
          exact one_pos
        have twice := two_le_tally (g := fun t : ListenerThread => flag t.isClose)
          (fun t => by cases t.isClose <;> decide) first
          (fun t positive => by cases t <;> simp_all [ListenerThread.isClose, ListenerThread.stops])
          found rfl rfl
        simp only [closes] at once
        omega
      · cases result
  | requestReply => trivial

end Component

/-- 1 for the `Close` that waits for the teardown of `k`. -/
def ClientThread.awaits (k : Nat) : ClientThread → ℤ
  | .close (.await k' _ _ _) => if k' = k then 1 else 0
  | _ => 0

theorem ClientThread.awaits_nonneg (k : Nat) (t : ClientThread) : 0 ≤ t.awaits k := by
  unfold awaits
  split
  · split <;> decide
  · exact le_rfl

theorem ClientThread.awaits_le (k : Nat) (t : ClientThread) : t.awaits k ≤ t.work.count k := by
  unfold awaits
  split
  · simp only [work, List.count_cons, beq_iff_eq]
    split <;> omega
  · exact Int.natCast_nonneg _

/-- Teardowns are called by `Close` only, and each of them once. -/
structure TeardownInv (cfg : ClientConfig) (c : ClientState) : Prop extends ClientBase cfg c where
  called : ∀ (k : Nat) (component : Component), c.shared.components[k]? = some component →
    component.exported = false →
    component.closes = c.shared.ran.count k + tally (ClientThread.awaits k) c.threads
  torn : ∀ k ∈ c.shared.ran, ∀ component, c.shared.components[k]? = some component →
    component.TornDown
  marked : .close .repeated ∈ c.threads → c.shared.closed = true

namespace TeardownInv

variable {cfg : ClientConfig} {c c' : ClientState}

theorem tally_awaits_le (inv : TeardownInv cfg c) (k : Nat) :
    c.shared.ran.count k + tally (ClientThread.awaits k) c.threads ≤
      c.shared.registered.count k := by
  have owed := inv.owed k
  have below : tally (ClientThread.awaits k) c.threads ≤
      tally (fun t => (t.work.count k : ℤ)) c.threads :=
    tally_le fun t _ => t.awaits_le k
  have closers := Int.natCast_nonneg (c.shared.closers.count k)
  omega

theorem closes_le (inv : TeardownInv cfg c) {k : Nat} {component : Component}
    (found : c.shared.components[k]? = some component) (own : component.exported = false) :
    component.closes ≤ 1 := by
  rw [inv.called k component found own]
  have below := inv.tally_awaits_le k
  have once := inv.count_le k
  unfold Client.issued at once
  split at once <;> omega

section Act

variable {i : Nat} {t t' : ClientThread} {s : Client}

theorem called_act (inv : TeardownInv cfg c) (found : c.threads[i]? = some t)
    (step : ClientStep c.shared t s t') {k : Nat} {component' : Component}
    (after : s.components[k]? = some component') (own : component'.exported = false) :
    component'.closes = s.ran.count k + tally (ClientThread.awaits k) (c.threads.set i t') := by
  rw [tally_set _ found]
  cases step with
  | @constructed what =>
      rw [List.getElem?_append] at after
      split at after
      · simpa [ClientThread.awaits] using inv.called k component' after own
      · -- a new name: nobody has heard of it
        rename_i beyond
        obtain rfl := List.mem_singleton.mp (List.mem_of_getElem? after)
        have unknown := inv.count_le k
        have below := inv.tally_awaits_le k
        have nonneg := tally_nonneg (ClientThread.awaits_nonneg k) c.threads
        rw [Client.issued, if_neg beyond] at unknown
        have fresh : (what.build c.shared.cfg).closes = 0 := by cases what <;> rfl
        simp only [ClientThread.awaits, fresh]
        omega
  | @invoked j rest errs component new there moved =>
      obtain ⟨rfl, rfl⟩ | ⟨other, same⟩ := Client.setComponent_cases there after
      · have mine : component.exported = false := moved.exported_eq.symm.trans own
        rw [moved.closes_teardown mine, inv.called j component there mine]
        simp only [Client.setComponent, ClientThread.awaits, if_true]
        omega
      · simpa [Client.setComponent, ClientThread.awaits, other] using
          inv.called k component' same own
  | @ran j _ _ _ _ _ there result =>
      have before := inv.called k component' after own
      simp only [ClientThread.awaits, List.count_append, List.count_singleton, beq_iff_eq]
      push_cast
      omega
  | @used j m component new there allowed moved =>
      obtain ⟨rfl, rfl⟩ | ⟨-, same⟩ := Client.setComponent_cases there after
      · have mine : component.exported = false := moved.exported_eq.symm.trans own
        rw [moved.closes_permitted allowed, inv.called j component there mine]
        simp [Client.setComponent, ClientThread.awaits]
      · simpa [Client.setComponent, ClientThread.awaits] using inv.called k component' same own
  | registered | handedOut | repeated | began | returned =>
      simpa [ClientThread.awaits, Client.register, Client.registerHealthProber] using
        inv.called k component' after own

theorem torn_act (inv : TeardownInv cfg c) (step : ClientStep c.shared t s t') {k : Nat}
    (ran : k ∈ s.ran) {component' : Component} (after : s.components[k]? = some component') :
    component'.TornDown := by
  refine inv.ran_act inv.torn ?_ ?_ step ran after
  · intro component m component' moved torn
    exact moved.stays_tornDown torn
  · intro k i rest errs component err _ found closed
    have reached := inv.reached _ (List.mem_of_getElem? found)
    cases own : component.exported with
    | false => exact reached.tornDown (inv.closes_le found own) closed
    | true =>
        cases component with
        | requestReply => trivial
        | sender | listener => cases own

end Act

theorem next (inv : TeardownInv cfg c) {m : ClientMove}
    (moved : clientProgram.next c m = some c') : TeardownInv cfg c' := by
  have base := inv.toClientBase.next moved
  obtain ⟨r, -, rfl⟩ | ⟨i, a, t, s, t', started, rfl, found, stepped, rfl⟩ :=
    Program.next_cases moved
  · refine ⟨base, fun k component at_k own => ?_, inv.torn, fun there => ?_⟩
    · rw [inv.called k component at_k own, tally_append]
      cases r <;> simp [clientProgram, ClientThread.awaits]
    · rcases List.mem_append.mp there with old | new
      · exact inv.marked old
      · cases r <;> cases List.mem_singleton.mp new
  · obtain ⟨step, rfl⟩ := clientProgram_step stepped
    rw [List.append_nil] at base ⊢
    refine ⟨base, fun k component after own => inv.called_act found step after own,
      fun k ran component after => inv.torn_act step ran after, fun there => ?_⟩
    obtain same | ⟨j, -, at_j⟩ := Program.mem_threads_set there
    · cases step with
      | repeated closed => exact closed
      | _ => cases same
    · exact step.stays_closed (inv.marked (List.mem_of_getElem? at_j))

theorem run {ms : List ClientMove} (run : clientProgram.exec ⟨{ cfg := cfg }, []⟩ ms = some c) :
    TeardownInv cfg c :=
  Program.exec_invariant (fun _ _ _ inv _ moved => inv.next moved)
    ⟨.start, by simp, by simp, by simp⟩ (Program.meets_true ms) run

end TeardownInv

/-! ## Overlapping calls of Close -/

/-- A `Close` that finds the client closed does so when no teardown is left to run. -/
def FindsIdle (c : ClientState) : ClientThread → Prop
  | .close .begin => c.shared.closed = true → ∀ t ∈ c.threads, t.work = []
  | _ => True

def OneCloseAtATime (c : ClientState) : ClientMove → Prop
  | .call _ => True
  | .act i _ => ∀ t, c.threads[i]? = some t → FindsIdle c t

instance (c : ClientState) : (t : ClientThread) → Decidable (FindsIdle c t)
  | .close .begin =>
      inferInstanceAs (Decidable (c.shared.closed = true → ∀ t ∈ c.threads, t.work = []))
  | .close (.teardown _ _) => isTrue trivial
  | .close (.await _ _ _ _) => isTrue trivial
  | .close (.returned _) => isTrue trivial
  | .close .repeated => isTrue trivial
  | .factory _ _ => isTrue trivial
  | .application => isTrue trivial

instance (c : ClientState) : (m : ClientMove) → Decidable (OneCloseAtATime c m)
  | .call _ => isTrue trivial
  | .act i _ => inferInstanceAs (Decidable (∀ t ∈ c.threads[i]?, FindsIdle c t))

/-- From a state on in which the names `early` were registered and the client was open. -/
structure OverlapInv (cfg : ClientConfig) (early : List Nat) (c : ClientState) : Prop
    extends TeardownInv cfg c where
  known : ∀ k ∈ early, k ∈ c.shared.registered
  taken : c.shared.closed = true → ∀ k ∈ early, k ∉ c.shared.closers
  repeated : .close .repeated ∈ c.threads →
    c.shared.closed = true ∧ ∀ t ∈ c.threads, t.work = []

namespace OverlapInv

variable {cfg : ClientConfig} {early : List Nat} {c c' : ClientState}

theorem taken_act (inv : OverlapInv cfg early c) {i : Nat} {t t' : ClientThread} {s : Client}
    (found : c.threads[i]? = some t) (step : ClientStep c.shared t s t')
    (closed : s.closed = true) {k : Nat} (isEarly : k ∈ early) : k ∉ s.closers := by
  cases step with
  | @registered what j =>
      -- a name that is still to be registered is none of the early ones
      intro member
      rcases List.mem_append.mp member with old | new
      · exact inv.taken closed k isEarly old
      · obtain rfl := List.mem_singleton.mp new
        have once := (inv.count_registered (inv.known k isEarly)).1
        have names := inv.names k
        have pending := le_tally (ClientThread.pending_nonneg k) (List.mem_of_getElem? found)
        have issued : c.shared.issued k ≤ 1 := by
          unfold Client.issued
          split <;> decide
        simp only [ClientThread.pending, if_true] at pending
        omega
  | began => simp
  | _ => exact inv.taken closed k isEarly

theorem next (inv : OverlapInv cfg early c) {m : ClientMove} (apart : OneCloseAtATime c m)
    (moved : clientProgram.next c m = some c') : OverlapInv cfg early c' := by
  have base := inv.toTeardownInv.next moved
  obtain ⟨r, -, rfl⟩ | ⟨i, a, t, s, t', started, rfl, found, stepped, rfl⟩ :=
    Program.next_cases moved
  · exact ⟨base, inv.known, inv.taken, idle_of_repeated_call r inv.repeated⟩
  · obtain ⟨step, rfl⟩ := clientProgram_step stepped
    refine ⟨base, fun k isEarly => step.stays_registered (inv.known k isEarly),
      fun closed k isEarly => inv.taken_act found step closed isEarly,
      step.idle_of_repeated found inv.repeated ?_⟩
    rintro rfl
    exact apart _ found

/-- When a `Close` has returned, the teardowns known early have all come back. -/
theorem torn_down (inv : OverlapInv cfg early c) (closed : ∃ t ∈ c.threads, t.CloseReturned)
    {k : Nat} (isEarly : k ∈ early) : c.shared.ran.count k = 1 ∧
      ∃ component, c.shared.components[k]? = some component ∧ component.Finished := by
  obtain ⟨isClosed, idle⟩ := inv.settled inv.repeated closed
  obtain ⟨once, issued⟩ := inv.count_registered (inv.known k isEarly)
  have nothing : tally (fun t : ClientThread => (t.work.count k : ℤ)) c.threads = 0 :=
    tally_eq_zero fun t member => by simp [idle t member]
  have owed := inv.owed k
  rw [nothing, List.count_eq_zero.mpr (inv.taken isClosed k isEarly), once] at owed
  have ran : c.shared.ran.count k = 1 := by omega
  have at_k : c.shared.components[k]? = some c.shared.components[k] :=
    List.getElem?_eq_getElem issued
  have down := inv.torn k (List.count_pos_iff.mp (by omega)) _ at_k
  exact ⟨ran, _, at_k, (inv.reached _ (List.mem_of_getElem? at_k)).finished down⟩

end OverlapInv

/-- In `c` all teardowns that were registered in `c₀` have come back, and nothing that they
    are there for is still running. -/
structure ShutDown (c₀ c : ClientState) : Prop where
  completed : ∀ k ∈ c₀.shared.registered, c.shared.ran.count k = 1
  finished : ∀ k ∈ c₀.shared.registered,
    ∃ component, c.shared.components[k]? = some component ∧ component.Finished

theorem every_close_finishes (cfg : ClientConfig) (before after : List ClientMove)
    (c₀ c : ClientState) (run : clientProgram.exec ⟨{ cfg := cfg }, []⟩ before = some c₀)
    (opened : c₀.shared.closed = false) (later : clientProgram.exec c₀ after = some c)
    (apart : clientProgram.Meets OneCloseAtATime c₀ after)
    (closed : ∃ t ∈ c.threads, t.CloseReturned) : ShutDown c₀ c := by
  have base : TeardownInv cfg c₀ := .run run
  have start : OverlapInv cfg c₀.shared.registered c₀ := by
    refine ⟨base, fun k member => member, by simp [opened], fun there => ?_⟩
    simp [base.marked there] at opened
  have keep : ∀ d m d', OverlapInv cfg c₀.shared.registered d → OneCloseAtATime d m →
      clientProgram.next d m = some d' → OverlapInv cfg c₀.shared.registered d' :=
    fun _ _ _ inv apart moved => inv.next apart moved
  have inv := Program.exec_invariant keep start apart later
  exact ⟨fun k early => (inv.torn_down closed early).1,
    fun k early => (inv.torn_down closed early).2⟩

/-- A sender is made and a send of it is in flight. -/
def makesAndSends : List ClientMove :=
  [.call (.build (.newSender "ORDERS" [])), .act 0 .go, .act 0 .go, .act 0 .go,
    .call .application] ++ usesSender 1 (.call (.send "" none false none) :: acquiresByDial 0 7)

/-- `Close` has called the teardown of the sender, which waits for the send. -/
def closesWhileSending : List ClientMove :=
  [.call .close, .act 2 .go, .act 2 .go] ++ usesSender 1 [.act 1 .go]

/-- The send ends, the teardown and then `Close` return. -/
def sendsAndFinishes : List ClientMove :=
  usesSender 1 (putsAndReturns 0 ++ [.act 1 .go, .act 1 .go, .act 1 .go, .act 1 (.disced none),
    .act 1 .go]) ++ [.act 2 .go, .act 2 .go]

/-- A second `Close` after the first. -/
theorem every_close_finishes_in_turn : ∃ c₀ c,
    clientProgram.exec ⟨{ cfg := .minimal }, []⟩ makesAndSends = some c₀ ∧
      clientProgram.exec c₀ (closesWhileSending ++ sendsAndFinishes ++ [.call .close, .act 3 .go]) =
        some c ∧
      c.threads[2]? = some (.close (.returned none)) ∧ c.threads[3]? = some (.close .repeated) ∧
      ShutDown c₀ c := by
  obtain ⟨c₀, c, run, opened, later, first, second, apart⟩ : ∃ c₀ c,
      clientProgram.exec ⟨{ cfg := .minimal }, []⟩ makesAndSends = some c₀ ∧
      c₀.shared.closed = false ∧
      clientProgram.exec c₀ (closesWhileSending ++ sendsAndFinishes ++ [.call .close, .act 3 .go]) =
        some c ∧
      c.threads[2]? = some (.close (.returned none)) ∧ c.threads[3]? = some (.close .repeated) ∧
      clientProgram.Meets OneCloseAtATime c₀
        (closesWhileSending ++ sendsAndFinishes ++ [.call .close, .act 3 .go]) :=
    ⟨_, _, rfl, rfl, rfl, rfl, rfl, by decide⟩
  exact ⟨c₀, c, run, later, first, second, every_close_finishes .minimal makesAndSends _ c₀ c run
    opened later apart ⟨_, List.mem_of_getElem? second, trivial⟩⟩

/-- A second `Close` while the first one waits for a send: it returns at once. -/
theorem second_close_overtakes_send : ∃ c₀ c sender,
    clientProgram.exec ⟨{ cfg := .minimal }, []⟩ makesAndSends = some c₀ ∧
      c₀.shared.closed = false ∧
      clientProgram.exec c₀ (closesWhileSending ++ [.call .close, .act 3 .go]) = some c ∧
      c.threads[3]? = some (.close .repeated) ∧
      c.shared.components[0]? = some (.sender sender) ∧ sender.shared.wg = 1 ∧
      ¬ShutDown c₀ c := by
  refine ⟨_, _, _, rfl, rfl, rfl, rfl, rfl, rfl, fun down => ?_⟩
  have never := down.completed 0 List.mem_cons_self
  cases never

/-! ## Request-reply calls -/

def Component.Vacant : Component → Prop
  | .requestReply c => ∀ t ∈ c.threads, t.inside = false
  | .sender _ | .listener _ => True

instance : (component : Component) → Decidable component.Vacant
  | .requestReply c => inferInstanceAs (Decidable (∀ t ∈ c.threads, t.inside = false))
  | .sender _ => isTrue trivial
  | .listener _ => isTrue trivial

/-- Component `k` is a request-reply client. -/
def Client.requester (c : Client) (k : Nat) : Bool := c.components[k]?.any Component.exported

/-- A request-reply client is registered while the client is open. A `Close` that finds the
    client closed does so when no request-reply client is left to be torn down. And when
    `Close` comes back from the teardown of one, none of its calls is past the check of
    `closed` and not returned. -/
def FindsVacant (c : ClientState) : ClientThread → Prop
  | .factory _ (.register k) => c.shared.requester k = true → c.shared.closed = false
  | .close .begin => c.shared.closed = true →
      ∀ t ∈ c.threads, ∀ k ∈ t.work, c.shared.requester k = false
  | .close (.await k _ _ _) => ∀ component ∈ c.shared.components[k]?, component.Vacant
  | _ => True

def Patient (c : ClientState) : ClientMove → Prop
  | .call _ => True
  | .act i _ => ∀ t, c.threads[i]? = some t → FindsVacant c t

instance (c : ClientState) : (t : ClientThread) → Decidable (FindsVacant c t)
  | .factory _ (.register k) =>
      inferInstanceAs (Decidable (c.shared.requester k = true → c.shared.closed = false))
  | .factory _ .construct => isTrue trivial
  | .factory _ (.registerHealthProber _) => isTrue trivial
  | .factory _ (.returned _) => isTrue trivial
  | .close .begin =>
      inferInstanceAs (Decidable (c.shared.closed = true →
        ∀ t ∈ c.threads, ∀ k ∈ t.work, c.shared.requester k = false))
  | .close (.await k _ _ _) =>
      inferInstanceAs (Decidable (∀ component ∈ c.shared.components[k]?, component.Vacant))
  | .close (.teardown _ _) => isTrue trivial
  | .close (.returned _) => isTrue trivial
  | .close .repeated => isTrue trivial
  | .application => isTrue trivial

instance (c : ClientState) : (m : ClientMove) → Decidable (Patient c m)
  | .call _ => isTrue trivial
  | .act i _ => inferInstanceAs (Decidable (∀ t ∈ c.threads[i]?, FindsVacant c t))

section Requesters

variable {c c' : Client} {t t' : ClientThread}

theorem Client.requester_setComponent {j : Nat} {component component' : Component}
    {m : ComponentMove} (found : c.components[j]? = some component)
    (moved : component.Step m component') (k : Nat) :
    (c.setComponent j component').requester k = c.requester k := by
  unfold requester setComponent
  by_cases same : j = k
  · subst same
    simp [found, List.getElem?_set_self (List.getElem?_eq_some_iff.mp found).1, moved.exported_eq]
  · simp [List.getElem?_set_ne same]

/-- What a name stands for does not change. -/
theorem ClientStep.requester (step : ClientStep c t c' t') {k : Nat}
    (known : k < c.components.length) : c'.requester k = c.requester k := by
  cases step with
  | constructed => simp [Client.requester, List.getElem?_append_left known]
  | invoked found moved => exact Client.requester_setComponent found moved k
  | used found _ moved => exact Client.requester_setComponent found moved k
  | _ => rfl

/-- On a closed client no thread takes up a teardown that it did not have before. -/
theorem ClientStep.work_subset (step : ClientStep c t c' t') (closed : c.closed = true) {k : Nat}
    (busy : k ∈ t'.work) : k ∈ t.work := by
  cases step with
  | began opened => simp [closed] at opened
  | invoked => exact busy
  | ran => exact List.mem_cons_of_mem _ busy
  | _ => cases busy

end Requesters

theorem ClientBase.closer_known {cfg : ClientConfig} {c : ClientState} (inv : ClientBase cfg c)
    {k : Nat} (member : k ∈ c.shared.closers) : k < c.shared.components.length := by
  have owed := inv.owed k
  have nonneg := tally_nonneg (f := fun t : ClientThread => (t.work.count k : ℤ))
    (fun _ => Int.natCast_nonneg _) c.threads
  have once := List.count_pos_iff.mpr member
  exact (inv.count_registered (List.count_pos_iff.mp (by omega))).2

structure RequestsInv (cfg : ClientConfig) (c : ClientState) : Prop extends ClientBase cfg c where
  taken : c.shared.closed = true → ∀ k ∈ c.shared.closers, c.shared.requester k = false
  repeated : .close .repeated ∈ c.threads → c.shared.closed = true ∧
    ∀ t ∈ c.threads, ∀ k ∈ t.work, c.shared.requester k = false
  left : ∀ k ∈ c.shared.ran, ∀ rr, c.shared.components[k]? = some (.requestReply rr) → Emptied rr

namespace RequestsInv

variable {cfg : ClientConfig} {c c' : ClientState} {i : Nat} {t t' : ClientThread} {s : Client}

theorem taken_act (inv : RequestsInv cfg c) (order : FindsVacant c t)
    (step : ClientStep c.shared t s t') (closed : s.closed = true) {k : Nat}
    (member : k ∈ s.closers) : s.requester k = false := by
  have before : c.shared.closed = true → k ∈ c.shared.closers → s.requester k = false := by
    intro already old
    rw [step.requester (inv.closer_known old)]
    exact inv.taken already k old
  cases step with
  | registered =>
      rcases List.mem_append.mp member with old | new
      · exact before closed old
      · obtain rfl := List.mem_singleton.mp new
        by_contra requests
        have opened := order (Bool.eq_true_of_not_eq_false requests)
        exact absurd (closed.symm.trans opened) (by decide)
  | began => cases member
  | _ => exact before closed member

theorem repeated_act (inv : RequestsInv cfg c) (order : FindsVacant c t)
    (found : c.threads[i]? = some t) (step : ClientStep c.shared t s t')
    (there : .close .repeated ∈ c.threads.set i t' ++ []) :
    s.closed = true ∧ ∀ u ∈ c.threads.set i t' ++ [], ∀ k ∈ u.work, s.requester k = false := by
  have done : c.shared.closed = true ∧
      ∀ u ∈ c.threads, ∀ k ∈ u.work, c.shared.requester k = false := by
    rw [List.append_nil] at there
    obtain same | ⟨j, -, at_j⟩ := Program.mem_threads_set there
    · cases step with
      | repeated closed => exact ⟨closed, order closed⟩
      | _ => cases same
    · exact inv.repeated (List.mem_of_getElem? at_j)
  obtain ⟨closed, rest⟩ := done
  have named : ∀ u ∈ c.threads, ∀ k ∈ u.work, s.requester k = false := by
    intro u member k busy
    rw [step.requester (inv.count_registered (inv.registered_of_work member busy)).2]
    exact rest u member k busy
  refine ⟨step.stays_closed closed, Program.forall_threads_act ?_ (by simp) ?_⟩
  · intro k busy
    exact named t (List.mem_of_getElem? found) k (step.work_subset closed busy)
  · exact fun j u _ at_j => named u (List.mem_of_getElem? at_j)

theorem left_act (inv : RequestsInv cfg c) (vacant : FindsVacant c t)
    (step : ClientStep c.shared t s t') {k : Nat} (ran : k ∈ s.ran)
    {rr : RRConfig} (after : s.components[k]? = some (.requestReply rr)) : Emptied rr := by
  have every : ∀ rr', Component.requestReply rr = .requestReply rr' → Emptied rr' := by
    refine inv.ran_act (Q := fun component => ∀ rr', component = .requestReply rr' → Emptied rr')
      ?_ ?_ ?_ step ran after
    · rintro k earlier component at_k rr' rfl
      exact inv.left k earlier rr' at_k
    · rintro component m component' moved emptied rr' rfl
      cases moved with
      | requestReply inner => exact (emptied _ rfl).next inner
    · rintro k i rest errs component err rfl found closed rr' rfl
      have shut := (inv.reached _ (List.mem_of_getElem? found)).shut closed
      exact ⟨shut, vacant _ found⟩
  exact every rr rfl

theorem next (inv : RequestsInv cfg c) {m : ClientMove} (patient : Patient c m)
    (moved : clientProgram.next c m = some c') : RequestsInv cfg c' := by
  have base := inv.toClientBase.next moved
  obtain ⟨r, -, rfl⟩ | ⟨i, a, t, s, t', started, rfl, found, stepped, rfl⟩ :=
    Program.next_cases moved
  · refine ⟨base, inv.taken, fun there => ?_, inv.left⟩
    rcases List.mem_append.mp there with old | new
    · obtain ⟨closed, rest⟩ := inv.repeated old
      exact ⟨closed, Program.forall_threads_call rest (by cases r <;> simp [clientProgram,
        ClientThread.work])⟩
    · cases r <;> cases List.mem_singleton.mp new
  · obtain ⟨step, rfl⟩ := clientProgram_step stepped
    have order := patient t found
    exact ⟨base, fun closed k => inv.taken_act order step closed,
      inv.repeated_act order found step, fun k ran rr after => inv.left_act order step ran after⟩

/-- When a `Close` has returned, so has the teardown of every request-reply client. -/
theorem torn_down (inv : RequestsInv cfg c) (closed : ∃ t ∈ c.threads, t.CloseReturned) {k : Nat}
    (registered : k ∈ c.shared.registered) (requests : c.shared.requester k = true) :
    k ∈ c.shared.ran := by
  obtain ⟨isClosed, idle⟩ := inv.at_rest inv.repeated closed
  have missing : ∀ ks : List Nat, (∀ j ∈ ks, c.shared.requester j = false) → ks.count k = 0 := by
    intro ks none
    refine List.count_eq_zero.mpr fun member => ?_
    exact absurd (requests.symm.trans (none k member)) (by decide)
  have nothing : tally (fun t : ClientThread => (t.work.count k : ℤ)) c.threads = 0 :=
    tally_eq_zero fun t member => by simp [missing _ (idle t member)]
  have owed := inv.owed k
  rw [nothing, missing _ (inv.taken isClosed), (inv.count_registered registered).1] at owed
  exact List.count_pos_iff.mp (by omega)

end RequestsInv

theorem Component.Reached.requestsLive {cfg : ClientConfig} {c : RRConfig}
    (reached : (Component.requestReply c).Reached cfg) : RequestsLive c := by
  obtain ⟨r, ms, run, made⟩ := reached
  refine RequestsLive.run ?_ run
  have folds : ∀ (opts : List RROption) (r : RequestReplyClient), r.live = [] →
      (opts.foldl RROption.apply r).live = [] := by
    intro opts
    induction opts with
    | nil => exact fun r empty => empty
    | cons opt rest ih =>
        refine fun r empty => ih _ ?_
        cases opt with
        | withRRReplyQueue queue =>
            simp only [RROption.apply]
            split <;> exact empty
  obtain ⟨queue, opts, rfl⟩ | ⟨queue, replyQueue, opts, rfl⟩ := made
  · exact folds opts _ rfl
  · exact folds opts _ rfl

theorem close_waits_for_requests (cfg : ClientConfig) (ms : List ClientMove) (c : ClientState)
    (run : clientProgram.exec ⟨{ cfg := cfg }, []⟩ ms = some c)
    (patient : clientProgram.Meets Patient ⟨{ cfg := cfg }, []⟩ ms)
    (closed : ∃ t ∈ c.threads, t.CloseReturned) :
    ∀ (k : Nat) (rr : RRConfig), c.shared.components[k]? = some (.requestReply rr) →
      RRQuiet rr := by
  have inv : RequestsInv cfg c := Program.exec_invariant
    (fun _ _ _ inv patient moved => inv.next patient moved)
    ⟨.start, by simp, by simp, by simp⟩ patient run
  intro k rr at_k
  have live := (inv.reached _ (List.mem_of_getElem? at_k)).requestsLive
  apply live.quiet
  by_cases registered : k ∈ c.shared.registered
  · have requests : c.shared.requester k = true := by
      simp [Client.requester, at_k, Component.exported]
    exact (inv.left k (inv.torn_down closed registered requests) rr at_k).2
  · have empty := inv.untouched k _ at_k registered
    have none : rr.threads = [] := List.eq_nil_of_length_eq_zero empty
    simp [none]

/-- Thread 1 is application code that takes steps of component 0, a request-reply client. -/
def usesRequester (ms : List RRMove) : List ClientMove :=
  ms.map fun m => .act 1 (.use 0 (.requestReply m))

/-- A request-reply client is made, and a call on it passes the check of `closed`. -/
def requests : List ClientMove :=
  [.call (.build (.newRequestReplyClient "REQUESTS" [])), .act 0 .go, .act 0 .go, .act 0 .go,
    .call .application] ++
  usesRequester [.call (.requestReply none 1000000000 false none), .act 0 .go, .act 0 .go]

/-- The call dials, exchanges its messages and returns. -/
def receivesReply : List ClientMove :=
  usesRequester [.act 0 (.dialed (.ok 7)), .act 0 (.openedDynamic "REPLY"), .act 0 .go,
    .act 0 (.opened none), .act 0 (.putOk .zero), .act 0 (.got {} []), .act 0 .go,
    .act 0 (.disced none)]

/-- `Close` runs from beginning to end. -/
def closesRequester : List ClientMove :=
  [.call .close, .act 2 .go, .act 2 .go] ++ usesRequester [.act 1 .go] ++ [.act 2 .go, .act 2 .go]

theorem close_waits_for_requests_answered : ∃ c rr,
    clientProgram.exec ⟨{ cfg := .minimal }, []⟩ (requests ++ receivesReply ++ closesRequester) =
        some c ∧
      c.threads[2]? = some (.close (.returned none)) ∧
      c.shared.components[0]? = some (.requestReply rr) ∧ RRQuiet rr := by
  obtain ⟨c, rr, run, returned, at_0, patient⟩ : ∃ c rr,
      clientProgram.exec ⟨{ cfg := .minimal }, []⟩ (requests ++ receivesReply ++ closesRequester) =
        some c ∧
      c.threads[2]? = some (.close (.returned none)) ∧
      c.shared.components[0]? = some (.requestReply rr) ∧
      clientProgram.Meets Patient ⟨{ cfg := .minimal }, []⟩
        (requests ++ receivesReply ++ closesRequester) :=
    ⟨_, _, rfl, rfl, rfl, by decide⟩
  exact ⟨c, rr, run, returned, at_0, close_waits_for_requests .minimal _ c run patient
    ⟨_, List.mem_of_getElem? returned, trivial⟩ 0 rr at_0⟩

/-- A call is past the check when `Close` comes and goes; then it dials. -/
theorem request_dials_after_close : ∃ c c' rr,
    clientProgram.exec ⟨{ cfg := .minimal }, []⟩ (requests ++ closesRequester) = some c ∧
      c.threads[2]? = some (.close (.returned none)) ∧
      clientProgram.exec c (usesRequester [.act 0 (.dialed (.ok 7))]) = some c' ∧
      c'.shared.components[0]? = some (.requestReply rr) ∧ rr.shared.live = [7] ∧
      ¬RRQuiet rr := by
  refine ⟨_, _, _, rfl, rfl, rfl, rfl, rfl, fun quiet => ?_⟩
  have empty := quiet.released
  cases empty

end CommonsMQ
