import CommonsMQ.Client.Steps

/-! # A closed client

`Close` takes the registered teardowns once. What it has taken and not yet run stays
accounted for, so when it returns every one of them has run, provided that nothing was
registered after it had taken them and that no other `Close` came back meanwhile: those
two conditions on the moves of a run are `Orderly`.
-/

namespace CommonsMQ

open Interleave

namespace ClientThread

/-- The teardowns that a `Close` has taken and that have not run. -/
def work : ClientThread → List Nat
  | .close (.teardown rest _) => rest
  | .close (.await k _ rest _) => k :: rest
  | _ => []

/-- 1 for the factory that has constructed component `k` and not registered it. -/
def pending (k : Nat) : ClientThread → ℤ
  | .factory _ (.register k') => if k' = k then 1 else 0
  | _ => 0

/-- 1 for the `Close` that found the client open. -/
def first : ClientThread → ℤ
  | .close (.teardown _ _) | .close (.await _ _ _ _) | .close (.returned _) => 1
  | _ => 0

/-- A `Close` that has returned. -/
def CloseReturned : ClientThread → Prop
  | .close (.returned _) | .close .repeated => True
  | _ => False

theorem first_nonneg (t : ClientThread) : 0 ≤ t.first := by
  unfold first
  split <;> decide

theorem pending_nonneg (k : Nat) (t : ClientThread) : 0 ≤ t.pending k := by
  unfold pending
  split
  · split <;> decide
  · decide

theorem first_of_work {t : ClientThread} (busy : t.work ≠ []) : t.first = 1 := by
  unfold work at busy
  split at busy
  · rfl
  · rfl
  · exact absurd rfl busy

end ClientThread

/-- 1 for the names in use. -/
def Client.issued (c : Client) (k : Nat) : ℤ := if k < c.components.length then 1 else 0

section Step

variable {c c' : Client} {t t' : ClientThread}

theorem ClientStep.flagged (step : ClientStep c t c' t') :
    flag c'.closed - flag c.closed = t'.first - t.first := by
  cases step with
  | began opened => simp [opened, ClientThread.first]
  | _ => simp [ClientThread.first, Client.register, Client.registerHealthProber,
      Client.setComponent]

/-- Teardowns are registered, taken and run, and none is lost on the way. -/
theorem ClientStep.owed (step : ClientStep c t c' t') (k : Nat) :
    (c'.registered.count k - c'.closers.count k - c'.ran.count k : ℤ) -
      (c.registered.count k - c.closers.count k - c.ran.count k) =
      t'.work.count k - t.work.count k := by
  cases step with
  | registered =>
      simp only [Client.register, List.count_append, ClientThread.work]
      push_cast
      omega
  | began =>
      simp only [ClientThread.work, List.count_nil, List.count_reverse]
      omega
  | ran =>
      simp only [ClientThread.work, List.count_append, List.count_cons, List.count_nil]
      push_cast
      omega
  | _ => simp [ClientThread.work, Client.registerHealthProber, Client.setComponent]

theorem ClientStep.names (step : ClientStep c t c' t') (k : Nat) :
    (c'.issued k - c'.registered.count k : ℤ) - (c.issued k - c.registered.count k) =
      t'.pending k - t.pending k := by
  cases step with
  | constructed =>
      simp only [Client.issued, List.length_append, List.length_singleton, ClientThread.pending]
      split_ifs <;> omega
  | registered =>
      simp only [Client.register, Client.issued, List.count_append, List.count_singleton,
        beq_iff_eq, ClientThread.pending]
      push_cast
      omega
  | handedOut => exact sub_self _
  | _ => simp [Client.issued, Client.setComponent, ClientThread.pending]

theorem ClientStep.stays_closed (step : ClientStep c t c' t') (closed : c.closed = true) :
    c'.closed = true := by
  cases step with
  | began => rfl
  | _ => exact closed

/-- A thread with nothing left to tear down takes nothing up once the client is closed. -/
theorem ClientStep.stays_idle (step : ClientStep c t c' t') (closed : c.closed = true)
    (idle : t.work = []) : t'.work = [] := by
  cases step with
  | began opened => simp [closed] at opened
  | invoked | ran => simp [ClientThread.work] at idle
  | _ => rfl

theorem ClientStep.cfg (step : ClientStep c t c' t') : c'.cfg = c.cfg := by
  cases step <;> rfl

theorem ClientStep.stays_registered (step : ClientStep c t c' t') {k : Nat}
    (before : k ∈ c.registered) : k ∈ c'.registered := by
  cases step with
  | registered => exact List.mem_append_left _ before
  | _ => exact before

/-- Component `k` has taken a step to `component'` that a teardown of `t` or the
    application made. -/
def Client.Advances (c : Client) (t : ClientThread) (k : Nat) (component' : Component) : Prop :=
  ∃ component m, c.components[k]? = some component ∧ component.Step m component' ∧
    (k ∈ t.work ∨ m.permitted (k ∈ c.handedOut) = true)

theorem Client.setComponent_cases {j k : Nat} {component new component' : Component}
    (found : c.components[j]? = some component)
    (after : (c.setComponent j new).components[k]? = some component') :
    j = k ∧ new = component' ∨ j ≠ k ∧ c.components[k]? = some component' := by
  unfold setComponent at after
  by_cases same : j = k
  · subst same
    rw [List.getElem?_set_self (List.getElem?_eq_some_iff.mp found).1] at after
    exact .inl ⟨rfl, Option.some.inj after⟩
  · rw [List.getElem?_set_ne same] at after
    exact .inr ⟨same, after⟩

theorem Client.Advances.elsewhere {j k : Nat} {new component' : Component}
    (advances : c.Advances t j new)
    (after : (c.setComponent j new).components[k]? = some component') :
    c.components[k]? = some component' ∨ c.Advances t k component' := by
  obtain ⟨component, m, found, moved, allowed⟩ := advances
  obtain ⟨rfl, rfl⟩ | ⟨-, same⟩ := Client.setComponent_cases found after
  · exact .inr ⟨component, m, found, moved, allowed⟩
  · exact .inl same

/-- A component is as before, has advanced, or is new. -/
theorem ClientStep.component (step : ClientStep c t c' t') {k : Nat} {component' : Component}
    (after : c'.components[k]? = some component') :
    (c.components[k]? = some component' ∨ c.Advances t k component') ∨
    (k = c.components.length ∧ ∃ what : Factory, component' = what.build c.cfg) := by
  cases step with
  | @constructed what =>
      rw [List.getElem?_append] at after
      split at after
      · exact .inl (.inl after)
      · rename_i beyond
        have last := (List.getElem?_eq_some_iff.mp after).1
        simp only [List.length_singleton] at last
        obtain rfl := List.mem_singleton.mp (List.mem_of_getElem? after)
        exact .inr ⟨by omega, what, rfl⟩
  | @invoked j rest errs _ new found moved =>
      have advances : c.Advances (.close (.teardown (j :: rest) errs)) j new :=
        ⟨_, _, found, moved, .inl List.mem_cons_self⟩
      exact .inl (advances.elsewhere after)
  | @used j m _ new found allowed moved =>
      have advances : c.Advances .application j new := ⟨_, m, found, moved, .inr allowed⟩
      exact .inl (advances.elsewhere after)
  | _ => exact .inl (.inl after)

end Step

section Repeated

variable {c : ClientState} {s : Client} {t t' : ClientThread} {i : Nat}

/-- If a `Close` finds the client closed only when nothing is left to be torn down, there
    is nothing left after it either. -/
theorem ClientStep.idle_of_repeated (step : ClientStep c.shared t s t')
    (found : c.threads[i]? = some t)
    (before : .close .repeated ∈ c.threads →
      c.shared.closed = true ∧ ∀ u ∈ c.threads, u.work = [])
    (order : t = .close .begin → c.shared.closed = true → ∀ u ∈ c.threads, u.work = [])
    (there : .close .repeated ∈ c.threads.set i t' ++ []) :
    s.closed = true ∧ ∀ u ∈ c.threads.set i t' ++ [], u.work = [] := by
  have done : c.shared.closed = true ∧ ∀ u ∈ c.threads, u.work = [] := by
    rw [List.append_nil] at there
    obtain same | ⟨j, -, at_j⟩ := Program.mem_threads_set there
    · cases step with
      | repeated closed => exact ⟨closed, order rfl closed⟩
      | _ => cases same
    · exact before (List.mem_of_getElem? at_j)
  obtain ⟨closed, idle⟩ := done
  refine ⟨step.stays_closed closed, Program.forall_threads_act ?_ (by simp) ?_⟩
  · exact step.stays_idle closed (idle t (List.mem_of_getElem? found))
  · exact fun j u _ at_j => idle u (List.mem_of_getElem? at_j)

theorem idle_of_repeated_call (r : ClientRequest)
    (before : .close .repeated ∈ c.threads →
      c.shared.closed = true ∧ ∀ u ∈ c.threads, u.work = [])
    (there : .close .repeated ∈ c.threads ++ [clientProgram.start r]) :
    c.shared.closed = true ∧ ∀ u ∈ c.threads ++ [clientProgram.start r], u.work = [] := by
  rcases List.mem_append.mp there with old | new
  · obtain ⟨closed, idle⟩ := before old
    exact ⟨closed, Program.forall_threads_call idle (by cases r <;> rfl)⟩
  · cases r <;> cases List.mem_singleton.mp new

end Repeated

/-- A factory registers while the client is open, and a `Close` that finds the client
    closed does so when no teardown is left to run. -/
def InOrder (c : ClientState) : ClientThread → Prop
  | .factory _ (.register _) => c.shared.closed = false
  | .close .begin => c.shared.closed = true → ∀ t ∈ c.threads, t.work = []
  | _ => True

def Orderly (c : ClientState) : ClientMove → Prop
  | .call _ => True
  | .act i _ => ∀ t, c.threads[i]? = some t → InOrder c t

instance (c : ClientState) : (t : ClientThread) → Decidable (InOrder c t)
  | .factory _ (.register _) => inferInstanceAs (Decidable (c.shared.closed = false))
  | .factory _ .construct => isTrue trivial
  | .factory _ (.registerHealthProber _) => isTrue trivial
  | .factory _ (.returned _) => isTrue trivial
  | .close .begin =>
      inferInstanceAs (Decidable (c.shared.closed = true → ∀ t ∈ c.threads, t.work = []))
  | .close (.teardown _ _) => isTrue trivial
  | .close (.await _ _ _ _) => isTrue trivial
  | .close (.returned _) => isTrue trivial
  | .close .repeated => isTrue trivial
  | .application => isTrue trivial

instance (c : ClientState) : (m : ClientMove) → Decidable (Orderly c m)
  | .call _ => isTrue trivial
  | .act i _ => inferInstanceAs (Decidable (∀ t ∈ c.threads[i]?, InOrder c t))

/-- What holds of a client whatever the order of its calls. -/
structure ClientBase (cfg : ClientConfig) (c : ClientState) : Prop where
  config : c.shared.cfg = cfg
  reached : ∀ component ∈ c.shared.components, component.Reached cfg
  handed : ∀ k ∈ c.shared.handedOut, k ∈ c.shared.registered
  probers : c.shared.healthProbers = c.shared.handedOut
  named : ∀ t ∈ c.threads, ∀ what k, t = .factory what (.registerHealthProber k) →
    k ∈ c.shared.registered
  untouched : ∀ (k : Nat) (component : Component), c.shared.components[k]? = some component →
    k ∉ c.shared.registered → component.size = 0
  shut : ∀ k ∈ c.shared.ran, ∀ component, c.shared.components[k]? = some component →
    component.shut = true
  flagged : flag c.shared.closed = tally ClientThread.first c.threads
  owed : ∀ k, (c.shared.registered.count k - c.shared.closers.count k - c.shared.ran.count k : ℤ) =
    tally (fun t => t.work.count k) c.threads
  names : ∀ k, (c.shared.issued k - c.shared.registered.count k : ℤ) =
    tally (ClientThread.pending k) c.threads

structure ClientInv (cfg : ClientConfig) (c : ClientState) : Prop extends ClientBase cfg c where
  emptied : c.shared.closed = true → c.shared.closers = []
  repeated : .close .repeated ∈ c.threads →
    c.shared.closed = true ∧ ∀ t ∈ c.threads, t.work = []

namespace ClientBase

variable {cfg : ClientConfig} {c c' : ClientState}

theorem start : ClientBase cfg ⟨{ cfg := cfg }, []⟩ := by
  constructor <;> simp [Client.issued]

/-- No name is registered twice, or before it is issued. -/
theorem count_le (inv : ClientBase cfg c) (k : Nat) :
    (c.shared.registered.count k : ℤ) ≤ c.shared.issued k := by
  have names := inv.names k
  have nonneg := tally_nonneg (ClientThread.pending_nonneg k) c.threads
  omega

theorem count_registered (inv : ClientBase cfg c) {k : Nat} (member : k ∈ c.shared.registered) :
    c.shared.registered.count k = 1 ∧ k < c.shared.components.length := by
  have atMost := inv.count_le k
  have atLeast := List.count_pos_iff.mpr member
  unfold Client.issued at atMost
  split at atMost
  · exact ⟨by omega, ‹_›⟩
  · omega

theorem registered_of_work (inv : ClientBase cfg c) {t : ClientThread} (member : t ∈ c.threads)
    {k : Nat} (busy : k ∈ t.work) : k ∈ c.shared.registered := by
  have owed := inv.owed k
  have here := le_tally (f := fun t : ClientThread => (t.work.count k : ℤ))
    (fun _ => Int.natCast_nonneg _) member
  have some_left := List.count_pos_iff.mpr busy
  exact List.count_pos_iff.mp (by omega)

theorem registered_of_ran (inv : ClientBase cfg c) {k : Nat} (member : k ∈ c.shared.ran) :
    k ∈ c.shared.registered := by
  have owed := inv.owed k
  have nonneg := tally_nonneg (f := fun t : ClientThread => (t.work.count k : ℤ))
    (fun _ => Int.natCast_nonneg _) c.threads
  have once := List.count_pos_iff.mpr member
  exact List.count_pos_iff.mp (by omega)

theorem conserved (inv : ClientBase cfg c) {m : ClientMove} (moved : clientProgram.next c m = some c') :
    flag c'.shared.closed = tally ClientThread.first c'.threads ∧
    (∀ k, (c'.shared.registered.count k - c'.shared.closers.count k -
      c'.shared.ran.count k : ℤ) = tally (fun t => t.work.count k) c'.threads) ∧
    ∀ k, (c'.shared.issued k - c'.shared.registered.count k : ℤ) =
      tally (ClientThread.pending k) c'.threads := by
  refine ⟨?_, fun k => ?_, fun k => ?_⟩
  · have balance := Program.next_conserves (fun s : Client => flag s.closed) ClientThread.first
      (by intro r; cases r <;> rfl)
      (by
        intro s t a s' t' started stepped
        obtain ⟨step, rfl⟩ := clientProgram_step stepped
        simpa using step.flagged) moved
    have before := inv.flagged
    omega
  · have balance := Program.next_conserves
      (fun s : Client => (s.registered.count k - s.closers.count k - s.ran.count k : ℤ))
      (fun t : ClientThread => (t.work.count k : ℤ))
      (by intro r; cases r <;> simp [clientProgram, ClientThread.work])
      (by
        intro s t a s' t' started stepped
        obtain ⟨step, rfl⟩ := clientProgram_step stepped
        simpa using step.owed k) moved
    have before := inv.owed k
    omega
  · have balance := Program.next_conserves
      (fun s : Client => (s.issued k - s.registered.count k : ℤ)) (ClientThread.pending k)
      (by intro r; cases r <;> rfl)
      (by
        intro s t a s' t' started stepped
        obtain ⟨step, rfl⟩ := clientProgram_step stepped
        simpa using step.names k) moved
    have before := inv.names k
    omega

theorem call (inv : ClientBase cfg c) (r : ClientRequest) :
    ClientBase cfg ⟨c.shared, c.threads ++ [clientProgram.start r]⟩ := by
  have moved : clientProgram.next c (.call r) =
      some ⟨c.shared, c.threads ++ [clientProgram.start r]⟩ := rfl
  obtain ⟨flagged, owed, names⟩ := inv.conserved moved
  refine ⟨inv.config, inv.reached, inv.handed, inv.probers, ?_, inv.untouched, inv.shut, flagged,
    owed, names⟩
  intro t member what k same
  rcases List.mem_append.mp member with old | new
  · exact inv.named t old what k same
  · obtain rfl := List.mem_singleton.mp new
    cases r <;> cases same

section Act

variable {i : Nat} {t t' : ClientThread} {s : Client}

theorem components_act (inv : ClientBase cfg c) (found : c.threads[i]? = some t)
    (step : ClientStep c.shared t s t') {k : Nat} {component' : Component}
    (after : s.components[k]? = some component') :
    component'.Reached cfg ∧ (k ∉ s.registered → component'.size = 0) := by
  have member := List.mem_of_getElem? found
  rcases step.component after with (same | ⟨component, m, at_k, moved, allowed⟩) | ⟨-, what, rfl⟩
  · refine ⟨inv.reached _ (List.mem_of_getElem? same), fun absent => ?_⟩
    exact inv.untouched k _ same fun present => absent (step.stays_registered present)
  · refine ⟨(inv.reached _ (List.mem_of_getElem? at_k)).next moved, fun absent => ?_⟩
    have missing : k ∉ c.shared.registered := fun present => absent (step.stays_registered present)
    rcases allowed with busy | permitted
    · exact absurd (inv.registered_of_work member busy) missing
    · -- nobody is inside and nobody may call
      have notHeld : k ∉ c.shared.handedOut := fun held => missing (inv.handed k held)
      have refused := moved.of_empty (inv.untouched k component at_k missing)
      simp [notHeld, refused] at permitted
  · refine ⟨?_, fun _ => ?_⟩
    · rw [inv.config]
      exact Component.reached_build cfg what
    · cases what <;> rfl

/-- What holds of a component when its teardown has returned, and is kept by its moves, holds
    of all components that were torn down. -/
theorem ran_act {Q : Component → Prop} (inv : ClientBase cfg c)
    (kept : ∀ k ∈ c.shared.ran, ∀ component, c.shared.components[k]? = some component →
      Q component)
    (stays : ∀ component m component', component.Step m component' → Q component → Q component')
    (returns : ∀ k i rest errs component err, t = .close (.await k i rest errs) →
      c.shared.components[k]? = some component → component.closeResult i = some err →
      Q component)
    (step : ClientStep c.shared t s t') {k : Nat} (ran : k ∈ s.ran) {component' : Component}
    (after : s.components[k]? = some component') : Q component' := by
  have before : k ∈ c.shared.ran → Q component' := by
    intro earlier
    rcases step.component after with (same | ⟨component, m, at_k, moved, -⟩) | ⟨new, -⟩
    · exact kept k earlier _ same
    · exact stays component m component' moved (kept k earlier component at_k)
    · have inside := (inv.count_registered (inv.registered_of_ran earlier)).2
      omega
  cases step with
  | @ran j i rest errs component err found closed =>
      rcases List.mem_append.mp ran with earlier | now
      · exact before earlier
      · obtain rfl := List.mem_singleton.mp now
        obtain rfl : component = component' := Option.some.inj (found.symm.trans after)
        exact returns k i rest errs component err rfl found closed
  | _ => exact before ran

theorem shut_act (inv : ClientBase cfg c) (step : ClientStep c.shared t s t') {k : Nat}
    (ran : k ∈ s.ran) {component' : Component} (after : s.components[k]? = some component') :
    component'.shut = true := by
  refine inv.ran_act inv.shut ?_ ?_ step ran after
  · intro component m component' moved shut
    exact moved.stays_shut shut
  · intro k i rest errs component err _ found closed
    exact (inv.reached _ (List.mem_of_getElem? found)).shut closed

theorem handed_act (inv : ClientBase cfg c) (found : c.threads[i]? = some t)
    (step : ClientStep c.shared t s t') {k : Nat} (held : k ∈ s.handedOut) : k ∈ s.registered := by
  cases step with
  | handedOut =>
      rcases List.mem_append.mp held with earlier | now
      · exact inv.handed k earlier
      · obtain rfl := List.mem_singleton.mp now
        exact inv.named _ (List.mem_of_getElem? found) _ _ rfl
  | registered => exact List.mem_append_left _ (inv.handed k held)
  | _ => exact inv.handed k held

theorem named_act (inv : ClientBase cfg c) (step : ClientStep c.shared t s t') :
    ∀ u ∈ c.threads.set i t' ++ [], ∀ what k, u = .factory what (.registerHealthProber k) →
      k ∈ s.registered := by
  refine Program.forall_threads_act ?_ (by simp) ?_
  · intro what k same
    cases step with
    | registered =>
        cases same
        exact List.mem_append_right _ (List.mem_singleton_self _)
    | _ => cases same
  · intro j u _ at_j what k same
    exact step.stays_registered (inv.named u (List.mem_of_getElem? at_j) what k same)

theorem probers_act (inv : ClientBase cfg c) (step : ClientStep c.shared t s t') :
    s.healthProbers = s.handedOut := by
  cases step with
  | handedOut => exact congrArg (· ++ [_]) inv.probers
  | _ => exact inv.probers

end Act

theorem next (inv : ClientBase cfg c) {m : ClientMove} (moved : clientProgram.next c m = some c') :
    ClientBase cfg c' := by
  obtain ⟨flagged, owed, names⟩ := inv.conserved moved
  obtain ⟨r, -, rfl⟩ | ⟨i, a, t, s, t', started, rfl, found, stepped, rfl⟩ :=
    Program.next_cases moved
  · exact inv.call r
  · obtain ⟨step, rfl⟩ := clientProgram_step stepped
    refine ⟨step.cfg.trans inv.config, ?_, fun k => inv.handed_act found step,
      inv.probers_act step, inv.named_act step,
      fun k component after => (inv.components_act found step after).2,
      fun k ran component after => inv.shut_act step ran after, flagged, owed, names⟩
    intro component member
    obtain ⟨k, at_k⟩ := List.mem_iff_getElem?.mp member
    exact (inv.components_act found step at_k).1

theorem run {ms : List ClientMove} (run : clientProgram.exec ⟨{ cfg := cfg }, []⟩ ms = some c) :
    ClientBase cfg c :=
  Program.exec_invariant (fun _ _ _ inv _ moved => inv.next moved) start
    (Program.meets_true ms) run

/-- When a `Close` has returned, no other is still at work, or only at what is left when a
    `Close` finds the client closed. -/
theorem at_rest (inv : ClientBase cfg c) {P : Nat → Prop}
    (repeated : .close .repeated ∈ c.threads →
      c.shared.closed = true ∧ ∀ t ∈ c.threads, ∀ k ∈ t.work, P k)
    (closed : ∃ t ∈ c.threads, t.CloseReturned) :
    c.shared.closed = true ∧ ∀ t ∈ c.threads, ∀ k ∈ t.work, P k := by
  obtain ⟨t, member, returned⟩ := closed
  unfold ClientThread.CloseReturned at returned
  split at returned
  · refine ⟨flag_of_tally inv.flagged ClientThread.first_nonneg member rfl,
      fun u there k busy => ?_⟩
    obtain ⟨i, at_i⟩ := List.mem_iff_getElem?.mp member
    obtain ⟨j, at_j⟩ := List.mem_iff_getElem?.mp there
    obtain rfl := flag_unique inv.flagged ClientThread.first_nonneg at_i at_j rfl
      (ClientThread.first_of_work (List.ne_nil_of_mem busy))
    obtain rfl := Option.some.inj (at_i.symm.trans at_j)
    cases busy
  · exact repeated member
  · exact absurd returned id

theorem settled (inv : ClientBase cfg c)
    (repeated : .close .repeated ∈ c.threads →
      c.shared.closed = true ∧ ∀ t ∈ c.threads, t.work = [])
    (closed : ∃ t ∈ c.threads, t.CloseReturned) :
    c.shared.closed = true ∧ ∀ t ∈ c.threads, t.work = [] := by
  simp only [List.eq_nil_iff_forall_not_mem] at repeated ⊢
  exact inv.at_rest repeated closed

end ClientBase

namespace ClientInv

variable {cfg : ClientConfig} {c c' : ClientState}

theorem start : ClientInv cfg ⟨{ cfg := cfg }, []⟩ :=
  ⟨.start, by simp, by simp⟩

theorem call (inv : ClientInv cfg c) (r : ClientRequest) :
    ClientInv cfg ⟨c.shared, c.threads ++ [clientProgram.start r]⟩ :=
  ⟨inv.toClientBase.call r, inv.emptied, idle_of_repeated_call r inv.repeated⟩

section Act

variable {i : Nat} {t t' : ClientThread} {s : Client}

theorem emptied_act (inv : ClientInv cfg c) (order : InOrder c t)
    (step : ClientStep c.shared t s t') (closed : s.closed = true) : s.closers = [] := by
  cases step with
  | registered => exact absurd (closed.symm.trans order) (by decide)
  | began => rfl
  | _ => exact inv.emptied closed

theorem repeated_act (inv : ClientInv cfg c) (order : InOrder c t) (found : c.threads[i]? = some t)
    (step : ClientStep c.shared t s t') (there : .close .repeated ∈ c.threads.set i t' ++ []) :
    s.closed = true ∧ ∀ u ∈ c.threads.set i t' ++ [], u.work = [] := by
  refine step.idle_of_repeated found inv.repeated ?_ there
  rintro rfl
  exact order

end Act

theorem next (inv : ClientInv cfg c) {m : ClientMove} (orderly : Orderly c m)
    (moved : clientProgram.next c m = some c') : ClientInv cfg c' := by
  have base := inv.toClientBase.next moved
  obtain ⟨r, -, rfl⟩ | ⟨i, a, t, s, t', started, rfl, found, stepped, rfl⟩ :=
    Program.next_cases moved
  · exact inv.call r
  · obtain ⟨step, rfl⟩ := clientProgram_step stepped
    have order := orderly t found
    exact ⟨base, inv.emptied_act order step, inv.repeated_act order found step⟩

theorem run {ms : List ClientMove} (orderly : clientProgram.Meets Orderly ⟨{ cfg := cfg }, []⟩ ms)
    (run : clientProgram.exec ⟨{ cfg := cfg }, []⟩ ms = some c) : ClientInv cfg c :=
  Program.exec_invariant (fun _ _ _ inv order moved => inv.next order moved) start orderly run

theorem settled (inv : ClientInv cfg c) (closed : ∃ t ∈ c.threads, t.CloseReturned) :
    c.shared.closed = true ∧ ∀ t ∈ c.threads, t.work = [] :=
  inv.toClientBase.settled inv.repeated closed

/-- Then every teardown has run once, and what it tore down is shut. -/
theorem torn_down (inv : ClientInv cfg c) (closed : ∃ t ∈ c.threads, t.CloseReturned) {k : Nat}
    (registered : k ∈ c.shared.registered) :
    c.shared.ran.count k = 1 ∧
      ∃ component, c.shared.components[k]? = some component ∧ component.shut = true := by
  obtain ⟨isClosed, idle⟩ := inv.settled closed
  obtain ⟨once, issued⟩ := inv.count_registered registered
  have nothing : tally (fun t : ClientThread => (t.work.count k : ℤ)) c.threads = 0 :=
    tally_eq_zero fun t member => by simp [idle t member]
  have owed := inv.owed k
  rw [nothing, inv.emptied isClosed, once] at owed
  have ran : c.shared.ran.count k = 1 := by
    simp only [List.count_nil] at owed
    omega
  have at_k : c.shared.components[k]? = some c.shared.components[k] :=
    List.getElem?_eq_getElem issued
  exact ⟨ran, _, at_k, inv.shut k (List.count_pos_iff.mp (by omega)) _ at_k⟩

end ClientInv

/-- Where the calls on component `k` that are still to be made begin. -/
def ClientState.size (c : ClientState) (k : Nat) : Nat :=
  ((c.shared.components[k]?).map Component.size).getD 0

/-- Later than `c`, in which a `Close` had returned. -/
structure Later (cfg : ClientConfig) (c c' : ClientState) : Prop where
  inv : ClientInv cfg c'
  closed : ∃ t ∈ c'.threads, t.CloseReturned
  refuses : ∀ k component, c'.shared.components[k]? = some component →
    k ∈ c'.shared.registered → component.ClosedTo (c.size k ≤ ·)

namespace Later

variable {cfg : ClientConfig} {c c' c'' : ClientState}

theorem start (inv : ClientInv cfg c) (closed : ∃ t ∈ c.threads, t.CloseReturned) :
    Later cfg c c := by
  refine ⟨inv, closed, fun k component at_k registered => ?_⟩
  obtain ⟨-, component', at_k', shut⟩ := inv.torn_down closed registered
  obtain rfl := Option.some.inj (at_k.symm.trans at_k')
  have later := Component.closedTo_later shut
  simpa only [ClientState.size, at_k, Option.map_some, Option.getD_some] using later

theorem next (before : Later cfg c c') {m : ClientMove} (orderly : Orderly c' m)
    (moved : clientProgram.next c' m = some c'') : Later cfg c c'' := by
  have inv' := before.inv.next orderly moved
  obtain ⟨isClosed, idle⟩ := before.inv.settled before.closed
  obtain ⟨r, -, rfl⟩ | ⟨i, a, t, s, t', started, rfl, found, stepped, rfl⟩ :=
    Program.next_cases moved
  · obtain ⟨t, member, returned⟩ := before.closed
    exact ⟨inv', ⟨t, List.mem_append_left _ member, returned⟩, before.refuses⟩
  · obtain ⟨step, rfl⟩ := clientProgram_step stepped
    refine ⟨inv', Program.exists_threads_act found ?_ before.closed, ?_⟩
    · intro returned
      cases step <;> simp_all [ClientThread.CloseReturned]
    · -- the set of registered teardowns is fixed once the client is closed
      have fixed : s.registered = c'.shared.registered := by
        cases step with
        | registered => exact absurd (isClosed.symm.trans (orderly _ found)) (by decide)
        | _ => rfl
      intro k component' after registered
      rw [fixed] at registered
      rcases step.component after with (same | ⟨component, m, at_k, inside, -⟩) | ⟨new, -⟩
      · exact before.refuses k _ same registered
      · exact (before.refuses k component at_k registered).next inside
      · have issued := (before.inv.count_registered registered).2
        omega

end Later

/-- What is promised in `c'` of a client that a `Close` had left closed in `c`: every
    teardown has run once, and a call made on a component since then is turned away, at the
    latest by its second step. -/
structure StaysClosed (c c' : ClientState) : Prop where
  once : ∀ k ∈ c'.shared.registered, c'.shared.ran.count k = 1
  refuses : ∀ (k i : Nat) (component : Component), c'.shared.components[k]? = some component →
    c.size k ≤ i → i < component.size → component.ClosedTo (c.size k ≤ ·) ∧
      ∃ ms component', ms.length ≤ 2 ∧ (∀ m ∈ ms, ComponentMove.IsOf i m) ∧
        component.exec ms = some component' ∧ component'.TurnedAway i

/-- In an orderly run a closed client stays closed. -/
theorem closed_client_stays_closed (cfg : ClientConfig) (before after : List ClientMove)
    (c c' : ClientState) (run : clientProgram.exec ⟨{ cfg := cfg }, []⟩ before = some c)
    (later : clientProgram.exec c after = some c')
    (orderly : clientProgram.Meets Orderly ⟨{ cfg := cfg }, []⟩ before)
    (orderlyLater : clientProgram.Meets Orderly c after)
    (closed : ∃ t ∈ c.threads, t.CloseReturned) :
    StaysClosed c c' := by
  have keep : ∀ d m d', Later cfg c d → Orderly d m → clientProgram.next d m = some d' →
      Later cfg c d' := fun _ _ _ before order moved => before.next order moved
  have held := Program.exec_invariant keep (Later.start (ClientInv.run orderly run) closed)
    orderlyLater later
  constructor
  · intro k registered
    exact (held.inv.torn_down held.closed registered).1
  · intro k i component at_k late called
    have registered : k ∈ c'.shared.registered := by
      by_contra absent
      have empty := held.inv.untouched k component at_k absent
      omega
    have closedTo := held.refuses k component at_k registered
    exact ⟨closedTo, closedTo.answered late called⟩

/-- Thread `t` is application code that takes steps of component 0, a sender. -/
def usesSender (t : Nat) (ms : List SenderMove) : List ClientMove :=
  ms.map fun m => .act t (.use 0 (.sender m))

/-- A sender is made, and the client is closed. -/
def makesAndCloses : List ClientMove :=
  [.call (.build (.newSender "ORDERS" [])), .act 0 .go, .act 0 .go, .act 0 .go, .call .close,
    .call .application, .act 1 .go, .act 1 .go] ++ usesSender 2 (List.replicate 4 (.act 0 .go)) ++
  [.act 1 .go, .act 1 .go]

/-- The first steps of a send, up to the check of `closed`. -/
def sendsLate : List ClientMove :=
  usesSender 2 [.call (.send "" none false none), .act 1 .go, .act 1 .go]

theorem closed_client_stays_closed_late_send : ∃ c c' sender call,
    clientProgram.exec ⟨{ cfg := .minimal }, []⟩ makesAndCloses = some c ∧
      clientProgram.exec c sendsLate = some c' ∧
      c'.shared.components[0]? = some (.sender sender) ∧
      sender.threads[1]? = some (.send call) ∧
      call.pc = .returned (.error ErrClientClosed) ∧ StaysClosed c c' := by
  have closed : ∃ t, t ∈ [ClientThread.factory (.newSender "ORDERS" []) (.returned 0),
      .close (.returned none), .application] ∧ t.CloseReturned :=
    ⟨_, List.mem_cons_of_mem _ List.mem_cons_self, trivial⟩
  exact ⟨_, _, _, _, rfl, rfl, rfl, rfl, rfl, closed_client_stays_closed .minimal makesAndCloses
    sendsLate _ _ rfl rfl (by decide) (by decide) closed⟩

/-- A sender made after `Close` has returned: it is never torn down, and it dials. -/
def makesAfterClose : List ClientMove :=
  [.call (.build (.newSender "ORDERS" [])), .act 1 .go, .act 1 .go, .act 1 .go,
    .call .application] ++ usesSender 2 (.call (.send "" none false none) :: acquiresByDial 0 7)

theorem late_sender_opens_connection : ∃ c c' sender,
    clientProgram.exec ⟨{ cfg := .minimal }, []⟩ [.call .close, .act 0 .go, .act 0 .go] = some c ∧
      (∃ t ∈ c.threads, t.CloseReturned) ∧
      clientProgram.exec c makesAfterClose = some c' ∧
      c'.shared.components[0]? = some (.sender sender) ∧ sender.shared.live = [7] ∧
      ¬ StaysClosed c c' := by
  refine ⟨_, _, _, rfl, ⟨_, List.mem_cons_self, trivial⟩, rfl, rfl, rfl, ?_⟩
  intro stays
  have never := stays.once 0 List.mem_cons_self
  cases never

end CommonsMQ
