import CommonsMQ.Listener.Lifecycle

/-! # How often a consumer dials

`Reconnect` counts its attempts, but `runConsumer` calls it anew whenever a
connection is lost. The dials between two GETs that were answered are bounded only if
no connection is lost before a GET over it has been answered: then each of the two
loops runs at most once in between.
-/

namespace CommonsMQ

open Interleave

/-- The dials of a consumer since a GET was last answered, and whether the last of them
    was refused. -/
structure Tries where
  dials : Nat := 0
  refused : Bool := false
  deriving DecidableEq

namespace Tries

def after (t : Tries) : ListenerAnswer → Tries
  | .loop (.dialed (.ok _)) => ⟨t.dials + 1, false⟩
  | .loop (.dialed (.error _)) => ⟨t.dials + 1, true⟩
  | .got _ _ => {}
  | .getFailed err => if isEmptyQueueError err then {} else t
  | _ => t

def move (i : Nat) (t : Tries) : ListenerMove → Tries
  | .act j a => if j = i then t.after a else t
  | .call _ => t

/-- All attempts have been made, in vain. -/
def Spent (attempts : Nat) (t : Tries) : Prop := t.dials = attempts ∧ t.refused = true

end Tries

def tries (i : Nat) (ms : List ListenerMove) : Tries := ms.foldl (Tries.move i) {}

theorem tries_append (i : Nat) (past : List ListenerMove) (m : ListenerMove) :
    tries i (past ++ [m]) = (tries i past).move i m := by
  simp only [tries, List.foldl_append, List.foldl_cons, List.foldl_nil]

/-- The answer by which an open or a GET tells that the connection is lost. -/
def ListenerAnswer.breaks : ListenerAnswer → Bool
  | .opened (some err) | .getFailed err => isConnectionError err
  | _ => false

/-- A connection is lost only after a GET over it has been answered. -/
def BreaksAfterAnswer (past : List ListenerMove) : ListenerMove → Prop
  | .act i a => a.breaks = true → (tries i past).dials = 0
  | .call _ => True

instance : ∀ past m, Decidable (BreaksAfterAnswer past m)
  | past, .act i a => inferInstanceAs (Decidable (a.breaks = true → (tries i past).dials = 0))
  | _, .call _ => inferInstanceAs (Decidable True)

/-- The dials that one loop makes at most, from the listener's `maxRetries`. -/
def dialBudget (maxRetries : Int) : Nat := if maxRetries < 1 then 1 else maxRetries.toNat

theorem dialBudget_pos (maxRetries : Int) : 1 ≤ dialBudget maxRetries := by
  unfold dialBudget
  split <;> omega

/-! ## The count along a consumer -/

def LoopPc.Counts (budget : Nat) (t : Tries) : LoopPc → Prop
  | .head n | .dial n => t.dials = n ∧ n < budget
  | .wait n => t.dials = n + 1 ∧ n + 1 < budget

/-- The value that a consumer returns when its attempts are spent. -/
def Explains (cancelled : Bool) : Option GoError → Prop
  | none => cancelled = true
  | some err => err.is .connectionFailed = true

/-- What the count is worth at each position. -/
def ConsumerPc.Counts (budget : Nat) (cancelled : Bool) (t : Tries) : ConsumerPc → Prop
  | .entry | .markDialing | .markReconnecting => t.dials = 0
  | .dialing pc | .reconnect pc => pc.Counts budget t
  | .markConnected | .loopTop | .consume _ | .loopReturned none | .markReconnected =>
      t.dials ≤ budget ∧ t.refused = false
  | .loopReturned (some err) =>
      t.dials ≤ budget ∧ t.refused = false ∧ (isConnectionError err = true → t.dials = 0)
  | .dialFailed err | .reconnectFailed err | .finalCallback err | .sendErr err =>
      t.dials ≤ budget ∧ (t.Spent budget → Explains cancelled (some err))
  | .closeConn ret | .markFinal ret | .wgDone ret | .exited ret =>
      t.dials ≤ budget ∧ (t.Spent budget → Explains cancelled ret)

section Counts

variable {budget : Nat} {t : Tries} {l l' : Listener} {k k' : Consumer} {a : ListenerAnswer}

theorem LoopStep.counts {ctx pc answer out} (step : LoopStep budget ctx pc answer out)
    (counts : pc.Counts budget t) :
    match out with
    | .inl pc' => pc'.Counts budget (t.after (.loop answer))
    | .inr none => (t.after (.loop answer)).dials ≤ budget ∧ (t.after (.loop answer)).refused = false
    | .inr (some err) => (t.after (.loop answer)).dials ≤ budget ∧
        ((t.after (.loop answer)).Spent budget → err.is .connectionFailed = true) := by
  obtain ⟨dials, refused⟩ := t
  cases step with
  | checked | waited | refused below => simp_all [LoopPc.Counts, Tries.after]
  | cancelled | interrupted =>
      simp only [LoopPc.Counts, Tries.after] at counts ⊢
      exact ⟨by omega, fun spent => absurd spent.1 (by simp only; omega)⟩
  | connected =>
      simp only [LoopPc.Counts, Tries.after] at counts ⊢
      exact ⟨by omega, trivial⟩
  | exhausted last wraps =>
      simp only [LoopPc.Counts, Tries.after] at counts ⊢
      exact ⟨by omega, fun _ => wraps⟩

theorem runConsumer_dialing {pc} (here : k.pc = .dialing pc)
    (moved : runConsumer l k a = some (l', k')) :
    ∃ answer out, a = .loop answer ∧ l'.runCtx = l.runCtx ∧
      newConnectionWithRetry l.dialConfig l.runCtx pc answer = some out ∧
      k'.pc = match out with
        | .inl pc' => .dialing pc'
        | .inr (.error err) => .dialFailed err
        | .inr (.ok _) => .markConnected := by
  cases a <;> simp only [runConsumer, here] at moved <;> try cases moved
  rename_i answer
  split at moved
  · cases moved
  · obtain ⟨rfl, rfl⟩ := moved
    exact ⟨_, _, rfl, rfl, ‹_›, rfl⟩
  · obtain ⟨rfl, rfl⟩ := moved
    exact ⟨_, _, rfl, rfl, ‹_›, rfl⟩
  · obtain ⟨live, -, same⟩ := Option.map_eq_some_iff.mp moved
    obtain ⟨rfl, rfl⟩ := same
    exact ⟨_, _, rfl, rfl, ‹_›, rfl⟩

theorem runConsumer_reconnect {pc} (here : k.pc = .reconnect pc)
    (moved : runConsumer l k a = some (l', k')) :
    ∃ answer c out, a = .loop answer ∧ l'.runCtx = l.runCtx ∧
      k.conn.reconnect l.dialConfig l.runCtx pc answer = some (c, out) ∧
      k'.pc = match out with
        | .inl pc' => .reconnect pc'
        | .inr none => .markReconnected
        | .inr (some err) => .reconnectFailed err := by
  cases a <;> simp only [runConsumer, here] at moved <;> try cases moved
  split at moved
  · cases moved
  · obtain ⟨live, -, same⟩ := Option.map_eq_some_iff.mp moved
    obtain ⟨rfl, rfl⟩ := same
    exact ⟨_, _, _, rfl, rfl, ‹_›, rfl⟩

theorem runConsumer_openQueue (here : k.pc = .consume .openQueue)
    (moved : runConsumer l k a = some (l', k')) :
    l'.runCtx = l.runCtx ∧ (a = .opened none ∧ k'.pc = .consume .poll ∨
      ∃ err, a = .opened (some err) ∧ k'.pc = .loopReturned (some (l.openFailed err))) := by
  cases a <;> simp only [runConsumer, here, consumeLoop] at moved <;> try cases moved
  rename_i err
  cases err with
  | none =>
      obtain ⟨rfl, rfl⟩ := moved
      exact ⟨rfl, .inl ⟨rfl, rfl⟩⟩
  | some err =>
      obtain ⟨rfl, rfl⟩ := moved
      exact ⟨rfl, .inr ⟨err, rfl, rfl⟩⟩

theorem runConsumer_get (here : k.pc = .consume .get)
    (moved : runConsumer l k a = some (l', k')) :
    l'.runCtx = l.runCtx ∧ ((∃ md data pc, a = .got md data ∧ k'.pc = .consume pc) ∨
      ∃ err, a = .getFailed err ∧
        k'.pc = if isEmptyQueueError err then .consume .poll else .loopReturned (some err)) := by
  cases a <;> simp only [runConsumer, here, consumeLoop] at moved <;> try cases moved
  case got md data =>
      by_cases fits : data.length ≤ bufferSize
      · simp only [fits, if_true] at moved
        obtain ⟨rfl, rfl⟩ := moved
        exact ⟨rfl, .inl ⟨md, data, _, rfl, rfl⟩⟩
      · simp [fits] at moved
  case getFailed err =>
      cases empty : isEmptyQueueError err <;> simp only [empty] at moved
      all_goals
        obtain ⟨rfl, rfl⟩ := moved
        exact ⟨rfl, .inr ⟨err, rfl, by simp [empty]⟩⟩

/-- Where the answer neither is a dial nor ends a GET. -/
def ConsumerPc.quiet : ConsumerPc → Bool
  | .dialing _ | .reconnect _ | .consume .openQueue | .consume .get => false
  | _ => true

theorem ConsumerPc.asking_cases {pc : ConsumerPc} (asks : pc.quiet = false) :
    (∃ loop, pc = .dialing loop) ∨ (∃ loop, pc = .reconnect loop) ∨ pc = .consume .openQueue ∨
      pc = .consume .get := by
  unfold quiet at asks
  split at asks
  · exact .inl ⟨_, rfl⟩
  · exact .inr (.inl ⟨_, rfl⟩)
  · exact .inr (.inr (.inl rfl))
  · exact .inr (.inr (.inr rfl))
  · cases asks

theorem after_of_quiet (quiet : k.pc.quiet = true) (moved : runConsumer l k a = some (l', k')) :
    t.after a = t := by
  unfold runConsumer at moved
  generalize k.pc = pc at quiet moved
  split at moved <;> try rfl
  · cases quiet
  · rename_i pc
    cases pc <;> cases a <;> first
      | rfl
      | cases moved
      | cases quiet
  · cases quiet
  · cases moved

theorem ConsumerStep.counts_of_quiet {pc} (step : ConsumerStep l k pc l' k')
    (quiet : pc.quiet = true) (positive : 1 ≤ budget)
    (counts : pc.Counts budget l.runCtx.isSome t) : k'.pc.Counts budget l'.runCtx.isSome t := by
  have unspent : t.refused = false → ¬t.Spent budget := by
    intro accepted spent
    rw [spent.2] at accepted
    cases accepted
  have unused : t.dials = 0 → ¬t.Spent budget := by
    intro none spent
    have all := spent.1
    omega
  cases step with
  | consuming inner =>
      obtain ⟨⟨heap, rfl⟩, -⟩ := inner.frame
      exact counts
  | consumed inner =>
      cases inner with
      | cancelled => exact counts
      | openFailed | getFailed => cases quiet
  | dialing | dialFailed | dialed | reconnecting | reconnected | reconnectFailed => cases quiet
  | entryCancelled cancelled => exact ⟨counts.trans_le (Nat.zero_le _), fun _ => cancelled⟩
  | markDialing | markReconnecting => exact ⟨counts, positive⟩
  | dialCancelled cancelled | loopCancelled cancelled | reconnectCancelled cancelled =>
      exact ⟨counts.1, fun _ => cancelled⟩
  | @stopped err reason =>
      cases err with
      | none => exact ⟨counts.1, fun spent => absurd spent (unspent counts.2)⟩
      | some err => exact ⟨counts.1, fun spent => absurd spent (unspent counts.2.1)⟩
  | connectionLost _ broken => exact counts.2.2 broken
  | loopFailed => exact ⟨counts.1, fun spent => absurd spent (unspent counts.2.1)⟩
  | entered | dialGaveUp | markConnected | loopEntered | reconnectGaveUp | markReconnected
  | closeConn | markStopped | markFailed | markFailedSilently | calledBack | sendErr | wgDone =>
      exact counts

/-- One step of a consumer keeps the count, if connections break only after answers. -/
theorem Consumer.counts_step (moved : runConsumer l k a = some (l', k'))
    (counts : k.pc.Counts (dialBudget l.maxRetries) l.runCtx.isSome t)
    (answered : a.breaks = true → t.dials = 0) :
    k'.pc.Counts (dialBudget l.maxRetries) l'.runCtx.isSome (t.after a) := by
  have positive := dialBudget_pos l.maxRetries
  cases quiet : k.pc.quiet with
  | true =>
      rw [after_of_quiet quiet moved]
      exact (runConsumer_step moved).counts_of_quiet quiet positive counts
  | false =>
      obtain ⟨pc, here⟩ | ⟨pc, here⟩ | here | here := ConsumerPc.asking_cases quiet
      · rw [here] at counts
        obtain ⟨answer, out, rfl, same, dialed, at_pc⟩ := runConsumer_dialing here moved
        have next := (newConnectionWithRetry_step dialed).counts counts
        rw [at_pc, same]
        rcases out with pc' | err | c
        · exact next
        · exact next
        · exact next
      · rw [here] at counts
        obtain ⟨answer, c, out, rfl, same, dialed, at_pc⟩ := runConsumer_reconnect here moved
        have next := (Connection.reconnect_step dialed).counts counts
        rw [at_pc, same]
        rcases out with pc' | _ | err
        · exact next
        · exact next
        · exact next
      · rw [here] at counts
        obtain ⟨-, ⟨rfl, at_pc⟩ | ⟨err, rfl, at_pc⟩⟩ := runConsumer_openQueue here moved
        · rw [at_pc]
          exact counts
        · rw [at_pc]
          refine ⟨counts.1, counts.2, fun broken => answered ?_⟩
          simpa [Listener.openFailed, isConnectionError_sanitize, ListenerAnswer.breaks] using broken
      · rw [here] at counts
        obtain ⟨-, ⟨md, data, pc, rfl, at_pc⟩ | ⟨err, rfl, at_pc⟩⟩ := runConsumer_get here moved
        · rw [at_pc]
          exact ⟨Nat.zero_le _, rfl⟩
        · rw [at_pc]
          cases empty : isEmptyQueueError err with
          | true => simp [empty, ConsumerPc.Counts, Tries.after]
          | false =>
              simp only [Tries.after, empty]
              exact ⟨counts.1, counts.2, answered⟩

theorem ConsumerPc.Counts.dials_le {pc : ConsumerPc} {cancelled : Bool}
    (counts : pc.Counts budget cancelled t) : t.dials ≤ budget := by
  cases pc with
  | entry | markDialing | markReconnecting => exact counts.trans_le (Nat.zero_le _)
  | dialing loop | reconnect loop =>
      cases loop <;> simp only [Counts, LoopPc.Counts] at counts <;> omega
  | loopReturned err => cases err <;> exact counts.1
  | _ => exact counts.1

theorem ConsumerPc.Counts.mono {pc : ConsumerPc} {cancelled cancelled' : Bool}
    (counts : pc.Counts budget cancelled t) (later : cancelled = true → cancelled' = true) :
    pc.Counts budget cancelled' t := by
  have explains : ∀ ret, Explains cancelled ret → Explains cancelled' ret
    | none => later
    | some _ => id
  cases pc with
  | loopReturned err => cases err <;> exact counts
  | closeConn | markFinal | wgDone | exited =>
      exact ⟨counts.1, fun spent => explains _ (counts.2 spent)⟩
  | _ => exact counts

end Counts

/-! ## The count along a run -/

section Run

variable {c c' : ListenerConfig} {l l' : Listener} {t t' : ListenerThread}
  {fresh : List ListenerThread} {i j : Nat} {k : Consumer}

theorem ListenerStep.maxRetries (step : ListenerStep l t l' t' fresh) :
    l'.maxRetries = l.maxRetries := by
  cases step with
  | start inner =>
      revert inner
      generalize StartCall.pc _ = pc
      intro inner
      cases inner <;> rfl
  | consumer inner =>
      revert inner
      generalize Consumer.pc _ = pc
      intro inner
      cases inner with
      | consuming inner | consumed inner =>
          obtain ⟨⟨heap, rfl⟩, -⟩ := inner.frame
          rfl
      | _ => rfl
  | probe => rfl
  | close inner => cases inner <;> rfl

theorem ListenerStep.fresh_entry (step : ListenerStep l t l' t' fresh)
    (member : .consumer k ∈ fresh) : k.pc = .entry := by
  cases step with
  | start inner =>
      obtain ⟨rfl, -⟩ | ⟨next, -, -, rfl, -⟩ := inner.fresh_cases
      · simp at member
      · obtain rfl : k = { idx := next } := by simpa using member
        rfl
  | consumer | probe | close => simp at member

/-- The consumers after a step, by position. -/
theorem consumer_position (found : c.threads[i]? = some t)
    (step : ListenerStep c.shared t l t' fresh)
    (at_j : (c.threads.set i t' ++ fresh)[j]? = some (.consumer k)) :
    (j = i ∧ t' = .consumer k) ∨ (j ≠ i ∧ c.threads[j]? = some (.consumer k)) ∨
      (c.threads.length ≤ j ∧ k.pc = .entry) := by
  have size : (c.threads.set i t').length = c.threads.length := List.length_set
  by_cases old : j < c.threads.length
  · rw [List.getElem?_append_left (by omega)] at at_j
    by_cases same : j = i
    · subst same
      rw [List.getElem?_set_self old] at at_j
      exact .inl ⟨rfl, Option.some.inj at_j⟩
    · rw [List.getElem?_set_ne (Ne.symm same)] at at_j
      exact .inr (.inl ⟨same, at_j⟩)
  · rw [List.getElem?_append_right (by omega)] at at_j
    exact .inr (.inr ⟨by omega, step.fresh_entry (List.mem_of_getElem? at_j)⟩)

structure BudgetInv (maxRetries : Int) (past : List ListenerMove) (c : ListenerConfig) : Prop where
  protocol : ProtocolInv c
  retries : c.shared.maxRetries = maxRetries
  unborn : ∀ i, c.threads.length ≤ i → tries i past = {}
  counts : ∀ i (k : Consumer), c.threads[i]? = some (.consumer k) →
    k.pc.Counts (dialBudget maxRetries) c.shared.runCtx.isSome (tries i past)

variable {maxRetries : Int} {past ms : List ListenerMove} {m : ListenerMove}

theorem BudgetInv.start (client : ClientConfig) (queue : String) (opts : List ListenerOption) :
    BudgetInv (newListener client queue opts).maxRetries [] ⟨newListener client queue opts, []⟩ :=
  ⟨ProtocolInv.start client queue opts, rfl, fun _ _ => rfl, by simp⟩

theorem Tries.move_of_ne (different : j ≠ i) (tried : Tries) (a : ListenerAnswer) :
    tried.move i (.act j a) = tried := if_neg different

theorem BudgetInv.call (inv : BudgetInv maxRetries past c) (r : ListenerRequest) :
    BudgetInv maxRetries (past ++ [.call r])
      ⟨c.shared, c.threads ++ [listenerProgram.start r]⟩ := by
  have same : ∀ i, tries i (past ++ [.call r]) = tries i past := fun i => tries_append i past _
  refine ⟨inv.protocol.call r, inv.retries, fun i far => ?_, fun i k at_i => ?_⟩
  · rw [same]
    simp only [List.length_append, List.length_singleton] at far
    exact inv.unborn i (by omega)
  · rw [same]
    by_cases old : i < c.threads.length
    · rw [List.getElem?_append_left old] at at_i
      exact inv.counts i k at_i
    · rw [List.getElem?_append_right (by omega)] at at_i
      have started := List.mem_of_getElem? at_i
      cases r <;> simp [listenerProgram] at started

theorem BudgetInv.act {a : ListenerAnswer} (inv : BudgetInv maxRetries past c)
    (answered : BreaksAfterAnswer past (.act i a)) (found : c.threads[i]? = some t)
    (stepped : listenerProgram.step c.shared t a = some (l, t', fresh)) :
    BudgetInv maxRetries (past ++ [.act i a]) ⟨l, c.threads.set i t' ++ fresh⟩ := by
  have step := listenerProgram_step stepped
  have inside : i < c.threads.length := (List.getElem?_eq_some_iff.mp found).1
  refine ⟨inv.protocol.act found step, step.maxRetries.trans inv.retries, fun j far => ?_,
    fun j k at_j => ?_⟩
  · simp only [List.length_append, List.length_set] at far
    rw [tries_append, Tries.move_of_ne (by omega)]
    exact inv.unborn j (by omega)
  · rw [tries_append]
    obtain ⟨rfl, rfl⟩ | ⟨different, at_j⟩ | ⟨far, entry⟩ := consumer_position found step at_j
    · cases t with
      | consumer k₀ =>
          obtain ⟨⟨l, k⟩, moved, same⟩ := Option.map_eq_some_iff.mp stepped
          obtain ⟨rfl, rfl, rfl⟩ := same
          have counts := inv.counts j k₀ found
          rw [← inv.retries] at counts ⊢
          simp only [Tries.move, if_true]
          exact Consumer.counts_step moved counts answered
      | start | probe | close => cases step
    · rw [Tries.move_of_ne (Ne.symm different)]
      have started := inv.protocol.started_of_consumer (List.mem_of_getElem? at_j)
      exact (inv.counts j k at_j).mono (step.context.2 started)
    · rw [Tries.move_of_ne (by omega), inv.unborn j far, entry]
      rfl

theorem BudgetInv.run (inv : BudgetInv maxRetries past c)
    (answered : Program.AllowedAfter BreaksAfterAnswer past ms)
    (run : listenerProgram.exec c ms = some c') : BudgetInv maxRetries (past ++ ms) c' := by
  refine Program.exec_history (fun past c m c' inv ok moved => ?_) inv answered run
  obtain ⟨r, rfl, rfl⟩ | ⟨i, a, t, l, t', fresh, rfl, found, stepped, rfl⟩ :=
    Program.next_cases moved
  · exact inv.call r
  · exact inv.act ok found stepped

end Run

/-! ## When the attempts are spent -/

/-- A consumer on its way out with `err`, and the steps that are left at most. -/
inductive Failing (err : GoError) : ConsumerPc → Nat → Prop where
  | exited : Failing err (.exited (some err)) 0
  | wgDone : Failing err (.wgDone (some err)) 1
  | sendErr : Failing err (.sendErr err) 2
  | finalCallback : Failing err (.finalCallback err) 3
  | markFinal : Failing err (.markFinal (some err)) 4
  | dialFailed : Failing err (.dialFailed err) 5
  | closeConn : Failing err (.closeConn (some err)) 5
  | reconnectFailed : Failing err (.reconnectFailed err) 6

section Failing

variable {err : GoError} {left : Nat} {l l' : Listener} {k k' : Consumer}

theorem ConsumerPc.Counts.failing {budget : Nat} {tried : Tries} {pc : ConsumerPc}
    (positive : 1 ≤ budget) (counts : pc.Counts budget false tried) (spent : tried.Spent budget) :
    ∃ err left, err.is .connectionFailed = true ∧ Failing err pc left := by
  obtain ⟨all, refused⟩ := spent
  cases pc with
  | entry | markDialing | markReconnecting =>
      simp only [Counts] at counts
      omega
  | dialing loop | reconnect loop =>
      cases loop <;> simp only [Counts, LoopPc.Counts] at counts <;> omega
  | markConnected | loopTop | consume | markReconnected => simp [Counts, refused] at counts
  | loopReturned err => cases err <;> simp [Counts, refused] at counts
  | dialFailed err => exact ⟨err, _, counts.2 ⟨all, refused⟩, .dialFailed⟩
  | reconnectFailed err => exact ⟨err, _, counts.2 ⟨all, refused⟩, .reconnectFailed⟩
  | finalCallback err => exact ⟨err, _, counts.2 ⟨all, refused⟩, .finalCallback⟩
  | sendErr err => exact ⟨err, _, counts.2 ⟨all, refused⟩, .sendErr⟩
  | closeConn ret | markFinal ret | wgDone ret | exited ret =>
      have explains := counts.2 ⟨all, refused⟩
      cases ret with
      | none => cases explains
      | some err => exact ⟨err, _, explains, by constructor⟩

theorem ConsumerStep.failing {pc} (step : ConsumerStep l k pc l' k') (failing : Failing err pc left)
    (live : l.runCtx = none) : ∃ left' < left, Failing err k'.pc left' := by
  have uncancelled : ¬l.runCtx.isSome = true := by simp [live]
  cases failing with
  | exited => cases step
  | wgDone =>
      cases step
      exact ⟨0, by omega, .exited⟩
  | sendErr =>
      cases step
      exact ⟨1, by omega, .wgDone⟩
  | finalCallback =>
      cases step
      exact ⟨2, by omega, .sendErr⟩
  | markFinal =>
      cases step with
      | markFailed => exact ⟨3, by omega, .finalCallback⟩
      | markFailedSilently => exact ⟨2, by omega, .sendErr⟩
  | dialFailed =>
      cases step with
      | dialCancelled cancelled => exact absurd cancelled uncancelled
      | dialGaveUp => exact ⟨4, by omega, .markFinal⟩
  | closeConn =>
      cases step
      exact ⟨4, by omega, .markFinal⟩
  | reconnectFailed =>
      cases step with
      | reconnectCancelled cancelled => exact absurd cancelled uncancelled
      | reconnectGaveUp => exact ⟨5, by omega, .closeConn⟩

theorem Failing.left_le {pc : ConsumerPc} (failing : Failing err pc left) : left ≤ 6 := by
  cases failing <;> omega

/-- Nothing can keep a failing consumer from its next step. -/
theorem Failing.enabled (failing : Failing err k.pc left) (l : Listener) :
    k.pc = .exited (some err) ∨ ∃ a, (runConsumer l k a).isSome = true := by
  generalize here : k.pc = pc at failing
  cases failing with
  | exited => exact .inl rfl
  | wgDone | sendErr | dialFailed | reconnectFailed =>
      exact .inr ⟨.go, by simp [runConsumer, here]⟩
  | finalCallback => exact .inr ⟨.callback false, by simp [runConsumer, here]⟩
  | markFinal => cases told : l.onError <;> exact .inr ⟨.go, by simp [runConsumer, here, told]⟩
  | closeConn =>
      exact .inr ⟨.disced none, by simp [runConsumer, here, relive, Connection.close]⟩

end Failing

/-- The steps of thread `i` in a run. -/
def ownSteps (i : Nat) (ms : List ListenerMove) : Nat :=
  ms.countP fun
    | .act j _ => j == i
    | .call _ => false

/-- Consumer `i` ends: however the run goes on, as long as the context lives, it takes at
    most six steps more, can always take the next one, and stops in `StateFailed` with an
    error that wraps `ErrConnectionFailed`. -/
def EndsFailed (c : ListenerConfig) (i : Nat) : Prop :=
  ∃ err : GoError, err.is .connectionFailed = true ∧ ∀ ms c',
    listenerProgram.exec c ms = some c' → c'.shared.runCtx = none → ownSteps i ms ≤ 6 ∧
      ∃ k : Consumer, c'.threads[i]? = some (.consumer k) ∧
        (k.pc = .exited (some err) ∧ c'.shared.states[k.idx]? = some .failed ∨
          ∃ a, (listenerProgram.next c' (.act i a)).isSome = true)

section Ends

variable {c c' : ListenerConfig} {i : Nat} {err : GoError}

structure FailingInv (i : Nat) (err : GoError) (past : List ListenerMove) (c : ListenerConfig) :
    Prop where
  lifecycle : LifecycleInv c
  present : ∃ k, c.threads[i]? = some (.consumer k)
  failing : c.shared.runCtx = none → ∃ (k : Consumer) (left : Nat),
    c.threads[i]? = some (.consumer k) ∧ Failing err k.pc left ∧ left + ownSteps i past ≤ 6

theorem ownSteps_append (past : List ListenerMove) (m : ListenerMove) :
    ownSteps i (past ++ [m]) = ownSteps i past + ownSteps i [m] := List.countP_append

/-- A context that lives after a move has lived before it. -/
theorem LifecycleInv.live_before {m : ListenerMove} {k : Consumer} (inv : LifecycleInv c)
    (at_i : c.threads[i]? = some (.consumer k)) (moved : listenerProgram.next c m = some c')
    (live : c'.shared.runCtx = none) : c.shared.runCtx = none := by
  have started := inv.protocol.started_of_consumer (List.mem_of_getElem? at_i)
  obtain ⟨r, -, rfl⟩ | ⟨j, a, t, l, t', fresh, -, found, step, rfl⟩ := listener_cases moved
  · exact live
  · have lives : l.runCtx = none := live
    by_contra set
    have still := step.context.2 started (Option.isSome_iff_ne_none.mpr set)
    simp [lives] at still

theorem FailingInv.next {past : List ListenerMove} {m : ListenerMove}
    (inv : FailingInv i err past c) (moved : listenerProgram.next c m = some c') :
    FailingInv i err (past ++ [m]) c' := by
  obtain ⟨k₀, at_i⟩ := inv.present
  have early := inv.lifecycle.live_before at_i moved
  obtain ⟨other, kept⟩ | ⟨a, t', fresh, rfl, stepped, here⟩ := Program.next_at at_i moved
  · refine ⟨inv.lifecycle.next moved, ⟨k₀, kept⟩, fun live => ?_⟩
    obtain ⟨k, left, at_k, failing, steps⟩ := inv.failing (early live)
    have none : ownSteps i [m] = 0 := by
      cases m with
      | call r => rfl
      | act j a =>
          have different : j ≠ i := fun same => other a (by rw [same])
          simp [ownSteps, different]
    obtain rfl : k₀ = k := by simpa [at_i] using at_k
    refine ⟨k₀, left, kept, failing, ?_⟩
    rw [ownSteps_append]
    omega
  · cases listenerProgram_step stepped with
    | @consumer _ _ k' inner =>
        refine ⟨inv.lifecycle.next moved, ⟨k', here⟩, fun live => ?_⟩
        obtain ⟨k, left, at_k, failing, steps⟩ := inv.failing (early live)
        obtain rfl : k₀ = k := by simpa [at_i] using at_k
        obtain ⟨left', fewer, failing'⟩ := inner.failing failing (early live)
        refine ⟨k', left', here, failing', ?_⟩
        have one : ownSteps i [.act i a] = 1 := by simp [ownSteps]
        rw [ownSteps_append]
        omega

theorem FailingInv.run {past ms : List ListenerMove} (inv : FailingInv i err past c)
    (run : listenerProgram.exec c ms = some c') : FailingInv i err (past ++ ms) c' :=
  Program.exec_history (fun _ _ _ _ inv _ moved => inv.next moved) inv
    (Program.allowedAfter_of_forall _ fun _ _ => trivial) run

theorem FailingInv.endsFailed (inv : FailingInv i err [] c)
    (wraps : err.is .connectionFailed = true) : EndsFailed c i := by
  refine ⟨err, wraps, fun ms c' run live => ?_⟩
  have later := inv.run run
  rw [List.nil_append] at later
  obtain ⟨k, left, at_k, failing, steps⟩ := later.failing live
  refine ⟨by omega, k, at_k, ?_⟩
  rcases failing.enabled c'.shared with exited | ⟨a, enabled⟩
  · have failed : k.pc.state = some .failed := by rw [exited]; rfl
    exact .inl ⟨exited, later.lifecycle.states k (List.mem_of_getElem? at_k) _ failed⟩
  · obtain ⟨⟨l', k'⟩, moved⟩ := Option.isSome_iff_exists.mp enabled
    refine .inr ⟨a, ?_⟩
    simp [Program.next, at_k, listenerProgram, ListenerThread.step, moved]

end Ends

/-- Between two answered GETs a consumer dials at most as often as one retry loop does,
    and ends when these dials are spent, as long as no connection is lost before a GET
    over it has been answered. -/
theorem reconnect_budget (client : ClientConfig) (queue : String) (opts : List ListenerOption)
    (ms : List ListenerMove) (c : ListenerConfig)
    (run : listenerProgram.exec ⟨newListener client queue opts, []⟩ ms = some c)
    (answered : Program.AllowedAfter BreaksAfterAnswer [] ms) (i : Nat) (k : Consumer)
    (consumer : c.threads[i]? = some (.consumer k)) :
    (tries i ms).dials ≤ dialBudget (newListener client queue opts).maxRetries ∧
      (c.shared.runCtx = none →
        (tries i ms).Spent (dialBudget (newListener client queue opts).maxRetries) →
        EndsFailed c i) := by
  have inv := (BudgetInv.start client queue opts).run answered run
  have positive := dialBudget_pos (newListener client queue opts).maxRetries
  have counts := inv.counts i k consumer
  refine ⟨counts.dials_le, fun live spent => ?_⟩
  rw [live] at counts
  obtain ⟨err, left, wraps, failing⟩ := ConsumerPc.Counts.failing positive counts spent
  have lifecycle := (LifecycleInv.start client queue opts).run run
  exact FailingInv.endsFailed ⟨lifecycle, ⟨k, consumer⟩,
    fun _ => ⟨k, left, consumer, failing, failing.left_le⟩⟩ wraps

/-- The only consumer of a listener is launched and dials. -/
def dialsOnce (answer : Except GoError Handle) : List ListenerMove :=
  [.call (.start none none), .act 0 .go, .act 0 .go, .act 0 .go, .act 1 .go, .act 1 .go,
    .act 1 (.loop .check), .act 1 (.loop (.dialed answer)), .act 1 .go]

/-- The queue is found empty; then the connection is lost and not made again. -/
def losesConnection : List ListenerMove :=
  [.act 1 .go, .act 1 (.opened none), .act 1 .go,
    .act 1 (.getFailed (.mqReturn ⟨2, 2033, "MQRC_NO_MSG_AVAILABLE"⟩)), .act 1 .go,
    .act 1 (.getFailed (.mqReturn ⟨2, 2009, "MQRC_CONNECTION_BROKEN"⟩)), .act 1 .go, .act 1 .go,
    .act 1 (.loop .check),
    .act 1 (.loop (.dialed (.error (.mqReturn ⟨2, 2059, "MQRC_Q_MGR_NOT_AVAILABLE"⟩))))]

theorem reconnect_budget_spent : ∃ c,
    listenerProgram.exec ⟨newListener .minimal "ORDERS" [.withListenerMaxRetries 1], []⟩
        (dialsOnce (.ok 7) ++ losesConnection) = some c ∧
      (tries 1 (dialsOnce (.ok 7) ++ losesConnection)).Spent 1 ∧ c.shared.runCtx = none ∧
      EndsFailed c 1 := by
  obtain ⟨c, k, run, consumer, live, spent, answered⟩ : ∃ c k,
      listenerProgram.exec ⟨newListener .minimal "ORDERS" [.withListenerMaxRetries 1], []⟩
        (dialsOnce (.ok 7) ++ losesConnection) = some c ∧
      c.threads[1]? = some (.consumer k) ∧ c.shared.runCtx = none ∧
      (tries 1 (dialsOnce (.ok 7) ++ losesConnection)).Spent 1 ∧
      Program.AllowedAfter BreaksAfterAnswer [] (dialsOnce (.ok 7) ++ losesConnection) :=
    ⟨_, _, rfl, rfl, rfl, ⟨rfl, rfl⟩, by decide⟩
  have budget := reconnect_budget .minimal "ORDERS" [.withListenerMaxRetries 1] _ c run answered 1
    k consumer
  exact ⟨c, run, spent, live, budget.2 live spent⟩

/-- The queue cannot be opened because the connection is lost, and is at once made again. -/
def flaps : List ListenerMove :=
  [.act 1 .go, .act 1 (.opened (some (.mqReturn ⟨2, 2009, "MQRC_CONNECTION_BROKEN"⟩))), .act 1 .go,
    .act 1 .go, .act 1 (.loop .check), .act 1 (.loop (.dialed (.ok 7))), .act 1 .go]

/-- The listener between two rounds of `flaps`. -/
def flapping : ListenerConfig :=
  ⟨{ newListener .minimal "ORDERS" [] with
      started := true, wg := 1, live := [7], states := [.connected] },
    [.start { ctx := none, span := none, pc := .await },
      .consumer { idx := 0, pc := .loopTop, conn := ⟨some 7, .connected, none⟩ }]⟩

theorem flaps_exec (n : Nat) :
    listenerProgram.exec flapping (List.replicate n flaps).flatten = some flapping := by
  induction n with
  | zero => rfl
  | succ n ih =>
      rw [List.replicate_succ, List.flatten_cons]
      exact Program.exec_trans rfl ih

theorem flaps_tries (n : Nat) (t : Tries) :
    ((List.replicate n flaps).flatten.foldl (Tries.move 1) t).dials = t.dials + n := by
  induction n generalizing t with
  | zero => rfl
  | succ n ih =>
      have once : flaps.foldl (Tries.move 1) t = ⟨t.dials + 1, false⟩ := rfl
      rw [List.replicate_succ, List.flatten_cons, List.foldl_append, once, ih]
      exact Nat.add_right_comm t.dials 1 n

/-- No bound, whatever the ten retries: with a queue manager that accepts every connect and
    fails every open, the consumer dials again and again, and never waits. -/
theorem redials_without_bound : ClientConfig.minimal.cfg.attempts = 10 ∧ ∀ bound, ∃ ms c k,
    listenerProgram.exec ⟨newListener .minimal "ORDERS" [], []⟩ ms = some c ∧
      c.shared.runCtx = none ∧ c.threads[1]? = some (.consumer k) ∧
      bound < (tries 1 ms).dials ∧ .act 1 (.loop .fired) ∉ ms := by
  refine ⟨rfl, fun bound => ?_⟩
  have start : listenerProgram.exec ⟨newListener .minimal "ORDERS" [], []⟩ (dialsOnce (.ok 7)) =
      some flapping := rfl
  refine ⟨dialsOnce (.ok 7) ++ (List.replicate bound flaps).flatten, flapping, _,
    Program.exec_trans start (flaps_exec bound), rfl, rfl, ?_, ?_⟩
  · have first : (dialsOnce (.ok 7)).foldl (Tries.move 1) {} = ⟨1, false⟩ := rfl
    rw [tries, List.foldl_append, first, flaps_tries]
    exact Nat.lt_one_add_iff.mpr le_rfl
  · simp [dialsOnce, flaps, List.mem_flatten, List.mem_replicate]

end CommonsMQ
