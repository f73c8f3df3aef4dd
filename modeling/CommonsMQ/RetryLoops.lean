import CommonsMQ.Backoff
import CommonsMQ.Lib.Operation

/-! # One retry policy in two loops

`newConnectionWithRetry` and `Reconnect` are written apart. Both follow a policy that is
stated here without a loop: which dials are made, which delays are asked for, and how it
ends, for all that can happen in each iteration. The second part follows one connection
through its life and keeps a book of the handles it has dialed and not released.
-/

namespace CommonsMQ

open Operation

/-! ## The policy -/

/-- What iteration `n` meets: the context at the head, the answer of the dial, and the
    context if it ends the wait. -/
structure LoopOutcomes where
  head : Nat → Option CtxErr
  dial : Nat → Except GoError Handle
  wait : Nat → Option CtxErr

/-- Iteration `m` dials in vain and waits to the end. -/
structure LoopOutcomes.Fails (met : LoopOutcomes) (m : Nat) : Prop where
  head : met.head m = none
  dial : ∃ err, met.dial m = .error err
  wait : met.wait m = none

inductive LoopEvent where
  | dial
  /-- A wait is asked for. -/
  | delay (d : Int)
  deriving Repr, DecidableEq

inductive LoopEnd where
  | connected (handle : Handle)
  | cancelled (e : CtxErr)
  /-- The answer of the last dial. -/
  | exhausted (err : GoError)

/-- `max(1, MaxRetries)`. -/
def Config.dialLimit (cfg : Config) : Nat := (max 1 cfg.maxRetries).toNat

/-- `n` dials, each followed by its delay. -/
def rounds (cfg : Config) (n : Nat) : List LoopEvent :=
  (List.range n).flatMap fun m => [.dial, .delay (retryDelay cfg m)]

/-- Dial until the first success, at most `dialLimit` times and with a delay between two
    dials; stop as soon as the context is seen done. -/
inductive RetryPolicy (cfg : Config) (met : LoopOutcomes) : List LoopEvent → LoopEnd → Prop where
  | connected {n handle} : n < cfg.dialLimit → (∀ m < n, met.Fails m) → met.head n = none →
      met.dial n = .ok handle → RetryPolicy cfg met (rounds cfg n ++ [.dial]) (.connected handle)
  | cancelled {n e} : n < cfg.dialLimit → (∀ m < n, met.Fails m) → met.head n = some e →
      RetryPolicy cfg met (rounds cfg n) (.cancelled e)
  | interrupted {n err e} : n + 1 < cfg.dialLimit → (∀ m < n, met.Fails m) →
      met.head n = none → met.dial n = .error err → met.wait n = some e →
      RetryPolicy cfg met (rounds cfg (n + 1)) (.cancelled e)
  | exhausted {n err} : n + 1 = cfg.dialLimit → (∀ m < n, met.Fails m) → met.head n = none →
      met.dial n = .error err → RetryPolicy cfg met (rounds cfg n ++ [.dial]) (.exhausted err)

/-- The policy as a loop. -/
def policyStep (cfg : Config) (met : LoopOutcomes) (pc : LoopPc) (_ : Unit) :
    Option (List LoopEvent × Progress LoopPc LoopEnd) :=
  match pc with
  | .head n =>
      match met.head n with
      | some e => some ([], .ended (.cancelled e))
      | none => some ([], .running (.dial n))
  | .dial n =>
      match met.dial n with
      | .ok handle => some ([.dial], .ended (.connected handle))
      | .error err =>
          if n + 1 < cfg.dialLimit then
            some ([.dial, .delay (retryDelay cfg n)], .running (.wait n))
          else some ([.dial], .ended (.exhausted err))
  | .wait n =>
      match met.wait n with
      | none => some ([], .running (.head (n + 1)))
      | some e => some ([], .ended (.cancelled e))

/-- The events of the loop from `pc` on, and its end. -/
def policyRun (cfg : Config) (met : LoopOutcomes) (fuel : Nat) (pc : LoopPc) :
    Option (List LoopEvent × LoopEnd) :=
  follow (policyStep cfg met) (fun _ => ()) fuel (.running pc)

section Policy

variable {cfg : Config} {met : LoopOutcomes} {n fuel : Nat} {events : List LoopEvent}
  {ending : LoopEnd}

theorem rounds_succ (cfg : Config) (n : Nat) :
    rounds cfg (n + 1) = rounds cfg n ++ [.dial, .delay (retryDelay cfg n)] := by
  simp [rounds, List.range_succ]

theorem Config.dialLimit_pos (cfg : Config) : 0 < cfg.dialLimit := by
  unfold dialLimit
  omega

theorem Config.attempts_eq (cfg : Config) : cfg.attempts = cfg.dialLimit := by
  unfold attempts dialLimit
  split <;> omega

theorem policyRun_checked (head : met.head n = none) :
    policyRun cfg met (fuel + 1) (.head n) = policyRun cfg met fuel (.dial n) := by
  simp [policyRun, follow, policyStep, head]

theorem policyRun_cancelled {e : CtxErr} (head : met.head n = some e) :
    policyRun cfg met (fuel + 1) (.head n) = some ([], .cancelled e) := by
  simp [policyRun, follow, follow_ended, policyStep, head]

theorem policyRun_connected {handle : Handle} (dial : met.dial n = .ok handle) :
    policyRun cfg met (fuel + 1) (.dial n) = some ([.dial], .connected handle) := by
  simp [policyRun, follow, follow_ended, policyStep, dial]

theorem policyRun_refused {err : GoError} (dial : met.dial n = .error err)
    (more : n + 1 < cfg.dialLimit) : policyRun cfg met (fuel + 1) (.dial n) =
      (policyRun cfg met fuel (.wait n)).map fun r =>
        (.dial :: .delay (retryDelay cfg n) :: r.1, r.2) := by
  simp [policyRun, follow, policyStep, dial, more]

theorem policyRun_exhausted {err : GoError} (dial : met.dial n = .error err)
    (last : n + 1 = cfg.dialLimit) :
    policyRun cfg met (fuel + 1) (.dial n) = some ([.dial], .exhausted err) := by
  simp [policyRun, follow, follow_ended, policyStep, dial, last]

theorem policyRun_waited (wait : met.wait n = none) :
    policyRun cfg met (fuel + 1) (.wait n) = policyRun cfg met fuel (.head (n + 1)) := by
  simp [policyRun, follow, policyStep, wait]

theorem policyRun_interrupted {e : CtxErr} (wait : met.wait n = some e) :
    policyRun cfg met (fuel + 1) (.wait n) = some ([], .cancelled e) := by
  simp [policyRun, follow, follow_ended, policyStep, wait]

/-- Iterations in vain bring the loop to the head of the next one. -/
theorem policyRun_rounds (inside : n < cfg.dialLimit) (failed : ∀ m < n, met.Fails m) :
    policyRun cfg met (3 * n + fuel) (.head 0) =
      (policyRun cfg met fuel (.head n)).map fun r => (rounds cfg n ++ r.1, r.2) := by
  induction n generalizing fuel with
  | zero => simp [rounds]
  | succ n ih =>
      obtain ⟨head, ⟨err, dial⟩, wait⟩ := failed n n.lt_succ_self
      have reached := @ih (fuel + 3) (by omega) (fun m lt => failed m (by omega))
      rw [policyRun_checked head, policyRun_refused dial inside, policyRun_waited wait] at reached
      rw [show 3 * (n + 1) + fuel = 3 * n + (fuel + 3) by omega, reached, Option.map_map]
      simp [rounds_succ, Function.comp_def]

/-- The loop does what the policy says. -/
theorem RetryPolicy.run (policy : RetryPolicy cfg met events ending) :
    policyRun cfg met (3 * cfg.dialLimit) (.head 0) = some (events, ending) := by
  have enough : ∀ n < cfg.dialLimit, ∃ fuel, 3 * cfg.dialLimit = 3 * n + (fuel + 3) :=
    fun n inside => ⟨3 * cfg.dialLimit - 3 * n - 3, by omega⟩
  cases policy with
  | @connected n handle inside failed head dial =>
      obtain ⟨fuel, same⟩ := enough n inside
      rw [same, policyRun_rounds inside failed, policyRun_checked head, policyRun_connected dial]
      rfl
  | @cancelled n e inside failed head =>
      obtain ⟨fuel, same⟩ := enough n inside
      rw [same, policyRun_rounds inside failed, policyRun_cancelled head]
      simp
  | @interrupted n err e inside failed head dial wait =>
      obtain ⟨fuel, same⟩ := enough n (by omega)
      rw [same, policyRun_rounds (by omega) failed, policyRun_checked head,
        policyRun_refused dial inside, policyRun_interrupted wait, rounds_succ]
      rfl
  | @exhausted n err last failed head dial =>
      obtain ⟨fuel, same⟩ := enough n (by omega)
      rw [same, policyRun_rounds (by omega) failed, policyRun_checked head,
        policyRun_exhausted dial last]
      rfl

/-- The policy covers all that can happen. -/
theorem RetryPolicy.exists_from (cfg : Config) (met : LoopOutcomes) (left n : Nat)
    (here : n + left + 1 = cfg.dialLimit) (failed : ∀ m < n, met.Fails m) :
    ∃ events ending, RetryPolicy cfg met events ending := by
  induction left generalizing n with
  | zero =>
      cases head : met.head n with
      | some e => exact ⟨_, _, .cancelled (by omega) failed head⟩
      | none =>
          cases dial : met.dial n with
          | ok handle => exact ⟨_, _, .connected (by omega) failed head dial⟩
          | error err => exact ⟨_, _, .exhausted here failed head dial⟩
  | succ left ih =>
      cases head : met.head n with
      | some e => exact ⟨_, _, .cancelled (by omega) failed head⟩
      | none =>
          cases dial : met.dial n with
          | ok handle => exact ⟨_, _, .connected (by omega) failed head dial⟩
          | error err =>
              cases wait : met.wait n with
              | some e => exact ⟨_, _, .interrupted (by omega) failed head dial wait⟩
              | none =>
                  refine ih (n + 1) (by omega) fun m lt => ?_
                  obtain earlier | rfl := Nat.lt_succ_iff_lt_or_eq.mp lt
                  · exact failed m earlier
                  · exact ⟨head, ⟨err, dial⟩, wait⟩

end Policy

/-! ## The two loops -/

/-- The answers that the loops are given. -/
def LoopOutcomes.answer (met : LoopOutcomes) : LoopPc → Option CtxErr × LoopAnswer
  | .head n => (met.head n, .check)
  | .dial n => (met.head n, .dialed (met.dial n))
  | .wait n =>
      match met.wait n with
      | none => (none, .fired)
      | some e => (some e, .interrupted)

/-- A step that takes the answer of a dial has dialed, and asks for a delay if it goes on
    to wait. -/
def loopEvents {β : Type} (cfg : Config) : LoopAnswer → LoopPc ⊕ β → List LoopEvent
  | .dialed _, .inl (.wait n) => [.dial, .delay (retryDelay cfg n)]
  | .dialed _, _ => [.dial]
  | _, _ => []

def creationStep (cfg : Config) (pc : LoopPc) (answer : Option CtxErr × LoopAnswer) :
    Option (List LoopEvent × Progress LoopPc (Except GoError Connection)) :=
  (newConnectionWithRetry cfg answer.1 pc answer.2).map fun out =>
    (loopEvents cfg answer.2 out, out.elim .running .ended)

def reconnectStep (cfg : Config) (s : Connection × LoopPc) (answer : Option CtxErr × LoopAnswer) :
    Option (List LoopEvent × Progress (Connection × LoopPc) (Connection × Option GoError)) :=
  (s.1.reconnect cfg answer.1 s.2 answer.2).map fun r =>
    (loopEvents cfg answer.2 r.2,
      r.2.elim (fun pc => .running (r.1, pc)) (fun result => .ended (r.1, result)))

/-- A call of `newConnectionWithRetry`. -/
def creationRun (cfg : Config) (met : LoopOutcomes) (fuel : Nat) :
    Option (List LoopEvent × Except GoError Connection) :=
  follow (creationStep cfg) met.answer fuel (.running (.head 0))

/-- A call of `Reconnect` on `c`. -/
def reconnectRun (cfg : Config) (met : LoopOutcomes) (c : Connection) (fuel : Nat) :
    Option (List LoopEvent × Connection × Option GoError) :=
  follow (reconnectStep cfg) (fun s => met.answer s.2) fuel
    (.running ({ c with state := .reconnecting }, .head 0))

/-- `failure` wraps `ErrConnectionFailed` and what `dial` makes of the answer `err`. -/
def WrapsBoth (cfg : Config) (err failure : GoError) : Prop :=
  ∃ text lastErr, (Connection.new.dial cfg (.error err)).2 = some lastErr ∧
    failure = .wrap text [ErrConnectionFailed, lastErr]

/-- What `newConnectionWithRetry` returns at this end. -/
def LoopEnd.Created (cfg : Config) : LoopEnd → Except GoError Connection → Prop
  | .connected handle, result =>
      ∃ c, result = .ok c ∧ c.handle = some handle ∧ c.state = .connected
  | .cancelled e, result => result = .error (.context e)
  | .exhausted err, result => ∃ failure, result = .error failure ∧ WrapsBoth cfg err failure

/-- What `Reconnect` returns at this end, and how it leaves the connection. -/
def LoopEnd.Reconnected (cfg : Config) : LoopEnd → Connection × Option GoError → Prop
  | .connected handle, (c, result) =>
      result = none ∧ c.handle = some handle ∧ c.state = .connected
  | .cancelled e, (c, result) => result = some (.context e) ∧ c.state ≠ .connected
  | .exhausted err, (c, result) =>
      (∃ failure, result = some failure ∧ WrapsBoth cfg err failure) ∧ c.state = .failed

section Loops

variable {cfg : Config} {met : LoopOutcomes} {events : List LoopEvent} {ending : LoopEnd}

/-- What one step of the policy can be. -/
inductive PolicyStep (cfg : Config) (met : LoopOutcomes) :
    LoopPc → List LoopEvent → Progress LoopPc LoopEnd → Prop where
  | checked {n} : met.head n = none → PolicyStep cfg met (.head n) [] (.running (.dial n))
  | cancelled {n e} : met.head n = some e →
      PolicyStep cfg met (.head n) [] (.ended (.cancelled e))
  | connected {n handle} : met.dial n = .ok handle →
      PolicyStep cfg met (.dial n) [.dial] (.ended (.connected handle))
  | refused {n err} : met.dial n = .error err → n + 1 < cfg.attempts →
      PolicyStep cfg met (.dial n) [.dial, .delay (retryDelay cfg n)] (.running (.wait n))
  | exhausted {n err} : met.dial n = .error err → ¬n + 1 < cfg.attempts →
      PolicyStep cfg met (.dial n) [.dial] (.ended (.exhausted err))
  | waited {n} : met.wait n = none → PolicyStep cfg met (.wait n) [] (.running (.head (n + 1)))
  | interrupted {n e} : met.wait n = some e →
      PolicyStep cfg met (.wait n) [] (.ended (.cancelled e))

theorem policyStep_step {pc : LoopPc} {out : List LoopEvent} {p : Progress LoopPc LoopEnd}
    (stepped : policyStep cfg met pc () = some (out, p)) : PolicyStep cfg met pc out p := by
  unfold policyStep at stepped
  split at stepped
  · split at stepped <;> cases stepped
    · exact .cancelled ‹_›
    · exact .checked ‹_›
  · split at stepped
    · cases stepped
      exact .connected ‹_›
    · rw [← cfg.attempts_eq] at stepped
      split at stepped <;> cases stepped
      · exact .refused ‹_› ‹_›
      · exact .exhausted ‹_› ‹_›
  · split at stepped <;> cases stepped
    · exact .waited ‹_›
    · exact .interrupted ‹_›

/-- `newConnectionWithRetry` makes every step of the policy. -/
theorem creation_simulates {pc : LoopPc} {out : List LoopEvent} {p : Progress LoopPc LoopEnd}
    (step : PolicyStep cfg met pc out p) :
    ∃ p', creationStep cfg pc (met.answer pc) = some (out, p') ∧
      Progress.Related Eq (LoopEnd.Created cfg) p p' := by
  cases step with
  | checked head =>
      simp only [creationStep, LoopOutcomes.answer, newConnectionWithRetry, head]
      exact ⟨_, rfl, .running rfl⟩
  | cancelled head =>
      simp only [creationStep, LoopOutcomes.answer, newConnectionWithRetry, head]
      exact ⟨_, rfl, .ended rfl⟩
  | connected dial =>
      simp only [creationStep, LoopOutcomes.answer, newConnectionWithRetry, dial]
      exact ⟨_, rfl, .ended ⟨_, rfl, rfl, rfl⟩⟩
  | refused dial more =>
      simp only [creationStep, LoopOutcomes.answer, newConnectionWithRetry, dial,
        Connection.dial, if_pos more]
      exact ⟨_, rfl, .running rfl⟩
  | exhausted dial last =>
      simp only [creationStep, LoopOutcomes.answer, newConnectionWithRetry, dial,
        Connection.dial, if_neg last]
      exact ⟨_, rfl, .ended ⟨_, rfl, _, _, rfl, rfl⟩⟩
  | waited wait =>
      simp only [creationStep, LoopOutcomes.answer, wait]
      exact ⟨_, rfl, .running rfl⟩
  | interrupted wait =>
      simp only [creationStep, LoopOutcomes.answer, wait]
      exact ⟨_, rfl, .ended rfl⟩

/-- So does `Reconnect`, and the connection is not connected before the end. -/
theorem reconnect_simulates {pc : LoopPc} {c : Connection} {out : List LoopEvent}
    {p : Progress LoopPc LoopEnd} (apart : c.state ≠ .connected)
    (step : PolicyStep cfg met pc out p) :
    ∃ p', reconnectStep cfg (c, pc) (met.answer pc) = some (out, p') ∧
      Progress.Related (fun pc s => s.2 = pc ∧ s.1.state ≠ .connected)
        (LoopEnd.Reconnected cfg) p p' := by
  cases step with
  | checked head =>
      simp only [reconnectStep, LoopOutcomes.answer, Connection.reconnect, head]
      exact ⟨_, rfl, .running ⟨rfl, apart⟩⟩
  | cancelled head =>
      simp only [reconnectStep, LoopOutcomes.answer, Connection.reconnect, head]
      exact ⟨_, rfl, .ended ⟨rfl, apart⟩⟩
  | connected dial =>
      simp only [reconnectStep, LoopOutcomes.answer, Connection.reconnect, dial]
      exact ⟨_, rfl, .ended ⟨rfl, rfl, rfl⟩⟩
  | refused dial more =>
      simp only [reconnectStep, LoopOutcomes.answer, Connection.reconnect, dial,
        Connection.dial, if_pos more]
      exact ⟨_, rfl, .running ⟨rfl, by simp⟩⟩
  | exhausted dial last =>
      simp only [reconnectStep, LoopOutcomes.answer, Connection.reconnect, dial,
        Connection.dial, if_neg last]
      exact ⟨_, rfl, .ended ⟨⟨_, rfl, _, _, rfl, rfl⟩, rfl⟩⟩
  | waited wait =>
      simp only [reconnectStep, LoopOutcomes.answer, wait]
      exact ⟨_, rfl, .running ⟨rfl, apart⟩⟩
  | interrupted wait =>
      simp only [reconnectStep, LoopOutcomes.answer, wait]
      exact ⟨_, rfl, .ended ⟨rfl, apart⟩⟩

/-- Both loops do what the policy says. -/
theorem RetryPolicy.creationRun (policy : RetryPolicy cfg met events ending) :
    ∃ result, creationRun cfg met (3 * cfg.dialLimit) = some (events, result) ∧
      ending.Created cfg result := by
  refine follow_simulates (fun pc pc' out p same stepped => ?_) (.running rfl) policy.run
  subst same
  exact creation_simulates (policyStep_step stepped)

theorem RetryPolicy.reconnectRun (policy : RetryPolicy cfg met events ending) (c : Connection) :
    ∃ result, reconnectRun cfg met c (3 * cfg.dialLimit) = some (events, result) ∧
      ending.Reconnected cfg result := by
  have simulates : ∀ pc (s : Connection × LoopPc) out p, s.2 = pc ∧ s.1.state ≠ .connected →
      policyStep cfg met pc () = some (out, p) →
      ∃ p', reconnectStep cfg s (met.answer s.2) = some (out, p') ∧
        Progress.Related (fun pc s => s.2 = pc ∧ s.1.state ≠ .connected)
          (LoopEnd.Reconnected cfg) p p' := by
    rintro pc ⟨c, _⟩ out p ⟨rfl, apart⟩ stepped
    exact reconnect_simulates apart (policyStep_step stepped)
  exact follow_simulates simulates (.running ⟨rfl, nofun⟩) policy.run

theorem LoopEnd.Reconnected.connected_iff {r : Connection × Option GoError}
    (reconnected : ending.Reconnected cfg r) : r.1.state = .connected ↔ r.2 = none := by
  obtain ⟨c, result⟩ := r
  cases ending with
  | connected handle => exact iff_of_true reconnected.2.2 reconnected.1
  | cancelled e =>
      obtain ⟨rfl, apart⟩ := reconnected
      exact iff_of_false apart nofun
  | exhausted err =>
      obtain ⟨⟨failure, rfl, -⟩, failed⟩ := reconnected
      refine iff_of_false (fun connected => ?_) nofun
      cases failed.symm.trans connected

end Loops

/-! ## The handles of one connection -/

inductive LifePc where
  | unborn
  /-- In `newConnectionWithRetry`. -/
  | creating (pc : LoopPc)
  | idle
  /-- In `Reconnect`. -/
  | reconnecting (pc : LoopPc)
  | closed
  /-- There is no connection: it could not be dialed. -/
  | stillborn

inductive LifeMove where
  | newConnection (answer : Except GoError Handle)
  | newConnectionWithRetry
  | loop (ctx : Option CtxErr) (answer : LoopAnswer)
  | reconnect
  | close (answer : Option GoError)

/-- A connection, and the handles that were dialed for it and not released since. -/
structure ConnectionLife where
  conn : Connection := .new
  owned : List Handle := []
  pc : LifePc := .unborn

/-- A dial adds a handle. -/
def ownedAfterDial (owned : List Handle) : LoopAnswer → List Handle
  | .dialed (.ok handle) => handle :: owned
  | _ => owned

/-- `Reconnect` calls `Disc` when it goes on from its check to the dial. -/
def ownedInReconnect {β : Type} (owned : List Handle) (c : Connection) :
    LoopAnswer → LoopPc ⊕ β → List Handle
  | .check, .inl _ => unlive owned c
  | answer, _ => ownedAfterDial owned answer

def ConnectionLife.step (cfg : Config) (l : ConnectionLife) (m : LifeMove) :
    Option ConnectionLife :=
  match l.pc, m with
  | .unborn, .newConnection answer =>
      match Connection.new.dial cfg answer with
      | (c, none) => some ⟨c, ownedAfterDial l.owned (.dialed answer), .idle⟩
      | (_, some _) => some { l with pc := .stillborn }
  | .unborn, .newConnectionWithRetry => some { l with pc := .creating (.head 0) }
  | .creating pc, .loop ctx answer =>
      match newConnectionWithRetry cfg ctx pc answer with
      | none => none
      | some (.inl pc') =>
          some { l with owned := ownedAfterDial l.owned answer, pc := .creating pc' }
      | some (.inr (.error _)) =>
          some { l with owned := ownedAfterDial l.owned answer, pc := .stillborn }
      | some (.inr (.ok c)) => some ⟨c, ownedAfterDial l.owned answer, .idle⟩
  | .idle, .reconnect =>
      some ⟨{ l.conn with state := .reconnecting }, l.owned, .reconnecting (.head 0)⟩
  | .reconnecting pc, .loop ctx answer =>
      match l.conn.reconnect cfg ctx pc answer with
      | none => none
      | some (c, out) =>
          some ⟨c, ownedInReconnect l.owned l.conn answer out,
            out.elim .reconnecting fun _ => .idle⟩
  | .idle, .close answer =>
      some ⟨(l.conn.close cfg answer).1, unlive l.owned l.conn, .closed⟩
  | _, _ => none

def ConnectionLife.run (cfg : Config) : ConnectionLife → List LifeMove → Option ConnectionLife
  | l, [] => some l
  | l, m :: rest =>
      match l.step cfg m with
      | none => none
      | some l' => run cfg l' rest

/-- Before its first dial, between a `Disc` and the dial, and after `Close` there is no
    handle. -/
def LifePc.bare : LifePc → Bool
  | .idle | .reconnecting (.head _) | .reconnecting (.wait _) => false
  | _ => true

/-- What was dialed and not released is what the connection holds. -/
structure ConnectionLife.Books (l : ConnectionLife) : Prop where
  owned : l.owned = l.conn.handle.toList
  bare : l.pc.bare = true → l.conn.handle = none

section Life

variable {cfg : Config} {l l' : ConnectionLife}

theorem unlive_toList (c : Connection) : unlive c.handle.toList c = [] := by
  unfold unlive
  cases c.handle <;> simp

theorem ConnectionLife.Books.owned_nil (books : l.Books) (bare : l.pc.bare = true) :
    l.owned = [] := by
  rw [books.owned, books.bare bare]
  rfl

theorem ConnectionLife.Books.of_held (owned : l.owned = l.conn.handle.toList)
    (held : l.pc.bare = false) : l.Books := by
  refine ⟨owned, fun bare => ?_⟩
  rw [held] at bare
  cases bare

/-- `newConnectionWithRetry` has a handle only when it returns it. -/
theorem newConnectionWithRetry_owned {ctx : Option CtxErr} {pc : LoopPc} {answer : LoopAnswer}
    {out : LoopPc ⊕ Except GoError Connection}
    (stepped : newConnectionWithRetry cfg ctx pc answer = some out) :
    ownedAfterDial [] answer = match out with
      | .inr (.ok c) => c.handle.toList
      | _ => [] := by
  obtain pc' | ⟨_ | c⟩ := out
  · cases newConnectionWithRetry_step stepped <;> rfl
  · cases newConnectionWithRetry_step stepped <;> rfl
  · obtain ⟨n, handle, -, rfl, held, -⟩ := newConnectionWithRetry_ok stepped
    simp [ownedAfterDial, held]

/-- A step of `Reconnect` keeps the books. -/
theorem ConnectionLife.Books.reconnecting {ctx : Option CtxErr} {pc : LoopPc}
    {answer : LoopAnswer} {c : Connection} {out : LoopPc ⊕ Option GoError} (books : l.Books)
    (here : l.pc = .reconnecting pc)
    (stepped : l.conn.reconnect cfg ctx pc answer = some (c, out)) :
    ConnectionLife.Books ⟨c, ownedInReconnect l.owned l.conn answer out,
      out.elim .reconnecting fun _ => .idle⟩ := by
  cases Connection.reconnect_step stepped with
  | checked live =>
      subst live
      obtain ⟨rfl, -⟩ := Prod.mk.inj (Option.some.inj stepped)
      refine ⟨?_, fun _ => rfl⟩
      rw [books.owned]
      exact unlive_toList l.conn
  | cancelled done =>
      subst done
      obtain ⟨rfl, -⟩ := Prod.mk.inj (Option.some.inj stepped)
      exact .of_held books.owned rfl
  | connected =>
      have nothing := books.owned_nil (by rw [here]; rfl)
      cases Connection.reconnect_handle stepped with
      | kept _ other => exact absurd rfl (other _)
      | dialed held =>
          refine .of_held ?_ rfl
          simp [ownedInReconnect, ownedAfterDial, nothing, held]
  | refused | exhausted | waited | interrupted =>
      cases Connection.reconnect_handle stepped with
      | kept same => exact .of_held (books.owned.trans (by rw [same])) rfl

theorem ConnectionLife.Books.step {m : LifeMove} (books : l.Books)
    (stepped : l.step cfg m = some l') : l'.Books := by
  unfold ConnectionLife.step at stepped
  split at stepped
  · rename_i answer here
    have nothing := books.owned_nil (by rw [here]; rfl)
    cases answer with
    | error err =>
        obtain rfl := Option.some.inj stepped
        exact ⟨books.owned, fun _ => books.bare (by rw [here]; rfl)⟩
    | ok handle =>
        obtain rfl := Option.some.inj stepped
        exact .of_held (by simp [ownedAfterDial, nothing]) rfl
  · rename_i here
    obtain rfl := Option.some.inj stepped
    exact ⟨books.owned, fun _ => books.bare (by rw [here]; rfl)⟩
  · rename_i pc ctx answer here
    have nothing := books.owned_nil (by rw [here]; rfl)
    have unheld := books.bare (by rw [here]; rfl)
    rw [nothing] at stepped
    split at stepped
    · cases stepped
    · rename_i pc' inner
      obtain rfl := Option.some.inj stepped
      exact ⟨by simp [newConnectionWithRetry_owned inner, unheld], fun _ => unheld⟩
    · rename_i err inner
      obtain rfl := Option.some.inj stepped
      exact ⟨by simp [newConnectionWithRetry_owned inner, unheld], fun _ => unheld⟩
    · rename_i c inner
      obtain rfl := Option.some.inj stepped
      exact .of_held (newConnectionWithRetry_owned inner) rfl
  · obtain rfl := Option.some.inj stepped
    exact .of_held books.owned rfl
  · rename_i pc ctx answer here
    split at stepped
    · cases stepped
    · rename_i c out inner
      obtain rfl := Option.some.inj stepped
      exact books.reconnecting here inner
  · rename_i answer here
    obtain rfl := Option.some.inj stepped
    refine ⟨?_, fun _ => rfl⟩
    rw [books.owned]
    exact unlive_toList l.conn
  · cases stepped

theorem ConnectionLife.Books.run {ms : List LifeMove} (books : l.Books)
    (run : l.run cfg ms = some l') : l'.Books := by
  induction ms generalizing l with
  | nil =>
      obtain rfl := Option.some.inj run
      exact books
  | cons m rest ih =>
      simp only [ConnectionLife.run] at run
      split at run
      · cases run
      · rename_i mid stepped
        exact ih (books.step stepped) run

end Life

/-! ## Both loops, and every life of a connection -/

/-- Whatever the loops meet, there is one course that the policy prescribes, and both take
    it: the same dials and delays, and the same end. -/
structure OnePolicy (cfg : Config) (met : LoopOutcomes) (c : Connection)
    (events : List LoopEvent) (ending : LoopEnd) (created : Except GoError Connection)
    (c' : Connection) (reconnected : Option GoError) : Prop where
  policy : RetryPolicy cfg met events ending
  unique : ∀ events' ending', RetryPolicy cfg met events' ending' →
    events' = events ∧ ending' = ending
  creation : creationRun cfg met (3 * cfg.dialLimit) = some (events, created)
  creation_ends : ending.Created cfg created
  reconnect : reconnectRun cfg met c (3 * cfg.dialLimit) = some (events, c', reconnected)
  reconnect_ends : ending.Reconnected cfg (c', reconnected)
  state : c'.state = .connected ↔ reconnected = none

/-- The two retry loops implement one policy, and a connection owns the handle that it holds
    and no other through its whole life, and none after `Close`. -/
theorem one_retry_policy (cfg : Config) :
    (∀ met c, ∃ events ending created c' reconnected,
      OnePolicy cfg met c events ending created c' reconnected) ∧
    ∀ ms l, ConnectionLife.run cfg {} ms = some l →
      l.owned = l.conn.handle.toList ∧ l.owned.length ≤ 1 ∧
        (l.pc = .closed → l.owned = []) := by
  constructor
  · intro met c
    have positive := cfg.dialLimit_pos
    obtain ⟨events, ending, policy⟩ := RetryPolicy.exists_from cfg met (cfg.dialLimit - 1) 0
      (by omega) (by simp)
    obtain ⟨created, creation, matches₁⟩ := policy.creationRun
    obtain ⟨⟨c', reconnected⟩, reconnect, matches₂⟩ := policy.reconnectRun c
    refine ⟨events, ending, created, c', reconnected, policy, ?_, creation, matches₁, reconnect,
      matches₂, matches₂.connected_iff⟩
    intro events' ending' policy'
    exact Prod.mk.inj (Option.some.inj (policy'.run.symm.trans policy.run))
  · intro ms l run
    have books : l.Books := ConnectionLife.Books.run ⟨rfl, fun _ => rfl⟩ run
    refine ⟨books.owned, ?_, fun closed => books.owned_nil (by rw [closed]; rfl)⟩
    rw [books.owned]
    cases l.conn.handle <;> simp

/-- A connection that is dialed at the second attempt, reconnected and closed. -/
def reconnectedOnce : List LifeMove :=
  [.newConnectionWithRetry, .loop none .check,
    .loop none (.dialed (.error (.mqReturn ⟨2, 2059, "MQRC_Q_MGR_NOT_AVAILABLE"⟩))),
    .loop none .fired, .loop none .check, .loop none (.dialed (.ok 7)), .reconnect,
    .loop none .check, .loop none (.dialed (.ok 8)), .close none]

theorem one_retry_policy_reconnected_once : ∃ l,
    ConnectionLife.run ClientConfig.minimal.cfg {} reconnectedOnce = some l ∧ l.pc = .closed ∧
      l.owned = [] := by
  obtain ⟨l, run, closed⟩ : ∃ l,
      ConnectionLife.run ClientConfig.minimal.cfg {} reconnectedOnce = some l ∧ l.pc = .closed :=
    ⟨_, rfl, rfl⟩
  exact ⟨l, run, closed, ((one_retry_policy ClientConfig.minimal.cfg).2 _ l run).2.2 closed⟩

end CommonsMQ
