import CommonsMQ.Config

/-! # One MQ connection and its two retry loops

The loops are given one step at a time, because other goroutines run between a
check of the context, a dial and a wait. The caller supplies the outcome of the
dial and which arm of a wait was taken; the context is read when the step runs.
-/

namespace CommonsMQ

abbrev Handle := Nat

/-- `handle` is what `queueManager` holds; `MQDISC` leaves it unusable. -/
structure Connection where
  handle : Option Handle
  state : ConnectionState
  lastError : Option GoError := none

/-- `&connection{config: cfg, state: StateReconnecting}`. -/
def Connection.new : Connection := { handle := none, state := .reconnecting }

namespace Connection

/-- `dial`, given the answer of `ibmmq.Connx`. -/
def dial (cfg : Config) (c : Connection) : Except GoError Handle → Connection × Option GoError
  | .error err =>
      ({ c with state := .failed, lastError := some err },
        some (.wrap ("commons-mq-go: failed to connect to queue manager " ++
          quote cfg.queueManagerName ++ " on " ++ quote cfg.connectionName ++ ": " ++
          (sanitizeError err).text) [sanitizeError err]))
  | .ok handle =>
      ({ c with handle := some handle, state := .connected, lastError := none }, none)

/-- `Disc` releases the handle. -/
def disc (c : Connection) : Connection := { c with handle := none }

/-- `Close`, given the answer of `Disc`. -/
def close (cfg : Config) (c : Connection) (answer : Option GoError) :
    Connection × Option GoError :=
  ({ c with state := .failed, handle := none }, answer.map fun err =>
    .wrap ("commons-mq-go: failed to disconnect from queue manager " ++
      quote cfg.queueManagerName ++ ": " ++ (sanitizeError err).text) [sanitizeError err])

end Connection

/-- Dials that a retry loop makes at most. -/
def Config.attempts (cfg : Config) : Nat :=
  if cfg.maxRetries < 1 then 1 else cfg.maxRetries.toNat

/-- Where a retry loop stands in iteration `attempt`. -/
inductive LoopPc where
  | head (attempt : Nat)
  | dial (attempt : Nat)
  | wait (attempt : Nat)
  deriving Repr, DecidableEq

inductive LoopAnswer where
  /-- `ctx.Err()` is read. -/
  | check
  | dialed (answer : Except GoError Handle)
  /-- The timer of the wait fires. -/
  | fired
  /-- The wait ends through `ctx.Done()`. -/
  | interrupted

/-- One step of `newConnectionWithRetry`. -/
def newConnectionWithRetry (cfg : Config) (ctx : Option CtxErr) :
    LoopPc → LoopAnswer → Option (LoopPc ⊕ Except GoError Connection)
  | .head n, .check =>
      match ctx with
      | some e => some (.inr (.error (.context e)))
      | none => some (.inl (.dial n))
  | .dial n, .dialed answer =>
      match Connection.new.dial cfg answer with
      | (c, none) => some (.inr (.ok c))
      | (_, some lastErr) =>
          if n + 1 < cfg.attempts then some (.inl (.wait n))
          else some (.inr (.error (.wrap (ErrConnectionFailed.text ++ ": queue manager " ++
            quote cfg.queueManagerName ++ " failed to connect after " ++
            toString cfg.attempts ++ " attempts: " ++ lastErr.text)
            [ErrConnectionFailed, lastErr])))
  | .wait n, .fired => some (.inl (.head (n + 1)))
  | .wait _, .interrupted => ctx.map fun e => .inr (.error (.context e))
  | _, _ => none

/-- One step of `Reconnect`, after it has set `StateReconnecting`. -/
def Connection.reconnect (cfg : Config) (ctx : Option CtxErr) (c : Connection) :
    LoopPc → LoopAnswer → Option (Connection × (LoopPc ⊕ Option GoError))
  | .head n, .check =>
      match ctx with
      | some e => some (c, .inr (some (.context e)))
      | none => some (c.disc, .inl (.dial n))
  | .dial n, .dialed answer =>
      match c.dial cfg answer with
      | (c, none) => some (c, .inr none)
      | (c, some lastErr) =>
          if n + 1 < cfg.attempts then some (c, .inl (.wait n))
          else some ({ c with state := .failed }, .inr (some (.wrap (ErrConnectionFailed.text ++
            ": queue manager " ++ quote cfg.queueManagerName ++ " exhausted " ++
            toString cfg.attempts ++ " reconnect attempts: " ++ lastErr.text)
            [ErrConnectionFailed, lastErr])))
  | .wait n, .fired => some (c, .inl (.head (n + 1)))
  | .wait _, .interrupted => ctx.map fun e => (c, .inr (some (.context e)))
  | _, _ => none

/-- A connection that the first loop returns is live: it has just been dialed. -/
theorem newConnectionWithRetry_ok {cfg ctx pc answer} {c : Connection}
    (h : newConnectionWithRetry cfg ctx pc answer = some (.inr (.ok c))) :
    ∃ n handle, pc = .dial n ∧ answer = .dialed (.ok handle) ∧ c.handle = some handle ∧
      c.state = .connected := by
  unfold newConnectionWithRetry at h
  split at h
  · split at h <;> simp at h
  · rename_i n answer
    cases answer with
    | error err =>
        simp only [Connection.dial] at h
        split at h <;> simp at h
    | ok handle =>
        simp only [Connection.dial, Option.some.injEq, Sum.inr.injEq, Except.ok.injEq] at h
        subst h
        exact ⟨n, handle, rfl, rfl, rfl, rfl⟩
  · simp at h
  · simp [Option.map_eq_some_iff] at h
  · simp at h

/-- How one step of `Reconnect` can change the connection's handle. -/
inductive HandleChange (before after : Connection) : LoopAnswer → Prop where
  | kept {answer} : after.handle = before.handle →
      (∀ handle, answer ≠ .dialed (.ok handle)) → HandleChange before after answer
  | released : after.handle = none → HandleChange before after .check
  | dialed {handle} : after.handle = some handle →
      HandleChange before after (.dialed (.ok handle))

theorem Connection.reconnect_handle {cfg ctx pc answer out} {c c' : Connection}
    (h : c.reconnect cfg ctx pc answer = some (c', out)) : HandleChange c c' answer := by
  unfold reconnect at h
  split at h
  · split at h
    · simp only [Option.some.injEq, Prod.mk.injEq] at h
      exact .kept (by rw [← h.1]) (by simp)
    · simp only [Option.some.injEq, Prod.mk.injEq] at h
      exact .released (by rw [← h.1]; rfl)
  · rename_i n answer
    cases answer with
    | error err =>
        simp only [dial] at h
        split at h <;> simp only [Option.some.injEq, Prod.mk.injEq] at h <;>
          exact .kept (by rw [← h.1]) (by simp)
    | ok handle =>
        simp only [dial, Option.some.injEq, Prod.mk.injEq] at h
        exact .dialed (by rw [← h.1])
  · simp only [Option.some.injEq, Prod.mk.injEq] at h
    exact .kept (by rw [← h.1]) (by simp)
  · simp only [Option.map_eq_some_iff, Prod.mk.injEq] at h
    obtain ⟨e, -, same, -⟩ := h
    exact .kept (by rw [same]) (by simp)
  · simp at h

/-- `Reconnect` returns `nil` only with a connection that it has just dialed. -/
theorem Connection.reconnect_ok {cfg ctx pc answer} {c c' : Connection}
    (h : c.reconnect cfg ctx pc answer = some (c', .inr none)) :
    c'.state = .connected := by
  unfold reconnect at h
  split at h
  · split at h <;> simp at h
  · rename_i n answer
    cases answer with
    | error err =>
        simp only [dial] at h
        split at h <;> simp at h
    | ok handle =>
        simp only [dial, Option.some.injEq, Prod.mk.injEq] at h
        rw [← h.1]
  · simp at h
  · simp [Option.map_eq_some_iff] at h
  · simp at h

/-! ## The course of a retry loop -/

/-- What one step of either loop can do, for at most `attempts` dials. -/
inductive LoopStep (attempts : Nat) (ctx : Option CtxErr) :
    LoopPc → LoopAnswer → LoopPc ⊕ Option GoError → Prop where
  | checked {n} : ctx = none → LoopStep attempts ctx (.head n) .check (.inl (.dial n))
  | cancelled {n e} : ctx = some e →
      LoopStep attempts ctx (.head n) .check (.inr (some (.context e)))
  | connected {n handle} : LoopStep attempts ctx (.dial n) (.dialed (.ok handle)) (.inr none)
  | refused {n err} : n + 1 < attempts →
      LoopStep attempts ctx (.dial n) (.dialed (.error err)) (.inl (.wait n))
  | exhausted {n err failure} : attempts ≤ n + 1 → failure.is .connectionFailed = true →
      LoopStep attempts ctx (.dial n) (.dialed (.error err)) (.inr (some failure))
  | waited {n} : LoopStep attempts ctx (.wait n) .fired (.inl (.head (n + 1)))
  | interrupted {n e} : ctx = some e →
      LoopStep attempts ctx (.wait n) .interrupted (.inr (some (.context e)))

theorem is_connectionFailed (text : String) (err : GoError) :
    (GoError.wrap text [ErrConnectionFailed, err]).is .connectionFailed = true := by
  simp [GoError.is, GoError.isList]

theorem newConnectionWithRetry_step {cfg ctx pc answer out}
    (h : newConnectionWithRetry cfg ctx pc answer = some out) :
    LoopStep cfg.attempts ctx pc answer
      (out.map id fun | .ok _ => none | .error err => some err) := by
  unfold newConnectionWithRetry at h
  split at h
  · split at h
    · obtain rfl := Option.some.inj h
      exact .cancelled rfl
    · obtain rfl := Option.some.inj h
      exact .checked rfl
  · rename_i n answer
    cases answer with
    | ok handle =>
        obtain rfl := Option.some.inj h
        exact .connected
    | error err =>
        simp only [Connection.dial] at h
        split at h
        · obtain rfl := Option.some.inj h
          exact .refused ‹_›
        · obtain rfl := Option.some.inj h
          exact .exhausted (not_lt.mp ‹_›) (is_connectionFailed _ _)
  · obtain rfl := Option.some.inj h
    exact .waited
  · obtain ⟨e, here, rfl⟩ := Option.map_eq_some_iff.mp h
    exact .interrupted here
  · cases h

theorem Connection.reconnect_step {cfg ctx pc answer out} {c c' : Connection}
    (h : c.reconnect cfg ctx pc answer = some (c', out)) :
    LoopStep cfg.attempts ctx pc answer out := by
  unfold reconnect at h
  split at h
  · split at h
    · obtain ⟨rfl, rfl⟩ := h
      exact .cancelled rfl
    · obtain ⟨rfl, rfl⟩ := h
      exact .checked rfl
  · rename_i n answer
    cases answer with
    | ok handle =>
        obtain ⟨rfl, rfl⟩ := h
        exact .connected
    | error err =>
        simp only [dial] at h
        split at h
        · obtain ⟨rfl, rfl⟩ := h
          exact .refused ‹_›
        · obtain ⟨rfl, rfl⟩ := h
          exact .exhausted (not_lt.mp ‹_›) (is_connectionFailed _ _)
  · obtain ⟨rfl, rfl⟩ := h
    exact .waited
  · obtain ⟨e, here, same⟩ := Option.map_eq_some_iff.mp h
    obtain ⟨rfl, rfl⟩ := same
    exact .interrupted here
  · cases h

/-! ## The handles of the queue manager -/

/-- The handles that are live without the one of `c`. -/
def unlive (live : List Handle) (c : Connection) : List Handle :=
  match c.handle with
  | none => live
  | some handle => live.erase handle

/-- The handles that are live after `c` became `c'`. The queue manager gives out no
    handle that is still live. -/
def relive (live : List Handle) (c c' : Connection) : Option (List Handle) :=
  match c'.handle with
  | none => some (unlive live c)
  | some handle => if handle ∈ unlive live c then none else some (handle :: unlive live c)

/-- Whether connection `c` has `handle`, as a number to be added up. -/
def Connection.owns (handle : Handle) (c : Connection) : ℤ :=
  if c.handle = some handle then 1 else 0

theorem Connection.owns_nonneg (handle : Handle) (c : Connection) : 0 ≤ c.owns handle := by
  unfold owns
  split <;> omega

theorem unlive_count {live : List Handle} {c : Connection} {handle : Handle}
    (own : ∀ handle, c.handle = some handle → handle ∈ live) :
    ((unlive live c).count handle : ℤ) = live.count handle - c.owns handle := by
  unfold unlive
  cases before : c.handle with
  | none => simp [Connection.owns, before]
  | some old =>
      have member := List.count_pos_iff.mpr (own old before)
      by_cases same : old = handle
      · subst same
        simp only [List.count_erase_self, Connection.owns, before, if_true]
        omega
      · simp [List.count_erase_of_ne (Ne.symm same), Connection.owns, before, same]

/-- A change of one connection changes the books by that connection's handle. -/
theorem relive_count {live live' : List Handle} {c c' : Connection}
    (own : ∀ handle, c.handle = some handle → handle ∈ live)
    (changed : relive live c c' = some live') (handle : Handle) :
    (live'.count handle : ℤ) = live.count handle + c'.owns handle - c.owns handle := by
  have rest := @unlive_count live c handle own
  unfold relive at changed
  split at changed
  · obtain rfl := Option.some.inj changed
    have gone : c'.owns handle = 0 := by simp [Connection.owns, *]
    omega
  · rename_i new after
    split at changed
    · cases changed
    · obtain rfl := Option.some.inj changed
      have counted : c'.owns handle = if new = handle then 1 else 0 := by
        simp [Connection.owns, after]
      simp only [List.count_cons, beq_iff_eq, counted]
      split <;> omega

theorem relive_nodup {live live' : List Handle} {c c' : Connection} (distinct : live.Nodup)
    (changed : relive live c c' = some live') : live'.Nodup := by
  have rest : (unlive live c).Nodup := by
    unfold unlive
    split
    · exact distinct
    · exact distinct.erase _
  unfold relive at changed
  split at changed
  · exact Option.some.inj changed ▸ rest
  · split at changed
    · cases changed
    · obtain rfl := Option.some.inj changed
      exact List.nodup_cons.mpr ⟨‹_›, rest⟩

theorem relive_isSome {live : List Handle} {c c' : Connection} (distinct : live.Nodup)
    (same : c'.handle = none ∨ c'.handle = c.handle) : (relive live c c').isSome := by
  unfold relive
  obtain none | same := same
  · simp [none]
  · cases held : c'.handle with
    | none => rfl
    | some handle =>
        rw [held] at same
        simp [unlive, ← same, distinct.mem_erase_iff]

/-! ## Retry loops come to an end -/

/-- How many steps a retry loop can still make, `start` being more than that at its head. -/
structure LoopRank where
  left : LoopPc → Nat
  start : Nat
  positive : ∀ pc, 1 ≤ left pc
  head : left (.head 0) < start

/-- Every step that stays in a loop of at most `n` dials goes down. -/
def LoopRank.Counts (rank : LoopRank) (n : Nat) (ctx : Option CtxErr) : Prop :=
  ∀ pc answer pc', LoopStep n ctx pc answer (.inl pc') → rank.left pc' < rank.left pc

/-- At most `n` dials, with a look at the context before and a wait after each. -/
def LoopRank.full (n : Nat) : LoopRank where
  left
    | .head k => max 2 (3 * (n - k) - 1)
    | .dial k => max 1 (3 * (n - k) - 2)
    | .wait k => max 3 (3 * (n - k) - 3)
  start := max 3 (3 * n)
  positive pc := by cases pc <;> simp only <;> omega
  head := by simp only; omega

/-- One dial at most if the context is done. -/
def LoopRank.done : LoopRank where
  left
    | .head _ => 1
    | .dial _ => 3
    | .wait _ => 2
  start := 2
  positive pc := by cases pc <;> simp only <;> omega
  head := by simp only; omega

theorem LoopRank.full_counts (n : Nat) (ctx : Option CtxErr) : (full n).Counts n ctx := by
  intro pc answer pc' step
  cases step <;> simp only [full] <;> omega

theorem LoopRank.done_counts {n : Nat} {ctx : Option CtxErr} (ended : ctx.isSome) :
    done.Counts n ctx := by
  intro pc answer pc' step
  cases step with
  | checked live => simp [live] at ended
  | refused | waited => simp [done]

/-- A loop is never kept from going on: if nothing else, the next dial fails. -/
theorem newConnectionWithRetry_goesOn (cfg : Config) (ctx : Option CtxErr) (pc : LoopPc) :
    ∃ answer out, newConnectionWithRetry cfg ctx pc answer = some out ∧
      ∀ c, out ≠ .inr (.ok c) := by
  cases pc with
  | head n =>
      cases ctx with
      | none => exact ⟨.check, _, rfl, by simp⟩
      | some e => exact ⟨.check, _, rfl, by simp⟩
  | dial n =>
      refine ⟨.dialed (.error ErrConnectionFailed), ?_⟩
      simp only [newConnectionWithRetry, Connection.dial]
      split <;> exact ⟨_, rfl, by simp⟩
  | wait n => exact ⟨.fired, _, rfl, by simp⟩

theorem Connection.reconnect_goesOn (cfg : Config) (ctx : Option CtxErr) (c : Connection)
    (pc : LoopPc) : ∃ answer c' out, c.reconnect cfg ctx pc answer = some (c', out) ∧
      (c'.handle = none ∨ c'.handle = c.handle) := by
  cases pc with
  | head n =>
      cases ctx with
      | none => exact ⟨.check, _, _, rfl, .inl rfl⟩
      | some e => exact ⟨.check, _, _, rfl, .inr rfl⟩
  | dial n =>
      refine ⟨.dialed (.error ErrConnectionFailed), ?_⟩
      simp only [reconnect, dial]
      split <;> exact ⟨_, _, rfl, .inr rfl⟩
  | wait n => exact ⟨.fired, _, _, rfl, .inr rfl⟩

end CommonsMQ
