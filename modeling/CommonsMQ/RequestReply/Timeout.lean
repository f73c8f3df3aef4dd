import CommonsMQ.Lifetime

/-! # How long a request waits for its reply

The timeout is counted in whole milliseconds and narrowed to 32 bits before it is
looked at: nothing is capped, and what does not fit wraps around. A wait that wraps is
still positive, and no call times out early unless its timeout does not fit.
-/

namespace CommonsMQ

open Interleave

/-- The interval of the `MQGET` in which a call waits. -/
def RRPc.wait : RRPc → Option ℤ
  | .fixed (.get _ wait) | .temp (.get _ wait) => some wait
  | _ => none

/-- A new client in either mode. -/
def RequestReplyMode.newClient (mode : RequestReplyMode) (client : ClientConfig)
    (requestQueue replyQueue : String) (opts : List RROption) : RequestReplyClient :=
  match mode with
  | .temporaryQueue => newRequestReplyClient client requestQueue opts
  | .fixedQueueSelector => newRequestReplyClientFixed client requestQueue replyQueue opts

/-- `c` is a state of a client in this mode, with any calls on it. -/
def RequestReplyMode.Reaches (mode : RequestReplyMode) (c : RRConfig) : Prop :=
  ∃ client requestQueue replyQueue opts ms,
    requestReplyProgram.exec ⟨mode.newClient client requestQueue replyQueue opts, []⟩ ms = some c

/-- Some call with this timeout waits for so many milliseconds. -/
def RequestReplyMode.Waits (mode : RequestReplyMode) (timeout wait : ℤ) : Prop :=
  ∃ (c : RRConfig) (i : Nat) (call : RRCall), mode.Reaches c ∧
    c.threads[i]? = some (.call call) ∧ call.timeout = timeout ∧ call.pc.wait = some wait

/-- Some call with this timeout comes to report `ErrTimeout` after `elapsed` nanoseconds.
    `MQGET` does not say that there is no message before its interval is over. -/
def RequestReplyMode.TimesOut (mode : RequestReplyMode) (timeout elapsed : ℤ) : Prop :=
  ∃ (c c' : RRConfig) (i : Nat) (call call' : RRCall) (m : RRMove), mode.Reaches c ∧
    c.threads[i]? = some (.call call) ∧ call.timeout = timeout ∧
    call.pc ≠ .record (.error ErrTimeout) ∧
    requestReplyProgram.next c m = some c' ∧ c'.threads[i]? = some (.call call') ∧
    call'.pc = .record (.error ErrTimeout) ∧
    ∀ wait, call.pc.wait = some wait → wait * 1000000 ≤ elapsed

/-! ## The interval of a waiting call -/

theorem FixedStep.wait {spec replyQueue pc answer put out} {key : MsgId} {wait : ℤ}
    (step : FixedStep spec replyQueue pc answer put out) (next : out = .running (.get key wait)) :
    wait = waitInterval spec.timeout := by
  cases step with
  | put =>
      cases next
      rfl
  | failed | panicked | generated | created | openedReply | openedRequest | putFailed | got
    | getFailed => cases next

theorem TempStep.wait {spec pc answer put out} {replyQueue : String} {wait : ℤ}
    (step : TempStep spec pc answer put out) (next : out = .running (.get replyQueue wait)) :
    wait = waitInterval spec.timeout := by
  cases step with
  | put =>
      cases next
      rfl
  | failed | panicked | openedReply | created | openedRequest | putFailed | got | getFailed =>
      cases next

/-- A waiting call waits for what its timeout gives. -/
def RRCall.Timed (call : RRCall) : Prop :=
  ∀ wait, call.pc.wait = some wait → wait = waitInterval call.timeout

theorem RequestReplyClient.flow_wait (r : RequestReplyClient) : r.flow.wait = none := by
  simp only [flow]
  split <;> rfl

theorem RequestStep.timed {r r' : RequestReplyClient} {call call' : RRCall} {pc answer}
    (step : RequestStep r call pc answer r' call') : call'.Timed := by
  intro wait waits
  cases step with
  | done | live | refused | passed | dialFailed | markDialFailed | recorded | closed | unwound =>
      cases waits
  | dialed =>
      rw [RequestReplyClient.flow_wait] at waits
      cases waits
  | @fixed _ _ _ out stepped =>
      cases out with
      | returned | panicked => cases waits
      | running pc =>
          cases pc with
          | get key w =>
              cases waits
              exact (requestReplyViaFixedQueue_step stepped).wait rfl
          | generate | runCreator | openReply | openRequest | mqput => cases waits
  | @temp _ _ _ out stepped =>
      cases out with
      | returned | panicked => cases waits
      | running pc =>
          cases pc with
          | get replyQueue w =>
              cases waits
              exact (requestReplyViaTempQueue_step stepped).wait rfl
          | openReply | runCreator | openRequest | mqput => cases waits

def RRThread.Timed : RRThread → Prop
  | .call running => running.Timed
  | .probe _ | .close _ => True

theorem RRStep.timed {r r' : RequestReplyClient} {t t' : RRThread} {answer}
    (step : RRStep r t answer r' t') (before : t.Timed) : t'.Timed := by
  cases step with
  | cancelled => exact before
  | called inner => exact (requestReplyWithCreator_step inner).timed
  | probed | closed => trivial

theorem RequestReplyMode.Reaches.timed {mode : RequestReplyMode} {c : RRConfig} {i : Nat}
    {call : RRCall} (reached : mode.Reaches c) (found : c.threads[i]? = some (.call call)) :
    call.Timed := by
  obtain ⟨client, requestQueue, replyQueue, opts, ms, run⟩ := reached
  refine Program.exec_position (G := fun _ => True) (Q := fun _ t => t.Timed) ?_ ?_ trivial
    (by simp) run (.call call) found
  · intro _ request _
    cases request with
    | requestReply => exact nofun
    | health | close => trivial
  · intro s t a s' t' started _ stepped
    obtain ⟨moved, rfl⟩ := requestReplyProgram_step stepped
    exact ⟨trivial, fun _ kept => kept, moved.timed, by simp⟩

/-! ## Reporting the timeout -/

theorem wrappedCreator_ne_timeout {spec prepared answer} :
    wrappedCreator spec prepared answer ≠ some (.returned (.error ErrTimeout)) := by
  intro h
  unfold wrappedCreator at h
  split at h
  · split at h
    · split at h <;> simp [creatorFailure] at h
    · cases h
  · split at h <;> cases h
  · split at h <;> cases h
  · cases h

theorem correlationKey_ne_timeout {generated : MsgId} {correlationID : String} :
    correlationKey generated correlationID ≠ .error ErrTimeout := by
  intro rejected
  unfold correlationKey at rejected
  split at rejected
  · cases rejected
  · split at rejected
    · cases rejected
    · split at rejected <;> cases rejected

/-- Only a reply queue that stayed empty makes a flow return `ErrTimeout` itself. -/
theorem requestReplyViaFixedQueue_timeout {spec replyQueue pc answer put}
    (h : requestReplyViaFixedQueue spec replyQueue pc answer =
      some (put, .returned (.error ErrTimeout))) : ∃ key wait, pc = .get key wait := by
  unfold requestReplyViaFixedQueue at h
  split at h
  case h_3 =>
      dsimp only at h
      split at h
      · cases h
      · cases h
      · rename_i returned
        cases h
        exact absurd returned wrappedCreator_ne_timeout
      · split at h
        · rename_i rejected
          cases h
          exact absurd rejected correlationKey_ne_timeout
        · cases h
  case h_11 => exact ⟨_, _, rfl⟩
  all_goals simp [flowFailure] at h

theorem requestReplyViaTempQueue_timeout {spec pc answer put}
    (h : requestReplyViaTempQueue spec pc answer = some (put, .returned (.error ErrTimeout))) :
    ∃ replyQueue wait, pc = .get replyQueue wait := by
  unfold requestReplyViaTempQueue at h
  split at h
  case h_3 =>
      dsimp only at h
      split at h
      · cases h
      · cases h
      · rename_i returned
        cases h
        exact absurd returned wrappedCreator_ne_timeout
      · cases h
  case h_9 => exact ⟨_, _, rfl⟩
  all_goals simp [flowFailure] at h

theorem RequestStep.waited {r r' : RequestReplyClient} {call call' : RRCall} {pc answer}
    (step : RequestStep r call pc answer r' call')
    (reports : call'.pc = .record (.error ErrTimeout)) : ∃ wait, pc.wait = some wait := by
  cases step with
  | done | live | refused | passed | dialFailed | markDialFailed | recorded | closed | unwound =>
      cases reports
  | dialed =>
      simp only [RequestReplyClient.flow] at reports
      split at reports <;> cases reports
  | @fixed _ _ _ out stepped =>
      cases out with
      | running | panicked => cases reports
      | returned result =>
          cases reports
          obtain ⟨key, wait, rfl⟩ := requestReplyViaFixedQueue_timeout stepped
          exact ⟨wait, rfl⟩
  | @temp _ _ _ out stepped =>
      cases out with
      | running | panicked => cases reports
      | returned result =>
          cases reports
          obtain ⟨replyQueue, wait, rfl⟩ := requestReplyViaTempQueue_timeout stepped
          exact ⟨wait, rfl⟩

namespace RequestReplyMode

variable {mode : RequestReplyMode} {timeout : ℤ}

/-- A call that times out has waited. -/
theorem TimesOut.waits {elapsed : ℤ} (late : mode.TimesOut timeout elapsed) :
    ∃ wait, mode.Waits timeout wait ∧ wait * 1000000 ≤ elapsed := by
  obtain ⟨c, c', i, call, call', m, reached, found, given, running, moved, at_i, reports, past⟩ :=
    late
  obtain ⟨-, kept⟩ | ⟨a, t', started, rfl, stepped, at_i'⟩ := Program.next_at found moved
  · cases kept.symm.trans at_i
    exact absurd reports running
  · cases at_i'.symm.trans at_i
    generalize c'.shared = r' at stepped
    cases (requestReplyProgram_step stepped).1 with
    | cancelled => exact absurd reports running
    | called inner =>
        obtain ⟨wait, waits⟩ := (requestReplyWithCreator_step inner).waited reports
        exact ⟨wait, ⟨c, i, call, reached, found, given, waits⟩, past wait waits⟩

/-- A client on which one call has dialed and stands at `pc`. -/
def inFlow (mode : RequestReplyMode) (timeout : ℤ) (pc : RRPc) : RRConfig :=
  ⟨{ mode.newClient .minimal "QUOTES" "REPLIES" [] with live := [7] },
    [.call { ctx := none, timeout := timeout, hasCreator := true, span := none, pc := pc
             conn := (Connection.new.dial ClientConfig.minimal.cfg (.ok 7)).1 }]⟩

/-- The moves with which that call comes to open its last queue; its creator leaves no
    correlation ID. -/
def opens (mode : RequestReplyMode) (timeout : ℤ) : List RRMove :=
  [.call (.requestReply none timeout true none), .act 0 .go, .act 0 .go,
    .act 0 (.dialed (.ok 7))] ++
  match mode with
  | .temporaryQueue => [.act 0 (.openedDynamic "AMQ.1"), .act 0 (.created (.ok .fresh))]
  | .fixedQueueSelector => [.act 0 (.random (.ok .zero)), .act 0 (.created (.ok .fresh)),
      .act 0 (.opened none)]

def opening : RequestReplyMode → RRPc
  | .temporaryQueue => .temp (.openRequest "AMQ.1" .fresh)
  | .fixedQueueSelector => .fixed (.openRequest .zero .fresh)

theorem exec_opens (mode : RequestReplyMode) (timeout : ℤ) :
    requestReplyProgram.exec ⟨mode.newClient .minimal "QUOTES" "REPLIES" [], []⟩
      (mode.opens timeout) = some (mode.inFlow timeout mode.opening) := by
  cases mode with
  | temporaryQueue => rfl
  | fixedQueueSelector => rfl

/-- From there it puts its request and waits. -/
def puts : List RRMove := [.act 0 (.opened none), .act 0 (.putOk .zero)]

theorem exec_puts (mode : RequestReplyMode) (timeout : ℤ) : ∃ c call,
    requestReplyProgram.exec (mode.inFlow timeout mode.opening) puts = some c ∧
      c.threads[0]? = some (.call call) ∧ call.timeout = timeout ∧
      call.pc.wait = some (waitInterval timeout) := by
  cases mode with
  | temporaryQueue => exact ⟨_, _, rfl, rfl, rfl, rfl⟩
  | fixedQueueSelector => exact ⟨_, _, rfl, rfl, rfl, rfl⟩

theorem exists_waits (mode : RequestReplyMode) (timeout : ℤ) :
    mode.Waits timeout (waitInterval timeout) := by
  obtain ⟨c, call, run, found, given, waits⟩ := mode.exec_puts timeout
  exact ⟨c, 0, call, ⟨_, _, _, _, _, Program.exec_trans (mode.exec_opens timeout) run⟩, found,
    given, waits⟩

/-- The answer of `MQGET` when its interval is over. -/
def noMessage : GoError := .mqReturn ⟨2, noMsgAvailable, "MQRC_NO_MSG_AVAILABLE"⟩

theorem exists_timesOut (mode : RequestReplyMode) (timeout : ℤ) :
    mode.TimesOut timeout (waitInterval timeout * 1000000) := by
  have reach : ∀ c, requestReplyProgram.exec (mode.inFlow timeout mode.opening) puts = some c →
      mode.Reaches c := fun c run =>
    ⟨_, _, _, _, _, Program.exec_trans (mode.exec_opens timeout) run⟩
  cases mode with
  | temporaryQueue =>
      refine ⟨_, _, 0, _, _, .act 0 (.getFailed noMessage), reach _ rfl, rfl, rfl, nofun, rfl, rfl,
        rfl, ?_⟩
      rintro wait ⟨⟩
      exact le_rfl
  | fixedQueueSelector =>
      refine ⟨_, _, 0, _, _, .act 0 (.getFailed noMessage), reach _ rfl, rfl, rfl, nofun, rfl, rfl,
        rfl, ?_⟩
      rintro wait ⟨⟩
      exact le_rfl

theorem waits_iff {wait : ℤ} : mode.Waits timeout wait ↔ wait = waitInterval timeout := by
  constructor
  · rintro ⟨c, i, call, reached, found, rfl, waits⟩
    exact reached.timed found wait waits
  · rintro rfl
    exact exists_waits mode timeout

end RequestReplyMode

/-! ## The interval and the timeout -/

/-- The timeout in whole milliseconds. -/
def milliseconds (timeout : ℤ) : ℤ := timeout.tdiv 1000000

theorem milliseconds_bounds (timeout : ℤ) :
    timeout - 1000000 < milliseconds timeout * 1000000 ∧
      milliseconds timeout * 1000000 < timeout + 1000000 := by
  have parts := Int.tmod_add_mul_tdiv timeout 1000000
  have low := Int.lt_tmod_of_pos timeout (b := 1000000) (by omega)
  have high := Int.tmod_lt_of_pos timeout (b := 1000000) (by omega)
  simp only [milliseconds]
  omega

/-- What the interval should be: the timeout in whole milliseconds, at least one and at
    most what 32 bits hold. -/
def cappedWait (timeout : ℤ) : ℤ := min (max 1 (milliseconds timeout)) (2 ^ 31 - 1)

/-- The milliseconds fit into 32 bits, or wrap around to what the cap would give. -/
def FitsWait (timeout : ℤ) : Prop :=
  (-2 ^ 31 ≤ milliseconds timeout ∧ milliseconds timeout < 2 ^ 31) ∨
  (2 ^ 31 ≤ milliseconds timeout ∧ milliseconds timeout % 2 ^ 32 = 2 ^ 31 - 1) ∨
  (milliseconds timeout < -2 ^ 31 ∧
    (milliseconds timeout % 2 ^ 32 ≤ 1 ∨ 2 ^ 31 ≤ milliseconds timeout % 2 ^ 32))

instance (timeout : ℤ) : Decidable (FitsWait timeout) :=
  inferInstanceAs (Decidable (_ ∨ _ ∨ _))

theorem waitInterval_pos (timeout : ℤ) : 0 < waitInterval timeout := by
  simp only [waitInterval]
  split <;> omega

theorem waitInterval_of_fits {timeout : ℤ} (low : -2 ^ 31 ≤ milliseconds timeout)
    (high : milliseconds timeout < 2 ^ 31) :
    waitInterval timeout = max 1 (milliseconds timeout) := by
  have narrow : toInt32 (timeout.tdiv 1000000) = milliseconds timeout := toInt32_of_fits low high
  rw [waitInterval, narrow]
  split <;> omega

theorem waitInterval_eq_cappedWait_iff (timeout : ℤ) :
    waitInterval timeout = cappedWait timeout ↔ FitsWait timeout := by
  by_cases fits : -2 ^ 31 ≤ milliseconds timeout ∧ milliseconds timeout < 2 ^ 31
  · rw [waitInterval_of_fits fits.1 fits.2, cappedWait, min_eq_left (by omega)]
    exact iff_of_true rfl (.inl fits)
  · simp only [waitInterval, cappedWait, FitsWait, fits, false_or]
    change (if toInt32 (milliseconds timeout) ≤ 0 then 1
      else toInt32 (milliseconds timeout)) = _ ↔ _
    generalize milliseconds timeout = ms at fits
    simp only [toInt32, Int.bmod]
    split <;> split <;> omega

theorem cappedWait_mono {shorter longer : ℤ} (le : shorter ≤ longer) :
    cappedWait shorter ≤ cappedWait longer := by
  have ms : milliseconds shorter ≤ milliseconds longer := Int.tdiv_le_tdiv (by omega) le
  simp only [cappedWait]
  omega

/-- A timeout that does not exceed the cap is waited out to the last whole millisecond. -/
theorem lt_waitInterval {timeout : ℤ} (within : timeout ≤ (2 ^ 31 - 1) * 1000000) :
    timeout - 1000000 < waitInterval timeout * 1000000 := by
  obtain ⟨short, long⟩ := milliseconds_bounds timeout
  by_cases low : -2 ^ 31 ≤ milliseconds timeout
  · rw [waitInterval_of_fits low (by omega)]
    omega
  · have positive := waitInterval_pos timeout
    omega

/-- On either mode the interval is the capped timeout exactly if the milliseconds fit or
    happen to wrap around to it. It is positive in any case, it grows with the timeouts
    for which it is right, and no call times out more than a millisecond early unless its
    timeout exceeds the cap. -/
theorem wait_capped_iff (mode : RequestReplyMode) (timeout : ℤ) :
    (∃ wait, mode.Waits timeout wait) ∧
    ((∀ wait, mode.Waits timeout wait → wait = cappedWait timeout) ↔ FitsWait timeout) ∧
    (∀ wait, mode.Waits timeout wait → 0 < wait) ∧
    (FitsWait timeout → ∀ shorter ≤ timeout, FitsWait shorter → ∀ wait short,
      mode.Waits timeout wait → mode.Waits shorter short → short ≤ wait) ∧
    ∀ elapsed, mode.TimesOut timeout elapsed →
      timeout - 1000000 < elapsed ∨ (2 ^ 31 - 1) * 1000000 < timeout := by
  refine ⟨⟨_, mode.exists_waits timeout⟩, ?_, ?_, ?_, ?_⟩
  · simp only [RequestReplyMode.waits_iff, forall_eq]
    exact waitInterval_eq_cappedWait_iff timeout
  · intro wait waits
    rw [RequestReplyMode.waits_iff.mp waits]
    exact waitInterval_pos timeout
  · intro fits shorter le short_fits wait short waits short_waits
    rw [RequestReplyMode.waits_iff.mp waits, RequestReplyMode.waits_iff.mp short_waits,
      (waitInterval_eq_cappedWait_iff timeout).mpr fits,
      (waitInterval_eq_cappedWait_iff shorter).mpr short_fits]
    exact cappedWait_mono le
  · intro elapsed late
    obtain ⟨wait, waits, past⟩ := late.waits
    rw [RequestReplyMode.waits_iff.mp waits] at past
    by_cases within : timeout ≤ (2 ^ 31 - 1) * 1000000
    · have enough := lt_waitInterval within
      exact .inl (by omega)
    · exact .inr (by omega)

/-- Five seconds are waited for as five thousand milliseconds, and a call without a reply
    times out after that, but not after four seconds. -/
theorem wait_capped_five_seconds :
    FitsWait 1000000000 ∧ FitsWait 5000000000 ∧
    (∀ wait, RequestReplyMode.fixedQueueSelector.Waits 5000000000 wait → wait = 5000 ∧ 0 < wait ∧
      ∀ short, RequestReplyMode.fixedQueueSelector.Waits 1000000000 short → short ≤ wait) ∧
    RequestReplyMode.fixedQueueSelector.Waits 5000000000 5000 ∧
    RequestReplyMode.fixedQueueSelector.TimesOut 5000000000 5000000000 ∧
    ¬RequestReplyMode.fixedQueueSelector.TimesOut 5000000000 4000000000 := by
  have shortFits : FitsWait 1000000000 := by decide
  have fits : FitsWait 5000000000 := by decide
  obtain ⟨-, capped, positive, mono, patient⟩ :=
    wait_capped_iff .fixedQueueSelector 5000000000
  refine ⟨shortFits, fits, ?_, ?_, ?_, ?_⟩
  · intro wait waits
    exact ⟨capped.mpr fits wait waits, positive wait waits,
      fun short => mono fits 1000000000 (by decide) shortFits wait short waits⟩
  · exact RequestReplyMode.waits_iff.mpr (by decide)
  · exact RequestReplyMode.fixedQueueSelector.exists_timesOut 5000000000
  · intro early
    have late := patient 4000000000 early
    omega

/-- Twenty-five days are waited for as a millisecond, less than a single second is, and a
    timeout that far in the past for almost as many days. -/
theorem wait_wraps :
    (cappedWait 2147483648000000 = 2147483647 ∧ cappedWait (-2147483649000000) = 1) ∧
    ∀ mode : RequestReplyMode, mode.Waits 2147483648000000 1 ∧ mode.Waits 1000000000 1000 ∧
      mode.Waits (-2147483649000000) 2147483647 := by
  simp only [RequestReplyMode.waits_iff]
  exact ⟨by decide, fun _ => by decide⟩

end CommonsMQ
