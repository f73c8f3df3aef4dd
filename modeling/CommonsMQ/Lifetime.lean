import CommonsMQ.Correlation

/-! # How long a message lives

The time to live is divided into tenths of a second and then narrowed to 32 bits. What
is shorter than a tenth becomes zero, and what is too long wraps around. The request
flows read only the message's own time to live, not the configured one.
-/

namespace CommonsMQ

open Operation

/-! ## Narrowing -/

section Narrowing

variable {n : ℤ}

theorem toInt32_of_fits (low : -2 ^ 31 ≤ n) (high : n < 2 ^ 31) : toInt32 n = n :=
  Int.bmod_eq_of_le_mul_two (by omega) (by omega)

theorem toInt32_lt (n : ℤ) : toInt32 n < 2 ^ 31 := by
  simp only [toInt32, Int.bmod]
  split <;> omega

/-- The narrowed value is known from the residue. -/
theorem toInt32_eq_iff {k : ℤ} (low : -2 ^ 31 ≤ k) (high : k < 2 ^ 31) :
    toInt32 n = k ↔ n % 2 ^ 32 = k % 2 ^ 32 := by
  simp only [toInt32, Int.bmod]
  split <;> omega

end Narrowing

/-- Tenths of a second in so many nanoseconds. -/
def tenths (ttl : ℤ) : ℤ := ttl / 100000000

theorem expiryOf_of_pos {ttl : ℤ} (positive : 0 < ttl) : expiryOf ttl = toInt32 (tenths ttl) := by
  rw [expiryOf, if_pos positive, tenths, Int.tdiv_eq_ediv_of_nonneg positive.le]

theorem tenths_mono {t u : ℤ} (le : t ≤ u) : tenths t ≤ tenths u :=
  Int.ediv_le_ediv (by omega) le

theorem tenths_nonneg {t : ℤ} (nonneg : 0 ≤ t) : 0 ≤ tenths t :=
  Int.ediv_nonneg nonneg (by omega)

/-! ## What the three operations put -/

/-- What an operation puts has this `Expiry`, and if it goes on it stays within `Carries`. -/
def PutsExpiry {σ ρ : Type} (Carries : σ → Prop) (expiry : ℤ) (out : List Queued)
    (p : Progress σ ρ) : Prop :=
  (∀ queued ∈ out, queued.md.expiry = expiry) ∧ ∀ s, p = .running s → Carries s

/-- The creator has returned, and the message that is left has this time to live. -/
def PutPc.Carries (ttl : ℤ) : PutPc → Prop
  | .mqput msg => msg.ttl = ttl
  | .openQueue | .runCreator => False

def TempPc.Carries (ttl : ℤ) : TempPc → Prop
  | .openRequest _ msg | .mqput _ msg => msg.ttl = ttl
  | .get _ _ => True
  | .openReply | .runCreator _ => False

def FixedPc.Carries (ttl : ℤ) : FixedPc → Prop
  | .openReply _ msg | .openRequest _ msg | .mqput _ msg => msg.ttl = ttl
  | .get _ _ => True
  | .generate | .runCreator _ => False

theorem putOperation_expiry {queueName span} {pos : PutAttempt × PutPc} {a out p} {ttl : ℤ}
    (carries : pos.2.Carries ttl) (stepped : putOperation queueName span pos a = some (out, p)) :
    PutsExpiry (·.2.Carries ttl)
      (expiryOf (if ttl = 0 then a.1.cfg.producerTTL else ttl)) out p := by
  obtain ⟨attempt, pc⟩ := pos
  obtain ⟨s, answer⟩ := a
  obtain ⟨⟨s', attempt', outcome⟩, moved, same⟩ := Option.map_eq_some_iff.mp stepped
  obtain ⟨rfl, rfl⟩ := Prod.mk.inj same
  cases put_step moved with
  | opened | openFailed | noCreator | created | creatorFailed | panicked => exact carries.elim
  | putOk | putUncertain =>
      have carried := carries
      simp only [PutPc.Carries] at carried
      simp [PutsExpiry, Sender.landed, PutOutcome.progress, putDescriptor, carried]
  | putFailed => simp [PutsExpiry, PutOutcome.progress]

@[simp] theorem RequestSpec.queued_expiry (spec : RequestSpec) (replyQueue : String) (key : MsgId)
    (msg : Message Bytes) (id : MsgId) :
    (spec.queued replyQueue key msg id).md.expiry = expiryOf msg.ttl := rfl

theorem tempOperation_expiry {spec} {pc : TempPc} {a out p} {ttl : ℤ} (carries : pc.Carries ttl)
    (stepped : tempOperation spec pc a = some (out, p)) :
    PutsExpiry (TempPc.Carries ttl) (expiryOf ttl) out p := by
  obtain ⟨⟨put, outcome⟩, moved, same⟩ := Option.map_eq_some_iff.mp stepped
  obtain ⟨rfl, rfl⟩ := Prod.mk.inj same
  cases requestReplyViaTempQueue_step moved with
  | panicked | openedReply | created => exact carries.elim
  | failed | got | getFailed => simp [PutsExpiry, FlowOutcome.progress]
  | openedRequest => simpa [PutsExpiry, FlowOutcome.progress, TempPc.Carries] using carries
  | put =>
      simp only [TempPc.Carries] at carries
      simp [PutsExpiry, FlowOutcome.progress, TempPc.Carries, carries]
  | @putFailed _ _ _ landed =>
      simp only [TempPc.Carries] at carries
      cases landed <;> simp [PutsExpiry, FlowOutcome.progress, carries]

theorem fixedOperation_expiry {spec replyQueue} {pc : FixedPc} {a out p} {ttl : ℤ}
    (carries : pc.Carries ttl) (stepped : fixedOperation spec replyQueue pc a = some (out, p)) :
    PutsExpiry (FixedPc.Carries ttl) (expiryOf ttl) out p := by
  obtain ⟨⟨put, outcome⟩, moved, same⟩ := Option.map_eq_some_iff.mp stepped
  obtain ⟨rfl, rfl⟩ := Prod.mk.inj same
  cases requestReplyViaFixedQueue_step moved with
  | panicked | generated | created => exact carries.elim
  | failed | got | getFailed => simp [PutsExpiry, FlowOutcome.progress]
  | openedReply | openedRequest =>
      simpa [PutsExpiry, FlowOutcome.progress, FixedPc.Carries] using carries
  | put =>
      simp only [FixedPc.Carries] at carries
      simp [PutsExpiry, FlowOutcome.progress, FixedPc.Carries, carries]
  | @putFailed _ _ _ landed =>
      simp only [FixedPc.Carries] at carries
      cases landed <;> simp [PutsExpiry, FlowOutcome.progress, carries]

namespace ThreeCalls

/-- `put` puts `queued`, on a sender whose configuration stays the same. -/
def SendPuts (calls : ThreeCalls) (msg : Message Bytes) (queued : Queued) : Prop :=
  ∃ rest puts p, exec (putOperation calls.queueName calls.span)
      (.running (calls.attempt, .runCreator)) ((calls.sender, .created (.ok msg)) :: rest) =
        some (puts, p) ∧ queued ∈ puts ∧ ∀ later ∈ rest, later.1.cfg = calls.sender.cfg

/-- The time to live that `put` goes by. -/
def sendTTL (calls : ThreeCalls) (msg : Message Bytes) : ℤ :=
  if msg.ttl = 0 then calls.sender.cfg.producerTTL else msg.ttl

variable {calls : ThreeCalls} {msg : Message Bytes} {queued : Queued}

theorem expiry_of_send (puts : calls.SendPuts msg queued) :
    queued.md.expiry = expiryOf (calls.sendTTL msg) := by
  obtain ⟨rest, all, p, run, member, steady⟩ := puts
  obtain ⟨out, p', more, stepped, onward, rfl⟩ := exec_cons run
  obtain ⟨rfl, rfl⟩ := Prod.mk.inj (Option.some.inj (put_returned.symm.trans stepped))
  have keep : ∀ (pos : PutAttempt × PutPc) (a : Sender × SendAnswer) out p,
      pos.2.Carries msg.ttl → a.1.cfg = calls.sender.cfg →
      putOperation calls.queueName calls.span pos a = some (out, p) →
      PutsExpiry (·.2.Carries msg.ttl) (expiryOf (calls.sendTTL msg)) out p := by
    intro pos a out p carries cfg stepped
    rw [sendTTL, ← cfg]
    exact putOperation_expiry carries stepped
  have start : (PutPc.mqput
      (injectToMessage calls.sender.cfg.propagator calls.span msg)).Carries msg.ttl := rfl
  exact exec_emits keep start steady onward queued member

theorem expiry_of_temp (puts : calls.TempPuts msg queued) :
    queued.md.expiry = expiryOf msg.ttl := by
  obtain ⟨rest, all, p, run, member⟩ := puts
  obtain ⟨out, p', more, stepped, onward, rfl⟩ := exec_cons run
  obtain ⟨rfl, rfl⟩ := Prod.mk.inj (Option.some.inj (temp_returned.symm.trans stepped))
  have start : (TempPc.openRequest calls.tempQueue
      (injectToMessage calls.tempSpec.cfg.propagator calls.tempSpec.span msg)).Carries
        msg.ttl := rfl
  exact exec_emits (fun _ _ _ _ carries _ => tempOperation_expiry carries) start
    (fun _ _ => trivial) onward queued member

theorem expiry_of_fixed (puts : calls.FixedPuts msg queued) :
    queued.md.expiry = expiryOf msg.ttl := by
  obtain ⟨rest, all, p, run, member⟩ := puts
  cases settled : correlationKey calls.generated msg.correlationID with
  | error err =>
      rw [(fixed_refused_run settled run).1] at member
      cases member
  | ok key =>
      obtain ⟨out, p', more, stepped, onward, rfl⟩ := exec_cons run
      obtain ⟨rfl, rfl⟩ :=
        Prod.mk.inj (Option.some.inj ((fixed_returned settled).symm.trans stepped))
      have start : (FixedPc.openReply key
          (injectToMessage calls.fixedSpec.cfg.propagator calls.fixedSpec.span msg)).Carries
            msg.ttl := rfl
      exact exec_emits (fun _ _ _ _ carries _ => fixedOperation_expiry carries) start
        (fun _ _ => trivial) onward queued member

theorem send_puts (calls : ThreeCalls) (msg : Message Bytes) :
    ∃ queued, calls.SendPuts msg queued :=
  ⟨_, [(calls.sender, .putOk .zero)], _, _,
    exec_step put_returned (exec_step putOperation_putOk rfl), List.mem_singleton_self _, by simp⟩

end ThreeCalls

/-! ## The conversion -/

inductive SendPath where
  | send
  | temp
  | fixed

/-- Where it goes by the time to live `ttl`, an operation puts a message with this
    `Expiry`. -/
inductive Expires : SendPath → ℤ → ℤ → Prop
  | send {calls : ThreeCalls} {msg queued} : calls.SendPuts msg queued →
      Expires .send (calls.sendTTL msg) queued.md.expiry
  | temp {calls : ThreeCalls} {msg queued} : calls.TempPuts msg queued →
      Expires .temp msg.ttl queued.md.expiry
  | fixed {calls : ThreeCalls} {msg queued} : calls.FixedPuts msg queued →
      Expires .fixed msg.ttl queued.md.expiry

/-- The message that a creator leaves behind after it has set the time to live. -/
def Message.lasting (ttl : ℤ) : Message Bytes := { Message.fresh with ttl := ttl }

theorem expiry_of_expires {path : SendPath} {ttl e : ℤ} (expires : Expires path ttl e) :
    e = expiryOf ttl := by
  cases expires with
  | send puts => exact ThreeCalls.expiry_of_send puts
  | temp puts => exact ThreeCalls.expiry_of_temp puts
  | fixed puts => exact ThreeCalls.expiry_of_fixed puts

theorem sendTTL_lasting (ttl : ℤ) : ordinaryCalls.sendTTL (.lasting ttl) = ttl := by
  by_cases zero : ttl = 0
  · subst zero
    rfl
  · exact if_neg zero

/-- Any time to live can be put on any path. -/
theorem exists_expires (path : SendPath) (ttl : ℤ) : ∃ e, Expires path ttl e := by
  cases path with
  | send =>
      obtain ⟨queued, puts⟩ := ordinaryCalls.send_puts (.lasting ttl)
      have expires := Expires.send puts
      rw [sendTTL_lasting] at expires
      exact ⟨_, expires⟩
  | temp =>
      obtain ⟨queued, puts⟩ := ordinaryCalls.temp_puts (.lasting ttl)
      exact ⟨_, .temp puts⟩
  | fixed =>
      have settled : correlationKey ordinaryCalls.generated (Message.lasting ttl).correlationID =
        .ok ordinaryCalls.generated := rfl
      obtain ⟨queued, puts⟩ := ThreeCalls.fixedPuts_of_settled settled
      exact ⟨_, .fixed puts⟩

theorem expires_iff {path : SendPath} {ttl e : ℤ} : Expires path ttl e ↔ e = expiryOf ttl := by
  constructor
  · exact expiry_of_expires
  · rintro rfl
    obtain ⟨e, expires⟩ := exists_expires path ttl
    rwa [expiry_of_expires expires] at expires

/-- The queue manager takes the `Expiry`, it is no shorter than that of a shorter time to
    live, and it is exact where it can be. -/
structure ExpirySound (path : SendPath) (ttl e : ℤ) : Prop where
  taken : 1 ≤ e
  mono : ∀ shorter e', 0 < shorter → shorter ≤ ttl → Expires path shorter e' → e' ≤ e
  exact_tenths : 1 ≤ tenths ttl → tenths ttl < 2 ^ 31 → e = tenths ttl

/-- The longest time to live that still fits, in nanoseconds. -/
def longestTTL : ℤ := (2 ^ 31 - 1) * 100000000

theorem expiryOf_longestTTL : expiryOf longestTTL = 2 ^ 31 - 1 := by decide

theorem expirySound_iff {path : SendPath} {ttl : ℤ} (positive : 0 < ttl) :
    ExpirySound path ttl (expiryOf ttl) ↔
      (1 ≤ tenths ttl ∧ tenths ttl < 2 ^ 31) ∨ tenths ttl % 2 ^ 32 = 2 ^ 31 - 1 := by
  rw [expiryOf_of_pos positive]
  constructor
  · intro sound
    by_cases fits : tenths ttl < 2 ^ 31
    · have low := tenths_nonneg positive.le
      have taken := sound.taken
      rw [toInt32_of_fits (by omega) fits] at taken
      exact .inl ⟨taken, fits⟩
    · -- it does not fit, so the longest one that fits is shorter and must not last longer
      have le : longestTTL ≤ ttl := by
        have := Int.ediv_mul_le ttl (b := 100000000) (by omega)
        simp only [tenths] at fits
        simp only [longestTTL]
        omega
      have bound := sound.mono longestTTL _ (by decide) le (expires_iff.mpr rfl)
      rw [expiryOf_longestTTL] at bound
      have top : toInt32 (tenths ttl) = 2 ^ 31 - 1 := by
        have := toInt32_lt (tenths ttl)
        omega
      exact .inr ((toInt32_eq_iff (by omega) (by omega)).mp top)
  · rintro (⟨low, high⟩ | wraps)
    · rw [toInt32_of_fits (by omega) high]
      refine ⟨low, ?_, fun _ _ => rfl⟩
      intro shorter e' pos le expires
      have below := tenths_mono le
      have nonneg := tenths_nonneg pos.le
      rw [expires_iff.mp expires, expiryOf_of_pos pos, toInt32_of_fits (by omega) (by omega)]
      exact below
    · have top : toInt32 (tenths ttl) = 2 ^ 31 - 1 :=
        (toInt32_eq_iff (by omega) (by omega)).mpr wraps
      rw [top]
      refine ⟨by omega, ?_, by omega⟩
      intro shorter e' pos _ expires
      have := toInt32_lt (tenths shorter)
      rw [expires_iff.mp expires, expiryOf_of_pos pos]
      omega

/-- On each path a positive time to live is put with a sound `Expiry` exactly if it is
    from a tenth of a second up to what 32 bits hold, or wraps around to the largest
    value. -/
theorem expiry_sound_iff (path : SendPath) (ttl : ℤ) (positive : 0 < ttl) :
    (∃ e, Expires path ttl e) ∧ ((∀ e, Expires path ttl e → ExpirySound path ttl e) ↔
      (1 ≤ tenths ttl ∧ tenths ttl < 2 ^ 31) ∨ tenths ttl % 2 ^ 32 = 2 ^ 31 - 1) := by
  simp only [expires_iff, exists_eq, forall_eq, true_and]
  exact expirySound_iff positive

theorem expiry_sound_ten_minutes : (0 : ℤ) < 600000000000 ∧
    ∀ e, Expires .fixed 600000000000 e → ExpirySound .fixed 600000000000 e :=
  ⟨by decide, (expiry_sound_iff .fixed 600000000000 (by decide)).2.mpr (.inl (by decide))⟩

/-- Fifty milliseconds are put as zero, and some thirteen years as unlimited. -/
theorem expiry_unsound :
    (∀ path, Expires path 50000000 0 ∧ ¬ExpirySound path 50000000 0) ∧
    ∀ path, Expires path 429496729500000000 (-1) ∧
      ¬ExpirySound path 429496729500000000 (-1) := by
  constructor
  · intro path
    refine ⟨expires_iff.mpr (by decide), ?_⟩
    intro sound
    exact absurd sound.taken (by decide)
  · intro path
    refine ⟨expires_iff.mpr (by decide), ?_⟩
    intro sound
    exact absurd sound.taken (by decide)

/-! ## The policy -/

/-- The three calls are made with the settings of `client`. -/
structure ThreeCalls.Of (calls : ThreeCalls) (client : ClientConfig) : Prop where
  sender : calls.sender.cfg = client.cfg
  temp : calls.tempSpec.cfg = client.cfg
  fixed : calls.fixedSpec.cfg = client.cfg

/-- The time to live that a message should have: its own, or else the configured one. -/
def ClientConfig.chosenTTL (client : ClientConfig) (msg : Message Bytes) : ℤ :=
  if msg.ttl = 0 then client.cfg.producerTTL else msg.ttl

/-- All three paths put the message with the `Expiry` of the chosen time to live, which is
    unlimited exactly if that time is not positive. -/
def ThreeCalls.OnePolicy (calls : ThreeCalls) (client : ClientConfig) (msg : Message Bytes) :
    Prop :=
  ∀ queued, calls.SendPuts msg queued ∨ calls.TempPuts msg queued ∨ calls.FixedPuts msg queued →
    queued.md.expiry = expiryOf (client.chosenTTL msg) ∧
      (queued.md.expiry = -1 ↔ client.chosenTTL msg ≤ 0)

theorem expiryOf_eq_unlimited_iff {ttl : ℤ} (positive : 0 < ttl) :
    expiryOf ttl = -1 ↔ tenths ttl % 2 ^ 32 = 2 ^ 32 - 1 := by
  rw [expiryOf_of_pos positive, toInt32_eq_iff (by omega) (by omega)]
  omega

theorem expiryOf_of_nonpos {ttl : ℤ} (nonpos : ttl ≤ 0) : expiryOf ttl = -1 :=
  if_neg (by omega)

theorem ClientConfig.producerTTL_nonneg (client : ClientConfig) : 0 ≤ client.cfg.producerTTL := by
  obtain ⟨raw, defaulted⟩ := client.defaulted
  have valid := client.valid
  rw [← defaulted] at valid ⊢
  exact ((Config.complaints_applyDefaults raw).mp valid).2.2.2

section Policy

variable {calls : ThreeCalls} {client : ClientConfig} {msg : Message Bytes}

/-- What the temporary-queue request puts goes by the message alone. -/
theorem ThreeCalls.OnePolicy.own (policy : calls.OnePolicy client msg) :
    expiryOf msg.ttl = -1 ↔ client.chosenTTL msg ≤ 0 := by
  obtain ⟨queued, puts⟩ := calls.temp_puts msg
  rw [← expiry_of_temp puts]
  exact (policy queued (.inr (.inl puts))).2

theorem ThreeCalls.OnePolicy.of_chosen (made : calls.Of client)
    (chosen : client.chosenTTL msg = msg.ttl) (limited : expiryOf msg.ttl = -1 ↔ msg.ttl ≤ 0) :
    calls.OnePolicy client msg := by
  have send : calls.sendTTL msg = msg.ttl := by
    rw [sendTTL, made.sender]
    exact chosen
  intro queued puts
  have same : queued.md.expiry = expiryOf msg.ttl := by
    rcases puts with puts | puts | puts
    · rw [expiry_of_send puts, send]
    · exact expiry_of_temp puts
    · exact expiry_of_fixed puts
  rw [same, chosen]
  exact ⟨rfl, limited⟩

end Policy

/-- The three paths follow one policy exactly if a message without a time to live meets a
    configuration without one, and the time does not wrap around to unlimited. -/
theorem one_ttl_policy_iff (calls : ThreeCalls) (client : ClientConfig) (made : calls.Of client)
    (msg : Message Bytes) : calls.OnePolicy client msg ↔
      (msg.ttl = 0 → client.cfg.producerTTL = 0) ∧
        (0 < msg.ttl → tenths msg.ttl % 2 ^ 32 ≠ 2 ^ 32 - 1) := by
  constructor
  · intro policy
    constructor
    · intro zero
      have nonneg := client.producerTTL_nonneg
      have nonpos := policy.own.mp (by rw [zero]; rfl)
      simp only [ClientConfig.chosenTTL, zero, if_true] at nonpos
      omega
    · intro positive wraps
      have nonpos := policy.own.mp ((expiryOf_eq_unlimited_iff positive).mpr wraps)
      rw [ClientConfig.chosenTTL, if_neg (by omega)] at nonpos
      omega
  · rintro ⟨configured, fits⟩
    apply ThreeCalls.OnePolicy.of_chosen made
    · rw [ClientConfig.chosenTTL]
      split
      · rename_i zero
        rw [configured zero, zero]
      · rfl
    · rcases lt_or_ge 0 msg.ttl with positive | nonpos
      · rw [expiryOf_eq_unlimited_iff positive]
        exact iff_of_false (fits positive) (by omega)
      · exact iff_of_true (expiryOf_of_nonpos nonpos) nonpos

theorem ordinaryCalls_of_minimal : ordinaryCalls.Of .minimal := ⟨rfl, rfl, rfl⟩

theorem one_ttl_policy_ten_minutes :
    ordinaryCalls.Of .minimal ∧ ordinaryCalls.OnePolicy .minimal (.lasting 600000000000) :=
  ⟨ordinaryCalls_of_minimal,
    (one_ttl_policy_iff ordinaryCalls .minimal ordinaryCalls_of_minimal _).mpr
      ⟨by decide, fun _ => by decide⟩⟩

/-- Like `minimal`, with messages to expire after a minute. -/
def ClientConfig.expiring : ClientConfig where
  cfg := Config.applyDefaults
    { queueManagerName := "QM1", connectionName := "localhost(1414)", channelName := "APP"
      producerTTL := 60000000000 }
  defaulted := ⟨_, rfl⟩
  valid := (Config.complaints_applyDefaults _).mpr
    ⟨by decide, by decide, by decide, by decide⟩

/-- The calls of `ordinaryCalls`, made with the settings of `expiring`. -/
def expiringCalls : ThreeCalls :=
  { ordinaryCalls with
    sender := newSender .expiring "ORDERS" []
    tempSpec := ⟨ClientConfig.expiring.cfg, "QUOTES", 1000000, true, none⟩
    tempCreator := rfl
    fixedSpec := ⟨ClientConfig.expiring.cfg, "QUOTES", 1000000, true, none⟩
    fixedCreator := rfl }

/-- A message without a time to live: `put` lets it expire after the configured minute, and
    the two requests never do. -/
theorem configured_ttl_ignored :
    expiringCalls.Of .expiring ∧
    (∃ queued, expiringCalls.SendPuts .fresh queued ∧ queued.md.expiry = 600) ∧
    (∃ queued, expiringCalls.TempPuts .fresh queued ∧ queued.md.expiry = -1) ∧
    (∃ queued, expiringCalls.FixedPuts .fresh queued ∧ queued.md.expiry = -1) ∧
    ¬expiringCalls.OnePolicy .expiring .fresh := by
  have settled : correlationKey expiringCalls.generated Message.fresh.correlationID =
    .ok expiringCalls.generated := rfl
  refine ⟨⟨rfl, rfl, rfl⟩, ?_, ?_, ?_, ?_⟩
  · obtain ⟨queued, puts⟩ := expiringCalls.send_puts .fresh
    exact ⟨queued, puts, (ThreeCalls.expiry_of_send puts).trans (by decide)⟩
  · obtain ⟨queued, puts⟩ := expiringCalls.temp_puts .fresh
    exact ⟨queued, puts, (ThreeCalls.expiry_of_temp puts).trans (by decide)⟩
  · obtain ⟨queued, puts⟩ := ThreeCalls.fixedPuts_of_settled settled
    exact ⟨queued, puts, (ThreeCalls.expiry_of_fixed puts).trans (by decide)⟩
  · intro policy
    exact absurd (policy.own.mp (by decide)) (by decide)

end CommonsMQ
