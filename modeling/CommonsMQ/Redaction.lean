import CommonsMQ.Lib.Projection
import CommonsMQ.Connection
import CommonsMQ.Wire

/-! # What credentials can reach

Redacting a value forgets the credentials of a configuration and, of an error that
came from the MQ binding without a return code, its text: the binding may have written
the credentials into it. Redaction commutes with the functions of the connection, so
neither reaches the errors that they return.
-/

namespace CommonsMQ

def TLSConfig.redact (tls : TLSConfig) : TLSConfig :=
  { tls with keyRepository := "", certificateLabel := "" }

def Config.redact (cfg : Config) : Config :=
  { cfg with username := "", password := "", tls := cfg.tls.map TLSConfig.redact }

/-- An error in which `errors.As` finds a return code is kept as it is. -/
def GoError.redact (err : GoError) : GoError :=
  if err.asMQReturn.isSome then err else .plain ""

@[simp] theorem GoError.asMQReturn_redact (err : GoError) :
    err.redact.asMQReturn = err.asMQReturn := by
  unfold redact
  split
  · rfl
  · rename_i absent
    rw [Option.not_isSome_iff_eq_none.mp absent]
    rfl

theorem GoError.redact_of_code {err : GoError} (code : err.asMQReturn.isSome) :
    err.redact = err := if_pos code

@[simp] theorem sanitizeError_redact (err : GoError) :
    sanitizeError err.redact = sanitizeError err := by
  unfold sanitizeError
  rw [GoError.asMQReturn_redact]
  cases found : err.asMQReturn with
  | none => rfl
  | some ret => exact GoError.redact_of_code (by simp [found])

@[simp] theorem isEmptyQueueError_redact (err : GoError) :
    isEmptyQueueError err.redact = isEmptyQueueError err := by
  simp only [isEmptyQueueError, GoError.asMQReturn_redact]

/-! ## The configuration -/

theorem Config.applyDefaults_redact (cfg : Config) :
    cfg.redact.applyDefaults = cfg.applyDefaults.redact := rfl

def ClientConfig.redact (client : ClientConfig) : ClientConfig where
  cfg := client.cfg.redact
  defaulted := by
    obtain ⟨raw, defaulted⟩ := client.defaulted
    exact ⟨raw.redact, by rw [Config.applyDefaults_redact, defaulted]⟩
  valid := client.valid

/-- `NewClient` accepts, or complains, without looking at credentials. -/
theorem newClient_redact (raw : Config) :
    newClient raw.redact = (newClient raw).map ClientConfig.redact := by
  unfold newClient
  split
  · rename_i none
    split
    · rfl
    · rename_i found
      cases none.symm.trans found
  · rename_i first rest found
    split
    · rename_i none
      cases none.symm.trans found
    · rfl

/-! ## The connection -/

def Connection.redact (c : Connection) : Connection :=
  { c with lastError := c.lastError.map GoError.redact }

def LoopAnswer.redact : LoopAnswer → LoopAnswer
  | .dialed answer => .dialed (answer.mapError GoError.redact)
  | answer => answer

theorem Connection.dial_redact (cfg : Config) (c : Connection)
    (answer : Except GoError Handle) :
    c.redact.dial cfg.redact (answer.mapError GoError.redact) =
      ((c.dial cfg answer).1.redact, (c.dial cfg answer).2) := by
  cases answer with
  | error err =>
      simp only [Except.mapError, dial, sanitizeError_redact]
      rfl
  | ok handle => rfl

@[simp] theorem Connection.close_redact (cfg : Config) (c : Connection)
    (answer : Option GoError) :
    c.redact.close cfg.redact (answer.map GoError.redact) =
      ((c.close cfg answer).1.redact, (c.close cfg answer).2) := by
  cases answer with
  | none => rfl
  | some err =>
      simp only [close, Option.map_some, sanitizeError_redact]
      rfl

theorem newConnectionWithRetry_redact (cfg : Config) (ctx : Option CtxErr) (pc : LoopPc)
    (answer : LoopAnswer) :
    newConnectionWithRetry cfg.redact ctx pc answer.redact =
      (newConnectionWithRetry cfg ctx pc answer).map
        (Sum.map id (Except.map Connection.redact)) := by
  cases pc with
  | head n =>
      cases answer with
      | check => cases ctx <;> rfl
      | _ => rfl
  | dial n =>
      cases answer with
      | dialed answer =>
          have dialed := Connection.dial_redact cfg .new answer
          change Connection.new.dial cfg.redact _ = _ at dialed
          simp only [LoopAnswer.redact, newConnectionWithRetry, dialed]
          rcases Connection.new.dial cfg answer with ⟨c, _ | lastErr⟩
          · rfl
          · change (if n + 1 < cfg.attempts then _ else _) = Option.map _ (if _ then _ else _)
            split <;> rfl
      | _ => rfl
  | wait n =>
      cases answer with
      | interrupted => cases ctx <;> rfl
      | _ => rfl

theorem Connection.reconnect_redact (cfg : Config) (ctx : Option CtxErr) (c : Connection)
    (pc : LoopPc) (answer : LoopAnswer) :
    c.redact.reconnect cfg.redact ctx pc answer.redact =
      (c.reconnect cfg ctx pc answer).map fun r => (r.1.redact, r.2) := by
  cases pc with
  | head n =>
      cases answer with
      | check => cases ctx <;> rfl
      | _ => rfl
  | dial n =>
      cases answer with
      | dialed answer =>
          simp only [LoopAnswer.redact, reconnect, Connection.dial_redact]
          rcases c.dial cfg answer with ⟨c', _ | lastErr⟩
          · rfl
          · change (if n + 1 < cfg.attempts then _ else _) = Option.map _ (if _ then _ else _)
            split <;> rfl
      | _ => rfl
  | wait n =>
      cases answer with
      | interrupted => cases ctx <;> rfl
      | _ => rfl

end CommonsMQ
