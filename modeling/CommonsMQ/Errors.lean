import Mathlib.Data.List.Basic

/-! # Go error values

An error is the tree that `Unwrap` exposes: leaves are the sentinels of the
package, the two context errors, the return codes of the MQ binding and errors
of any other origin; an inner node is an error made by `fmt.Errorf` with `%w` or
by `errors.Join`. `errors.As` and `errors.Is` walk the tree in order, so an MQ
return code is found however deep it is wrapped, whoever wrapped it.
-/

namespace CommonsMQ

/-- The binding's `*ibmmq.MQReturn`; `text` is what its `Error` method prints. -/
structure MQReturn where
  mqcc : Int
  mqrc : Int
  text : String

inductive Sentinel where
  | invalidConfig
  | timeout
  | connectionFailed
  | clientClosed
  | handlerPanic
  deriving Repr, DecidableEq

def Sentinel.text : Sentinel → String
  | .invalidConfig => "commons-mq-go: invalid configuration"
  | .timeout => "commons-mq-go: request-reply timeout"
  | .connectionFailed => "commons-mq-go: connection permanently failed"
  | .clientClosed => "commons-mq-go: client is closed"
  | .handlerPanic => "commons-mq-go: message handler panicked"

/-- The two values of `ctx.Err()` once the context is done. -/
inductive CtxErr where
  | canceled
  | deadlineExceeded
  deriving Repr, DecidableEq

def CtxErr.text : CtxErr → String
  | .canceled => "context canceled"
  | .deadlineExceeded => "context deadline exceeded"

inductive GoError where
  | mqReturn (ret : MQReturn)
  | sentinel (s : Sentinel)
  | context (e : CtxErr)
  /-- An error that wraps nothing: `errors.New`, or a foreign error. -/
  | plain (text : String)
  /-- `fmt.Errorf` with `%w`, or `errors.Join`. -/
  | wrap (text : String) (inner : List GoError)

abbrev ErrInvalidConfig : GoError := .sentinel .invalidConfig
abbrev ErrTimeout : GoError := .sentinel .timeout
abbrev ErrConnectionFailed : GoError := .sentinel .connectionFailed
abbrev ErrClientClosed : GoError := .sentinel .clientClosed
abbrev ErrHandlerPanic : GoError := .sentinel .handlerPanic

namespace GoError

/-- The `Error` method. -/
def text : GoError → String
  | .mqReturn ret => ret.text
  | .sentinel s => s.text
  | .context e => e.text
  | .plain text => text
  | .wrap text _ => text

mutual
/-- `errors.As` with a `*ibmmq.MQReturn` target. -/
def asMQReturn : GoError → Option MQReturn
  | .mqReturn ret => some ret
  | .wrap _ inner => asMQReturnList inner
  | .sentinel _ | .context _ | .plain _ => none

def asMQReturnList : List GoError → Option MQReturn
  | [] => none
  | e :: rest =>
      match asMQReturn e with
      | some ret => some ret
      | none => asMQReturnList rest
end

mutual
/-- `errors.Is` with one of the package's sentinels as target. -/
def is (target : Sentinel) : GoError → Bool
  | .sentinel s => s == target
  | .wrap _ inner => isList target inner
  | .mqReturn _ | .context _ | .plain _ => false

def isList (target : Sentinel) : List GoError → Bool
  | [] => false
  | e :: rest => is target e || isList target rest
end

mutual
/-- `errors.Is` with an error of a context as target. -/
def isContext (target : CtxErr) : GoError → Bool
  | .context e => e == target
  | .wrap _ inner => isContextList target inner
  | .mqReturn _ | .sentinel _ | .plain _ => false

def isContextList (target : CtxErr) : List GoError → Bool
  | [] => false
  | e :: rest => isContext target e || isContextList target rest
end

end GoError

/-- The reason codes that stand for a broken connection:
    `MQRC_CONNECTION_BROKEN`, `MQRC_HCONN_ERROR`, `MQRC_Q_MGR_NOT_AVAILABLE`,
    `MQRC_Q_MGR_QUIESCING`, `MQRC_Q_MGR_STOPPING`, `MQRC_CONNECTION_QUIESCING`,
    `MQRC_CONNECTION_STOPPING`, `MQRC_Q_MGR_NOT_ACTIVE`, `MQRC_CONNECTION_ERROR`,
    `MQRC_CONNECTION_SUSPENDED` and `MQRC_CONNECTION_STOPPED`. -/
def connectionReasons : List Int :=
  [2009, 2018, 2059, 2161, 2162, 2202, 2203, 2223, 2273, 2521, 2528]

def isConnectionError (err : GoError) : Bool :=
  match err.asMQReturn with
  | none => false
  | some ret => connectionReasons.contains ret.mqrc

/-- `MQRC_NO_MSG_AVAILABLE`. -/
def noMsgAvailable : Int := 2033

def isEmptyQueueError (err : GoError) : Bool :=
  match err.asMQReturn with
  | none => false
  | some ret => ret.mqrc == noMsgAvailable

/-- Errors without a return code are replaced, so that nothing the binding wrote
    into their text is repeated. -/
def sanitizeError (err : GoError) : GoError :=
  match err.asMQReturn with
  | some _ => err
  | none => .plain "IBM MQ operation failed"

/-- The `%q` verb, for the escapes that can occur in ASCII text; non-printable runes beyond
    ASCII are left as they are. -/
def quote (s : String) : String :=
  let escape (c : Char) : String :=
    match c.toNat with
    | 34 => "\\\""
    | 92 => "\\\\"
    | 7 => "\\a"
    | 8 => "\\b"
    | 9 => "\\t"
    | 10 => "\\n"
    | 11 => "\\v"
    | 12 => "\\f"
    | 13 => "\\r"
    | code =>
        if code < 16 then "\\x0" ++ String.ofList (Nat.toDigits 16 code)
        else if code < 32 ∨ code = 127 then "\\x" ++ String.ofList (Nat.toDigits 16 code)
        else c.toString
  "\"" ++ String.join (s.toList.map escape) ++ "\""

/-- `errors.Join`: `nil` when there is nothing to join. -/
def joinErrors : List GoError → Option GoError
  | [] => none
  | e :: rest => some (.wrap (String.intercalate "\n" ((e :: rest).map GoError.text)) (e :: rest))

theorem isConnectionError_sanitize (err : GoError) :
    isConnectionError (sanitizeError err) = isConnectionError err := by
  cases found : err.asMQReturn with
  | none => simp [sanitizeError, isConnectionError, found, GoError.asMQReturn]
  | some ret => simp [sanitizeError, found]

@[simp] theorem isConnectionError_wrap (text : String) (err : GoError) :
    isConnectionError (.wrap text [err]) = isConnectionError err := by
  cases found : err.asMQReturn <;>
    simp [isConnectionError, GoError.asMQReturn, GoError.asMQReturnList, found]

end CommonsMQ
