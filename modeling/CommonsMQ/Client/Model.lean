import CommonsMQ.Sender.Model
import CommonsMQ.Listener.Model
import CommonsMQ.RequestReply.Model

/-! # The client

The client knows its components only through the teardown functions that its
factories register. Here a component is a configuration of its own program, and the
client's memory holds all of them; a teardown is a call of the component's close, which
the client's `Close` makes and then waits for. Application code may take any step of a
component it was handed.
-/

namespace CommonsMQ

open Interleave

inductive Component where
  | sender (c : SenderConfig)
  | listener (c : ListenerConfig)
  | requestReply (c : RRConfig)

inductive ComponentMove where
  | sender (m : SenderMove)
  | listener (m : ListenerMove)
  | requestReply (m : RRMove)

namespace Component

def next : Component → ComponentMove → Option Component
  | .sender c, .sender m => (senderProgram.next c m).map .sender
  | .listener c, .listener m => (listenerProgram.next c m).map .listener
  | .requestReply c, .requestReply m => (requestReplyProgram.next c m).map .requestReply
  | _, _ => none

/-- The position of the next call. -/
def size : Component → Nat
  | .sender c => c.threads.length
  | .listener c => c.threads.length
  | .requestReply c => c.threads.length

/-- The teardown that the factory registers. -/
def teardown : Component → ComponentMove
  | .sender _ => .sender (.call .close)
  | .listener _ => .listener (.call .close)
  | .requestReply _ => .requestReply (.call .close)

/-- What the close at position `i` has returned, if it has. -/
def closeResult : Component → Nat → Option (Option GoError)
  | .sender c, i =>
      match c.threads[i]? with
      | some (.close (.returned err)) => some err
      | some (.close .repeated) => some none
      | _ => none
  | .listener c, i =>
      match c.threads[i]? with
      | some (.close .returned) => some none
      | some (.close .repeated) => some none
      | _ => none
  | .requestReply c, i =>
      match c.threads[i]? with
      | some (.close true) => some none
      | _ => none

end Component

/-- Whether application code may make a move: the close of a sender or a listener is not
    exported, and calls need the component in hand. -/
def ComponentMove.permitted (handedOut : Bool) : ComponentMove → Bool
  | .sender (.call .close) | .listener (.call .close) => false
  | .sender (.call _) | .listener (.call _) | .requestReply (.call _) => handedOut
  | .sender (.act _ _) | .listener (.act _ _) | .requestReply (.act _ _) => true

/-- Components are named by their position. -/
structure Client where
  cfg : ClientConfig
  closed : Bool := false
  closers : List Nat := []
  healthProbers : List Nat := []
  components : List Component := []
  /-- The components that a factory has returned. -/
  handedOut : List Nat := []
  /-- The teardowns ever registered, and those that have run. -/
  registered : List Nat := []
  ran : List Nat := []

/-- A call of one of the factory methods. -/
inductive Factory where
  | newListener (queueName : String) (opts : List ListenerOption)
  | newSender (destinationQueue : String) (opts : List SenderOption)
  | newRequestReplyClient (requestQueue : String) (opts : List RROption)
  | newRequestReplyClientFixed (requestQueue replyQueue : String) (opts : List RROption)

def Factory.build (cfg : ClientConfig) : Factory → Component
  | .newListener queueName opts => .listener ⟨CommonsMQ.newListener cfg queueName opts, []⟩
  | .newSender destinationQueue opts => .sender ⟨CommonsMQ.newSender cfg destinationQueue opts, []⟩
  | .newRequestReplyClient requestQueue opts =>
      .requestReply ⟨CommonsMQ.newRequestReplyClient cfg requestQueue opts, []⟩
  | .newRequestReplyClientFixed requestQueue replyQueue opts =>
      .requestReply ⟨CommonsMQ.newRequestReplyClientFixed cfg requestQueue replyQueue opts, []⟩

inductive FactoryPc where
  | construct
  | register (k : Nat)
  | registerHealthProber (k : Nat)
  | returned (k : Nat)

inductive ClientClosePc where
  | begin
  /-- The teardowns that are left, the next one first. -/
  | teardown (rest : List Nat) (errs : List GoError)
  /-- The teardown of `k` is running at position `i` of the component. -/
  | await (k i : Nat) (rest : List Nat) (errs : List GoError)
  | returned (err : Option GoError)
  /-- A further call, which returns nil at once. -/
  | repeated

namespace Client

/-- `register`. -/
def register (c : Client) (k : Nat) : Client :=
  { c with closers := c.closers ++ [k], registered := c.registered ++ [k] }

def registerHealthProber (c : Client) (k : Nat) : Client :=
  { c with healthProbers := c.healthProbers ++ [k] }

def setComponent (c : Client) (k : Nat) (component : Component) : Client :=
  { c with components := c.components.set k component }

/-- One step of a factory method. -/
def build (c : Client) (what : Factory) : FactoryPc → Option (Client × FactoryPc)
  | .construct => some ({ c with components := c.components ++ [what.build c.cfg] },
      .register c.components.length)
  | .register k => some (c.register k, .registerHealthProber k)
  | .registerHealthProber k =>
      some ({ c.registerHealthProber k with handedOut := c.handedOut ++ [k] }, .returned k)
  | .returned _ => none

/-- One step of `Close`. -/
def close (c : Client) : ClientClosePc → Option (Client × ClientClosePc)
  | .begin =>
      if c.closed then some (c, .repeated)
      else some ({ c with closed := true, closers := [] }, .teardown c.closers.reverse [])
  | .teardown [] errs => some (c, .returned (joinErrors errs))
  | .teardown (k :: rest) errs =>
      match c.components[k]? with
      | none => none
      | some component => (component.next component.teardown).map fun component' =>
          (c.setComponent k component', .await k component.size rest errs)
  | .await k i rest errs =>
      match c.components[k]? with
      | none => none
      | some component => (component.closeResult i).map fun err =>
          ({ c with ran := c.ran ++ [k] }, .teardown rest (errs ++ err.toList))
  | .returned _ | .repeated => none

/-- Application code takes a step of component `k`. -/
def use (c : Client) (k : Nat) (m : ComponentMove) : Option Client :=
  match c.components[k]? with
  | none => none
  | some component =>
      if m.permitted (k ∈ c.handedOut) then (component.next m).map (c.setComponent k) else none

end Client

inductive ClientRequest where
  | build (what : Factory)
  | close
  | application

inductive ClientThread where
  | factory (what : Factory) (pc : FactoryPc)
  | close (pc : ClientClosePc)
  | application

inductive ClientAnswer where
  | go
  | use (k : Nat) (m : ComponentMove)

def ClientThread.step (c : Client) : ClientThread → ClientAnswer → Option (Client × ClientThread)
  | .factory what pc, .go => (c.build what pc).map fun s => (s.1, .factory what s.2)
  | .close pc, .go => (c.close pc).map fun s => (s.1, .close s.2)
  | .application, .use k m => (c.use k m).map fun c' => (c', .application)
  | _, _ => none

abbrev ClientState := Interleave.Config Client ClientThread
abbrev ClientMove := Interleave.Move ClientRequest ClientAnswer

def clientProgram : Program Client ClientRequest ClientThread ClientAnswer where
  start
    | .build what => .factory what .construct
    | .close => .close .begin
    | .application => .application
  step c t answer := (t.step c answer).map fun s => (s.1, s.2, [])

end CommonsMQ
