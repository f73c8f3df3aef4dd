import CommonsMQ.Client.Model
import CommonsMQ.Lib.Log
import CommonsMQ.RequestReply.Routing

/-! # Components on one queue manager

Any number of senders, listeners and request-reply clients, built from any configurations,
share a queue manager with programs that are not written with this library. Messages are
named by the order of their arrival. The queue manager gives a message to at most one GET,
and the name of a dynamic queue to one call; nothing else is assumed about it.

The log of a run has the dynamic queues that the calls of each component opened, the messages
its goroutines put and those that their GETs returned.
-/

namespace CommonsMQ

open Interleave

structure QueueManager where
  /-- All messages that have arrived, in order. -/
  messages : List Queued := []
  /-- The positions of those that were removed. -/
  taken : List Nat := []
  /-- The names of dynamic queues given so far. -/
  dynamic : List String := []

namespace QueueManager

/-- The message at position `n`, if it is still there. -/
def find (b : QueueManager) (n : Nat) : Option Queued :=
  if n ∈ b.taken then none else b.messages[n]?

def take (b : QueueManager) (n : Nat) : QueueManager := { b with taken := b.taken ++ [n] }

def arrive (b : QueueManager) (arrived : List Queued) : QueueManager :=
  { b with messages := b.messages ++ arrived }

/-- A name that no queue and no message has. -/
def isFresh (b : QueueManager) (name : String) : Bool :=
  decide (name ∉ b.dynamic) && b.messages.all fun q => decide (q.queue ≠ name)

end QueueManager

/-- What a component has put. -/
def Component.sent : Component → List Queued
  | .sender c => c.shared.queues
  | .listener _ => []
  | .requestReply c => c.shared.requests

/-- Whether the GET of a consumer may return `q`. -/
def Consumer.mayGet (l : Listener) (k : Consumer) (q : Queued) : Bool :=
  match k.pc with
  | .consume .get => decide (q.queue = l.queue)
  | _ => false

/-- Whether the GET of a request may return `q`. -/
def RRCall.mayGet (r : RequestReplyClient) (call : RRCall) (q : Queued) : Bool :=
  match call.pc with
  | .fixed (.get key _) => decide (q.queue = r.replyQueue ∧ matchesCorrelId key q.md)
  | .temp (.get replyQueue _) => decide (q.queue = replyQueue)
  | _ => false

/-- The move by which the GET of goroutine `i` returns `q`, if it may. -/
def Component.gets : Component → Nat → Queued → Option ComponentMove
  | .sender _, _, _ => none
  | .listener c, i, q =>
      match c.threads[i]? with
      | some (.consumer k) =>
          if k.mayGet c.shared q then some (.listener (.act i (.got q.md q.body))) else none
      | _ => none
  | .requestReply c, i, q =>
      match c.threads[i]? with
      | some (.call call) =>
          if call.mayGet c.shared q then some (.requestReply (.act i (.got q.md q.body))) else none
      | _ => none

namespace ComponentMove

/-- The answer of a GET, which only the queue manager can give. -/
def isGot : ComponentMove → Bool
  | .listener (.act _ (.got _ _)) | .requestReply (.act _ (.got _ _)) => true
  | _ => false

/-- The dynamic queue that is opened, and for which goroutine. -/
def opens : ComponentMove → Option (Nat × String)
  | .requestReply (.act i (.openedDynamic name)) => some (i, name)
  | _ => none

/-- The goroutine that moves. -/
def thread : ComponentMove → Nat
  | .sender (.act i _) | .listener (.act i _) | .requestReply (.act i _) => i
  | .sender (.call _) | .listener (.call _) | .requestReply (.call _) => 0

end ComponentMove

inductive Node where
  | component (c : Component)
  /-- A program that uses the queue manager in its own way. -/
  | foreign

inductive NetMove where
  | own (m : ComponentMove)
  /-- The GET of goroutine `i` returns message `n`. -/
  | get (i n : Nat)
  | foreignPut (q : Queued)
  /-- A foreign GET, or the expiry of a message. -/
  | foreignTake (n : Nat)

inductive NetRequest where
  | build (cfg : ClientConfig) (what : Factory)
  | foreign

/-- The queue manager after a component has gone from `c` to `c'`. -/
def QueueManager.serve (b : QueueManager) (c c' : Component) : QueueManager :=
  b.arrive (c'.sent.drop c.sent.length)

/-- The queue manager opens the dynamic queue that a move asks for. -/
def QueueManager.name (b : QueueManager) (m : ComponentMove) : Option QueueManager :=
  match m.opens with
  | none => some b
  | some (_, name) =>
      if b.isFresh name then some { b with dynamic := b.dynamic ++ [name] } else none

def Node.step (b : QueueManager) : Node → NetMove → Option (QueueManager × Node)
  | .component c, .own m =>
      if m.isGot then none
      else
        match b.name m, c.next m with
        | some b', some c' => some (b'.serve c c', .component c')
        | _, _ => none
  | .component c, .get i n =>
      match (b.find n).bind (c.gets i) with
      | none => none
      | some m => (c.next m).map fun c' => ((b.take n).serve c c', .component c')
  | .foreign, .foreignPut q => some (b.arrive [q], .foreign)
  | .foreign, .foreignTake n => (b.find n).map fun _ => (b.take n, .foreign)
  | _, _ => none

abbrev Net := Interleave.Config QueueManager Node

def netProgram : Interleave.Program QueueManager NetRequest Node NetMove where
  start
    | .build cfg what => .component (what.build cfg)
    | .foreign => .foreign
  step b t m := (t.step b m).map fun r => (r.1, r.2, [])

/-! ## The log -/

inductive NetEvent where
  | opened (i : Nat) (queue : String)
  /-- A message of goroutine `i` arrived at position `n`. -/
  | put (i n : Nat)
  /-- The GET of goroutine `i` returned the message at position `n`. -/
  | got (i n : Nat)

/-- What a component does with a move. -/
def componentEvents (b : QueueManager) (c c' : Component) (m : ComponentMove) : List NetEvent :=
  (m.opens.map fun o => .opened o.1 o.2).toList ++
    (List.range (c'.sent.length - c.sent.length)).map fun k =>
      .put m.thread (b.messages.length + k)

def netEvents (b : QueueManager) : Node → NetMove → Node → List NetEvent
  | .component c, .own m, .component c' => componentEvents b c c' m
  | .component c, .get i n, .component c' =>
      match (b.find n).bind (c.gets i) with
      | none => []
      | some m => componentEvents b c c' m ++ [.got i n]
  | .foreign, .foreignTake n, _ => [.got 0 n]
  | _, _, _ => []

namespace NetEvent

/-- The goroutine and the position of a put. -/
def putAt : NetEvent → Option (Nat × Nat)
  | .put i n => some (i, n)
  | _ => none

def gotAt : NetEvent → Option (Nat × Nat)
  | .got i n => some (i, n)
  | _ => none

def openedBy : NetEvent → Option (Nat × String)
  | .opened i queue => some (i, queue)
  | _ => none

end NetEvent

section Events

variable (b : QueueManager) (c c' : Component) (m : ComponentMove)

theorem componentEvents_gotAt : (componentEvents b c c' m).filterMap NetEvent.gotAt = [] := by
  cases opened : m.opens <;> simp [componentEvents, opened, NetEvent.gotAt]

theorem componentEvents_openedBy :
    (componentEvents b c c' m).filterMap NetEvent.openedBy = m.opens.toList := by
  cases opened : m.opens <;> simp [componentEvents, opened, NetEvent.openedBy]

theorem componentEvents_putAt :
    (componentEvents b c c' m).filterMap NetEvent.putAt =
      (List.range (c'.sent.length - c.sent.length)).map fun k =>
        (m.thread, b.messages.length + k) := by
  cases opened : m.opens <;>
    simp [componentEvents, opened, NetEvent.putAt, List.filterMap_cons, List.filterMap_map,
      Function.comp_def]

end Events

/-- The log of a run that begins with an empty queue manager and no program. -/
def netLog (ms : List (Move NetRequest NetMove)) : List (Nat × NetEvent) :=
  netProgram.log netEvents ⟨{}, []⟩ ms

/-! ## Steps -/

inductive NetStep (b : QueueManager) : Node → NetMove → QueueManager → Node → Prop where
  | own {c m b' c'} : m.isGot = false → b.name m = some b' → c.next m = some c' →
      NetStep b (.component c) (.own m) (b'.serve c c') (.component c')
  | get {c i n q m c'} : b.find n = some q → c.gets i q = some m → c.next m = some c' →
      NetStep b (.component c) (.get i n) ((b.take n).serve c c') (.component c')
  | foreignPut {q} : NetStep b .foreign (.foreignPut q) (b.arrive [q]) .foreign
  | foreignTake {n q} : b.find n = some q →
      NetStep b .foreign (.foreignTake n) (b.take n) .foreign

theorem netProgram_step {b b' : QueueManager} {t t' : Node} {m : NetMove} {started : List Node}
    (h : netProgram.step b t m = some (b', t', started)) :
    NetStep b t m b' t' ∧ started = [] := by
  obtain ⟨⟨b₁, t₁⟩, moved, same⟩ := Option.map_eq_some_iff.mp h
  obtain ⟨rfl, rfl, rfl⟩ := same
  refine ⟨?_, rfl⟩
  unfold Node.step at moved
  split at moved
  · split at moved
    · cases moved
    · split at moved
      · cases moved
        exact .own (Bool.eq_false_iff.mpr ‹_›) ‹_› ‹_›
      · cases moved
  · split at moved
    · cases moved
    · rename_i found
      obtain ⟨q, here, accepted⟩ := Option.bind_eq_some_iff.mp found
      obtain ⟨c', next, same⟩ := Option.map_eq_some_iff.mp moved
      cases same
      exact .get here accepted next
  · cases moved
    exact .foreignPut
  · obtain ⟨q, here, same⟩ := Option.map_eq_some_iff.mp moved
    cases same
    exact .foreignTake here
  · cases moved

theorem netLog_invariant {I : List (Nat × NetEvent) → Net → Prop}
    {ok : Net → Move NetRequest NetMove → Prop}
    (call : ∀ past net r, I past net →
      I past ⟨net.shared, net.threads ++ [netProgram.start r]⟩)
    (act : ∀ past net j t a b t', I past net → ok net (.act j a) → net.threads[j]? = some t →
      NetStep net.shared t a b t' →
      I (past ++ (netEvents net.shared t a t').map (j, ·)) ⟨b, net.threads.set j t'⟩)
    {net net' : Net} {ms : List (Move NetRequest NetMove)} (start : I [] net)
    (allowed : netProgram.Meets ok net ms) (run : netProgram.exec net ms = some net') :
    I (netProgram.log netEvents net ms) net' := by
  refine Program.log_invariant (I := I) call ?_ start allowed run
  intro past net j t a b t' started before here found stepped
  obtain ⟨step, rfl⟩ := netProgram_step stepped
  rw [List.append_nil]
  exact act past net j t a b t' before here found step

end CommonsMQ
