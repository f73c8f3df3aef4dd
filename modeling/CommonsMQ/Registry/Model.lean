import Mathlib.Data.List.AList
import CommonsMQ.Lib.Interleave

/-! # The registry of correlation IDs

`Register` makes a channel and then stores it under the lock; `Deliver` looks the channel
up under the lock and sends after it has given the lock back. Goroutines that receive from
a channel are threads like the others. What happens in a run is read off its steps as a
list of events.
-/

namespace CommonsMQ

open Interleave

abbrev ChanId := Nat

/-- A buffered channel, oldest value first. -/
structure Channel (T : Type) where
  capacity : Nat
  buffer : List T := []

namespace Channel

variable {T : Type}

/-- `select` with a send and a default: `none` when the default is taken. -/
def trySend (chan : Channel T) (msg : T) : Option (Channel T) :=
  if chan.buffer.length < chan.capacity then some { chan with buffer := chan.buffer ++ [msg] }
  else none

/-- `none` as long as a receive blocks. -/
def receive (chan : Channel T) : Option (Channel T × T) :=
  match chan.buffer with
  | [] => none
  | msg :: rest => some ({ chan with buffer := rest }, msg)

theorem trySend_of_room {chan : Channel T} (room : chan.buffer.length < chan.capacity) (msg : T) :
    chan.trySend msg = some { chan with buffer := chan.buffer ++ [msg] } :=
  if_pos room

theorem trySend_of_full {chan : Channel T} (full : ¬chan.buffer.length < chan.capacity) (msg : T) :
    chan.trySend msg = none :=
  if_neg full

end Channel

/-- `pending`, and the channels that were ever made. -/
structure Registry (T : Type) where
  pending : AList fun _ : String => ChanId := ∅
  channels : List (Channel T) := []

def newRegistry (T : Type) : Registry T := {}

inductive RegisterPc where
  | make
  | store (ch : ChanId)
  | returned (ch : ChanId)
  deriving Repr, DecidableEq

inductive DeliverPc where
  | lookup
  | send (ch : ChanId)
  | returned
  deriving Repr, DecidableEq

namespace Registry

variable {T : Type} (r : Registry T)

def register (correlID : String) : RegisterPc → Option (Registry T × RegisterPc)
  | .make => some ({ r with channels := r.channels ++ [{ capacity := 1 }] },
      .store r.channels.length)
  | .store ch => some ({ r with pending := r.pending.insert correlID ch }, .returned ch)
  | .returned _ => none

def deliver (correlID : String) (msg : T) : DeliverPc → Option (Registry T × DeliverPc)
  | .lookup =>
      match r.pending.lookup correlID with
      | none => some (r, .returned)
      | some ch => some (r, .send ch)
  | .send ch =>
      match r.channels[ch]? with
      | none => none
      | some chan =>
          match chan.trySend msg with
          | some chan' => some ({ r with channels := r.channels.set ch chan' }, .returned)
          | none => some (r, .returned)
  | .returned => none

def deregister (correlID : String) : Registry T :=
  { r with pending := r.pending.erase correlID }

def len : Nat := r.pending.keys.length

/-- `<-ch`. -/
def receive (ch : ChanId) : Option (Registry T × T) :=
  match r.channels[ch]? with
  | none => none
  | some chan =>
      match chan.receive with
      | none => none
      | some (chan', msg) => some ({ r with channels := r.channels.set ch chan' }, msg)

end Registry

inductive RegistryRequest (T : Type) where
  | register (correlID : String)
  | deliver (correlID : String) (msg : T)
  | deregister (correlID : String)
  | receive (ch : ChanId)
  | len

inductive RegistryThread (T : Type) where
  | register (correlID : String) (pc : RegisterPc)
  | deliver (correlID : String) (msg : T) (pc : DeliverPc)
  | deregister (correlID : String) (done : Bool)
  | receive (ch : ChanId) (got : Option T)
  | len (result : Option Nat)

abbrev RegistryConfig (T : Type) := Interleave.Config (Registry T) (RegistryThread T)
abbrev RegistryMove (T : Type) := Interleave.Move (RegistryRequest T) Unit

def RegistryThread.step {T : Type} (r : Registry T) :
    RegistryThread T → Option (Registry T × RegistryThread T)
  | .register correlID pc => (r.register correlID pc).map fun s => (s.1, .register correlID s.2)
  | .deliver correlID msg pc =>
      (r.deliver correlID msg pc).map fun s => (s.1, .deliver correlID msg s.2)
  | .deregister correlID false => some (r.deregister correlID, .deregister correlID true)
  | .receive ch none => (r.receive ch).map fun s => (s.1, .receive ch (some s.2))
  | .len none => some (r, .len (some r.len))
  | .deregister _ true | .receive _ (some _) | .len (some _) => none

def registryProgram (T : Type) :
    Interleave.Program (Registry T) (RegistryRequest T) (RegistryThread T) Unit where
  start
    | .register correlID => .register correlID .make
    | .deliver correlID msg => .deliver correlID msg .lookup
    | .deregister correlID => .deregister correlID false
    | .receive ch => .receive ch none
    | .len => .len none
  step r t _ := (t.step r).map fun s => (s.1, s.2, [])

/-! ## What happens in a run -/

inductive RegistryEvent (T : Type) where
  | registered (correlID : String) (ch : ChanId)
  | deregistered (correlID : String)
  /-- `Deliver` comes to its send, which succeeds or is given up. -/
  | sent (correlID : String) (msg : T) (ch : ChanId) (accepted : Bool)
  | received (ch : ChanId) (msg : T)

variable {T : Type}

/-- What the next step of a thread does. -/
def RegistryThread.event (r : Registry T) : RegistryThread T → List (RegistryEvent T)
  | .register correlID (.store ch) => [.registered correlID ch]
  | .deliver correlID msg (.send ch) =>
      (r.channels[ch]?.map fun chan =>
        RegistryEvent.sent correlID msg ch (chan.trySend msg).isSome).toList
  | .deregister correlID false => [.deregistered correlID]
  | .receive ch none => ((r.receive ch).map fun s => RegistryEvent.received ch s.2).toList
  | _ => []

/-- The events of a move, with the thread that made them. -/
def registryEvents (c : RegistryConfig T) : RegistryMove T → List (Nat × RegistryEvent T)
  | .act i _ => ((c.threads[i]?.map fun t => t.event c.shared).getD []).map (i, ·)
  | .call _ => []

/-- The events of a run from `c`. -/
def eventsFrom (c : RegistryConfig T) (ms : List (RegistryMove T)) :
    List (Nat × RegistryEvent T) :=
  (registryProgram T).trail registryEvents c ms

/-- The correlation ID was registered, and not deregistered since. -/
def Registered (past : List (Nat × RegistryEvent T)) (correlID : String) : Prop :=
  ∃ before i ch after, past = before ++ (i, .registered correlID ch) :: after ∧
    ∀ j, (j, .deregistered correlID) ∉ after

/-! ## The steps -/

/-- What one step of a thread can be, with its events. -/
inductive RegistryStep (r : Registry T) :
    RegistryThread T → Registry T → RegistryThread T → List (RegistryEvent T) → Prop where
  | make {correlID} : RegistryStep r (.register correlID .make)
      { r with channels := r.channels ++ [{ capacity := 1 }] }
      (.register correlID (.store r.channels.length)) []
  | store {correlID ch} : RegistryStep r (.register correlID (.store ch))
      { r with pending := r.pending.insert correlID ch } (.register correlID (.returned ch))
      [.registered correlID ch]
  | missed {correlID msg} : r.pending.lookup correlID = none →
      RegistryStep r (.deliver correlID msg .lookup) r (.deliver correlID msg .returned) []
  | found {correlID msg ch} : r.pending.lookup correlID = some ch →
      RegistryStep r (.deliver correlID msg .lookup) r (.deliver correlID msg (.send ch)) []
  | sent {correlID msg ch chan} : r.channels[ch]? = some chan →
      chan.buffer.length < chan.capacity →
      RegistryStep r (.deliver correlID msg (.send ch))
        { r with channels := r.channels.set ch { chan with buffer := chan.buffer ++ [msg] } }
        (.deliver correlID msg .returned) [.sent correlID msg ch true]
  | dropped {correlID msg ch chan} : r.channels[ch]? = some chan →
      ¬chan.buffer.length < chan.capacity →
      RegistryStep r (.deliver correlID msg (.send ch)) r (.deliver correlID msg .returned)
        [.sent correlID msg ch false]
  | deregistered {correlID} : RegistryStep r (.deregister correlID false)
      { r with pending := r.pending.erase correlID } (.deregister correlID true)
      [.deregistered correlID]
  | received {ch chan msg rest} : r.channels[ch]? = some chan → chan.buffer = msg :: rest →
      RegistryStep r (.receive ch none)
        { r with channels := r.channels.set ch { chan with buffer := rest } }
        (.receive ch (some msg)) [.received ch msg]
  | counted : RegistryStep r (.len none) r (.len (some r.len)) []

theorem RegistryThread.step_cases {r r' : Registry T} {t t' : RegistryThread T}
    (h : t.step r = some (r', t')) : RegistryStep r t r' t' (t.event r) := by
  cases t with
  | register correlID pc =>
      cases pc with
      | make =>
          cases h
          exact .make
      | store ch =>
          cases h
          exact .store
      | returned => cases h
  | deliver correlID msg pc =>
      cases pc with
      | lookup =>
          simp only [step, Registry.deliver] at h
          split at h
          · cases h
            exact .missed ‹_›
          · cases h
            exact .found ‹_›
      | send ch =>
          simp only [step, Registry.deliver] at h
          split at h
          · cases h
          · rename_i chan there
            by_cases room : chan.buffer.length < chan.capacity
            · have accepted := Channel.trySend_of_room room msg
              have happens : (deliver correlID msg (.send ch)).event r =
                  [.sent correlID msg ch true] := by simp [event, there, accepted]
              rw [accepted] at h
              cases h
              rw [happens]
              exact .sent there room
            · have refused := Channel.trySend_of_full room msg
              have happens : (deliver correlID msg (.send ch)).event r =
                  [.sent correlID msg ch false] := by simp [event, there, refused]
              rw [refused] at h
              cases h
              rw [happens]
              exact .dropped there room
      | returned => cases h
  | deregister correlID done =>
      cases done with
      | false =>
          cases h
          exact .deregistered
      | true => cases h
  | receive ch got =>
      cases got with
      | none =>
          obtain ⟨⟨r₁, msg⟩, taken, same⟩ := Option.map_eq_some_iff.mp h
          have happens : (receive ch none).event r = [.received ch msg] := by
            simp [event, taken]
          obtain ⟨rfl, rfl⟩ := Prod.mk.inj same
          rw [happens]
          simp only [Registry.receive] at taken
          split at taken
          · cases taken
          · rename_i chan there
            cases queued : chan.buffer with
            | nil => simp [Channel.receive, queued] at taken
            | cons first rest =>
                simp only [Channel.receive, queued] at taken
                cases taken
                exact .received there queued
      | some => cases h
  | len result =>
      cases result with
      | none =>
          cases h
          exact .counted
      | some => cases h

/-- A move of the whole registry is a new call, or one step of one thread. -/
theorem registry_cases {c c' : RegistryConfig T} {m : RegistryMove T}
    (h : (registryProgram T).next c m = some c') :
    (∃ q, m = .call q ∧ registryEvents c m = [] ∧
      c' = ⟨c.shared, c.threads ++ [(registryProgram T).start q]⟩) ∨
    ∃ i t r t' events, m = .act i () ∧ c.threads[i]? = some t ∧
      RegistryStep c.shared t r t' events ∧ registryEvents c m = events.map (i, ·) ∧
      c' = ⟨r, c.threads.set i t'⟩ := by
  obtain ⟨q, rfl, rfl⟩ | ⟨i, a, t, r, t', started, rfl, found, stepped, rfl⟩ :=
    Program.next_cases h
  · exact .inl ⟨q, rfl, rfl, rfl⟩
  · obtain ⟨⟨r₁, t₁⟩, own, same⟩ := Option.map_eq_some_iff.mp stepped
    obtain ⟨rfl, rfl, rfl⟩ := same
    refine .inr ⟨i, t, r₁, t₁, _, rfl, found, RegistryThread.step_cases own, ?_, ?_⟩
    · simp [registryEvents, found]
    · rw [List.append_nil]

end CommonsMQ
