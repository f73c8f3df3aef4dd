import CommonsMQ.Correlation
import CommonsMQ.RequestReply.Routing

/-! # Which correlation IDs tell calls apart

A creator's correlation ID is accepted if it is the hex of at most `idLength` bytes, and
the key is these bytes followed by zeros. So an ID of zeros gives the key that matches
every reply, and zeros at the end of an ID are lost.
-/

namespace CommonsMQ

open Interleave

/-! ## Keys of zeros and equal keys -/

/-- The fixed-queue flow takes the creator's ID and settles on `key`. -/
def Accepts (correlationID : String) (key : MsgId) : Prop :=
  correlationID ≠ "" ∧ ∃ generated, correlationKey generated correlationID = .ok key

/-- Equal but for the case of the digits. -/
def SameHex (s t : String) : Prop := s.toList.map Char.toLower = t.toList.map Char.toLower

/-- `t` is `s` followed by zero bytes. -/
def ZerosAppended (s t : String) : Prop :=
  ∃ n, 0 < n ∧ t.toList.map Char.toLower = s.toList.map Char.toLower ++ List.replicate (2 * n) '0'

/-- There is a digit other than zero. -/
def HasNonzero (s : String) : Prop := ∃ c ∈ s.toList, c ≠ '0'

section Keys

variable {s t : String} {k l : MsgId}

theorem Accepts.encodes (accepts : Accepts s k) : Encodes s k := by
  obtain ⟨given, generated, settled⟩ := accepts
  by_cases valid : IsIdentifier s
  · obtain ⟨encodes, read⟩ := valid.read given generated
    cases settled.symm.trans read
    exact encodes
  · rw [correlationKey_rejects given valid generated] at settled
    cases settled

/-- Two lists, filled up to the same width with one value. -/
theorem fill_eq_fill {α : Type} {z : α} {width : Nat} {a b : List α} (le : a.length ≤ b.length)
    (fits : b.length ≤ width) :
    a ++ List.replicate (width - a.length) z = b ++ List.replicate (width - b.length) z ↔
      b = a ++ List.replicate (b.length - a.length) z := by
  constructor
  · intro same
    have front := congrArg (List.take b.length) same
    rw [List.take_left, List.take_append, List.take_of_length_le le, List.take_replicate,
      min_eq_left (by omega)] at front
    exact front.symm
  · intro same
    have rest : width - a.length = (b.length - a.length) + (width - b.length) := by omega
    rw [rest, List.replicate_add, ← List.append_assoc, ← same]

theorem Encodes.zero_iff (encodes : Encodes s k) : k = .zero ↔ ¬HasNonzero s := by
  obtain ⟨bytes, spells, fits, same⟩ := encodes
  have zero : k = .zero ↔ bytes = List.replicate bytes.length 0 := by
    have empty := fill_eq_fill (z := (0 : UInt8)) (a := []) (b := bytes) (Nat.zero_le _) fits
    constructor
    · intro zero
      rw [zero] at same
      simpa using empty.mp (by simpa [MsgId.zero] using same)
    · intro zeros
      apply MsgId.ext_bytes
      rw [same, ← empty.mpr (by simpa using zeros)]
      simp [MsgId.zero]
  rw [zero, spells.eq_zeros_iff]
  simp [HasNonzero]

theorem spelled_with_zeros {a b : Bytes} (spellsA : Hex.Spells s a) (spellsB : Hex.Spells t b)
    (n : Nat) : b = a ++ List.replicate n 0 ↔
      t.toList.map Char.toLower = s.toList.map Char.toLower ++ List.replicate (2 * n) '0' := by
  rw [show s.toList.map Char.toLower = Hex.encode a from spellsA,
    show t.toList.map Char.toLower = Hex.encode b from spellsB, ← Hex.encode_zeros,
    ← Hex.encode_append, Hex.encode_injective.eq_iff]

theorem fills_alike_iff {a b : Bytes} (fitsA : a.length ≤ idLength) (fitsB : b.length ≤ idLength) :
    a ++ List.replicate (idLength - a.length) 0 = b ++ List.replicate (idLength - b.length) 0 ↔
      (∃ n, b = a ++ List.replicate n 0) ∨ ∃ n, a = b ++ List.replicate n 0 := by
  constructor
  · intro same
    rcases Nat.le_total a.length b.length with le | le
    · exact .inl ⟨_, (fill_eq_fill le fitsB).mp same⟩
    · exact .inr ⟨_, (fill_eq_fill le fitsA).mp same.symm⟩
  · rintro (⟨n, rfl⟩ | ⟨n, rfl⟩)
    · exact (fill_eq_fill (by simp) fitsB).mpr (by simp)
    · exact ((fill_eq_fill (by simp) fitsA).mpr (by simp)).symm

theorem sameHex_or_zerosAppended_iff : SameHex s t ∨ ZerosAppended s t ∨ ZerosAppended t s ↔
    (∃ n, t.toList.map Char.toLower = s.toList.map Char.toLower ++ List.replicate (2 * n) '0') ∨
    ∃ n, s.toList.map Char.toLower = t.toList.map Char.toLower ++ List.replicate (2 * n) '0' := by
  constructor
  · rintro (same | ⟨n, -, appended⟩ | ⟨n, -, appended⟩)
    · exact .inl ⟨0, by simpa using same.symm⟩
    · exact .inl ⟨n, appended⟩
    · exact .inr ⟨n, appended⟩
  · rintro (⟨n, appended⟩ | ⟨n, appended⟩)
    · rcases Nat.eq_zero_or_pos n with rfl | positive
      · exact .inl (by simpa [SameHex] using appended.symm)
      · exact .inr (.inl ⟨n, positive, appended⟩)
    · rcases Nat.eq_zero_or_pos n with rfl | positive
      · exact .inl (by simpa [SameHex] using appended)
      · exact .inr (.inr ⟨n, positive, appended⟩)

/-- Two IDs have one key exactly if they are the same hex but for zeros at the end. -/
theorem Encodes.eq_iff (encodesS : Encodes s k) (encodesT : Encodes t l) :
    k = l ↔ SameHex s t ∨ ZerosAppended s t ∨ ZerosAppended t s := by
  obtain ⟨a, spellsA, fitsA, sameA⟩ := encodesS
  obtain ⟨b, spellsB, fitsB, sameB⟩ := encodesT
  have bytes : k = l ↔ k.bytes = l.bytes := ⟨congrArg MsgId.bytes, MsgId.ext_bytes⟩
  rw [bytes, sameA, sameB, fills_alike_iff fitsA fitsB, sameHex_or_zerosAppended_iff]
  simp only [spelled_with_zeros spellsA spellsB, spelled_with_zeros spellsB spellsA]

/-- The key does not depend on the generated one. -/
theorem Accepts.unique (first : Accepts s k) (second : Accepts s l) : k = l :=
  (first.encodes.eq_iff second.encodes).mpr (.inl rfl)

end Keys

/-! ## From the creator to the key -/

/-- The step on which a call with a creator settles on its key. -/
theorem requestReplyViaFixedQueue_settles {spec replyQueue pc answer put pc'} {key : MsgId}
    (h : requestReplyViaFixedQueue spec replyQueue pc answer = some (put, .running pc'))
    (creator : spec.hasCreator = true) (open_ : pc.key = none) (settled : pc'.key = some key) :
    ∃ generated msg, pc = .runCreator generated ∧ answer = .created (.ok msg) ∧
      correlationKey generated msg.correlationID = .ok key := by
  cases pc with
  | openReply | openRequest | mqput | get => cases open_
  | generate =>
      unfold requestReplyViaFixedQueue at h
      cases answer with
      | random answer =>
          cases answer with
          | error => cases h
          | ok =>
              cases h
              cases settled
      | _ => cases h
  | runCreator generated =>
      cases answer with
      | created result =>
          cases result with
          | error => simp [requestReplyViaFixedQueue, wrappedCreator, creator] at h
          | ok msg =>
              simp only [requestReplyViaFixedQueue, wrappedCreator, creator, if_true,
                injectToMessage_correlationID] at h
              split at h
              · cases h
              · rename_i read
                cases h
                cases settled
                exact ⟨_, _, rfl, rfl, read⟩
      | _ => simp [requestReplyViaFixedQueue, wrappedCreator, creator] at h

/-- Every message that the creator of thread `i` leaves has this correlation ID. -/
def Supplies (i : Nat) (correlationID : String) (m : Move RouteRequest RouteAnswer) : Prop :=
  ∀ msg, m = .act i (.flow (.created (.ok msg))) → msg.correlationID = correlationID

/-- If thread `i` is a call with a creator, its key is made from this correlation ID. -/
def KeyFrom (i : Nat) (correlationID : String) (c : RouteConfig) : Prop :=
  ∀ call, c.threads[i]? = some (.call call) → call.spec.hasCreator = true →
    ∀ key, call.key = some key → ∃ generated, correlationKey generated correlationID = .ok key

/-- A call comes to a key by a step of its flow. -/
theorem FixedCall.step_key {q q' : Queues} {call call' : FixedCall} {a : RouteAnswer} {key : MsgId}
    (h : call.step q a = some (q', call')) (before : call.Consistent) (open_ : call.key = none)
    (settled : call'.key = some key) : ∃ pc answer put pc', a = .flow answer ∧ pc.key = none ∧
      requestReplyViaFixedQueue call.spec call.replyQueue pc answer = some (put, .running pc') ∧
      pc'.key = some key := by
  unfold step at h
  split at h
  · split at h
    · cases h
    · rename_i pc _ at_pc
      split at h
      · cases h
      · rename_i put out moved
        obtain ⟨rfl, rfl⟩ := Prod.mk.inj (Option.some.inj h)
        simp only [advance, open_, Option.none_or] at settled
        cases out with
        | running pc' =>
            exact ⟨pc, _, put, pc', rfl, (before.key pc at_pc).symm.trans open_, moved, settled⟩
        | returned | panicked => cases settled
    · cases h
  · -- a call that gets has its key
    split at h
    · rename_i at_get
      cases open_.symm.trans (before.key _ at_get)
    · cases h
  · split at h
    · rename_i at_get
      cases open_.symm.trans (before.key _ at_get)
    · cases h
  · cases h

theorem routeProgram_step_call {q q' : Queues} {t : RouteThread} {a : RouteAnswer}
    {call' : FixedCall} {started} (h : routeProgram.step q t a = some (q', .call call', started)) :
    call'.key = none ∨ ∃ call, t = .call call ∧ call.step q a = some (q', call') := by
  obtain ⟨⟨q₁, t₁⟩, moved, same⟩ := Option.map_eq_some_iff.mp h
  obtain ⟨rfl, rfl, -⟩ : q₁ = q' ∧ t₁ = .call call' ∧ _ := by simpa using same
  unfold RouteThread.step at moved
  split at moved
  · cases moved
    exact .inl rfl
  · cases moved
  · obtain ⟨⟨q₂, call₂⟩, inner, same⟩ := Option.map_eq_some_iff.mp moved
    cases same
    exact .inr ⟨_, rfl, inner⟩
  · obtain ⟨served, -, same⟩ := Option.map_eq_some_iff.mp moved
    cases same

namespace KeyFrom

variable {c c' : RouteConfig} {i : Nat} {s : String} {m : Move RouteRequest RouteAnswer}

/-- Threads that are not there yet are no calls after a move. -/
theorem fresh (absent : c.threads[i]? = none) (moved : routeProgram.next c m = some c')
    (call : FixedCall) : c'.threads[i]? ≠ some (.call call) := by
  intro found
  obtain ⟨r, -, rfl⟩ | ⟨j, a, t, q', t', started, -, _, stepped, rfl⟩ := Program.next_cases moved
  · rw [List.getElem?_append_right (List.getElem?_eq_none_iff.mp absent)] at found
    have member := List.mem_singleton.mp (List.mem_of_getElem? found)
    cases r with
    | call | serve => cases member
  · obtain ⟨-, rfl⟩ := routeProgram_step stepped
    have inside := (List.getElem?_eq_some_iff.mp found).1
    have outside := List.getElem?_eq_none_iff.mp absent
    simp only [List.append_nil, List.length_set] at inside
    omega

theorem next (before : KeyFrom i s c) (inv : RouteInv c) (supplies : Supplies i s m)
    (moved : routeProgram.next c m = some c') : KeyFrom i s c' := by
  intro call' found creator key settled
  cases at_i : c.threads[i]? with
  | none => exact absurd found (fresh at_i moved call')
  | some t =>
      obtain ⟨-, kept⟩ | ⟨a, t', started, rfl, stepped, at_i'⟩ := Program.next_at at_i moved
      · have same := at_i.trans (kept.symm.trans found)
        exact before call' same creator key settled
      · obtain rfl := Option.some.inj (at_i'.symm.trans found)
        rcases routeProgram_step_call stepped with open_ | ⟨call, rfl, inner⟩
        · cases open_.symm.trans settled
        have settings := (FixedCall.step_cases inner).settings
        have creator' : call.spec.hasCreator = true := by rw [← settings.1, creator]
        cases earlier : call.key with
        | some key' =>
            have same := (settings.2.2.2.2 key' earlier).symm.trans settled
            cases same
            exact before call at_i creator' _ earlier
        | none =>
            have consistent := inv.consistent _ (List.mem_of_getElem? at_i) call rfl
            obtain ⟨pc, answer, put, pc', rfl, open_, flow, has⟩ :=
              FixedCall.step_key inner consistent earlier settled
            obtain ⟨generated, msg, -, rfl, read⟩ :=
              requestReplyViaFixedQueue_settles flow creator' open_ has
            exact ⟨generated, supplies msg rfl ▸ read⟩

theorem run {ms : List (Move RouteRequest RouteAnswer)}
    (supplies : ∀ m ∈ ms, Supplies i s m) (run : routeProgram.exec ⟨{}, []⟩ ms = some c) :
    KeyFrom i s c := by
  have start : RouteInv ⟨{}, []⟩ ∧ KeyFrom i s ⟨{}, []⟩ := ⟨.start, fun _ found => by cases found⟩
  have keep : ∀ c m c', RouteInv c ∧ KeyFrom i s c → Supplies i s m →
      routeProgram.next c m = some c' → RouteInv c' ∧ KeyFrom i s c' := by
    rintro c m c' ⟨inv, before⟩ allowed moved
    exact ⟨inv.next moved, before.next inv allowed moved⟩
  exact (Program.exec_invariant keep start (Program.meets_of_forall supplies) run).2

end KeyFrom

/-! ## Replies of other calls -/

/-- No call for which its creator has set ID `s` takes a message that is, or answers, the
    request of a call with ID `t`. -/
def NeverTakes (s t : String) : Prop :=
  ∀ ms c (i j : Nat) (call other : FixedCall), routeProgram.exec ⟨{}, []⟩ ms = some c →
    (∀ m ∈ ms, Supplies i s m) → (∀ m ∈ ms, Supplies j t m) →
    c.threads[i]? = some (.call call) → c.threads[j]? = some (.call other) →
    call.spec.hasCreator = true → other.spec.hasCreator = true → i ≠ j →
    ∀ p ∈ call.taken, p.origin.ticket ≠ other.ticket

theorem neverTakes_of_keys {s t : String} {k l : MsgId} (acceptsS : Accepts s k)
    (acceptsT : Accepts t l) (nonzero : k ≠ .zero) (apart : k ≠ l) : NeverTakes s t := by
  intro ms c i j call other run suppliesS suppliesT found found' creator creator' _ p taken same
  have inv := RouteInv.run run
  have member := List.mem_of_getElem? found
  have consistent := inv.consistent _ member call rfl
  -- the key by which it was taken, and the one it bears
  obtain ⟨-, filter, asked, matching⟩ := consistent.matching p taken
  have settled := consistent.stamped _ (consistent.filter _ asked)
  obtain ⟨generated, read⟩ := KeyFrom.run suppliesS run call found creator filter settled
  obtain rfl : filter = k := Accepts.unique ⟨acceptsS.1, generated, read⟩ acceptsS
  obtain ⟨_, there, owner, rfl, traced⟩ := inv.held _ member p taken
  obtain ⟨n, at_n⟩ := List.mem_iff_getElem?.mp there
  obtain rfl : n = j := by
    by_contra different
    exact filterMap_nodup_ne inv.distinct different at_n found' rfl rfl (traced.ticket.trans same)
  obtain rfl : owner = other := by simpa using at_n.symm.trans found'
  obtain ⟨generated', read'⟩ := KeyFrom.run suppliesT run owner found' creator' _ traced.key
  have bears : p.queued.md.correlId = l := Accepts.unique ⟨acceptsT.1, generated', read'⟩ acceptsT
  rcases matching with zero | same
  · exact nonzero zero
  · exact apart (same.symm.trans bears)

/-! ## How a reply crosses over -/

/-- A call on the queues `REQ` and `REP`. -/
def caller : RouteThread := .entering (askingOn "REQ") "REP"

def server (held : Option Posted) : RouteThread :=
  .responder { cfg := ClientConfig.minimal.cfg, queue := "REQ", held := held }

/-- The caller puts its request; its creator sets the correlation ID. -/
def asksFor (correlationID : String) : List RouteAnswer :=
  [.enter, .flow (.random (.ok .zero)), .flow (.created (.ok (.correlated correlationID))),
    .flow (.opened none), .flow (.opened none), .flow (.putOk .zero)]

def askedFor (ticket : Nat) (key : MsgId) : FixedCall :=
  { spec := askingOn "REQ", replyQueue := "REP", ticket := ticket
    pc := .running (.get key (waitInterval 1000000000)), key := some key, stamped := some key }

def requestUnder (ticket : Nat) (key : MsgId) (msg : Message Bytes) : Posted :=
  ⟨(askingOn "REQ").queued "REP" key msg .zero, .request ticket⟩

theorem solo_asksFor (q : Queues) {s : String} {k : MsgId}
    (read : correlationKey .zero s = .ok k) : ∃ msg, routeProgram.solo q caller (asksFor s) =
      some (⟨q.posted ++ [requestUnder q.tickets k msg], q.tickets + 1⟩,
        .call (askedFor q.tickets k)) := by
  refine ⟨injectToMessage ClientConfig.minimal.cfg.propagator none (.correlated s), ?_⟩
  simp [asksFor, Program.solo, routeProgram, caller, RouteThread.step, FixedCall.step,
    requestReplyViaFixedQueue, wrappedCreator, askingOn, read, FixedCall.advance, FlowOutcome.key,
    FixedPc.key, Queues.post, askedFor, requestUnder, Message.correlated]
  rfl

theorem solo_answers {q : Queues} {n : Nat} {p : Posted} (at_n : q.posted[n]? = some p)
    (queue : p.queued.queue = "REQ") : ∃ reply : Posted,
    routeProgram.solo q (server none) [.receive n, .respond "REP" .fresh .zero] =
      some (⟨q.posted.eraseIdx n ++ [reply], q.tickets⟩, server (some p)) ∧
    reply.queued.queue = "REP" ∧ reply.queued.md.correlId = p.queued.md.correlId ∧
    reply.queued.body = [] ∧ reply.origin = .reply p.origin.ticket := by
  have found : (q.posted[n]?).filter (fun p => p.queued.queue = "REQ") = some p := by
    simp [at_n, queue]
  have received : routeProgram.step q (server none) (.receive n) =
      some (q.remove n, server (some p), []) := by
    simp only [routeProgram, server, RouteThread.step, Responder.step, found, Option.map_some]
  refine ⟨⟨⟨"REP", { putDescriptor ClientConfig.minimal.cfg
    (.correlated p.queued.md.correlId.hex) with msgId := .zero }, []⟩, .reply p.origin.ticket⟩,
    ?_, rfl, correlIdOf_hex _, rfl, rfl⟩
  simp only [Program.solo, received]
  rfl

theorem solo_takes {q : Queues} {n ticket : Nat} {k : MsgId} {p : Posted}
    (at_n : q.posted[n]? = some p) (queue : p.queued.queue = "REP")
    (matching : matchesCorrelId k p.queued.md) (short : p.queued.body.length ≤ bufferSize) :
    ∃ call, routeProgram.solo q (.call (askedFor ticket k)) [.take n] =
        some (q.remove n, .call call) ∧ call.taken = [p] ∧ call.spec = askingOn "REQ" := by
  have found : (askedFor ticket k).mayTake q k n = some p := by
    simp [FixedCall.mayTake, at_n, queue, matching, askedFor]
  have got : requestReplyViaFixedQueue (askedFor ticket k).spec (askedFor ticket k).replyQueue
      (.get k (waitInterval 1000000000)) (.got p.queued.md p.queued.body) =
        some (none, .returned (.ok (messageFromMQMD p.queued.md p.queued.body))) := if_pos short
  have at_get : (askedFor ticket k).pc = .running (.get k (waitInterval 1000000000)) := rfl
  refine ⟨(askedFor ticket k).gets k (some p)
    (.returned (.ok (messageFromMQMD p.queued.md p.queued.body))), ?_, rfl, rfl⟩
  simp only [Program.solo, routeProgram, RouteThread.step, FixedCall.step, at_get, found, got,
    Option.map_some]

/-- Two calls ask with the IDs `s` and `t`. The second is answered, and the first gets. -/
def crossing (s t : String) : List (Move RouteRequest RouteAnswer) :=
  [.call (.call (askingOn "REQ") "REP"), .call (.call (askingOn "REQ") "REP"),
    .call (.serve ClientConfig.minimal.cfg "REQ")] ++
  ((asksFor s).map (.act 0) ++ ((asksFor t).map (.act 1) ++
    ([.receive 1, .respond "REP" .fresh .zero].map (.act 2) ++ [.take 1].map (.act 0))))

theorem crossing_supplies (s t : String) :
    (∀ m ∈ crossing s t, Supplies 0 s m) ∧ ∀ m ∈ crossing s t, Supplies 1 t m := by
  constructor <;> simp [crossing, asksFor, Supplies, Message.correlated]

/-- The first call takes the reply to the second if its key matches that one's. -/
theorem exec_crossing {s t : String} {k l : MsgId} (readS : correlationKey .zero s = .ok k)
    (readT : correlationKey .zero t = .ok l) (matching : k = .zero ∨ l = k) :
    ∃ c call other p, routeProgram.exec ⟨{}, []⟩ (crossing s t) = some c ∧
      c.threads[0]? = some (.call call) ∧ c.threads[1]? = some (.call other) ∧
      call.spec.hasCreator = true ∧ other.spec.hasCreator = true ∧ p ∈ call.taken ∧
      p.origin = .reply other.ticket := by
  obtain ⟨first, asks⟩ := solo_asksFor {} readS
  obtain ⟨second, asksToo⟩ := solo_asksFor ⟨[requestUnder 0 k first], 1⟩ readT
  obtain ⟨reply, answers, queue, key, body, origin⟩ := @solo_answers
    ⟨[requestUnder 0 k first, requestUnder 1 l second], 2⟩ 1 _ rfl rfl
  obtain ⟨call, takes, taken, spec⟩ := @solo_takes ⟨[requestUnder 0 k first, reply], 2⟩ 1 0 k
    reply rfl queue (matching.imp_right key.trans) (by simp [body])
  have called : routeProgram.exec ⟨{}, []⟩ [.call (.call (askingOn "REQ") "REP"),
      .call (.call (askingOn "REQ") "REP"), .call (.serve ClientConfig.minimal.cfg "REQ")] =
        some ⟨{}, [caller, caller, server none]⟩ := rfl
  have asked : routeProgram.exec ⟨{}, [caller, caller, server none]⟩ ((asksFor s).map (.act 0)) =
      some ⟨⟨[requestUnder 0 k first], 1⟩, [.call (askedFor 0 k), caller, server none]⟩ :=
    Program.exec_solo rfl asks
  have askedToo : routeProgram.exec
      ⟨⟨[requestUnder 0 k first], 1⟩, [.call (askedFor 0 k), caller, server none]⟩
      ((asksFor t).map (.act 1)) = some ⟨⟨[requestUnder 0 k first, requestUnder 1 l second], 2⟩,
        [.call (askedFor 0 k), .call (askedFor 1 l), server none]⟩ :=
    Program.exec_solo rfl asksToo
  have answered : routeProgram.exec ⟨⟨[requestUnder 0 k first, requestUnder 1 l second], 2⟩,
      [.call (askedFor 0 k), .call (askedFor 1 l), server none]⟩
      ([.receive 1, .respond "REP" .fresh .zero].map (.act 2)) =
        some ⟨⟨[requestUnder 0 k first, reply], 2⟩, [.call (askedFor 0 k), .call (askedFor 1 l),
          server (some (requestUnder 1 l second))]⟩ :=
    Program.exec_solo rfl answers
  have crossed : routeProgram.exec ⟨⟨[requestUnder 0 k first, reply], 2⟩,
      [.call (askedFor 0 k), .call (askedFor 1 l), server (some (requestUnder 1 l second))]⟩
      ([.take 1].map (.act 0)) = some ⟨⟨[requestUnder 0 k first], 2⟩,
        [.call call, .call (askedFor 1 l), server (some (requestUnder 1 l second))]⟩ :=
    Program.exec_solo rfl takes
  have run := Program.exec_trans called (Program.exec_trans asked
    (Program.exec_trans askedToo (Program.exec_trans answered crossed)))
  refine ⟨_, call, askedFor 1 l, reply, run, rfl, rfl, ?_, rfl, ?_, origin⟩
  · rw [spec]
    rfl
  · simp [taken]

/-! ## The IDs that tell calls apart -/

section Selective

variable {s t : String} {k l : MsgId}

theorem Accepts.read (accepts : Accepts s k) (generated : MsgId) :
    correlationKey generated s = .ok k := by
  obtain ⟨given, other, read⟩ := accepts
  rw [← read]
  simp only [correlationKey, given, if_false]

theorem not_neverTakes (acceptsS : Accepts s k) (acceptsT : Accepts t l)
    (matching : k = .zero ∨ l = k) : ¬NeverTakes s t := by
  intro never
  obtain ⟨c, call, other, p, run, found, found', creator, creator', taken, origin⟩ :=
    exec_crossing (acceptsS.read .zero) (acceptsT.read .zero) matching
  obtain ⟨suppliesS, suppliesT⟩ := crossing_supplies s t
  apply never _ c 0 1 call other run suppliesS suppliesT found found' creator creator' (by decide) p
    taken
  rw [origin, Origin.ticket]

theorem ZerosAppended.not_sameHex (appended : ZerosAppended s t) : ¬SameHex s t := by
  obtain ⟨n, positive, longer⟩ := appended
  intro same
  have length := congrArg List.length longer
  rw [← same, List.length_append, List.length_replicate] at length
  omega

theorem Accepts.apart_iff (acceptsS : Accepts s k) (acceptsT : Accepts t l)
    (different : ¬SameHex s t) : k ≠ l ↔ ¬ZerosAppended s t ∧ ¬ZerosAppended t s := by
  rw [ne_eq, acceptsS.encodes.eq_iff acceptsT.encodes]
  simp only [different, false_or, not_or]

theorem Accepts.nonzero_iff (accepts : Accepts s k) : k ≠ .zero ↔ HasNonzero s := by
  rw [ne_eq, accepts.encodes.zero_iff, not_not]

/-- The key of `s` is no wildcard, it is that of `t` only if the two are the same, and
    otherwise a call with ID `s` takes no reply to one with ID `t`. -/
structure Selective (s t : String) (k l : MsgId) : Prop where
  nonzero : k ≠ .zero
  apart : k = l → SameHex s t
  routed : ¬SameHex s t → NeverTakes s t

theorem neverTakes_iff (acceptsS : Accepts s k) (acceptsT : Accepts t l)
    (different : ¬SameHex s t) :
    NeverTakes s t ↔ HasNonzero s ∧ ¬ZerosAppended s t ∧ ¬ZerosAppended t s := by
  rw [← acceptsS.nonzero_iff, ← acceptsS.apart_iff acceptsT different]
  constructor
  · intro never
    constructor
    · intro zero
      exact not_neverTakes acceptsS acceptsT (.inl zero) never
    · intro same
      exact not_neverTakes acceptsS acceptsT (.inr same.symm) never
  · rintro ⟨nonzero, apart⟩
    exact neverTakes_of_keys acceptsS acceptsT nonzero apart

/-- The keys of two accepted IDs are selective exactly if the first has a digit other than
    zero and neither is the other followed by zero bytes. If the IDs differ, nothing
    crosses over under the same condition and no other. -/
theorem correlation_ids_selective_iff (acceptsS : Accepts s k) (acceptsT : Accepts t l) :
    (Selective s t k l ↔ HasNonzero s ∧ ¬ZerosAppended s t ∧ ¬ZerosAppended t s) ∧
    (¬SameHex s t →
      (NeverTakes s t ↔ HasNonzero s ∧ ¬ZerosAppended s t ∧ ¬ZerosAppended t s)) := by
  refine ⟨⟨?_, ?_⟩, neverTakes_iff acceptsS acceptsT⟩
  · intro selective
    refine ⟨acceptsS.nonzero_iff.mp selective.nonzero, ?_, ?_⟩
    · intro appended
      apply appended.not_sameHex
      exact selective.apart ((acceptsS.encodes.eq_iff acceptsT.encodes).mpr (.inr (.inl appended)))
    · intro appended
      apply appended.not_sameHex
      exact Eq.symm
        (selective.apart ((acceptsS.encodes.eq_iff acceptsT.encodes).mpr (.inr (.inr appended))))
  · rintro ⟨nonzero, forward, backward⟩
    refine ⟨acceptsS.nonzero_iff.mpr nonzero, ?_, ?_⟩
    · intro equal
      rcases (acceptsS.encodes.eq_iff acceptsT.encodes).mp equal with same | appended | appended
      · exact same
      · exact absurd appended forward
      · exact absurd appended backward
    · intro different
      exact (neverTakes_iff acceptsS acceptsT different).mpr ⟨nonzero, forward, backward⟩

end Selective

/-- The key that begins with the given bytes. -/
def keyBeginning (bytes : Bytes) : MsgId := MsgId.zero.copy bytes

theorem accepts_of_decode {s : String} {bytes : Bytes} (given : s ≠ "")
    (read : Hex.decodeString s = some bytes) (fits : ¬idLength < bytes.length) :
    Accepts s (keyBeginning bytes) := by
  refine ⟨given, .zero, ?_⟩
  simp only [correlationKey, given, read, fits, if_false, keyBeginning]

theorem correlation_ids_selective_unlike :
    Accepts "0A" (keyBeginning [0x0a]) ∧ Accepts "0b" (keyBeginning [0x0b]) ∧ ¬SameHex "0A" "0b" ∧
    Selective "0A" "0b" (keyBeginning [0x0a]) (keyBeginning [0x0b]) ∧ NeverTakes "0A" "0b" := by
  have first : Accepts "0A" (keyBeginning [0x0a]) :=
    accepts_of_decode (by decide) (by decide) (by decide)
  have second : Accepts "0b" (keyBeginning [0x0b]) :=
    accepts_of_decode (by decide) (by decide) (by decide)
  have different : ¬SameHex "0A" "0b" := by
    unfold SameHex
    decide
  have nonzero : HasNonzero "0A" := ⟨'A', by decide, by decide⟩
  have apart := (first.apart_iff second different).mp (by decide)
  obtain ⟨selective, never⟩ := correlation_ids_selective_iff first second
  exact ⟨first, second, different, selective.mpr ⟨nonzero, apart⟩,
    (never different).mpr ⟨nonzero, apart⟩⟩

/-- An ID of zeros gives the wildcard, and one that ends in zeros the key of another: both
    calls take a reply that is not theirs. -/
theorem replies_cross_over :
    (Accepts "00" .zero ∧ Accepts "ab" (keyBeginning [0xab]) ∧ ¬SameHex "00" "ab" ∧
      ¬NeverTakes "00" "ab") ∧
    (Accepts "ab" (keyBeginning [0xab]) ∧ Accepts "ab00" (keyBeginning [0xab]) ∧
      ¬SameHex "ab" "ab00" ∧ ¬NeverTakes "ab" "ab00") := by
  have zeros : Accepts "00" (keyBeginning [0x00]) :=
    accepts_of_decode (by decide) (by decide) (by decide)
  have first : Accepts "ab" (keyBeginning [0xab]) :=
    accepts_of_decode (by decide) (by decide) (by decide)
  have second : Accepts "ab00" (keyBeginning [0xab, 0x00]) :=
    accepts_of_decode (by decide) (by decide) (by decide)
  refine ⟨⟨zeros, first, ?_, not_neverTakes zeros first (.inl rfl)⟩,
    ⟨first, second, ?_, not_neverTakes first second (.inr rfl)⟩⟩
  · unfold SameHex
    decide
  · unfold SameHex
    decide

end CommonsMQ
