import Mathlib.Data.Set.Card
import CommonsMQ.Registry.Model

/-! # Replies reach the caller that registered for them

Every channel is made by one `Register`, so whoever finds it under a correlation ID found
it through that call. A value in a channel was therefore delivered with the ID of the
`Register` that returned the channel. The buffer is empty until the first delivery for an
ID comes to its send, and that one is not dropped.
-/

namespace CommonsMQ

open Interleave

variable {T : Type}

/-- A call that has returned. -/
def RegistryThread.done : RegistryThread T → Bool
  | .register _ (.returned _) | .deliver _ _ .returned | .deregister _ true
  | .receive _ (some _) | .len (some _) => true
  | _ => false

/-- The channel that a `Register` has made. -/
def RegistryThread.owns : RegistryThread T → Option ChanId
  | .register _ (.store ch) | .register _ (.returned ch) => some ch
  | _ => none

/-- `Register(correlID)` returned channel `ch`. -/
def Returned (c : RegistryConfig T) (correlID : String) (ch : ChanId) : Prop :=
  .register correlID (.returned ch) ∈ c.threads

def RegistryEvent.isSend : RegistryEvent T → Bool
  | .sent .. => true
  | _ => false

section Steps

variable {r r' : Registry T} {t t' u : RegistryThread T} {events : List (RegistryEvent T)}
  {threads : List (RegistryThread T)} {i j : Nat}

theorem RegistryStep.running (step : RegistryStep r t r' t' events) : t.done = false := by
  cases step <;> rfl

/-- Calls that have returned stay as they are. -/
theorem RegistryStep.keeps_done (step : RegistryStep r t r' t' events)
    (found : threads[i]? = some t) (at_j : threads[j]? = some u) (done : u.done = true) :
    (threads.set i t')[j]? = some u := by
  have other : i ≠ j := by
    rintro rfl
    obtain rfl := Option.some.inj (found.symm.trans at_j)
    rw [step.running] at done
    cases done
  exact (List.getElem?_set_ne other).trans at_j

theorem RegistryStep.keeps_done_mem (step : RegistryStep r t r' t' events)
    (found : threads[i]? = some t) (member : u ∈ threads) (done : u.done = true) :
    u ∈ threads.set i t' := by
  obtain ⟨j, at_j⟩ := List.mem_iff_getElem?.mp member
  exact List.mem_of_getElem? (step.keeps_done found at_j done)

end Steps

/-! ## Who made which channel -/

structure ChannelsOwned (c : RegistryConfig T) : Prop where
  buffers : ∀ chan ∈ c.shared.channels, chan.capacity = 1 ∧ chan.buffer.length ≤ 1
  made : ∀ ch ∈ c.threads.filterMap RegistryThread.owns, ch < c.shared.channels.length
  sole : (c.threads.filterMap RegistryThread.owns).Nodup

section Owned

variable {c c' : RegistryConfig T} {m : RegistryMove T}

theorem RegistryStep.buffers {r r' : Registry T} {t t' events}
    (step : RegistryStep r t r' t' events)
    (before : ∀ chan ∈ r.channels, chan.capacity = 1 ∧ chan.buffer.length ≤ 1) :
    ∀ chan ∈ r'.channels, chan.capacity = 1 ∧ chan.buffer.length ≤ 1 := by
  cases step with
  | make =>
      intro chan member
      rcases List.mem_append.mp member with old | new
      · exact before chan old
      · rw [List.mem_singleton.mp new]
        exact ⟨rfl, Nat.zero_le 1⟩
  | @sent _ _ _ old there room =>
      intro chan member
      rcases List.mem_or_eq_of_mem_set member with kept | rfl
      · exact before chan kept
      · obtain ⟨one, -⟩ := before old (List.mem_of_getElem? there)
        refine ⟨one, ?_⟩
        rw [List.length_append, List.length_singleton]
        omega
  | @received _ old _ _ there queued =>
      intro chan member
      rcases List.mem_or_eq_of_mem_set member with kept | rfl
      · exact before chan kept
      · obtain ⟨one, short⟩ := before old (List.mem_of_getElem? there)
        rw [queued, List.length_cons] at short
        exact ⟨one, by simp only; omega⟩
  | store | missed | found | dropped | deregistered | counted => exact before

/-- A step makes a channel for its thread, or leaves it with what it has. -/
theorem RegistryStep.owns {r r' : Registry T} {t t' events}
    (step : RegistryStep r t r' t' events) :
    (t'.owns = t.owns ∧ r'.channels.length = r.channels.length) ∨
      t.owns = none ∧ t'.owns = some r.channels.length ∧
        r'.channels.length = r.channels.length + 1 := by
  cases step with
  | make => exact .inr ⟨rfl, rfl, by simp⟩
  | sent | received => exact .inl ⟨rfl, by simp⟩
  | store | missed | found | dropped | deregistered | counted => exact .inl ⟨rfl, rfl⟩

theorem ChannelsOwned.next (owned : ChannelsOwned c)
    (moved : (registryProgram T).next c m = some c') : ChannelsOwned c' := by
  obtain ⟨q, -, -, rfl⟩ | ⟨i, t, r, t', events, -, found, step, -, rfl⟩ := registry_cases moved
  · have same : (c.threads ++ [(registryProgram T).start q]).filterMap RegistryThread.owns =
        c.threads.filterMap RegistryThread.owns := by
      cases q <;> simp [registryProgram, RegistryThread.owns]
    exact ⟨owned.buffers, same ▸ owned.made, same ▸ owned.sole⟩
  · obtain ⟨same, length⟩ | ⟨before, after, length⟩ := step.owns
    · have kept := filterMap_set_same found same
      refine ⟨step.buffers owned.buffers, ?_, ?_⟩
      · rw [kept, length]
        exact owned.made
      · rw [kept]
        exact owned.sole
    · have added := filterMap_set_perm found before after
      have grown : c.shared.channels.length < r.channels.length := by omega
      refine ⟨step.buffers owned.buffers, fun ch member => ?_, ?_⟩
      · rcases List.mem_cons.mp (added.mem_iff.mp member) with rfl | old
        · exact grown
        · exact (owned.made ch old).trans grown
      · refine added.nodup_iff.mpr (List.nodup_cons.mpr ⟨fun member => ?_, owned.sole⟩)
        exact absurd (owned.made _ member) (lt_irrefl _)

/-- A channel is returned under one correlation ID only. -/
theorem ChannelsOwned.unique (owned : ChannelsOwned c) {a b : String} {ch : ChanId}
    (first : Returned c a ch) (second : Returned c b ch) : a = b := by
  obtain ⟨i, at_i⟩ := List.mem_iff_getElem?.mp first
  obtain ⟨j, at_j⟩ := List.mem_iff_getElem?.mp second
  by_cases same : i = j
  · subst same
    cases Option.some.inj (at_i.symm.trans at_j)
    rfl
  · exact absurd rfl (filterMap_nodup_ne owned.sole same at_i at_j rfl rfl)

theorem ChannelsOwned.there (owned : ChannelsOwned c) {correlID : String} {ch : ChanId}
    (returned : Returned c correlID ch) : ∃ chan, c.shared.channels[ch]? = some chan := by
  have inside := owned.made ch (List.mem_filterMap.mpr ⟨_, returned, rfl⟩)
  exact ⟨_, List.getElem?_eq_getElem inside⟩

end Owned

/-! ## Where messages come from -/

/-- Channels are found under the ID of the call that returned them, and what is in a channel
    was sent there. -/
structure Routes (past : List (Nat × RegistryEvent T)) (c : RegistryConfig T) : Prop where
  stored : ∀ correlID ch, c.shared.pending.lookup correlID = some ch → Returned c correlID ch
  looked : ∀ correlID msg ch, .deliver correlID msg (.send ch) ∈ c.threads →
    Returned c correlID ch
  contents : ∀ ch chan msg, c.shared.channels[ch]? = some chan → msg ∈ chan.buffer →
    ∃ i correlID, (i, .sent correlID msg ch true) ∈ past
  sends : ∀ i correlID msg ch accepted, (i, .sent correlID msg ch accepted) ∈ past →
    c.threads[i]? = some (.deliver correlID msg .returned) ∧ Returned c correlID ch
  once : ∀ i, past.countP (fun e => e.1 = i ∧ e.2.isSend) ≤ 1

section Routes

variable {past : List (Nat × RegistryEvent T)} {c c' : RegistryConfig T} {m : RegistryMove T}

theorem Returned.act {r : Registry T} {t t' : RegistryThread T} {events i correlID ch}
    (returned : Returned c correlID ch) (found : c.threads[i]? = some t)
    (step : RegistryStep c.shared t r t' events) :
    Returned ⟨r, c.threads.set i t'⟩ correlID ch :=
  step.keeps_done_mem found returned rfl

/-- A step stores a channel under the ID of the thread that made it. -/
theorem RegistryStep.stored {r r' : Registry T} {t t' events correlID ch}
    (step : RegistryStep r t r' t' events) (after : r'.pending.lookup correlID = some ch) :
    r.pending.lookup correlID = some ch ∨ t' = .register correlID (.returned ch) := by
  cases step with
  | @store stored =>
      by_cases same : correlID = stored
      · subst same
        rw [AList.lookup_insert] at after
        cases after
        exact .inr rfl
      · rw [AList.lookup_insert_ne same] at after
        exact .inl after
  | @deregistered removed =>
      by_cases same : correlID = removed
      · subst same
        rw [AList.lookup_erase] at after
        cases after
      · rw [AList.lookup_erase_ne same] at after
        exact .inl after
  | make | missed | found | sent | dropped | received | counted => exact .inl after

theorem RegistryStep.looked {r r' : Registry T} {t events correlID msg ch}
    (step : RegistryStep r t r' (.deliver correlID msg (.send ch)) events) :
    r.pending.lookup correlID = some ch := by
  cases step with
  | found present => exact present

theorem RegistryStep.contents {r r' : Registry T} {t t' events ch chan msg}
    (step : RegistryStep r t r' t' events) (there : r'.channels[ch]? = some chan)
    (member : msg ∈ chan.buffer) :
    (∃ old, r.channels[ch]? = some old ∧ msg ∈ old.buffer) ∨
      ∃ correlID, .sent correlID msg ch true ∈ events := by
  cases step with
  | make =>
      rw [List.getElem?_append] at there
      split at there
      · exact .inl ⟨chan, there, member⟩
      · obtain rfl := List.mem_singleton.mp (List.mem_of_getElem? there)
        cases member
  | @sent correlID msg' ch' old there' room =>
      by_cases same : ch' = ch
      · subst same
        rw [List.getElem?_set_self (List.getElem?_eq_some_iff.mp there').1] at there
        cases there
        rcases List.mem_append.mp member with before | own
        · exact .inl ⟨old, there', before⟩
        · obtain rfl := List.mem_singleton.mp own
          exact .inr ⟨correlID, List.mem_singleton_self _⟩
      · rw [List.getElem?_set_ne same] at there
        exact .inl ⟨chan, there, member⟩
  | @received ch' old msg' rest there' queued =>
      by_cases same : ch' = ch
      · subst same
        rw [List.getElem?_set_self (List.getElem?_eq_some_iff.mp there').1] at there
        cases there
        exact .inl ⟨old, there', by rw [queued]; exact List.mem_cons_of_mem _ member⟩
      · rw [List.getElem?_set_ne same] at there
        exact .inl ⟨chan, there, member⟩
  | store | missed | found | dropped | deregistered | counted => exact .inl ⟨chan, there, member⟩

theorem RegistryStep.sends {r r' : Registry T} {t t' events correlID msg ch accepted}
    (step : RegistryStep r t r' t' events) (sent : .sent correlID msg ch accepted ∈ events) :
    t = .deliver correlID msg (.send ch) ∧ t' = .deliver correlID msg .returned := by
  cases step <;> simp_all

theorem RegistryStep.events_length {r r' : Registry T} {t t' events}
    (step : RegistryStep r t r' t' events) : events.length ≤ 1 := by
  cases step <;> simp

/-- Who has not returned has sent nothing. -/
theorem Routes.unsent (routes : Routes past c) {t : RegistryThread T} {i : Nat}
    (found : c.threads[i]? = some t) (running : t.done = false) :
    past.countP (fun e => e.1 = i ∧ e.2.isSend) = 0 := by
  rw [List.countP_eq_zero]
  rintro ⟨j, event⟩ member holds
  simp only [decide_eq_true_eq] at holds
  obtain ⟨rfl, send⟩ := holds
  cases event with
  | sent correlID msg ch accepted =>
      obtain ⟨at_j, -⟩ := routes.sends j correlID msg ch accepted member
      obtain rfl := Option.some.inj (found.symm.trans at_j)
      cases running
  | registered | deregistered | received => cases send

theorem Routes.call (routes : Routes past c) (q : RegistryRequest T) :
    Routes past ⟨c.shared, c.threads ++ [(registryProgram T).start q]⟩ := by
  have kept : ∀ {correlID ch}, Returned c correlID ch →
      Returned ⟨c.shared, c.threads ++ [(registryProgram T).start q]⟩ correlID ch :=
    fun returned => List.mem_append_left _ returned
  refine ⟨fun id ch found => kept (routes.stored id ch found), ?_, routes.contents, ?_,
    routes.once⟩
  · intro correlID msg ch member
    rcases List.mem_append.mp member with old | new
    · exact kept (routes.looked correlID msg ch old)
    · cases q <;> simp [registryProgram] at new
  · intro i correlID msg ch accepted sent
    obtain ⟨at_i, returned⟩ := routes.sends i correlID msg ch accepted sent
    have inside := (List.getElem?_eq_some_iff.mp at_i).1
    exact ⟨(List.getElem?_append_left inside).trans at_i, kept returned⟩

section Act

variable {r : Registry T} {t t' : RegistryThread T} {events : List (RegistryEvent T)} {i : Nat}

/-- A thread that sends had not sent before. -/
theorem Routes.once_act (routes : Routes past c) (found : c.threads[i]? = some t)
    (step : RegistryStep c.shared t r t' events) (j : Nat) :
    (past ++ events.map (i, ·)).countP (fun e => e.1 = j ∧ e.2.isSend) ≤ 1 := by
  rw [List.countP_append]
  by_cases sending : (events.map (i, ·)).countP (fun e => e.1 = j ∧ e.2.isSend) = 0
  · rw [sending]
    exact routes.once j
  · obtain ⟨e, member, holds⟩ := List.countP_pos_iff.mp (Nat.pos_of_ne_zero sending)
    obtain ⟨event, -, rfl⟩ := List.mem_map.mp member
    simp only [decide_eq_true_eq] at holds
    obtain ⟨rfl, -⟩ := holds
    have first : past.countP (fun e => e.1 = i ∧ e.2.isSend) = 0 :=
      routes.unsent found step.running
    have few : (events.map (i, ·)).countP (fun e => e.1 = i ∧ e.2.isSend) ≤
        (events.map (i, ·)).length := List.countP_le_length
    have one := step.events_length
    rw [List.length_map] at few
    omega

theorem Routes.act (routes : Routes past c) (found : c.threads[i]? = some t)
    (step : RegistryStep c.shared t r t' events) :
    Routes (past ++ events.map (i, ·)) ⟨r, c.threads.set i t'⟩ := by
  have inside := (List.getElem?_eq_some_iff.mp found).1
  constructor
  case stored =>
    intro correlID ch after
    obtain before | rfl := step.stored after
    · exact (routes.stored correlID ch before).act found step
    · exact Program.mem_threads_set_self found _
  case looked =>
    intro correlID msg ch member
    obtain rfl | ⟨j, other, at_j⟩ := Program.mem_threads_set member
    · exact (routes.stored correlID ch step.looked).act found step
    · exact (routes.looked correlID msg ch (List.mem_of_getElem? at_j)).act found step
  case contents =>
    intro ch chan msg there member
    obtain ⟨old, before, held⟩ | ⟨correlID, sent⟩ := step.contents there member
    · obtain ⟨j, correlID, event⟩ := routes.contents ch old msg before held
      exact ⟨j, correlID, List.mem_append_left _ event⟩
    · exact ⟨i, correlID, List.mem_append_right _ (List.mem_map.mpr ⟨_, sent, rfl⟩)⟩
  case sends =>
    intro j correlID msg ch accepted event
    rcases List.mem_append.mp event with old | new
    · obtain ⟨at_j, returned⟩ := routes.sends j correlID msg ch accepted old
      exact ⟨step.keeps_done found at_j rfl, returned.act found step⟩
    · obtain ⟨e, sent, same⟩ := List.mem_map.mp new
      cases same
      obtain ⟨rfl, rfl⟩ := step.sends sent
      refine ⟨List.getElem?_set_self inside, ?_⟩
      exact (routes.looked correlID msg ch (List.mem_of_getElem? found)).act found step
  case once => exact routes.once_act found step

end Act

theorem Routes.next (routes : Routes past c)
    (moved : (registryProgram T).next c m = some c') : Routes (past ++ registryEvents c m) c' := by
  obtain ⟨q, rfl, none, rfl⟩ | ⟨i, t, r, t', events, rfl, found, step, happens, rfl⟩ :=
    registry_cases moved
  · rw [none, List.append_nil]
    exact routes.call q
  · rw [happens]
    exact routes.act found step

end Routes

/-! ## Which IDs are registered -/

section Registered

variable {past : List (Nat × RegistryEvent T)} {c c' : RegistryConfig T} {m : RegistryMove T}
  {correlID : String} {i : Nat}

theorem registered_concat_iff {e : RegistryEvent T} :
    Registered (past ++ [(i, e)]) correlID ↔
      (∃ ch, e = .registered correlID ch) ∨
        Registered past correlID ∧ e ≠ .deregistered correlID := by
  constructor
  · rintro ⟨before, j, ch, after, same, since⟩
    rcases List.eq_nil_or_concat after with rfl | ⟨rest, last, rfl⟩
    · obtain ⟨-, own⟩ := List.append_inj' same rfl
      cases own
      exact .inl ⟨ch, rfl⟩
    · rw [List.concat_eq_append] at same since
      rw [← List.cons_append, ← List.append_assoc] at same
      obtain ⟨rfl, own⟩ := List.append_inj' same rfl
      cases own
      refine .inr ⟨⟨before, j, ch, rest, rfl, fun k member => ?_⟩, ?_⟩
      · exact since k (List.mem_append_left _ member)
      · rintro rfl
        exact since i (List.mem_append_right _ (List.mem_singleton_self _))
  · rintro (⟨ch, rfl⟩ | ⟨⟨before, j, ch, after, rfl, since⟩, other⟩)
    · exact ⟨past, i, ch, [], rfl, by simp⟩
    · refine ⟨before, j, ch, after ++ [(i, e)], by simp, fun k member => ?_⟩
      rcases List.mem_append.mp member with old | new
      · exact since k old
      · cases List.mem_singleton.mp new
        exact other rfl

theorem RegistryStep.registered_iff {r r' : Registry T} {t t' events}
    (step : RegistryStep r t r' t' events)
    (same : correlID ∈ r.pending ↔ Registered past correlID) :
    correlID ∈ r'.pending ↔ Registered (past ++ events.map (i, ·)) correlID := by
  cases step with
  | store =>
      rw [List.map_singleton, registered_concat_iff, AList.mem_insert, same]
      simp only [RegistryEvent.registered.injEq, ne_eq, reduceCtorEq, not_false_eq_true, and_true,
        exists_and_left, exists_eq', eq_comm]
  | deregistered =>
      rw [List.map_singleton, registered_concat_iff, AList.mem_erase, same]
      simp only [RegistryEvent.deregistered.injEq, reduceCtorEq, exists_false, false_or, ne_eq,
        and_comm, eq_comm]
  | sent | dropped | received =>
      rw [List.map_singleton, registered_concat_iff]
      simpa using same
  | make | missed | found | counted => simpa using same

theorem registered_next (same : ∀ id, id ∈ c.shared.pending ↔ Registered past id)
    (moved : (registryProgram T).next c m = some c') :
    ∀ id, id ∈ c'.shared.pending ↔ Registered (past ++ registryEvents c m) id := by
  intro id
  obtain ⟨q, -, none, rfl⟩ | ⟨i, t, r, t', events, -, found, step, happens, rfl⟩ :=
    registry_cases moved
  · rw [none, List.append_nil]
    exact same id
  · rw [happens]
    exact step.registered_iff (same id)

/-- `Len` counts the IDs that are registered. -/
theorem Registry.len_eq {r : Registry T} (same : ∀ id, id ∈ r.pending ↔ Registered past id) :
    r.len = {id | Registered past id}.ncard := by
  have ids : {id | Registered past id} = (r.pending.keys.toFinset : Set String) := by
    ext id
    simp [← same id, AList.mem_keys]
  rw [ids, Set.ncard_coe_finset, List.toFinset_card_of_nodup r.pending.keys_nodup, Registry.len]

end Registered

/-! ## What was sent stays until it is received -/

def InChannel (c : RegistryConfig T) (ch : ChanId) (msg : T) : Prop :=
  ∃ chan, c.shared.channels[ch]? = some chan ∧ msg ∈ chan.buffer

section Kept

variable {past : List (Nat × RegistryEvent T)} {c c' : RegistryConfig T} {m : RegistryMove T}
  {ch : ChanId} {msg : T}

theorem RegistryStep.keeps_message {r r' : Registry T} {t t' events} {chan : Channel T}
    (step : RegistryStep r t r' t' events) (there : r.channels[ch]? = some chan)
    (member : msg ∈ chan.buffer) :
    (∃ chan', r'.channels[ch]? = some chan' ∧ msg ∈ chan'.buffer) ∨
      .received ch msg ∈ events := by
  have inside := (List.getElem?_eq_some_iff.mp there).1
  cases step with
  | make => exact .inl ⟨chan, (List.getElem?_append_left inside).trans there, member⟩
  | @sent _ _ ch' old there' room =>
      by_cases same : ch' = ch
      · subst same
        obtain rfl := Option.some.inj (there.symm.trans there')
        exact .inl ⟨_, List.getElem?_set_self inside, List.mem_append_left _ member⟩
      · exact .inl ⟨chan, (List.getElem?_set_ne same).trans there, member⟩
  | @received ch' old first rest there' queued =>
      by_cases same : ch' = ch
      · subst same
        obtain rfl := Option.some.inj (there.symm.trans there')
        rw [queued] at member
        rcases List.mem_cons.mp member with rfl | later
        · exact .inr (List.mem_singleton_self _)
        · exact .inl ⟨_, List.getElem?_set_self inside, later⟩
      · exact .inl ⟨chan, (List.getElem?_set_ne same).trans there, member⟩
  | store | missed | found | dropped | deregistered | counted => exact .inl ⟨chan, there, member⟩

theorem kept_next (kept : InChannel c ch msg ∨ ∃ i, (i, .received ch msg) ∈ past)
    (moved : (registryProgram T).next c m = some c') :
    InChannel c' ch msg ∨ ∃ i, (i, .received ch msg) ∈ past ++ registryEvents c m := by
  obtain ⟨chan, there, member⟩ | ⟨i, received⟩ := kept
  · obtain ⟨q, -, none, rfl⟩ | ⟨i, t, r, t', events, -, found, step, happens, rfl⟩ :=
      registry_cases moved
    · exact .inl ⟨chan, there, member⟩
    · obtain still | taken := step.keeps_message there member
      · exact .inl still
      · rw [happens]
        exact .inr ⟨i, List.mem_append_right _ (List.mem_map.mpr ⟨_, taken, rfl⟩)⟩
  · exact .inr ⟨i, List.mem_append_left _ received⟩

/-- Along every run a message is in its channel until it is received. -/
theorem kept_run {ms : List (RegistryMove T)} (there : InChannel c ch msg)
    (run : (registryProgram T).exec c ms = some c') :
    InChannel c' ch msg ∨ ∃ i, (i, .received ch msg) ∈ eventsFrom c ms := by
  have keep : ∀ past c m c', (InChannel c ch msg ∨ ∃ i, (i, .received ch msg) ∈ past) → True →
      (registryProgram T).next c m = some c' →
      (InChannel c' ch msg ∨ ∃ i, (i, .received ch msg) ∈ past ++ registryEvents c m) :=
    fun _ _ _ _ kept _ moved => kept_next kept moved
  have start : InChannel c ch msg ∨
      ∃ i, (i, .received ch msg) ∈ ([] : List (Nat × RegistryEvent T)) := .inl there
  exact Program.exec_trail keep start (fun _ _ => trivial) run

end Kept

/-! ## Every run -/

/-- Steps that a `Deliver` still has to make. -/
def DeliverPc.left : DeliverPc → Nat
  | .lookup => 2
  | .send _ => 1
  | .returned => 0

/-- What holds of the registry in state `c` with the events `past` behind it. -/
structure RegistryRouted (past : List (Nat × RegistryEvent T)) (c : RegistryConfig T) : Prop where
  ownMessages : ∀ correlID ch msg, Returned c correlID ch → InChannel c ch msg →
    ∃ i, c.threads[i]? = some (.deliver correlID msg .returned) ∧
      (i, .sent correlID msg ch true) ∈ past
  single : ∀ chan ∈ c.shared.channels, chan.buffer.length ≤ 1
  oneChannel : ∀ i, past.countP (fun e => e.1 = i ∧ e.2.isSend) ≤ 1
  completes : ∀ i correlID msg pc, c.threads[i]? = some (.deliver correlID msg pc) →
    pc ≠ .returned → ∃ c' pc', (registryProgram T).next c (.act i ()) = some c' ∧
      c'.threads[i]? = some (.deliver correlID msg pc') ∧ pc'.left < pc.left
  unregistered : ∀ i correlID msg, c.threads[i]? = some (.deliver correlID msg .lookup) →
    ¬Registered past correlID → (registryProgram T).next c (.act i ()) =
      some ⟨c.shared, c.threads.set i (.deliver correlID msg .returned)⟩
  registered : ∀ i correlID msg, c.threads[i]? = some (.deliver correlID msg .lookup) →
    Registered past correlID → ∃ ch, Returned c correlID ch ∧
      (registryProgram T).next c (.act i ()) =
        some ⟨c.shared, c.threads.set i (.deliver correlID msg (.send ch))⟩
  firstKept : ∀ i correlID msg ch c₁ ms c',
    c.threads[i]? = some (.deliver correlID msg (.send ch)) →
    (∀ j msg' ch' accepted, (j, .sent correlID msg' ch' accepted) ∉ past) →
    (registryProgram T).next c (.act i ()) = some c₁ →
    (registryProgram T).exec c₁ ms = some c' →
    Returned c correlID ch ∧
      (InChannel c' ch msg ∨ ∃ j, (j, .received ch msg) ∈ eventsFrom c₁ ms)
  len : ∀ i, c.threads[i]? = some (.len none) → (registryProgram T).next c (.act i ()) =
    some ⟨c.shared, c.threads.set i (.len (some {id | Registered past id}.ncard))⟩

section Routed

variable {past : List (Nat × RegistryEvent T)} {c c' : RegistryConfig T}

/-- All that is known of the registry after a run. -/
structure RegistryInv (past : List (Nat × RegistryEvent T)) (c : RegistryConfig T) : Prop where
  owned : ChannelsOwned c
  routes : Routes past c
  registered : ∀ id, id ∈ c.shared.pending ↔ Registered past id

theorem RegistryInv.run {ms : List (RegistryMove T)}
    (run : (registryProgram T).exec ⟨newRegistry T, []⟩ ms = some c) :
    RegistryInv (eventsFrom ⟨newRegistry T, []⟩ ms) c := by
  have keep : ∀ past c m c', RegistryInv past c → True →
      (registryProgram T).next c m = some c' → RegistryInv (past ++ registryEvents c m) c' :=
    fun _ _ _ _ inv _ moved =>
      ⟨inv.owned.next moved, inv.routes.next moved, registered_next inv.registered moved⟩
  have start : RegistryInv [] (⟨newRegistry T, []⟩ : RegistryConfig T) := by
    refine ⟨⟨by simp [newRegistry], by simp, by simp⟩,
      ⟨?_, by simp, by simp [newRegistry], by simp, by simp⟩, ?_⟩
    · intro id ch found
      cases found
    · refine fun id => iff_of_false (AList.notMem_empty id) ?_
      rintro ⟨before, i, ch, after, same, -⟩
      simp at same
  exact Program.exec_trail keep start (fun _ _ => trivial) run

/-- What a step of thread `i` makes of the whole registry. -/
theorem registry_next {i : Nat} {t : RegistryThread T} (found : c.threads[i]? = some t) :
    (registryProgram T).next c (.act i ()) =
      (t.step c.shared).map fun s => ⟨s.1, c.threads.set i s.2⟩ := by
  simp only [Program.next, found, registryProgram]
  cases t.step c.shared with
  | none => rfl
  | some s => simp

/-- A delivery that comes to its send finds its channel. -/
theorem RegistryInv.found (inv : RegistryInv past c) {i : Nat} {correlID : String} {msg : T}
    {ch : ChanId} (at_i : c.threads[i]? = some (.deliver correlID msg (.send ch))) :
    Returned c correlID ch ∧ ∃ chan, c.shared.channels[ch]? = some chan := by
  have returned := inv.routes.looked correlID msg ch (List.mem_of_getElem? at_i)
  exact ⟨returned, inv.owned.there returned⟩

/-- Neither the lookup nor the send of `Deliver` blocks. -/
theorem Registry.deliver_enabled {r : Registry T} {correlID : String} {msg : T} {pc : DeliverPc}
    (running : pc ≠ .returned)
    (there : ∀ ch, pc = .send ch → ∃ chan, r.channels[ch]? = some chan) :
    ∃ r' pc', r.deliver correlID msg pc = some (r', pc') ∧ pc'.left < pc.left := by
  cases pc with
  | lookup =>
      simp only [Registry.deliver]
      split
      · exact ⟨r, .returned, rfl, Nat.zero_lt_two⟩
      · exact ⟨r, .send _, rfl, Nat.one_lt_two⟩
  | send ch =>
      obtain ⟨chan, present⟩ := there ch rfl
      simp only [Registry.deliver, present]
      split
      · exact ⟨_, .returned, rfl, Nat.zero_lt_one⟩
      · exact ⟨r, .returned, rfl, Nat.zero_lt_one⟩
  | returned => exact absurd rfl running

theorem RegistryInv.completes (inv : RegistryInv past c) {i : Nat} {correlID : String} {msg : T}
    {pc : DeliverPc} (at_i : c.threads[i]? = some (.deliver correlID msg pc))
    (running : pc ≠ .returned) :
    ∃ c' pc', (registryProgram T).next c (.act i ()) = some c' ∧
      c'.threads[i]? = some (.deliver correlID msg pc') ∧ pc'.left < pc.left := by
  have inside := (List.getElem?_eq_some_iff.mp at_i).1
  have there : ∀ ch, pc = .send ch → ∃ chan, c.shared.channels[ch]? = some chan := by
    rintro ch rfl
    exact (inv.found at_i).2
  obtain ⟨r', pc', delivered, less⟩ := Registry.deliver_enabled running there
  rw [registry_next at_i, RegistryThread.step, delivered]
  exact ⟨_, pc', rfl, List.getElem?_set_self inside, less⟩

/-- Before the first delivery for an ID comes to its send, its channels are empty. -/
theorem RegistryInv.empty (inv : RegistryInv past c) {correlID : String} {ch : ChanId}
    {chan : Channel T} (returned : Returned c correlID ch)
    (there : c.shared.channels[ch]? = some chan)
    (unsent : ∀ j msg ch accepted, (j, .sent correlID msg ch accepted) ∉ past) :
    chan.buffer = [] := by
  rw [List.eq_nil_iff_forall_not_mem]
  intro msg member
  obtain ⟨j, other, sent⟩ := inv.routes.contents ch chan msg there member
  obtain ⟨-, also⟩ := inv.routes.sends j other msg ch true sent
  obtain rfl := inv.owned.unique returned also
  exact unsent j msg ch true sent

/-- The first delivery for an ID is accepted. -/
theorem RegistryInv.accepted (inv : RegistryInv past c) {i : Nat} {correlID : String} {msg : T}
    {ch : ChanId} (at_i : c.threads[i]? = some (.deliver correlID msg (.send ch)))
    (unsent : ∀ j msg ch accepted, (j, .sent correlID msg ch accepted) ∉ past)
    (moved : (registryProgram T).next c (.act i ()) = some c') : InChannel c' ch msg := by
  obtain ⟨returned, chan, there⟩ := inv.found at_i
  have empty := inv.empty returned there unsent
  have one := (inv.owned.buffers chan (List.mem_of_getElem? there)).1
  have room : chan.buffer.length < chan.capacity := by
    rw [empty, one]
    exact Nat.zero_lt_one
  rw [registry_next at_i] at moved
  simp only [RegistryThread.step, Registry.deliver, there, Channel.trySend_of_room room,
    Option.map_some, Option.some.injEq] at moved
  subst moved
  have inside := (List.getElem?_eq_some_iff.mp there).1
  exact ⟨_, List.getElem?_set_self inside, by simp⟩

end Routed

theorem registry_routes (ms : List (RegistryMove T)) (c : RegistryConfig T)
    (run : (registryProgram T).exec ⟨newRegistry T, []⟩ ms = some c) :
    RegistryRouted (eventsFrom ⟨newRegistry T, []⟩ ms) c := by
  have inv := RegistryInv.run run
  constructor
  case ownMessages =>
    rintro correlID ch msg returned ⟨chan, there, member⟩
    obtain ⟨i, other, sent⟩ := inv.routes.contents ch chan msg there member
    obtain ⟨at_i, also⟩ := inv.routes.sends i other msg ch true sent
    obtain rfl := inv.owned.unique returned also
    exact ⟨i, at_i, sent⟩
  case single =>
    intro chan member
    exact (inv.owned.buffers chan member).2
  case oneChannel => exact inv.routes.once
  case completes =>
    intro i correlID msg pc at_i running
    exact inv.completes at_i running
  case unregistered =>
    intro i correlID msg at_i absent
    have missing : c.shared.pending.lookup correlID = none := by
      rw [← inv.registered, ← AList.lookup_isSome] at absent
      simpa using absent
    simp [registry_next at_i, RegistryThread.step, Registry.deliver, missing]
  case registered =>
    intro i correlID msg at_i present
    rw [← inv.registered, ← AList.lookup_isSome] at present
    obtain ⟨ch, found⟩ := Option.isSome_iff_exists.mp present
    refine ⟨ch, inv.routes.stored correlID ch found, ?_⟩
    simp [registry_next at_i, RegistryThread.step, Registry.deliver, found]
  case firstKept =>
    intro i correlID msg ch c₁ ms' c' at_i unsent moved run'
    exact ⟨(inv.found at_i).1, kept_run (inv.accepted at_i unsent moved) run'⟩
  case len =>
    intro i at_i
    simp [registry_next at_i, RegistryThread.step, Registry.len_eq inv.registered]

/-- `Register("a")` has returned channel 0, and `Deliver("a", 7)` has looked it up. -/
def looksUp : List (RegistryMove Nat) :=
  [.call (.register "a"), .act 0 (), .act 0 (), .call (.deliver "a" 7), .act 1 ()]

/-- The only delivery is in the channel until it is received, even if the ID is deregistered
    before the send. -/
theorem registry_routes_after_lookup : ∃ c c₁ c',
    (registryProgram Nat).exec ⟨newRegistry Nat, []⟩ looksUp = some c ∧
    (registryProgram Nat).next c (.act 1 ()) = some c₁ ∧
    (registryProgram Nat).exec c₁ [.call (.deregister "a"), .act 2 ()] = some c' ∧
    Returned c "a" 0 ∧ InChannel c' 0 7 := by
  obtain ⟨c, c₁, c', run, at_1, moved, run', past, later⟩ : ∃ c c₁ c',
      (registryProgram Nat).exec ⟨newRegistry Nat, []⟩ looksUp = some c ∧
      c.threads[1]? = some (.deliver "a" 7 (.send 0)) ∧
      (registryProgram Nat).next c (.act 1 ()) = some c₁ ∧
      (registryProgram Nat).exec c₁ [.call (.deregister "a"), .act 2 ()] = some c' ∧
      eventsFrom ⟨newRegistry Nat, []⟩ looksUp = [(0, .registered "a" 0)] ∧
      eventsFrom c₁ [.call (.deregister "a"), .act 2 ()] = [(2, .deregistered "a")] :=
    ⟨_, _, _, rfl, rfl, rfl, rfl, rfl, rfl⟩
  have routed := registry_routes looksUp c run
  rw [past] at routed
  obtain ⟨returned, still | ⟨j, received⟩⟩ :=
    routed.firstKept 1 "a" 7 0 c₁ _ c' at_1 (by simp) moved run'
  · exact ⟨c, c₁, c', run, moved, run', returned, still⟩
  · simp [later] at received

end CommonsMQ
