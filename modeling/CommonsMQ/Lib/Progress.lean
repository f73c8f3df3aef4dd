import CommonsMQ.Lib.Interleave

/-! # Threads that run out of steps

A countdown gives each thread a number that every step of its own makes smaller. Whatever
the other threads do in between, a thread then makes no more steps than the number it
started with. Answers that only change what the thread will see later (a cancellation) are
idle and are not counted.
-/

namespace Interleave

variable {σ ρ τ α : Type*}

/-- The move is a step that thread `i` makes. -/
def Move.isStepOf (idle : α → Bool) (i : Nat) : Move ρ α → Bool
  | .act j a => decide (j = i) && !idle a
  | .call _ => false

/-- How many steps thread `i` makes. -/
def stepsOf (idle : α → Bool) (i : Nat) (ms : List (Move ρ α)) : Nat :=
  ms.countP (Move.isStepOf idle i)

theorem stepsOf_cons (idle : α → Bool) (i : Nat) (m : Move ρ α) (rest : List (Move ρ α)) :
    stepsOf idle i (m :: rest) =
      stepsOf idle i rest + if m.isStepOf idle i then 1 else 0 :=
  List.countP_cons

/-- Thread `i` can make a step of its own. -/
def Program.CanStep (p : Program σ ρ τ α) (idle : α → Bool) (c : Config σ τ) (i : Nat) : Prop :=
  ∃ a, idle a = false ∧ (p.next c (.act i a)).isSome

theorem Program.CanStep.of_step {p : Program σ ρ τ α} {idle : α → Bool} {c : Config σ τ} {i : Nat}
    {t : τ} {a : α} (found : c.threads[i]? = some t) (own : idle a = false)
    (enabled : (p.step c.shared t a).isSome) : p.CanStep idle c i := by
  refine ⟨a, own, ?_⟩
  obtain ⟨⟨s', t', started⟩, stepped⟩ := Option.isSome_iff_exists.mp enabled
  simp [Program.next, found, stepped]

structure Countdown (p : Program σ ρ τ α) where
  /-- What the numbers rest on; it holds for good. -/
  Fixed : Config σ τ → Prop
  /-- The threads that are counted. -/
  Counted : τ → Prop
  idle : α → Bool
  left : τ → Nat
  stays : ∀ {c m c'}, p.next c m = some c' → Fixed c → Fixed c'
  kept : ∀ {c t a s' t' started}, p.step c.shared t a = some (s', t', started) → Fixed c →
    Counted t → Counted t'
  idles : ∀ {c t a s' t' started}, p.step c.shared t a = some (s', t', started) → Fixed c →
    Counted t → idle a = true → left t' ≤ left t
  counts : ∀ {c t a s' t' started}, p.step c.shared t a = some (s', t', started) → Fixed c →
    Counted t → idle a = false → left t' < left t

namespace Countdown

variable {p : Program σ ρ τ α} (d : Countdown p) {c c' : Config σ τ} {i : Nat} {t t' : τ}
  {ms : List (Move ρ α)}

/-- A move costs thread `i` at least what it counts for. -/
theorem left_next {m : Move ρ α} (fixed : d.Fixed c) (found : c.threads[i]? = some t)
    (counted : d.Counted t) (moved : p.next c m = some c') :
    ∃ t', c'.threads[i]? = some t' ∧ d.Counted t' ∧
      (if m.isStepOf d.idle i then 1 else 0) + d.left t' ≤ d.left t := by
  obtain ⟨other, kept⟩ | ⟨a, t', started, rfl, stepped, at_i⟩ := Program.next_at found moved
  · have foreign : m.isStepOf d.idle i = false := by
      cases m with
      | call r => rfl
      | act j a =>
          have different : j ≠ i := by
            rintro rfl
            exact other a rfl
          simp [Move.isStepOf, different]
    exact ⟨t, kept, counted, by simp [foreign]⟩
  · refine ⟨t', at_i, d.kept stepped fixed counted, ?_⟩
    cases idle : d.idle a with
    | true =>
        have := d.idles stepped fixed counted idle
        simpa [Move.isStepOf, idle] using this
    | false =>
        have := d.counts stepped fixed counted idle
        simp only [Move.isStepOf, idle, decide_true, Bool.not_false, Bool.and_self, if_true]
        omega

theorem steps_le (fixed : d.Fixed c) (found : c.threads[i]? = some t) (counted : d.Counted t)
    (run : p.exec c ms = some c') :
    ∃ t', c'.threads[i]? = some t' ∧ d.Counted t' ∧ stepsOf d.idle i ms + d.left t' ≤ d.left t := by
  induction ms generalizing c t with
  | nil =>
      obtain rfl : c = c' := by simpa [Program.exec] using run
      exact ⟨t, found, counted, by simp [stepsOf]⟩
  | cons m rest ih =>
      obtain ⟨mid, moved, run⟩ := Program.exec_cons run
      obtain ⟨u, at_i, counted, now⟩ := d.left_next fixed found counted moved
      obtain ⟨t', at_i', counted', later⟩ := ih (d.stays moved fixed) at_i counted run
      refine ⟨t', at_i', counted', ?_⟩
      rw [stepsOf_cons]
      omega

theorem counted_next {m : Move ρ α} (start : ∀ r, d.Counted (p.start r))
    (fresh : ∀ {s t a s' t' started}, p.step s t a = some (s', t', started) →
      ∀ u ∈ started, d.Counted u)
    (fixed : d.Fixed c) (all : ∀ t ∈ c.threads, d.Counted t) (moved : p.next c m = some c') :
    ∀ t ∈ c'.threads, d.Counted t := by
  obtain ⟨r, -, rfl⟩ | ⟨i, a, t, s, t', started, -, found, stepped, rfl⟩ := Program.next_cases moved
  · exact Program.forall_threads_call all (start r)
  · refine Program.forall_threads_act ?_ (fresh stepped) fun j u _ at_j => ?_
    · exact d.kept stepped fixed (all t (List.mem_of_getElem? found))
    · exact all u (List.mem_of_getElem? at_j)

/-- If all threads are counted, none makes more steps in a run than threads of its kind
    ever have left. -/
theorem steps_le_bound {bound : τ → Nat} (start : ∀ r, d.Counted (p.start r))
    (fresh : ∀ {s t a s' t' started}, p.step s t a = some (s', t', started) →
      bound t' = bound t ∧ ∀ u ∈ started, d.Counted u)
    (small : ∀ t, d.Counted t → d.left t ≤ bound t) (fixed : d.Fixed c)
    (all : ∀ t ∈ c.threads, d.Counted t) (run : p.exec c ms = some c')
    (found : c'.threads[i]? = some t') : stepsOf d.idle i ms ≤ bound t' := by
  induction ms generalizing c with
  | nil => exact Nat.zero_le _
  | cons m rest ih =>
      by_cases there : i < c.threads.length
      · have at_i := List.getElem?_eq_getElem there
        have counted := all _ (List.getElem_mem there)
        obtain ⟨u, at_i', -, cost⟩ := d.steps_le fixed at_i counted run
        obtain ⟨v, at_i'', same⟩ := Program.exec_thread
          (Q := fun t => bound t = bound c.threads[i])
          (fun _ _ _ _ _ _ same stepped => (fresh stepped).1.trans same) ⟨_, at_i, rfl⟩ run
        obtain rfl : t' = v := by simpa [found] using at_i''
        have least := small _ counted
        omega
      · obtain ⟨mid, moved, run⟩ := Program.exec_cons run
        have foreign : m.isStepOf d.idle i = false := by
          obtain ⟨r, rfl, -⟩ | ⟨j, a, t, -, -, -, rfl, here, -⟩ := Program.next_cases moved
          · rfl
          · have inside := (List.getElem?_eq_some_iff.mp here).1
            have different : j ≠ i := by omega
            simp [Move.isStepOf, different]
        have all' := d.counted_next start (fun stepped => (fresh stepped).2) fixed all moved
        rw [stepsOf_cons, foreign]
        exact ih (d.stays moved fixed) all' run

end Countdown

end Interleave
