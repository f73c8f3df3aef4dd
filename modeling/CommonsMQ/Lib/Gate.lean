import CommonsMQ.Lib.Interleave

/-! # Gates

A gate is a flag in the shared memory that, once set, stays set and turns away every
thread that has not passed it. The rules lift what single steps do to it to whole
configurations: it stays shut, whoever is outside stays outside and is answered after
its own remaining steps, and a thread that is past the setting of the flag finds it
set.
-/

namespace Interleave

variable {σ ρ τ α : Type*}

structure Gate (p : Program σ ρ τ α) where
  shut : σ → Bool
  /-- The thread has not passed the gate, or is none of those that it is there for. -/
  Outside : σ → τ → Prop
  /-- The steps that are left to a thread that is outside. -/
  left : τ → Nat
  /-- The thread is past the step that sets the flag. -/
  Shuts : τ → Prop
  start : ∀ s r, Outside s (p.start r) ∧ ¬ Shuts (p.start r)
  stays : ∀ {s t a s' t' started}, p.step s t a = some (s', t', started) → shut s = true →
    shut s' = true ∧ (∀ u, Outside s u → Outside s' u) ∧ (Outside s t → Outside s' t') ∧
      ∀ u ∈ started, Outside s' u
  sets : ∀ {s t a s' t' started}, p.step s t a = some (s', t', started) →
    (Shuts t' → Shuts t ∨ shut s' = true) ∧ ∀ u ∈ started, ¬ Shuts u
  answers : ∀ {s t}, shut s = true → Outside s t → 0 < left t →
    ∃ a t', p.step s t a = some (s, t', []) ∧ left t' < left t

namespace Gate

variable {p : Program σ ρ τ α} (g : Gate p) {c c' : Config σ τ} {m : Move ρ α}

/-- Shut, with everybody at a position in `late` outside. -/
def ClosedTo (late : Nat → Prop) (c : Config σ τ) : Prop :=
  g.shut c.shared = true ∧ ∀ (i : Nat) (t : τ), late i → c.threads[i]? = some t →
    g.Outside c.shared t

theorem closedTo_later (shut : g.shut c.shared = true) :
    g.ClosedTo (c.threads.length ≤ ·) c := by
  refine ⟨shut, fun i t later found => ?_⟩
  have inside := (List.getElem?_eq_some_iff.mp found).1
  omega

variable {late : Nat → Prop}

theorem ClosedTo.next (before : g.ClosedTo late c) (moved : p.next c m = some c') :
    g.ClosedTo late c' := by
  obtain ⟨shut, outside⟩ := before
  obtain ⟨r, -, rfl⟩ | ⟨i, a, t, s, t', started, -, found, stepped, rfl⟩ :=
    Program.next_cases moved
  · refine ⟨shut, fun j u later at_j => ?_⟩
    rw [List.getElem?_append] at at_j
    split at at_j
    · exact outside j u later at_j
    · obtain rfl := List.mem_singleton.mp (List.mem_of_getElem? at_j)
      exact (g.start c.shared r).1
  · obtain ⟨shut', others, own, fresh⟩ := g.stays stepped shut
    refine ⟨shut', fun j u later at_j => ?_⟩
    rw [List.getElem?_append] at at_j
    split at at_j
    · by_cases same : i = j
      · subst same
        rw [List.getElem?_set_self (List.getElem?_eq_some_iff.mp found).1] at at_j
        obtain rfl := Option.some.inj at_j
        exact own (outside i t later found)
      · rw [List.getElem?_set_ne same] at at_j
        exact others u (outside j u later at_j)
    · exact fresh u (List.mem_of_getElem? at_j)

theorem ClosedTo.run {ms : List (Move ρ α)} (before : g.ClosedTo late c)
    (run : p.exec c ms = some c') : g.ClosedTo late c' :=
  Program.exec_invariant (fun _ _ _ before _ moved => before.next g moved) before
    (Program.meets_true ms) run

/-- A thread that is past the setting of the flag finds it set. -/
def Marked (c : Config σ τ) : Prop := ∀ t ∈ c.threads, g.Shuts t → g.shut c.shared = true

theorem Marked.next (before : g.Marked c) (moved : p.next c m = some c') : g.Marked c' := by
  obtain ⟨r, -, rfl⟩ | ⟨i, a, t, s, t', started, -, found, stepped, rfl⟩ :=
    Program.next_cases moved
  · intro t member shuts
    rcases List.mem_append.mp member with old | new
    · exact before t old shuts
    · obtain rfl := List.mem_singleton.mp new
      exact absurd shuts (g.start c.shared r).2
  · obtain ⟨sets, fresh⟩ := g.sets stepped
    have still : g.shut c.shared = true → g.shut s = true := fun shut => (g.stays stepped shut).1
    refine Program.forall_threads_act ?_ (fun u new shuts => absurd shuts (fresh u new)) ?_
    · intro shuts
      rcases sets shuts with already | now
      · exact still (before t (List.mem_of_getElem? found) already)
      · exact now
    · intro j u _ at_j shuts
      exact still (before u (List.mem_of_getElem? at_j) shuts)

theorem Marked.run {s : σ} {ms : List (Move ρ α)} (run : p.exec ⟨s, []⟩ ms = some c) :
    g.Marked c :=
  Program.exec_invariant (fun _ _ _ before _ moved => before.next g moved)
    (fun _ member => by simp at member) (Program.meets_true ms) run

/-- Thread `i` is outside and has been answered. -/
def TurnedAway (c : Config σ τ) (i : Nat) : Prop :=
  ∃ t, c.threads[i]? = some t ∧ g.Outside c.shared t ∧ g.left t = 0

/-- Its own steps, and no others, bring a thread outside to its answer. -/
theorem answered {i : Nat} {t : τ} (shut : g.shut c.shared = true)
    (found : c.threads[i]? = some t) (outside : g.Outside c.shared t) :
    ∃ (answers : List α) (c' : Config σ τ), answers.length ≤ g.left t ∧
      p.exec c (answers.map (Move.act i)) = some c' ∧ g.TurnedAway c' i := by
  induction left : g.left t using Nat.strong_induction_on generalizing c t with
  | _ n ih =>
      rcases Nat.eq_zero_or_pos n with rfl | some_left
      · exact ⟨[], c, Nat.zero_le _, rfl, t, found, outside, left⟩
      · obtain ⟨a, t', stepped, fewer⟩ := g.answers shut outside (left ▸ some_left)
        have moved : p.next c (.act i a) = some ⟨c.shared, c.threads.set i t'⟩ := by
          simp only [Program.next, found, stepped, List.append_nil]
        have at_i : (c.threads.set i t')[i]? = some t' :=
          List.getElem?_set_self (List.getElem?_eq_some_iff.mp found).1
        have still := (g.stays stepped shut).2.2.1 outside
        obtain ⟨rest, c', short, run, away⟩ :=
          ih (g.left t') (left ▸ fewer) (c := ⟨c.shared, c.threads.set i t'⟩) shut at_i still rfl
        refine ⟨a :: rest, c', ?_, ?_, away⟩
        · rw [List.length_cons]
          omega
        · simpa only [List.map_cons, Program.exec, moved] using run

end Gate

end Interleave
