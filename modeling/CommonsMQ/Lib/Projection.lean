import CommonsMQ.Lib.Interleave

/-! # Programs that do not look at everything

A projection forgets part of the memory, of the threads and of the answers from
outside. If each step of a program can be taken on what is left, and leads to what
is left of the result, the forgotten part has no influence on the rest: two runs
that start alike and are answered alike can be told apart by nothing that the
projection keeps.
-/

namespace Interleave

variable {σ ρ τ α : Type*}

structure Projection (p : Program σ ρ τ α) where
  memory : σ → σ
  thread : τ → τ
  answer : α → α
  /-- The answers on which steps and projection commute. -/
  ok : α → Prop
  ok_answer : ∀ a, ok (answer a) ↔ ok a
  start : ∀ r, thread (p.start r) = p.start r
  step : ∀ s t a, ok a → p.step (memory s) (thread t) (answer a) =
    (p.step s t a).map fun r => (memory r.1, thread r.2.1, r.2.2.map thread)

namespace Projection

variable {p : Program σ ρ τ α} (f : Projection p)

def config (c : Config σ τ) : Config σ τ := ⟨f.memory c.shared, c.threads.map f.thread⟩

def move : Move ρ α → Move ρ α
  | .call r => .call r
  | .act i a => .act i (f.answer a)

def okMove : Move ρ α → Prop
  | .call _ => True
  | .act _ a => f.ok a

theorem okMove_move (m : Move ρ α) : f.okMove (f.move m) ↔ f.okMove m := by
  cases m with
  | call r => exact Iff.rfl
  | act i a => exact f.ok_answer a

/-- Of runs that are answered alike, one is as good as the other. -/
theorem okMove_of_alike {ms ms' : List (Move ρ α)} (alike : ms.map f.move = ms'.map f.move)
    (ok : ∀ m ∈ ms, f.okMove m) : ∀ m ∈ ms', f.okMove m := by
  intro m' member
  have kept : f.move m' ∈ ms.map f.move := alike ▸ List.mem_map_of_mem member
  obtain ⟨m, original, same⟩ := List.mem_map.mp kept
  rw [← f.okMove_move, ← same, f.okMove_move]
  exact ok m original

theorem next {c : Config σ τ} {m : Move ρ α} (ok : f.okMove m) :
    p.next (f.config c) (f.move m) = (p.next c m).map f.config := by
  cases m with
  | call r => simp [Program.next, move, config, f.start]
  | act i a =>
      simp only [Program.next, move, config, List.getElem?_map]
      cases c.threads[i]? with
      | none => rfl
      | some t =>
          simp only [Option.map_some, f.step _ _ _ ok]
          cases p.step c.shared t a with
          | none => rfl
          | some r => simp [config]

theorem exec {c : Config σ τ} {ms : List (Move ρ α)} (ok : ∀ m ∈ ms, f.okMove m) :
    p.exec (f.config c) (ms.map f.move) = (p.exec c ms).map f.config := by
  induction ms generalizing c with
  | nil => rfl
  | cons m rest ih =>
      have later : ∀ m' ∈ rest, f.okMove m' := fun m' member => ok m' (List.mem_cons_of_mem m member)
      simp only [List.map_cons, Program.exec, f.next (ok m List.mem_cons_self)]
      cases p.next c m with
      | none => rfl
      | some mid => exact ih later

/-- Two runs that start alike and are answered alike end alike. -/
theorem agree {c c' d : Config σ τ} {ms ms' : List (Move ρ α)} (ok : ∀ m ∈ ms, f.okMove m)
    (start : f.config c = f.config c') (alike : ms.map f.move = ms'.map f.move)
    (run : p.exec c ms = some d) : ∃ d', p.exec c' ms' = some d' ∧ f.config d = f.config d' := by
  have first := f.exec (c := c) ok
  have second := f.exec (c := c') (f.okMove_of_alike alike ok)
  rw [run, Option.map_some, start, alike, second] at first
  obtain ⟨d', run', same⟩ := Option.map_eq_some_iff.mp first
  exact ⟨d', run', same.symm⟩

end Projection

end Interleave
