import Mathlib.Data.List.Basic

/-! # Operations that make one outside call after the other

A step is given the answer of the call it waits for. It emits something and goes on at
another position, or ends with a result.
-/

namespace Operation

inductive Progress (σ ρ : Type*) where
  | running (position : σ)
  | ended (result : ρ)

variable {σ α ω ρ : Type*} {step : σ → α → Option (List ω × Progress σ ρ)}

/-- What the operation emits while it is given `answers`, and where it then stands. -/
def exec (step : σ → α → Option (List ω × Progress σ ρ)) :
    Progress σ ρ → List α → Option (List ω × Progress σ ρ)
  | p, [] => some ([], p)
  | .running s, a :: rest =>
      match step s a with
      | none => none
      | some (out, p) => (exec step p rest).map fun r => (out ++ r.1, r.2)
  | .ended _, _ :: _ => none

theorem exec_step {s : σ} {a : α} {rest : List α} {out more : List ω} {p q : Progress σ ρ}
    (stepped : step s a = some (out, p)) (run : exec step p rest = some (more, q)) :
    exec step (.running s) (a :: rest) = some (out ++ more, q) := by
  simp only [exec, stepped, run, Option.map_some]

theorem exec_cons {s : σ} {a : α} {rest : List α} {all : List ω} {q : Progress σ ρ}
    (run : exec step (.running s) (a :: rest) = some (all, q)) :
    ∃ out p more, step s a = some (out, p) ∧ exec step p rest = some (more, q) ∧
      all = out ++ more := by
  simp only [exec] at run
  split at run
  · cases run
  · rename_i out p stepped
    obtain ⟨⟨more, q'⟩, onward, same⟩ := Option.map_eq_some_iff.mp run
    obtain ⟨rfl, rfl⟩ := same
    exact ⟨out, p, more, stepped, onward, rfl⟩

/-- An invariant of what was emitted so far and of the position. -/
theorem exec_invariant {Inv : List ω → Progress σ ρ → Prop}
    (keep : ∀ before s a out p, Inv before (.running s) → step s a = some (out, p) →
      Inv (before ++ out) p)
    {before more : List ω} {p q : Progress σ ρ} {answers : List α} (start : Inv before p)
    (run : exec step p answers = some (more, q)) : Inv (before ++ more) q := by
  induction answers generalizing before more p with
  | nil =>
      obtain ⟨rfl, rfl⟩ := Prod.mk.inj (Option.some.inj run)
      rwa [List.append_nil]
  | cons a rest ih =>
      cases p with
      | ended => cases run
      | running s =>
          obtain ⟨out, p, more, stepped, onward, rfl⟩ := exec_cons run
          rw [← List.append_assoc]
          exact ih (keep _ _ _ _ _ start stepped) onward

/-- All that is emitted has `Q`, as long as every answer is `allowed` and the position
    stays within `Ok`. -/
theorem exec_emits {Ok : σ → Prop} {Q : ω → Prop} {allowed : α → Prop}
    (keep : ∀ s a out p, Ok s → allowed a → step s a = some (out, p) →
      (∀ w ∈ out, Q w) ∧ ∀ s', p = .running s' → Ok s')
    {s : σ} {answers : List α} {all : List ω} {q : Progress σ ρ} (start : Ok s)
    (answered : ∀ a ∈ answers, allowed a)
    (run : exec step (.running s) answers = some (all, q)) : ∀ w ∈ all, Q w := by
  induction answers generalizing s all with
  | nil =>
      obtain ⟨rfl, rfl⟩ := Prod.mk.inj (Option.some.inj run)
      simp
  | cons a rest ih =>
      obtain ⟨out, p, more, stepped, onward, rfl⟩ := exec_cons run
      obtain ⟨emitted, stays⟩ := keep s a out p start (answered a (by simp)) stepped
      have later : ∀ w ∈ more, Q w := by
        cases p with
        | running s' =>
            exact ih (stays s' rfl) (fun b member => answered b (by simp [member])) onward
        | ended result =>
            cases rest with
            | nil =>
                obtain ⟨rfl, rfl⟩ := Prod.mk.inj (Option.some.inj onward)
                simp
            | cons => cases onward
      intro w member
      rcases List.mem_append.mp member with now | after
      · exact emitted w now
      · exact later w after

/-! ## Running to the end -/

/-- What the operation emits and ends with when every call is answered by `reply`; `none` if
    it is stuck or has not ended after `fuel` steps. -/
def follow (step : σ → α → Option (List ω × Progress σ ρ)) (reply : σ → α) :
    Nat → Progress σ ρ → Option (List ω × ρ)
  | _, .ended result => some ([], result)
  | 0, .running _ => none
  | fuel + 1, .running s =>
      match step s (reply s) with
      | none => none
      | some (out, p) => (follow step reply fuel p).map fun r => (out ++ r.1, r.2)

section Follow

variable {σ' α' ρ' : Type*} {step' : σ' → α' → Option (List ω × Progress σ' ρ')}
  {reply : σ → α} {reply' : σ' → α'}

theorem follow_ended (fuel : Nat) (result : ρ) :
    follow step reply fuel (.ended result) = some ([], result) := by
  cases fuel <;> rfl

theorem follow_step {s : σ} {fuel : Nat} {out more : List ω} {p : Progress σ ρ} {result : ρ}
    (stepped : step s (reply s) = some (out, p))
    (onward : follow step reply fuel p = some (more, result)) :
    follow step reply (fuel + 1) (.running s) = some (out ++ more, result) := by
  simp only [follow, stepped, onward, Option.map_some]

/-- Two operations stand at related positions, or have ended with related results. -/
inductive Progress.Related (R : σ → σ' → Prop) (E : ρ → ρ' → Prop) :
    Progress σ ρ → Progress σ' ρ' → Prop where
  | running {s s'} : R s s' → Related R E (.running s) (.running s')
  | ended {r r'} : E r r' → Related R E (.ended r) (.ended r')

/-- An operation that matches every step of another one emits the same and ends alike. -/
theorem follow_simulates {R : σ → σ' → Prop} {E : ρ → ρ' → Prop}
    (simulates : ∀ s s' out p, R s s' → step s (reply s) = some (out, p) →
      ∃ p', step' s' (reply' s') = some (out, p') ∧ Progress.Related R E p p')
    {fuel : Nat} {p : Progress σ ρ} {p' : Progress σ' ρ'} {out : List ω} {result : ρ}
    (related : Progress.Related R E p p') (ends : follow step reply fuel p = some (out, result)) :
    ∃ result', follow step' reply' fuel p' = some (out, result') ∧ E result result' := by
  induction fuel generalizing p p' out with
  | zero =>
      cases related with
      | running => cases ends
      | ended same =>
          obtain ⟨rfl, rfl⟩ := Prod.mk.inj (Option.some.inj ends)
          exact ⟨_, rfl, same⟩
  | succ fuel ih =>
      cases related with
      | ended same =>
          obtain ⟨rfl, rfl⟩ := Prod.mk.inj (Option.some.inj ends)
          exact ⟨_, rfl, same⟩
      | @running s s' here =>
          simp only [follow] at ends
          split at ends
          · cases ends
          · rename_i first p₁ stepped
            obtain ⟨⟨more, last⟩, onward, same⟩ := Option.map_eq_some_iff.mp ends
            obtain ⟨rfl, rfl⟩ := same
            obtain ⟨p₁', stepped', related'⟩ := simulates s s' first p₁ here stepped
            obtain ⟨result', onward', alike⟩ := ih related' onward
            exact ⟨result', follow_step stepped' onward', alike⟩

end Follow

end Operation
