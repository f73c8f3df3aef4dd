import Mathlib.Algebra.BigOperators.Group.List.Lemmas
import Mathlib.Algebra.Ring.Int.Defs

/-! # Threads interleaved over shared memory

A program gives the atomic steps of one thread. Everything the thread cannot
decide itself (the answer of a call to the outside, the arm a `select` takes) is
the argument of the step, so one list of moves is one interleaving together with
one sequence of outcomes, and `exec` replays it.

The rules below reduce a statement about every interleaving to statements about
one step of one thread: `exec_invariant` for invariants, `next_conserves` for
quantities that are shared out between the memory and the threads, and
`always_iff_meets` when a property of all visited states is equivalent to a
condition on the moves.
-/

namespace Interleave

/-- The atomic steps of one thread over shared memory `σ`. -/
structure Program (σ ρ τ α : Type*) where
  /-- The thread that serves a call; calls may be made at any moment. -/
  start : ρ → τ
  /-- New memory, new state of the moving thread, and the threads it started. -/
  step : σ → τ → α → Option (σ × τ × List τ)

/-- Memory and the threads, addressed by their position. Finished threads stay. -/
structure Config (σ τ : Type*) where
  shared : σ
  threads : List τ

inductive Move (ρ α : Type*) where
  | call (request : ρ)
  | act (index : Nat) (answer : α)

section Tally

variable {τ : Type*}

/-- A flag as a number. -/
def flag (b : Bool) : ℤ := if b then 1 else 0

@[simp] theorem flag_true : flag true = 1 := rfl

@[simp] theorem flag_false : flag false = 0 := rfl

/-- What the threads own together of a quantity of which thread `t` owns `f t`. -/
def tally (f : τ → ℤ) (threads : List τ) : ℤ := (threads.map f).sum

@[simp] theorem tally_nil (f : τ → ℤ) : tally f [] = 0 := rfl

@[simp] theorem tally_cons (f : τ → ℤ) (t : τ) (rest : List τ) :
    tally f (t :: rest) = f t + tally f rest := by
  simp only [tally, List.map_cons, List.sum_cons]

@[simp] theorem tally_append (f : τ → ℤ) (left right : List τ) :
    tally f (left ++ right) = tally f left + tally f right := by
  simp only [tally, List.map_append, List.sum_append]

theorem tally_map {υ : Type*} (f : υ → ℤ) (g : τ → υ) (threads : List τ) :
    tally f (threads.map g) = tally (fun t => f (g t)) threads := by
  simp only [tally, List.map_map, Function.comp_def]

theorem tally_set (f : τ → ℤ) {threads : List τ} {i : Nat} {t : τ}
    (found : threads[i]? = some t) (t' : τ) :
    tally f (threads.set i t') = tally f threads + (f t' - f t) := by
  induction threads generalizing i with
  | nil => simp at found
  | cons head rest ih =>
      cases i with
      | zero =>
          obtain rfl : head = t := by simpa using found
          simp only [List.set_cons_zero, tally_cons]
          omega
      | succ i =>
          have inRest : rest[i]? = some t := by simpa using found
          simp only [List.set_cons_succ, tally_cons, ih inRest]
          omega

theorem tally_nonneg {f : τ → ℤ} (nonneg : ∀ t, 0 ≤ f t) (threads : List τ) :
    0 ≤ tally f threads := by
  induction threads with
  | nil => simp
  | cons head rest ih =>
      have here := nonneg head
      rw [tally_cons]
      omega

theorem le_tally {f : τ → ℤ} (nonneg : ∀ t, 0 ≤ f t) {threads : List τ} {t : τ}
    (member : t ∈ threads) : f t ≤ tally f threads := by
  induction threads with
  | nil => simp at member
  | cons head rest ih =>
      rw [tally_cons]
      rcases List.mem_cons.mp member with rfl | inRest
      · have others := tally_nonneg nonneg rest
        omega
      · have here := nonneg head
        have below := ih inRest
        omega

theorem tally_le {f g : τ → ℤ} {threads : List τ} (each : ∀ t ∈ threads, f t ≤ g t) :
    tally f threads ≤ tally g threads := by
  induction threads with
  | nil => simp
  | cons head rest ih =>
      have here := each head List.mem_cons_self
      have below := ih fun t member => each t (List.mem_cons_of_mem head member)
      rw [tally_cons, tally_cons]
      omega

/-- Two different positions are counted twice. -/
theorem pair_le_tally {f : τ → ℤ} (nonneg : ∀ t, 0 ≤ f t) {threads : List τ} {i j : Nat}
    {t u : τ} (different : i ≠ j) (first : threads[i]? = some t) (second : threads[j]? = some u) :
    f t + f u ≤ tally f threads := by
  induction threads generalizing i j with
  | nil => simp at first
  | cons head rest ih =>
      rw [tally_cons]
      cases i with
      | zero =>
          cases j with
          | zero => exact absurd rfl different
          | succ j =>
              obtain rfl : head = t := by simpa using first
              have inRest : rest[j]? = some u := by simpa using second
              have below := le_tally nonneg (List.mem_of_getElem? inRest)
              omega
      | succ i =>
          have firstRest : rest[i]? = some t := by simpa using first
          cases j with
          | zero =>
              obtain rfl : head = u := by simpa using second
              have below := le_tally nonneg (List.mem_of_getElem? firstRest)
              omega
          | succ j =>
              have secondRest : rest[j]? = some u := by simpa using second
              have below := ih (by omega) firstRest secondRest
              have here := nonneg head
              omega

theorem tally_eq_zero {f : τ → ℤ} {threads : List τ} (zero : ∀ t ∈ threads, f t = 0) :
    tally f threads = 0 := by
  induction threads with
  | nil => rfl
  | cons head rest ih =>
      rw [tally_cons, zero head List.mem_cons_self,
        ih (fun t member => zero t (List.mem_cons_of_mem head member)), add_zero]

theorem tally_eq_countP {f : τ → ℤ} {q : τ → Bool} {threads : List τ}
    (each : ∀ t ∈ threads, f t = if q t then 1 else 0) : tally f threads = threads.countP q := by
  induction threads with
  | nil => rfl
  | cons head rest ih =>
      rw [tally_cons, each head List.mem_cons_self, List.countP_cons,
        ih (fun t member => each t (List.mem_cons_of_mem head member))]
      split <;> push_cast <;> omega

theorem exists_of_tally_pos {f : τ → ℤ} {threads : List τ} (positive : 0 < tally f threads) :
    ∃ t ∈ threads, 0 < f t := by
  by_contra none
  push Not at none
  have : tally f threads ≤ 0 := by
    clear positive
    induction threads with
    | nil => simp
    | cons head rest ih =>
        rw [tally_cons]
        have here := none head List.mem_cons_self
        have below := ih (fun t member => none t (List.mem_cons_of_mem head member))
        omega
  omega

/-- Beside a thread that is not in `f` there is one that is. -/
theorem two_le_tally {f g : τ → ℤ} {threads : List τ} {i : Nat} {u : τ} (nonneg : ∀ t, 0 ≤ g t)
    (positive : 0 < tally f threads) (covers : ∀ t, 0 < f t → g t = 1)
    (found : threads[i]? = some u) (has : g u = 1) (outside : f u = 0) : 2 ≤ tally g threads := by
  obtain ⟨t, member, inside⟩ := exists_of_tally_pos positive
  obtain ⟨j, at_j⟩ := List.mem_iff_getElem?.mp member
  have different : i ≠ j := by
    rintro rfl
    obtain rfl := Option.some.inj (found.symm.trans at_j)
    omega
  have both := pair_le_tally nonneg different found at_j
  have other := covers t inside
  omega

/-- A flag that is counted once is set as soon as one thread has it. -/
theorem flag_of_tally {f : τ → ℤ} {b : Bool} {threads : List τ} {t : τ}
    (counted : flag b = tally f threads) (nonneg : ∀ t, 0 ≤ f t) (member : t ∈ threads)
    (has : f t = 1) : b = true := by
  have below := le_tally nonneg member
  cases b with
  | false =>
      rw [← counted, flag_false] at below
      omega
  | true => rfl

/-- And no two threads have it. -/
theorem flag_unique {f : τ → ℤ} {b : Bool} {threads : List τ} {i j : Nat} {t u : τ}
    (counted : flag b = tally f threads) (nonneg : ∀ t, 0 ≤ f t) (first : threads[i]? = some t)
    (second : threads[j]? = some u) (has : f t = 1) (also : f u = 1) : i = j := by
  by_contra different
  have both := pair_le_tally nonneg different first second
  cases b with
  | false =>
      rw [← counted, flag_false] at both
      omega
  | true =>
      rw [← counted, flag_true] at both
      omega

end Tally

section Collect

variable {τ υ : Type*}

theorem filterMap_set_same {f : τ → Option υ} {threads : List τ} {i : Nat} {t t' : τ}
    (found : threads[i]? = some t) (same : f t' = f t) :
    (threads.set i t').filterMap f = threads.filterMap f := by
  induction threads generalizing i with
  | nil => rfl
  | cons head rest ih =>
      cases i with
      | zero =>
          obtain rfl : head = t := by simpa using found
          simp only [List.set_cons_zero, List.filterMap_cons, same]
      | succ i =>
          have inRest : rest[i]? = some t := by simpa using found
          simp only [List.set_cons_succ, List.filterMap_cons, ih inRest]

theorem filterMap_set_perm {f : τ → Option υ} {threads : List τ} {i : Nat} {t t' : τ} {x : υ}
    (found : threads[i]? = some t) (before : f t = none) (after : f t' = some x) :
    ((threads.set i t').filterMap f).Perm (x :: threads.filterMap f) := by
  induction threads generalizing i with
  | nil => simp at found
  | cons head rest ih =>
      cases i with
      | zero =>
          obtain rfl : head = t := by simpa using found
          simp only [List.set_cons_zero, List.filterMap_cons, before, after]
          exact .refl _
      | succ i =>
          have inRest : rest[i]? = some t := by simpa using found
          simp only [List.set_cons_succ, List.filterMap_cons]
          cases f head with
          | none => exact ih inRest
          | some y => exact ((ih inRest).cons y).trans (.swap x y _)

theorem filterMap_set_sublist {f : τ → Option υ} {threads : List τ} {i : Nat} {t' : τ}
    (after : f t' = none) : ((threads.set i t').filterMap f).Sublist (threads.filterMap f) := by
  induction threads generalizing i with
  | nil => exact .refl _
  | cons head rest ih =>
      cases i with
      | zero =>
          rw [List.set_cons_zero, List.filterMap_cons_none after]
          exact (List.sublist_cons_self head rest).filterMap f
      | succ i =>
          rw [List.set_cons_succ, List.filterMap_cons, List.filterMap_cons]
          cases f head with
          | none => exact ih
          | some y => exact ih.cons_cons y

/-- Where nothing is collected twice, different positions hold different things. -/
theorem filterMap_nodup_ne {f : τ → Option υ} {threads : List τ} {i j : Nat} {t u : τ} {x y : υ}
    (distinct : (threads.filterMap f).Nodup) (different : i ≠ j) (first : threads[i]? = some t)
    (second : threads[j]? = some u) (has : f t = some x) (also : f u = some y) : x ≠ y := by
  induction threads generalizing i j with
  | nil => simp at first
  | cons head rest ih =>
      rw [List.filterMap_cons] at distinct
      have tail : (rest.filterMap f).Nodup := by
        split at distinct
        · exact distinct
        · exact (List.nodup_cons.mp distinct).2
      cases i with
      | zero =>
          cases j with
          | zero => exact absurd rfl different
          | succ j =>
              obtain rfl : head = t := by simpa using first
              have inRest : rest[j]? = some u := by simpa using second
              simp only [has] at distinct
              rintro rfl
              have member := List.mem_filterMap.mpr ⟨u, List.mem_of_getElem? inRest, also⟩
              exact (List.nodup_cons.mp distinct).1 member
      | succ i =>
          have firstRest : rest[i]? = some t := by simpa using first
          cases j with
          | zero =>
              obtain rfl : head = u := by simpa using second
              simp only [also] at distinct
              rintro rfl
              have member := List.mem_filterMap.mpr ⟨t, List.mem_of_getElem? firstRest, has⟩
              exact (List.nodup_cons.mp distinct).1 member
          | succ j =>
              have secondRest : rest[j]? = some u := by simpa using second
              exact ih tail (by omega) firstRest secondRest

end Collect

namespace Program

variable {σ ρ τ α : Type*} (p : Program σ ρ τ α)

def next (c : Config σ τ) : Move ρ α → Option (Config σ τ)
  | .call r => some ⟨c.shared, c.threads ++ [p.start r]⟩
  | .act i a =>
      match c.threads[i]? with
      | none => none
      | some t =>
          match p.step c.shared t a with
          | none => none
          | some (s, t', started) => some ⟨s, c.threads.set i t' ++ started⟩

/-- Replay an interleaving; `none` when some move is not enabled. -/
def exec : Config σ τ → List (Move ρ α) → Option (Config σ τ)
  | c, [] => some c
  | c, m :: rest =>
      match p.next c m with
      | none => none
      | some c' => exec c' rest

/-- Every move of the run is taken in a state where `ok` allows it. -/
def Meets (ok : Config σ τ → Move ρ α → Prop) : Config σ τ → List (Move ρ α) → Prop
  | _, [] => True
  | c, m :: rest => ∀ c', p.next c m = some c' → ok c m ∧ Meets ok c' rest

/-- `P` holds in every state the run visits, the first and the last included. -/
def Always (P : Config σ τ → Prop) : Config σ τ → List (Move ρ α) → Prop
  | c, [] => P c
  | c, m :: rest => P c ∧ ∀ c', p.next c m = some c' → Always P c' rest

/-- One thread runs on alone, and starts no other. -/
def solo : σ → τ → List α → Option (σ × τ)
  | s, t, [] => some (s, t)
  | s, t, a :: rest =>
      match p.step s t a with
      | some (s', t', []) => solo s' t' rest
      | _ => none

variable {p}

/-- All that a move can be: a call is made, or one thread takes one step. -/
theorem next_cases {c c' : Config σ τ} {m : Move ρ α} (h : p.next c m = some c') :
    (∃ r, m = .call r ∧ c' = ⟨c.shared, c.threads ++ [p.start r]⟩) ∨
    (∃ i a t s t' started, m = .act i a ∧ c.threads[i]? = some t ∧
      p.step c.shared t a = some (s, t', started) ∧
      c' = ⟨s, c.threads.set i t' ++ started⟩) := by
  cases m with
  | call r => exact .inl ⟨r, rfl, (Option.some.inj h).symm⟩
  | act i a =>
      simp only [next] at h
      cases found : c.threads[i]? with
      | none => simp [found] at h
      | some t =>
          simp only [found] at h
          cases moved : p.step c.shared t a with
          | none => simp [moved] at h
          | some result =>
              obtain ⟨s, t', started⟩ := result
              simp only [moved, Option.some.injEq] at h
              exact .inr ⟨i, a, t, s, t', started, rfl, found, moved, h.symm⟩

theorem exec_cons {c c' : Config σ τ} {m : Move ρ α} {rest : List (Move ρ α)}
    (h : p.exec c (m :: rest) = some c') :
    ∃ mid, p.next c m = some mid ∧ p.exec mid rest = some c' := by
  rw [exec] at h
  cases moved : p.next c m with
  | none => simp [moved] at h
  | some mid => exact ⟨mid, rfl, by simpa [moved] using h⟩

theorem exec_single {c c' : Config σ τ} {m : Move ρ α} (moved : p.next c m = some c') :
    p.exec c [m] = some c' := by
  simp only [exec, moved]

theorem exec_trans {c mid c' : Config σ τ} {before after : List (Move ρ α)}
    (first : p.exec c before = some mid) (second : p.exec mid after = some c') :
    p.exec c (before ++ after) = some c' := by
  induction before generalizing c with
  | nil =>
      obtain rfl : c = mid := by simpa [exec] using first
      exact second
  | cons m rest ih =>
      obtain ⟨step, moved, run⟩ := exec_cons first
      simp only [List.cons_append, exec, moved]
      exact ih run

theorem exec_solo {c : Config σ τ} {i : Nat} {t t' : τ} {s' : σ} {answers : List α}
    (found : c.threads[i]? = some t) (run : p.solo c.shared t answers = some (s', t')) :
    p.exec c (answers.map (.act i)) = some ⟨s', c.threads.set i t'⟩ := by
  induction answers generalizing c t with
  | nil =>
      obtain ⟨rfl, rfl⟩ := Prod.mk.inj (Option.some.inj run)
      obtain ⟨inside, same⟩ := List.getElem?_eq_some_iff.mp found
      simp only [List.map_nil, exec, ← same, List.set_getElem_self]
  | cons a rest ih =>
      have inside := (List.getElem?_eq_some_iff.mp found).1
      rw [solo] at run
      split at run
      · rename_i s₁ t₁ stepped
        have onward := @ih ⟨s₁, c.threads.set i t₁⟩ t₁ (List.getElem?_set_self inside) run
        simp only [List.map_cons, exec, next, found, stepped, List.append_nil, onward, List.set_set]
      · cases run

theorem meets_of_all {ok : Config σ τ → Move ρ α → Prop} {c : Config σ τ}
    {ms : List (Move ρ α)} (all : ∀ m ∈ ms, ∀ c, ok c m) : p.Meets ok c ms := by
  induction ms generalizing c with
  | nil => trivial
  | cons m rest ih =>
      exact fun _ _ => ⟨all m List.mem_cons_self c,
        ih (fun m' member => all m' (List.mem_cons_of_mem m member))⟩

/-- A condition on moves alone may be checked on the list of moves. -/
theorem meets_of_forall {ok : Move ρ α → Prop} {c : Config σ τ} {ms : List (Move ρ α)}
    (all : ∀ m ∈ ms, ok m) : p.Meets (fun _ m => ok m) c ms :=
  meets_of_all fun m member _ => all m member

theorem meets_true {c : Config σ τ} (ms : List (Move ρ α)) : p.Meets (fun _ _ => True) c ms :=
  meets_of_all fun _ _ _ => trivial

instance decidableMeets {ok : Config σ τ → Move ρ α → Prop} [∀ c m, Decidable (ok c m)] :
    (c : Config σ τ) → (ms : List (Move ρ α)) → Decidable (p.Meets ok c ms)
  | _, [] => isTrue trivial
  | c, m :: rest =>
      match moved : p.next c m with
      | none => isTrue fun c' enabled => by simp [moved] at enabled
      | some mid =>
          have : Decidable (p.Meets ok mid rest) := decidableMeets mid rest
          decidable_of_iff (ok c m ∧ p.Meets ok mid rest)
            ⟨fun both c' enabled => by
              obtain rfl := Option.some.inj (moved.symm.trans enabled)
              exact both, fun all => all mid moved⟩

/-- Invariants: what holds at the start and is kept by every allowed move holds
    at the end of every run of allowed moves. -/
theorem exec_invariant {Inv : Config σ τ → Prop} {ok : Config σ τ → Move ρ α → Prop}
    (keep : ∀ c m c', Inv c → ok c m → p.next c m = some c' → Inv c')
    {c c' : Config σ τ} {ms : List (Move ρ α)} (start : Inv c) (allowed : p.Meets ok c ms)
    (run : p.exec c ms = some c') : Inv c' := by
  induction ms generalizing c with
  | nil =>
      obtain rfl : c = c' := by simpa [exec] using run
      exact start
  | cons m rest ih =>
      obtain ⟨mid, moved, run⟩ := exec_cons run
      obtain ⟨here, later⟩ := allowed mid moved
      exact ih (keep c m mid start here moved) later run

/-- Every move is allowed by `ok`, which sees the moves before it. -/
def AllowedAfter (ok : List (Move ρ α) → Move ρ α → Prop) :
    List (Move ρ α) → List (Move ρ α) → Prop
  | _, [] => True
  | past, m :: rest => ok past m ∧ AllowedAfter ok (past ++ [m]) rest

instance decidableAllowedAfter {ok : List (Move ρ α) → Move ρ α → Prop}
    [∀ past m, Decidable (ok past m)] :
    (past ms : List (Move ρ α)) → Decidable (AllowedAfter ok past ms)
  | _, [] => isTrue trivial
  | past, m :: rest =>
      have : Decidable (AllowedAfter ok (past ++ [m]) rest) :=
        decidableAllowedAfter (past ++ [m]) rest
      inferInstanceAs (Decidable (ok past m ∧ AllowedAfter ok (past ++ [m]) rest))

theorem allowedAfter_of_forall {ok : Move ρ α → Prop} (past : List (Move ρ α))
    {ms : List (Move ρ α)} (all : ∀ m ∈ ms, ok m) : AllowedAfter (fun _ m => ok m) past ms := by
  induction ms generalizing past with
  | nil => trivial
  | cons m rest ih =>
      exact ⟨all m List.mem_cons_self,
        ih _ fun m' member => all m' (List.mem_cons_of_mem m member)⟩

/-- Invariants that speak about the moves made so far. -/
theorem exec_history {Inv : List (Move ρ α) → Config σ τ → Prop}
    {ok : List (Move ρ α) → Move ρ α → Prop}
    (keep : ∀ past c m c', Inv past c → ok past m → p.next c m = some c' → Inv (past ++ [m]) c')
    {past ms : List (Move ρ α)} {c c' : Config σ τ} (start : Inv past c)
    (allowed : AllowedAfter ok past ms) (run : p.exec c ms = some c') : Inv (past ++ ms) c' := by
  induction ms generalizing past c with
  | nil =>
      obtain rfl : c = c' := by simpa [exec] using run
      simpa using start
  | cons m rest ih =>
      obtain ⟨mid, moved, run⟩ := exec_cons run
      obtain ⟨here, later⟩ := allowed
      have kept := ih (keep past c m mid start here moved) later run
      rwa [List.append_assoc, List.singleton_append] at kept

/-- What the moves of a run leave behind, one after the other. -/
def trail {β : Type*} (emit : Config σ τ → Move ρ α → List β) :
    Config σ τ → List (Move ρ α) → List β
  | _, [] => []
  | c, m :: rest =>
      match p.next c m with
      | none => []
      | some c' => emit c m ++ trail emit c' rest

/-- Invariants that speak about the trail of the run. -/
theorem exec_trail {β : Type*} {emit : Config σ τ → Move ρ α → List β}
    {Inv : List β → Config σ τ → Prop} {ok : Move ρ α → Prop}
    (keep : ∀ past c m c', Inv past c → ok m → p.next c m = some c' → Inv (past ++ emit c m) c')
    {past : List β} {c c' : Config σ τ} {ms : List (Move ρ α)} (start : Inv past c)
    (allowed : ∀ m ∈ ms, ok m) (run : p.exec c ms = some c') :
    Inv (past ++ p.trail emit c ms) c' := by
  induction ms generalizing past c with
  | nil =>
      obtain rfl : c = c' := by simpa [exec] using run
      simpa [trail] using start
  | cons m rest ih =>
      obtain ⟨mid, moved, run⟩ := exec_cons run
      have kept := ih (keep past c m mid start (allowed m List.mem_cons_self) moved)
        (fun m' member => allowed m' (List.mem_cons_of_mem m member)) run
      simpa only [trail, moved, List.append_assoc] using kept

/-- When a move leads to a good state exactly if it is allowed, all states of a
    run are good exactly if all its moves are allowed. -/
theorem always_iff_meets {Inv P : Config σ τ → Prop} {ok : Config σ τ → Move ρ α → Prop}
    {scope : Move ρ α → Prop}
    (keep : ∀ c m c', Inv c → scope m → p.next c m = some c' → Inv c')
    (exactly : ∀ c m c', Inv c → P c → scope m → p.next c m = some c' → (P c' ↔ ok c m))
    {c : Config σ τ} {ms : List (Move ρ α)} (start : Inv c) (good : P c)
    (within : ∀ m ∈ ms, scope m) : p.Always P c ms ↔ p.Meets ok c ms := by
  induction ms generalizing c with
  | nil => exact ⟨fun _ => trivial, fun _ => good⟩
  | cons m rest ih =>
      have here : scope m := within m List.mem_cons_self
      have later : ∀ m' ∈ rest, scope m' := fun m' member =>
        within m' (List.mem_cons_of_mem m member)
      constructor
      · intro all c' moved
        have tail := all.2 c' moved
        have goodNext : P c' := by
          cases rest with
          | nil => exact tail
          | cons => exact tail.1
        refine ⟨(exactly c m c' start good here moved).mp goodNext, ?_⟩
        exact (ih (keep c m c' start here moved) goodNext later).mp tail
      · intro all
        refine ⟨good, fun c' moved => ?_⟩
        obtain ⟨allowed, tail⟩ := all c' moved
        have goodNext := (exactly c m c' start good here moved).mpr allowed
        exact (ih (keep c m c' start here moved) goodNext later).mpr tail

theorem always_iff_meets_of_next {P : Config σ τ → Prop} {ok : Config σ τ → Move ρ α → Prop}
    (exactly : ∀ c m c', P c → p.next c m = some c' → (P c' ↔ ok c m))
    {c : Config σ τ} (ms : List (Move ρ α)) (good : P c) : p.Always P c ms ↔ p.Meets ok c ms := by
  have keep : ∀ (c : Config σ τ) (m : Move ρ α) (c' : Config σ τ), True → True →
      p.next c m = some c' → True := fun _ _ _ _ _ _ => trivial
  exact always_iff_meets keep (fun c m c' _ before _ moved => exactly c m c' before moved)
    trivial good fun _ _ => trivial

/-- Conservation: if every step moves between the memory and the threads
    exactly what it takes, the difference of the two never changes. -/
theorem next_conserves (G : σ → ℤ) (w : τ → ℤ)
    (call : ∀ r, w (p.start r) = 0)
    (step : ∀ s t a s' t' started, p.step s t a = some (s', t', started) →
      G s' - G s = w t' - w t + tally w started)
    {c c' : Config σ τ} {m : Move ρ α} (moved : p.next c m = some c') :
    G c'.shared - tally w c'.threads = G c.shared - tally w c.threads := by
  obtain ⟨r, -, rfl⟩ | ⟨i, a, t, s, t', started, -, found, stepped, rfl⟩ :=
    next_cases moved
  · simp only [tally_append, tally_cons, tally_nil, call r, add_zero]
  · simp only [tally_append, tally_set w found]
    have balance := step _ _ _ _ _ _ stepped
    omega

theorem mem_threads_set {threads : List τ} {i : Nat} {t' u : τ} (member : u ∈ threads.set i t') :
    u = t' ∨ ∃ j, j ≠ i ∧ threads[j]? = some u := by
  obtain ⟨j, at_j⟩ := List.mem_iff_getElem?.mp member
  by_cases same : i = j
  · subst same
    rw [List.getElem?_set_self'] at at_j
    obtain ⟨old, -, rfl⟩ := Option.map_eq_some_iff.mp at_j
    exact .inl rfl
  · rw [List.getElem?_set_ne same] at at_j
    exact .inr ⟨j, Ne.symm same, at_j⟩

theorem mem_threads_set_self {threads : List τ} {i : Nat} {t : τ} (found : threads[i]? = some t)
    (t' : τ) : t' ∈ threads.set i t' := by
  have inside := (List.getElem?_eq_some_iff.mp found).1
  exact List.mem_of_getElem? (List.getElem?_set_self inside)

theorem mem_threads_set_of_ne {threads : List τ} {i j : Nat} {t' u : τ} (other : j ≠ i)
    (at_j : threads[j]? = some u) : u ∈ threads.set i t' := by
  rw [← List.getElem?_set_ne (Ne.symm other)] at at_j
  exact List.mem_of_getElem? at_j

/-- Facts about single threads: the moving thread is checked on its new state,
    the others on the new memory. -/
theorem forall_threads_set {P : τ → Prop} {threads : List τ} {i : Nat} {t' : τ} (own : P t')
    (others : ∀ j u, j ≠ i → threads[j]? = some u → P u) : ∀ u ∈ threads.set i t', P u := by
  intro u member
  obtain rfl | ⟨j, other, at_j⟩ := mem_threads_set member
  · exact own
  · exact others j u other at_j

theorem forall_threads_call {P : τ → Prop} {threads : List τ} {t : τ} (old : ∀ u ∈ threads, P u)
    (new : P t) : ∀ u ∈ threads ++ [t], P u := by
  intro u member
  rcases List.mem_append.mp member with before | own
  · exact old u before
  · rw [List.mem_singleton.mp own]
    exact new

theorem forall_threads_act {P : τ → Prop} {threads started : List τ} {i : Nat} {t' : τ}
    (own : P t') (fresh : ∀ u ∈ started, P u)
    (others : ∀ j u, j ≠ i → threads[j]? = some u → P u) :
    ∀ u ∈ threads.set i t' ++ started, P u := by
  intro u member
  rcases List.mem_append.mp member with old | new
  · exact forall_threads_set own others u old
  · exact fresh u new

theorem exists_threads_act {P : τ → Prop} {threads started : List τ} {i : Nat} {t t' : τ}
    (found : threads[i]? = some t) (own : P t → P t') (before : ∃ u ∈ threads, P u) :
    ∃ u ∈ threads.set i t' ++ started, P u := by
  obtain ⟨u, member, holds⟩ := before
  obtain ⟨j, at_j⟩ := List.mem_iff_getElem?.mp member
  by_cases same : j = i
  · subst same
    obtain rfl : t = u := Option.some.inj (found.symm.trans at_j)
    exact ⟨t', List.mem_append_left _ (mem_threads_set_self found t'), own holds⟩
  · exact ⟨u, List.mem_append_left _ (mem_threads_set_of_ne same at_j), holds⟩

/-- Facts about the thread at one position, whoever it is: they are kept by its
    own steps and by those of all others. -/
theorem exec_position {G : σ → Prop} {Q : σ → τ → Prop}
    (call : ∀ s r, G s → Q s (p.start r))
    (step : ∀ s t a s' t' started, G s → p.step s t a = some (s', t', started) →
      G s' ∧ (∀ u, Q s u → Q s' u) ∧ (Q s t → Q s' t') ∧ ∀ u ∈ started, Q s' u)
    {c c' : Config σ τ} {ms : List (Move ρ α)} {i : Nat} (start : G c.shared)
    (here : ∀ t, c.threads[i]? = some t → Q c.shared t) (run : p.exec c ms = some c') :
    ∀ t, c'.threads[i]? = some t → Q c'.shared t := by
  have keep : ∀ c m c', (G c.shared ∧ ∀ t, c.threads[i]? = some t → Q c.shared t) → True →
      p.next c m = some c' →
      G c'.shared ∧ ∀ t, c'.threads[i]? = some t → Q c'.shared t := by
    intro c m c' ⟨memory, here⟩ _ moved
    obtain ⟨r, -, rfl⟩ | ⟨j, a, t, s, t', started, -, found, stepped, rfl⟩ := next_cases moved
    · refine ⟨memory, fun u at_i => ?_⟩
      rw [List.getElem?_append] at at_i
      split at at_i
      · exact here u at_i
      · obtain rfl := List.mem_singleton.mp (List.mem_of_getElem? at_i)
        exact call _ r memory
    · obtain ⟨memory', others, own, fresh⟩ := step _ _ _ _ _ _ memory stepped
      refine ⟨memory', fun u at_i => ?_⟩
      rw [List.getElem?_append] at at_i
      split at at_i
      · by_cases same : j = i
        · subst same
          rw [List.getElem?_set_self (List.getElem?_eq_some_iff.mp found).1] at at_i
          obtain rfl := Option.some.inj at_i
          exact own (here t found)
        · rw [List.getElem?_set_ne same] at at_i
          exact others u (here u at_i)
      · exact fresh u (List.mem_of_getElem? at_i)
  exact (exec_invariant keep ⟨start, here⟩ (meets_true ms) run).2

/-- What one move means for the thread at position `i`. -/
theorem next_at {c c' : Config σ τ} {m : Move ρ α} {i : Nat} {t : τ}
    (found : c.threads[i]? = some t) (moved : p.next c m = some c') :
    (∀ a, m ≠ .act i a) ∧ c'.threads[i]? = some t ∨
    ∃ a t' started, m = .act i a ∧ p.step c.shared t a = some (c'.shared, t', started) ∧
      c'.threads[i]? = some t' := by
  have inside : i < c.threads.length := (List.getElem?_eq_some_iff.mp found).1
  obtain ⟨r, rfl, rfl⟩ | ⟨j, a, u, s, u', started, rfl, at_j, stepped, rfl⟩ := next_cases moved
  · exact .inl ⟨nofun, (List.getElem?_append_left inside).trans found⟩
  · have size : i < (c.threads.set j u').length := by rwa [List.length_set]
    by_cases own : j = i
    · subst own
      obtain rfl := Option.some.inj (at_j.symm.trans found)
      refine .inr ⟨a, u', started, rfl, stepped, ?_⟩
      exact (List.getElem?_append_left size).trans (List.getElem?_set_self inside)
    · refine .inl ⟨fun b same => ?_, ?_⟩
      · cases same
        exact own rfl
      · exact (List.getElem?_append_left size).trans ((List.getElem?_set_ne own).trans found)

/-- Where the thread at position `i` comes from. -/
theorem next_before {c c' : Config σ τ} {m : Move ρ α} {i : Nat} {t' : τ}
    (found : c'.threads[i]? = some t') (moved : p.next c m = some c') :
    (∀ a, m ≠ .act i a) ∧ c.threads[i]? = some t' ∨
    (∃ a t started, m = .act i a ∧ c.threads[i]? = some t ∧
      p.step c.shared t a = some (c'.shared, t', started)) ∨
    c.threads.length ≤ i ∧ ((∃ r, m = .call r ∧ t' = p.start r) ∨
      ∃ j a t u started, m = .act j a ∧ p.step c.shared t a = some (c'.shared, u, started) ∧
        t' ∈ started) := by
  by_cases inside : i < c.threads.length
  · have here : c.threads[i]? = some c.threads[i] := List.getElem?_eq_getElem inside
    obtain ⟨other, same⟩ | ⟨a, u, started, rfl, stepped, same⟩ := next_at here moved
    · rw [same] at found
      cases found
      exact .inl ⟨other, here⟩
    · rw [same] at found
      cases found
      exact .inr (.inl ⟨a, _, started, rfl, here, stepped⟩)
  · refine .inr (.inr ⟨not_lt.mp inside, ?_⟩)
    obtain ⟨r, rfl, rfl⟩ | ⟨j, a, t, s, u, started, rfl, -, stepped, rfl⟩ := next_cases moved
    · rw [List.getElem?_append_right (not_lt.mp inside)] at found
      exact .inl ⟨r, rfl, List.mem_singleton.mp (List.mem_of_getElem? found)⟩
    · rw [List.getElem?_append_right (by rw [List.length_set]; exact not_lt.mp inside)] at found
      exact .inr ⟨j, a, t, u, started, rfl, stepped, List.mem_of_getElem? found⟩

/-- A fact about one thread alone is kept if its own steps keep it. -/
theorem exec_thread {Q : τ → Prop}
    (step : ∀ s t a s' t' started, Q t → p.step s t a = some (s', t', started) → Q t')
    {c c' : Config σ τ} {ms : List (Move ρ α)} {i : Nat}
    (start : ∃ t, c.threads[i]? = some t ∧ Q t) (run : p.exec c ms = some c') :
    ∃ t, c'.threads[i]? = some t ∧ Q t := by
  have keep : ∀ c m c', (∃ t, c.threads[i]? = some t ∧ Q t) → True → p.next c m = some c' →
      ∃ t, c'.threads[i]? = some t ∧ Q t := by
    intro c m c' ⟨t, at_i, holds⟩ _ moved
    obtain ⟨-, kept⟩ | ⟨a, t', started, -, stepped, at_i'⟩ := next_at at_i moved
    · exact ⟨t, kept, holds⟩
    · exact ⟨t', at_i', step _ _ _ _ _ _ holds stepped⟩
  exact exec_invariant keep start (meets_true ms) run

end Program

end Interleave
