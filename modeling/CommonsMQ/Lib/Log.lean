import CommonsMQ.Lib.Interleave

/-! # Logs

A step of a thread may leave entries in a log that no step reads. The log of a run has them
in the order of the steps, each with the position of its thread. What one thread has logged
is a matter of its own steps (`exec_log`), the entries of all threads add up (`tally_log`),
and `log_invariant` is the rule for everything else.
-/

namespace Interleave

variable {σ ρ τ α ω : Type*}

/-- The entries of thread `i`. -/
def entriesOf (i : Nat) (log : List (Nat × ω)) : List ω :=
  log.filterMap fun e => if e.1 = i then some e.2 else none

@[simp] theorem entriesOf_nil (i : Nat) : entriesOf i ([] : List (Nat × ω)) = [] := rfl

@[simp] theorem entriesOf_append (i : Nat) (first second : List (Nat × ω)) :
    entriesOf i (first ++ second) = entriesOf i first ++ entriesOf i second :=
  List.filterMap_append

theorem entriesOf_own (i : Nat) (out : List ω) : entriesOf i (out.map (i, ·)) = out := by
  induction out with
  | nil => rfl
  | cons w rest ih => simp [entriesOf]

theorem entriesOf_other {i j : Nat} (other : j ≠ i) (out : List ω) :
    entriesOf i (out.map (j, ·)) = [] := by
  induction out with
  | nil => rfl
  | cons w rest ih => simp [entriesOf, other]

theorem mem_entriesOf {i : Nat} {w : ω} {log : List (Nat × ω)} :
    w ∈ entriesOf i log ↔ (i, w) ∈ log := by
  induction log with
  | nil => simp
  | cons e rest ih =>
      obtain ⟨j, v⟩ := e
      by_cases own : j = i <;> simp_all [entriesOf, eq_comm]

theorem entriesOf_sublist (i : Nat) (log : List (Nat × ω)) :
    (entriesOf i log).Sublist (log.map Prod.snd) := by
  induction log with
  | nil => exact .slnil
  | cons e rest ih =>
      obtain ⟨j, w⟩ := e
      by_cases own : j = i
      · simpa [entriesOf, own] using ih
      · simpa [entriesOf, own] using ih.cons w

section Nested

variable {β : Type*} (f : ω → Option (Nat × β)) (log : List (Nat × ω))

/-! Where a thread is a program of its own, `f` reads an entry as one of a thread of that
program. -/

/-- The entries of thread `i` of program `j`. -/
def entriesAt (j i : Nat) : List β := entriesOf i ((entriesOf j log).filterMap f)

/-- The entries of all threads of all programs. -/
def readAll : List (Nat × Nat × β) := log.filterMap fun e => (f e.2).map (e.1, ·)

@[simp] theorem entriesAt_append (second : List (Nat × ω)) (j i : Nat) :
    entriesAt f (log ++ second) j i = entriesAt f log j i ++ entriesAt f second j i := by
  simp [entriesAt]

@[simp] theorem readAll_append (second : List (Nat × ω)) :
    readAll f (log ++ second) = readAll f log ++ readAll f second :=
  List.filterMap_append

theorem readAll_own (j : Nat) (out : List ω) :
    readAll f (out.map (j, ·)) = (out.filterMap f).map (j, ·) := by
  rw [readAll, List.filterMap_map, List.map_filterMap]
  rfl

variable {f log}

theorem mem_entriesAt {j i : Nat} {x : β} :
    x ∈ entriesAt f log j i ↔ (j, i, x) ∈ readAll f log := by
  simp only [entriesAt, mem_entriesOf, List.mem_filterMap, readAll, Option.map_eq_some_iff]
  constructor
  · rintro ⟨w, member, read⟩
    exact ⟨(j, w), member, (i, x), read, rfl⟩
  · rintro ⟨⟨j', w⟩, member, r, read, same⟩
    cases same
    exact ⟨w, member, read⟩

theorem entriesAt_sublist (j i : Nat) :
    (entriesAt f log j i).Sublist (((entriesOf j log).filterMap f).map Prod.snd) :=
  entriesOf_sublist ..

theorem readAll_sublist (j : Nat) :
    (((entriesOf j log).filterMap f).map Prod.snd).Sublist
      ((readAll f log).map fun r => r.2.2) := by
  have all : (readAll f log).map (fun r => r.2.2) =
      ((log.map Prod.snd).filterMap f).map Prod.snd := by
    simp [readAll, List.filterMap_map, List.map_filterMap, Function.comp_def]
  rw [all]
  exact ((entriesOf_sublist j log).filterMap _).map _

theorem entriesAt_nodup (once : ((readAll f log).map fun r => r.2.2).Nodup) (j i : Nat) :
    (entriesAt f log j i).Nodup :=
  once.sublist ((entriesAt_sublist j i).trans (readAll_sublist j))

/-- What is read once only is read by one thread of one program. -/
theorem entriesAt_unique (once : ((readAll f log).map fun r => r.2.2).Nodup) {j i j' i' : Nat}
    {x : β} (first : x ∈ entriesAt f log j i) (second : x ∈ entriesAt f log j' i') :
    j = j' ∧ i = i' := by
  have same := List.inj_on_of_nodup_map once (mem_entriesAt.mp first) (mem_entriesAt.mp second) rfl
  simpa using same

end Nested

/-- Threads of a kind that splits in two. -/
theorem countP_split {p q r : τ → Bool} {threads : List τ}
    (each : ∀ t ∈ threads, flag (p t) = flag (q t) + flag (r t)) :
    threads.countP p = threads.countP q + threads.countP r := by
  induction threads with
  | nil => rfl
  | cons t rest ih =>
      have here := each t List.mem_cons_self
      have later := ih fun u member => each u (List.mem_cons_of_mem t member)
      grind [flag]

namespace Program

variable (p : Program σ ρ τ α)

/-- What a move adds to the log. `emit` sees the memory, the thread, the answer and the
    thread as the step leaves it. -/
def entries (emit : σ → τ → α → τ → List ω) (c : Config σ τ) : Move ρ α → List (Nat × ω)
  | .call _ => []
  | .act i a =>
      match c.threads[i]? with
      | none => []
      | some t =>
          match p.step c.shared t a with
          | none => []
          | some (_, t', _) => (emit c.shared t a t').map (i, ·)

def log (emit : σ → τ → α → τ → List ω) (c : Config σ τ) (ms : List (Move ρ α)) :
    List (Nat × ω) :=
  p.trail (p.entries emit) c ms

variable {p} {emit : σ → τ → α → τ → List ω} {G : σ → Prop} {Q : σ → List ω → τ → Prop}

theorem entries_step {c : Config σ τ} {i : Nat} {t t' : τ} {a : α} {s' : σ} {started : List τ}
    (found : c.threads[i]? = some t) (stepped : p.step c.shared t a = some (s', t', started)) :
    p.entries emit c (.act i a) = (emit c.shared t a t').map (i, ·) := by
  simp only [entries, found, stepped]

theorem log_append {c mid : Config σ τ} {first : List (Move ρ α)}
    (run : p.exec c first = some mid) (second : List (Move ρ α)) :
    p.log emit c (first ++ second) = p.log emit c first ++ p.log emit mid second := by
  induction first generalizing c with
  | nil =>
      obtain rfl : c = mid := by simpa [exec] using run
      rfl
  | cons m rest ih =>
      obtain ⟨c', moved, run⟩ := exec_cons run
      have later := ih run
      simp only [log] at later
      simp only [log, List.cons_append, trail, moved, later, List.append_assoc]

/-- Invariants that speak about the log. -/
theorem log_invariant {I : List (Nat × ω) → Config σ τ → Prop}
    {ok : Config σ τ → Move ρ α → Prop}
    (call : ∀ past c r, I past c → I past ⟨c.shared, c.threads ++ [p.start r]⟩)
    (act : ∀ past c i t a s' t' started, I past c → ok c (.act i a) → c.threads[i]? = some t →
      p.step c.shared t a = some (s', t', started) →
      I (past ++ (emit c.shared t a t').map (i, ·)) ⟨s', c.threads.set i t' ++ started⟩)
    {past : List (Nat × ω)} {c c' : Config σ τ} {ms : List (Move ρ α)} (start : I past c)
    (allowed : p.Meets ok c ms) (run : p.exec c ms = some c') :
    I (past ++ p.log emit c ms) c' := by
  induction ms generalizing past c with
  | nil =>
      obtain rfl : c = c' := by simpa [exec] using run
      simpa [log, trail] using start
  | cons m rest ih =>
      obtain ⟨mid, moved, run⟩ := exec_cons run
      obtain ⟨here, later⟩ := allowed mid moved
      have kept : I (past ++ p.entries emit c m) mid := by
        obtain ⟨r, rfl, rfl⟩ | ⟨i, a, t, s, t', started, rfl, found, stepped, rfl⟩ :=
          next_cases moved
        · rw [entries, List.append_nil]
          exact call past c r start
        · rw [entries_step found stepped]
          exact act past c i t a s t' started start here found stepped
      simpa only [log, trail, moved, List.append_assoc] using ih kept later run

/-- Every thread has logged what `Q` says, and positions that are not taken have nothing. -/
structure Logged (G : σ → Prop) (Q : σ → List ω → τ → Prop) (past : List (Nat × ω))
    (c : Config σ τ) : Prop where
  memory : G c.shared
  vacant : ∀ i, c.threads.length ≤ i → entriesOf i past = []
  each : ∀ i t, c.threads[i]? = some t → Q c.shared (entriesOf i past) t

/-- What a step has to do for `Q`: it may use `G`, keeps the story of all others, adds to its
    own, and begins that of the threads it starts. -/
def Tells (p : Program σ ρ τ α) (emit : σ → τ → α → τ → List ω) (G : σ → Prop)
    (Q : σ → List ω → τ → Prop) : Prop :=
  ∀ s t a s' t' started, G s → p.step s t a = some (s', t', started) →
    G s' ∧ (∀ past u, Q s past u → Q s' past u) ∧
      (∀ past, Q s past t → Q s' (past ++ emit s t a t') t') ∧ ∀ u ∈ started, Q s' [] u

namespace Logged

variable {past : List (Nat × ω)} {c : Config σ τ}

theorem start {s : σ} (memory : G s) : Logged G Q [] ⟨s, []⟩ where
  memory := memory
  vacant := fun _ _ => rfl
  each := by simp

theorem call (begin : ∀ s r, G s → Q s [] (p.start r)) (r : ρ) (before : Logged G Q past c) :
    Logged G Q past ⟨c.shared, c.threads ++ [p.start r]⟩ := by
  refine ⟨before.memory, fun i late => before.vacant i ?_, fun i t at_i => ?_⟩
  · simp only [List.length_append, List.length_singleton] at late
    omega
  · rw [List.getElem?_append] at at_i
    split at at_i
    · exact before.each i t at_i
    · rename_i beyond
      rw [before.vacant i (not_lt.mp beyond)]
      rw [List.mem_singleton.mp (List.mem_of_getElem? at_i)]
      exact begin _ r before.memory

theorem act (tells : Tells p emit G Q) {i : Nat} {t t' : τ} {a : α} {s' : σ} {started : List τ}
    (before : Logged G Q past c) (found : c.threads[i]? = some t)
    (stepped : p.step c.shared t a = some (s', t', started)) :
    Logged G Q (past ++ (emit c.shared t a t').map (i, ·))
      ⟨s', c.threads.set i t' ++ started⟩ := by
  have inside := (List.getElem?_eq_some_iff.mp found).1
  obtain ⟨memory, others, own, fresh⟩ := tells _ _ _ _ _ _ before.memory stepped
  refine ⟨memory, fun j late => ?_, fun j u at_j => ?_⟩
  · simp only [List.length_append, List.length_set] at late
    rw [entriesOf_append, entriesOf_other (by omega), before.vacant j (by omega)]
    rfl
  · rw [entriesOf_append]
    rw [List.getElem?_append] at at_j
    split at at_j
    · by_cases same : i = j
      · subst same
        rw [List.getElem?_set_self inside] at at_j
        cases at_j
        rw [entriesOf_own]
        exact own _ (before.each i t found)
      · rw [List.getElem?_set_ne same] at at_j
        rw [entriesOf_other same, List.append_nil]
        exact others _ u (before.each j u at_j)
    · rename_i beyond
      rw [List.length_set, not_lt] at beyond
      rw [entriesOf_other (by omega), before.vacant j beyond]
      exact fresh u (List.mem_of_getElem? at_j)

theorem run (begin : ∀ s r, G s → Q s [] (p.start r)) (tells : Tells p emit G Q) {s : σ}
    {ms : List (Move ρ α)} (memory : G s) (run : p.exec ⟨s, []⟩ ms = some c) :
    Logged G Q (p.log emit ⟨s, []⟩ ms) c :=
  log_invariant (I := Logged G Q) (fun _ _ r before => before.call begin r)
    (fun _ _ _ _ _ _ _ _ before _ found stepped => before.act tells found stepped)
    (.start memory) (meets_true ms) run

end Logged

/-- The story of a thread is kept by its own steps. -/
theorem exec_log (begin : ∀ s r, G s → Q s [] (p.start r)) (tells : Tells p emit G Q)
    {s : σ} {c : Config σ τ} {ms : List (Move ρ α)} (memory : G s)
    (run : p.exec ⟨s, []⟩ ms = some c) {i : Nat} {t : τ} (found : c.threads[i]? = some t) :
    Q c.shared (entriesOf i (p.log emit ⟨s, []⟩ ms)) t :=
  (Logged.run begin tells memory run).each i t found

/-- If the entries of every thread weigh `w`, the log weighs as much as all threads do. -/
theorem tally_log {v : ω → ℤ} {w : τ → ℤ} (begin : ∀ s r, G s → Q s [] (p.start r))
    (tells : Tells p emit G Q) (counted : ∀ s past t, Q s past t → tally v past = w t)
    {s : σ} {c : Config σ τ} {ms : List (Move ρ α)} (memory : G s)
    (run : p.exec ⟨s, []⟩ ms = some c) :
    tally (fun e => v e.2) (p.log emit ⟨s, []⟩ ms) = tally w c.threads := by
  have both : Logged G Q (p.log emit ⟨s, []⟩ ms) c ∧
      tally (fun e => v e.2) (p.log emit ⟨s, []⟩ ms) = tally w c.threads := by
    apply log_invariant (I := fun past c => Logged G Q past c ∧
      tally (fun e => v e.2) past = tally w c.threads) _ _ ⟨.start memory, rfl⟩
      (meets_true ms) run
    · intro past c r ⟨before, sum⟩
      have nothing := counted _ _ _ (begin c.shared r before.memory)
      refine ⟨before.call begin r, ?_⟩
      rw [sum, tally_append, tally_cons, tally_nil, ← nothing]
      simp
    · intro past c i t a s' t' started ⟨before, sum⟩ _ found stepped
      obtain ⟨-, -, own, fresh⟩ := tells _ _ _ _ _ _ before.memory stepped
      have old := counted _ _ _ (before.each i t found)
      have new := counted _ _ _ (own _ (before.each i t found))
      have nothing : tally w started = 0 := by
        apply tally_eq_zero
        intro u member
        exact (counted _ _ _ (fresh u member)).symm
      have same : tally (fun e : Nat × ω => v e.2) ((emit c.shared t a t').map (i, ·)) =
          tally v (emit c.shared t a t') :=
        tally_map (fun e : Nat × ω => v e.2) (i, ·) _
      refine ⟨before.act tells found stepped, ?_⟩
      rw [tally_append] at new
      rw [tally_append, sum, same, tally_append, tally_set w found, nothing]
      omega
  exact both.2

end Program

end Interleave
