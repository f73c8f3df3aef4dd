import CommonsMQ.Lib.Interleave

/-! # A bounded pool of lazily made resources

Threads share at most `capacity` resources. A thread without a share takes an
idle resource or reserves a slot in which it then makes a new one; a thread with
a resource gives it back, discards it together with its slot, or leaves the pool
with the slot still counted (a write-off). The steps know nothing about why a
thread does any of this: a program refines the pool by mapping each thread to its
share and each of its steps to one step here.

`Sound` is the invariant: the books balance, and every resource ever made is in
exactly one place.
-/

namespace BoundedPool

open Interleave

/-- What one thread has of the pool. -/
inductive Share (κ : Type*) where
  | nothing
  /-- A slot is counted for this thread, but no resource is made in it yet. -/
  | slot
  | holds (resource : κ)

structure Pool (κ : Type*) where
  capacity : ℕ
  /-- Slots in use. -/
  created : ℤ
  idle : List κ
  /-- Resources out of service. -/
  gone : List κ
  /-- Every resource ever made. -/
  known : List κ
  /-- Slots that stay counted although their resource is gone. -/
  writtenOff : ℤ

section Steps

variable {κ : Type*}

/-- One thread's move: pool and share before, pool and share after. -/
inductive Step (p : Pool κ) : Share κ → Pool κ → Share κ → Prop where
  | stay (share) : Step p share p share
  | take {k rest} : p.idle = k :: rest →
      Step p .nothing { p with idle := rest } (.holds k)
  | reserve : p.created < p.capacity →
      Step p .nothing { p with created := p.created + 1 } .slot
  | forfeit : Step p .slot { p with created := p.created - 1 } .nothing
  | fill {k} : k ∉ p.known → Step p .slot { p with known := p.known ++ [k] } (.holds k)
  | giveBack {k} : Step p (.holds k) { p with idle := p.idle ++ [k] } .nothing
  | discard {k} :
      Step p (.holds k) { p with created := p.created - 1, gone := k :: p.gone } .nothing
  | writeOff {k} :
      Step p (.holds k)
        { p with gone := k :: p.gone, writtenOff := p.writtenOff + 1 } .nothing

end Steps

namespace Share

variable {κ : Type*}

/-- Slots accounted for by a share. -/
def weight : Share κ → ℤ
  | .nothing => 0
  | .slot | .holds _ => 1

theorem weight_nonneg (u : Share κ) : 0 ≤ u.weight := by
  cases u <;> simp [weight]

variable [DecidableEq κ]

/-- Whether resource `k` is in this share, as a number to be added up. -/
def has (k : κ) : Share κ → ℤ
  | .nothing | .slot => 0
  | .holds k' => if k' = k then 1 else 0

theorem has_nonneg (k : κ) (u : Share κ) : 0 ≤ u.has k := by
  cases u with
  | nothing | slot => simp [has]
  | holds k' =>
      simp only [has]
      split <;> simp

@[simp] theorem has_self (k : κ) : (holds k).has k = 1 := by simp [has]

@[simp] theorem has_nothing (k : κ) : (nothing : Share κ).has k = 0 := rfl

@[simp] theorem has_slot (k : κ) : (slot : Share κ).has k = 0 := rfl

theorem count_cons_eq (k k' : κ) (l : List κ) :
    ((k' :: l).count k : ℤ) = l.count k + (holds k').has k := by
  simp only [List.count_cons, has, beq_iff_eq]
  split
  · rfl
  · rfl

theorem count_concat_eq (k k' : κ) (l : List κ) :
    ((l ++ [k']).count k : ℤ) = l.count k + (holds k').has k := by
  have single := count_cons_eq k k' []
  rw [List.count_nil] at single
  rw [List.count_append]
  omega

end Share

namespace Step

variable {κ : Type*} {p p' : Pool κ} {u u' : Share κ}

/-- What a step adds to the counted slots, it adds to those in use. -/
theorem balance (moved : Step p u p' u') :
    p'.created - p'.idle.length - u'.weight - p'.writtenOff =
      p.created - p.idle.length - u.weight - p.writtenOff := by
  cases moved with
  | stay | fill => rfl
  | take idle =>
      simp only [idle, List.length_cons, Share.weight]
      push_cast
      omega
  | giveBack =>
      simp only [List.length_append, List.length_singleton, Share.weight]
      push_cast
      omega
  | reserve | forfeit | discard | writeOff =>
      simp only [Share.weight]
      omega

theorem bounded (moved : Step p u p' u') (before : p.created ≤ p.capacity) :
    p'.created ≤ p'.capacity := by
  cases moved with
  | reserve room => exact room
  | forfeit | discard => exact Int.le_trans (Int.sub_le_self _ Int.one_nonneg) before
  | stay | take | fill | giveBack | writeOff => exact before

theorem writtenOff_le (moved : Step p u p' u') : p.writtenOff ≤ p'.writtenOff := by
  cases moved with
  | writeOff => exact Int.le_add_one (Int.le_refl _)
  | stay | take | reserve | forfeit | fill | giveBack | discard => exact Int.le_refl _

theorem distinct (moved : Step p u p' u') (before : p.known.Nodup) : p'.known.Nodup := by
  cases moved with
  | @fill k fresh =>
      refine List.nodup_append.mpr ⟨before, List.nodup_singleton k, ?_⟩
      intro a old b new same
      obtain rfl := List.mem_singleton.mp new
      exact fresh (same ▸ old)
  | stay | take | reserve | forfeit | giveBack | discard | writeOff => exact before

/-- A resource is moved from one place to another, or made and put into one. -/
theorem placed [DecidableEq κ] (moved : Step p u p' u') (k : κ) :
    (p'.known.count k : ℤ) - p'.idle.count k - p'.gone.count k - u'.has k =
      p.known.count k - p.idle.count k - p.gone.count k - u.has k := by
  cases moved with
  | stay | reserve | forfeit => rfl
  | take idle =>
      simp only [idle, Share.count_cons_eq, Share.has_nothing]
      omega
  | fill | giveBack =>
      simp only [Share.count_concat_eq, Share.has_nothing, Share.has_slot]
      omega
  | discard | writeOff =>
      simp only [Share.count_cons_eq, Share.has_nothing]
      omega

end Step

variable {κ : Type*} [DecidableEq κ]

structure Sound (p : Pool κ) (shares : List (Share κ)) : Prop where
  balance : p.created = p.idle.length + tally Share.weight shares + p.writtenOff
  bounded : p.created ≤ p.capacity
  writtenOff_nonneg : 0 ≤ p.writtenOff
  distinct : p.known.Nodup
  /-- Every resource made is idle, gone or in one share, and in one only. -/
  placed : ∀ k, (p.known.count k : ℤ) =
    p.idle.count k + p.gone.count k + tally (Share.has k) shares

namespace Sound

variable {p p' : Pool κ} {shares : List (Share κ)} {u u' : Share κ} {i j : Nat} {k : κ}

theorem empty (capacity : ℕ) :
    Sound (κ := κ) ⟨capacity, 0, [], [], [], 0⟩ [] := by
  constructor <;> simp

theorem enter (sound : Sound p shares) : Sound p (shares ++ [.nothing]) where
  balance := by simpa [Share.weight] using sound.balance
  bounded := sound.bounded
  writtenOff_nonneg := sound.writtenOff_nonneg
  distinct := sound.distinct
  placed := by simpa [Share.has] using sound.placed

/-- Every step keeps the books and the places. -/
theorem step (sound : Sound p shares) (found : shares[i]? = some u)
    (moved : Step p u p' u') : Sound p' (shares.set i u') where
  balance := by
    have before := sound.balance
    have shift := tally_set Share.weight found u'
    have local_balance := moved.balance
    omega
  bounded := moved.bounded sound.bounded
  writtenOff_nonneg := Int.le_trans sound.writtenOff_nonneg moved.writtenOff_le
  distinct := moved.distinct sound.distinct
  placed k := by
    have before := sound.placed k
    have shift := tally_set (Share.has k) found u'
    have local_places := moved.placed k
    omega

theorem created_nonneg (sound : Sound p shares) : 0 ≤ p.created := by
  have shared := tally_nonneg Share.weight_nonneg shares
  have books := sound.balance
  have off := sound.writtenOff_nonneg
  omega

theorem count_le_one (sound : Sound p shares) (k : κ) :
    p.idle.count k + p.gone.count k + tally (Share.has k) shares ≤ 1 := by
  rw [← sound.placed k]
  exact_mod_cast List.nodup_iff_count_le_one.mp sound.distinct k

/-- Two threads never hold the same resource. -/
theorem exclusive (sound : Sound p shares) (different : i ≠ j)
    (first : shares[i]? = some (.holds k)) : shares[j]? ≠ some (.holds k) := by
  intro second
  have twice := pair_le_tally (Share.has_nonneg k) different first second
  have once := sound.count_le_one k
  simp only [Share.has_self] at twice
  omega

/-- A held resource is neither idle nor out of service. -/
theorem held (sound : Sound p shares) (holder : shares[i]? = some (.holds k)) :
    k ∉ p.idle ∧ k ∉ p.gone := by
  have counted := le_tally (Share.has_nonneg k) (List.mem_of_getElem? holder)
  have once := sound.count_le_one k
  simp only [Share.has_self] at counted
  rw [← List.count_eq_zero, ← List.count_eq_zero]
  omega

theorem idle_nodup (sound : Sound p shares) : p.idle.Nodup := by
  rw [List.nodup_iff_count_le_one]
  intro k
  have once := sound.count_le_one k
  have shared := tally_nonneg (Share.has_nonneg k) shares
  omega

/-- Whoever holds a resource finds room to give it back. -/
theorem room (sound : Sound p shares) (holder : shares[i]? = some (.holds k)) :
    p.idle.length < p.capacity := by
  have counted := le_tally Share.weight_nonneg (List.mem_of_getElem? holder)
  have books := sound.balance
  have bound := sound.bounded
  have off := sound.writtenOff_nonneg
  simp only [Share.weight] at counted
  omega

theorem known_of_held (sound : Sound p shares) (holder : shares[i]? = some (.holds k)) :
    k ∈ p.known := by
  have counted := le_tally (Share.has_nonneg k) (List.mem_of_getElem? holder)
  have place := sound.placed k
  simp only [Share.has_self] at counted
  exact List.count_pos_iff.mp (by omega)

/-- A resource that is in no share and not idle is out of service. -/
theorem gone_of_known (sound : Sound p shares) (made : k ∈ p.known) (notIdle : k ∉ p.idle)
    (notHeld : ∀ u ∈ shares, u ≠ .holds k) : k ∈ p.gone := by
  have shared : tally (Share.has k) shares = 0 := by
    apply tally_eq_zero
    intro u member
    cases u with
    | nothing | slot => rfl
    | holds k' =>
        have other : k' ≠ k := fun same => notHeld _ member (by rw [same])
        simp [Share.has, other]
  have place := sound.placed k
  have once := List.count_pos_iff.mpr made
  rw [shared, List.count_eq_zero.mpr notIdle] at place
  exact List.count_pos_iff.mp (by omega)

end Sound

end BoundedPool
