import Mathlib.Data.List.Basic

/-! # Buffers and slices

A heap of cells that are only ever added. A slice is a reference to the first
elements of a cell, so two slices of one cell see each other's writes, and a
slice of a cell that nobody writes to keeps its contents.
-/

namespace Memory

variable {α : Type*}

/-- The contents of one buffer; its size is kept by the slices into it. -/
abbrev Cell (α : Type*) := Nat → α

structure Heap (α : Type*) where
  cells : List (Cell α) := []

structure Slice where
  cell : Nat
  length : Nat
  deriving Repr, DecidableEq

def Cell.ofList [Inhabited α] (data : List α) : Cell α := fun i => data.getD i default

/-- Copy `data` over the beginning of a cell. -/
def Cell.overwrite (data : List α) (old : Cell α) : Cell α := fun i => data.getD i (old i)

namespace Heap

/-- A new cell; its address is the second component. -/
def alloc (h : Heap α) (content : Cell α) : Heap α × Nat :=
  (⟨h.cells ++ [content]⟩, h.cells.length)

def write (h : Heap α) (cell : Nat) (data : List α) : Heap α :=
  ⟨h.cells.modify cell (Cell.overwrite data)⟩

def read (h : Heap α) (s : Slice) : List α :=
  match h.cells[s.cell]? with
  | none => []
  | some content => (List.range s.length).map content

@[simp] theorem length_write (h : Heap α) (cell : Nat) (data : List α) :
    (h.write cell data).cells.length = h.cells.length := by
  simp [write]

theorem range_map_getD (data : List α) (rest : Cell α) :
    (List.range data.length).map (fun i => data.getD i (rest i)) = data := by
  apply List.ext_getElem
  · simp
  · intro i inside _
    simp at inside
    simp [inside]

theorem read_write_self {h : Heap α} {cell : Nat} (inside : cell < h.cells.length)
    (data : List α) : (h.write cell data).read ⟨cell, data.length⟩ = data := by
  simp only [read, write, List.getElem?_modify, List.getElem?_eq_getElem inside, if_true]
  exact range_map_getD data _

theorem read_write_other {h : Heap α} {cell : Nat} {s : Slice} (other : s.cell ≠ cell)
    (data : List α) : (h.write cell data).read s = h.read s := by
  simp [read, write, Ne.symm other]

theorem read_alloc_old {h : Heap α} {s : Slice} (old : s.cell < h.cells.length)
    (content : Cell α) : (h.alloc content).1.read s = h.read s := by
  simp [read, alloc, List.getElem?_append_left old]

theorem read_alloc_new [Inhabited α] (h : Heap α) (data : List α) :
    (h.alloc (Cell.ofList data)).1.read ⟨h.cells.length, data.length⟩ = data := by
  simp only [read, alloc, List.getElem?_concat_length]
  exact range_map_getD data _

theorem length_read {h : Heap α} {s : Slice} (inside : s.cell < h.cells.length) :
    (h.read s).length = s.length := by
  simp [read, List.getElem?_eq_getElem inside]

/-- `h'` has the cells of `h`, and differs at most in the one that is written to. -/
structure Grows (writes : Option Nat) (h h' : Heap α) : Prop where
  length_le : h.cells.length ≤ h'.cells.length
  read_eq : ∀ s : Slice, s.cell < h.cells.length → writes ≠ some s.cell → h'.read s = h.read s

theorem Grows.refl (writes : Option Nat) (h : Heap α) : Grows writes h h :=
  ⟨Nat.le_refl _, fun _ _ _ => rfl⟩

theorem grows_alloc (writes : Option Nat) (h : Heap α) (content : Cell α) :
    Grows writes h (h.alloc content).1 where
  length_le := by simp [alloc]
  read_eq := fun _ inside _ => read_alloc_old inside content

theorem grows_write (h : Heap α) (cell : Nat) (data : List α) :
    Grows (some cell) h (h.write cell data) where
  length_le := Nat.le_of_eq (length_write h cell data).symm
  read_eq := fun _ _ other => read_write_other (fun same => other (congrArg some same.symm)) data

end Heap

end Memory
