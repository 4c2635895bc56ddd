import Mathlib.Algebra.BigOperators.Group.List.Basic
import Mathlib.Data.List.Forall2
import Mathlib.Logic.Function.Basic

/-!
# Arrays that share memory

An array refers to cells of a common memory, and two arrays may share some of them. A cell keeps of
a value what its type can represent. A list of stores leaves each stored value in its cell exactly
if the stores into one cell agree and every cell represents its value; a copy has cells of its own.
-/

namespace SmolVlaQgf.ArrayMemory

variable {V : Type}

/-- The cells, with what each of them keeps of a value, and the first one that is not in use. -/
structure Memory (V : Type) where
  value : ℕ → V
  convert : ℕ → V → V
  next : ℕ

structure ArrayRef where
  shape : List ℕ
  cells : List ℕ
  writeable : Bool
  size : cells.length = shape.prod

/-- What can be read of an array. -/
structure Contents (V : Type) where
  shape : List ℕ
  values : List V

namespace Memory

variable (m : Memory V)

def contents (ref : ArrayRef) : Contents V := ⟨ref.shape, ref.cells.map m.value⟩

/-! ## Stores -/

def store (cell : ℕ) (v : V) : Memory V :=
  { m with value := Function.update m.value cell (m.convert cell v) }

def storeAll (m : Memory V) : List (ℕ × V) → Memory V
  | [] => m
  | write :: writes => (m.store write.1 write.2).storeAll writes

/-- The stores of an assignment to all entries of an array. -/
def writesTo (ref : ArrayRef) (values : List V) : List (ℕ × V) := ref.cells.zip values

variable {m} {writes : List (ℕ × V)} {cell : ℕ}

@[simp] theorem storeAll_convert : (m.storeAll writes).convert = m.convert := by
  induction writes generalizing m with
  | nil => rfl
  | cons write writes ih => rw [storeAll, ih, store]

@[simp] theorem storeAll_next : (m.storeAll writes).next = m.next := by
  induction writes generalizing m with
  | nil => rfl
  | cons write writes ih => rw [storeAll, ih, store]

theorem storeAll_append (writes more : List (ℕ × V)) :
    m.storeAll (writes ++ more) = (m.storeAll writes).storeAll more := by
  induction writes generalizing m with
  | nil => rfl
  | cons write writes ih => exact ih

theorem storeAll_value_of_not_mem (h : cell ∉ writes.map Prod.fst) :
    (m.storeAll writes).value cell = m.value cell := by
  induction writes generalizing m with
  | nil => rfl
  | cons write writes ih =>
    rw [List.map_cons, List.mem_cons, not_or] at h
    exact (ih h.2).trans (Function.update_of_ne h.1 _ _)

/-- What a cell holds in the end depends on what it held and what it can represent. -/
theorem storeAll_value_congr {m' : Memory V} (hvalue : m.value cell = m'.value cell)
    (hconvert : m.convert cell = m'.convert cell) :
    (m.storeAll writes).value cell = (m'.storeAll writes).value cell := by
  induction writes generalizing m m' with
  | nil => exact hvalue
  | cons write writes ih =>
    refine ih ?_ hconvert
    by_cases hcell : cell = write.1
    · subst hcell
      simp [store, hconvert]
    · simp [store, Function.update_of_ne hcell, hvalue]

def Agree (writes : List (ℕ × V)) : Prop :=
  ∀ write ∈ writes, ∀ other ∈ writes, write.1 = other.1 → write.2 = other.2

/-- Every cell represents the value that is stored into it. -/
def Represents (m : Memory V) (writes : List (ℕ × V)) : Prop :=
  ∀ write ∈ writes, m.convert write.1 write.2 = write.2

theorem exists_last_store (h : cell ∈ writes.map Prod.fst) :
    ∃ v, (cell, v) ∈ writes ∧ (m.storeAll writes).value cell = m.convert cell v := by
  induction writes generalizing m with
  | nil => simp at h
  | cons write writes ih =>
    by_cases hlater : cell ∈ writes.map Prod.fst
    · obtain ⟨v, hv, hvalue⟩ := ih (m := m.store write.1 write.2) hlater
      exact ⟨v, List.mem_cons_of_mem _ hv, hvalue⟩
    · obtain rfl : cell = write.1 := by
        rw [List.map_cons, List.mem_cons] at h
        exact h.resolve_right hlater
      refine ⟨write.2, List.mem_cons_self, ?_⟩
      exact (storeAll_value_of_not_mem hlater).trans (Function.update_self _ _ _)

/-- All stored values can be read back exactly if the stores agree and can be represented. -/
theorem storeAll_reads_iff :
    (∀ write ∈ writes, (m.storeAll writes).value write.1 = write.2) ↔
      Agree writes ∧ m.Represents writes := by
  constructor
  · intro h
    refine ⟨fun write hwrite other hother hcell => ?_, fun write hwrite => ?_⟩
    · rw [← h write hwrite, ← h other hother, hcell]
    · obtain ⟨v, hv, hlast⟩ := exists_last_store (m := m) (List.mem_map_of_mem hwrite)
      have hread : (m.storeAll writes).value write.1 = v := h _ hv
      have hsame : v = write.2 := hread.symm.trans (h write hwrite)
      rw [← hsame]
      exact hlast.symm.trans hread
  · rintro ⟨hagree, hrepresents⟩ write hwrite
    obtain ⟨v, hv, hlast⟩ := exists_last_store (m := m) (List.mem_map_of_mem hwrite)
    have hsame : v = write.2 := hagree (write.1, v) hv write hwrite rfl
    rw [hlast, hsame, hrepresents write hwrite]

/-! ## Copies -/

/-- `array.copy()` -/
def copy (m : Memory V) (ref : ArrayRef) : ArrayRef × Memory V :=
  let source : ℕ → ℕ := fun cell =>
    if m.next ≤ cell then ref.cells.getD (cell - m.next) cell else cell
  (⟨ref.shape, List.range' m.next ref.cells.length, true, by rw [List.length_range', ref.size]⟩,
    ⟨fun cell => m.value (source cell), fun cell => m.convert (source cell),
      m.next + ref.cells.length⟩)

variable {ref : ArrayRef}

theorem copy_value_of_lt (h : cell < m.next) : (m.copy ref).2.value cell = m.value cell := by
  simp [copy, Nat.not_le.mpr h]

theorem copy_convert_of_lt (h : cell < m.next) :
    (m.copy ref).2.convert cell = m.convert cell := by
  simp [copy, Nat.not_le.mpr h]

@[simp] theorem copy_next : (m.copy ref).2.next = m.next + ref.cells.length := rfl

@[simp] theorem copy_shape : (m.copy ref).1.shape = ref.shape := rfl

theorem mem_cells_copy :
    cell ∈ (m.copy ref).1.cells ↔ m.next ≤ cell ∧ cell < (m.copy ref).2.next := by
  simp [copy, List.mem_range'_1]

theorem contents_copy : (m.copy ref).2.contents (m.copy ref).1 = m.contents ref := by
  have hvalues : (List.range' m.next ref.cells.length).map (m.copy ref).2.value =
      ref.cells.map m.value := by
    apply List.ext_getElem
    · simp
    · intro i hi hi'
      have hlt : i < ref.cells.length := by simpa using hi'
      simp [copy, hlt]
  exact congrArg (Contents.mk ref.shape) hvalues

theorem contents_congr {m' : Memory V} (h : ∀ cell ∈ ref.cells, m'.value cell = m.value cell) :
    m'.contents ref = m.contents ref := by
  rw [contents, contents, List.map_congr_left h]

/-- An array has given contents of its own size if each cell has its value. -/
theorem contents_eq_iff {contents : Contents V} (hshape : ref.shape = contents.shape)
    (hsize : contents.values.length = contents.shape.prod) :
    m.contents ref = contents ↔
      ∀ write ∈ writesTo ref contents.values, m.value write.1 = write.2 := by
  have hlength : ref.cells.length = contents.values.length := by rw [ref.size, hshape, hsize]
  have hvalues : ref.cells.map m.value = contents.values ↔
      ∀ write ∈ writesTo ref contents.values, m.value write.1 = write.2 := by
    rw [← List.forall₂_eq_eq_eq, List.forall₂_map_left_iff, List.forall₂_iff_zip, writesTo]
    exact ⟨fun h write hwrite => h.2 hwrite, fun h => ⟨hlength, fun {cell v} hwrite => h _ hwrite⟩⟩
  rw [← hvalues]
  constructor
  · rintro rfl
    rfl
  · intro h
    rw [Memory.contents, h, hshape]

end Memory

end SmolVlaQgf.ArrayMemory
