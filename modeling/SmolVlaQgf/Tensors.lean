import Mathlib.Data.Nat.Notation

/-!
# Tensors

The tensors the critic code reads have rank one or two; of any other tensor the code reads
the shape only. A tensor of rank two is rectangular.
-/

namespace SmolVlaQgf.Tensors

structure Grid (S : Type) where
  width : ℕ
  rows : List (List S)
  rectangular : ∀ row ∈ rows, row.length = width

inductive Tensor (S : Type) where
  | vector (values : List S)
  | matrix (grid : Grid S)
  | other (shape : List ℕ) (values : List S)

/-- A `ValueError` with its text, or an error raised by torch itself. -/
inductive TensorError where
  | valueError (message : String)
  | runtimeError
  deriving DecidableEq

variable {S : Type}

/-- `tuple(tensor.shape)` as text, for ranks other than one. -/
def shapeText (shape : List ℕ) : String :=
  "(" ++ ", ".intercalate (shape.map fun n => toString n) ++ ")"

namespace Grid

def shape (grid : Grid S) : List ℕ := [grid.rows.length, grid.width]

/-- `unsqueeze(-1)` of a vector. -/
def column (values : List S) : Grid S where
  width := 1
  rows := values.map fun value => [value]
  rectangular := fun row hrow => by
    obtain ⟨value, -, rfl⟩ := List.mem_map.mp hrow
    rfl

/-- `unsqueeze(0)` of a vector. -/
def single (values : List S) : Grid S where
  width := values.length
  rows := [values]
  rectangular := fun row hrow => by
    obtain rfl := List.mem_singleton.mp hrow
    rfl

def map {T : Type} (f : S → T) (grid : Grid S) : Grid T where
  width := grid.width
  rows := grid.rows.map (List.map f)
  rectangular := fun row hrow => by
    obtain ⟨source, hsource, rfl⟩ := List.mem_map.mp hrow
    exact (List.length_map f).trans (grid.rectangular source hsource)

/-- `squeeze(0)` -/
def squeeze (grid : Grid S) : Tensor S :=
  match grid.rows with
  | [row] => .vector row
  | _ => .matrix grid

@[simp] theorem rows_map {T : Type} (f : S → T) (grid : Grid S) :
    (grid.map f).rows = grid.rows.map (List.map f) := rfl

theorem squeeze_of_rows {grid : Grid S} {row : List S} (h : grid.rows = [row]) :
    grid.squeeze = .vector row := by
  rw [squeeze]
  split
  · obtain ⟨rfl, -⟩ := List.cons.inj (‹grid.rows = _›.symm.trans h)
    rfl
  · exact absurd h (‹∀ row, grid.rows = [row] → False› row)

@[simp] theorem length_rows_column (values : List S) :
    (column values).rows.length = values.length := List.length_map _

end Grid

namespace Tensor

def shape : Tensor S → List ℕ
  | .vector values => [values.length]
  | .matrix grid => grid.shape
  | .other shape _ => shape

def flatten : Tensor S → List S
  | .vector values => values
  | .matrix grid => grid.rows.flatten
  | .other _ values => values

/-- `_as_2d_tensor` -/
def as2d (name : String) : Tensor S → Except TensorError (Grid S)
  | .vector values => .ok (.column values)
  | .matrix grid => .ok grid
  | .other shape _ =>
      .error (.valueError (name ++ " must be a 2D tensor, got shape " ++ shapeText shape ++ "."))

end Tensor

/-- `torch.stack` of tensors of these shapes raises unless they all agree. -/
def stack (shapes : List (List ℕ)) : Except TensorError Unit :=
  match shapes with
  | [] => .error .runtimeError
  | first :: rest => if rest.all fun shape => decide (shape = first) then .ok ()
      else .error .runtimeError

theorem stack_of_same {shapes : List (List ℕ)} {shape : List ℕ} (hne : shapes ≠ [])
    (h : ∀ other ∈ shapes, other = shape) : stack shapes = .ok () := by
  cases shapes with
  | nil => exact absurd rfl hne
  | cons first rest =>
    have hfirst := h first List.mem_cons_self
    rw [stack, if_pos]
    refine List.all_eq_true.mpr fun other hother => decide_eq_true ?_
    rw [hfirst]
    exact h other (List.mem_cons_of_mem _ hother)

/-- `torch.cat` along the first dimension; all rows must have one width. -/
def cat (grids : List (Grid S)) : Except TensorError (Grid S) :=
  match grids with
  | [] => .error .runtimeError
  | first :: rest =>
      if h : ∀ grid ∈ rest, grid.width = first.width then
        .ok {
          width := first.width
          rows := first.rows ++ rest.flatMap (·.rows)
          rectangular := fun row hrow => by
            rcases List.mem_append.mp hrow with hrow | hrow
            · exact first.rectangular row hrow
            · obtain ⟨grid, hgrid, hrow⟩ := List.mem_flatMap.mp hrow
              exact (grid.rectangular row hrow).trans (h grid hgrid) }
      else .error .runtimeError

end SmolVlaQgf.Tensors
