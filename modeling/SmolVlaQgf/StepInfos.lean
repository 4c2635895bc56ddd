import Mathlib.Data.Nat.Notation

/-!
# What an environment tells about success

The entries of `info` that `collect_rollouts.py` and `counterfactual_probe.py` read, and the first
entry of a list.
-/

namespace SmolVlaQgf.StepInfos

/-- A value under `is_success`. -/
inductive SuccessValue where
  | array (values : List Bool)
  | arrayScalar (value : Bool)
  | sequence (values : List Bool)
  | scalar (value : Bool)

/-- `info["final_info"]` -/
inductive FinalInfo where
  | dict (isSuccess : Option SuccessValue)
  | other

/-- The entries of `info` that decide the success. -/
structure StepInfo where
  finalInfo : Option FinalInfo
  isSuccess : Option SuccessValue

/-- `values[0]` -/
def firstEntry {α ε : Type} (indexError : ε) : List α → Except ε α
  | [] => .error indexError
  | value :: _ => .ok value

theorem mem_of_firstEntry {α ε : Type} {indexError : ε} {values : List α} {value : α}
    (h : firstEntry indexError values = .ok value) : value ∈ values := by
  cases values with
  | nil => cases h
  | cons first rest =>
    obtain rfl := Except.ok.inj h
    exact List.mem_cons_self

end SmolVlaQgf.StepInfos
