import SmolVlaQgf.ArrayMemory
import SmolVlaQgf.OrderedTables
import SmolVlaQgf.TransitionRuns

/-!
# Snapshots of the simulator

`make_snapshot` copies the arrays, scalars and sequences that are attributes of the environment, of
the robots and of their controllers and grippers; `restore_snapshot` assigns the arrays in place if
their shape allows it. Arrays may share memory with each other, so an assignment may change an
array that has been restored already. Of the listed attributes of `sim.data` only arrays are
followed, and exceptions of MuJoCo are not.
-/

namespace SmolVlaQgf.SimulatorSnapshots
open ArrayMemory OrderedTables TransitionRuns

variable {V S X Q : Type}

/-! ## Objects -/

/-- The value of an attribute; a sequence has scalar items only. -/
inductive Value (S : Type) where
  | ndarray (ref : ArrayRef)
  | scalar (value : S)
  | sequence (isTuple : Bool) (items : List S)
  | other (object : ℕ)

inductive Saved (S : Type) where
  | ndarray (ref : ArrayRef)
  | scalar (value : S)
  | sequence (isTuple : Bool) (items : List S)

abbrev SavedState (S : Type) := List (String × Saved S)

structure RobotParts where
  robot : ℕ
  controller : Option ℕ
  gripper : Option ℕ

/-- The objects that a snapshot is taken of; `data` is `sim.data`. -/
structure Parts where
  data : ℕ
  env : ℕ
  wrapped : Option ℕ
  inner : ℕ
  robots : List RobotParts

structure Attributes (S : Type) where
  entries : List (String × Value S)
  nodup : (entries.map Prod.fst).Nodup

namespace Attributes

/-- `getattr`, if the attribute exists. -/
def get? (attributes : Attributes S) (key : String) : Option (Value S) :=
  valueAt attributes.entries key

/-- `setattr` -/
def set (attributes : Attributes S) (key : String) (value : Value S) : Attributes S where
  entries := assign key value attributes.entries
  nodup := nodup_keys_update attributes.nodup

theorem get?_set (attributes : Attributes S) (key : String) (value : Value S) (other : String) :
    (attributes.set key value).get? other =
      if other = key then some value else attributes.get? other :=
  valueAt_assign _ _ _ _

end Attributes

/-- The memory, the attributes of every object and the rest of the simulator. -/
structure World (V S X : Type) where
  memory : Memory V
  attributes : ℕ → Attributes S
  parts : Parts
  rest : X

/-- `sim.get_state`, `sim.set_state` and `sim.forward`. -/
structure Simulator (V S X Q : Type) where
  getState : World V S X → Q
  setState : Q → World V S X → World V S X
  forward : World V S X → World V S X

structure RobotState (S : Type) where
  robot : SavedState S
  controller : SavedState S
  gripper : SavedState S

structure Snapshot (S Q : Type) where
  simState : Q
  simExtra : List (String × ArrayRef)
  env : SavedState S
  wrapped : SavedState S
  inner : SavedState S
  robots : List (RobotState S)

/-! ## Taking a snapshot -/

def saveValue (m : Memory V) : Value S → Option (Saved S) × Memory V
  | .ndarray ref => (some (.ndarray (m.copy ref).1), (m.copy ref).2)
  | .scalar value => (some (.scalar value), m)
  | .sequence isTuple items => (some (.sequence isTuple items), m)
  | .other _ => (none, m)

/-- `_simple_state` of the attributes of an object. -/
def simpleState : List (String × Value S) → Memory V → SavedState S × Memory V
  | [], m => ([], m)
  | (key, value) :: rest, m =>
      let (saved, m) := saveValue m value
      let (state, m) := simpleState rest m
      (saved.toList.map (key, ·) ++ state, m)

/-- `_simple_state` of an object that may be missing. -/
def simpleStateOf (w : World V S X) (object : Option ℕ) (m : Memory V) :
    SavedState S × Memory V :=
  match object with
  | none => ([], m)
  | some object => simpleState (w.attributes object).entries m

def simExtraNames : List String :=
  ["ctrl", "qfrc_applied", "xfrc_applied", "mocap_pos", "mocap_quat", "qacc_warmstart", "act"]

/-- The copies of arrays of `sim.data`. -/
def saveExtra (w : World V S X) : List String → Memory V → List (String × ArrayRef) × Memory V
  | [], m => ([], m)
  | name :: names, m =>
      match (w.attributes w.parts.data).get? name with
      | some (.ndarray ref) =>
          let (extra, m') := saveExtra w names (m.copy ref).2
          ((name, (m.copy ref).1) :: extra, m')
      | _ => saveExtra w names m

def saveRobots (w : World V S X) : List RobotParts → Memory V → List (RobotState S) × Memory V
  | [], m => ([], m)
  | parts :: rest, m =>
      let (robot, m) := simpleStateOf w (some parts.robot) m
      let (controller, m) := simpleStateOf w parts.controller m
      let (gripper, m) := simpleStateOf w parts.gripper m
      let (states, m) := saveRobots w rest m
      (⟨robot, controller, gripper⟩ :: states, m)

/-- `make_snapshot` -/
def makeSnapshot (simulator : Simulator V S X Q) (w : World V S X) :
    Snapshot S Q × World V S X :=
  let simState := simulator.getState w
  let (env, m) := simpleStateOf w (some w.parts.env) w.memory
  let (wrapped, m) := simpleStateOf w w.parts.wrapped m
  let (inner, m) := simpleStateOf w (some w.parts.inner) m
  let (simExtra, m) := saveExtra w simExtraNames m
  let (robots, m) := saveRobots w w.parts.robots m
  (⟨simState, simExtra, env, wrapped, inner, robots⟩, { w with memory := m })

/-! ## Restoring a snapshot -/

namespace World

variable (w : World V S X)

/-- `setattr(obj, key, value)` -/
def setAttr (object : ℕ) (key : String) (value : Value S) : World V S X :=
  { w with
    attributes := Function.update w.attributes object ((w.attributes object).set key value) }

/-- `setattr(obj, key, value.copy())` -/
def setCopy (object : ℕ) (key : String) (ref : ArrayRef) : World V S X :=
  { w with memory := (w.memory.copy ref).2 }.setAttr object key (.ndarray (w.memory.copy ref).1)

/-- `target[...] = value`, which raises for an array that is not writeable. -/
def assignArray (target value : ArrayRef) : World V S X :=
  if target.writeable then
    { w with
      memory := w.memory.storeAll (Memory.writesTo target (w.memory.contents value).values) }
  else w

/-- The body of the loop of `_restore_simple_state`; an exception is ignored. -/
def restoreEntry (object : ℕ) (entry : String × Saved S) : World V S X :=
  match entry.2, (w.attributes object).get? entry.1 with
  | .ndarray saved, some (.ndarray target) =>
      if target.shape = saved.shape then w.assignArray target saved
      else w.setCopy object entry.1 saved
  | .ndarray saved, _ => w.setCopy object entry.1 saved
  | .scalar value, _ => w.setAttr object entry.1 (.scalar value)
  | .sequence isTuple items, _ => w.setAttr object entry.1 (.sequence isTuple items)

/-- `_restore_simple_state` -/
def restoreSimpleState (object : ℕ) (state : SavedState S) : World V S X :=
  state.foldl (fun w entry => w.restoreEntry object entry) w

/-- `_restore_simple_state` of an object that may be missing. -/
def restoreOptional (object : Option ℕ) (state : SavedState S) : World V S X :=
  match object with
  | none => w
  | some object => w.restoreSimpleState object state

/-- An array of `sim.data`. No `try` is around this assignment: it raises for an array that is
not writeable, and the shape of a value that is no array raises. -/
def restoreExtraEntry (entry : String × ArrayRef) : Option (World V S X) :=
  match (w.attributes w.parts.data).get? entry.1 with
  | none => some w
  | some (.ndarray target) =>
      if target.shape ≠ entry.2.shape then some w
      else if target.writeable then some (w.assignArray target entry.2) else none
  | some _ => none

/-- The arrays of `sim.data`. -/
def restoreExtra (w : World V S X) : List (String × ArrayRef) → Option (World V S X)
  | [] => some w
  | entry :: extra => (w.restoreExtraEntry entry).bind fun w => w.restoreExtra extra

def restoreRobot (parts : RobotParts) (state : RobotState S) : World V S X :=
  ((w.restoreSimpleState parts.robot state.robot).restoreOptional parts.controller
    state.controller).restoreOptional parts.gripper state.gripper

/-- The part of `restore_snapshot` after `sim.forward()`. -/
def restoreObjects (snapshot : Snapshot S Q) : World V S X :=
  let env := w.restoreSimpleState w.parts.env snapshot.env
  let wrapped := env.restoreOptional w.parts.wrapped snapshot.wrapped
  let inner := wrapped.restoreSimpleState w.parts.inner snapshot.inner
  (w.parts.robots.zip snapshot.robots).foldl (fun w robot => w.restoreRobot robot.1 robot.2) inner

end World

/-- The part of `restore_snapshot` up to `sim.forward()`. -/
def restoreSim (simulator : Simulator V S X Q) (snapshot : Snapshot S Q) (w : World V S X) :
    Option (World V S X) :=
  ((simulator.setState snapshot.simState w).restoreExtra snapshot.simExtra).map simulator.forward

/-- `restore_snapshot`; the difference of the flat states that it returns is left out, with the
exceptions of its computation. -/
def restoreSnapshot (simulator : Simulator V S X Q) (snapshot : Snapshot S Q) (w : World V S X) :
    Option (World V S X) :=
  (restoreSim simulator snapshot w).map fun w => w.restoreObjects snapshot

end SmolVlaQgf.SimulatorSnapshots
