import Mathlib.Algebra.Order.Floor.Ring
import Mathlib.Data.Fintype.Pi
import SmolVlaQgf.ArmstrongConfiguration

/-!
# Accepted targets are safe in both coordinate systems

The guard checks targets in the coordinates of the task envelope, while the arm
moves in the coordinates it reports. The error bound is carried from the first to
the second: the controller target is the representative nearest to the raw
measurement, and the checked target is one of the representatives it competes
with.
-/

namespace SmolVlaQgf.GuardedTargetSafety
open ExactFloats PeriodicRepresentatives PolicySafetyGuard ArmstrongConfiguration

variable {K : Type} [Field K] [LinearOrder K] [FloorRing K]

/-- Two values a joint cannot tell apart: equal up to whole turns on a wraparound
joint, equal on the others. -/
def SameAngle (turn : FullTurn K) (wraparound : List (Fin jointCount)) (index : Fin jointCount)
    (x y : K) : Prop :=
  if wraparound.contains index then CongruentMod turn.tau x y else x = y

variable {turn : FullTurn K} {wraparound : List (Fin jointCount)} {index : Fin jointCount}

omit [FloorRing K] in
theorem SameAngle.refl (x : K) : SameAngle turn wraparound index x x := by
  rw [SameAngle]
  split_ifs
  · exact CongruentMod.refl _ _
  · rfl

omit [FloorRing K] in
theorem SameAngle.symm {x y : K} (h : SameAngle turn wraparound index x y) :
    SameAngle turn wraparound index y x := by
  rw [SameAngle] at *
  split_ifs at *
  · exact CongruentMod.symm h
  · exact h.symm

omit [FloorRing K] in
theorem SameAngle.trans {x y z : K} (h : SameAngle turn wraparound index x y)
    (h' : SameAngle turn wraparound index y z) : SameAngle turn wraparound index x z := by
  rw [SameAngle] at *
  split_ifs at *
  · exact CongruentMod.trans h h'
  · exact h.trans h'

theorem sameAngle_canonicalJoint (lower upper joints : Fin jointCount → K) :
    SameAngle turn wraparound index (joints index)
      (canonicalJoint turn lower upper wraparound joints index) := by
  rw [SameAngle, canonicalJoint]
  split_ifs
  · exact nearestRepresentative_congruent _ _ _
  · rfl

theorem sameAngle_controllerTarget (targets measured : Fin jointCount → K) :
    SameAngle turn wraparound index (targets index)
      (controllerTarget turn wraparound targets measured index) := by
  rw [SameAngle, controllerTarget]
  split_ifs
  · exact nearestRepresentative_congruent _ _ _
  · rfl

theorem sameAngle_envelopeTarget (config : PolicySafetyConfig K) (target : K) :
    SameAngle turn config.wraparoundJointIndices index target
      (envelopeTarget turn config index target) := by
  rw [SameAngle, envelopeTarget]
  split_ifs with hi
  · simp only [equivalentAngleInInterval]
    split_ifs
    · exact leastRepresentative_congruent _ _ _
    · exact CongruentMod.refl _ _
  · rfl

variable [IsStrictOrderedRing K]

/-- A representative in the interval is found whenever there is one. -/
theorem equivalentAngleInInterval_isSome_iff {value lower upper : K} :
    (equivalentAngleInInterval turn value lower upper).isSome = true ↔
      ∃ other, CongruentMod turn.tau value other ∧ lower ≤ other ∧ other ≤ upper := by
  rw [equivalentAngleInInterval]
  constructor
  · intro h
    split_ifs at h with hle
    · exact ⟨_, leastRepresentative_congruent _ _ _,
        le_leastRepresentative turn.tau_pos value lower, hle⟩
    · cases h
  · rintro ⟨other, hother, hlower, hupper⟩
    have hle := leastRepresentative_le turn.tau_pos hother hlower
    rw [if_pos (hle.trans hupper), Option.isSome_some]

/-- The canonical coordinate is in the envelope if any representative is. -/
theorem canonicalJoint_mem_iff {lower upper joints : Fin jointCount → K} :
    (lower index ≤ canonicalJoint turn lower upper wraparound joints index ∧
        canonicalJoint turn lower upper wraparound joints index ≤ upper index) ↔
      ∃ value, SameAngle turn wraparound index (joints index) value ∧
        lower index ≤ value ∧ value ≤ upper index := by
  simp only [canonicalJoint, SameAngle]
  split_ifs
  · exact nearestRepresentative_mem_iff turn.tau_pos
  · simp

/-- When some representative lies in the widened envelope, the checked target is the least
representative at or above its lower end. -/
theorem envelopeTarget_spec {config : PolicySafetyConfig K} {target value : K}
    (h : SameAngle turn config.wraparoundJointIndices index target value)
    (hlower : config.taskLower index - config.smallEnvelopeOvershootRad ≤ value)
    (hupper : value ≤ config.taskUpper index + config.smallEnvelopeOvershootRad) :
    config.taskLower index - config.smallEnvelopeOvershootRad ≤
        envelopeTarget turn config index target ∧
      envelopeTarget turn config index target ≤
        config.taskUpper index + config.smallEnvelopeOvershootRad ∧
      ∀ other, SameAngle turn config.wraparoundJointIndices index target other →
        config.taskLower index - config.smallEnvelopeOvershootRad ≤ other →
        envelopeTarget turn config index target ≤ other := by
  simp only [SameAngle, envelopeTarget, equivalentAngleInInterval] at *
  split_ifs at * with hwraparound hfits
  · exact ⟨le_leastRepresentative turn.tau_pos _ _, hfits,
      fun other hother hle => leastRepresentative_le turn.tau_pos hother hle⟩
  · exact absurd ((leastRepresentative_le turn.tau_pos h hlower).trans hupper) hfits
  · subst h
    exact ⟨hlower, hupper, fun other hother _ => hother.le⟩

@[simp] theorem canonicalJoint_idem (lower upper joints : Fin jointCount → K) :
    canonicalJoint turn lower upper wraparound
        (canonicalJoint turn lower upper wraparound joints) =
      canonicalJoint turn lower upper wraparound joints := by
  funext i
  simp only [canonicalJoint]
  split_ifs
  · exact nearestRepresentative_idem turn.tau_pos _ _
  · rfl

/-- The controller target is no farther from the raw measurement than any value is
from any representative of the measurement. -/
theorem abs_controllerTarget_sub_le {targets measured : Fin jointCount → K} {current : K}
    (h : SameAngle turn wraparound index (measured index) current) :
    |controllerTarget turn wraparound targets measured index - measured index| ≤
      |targets index - current| := by
  rw [SameAngle] at h
  rw [controllerTarget]
  split_ifs at * with hi
  · obtain ⟨n, rfl⟩ := h
    have hshift : CongruentMod turn.tau (targets index) (targets index - turn.tau * n) :=
      ⟨-n, by push_cast; ring⟩
    have hnear := abs_nearestRepresentative_sub_le turn.tau_pos hshift (measured index)
    have he : targets index - turn.tau * n - measured index =
        targets index - (measured index + turn.tau * n) := by ring
    rwa [he] at hnear
  · rw [h]

/-- Every accepted action: the guarded target of each joint lies in the task envelope
and clamps a representative of the prediction that leaves the envelope by at most the
allowed overshoot; the controller target represents the same angle and is within the
joint's own target-error limit of the raw measurement. -/
theorem accepted_action_safe (turn : FullTurn K) (config : PolicySafetyConfig K)
    (predicted : Fin actionDim → K) (raw joints guarded : Fin jointCount → K) (gripper : K)
    (previousClosed closed : Bool)
    (hcanonical : canonicalizeJointsForEnvelope turn (floats raw) (floats config.taskLower)
      (floats config.taskUpper) config.wraparoundJointIndices = .ok joints)
    (haccept : guardPolicyAction turn (floats predicted) (floats (withGripper joints gripper))
      previousClosed config = .ok (guarded, closed)) :
    ∃ controller, controllerTargetsNearMeasuredJoints turn (floats guarded) (floats raw)
        config.wraparoundJointIndices = .ok controller ∧
      ∀ i, (config.taskLower i ≤ guarded i ∧ guarded i ≤ config.taskUpper i) ∧
        (∃ target, SameAngle turn config.wraparoundJointIndices i (jointsOf predicted i) target ∧
          config.taskLower i - config.smallEnvelopeOvershootRad ≤ target ∧
          target ≤ config.taskUpper i + config.smallEnvelopeOvershootRad ∧
          guarded i = min (max target (config.taskLower i)) (config.taskUpper i)) ∧
        SameAngle turn config.wraparoundJointIndices i (guarded i) (controller i) ∧
        |controller i - raw i| ≤
          if i = 1 then config.joint2MaxTargetErrorRad else config.maxTargetErrorRad := by
  rw [canonicalizeJointsForEnvelope_floats] at hcanonical
  obtain rfl := Except.ok.inj hcanonical
  refine ⟨_, controllerTargetsNearMeasuredJoints_floats _ _ _ _, fun i => ?_⟩
  have hjoint := (guardPolicyAction_eq_ok_iff.mp haccept).1 i
  rw [jointsOf_withGripper, canonicalJoint_idem] at hjoint
  obtain ⟨hlow, hhigh, hclamp, herror⟩ := guardJoint_eq_ok_iff.mp hjoint
  have hbounds := (config.task_lower_lt_upper i).le
  refine ⟨?_, ⟨_, sameAngle_envelopeTarget config _, hlow, hhigh, hclamp⟩,
    sameAngle_controllerTarget guarded raw, ?_⟩
  · rw [hclamp]
    exact ⟨le_min (le_max_right _ _) hbounds, min_le_right _ _⟩
  · calc |controllerTarget turn config.wraparoundJointIndices guarded raw i - raw i|
        ≤ |guarded i - canonicalJoint turn config.taskLower config.taskUpper
            config.wraparoundJointIndices raw i| :=
          abs_controllerTarget_sub_le (sameAngle_canonicalJoint _ _ _)
      _ ≤ targetErrorLimit config i := herror

/-- The reset pose with the first joint reported one turn further. -/
def turnedHome : Fin jointCount → ℚ :=
  Function.update homeJoints firstJoint (homeJoints firstJoint + mathTau.tau)

/-- Holding the reset pose is accepted there, with the default configuration. -/
theorem accepted_home_safe :
    ∃ controller, controllerTargetsNearMeasuredJoints mathTau (floats homeJoints)
        (floats turnedHome) shippedConfig.guard.wraparoundJointIndices = .ok controller ∧
      ∀ i, (shippedConfig.guard.taskLower i ≤ homeJoints i ∧
          homeJoints i ≤ shippedConfig.guard.taskUpper i) ∧
        (∃ target, SameAngle mathTau shippedConfig.guard.wraparoundJointIndices i
            (jointsOf (withGripper homeJoints 0) i) target ∧
          shippedConfig.guard.taskLower i - shippedConfig.guard.smallEnvelopeOvershootRad ≤ target ∧
          target ≤ shippedConfig.guard.taskUpper i + shippedConfig.guard.smallEnvelopeOvershootRad ∧
          homeJoints i = min (max target (shippedConfig.guard.taskLower i))
            (shippedConfig.guard.taskUpper i)) ∧
        SameAngle mathTau shippedConfig.guard.wraparoundJointIndices i (homeJoints i)
          (controller i) ∧
        |controller i - turnedHome i| ≤
          if i = 1 then shippedConfig.guard.joint2MaxTargetErrorRad
          else shippedConfig.guard.maxTargetErrorRad := by
  refine accepted_action_safe mathTau shippedConfig.guard (withGripper homeJoints 0) turnedHome
    homeJoints homeJoints 0 false false ?_ ?_
  · rw [canonicalizeJointsForEnvelope_floats]
    exact congrArg Except.ok (by decide +kernel)
  · refine guardPolicyAction_eq_ok_iff.mpr ⟨fun i => ?_, by decide +kernel⟩
    apply guardJoint_eq_ok_iff.mpr
    revert i
    decide +kernel

end SmolVlaQgf.GuardedTargetSafety
