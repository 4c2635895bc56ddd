import SmolVlaQgf.GuardedTargetSafety

/-!
# The start-pose check

The check looks at the representative of each joint that is nearest to the middle of the start
envelope. Widening the envelope on both sides does not move its middle, so a joint passes exactly
when some representative lies in the widened envelope.
-/

namespace SmolVlaQgf.InitialPose
open ExactFloats PeriodicRepresentatives PolicySafetyGuard ArmstrongConfiguration
  GuardedTargetSafety

variable {K : Type} [Field K] [LinearOrder K]

/-- The value lies in the start envelope of a joint, widened by the tolerance. -/
def InStartEnvelope (config : PolicySafetyConfig K) (index : Fin jointCount) (value : K) : Prop :=
  config.initialLower index - config.initialEnvelopeOvershootRad ≤ value ∧
    value ≤ config.initialUpper index + config.initialEnvelopeOvershootRad

instance (config : PolicySafetyConfig K) (index : Fin jointCount) (value : K) :
    Decidable (InStartEnvelope config index value) :=
  inferInstanceAs (Decidable (_ ∧ _))

variable [FloorRing K] {turn : FullTurn K} {config : PolicySafetyConfig K}

/-- The joints of a start pose in the coordinates they are checked in. -/
def startJoints (turn : FullTurn K) (config : PolicySafetyConfig K) (state : Fin actionDim → K) :
    Fin jointCount → K :=
  canonicalJoint turn config.initialLower config.initialUpper config.wraparoundJointIndices
    (jointsOf state)

private theorem validateInitialPose_eq_ok_iff {state pose : Fin actionDim → K}
    {requireOpenGripper : Bool} :
    validateInitialPose turn (floats state) config requireOpenGripper = .ok pose ↔
      (∀ i, InStartEnvelope config i (startJoints turn config state i)) ∧
      (requireOpenGripper = true → gripperOf state < config.gripperCloseThreshold) ∧
      withGripper (startJoints turn config state) (gripperOf state) = pose := by
  have hinside : ((List.finRange jointCount).filter fun i =>
        startJoints turn config state i <
            config.initialLower i - config.initialEnvelopeOvershootRad ∨
          config.initialUpper i + config.initialEnvelopeOvershootRad <
            startJoints turn config state i) = [] ↔
      ∀ i, InStartEnvelope config i (startJoints turn config state i) := by
    simp [List.filter_eq_nil_iff, InStartEnvelope]
  rw [← hinside]
  simp only [validateInitialPose, finiteTuple_floats, canonicalizeJointsForEnvelope_floats]
  refine guarded_eq_ok_iff.trans (and_congr not_ne_iff (guarded_eq_ok_iff.trans ?_))
  refine and_congr ?_ ⟨Except.ok.inj, congrArg Except.ok⟩
  rw [not_and, not_le]

variable [IsStrictOrderedRing K]

/-- The checked representative passes if any representative does. -/
theorem inStartEnvelope_startJoints_iff {state : Fin actionDim → K} {index : Fin jointCount} :
    InStartEnvelope config index (startJoints turn config state index) ↔
      ∃ value, SameAngle turn config.wraparoundJointIndices index (jointsOf state index) value ∧
        InStartEnvelope config index value := by
  have hcenter : intervalCenter (config.initialLower index) (config.initialUpper index) =
      intervalCenter (config.initialLower index - config.initialEnvelopeOvershootRad)
        (config.initialUpper index + config.initialEnvelopeOvershootRad) := by
    rw [intervalCenter, intervalCenter]
    ring
  simp only [startJoints, canonicalJoint, SameAngle]
  split_ifs with hwraparound
  · rw [hcenter]
    exact nearestRepresentative_mem_iff turn.tau_pos
  · simp

/-- The start-pose check accepts a finite state exactly when every joint has a representative in
the widened start envelope and the gripper, if it has to be open, is below the close threshold;
the joints it returns are such representatives. -/
theorem validateInitialPose_spec (turn : FullTurn K) (config : PolicySafetyConfig K)
    (state : Fin actionDim → K) (requireOpenGripper : Bool) :
    ((∃ pose, validateInitialPose turn (floats state) config requireOpenGripper = .ok pose) ↔
      (∀ i, ∃ value,
        SameAngle turn config.wraparoundJointIndices i (jointsOf state i) value ∧
          InStartEnvelope config i value) ∧
        (requireOpenGripper = true → gripperOf state < config.gripperCloseThreshold)) ∧
    ∀ pose, validateInitialPose turn (floats state) config requireOpenGripper = .ok pose →
      gripperOf pose = gripperOf state ∧
      ∀ i, SameAngle turn config.wraparoundJointIndices i (jointsOf state i) (jointsOf pose i) ∧
        InStartEnvelope config i (jointsOf pose i) := by
  constructor
  · simp only [validateInitialPose_eq_ok_iff, inStartEnvelope_startJoints_iff]
    constructor
    · rintro ⟨pose, hjoints, hgripper, -⟩
      exact ⟨hjoints, hgripper⟩
    · rintro ⟨hjoints, hgripper⟩
      exact ⟨_, hjoints, hgripper, rfl⟩
  · intro pose hpose
    obtain ⟨hjoints, -, rfl⟩ := validateInitialPose_eq_ok_iff.mp hpose
    rw [gripperOf_withGripper, jointsOf_withGripper]
    exact ⟨rfl, fun i => ⟨sameAngle_canonicalJoint _ _ _, hjoints i⟩⟩

/-- The default reset pose is a start pose, also when the first joint is a turn further. -/
theorem turned_home_is_start_pose :
    ∃ pose, validateInitialPose mathTau (floats (withGripper turnedHome 0)) shippedConfig.guard
        true = .ok pose ∧
      ∀ i, InStartEnvelope shippedConfig.guard i (jointsOf pose i) := by
  have hpose : validateInitialPose mathTau (floats (withGripper turnedHome 0)) shippedConfig.guard
      true = .ok (withGripper homeJoints 0) :=
    validateInitialPose_eq_ok_iff.mpr (by decide +kernel)
  have hjoints := (validateInitialPose_spec mathTau shippedConfig.guard (withGripper turnedHome 0)
    true).2 (withGripper homeJoints 0) hpose
  exact ⟨_, hpose, fun i => (hjoints.2 i).2⟩

end SmolVlaQgf.InitialPose
