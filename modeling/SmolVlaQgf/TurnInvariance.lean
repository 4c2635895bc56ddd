import SmolVlaQgf.HoldingStill

/-!
# Angles reported on another turn

The checked target does not depend on the turn of the prediction. The canonical measurement does
at the ties of its rounding, half a turn from the middle of the envelope; the guard rejects both
sides of a tie when envelope and target-error limit leave no way to reach it. An accepted target
is less than half a turn from the measurement, so the controller target moves with it.
-/

namespace SmolVlaQgf.TurnInvariance
open ExactFloats PeriodicRepresentatives PolicySafetyGuard ArmstrongConfiguration
  GuardedTargetSafety HoldingStill

variable {K : Type} [Field K] [LinearOrder K] [FloorRing K]

/-- The joints with each wraparound axis reported a number of turns further. -/
def turned (turn : FullTurn K) (wraparound : List (Fin jointCount)) (turns : Fin jointCount → ℤ)
    (joints : Fin jointCount → K) (index : Fin jointCount) : K :=
  if wraparound.contains index then joints index + turn.tau * turns index else joints index

/-- The seven joints of an eight-value vector turned, the gripper kept. -/
def turnedVector (turn : FullTurn K) (wraparound : List (Fin jointCount))
    (turns : Fin jointCount → ℤ) (values : Fin actionDim → K) : Fin actionDim → K :=
  withGripper (turned turn wraparound turns (jointsOf values)) (gripperOf values)

/-- The guard on a finite prediction and the canonical coordinates of a finite measurement, as
`send_action` calls it. -/
def guardMeasured (turn : FullTurn K) (config : PolicySafetyConfig K)
    (predicted measured : Fin actionDim → K) (previousClosed : Bool) :
    Except (PolicySafetyError K) ((Fin jointCount → K) × Bool) := do
  let joints ← canonicalizeJointsForEnvelope turn (floats (jointsOf measured))
    (floats config.taskLower) (floats config.taskUpper) config.wraparoundJointIndices
  guardPolicyAction turn (floats predicted) (floats (withGripper joints (gripperOf measured)))
    previousClosed config

variable {turn : FullTurn K} {config : PolicySafetyConfig K} {wraparound : List (Fin jointCount)}
  {index : Fin jointCount}

omit [FloorRing K] in
private theorem sameAngle_turned (turns : Fin jointCount → ℤ) (joints : Fin jointCount → K) :
    SameAngle turn wraparound index (joints index)
      (turned turn wraparound turns joints index) := by
  rw [SameAngle, turned]
  split_ifs
  · exact ⟨_, rfl⟩
  · rfl

variable [IsStrictOrderedRing K]

/-- The target checked for an accepted joint does not depend on the turn of the prediction. -/
theorem envelopeTarget_eq {predicted predicted' : K}
    (h : SameAngle turn config.wraparoundJointIndices index predicted predicted')
    (hlower : config.taskLower index - config.smallEnvelopeOvershootRad ≤
      envelopeTarget turn config index predicted)
    (hupper : envelopeTarget turn config index predicted ≤
      config.taskUpper index + config.smallEnvelopeOvershootRad) :
    envelopeTarget turn config index predicted' = envelopeTarget turn config index predicted := by
  have hsame : SameAngle turn config.wraparoundJointIndices index predicted
      (envelopeTarget turn config index predicted) := sameAngle_envelopeTarget config predicted
  obtain ⟨-, -, hleast⟩ := envelopeTarget_spec hsame hlower hupper
  obtain ⟨hlower', -, hleast'⟩ := envelopeTarget_spec (h.symm.trans hsame) hlower hupper
  refine le_antisymm (hleast' _ (h.symm.trans hsame) hlower) (hleast _ ?_ hlower')
  exact h.trans (sameAngle_envelopeTarget config predicted')

/-- A measurement with a representative near the middle of the envelope has that one as its
canonical coordinate, on whatever turn it is reported. -/
theorem canonicalJoint_eq {lower upper measured : Fin jointCount → K} {value : K}
    (h : SameAngle turn wraparound index (measured index) value)
    (hnear : index ∈ wraparound →
      |value - intervalCenter (lower index) (upper index)| < turn.tau / 2) :
    canonicalJoint turn lower upper wraparound measured index = value := by
  rw [SameAngle] at h
  rw [canonicalJoint]
  split_ifs at * with hwraparound
  · exact nearestRepresentative_eq turn.tau_pos h (hnear (by simpa using hwraparound))
  · exact h

/-- An accepted target less than half a turn from the canonical measurement is sent to the
controller with the offset between the raw and the canonical measurement. -/
theorem controllerTarget_eq {targets measured : Fin jointCount → K} {canonical : K}
    (h : SameAngle turn wraparound index (measured index) canonical)
    (hnear : index ∈ wraparound → |targets index - canonical| < turn.tau / 2) :
    controllerTarget turn wraparound targets measured index =
      targets index + (measured index - canonical) := by
  rw [SameAngle] at h
  rw [controllerTarget]
  split_ifs at * with hwraparound
  · obtain ⟨n, rfl⟩ := h
    refine nearestRepresentative_eq turn.tau_pos ⟨-n, by push_cast; ring⟩ ?_
    have he : targets index + (measured index - (measured index + turn.tau * n)) - measured index =
        targets index - (measured index + turn.tau * n) := by ring
    rw [he]
    exact hnear (by simpa using hwraparound)
  · rw [h, sub_self, add_zero]

/-- An accepted joint is measured less than half a turn from the middle of the envelope. -/
theorem canonical_near_center {predicted canonical guarded : K}
    (haccept : guardJoint turn config index predicted canonical = .ok guarded)
    (hnarrow : (config.taskUpper index - config.taskLower index) / 2 +
      targetErrorLimit config index < turn.tau / 2) :
    |canonical - intervalCenter (config.taskLower index) (config.taskUpper index)| <
      turn.tau / 2 := by
  obtain ⟨-, -, hclamp, herror⟩ := guardJoint_eq_ok_iff.mp haccept
  have hbounds := (config.task_lower_lt_upper index).le
  have hguarded : |guarded - intervalCenter (config.taskLower index) (config.taskUpper index)| ≤
      (config.taskUpper index - config.taskLower index) / 2 := by
    rw [abs_sub_intervalCenter_le_iff, hclamp]
    exact ⟨le_min (le_max_right _ _) hbounds, min_le_right _ _⟩
  rw [abs_sub_comm] at herror
  have htri := abs_sub_le canonical guarded
    (intervalCenter (config.taskLower index) (config.taskUpper index))
  linarith

section Joint

variable {measured measured' : Fin jointCount → K} {predicted predicted' guarded : K}

/-- Envelope and target-error limit of a wraparound joint stay clear of half a turn. -/
def ClearOfHalfTurn (turn : FullTurn K) (config : PolicySafetyConfig K) : Prop :=
  ∀ i ∈ config.wraparoundJointIndices,
    (config.taskUpper i - config.taskLower i) / (2 : ℕ) + targetErrorLimit config i <
      turn.tau / (2 : ℕ)

omit [FloorRing K] [IsStrictOrderedRing K] in
theorem ClearOfHalfTurn.lt (h : ClearOfHalfTurn turn config)
    (hi : index ∈ config.wraparoundJointIndices) :
    (config.taskUpper index - config.taskLower index) / 2 + targetErrorLimit config index <
      turn.tau / 2 := by
  have hlt := h index hi
  rwa [Nat.cast_ofNat] at hlt

/-- The canonical measurement of an accepted joint is the one of every other turn. -/
theorem canonicalJoint_of_accepted (hclear : ClearOfHalfTurn turn config)
    (hmeasured : SameAngle turn config.wraparoundJointIndices index (measured index)
      (measured' index))
    (haccept : guardJoint turn config index predicted
      (canonicalJoint turn config.taskLower config.taskUpper config.wraparoundJointIndices measured
        index) = .ok guarded) :
    canonicalJoint turn config.taskLower config.taskUpper config.wraparoundJointIndices measured'
        index =
      canonicalJoint turn config.taskLower config.taskUpper config.wraparoundJointIndices measured
        index :=
  canonicalJoint_eq (hmeasured.symm.trans (sameAngle_canonicalJoint _ _ _))
    fun hi => canonical_near_center haccept (hclear.lt hi)

/-- A joint accepted on one turn is accepted on every other, with the same guarded target. -/
theorem guardJoint_of_accepted (hclear : ClearOfHalfTurn turn config)
    (hpredicted : SameAngle turn config.wraparoundJointIndices index predicted predicted')
    (hmeasured : SameAngle turn config.wraparoundJointIndices index (measured index)
      (measured' index))
    (haccept : guardJoint turn config index predicted
      (canonicalJoint turn config.taskLower config.taskUpper config.wraparoundJointIndices measured
        index) = .ok guarded) :
    guardJoint turn config index predicted'
      (canonicalJoint turn config.taskLower config.taskUpper config.wraparoundJointIndices measured'
        index) = .ok guarded := by
  have hcanonical := canonicalJoint_of_accepted hclear hmeasured haccept
  obtain ⟨hlower, hupper, hclamp, herror⟩ := guardJoint_eq_ok_iff.mp haccept
  have htarget := envelopeTarget_eq hpredicted hlower hupper
  rw [hcanonical]
  apply guardJoint_eq_ok_iff.mpr
  rw [htarget]
  exact ⟨hlower, hupper, hclamp, herror⟩

/-- The controller target of an accepted joint, on whatever turn its measurement is reported. -/
theorem controllerTarget_of_accepted {targets : Fin jointCount → K}
    (hclear : ClearOfHalfTurn turn config)
    (hmeasured : SameAngle turn config.wraparoundJointIndices index (measured index)
      (measured' index))
    (haccept : guardJoint turn config index predicted
      (canonicalJoint turn config.taskLower config.taskUpper config.wraparoundJointIndices measured
        index) = .ok (targets index)) :
    controllerTarget turn config.wraparoundJointIndices targets measured' index =
      targets index + (measured' index -
        canonicalJoint turn config.taskLower config.taskUpper config.wraparoundJointIndices measured
          index) := by
  refine controllerTarget_eq (hmeasured.symm.trans (sameAngle_canonicalJoint _ _ _)) fun hi => ?_
  have herror := (guardJoint_eq_ok_iff.mp haccept).2.2.2
  have hbounds := config.task_lower_lt_upper index
  have hlimit := hclear.lt hi
  linarith

end Joint

section Vector

variable {predicted measured : Fin actionDim → K} {previousClosed closed : Bool}
  {guarded : Fin jointCount → K}

omit [FloorRing K] [IsStrictOrderedRing K] in
@[simp] theorem jointsOf_turnedVector (turns : Fin jointCount → ℤ) (values : Fin actionDim → K) :
    jointsOf (turnedVector turn wraparound turns values) =
      turned turn wraparound turns (jointsOf values) := jointsOf_withGripper _ _

omit [FloorRing K] [IsStrictOrderedRing K] in
@[simp] theorem gripperOf_turnedVector (turns : Fin jointCount → ℤ) (values : Fin actionDim → K) :
    gripperOf (turnedVector turn wraparound turns values) = gripperOf values :=
  gripperOf_withGripper _ _

private theorem guardMeasured_eq_ok_iff :
    guardMeasured turn config predicted measured previousClosed = .ok (guarded, closed) ↔
      (∀ i, guardJoint turn config i (jointsOf predicted i)
        (canonicalJoint turn config.taskLower config.taskUpper config.wraparoundJointIndices
          (jointsOf measured) i) = .ok (guarded i)) ∧
      guardGripper config (gripperOf predicted) previousClosed = closed := by
  simp only [guardMeasured, canonicalizeJointsForEnvelope_floats, bind, Except.bind,
    guardPolicyAction_eq_ok_iff, jointsOf_withGripper, canonicalJoint_idem]

end Vector

/-- Whole turns on the wraparound joints of the prediction and of the measurement change neither
what the guard accepts nor what it returns, and move the controller targets by the turns of the
measurement. -/
theorem guard_turn_invariant (turn : FullTurn K) (config : PolicySafetyConfig K)
    (predicted measured : Fin actionDim → K) (predictedTurns measuredTurns : Fin jointCount → ℤ)
    (previousClosed : Bool) (hclear : ClearOfHalfTurn turn config) (guarded : Fin jointCount → K)
    (closed : Bool) :
    (guardMeasured turn config
        (turnedVector turn config.wraparoundJointIndices predictedTurns predicted)
        (turnedVector turn config.wraparoundJointIndices measuredTurns measured) previousClosed =
        .ok (guarded, closed) ↔
      guardMeasured turn config predicted measured previousClosed = .ok (guarded, closed)) ∧
    (guardMeasured turn config predicted measured previousClosed = .ok (guarded, closed) →
      ∃ controller, controllerTargetsNearMeasuredJoints turn (floats guarded)
          (floats (jointsOf measured)) config.wraparoundJointIndices = .ok controller ∧
        controllerTargetsNearMeasuredJoints turn (floats guarded)
          (floats (turned turn config.wraparoundJointIndices measuredTurns (jointsOf measured)))
          config.wraparoundJointIndices =
          .ok (turned turn config.wraparoundJointIndices measuredTurns controller)) := by
  simp only [guardMeasured_eq_ok_iff, jointsOf_turnedVector, gripperOf_turnedVector]
  constructor
  · refine and_congr_left fun _ => forall_congr' fun i => ⟨fun h => ?_, fun h => ?_⟩
    · exact guardJoint_of_accepted hclear (sameAngle_turned _ _).symm (sameAngle_turned _ _).symm h
    · exact guardJoint_of_accepted hclear (sameAngle_turned _ _) (sameAngle_turned _ _) h
  · rintro ⟨haccept, -⟩
    refine ⟨_, controllerTargetsNearMeasuredJoints_floats _ _ _ _, ?_⟩
    rw [controllerTargetsNearMeasuredJoints_floats]
    refine congrArg Except.ok (funext fun i => ?_)
    rw [controllerTarget_of_accepted hclear (sameAngle_turned _ _) (haccept i), turned, turned,
      controllerTarget_of_accepted hclear (SameAngle.refl _) (haccept i)]
    split_ifs
    · ring
    · rfl

/-- Every envelope of the default configuration stays clear of half a turn. -/
theorem shipped_clearOfHalfTurn : ClearOfHalfTurn mathTau shippedConfig.guard := by
  rw [ClearOfHalfTurn]
  decide +kernel

/-- Holding the reset pose, predicted two turns back and measured three turns further. -/
theorem home_turn_invariant :
    guardMeasured mathTau shippedConfig.guard
        (turnedVector mathTau shippedConfig.guard.wraparoundJointIndices (fun _ => -2)
          (withGripper homeJoints 0))
        (turnedVector mathTau shippedConfig.guard.wraparoundJointIndices (fun _ => 3)
          (withGripper homeJoints 0)) false = .ok (homeJoints, false) ∧
      ∃ controller, controllerTargetsNearMeasuredJoints mathTau (floats homeJoints)
          (floats (jointsOf (withGripper homeJoints 0)))
          shippedConfig.guard.wraparoundJointIndices = .ok controller ∧
        controllerTargetsNearMeasuredJoints mathTau (floats homeJoints)
          (floats (turned mathTau shippedConfig.guard.wraparoundJointIndices (fun _ => 3)
            (jointsOf (withGripper homeJoints 0)))) shippedConfig.guard.wraparoundJointIndices =
          .ok (turned mathTau shippedConfig.guard.wraparoundJointIndices (fun _ => 3)
            controller) := by
  have haccept : guardMeasured mathTau shippedConfig.guard (withGripper homeJoints 0)
      (withGripper homeJoints 0) false = .ok (homeJoints, false) := by
    refine guardMeasured_eq_ok_iff.mpr ⟨fun i => guardJoint_eq_ok_iff.mpr ?_, by decide +kernel⟩
    revert i
    decide +kernel
  obtain ⟨hguard, hcontroller⟩ := guard_turn_invariant mathTau shippedConfig.guard
    (withGripper homeJoints 0) (withGripper homeJoints 0) (fun _ => -2) (fun _ => 3) false
    shipped_clearOfHalfTurn homeJoints false
  exact ⟨hguard.mpr haccept, hcontroller haccept⟩

end SmolVlaQgf.TurnInvariance
