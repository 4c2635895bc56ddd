import SmolVlaQgf.GuardedTargetSafety

/-!
# Predicting the measured pose

The guard takes the least representative of the prediction in the widened envelope, the
measurement is given by the representative nearest to the middle. Both are the same in an
envelope narrower than a turn; in a wider one the pose the arm is in can be rejected.
-/

namespace SmolVlaQgf.HoldingStill
open ExactFloats PeriodicRepresentatives PolicySafetyGuard ArmstrongConfiguration
  GuardedTargetSafety

variable {K : Type} [Field K] [LinearOrder K]

/-- A representative of the measured angle in the overshoot margin below the envelope comes with
one at its lower end, and no representative in the envelope is far below the canonical one. -/
def NoEarlierTurn (turn : FullTurn K) (config : PolicySafetyConfig K) (index : Fin jointCount)
    (measured canonical : K) : Prop :=
  ∀ other, SameAngle turn config.wraparoundJointIndices index measured other →
    config.taskLower index - config.smallEnvelopeOvershootRad ≤ other →
    (other < config.taskLower index →
      SameAngle turn config.wraparoundJointIndices index measured (config.taskLower index)) ∧
    (config.taskLower index ≤ other → canonical - other ≤ targetErrorLimit config index)

private theorem targetErrorLimit_pos (config : PolicySafetyConfig K) (index : Fin jointCount) :
    0 < targetErrorLimit config index := by
  rw [targetErrorLimit]
  split_ifs
  · exact config.joint2MaxTargetErrorRad_pos
  · exact config.maxTargetErrorRad_pos

variable [FloorRing K]

/-- The guard accepts the measured joints as a prediction and the controller is told to stay. -/
def HoldsStill (turn : FullTurn K) (config : PolicySafetyConfig K)
    (measured canonical : Fin jointCount → K) (gripper measuredGripper : K)
    (previousClosed : Bool) : Prop :=
  ∃ guarded closed, guardPolicyAction turn (floats (withGripper measured gripper))
      (floats (withGripper canonical measuredGripper)) previousClosed config =
      .ok (guarded, closed) ∧
    controllerTargetsNearMeasuredJoints turn (floats guarded) (floats measured)
      config.wraparoundJointIndices = .ok measured ∧
    ∀ i ∉ config.wraparoundJointIndices, guarded i = measured i

variable [IsStrictOrderedRing K] {turn : FullTurn K} {config : PolicySafetyConfig K}
  {index : Fin jointCount}

/-- A target stays at the measurement exactly when it represents the same angle. -/
theorem controllerTarget_eq_measured_iff {wraparound : List (Fin jointCount)}
    {targets measured : Fin jointCount → K} :
    controllerTarget turn wraparound targets measured index = measured index ↔
      SameAngle turn wraparound index (measured index) (targets index) := by
  constructor
  · intro h
    have hsame : SameAngle turn wraparound index (targets index)
        (controllerTarget turn wraparound targets measured index) :=
      sameAngle_controllerTarget targets measured
    rw [h] at hsame
    exact hsame.symm
  · intro h
    rw [SameAngle] at h
    rw [controllerTarget]
    split_ifs at * with hwraparound
    · apply nearestRepresentative_eq turn.tau_pos h.symm
      rw [sub_self, abs_zero]
      exact half_pos turn.tau_pos
    · exact h.symm

/-- One joint is held still exactly when no earlier turn of the measurement gets in the way. -/
theorem guardJoint_holds_iff {measured canonical : K}
    (hsame : SameAngle turn config.wraparoundJointIndices index measured canonical)
    (hlower : config.taskLower index ≤ canonical) (hupper : canonical ≤ config.taskUpper index) :
    (∃ guarded, guardJoint turn config index measured canonical = .ok guarded ∧
        SameAngle turn config.wraparoundJointIndices index measured guarded) ↔
      NoEarlierTurn turn config index measured canonical := by
  have hovershoot := config.smallEnvelopeOvershootRad_nonneg
  obtain ⟨hlow, hhigh, hleast⟩ := envelopeTarget_spec hsame
    (by linarith) (by linarith)
  have hle := hleast canonical hsame (by linarith)
  have hclamp : min (max (envelopeTarget turn config index measured) (config.taskLower index))
      (config.taskUpper index) =
      max (envelopeTarget turn config index measured) (config.taskLower index) :=
    min_eq_left (max_le (hle.trans hupper) (hlower.trans hupper))
  have hbelow := max_le hle hlower
  simp only [guardJoint_eq_ok_iff, hclamp]
  have herror : |max (envelopeTarget turn config index measured) (config.taskLower index) -
      canonical| = canonical -
        max (envelopeTarget turn config index measured) (config.taskLower index) := by
    rw [abs_sub_comm, abs_of_nonneg (sub_nonneg.mpr hbelow)]
  have htargetSame : SameAngle turn config.wraparoundJointIndices index measured
      (envelopeTarget turn config index measured) := sameAngle_envelopeTarget config measured
  generalize envelopeTarget turn config index measured = target at *
  constructor
  · rintro ⟨guarded, ⟨-, -, rfl, hlimit⟩, hguarded⟩ other hother hmargin
    rw [herror] at hlimit
    have htarget := hleast other hother hmargin
    constructor
    · intro hbelowLower
      rwa [max_eq_right (htarget.trans hbelowLower.le)] at hguarded
    · intro hinside
      have hmax := max_le htarget hinside
      linarith
  · intro h
    obtain ⟨hmargin, henvelope⟩ := h target htargetSame hlow
    refine ⟨_, ⟨hlow, hhigh, rfl, ?_⟩, ?_⟩
    · rw [herror]
      rcases lt_or_ge target (config.taskLower index) with hlt | hge
      · rw [max_eq_right hlt.le]
        exact (h _ (hmargin hlt) (by linarith)).2 le_rfl
      · rw [max_eq_left hge]
        exact henvelope hge
    · rcases lt_or_ge target (config.taskLower index) with hlt | hge
      · rw [max_eq_right hlt.le]
        exact hmargin hlt
      · rw [max_eq_left hge]
        exact htargetSame

/-- The guard accepts the pose the arm is in and commands no motion exactly when no joint has an
earlier turn of its measurement in the widened envelope. -/
theorem holdsStill_iff (turn : FullTurn K) (config : PolicySafetyConfig K)
    (measured canonical : Fin jointCount → K) (gripper measuredGripper : K) (previousClosed : Bool)
    (hcanonical : canonicalizeJointsForEnvelope turn (floats measured) (floats config.taskLower)
      (floats config.taskUpper) config.wraparoundJointIndices = .ok canonical)
    (hinside : ∀ i, ∃ value,
      SameAngle turn config.wraparoundJointIndices i (measured i) value ∧
        config.taskLower i ≤ value ∧ value ≤ config.taskUpper i) :
    HoldsStill turn config measured canonical gripper measuredGripper previousClosed ↔
      ∀ i, NoEarlierTurn turn config i (measured i) (canonical i) := by
  rw [canonicalizeJointsForEnvelope_floats] at hcanonical
  obtain rfl := Except.ok.inj hcanonical
  have hmem (i : Fin jointCount) := canonicalJoint_mem_iff.mpr (hinside i)
  have hjoint (i : Fin jointCount) :=
    guardJoint_holds_iff (sameAngle_canonicalJoint _ _ _) (hmem i).1 (hmem i).2
  simp only [← hjoint, HoldsStill, guardPolicyAction_eq_ok_iff, jointsOf_withGripper,
    canonicalJoint_idem, controllerTargetsNearMeasuredJoints_floats, Except.ok.injEq]
  constructor
  · rintro ⟨guarded, closed, ⟨hguard, -⟩, hcontroller, -⟩ i
    exact ⟨guarded i, hguard i, controllerTarget_eq_measured_iff.mp (congrFun hcontroller i)⟩
  · intro h
    choose guarded hguard hsame using h
    refine ⟨guarded, _, ⟨hguard, rfl⟩, funext fun i => ?_, fun i hi => ?_⟩
    · exact controllerTarget_eq_measured_iff.mpr (hsame i)
    · have he := hsame i
      rw [SameAngle, if_neg (by simpa using hi)] at he
      exact he.symm

/-- There is no earlier turn in an envelope that is narrower than a turn, its lower overshoot
margin included. -/
theorem noEarlierTurn_of_narrow {measured canonical : K}
    (hsame : SameAngle turn config.wraparoundJointIndices index measured canonical)
    (hlower : config.taskLower index ≤ canonical) (hupper : canonical ≤ config.taskUpper index)
    (hnarrow : index ∈ config.wraparoundJointIndices →
      config.taskUpper index - config.taskLower index + config.smallEnvelopeOvershootRad <
        turn.tau) :
    NoEarlierTurn turn config index measured canonical := by
  intro other hother hmargin
  have hcanonical : canonical ≤ other := by
    by_contra hlt
    have hotherCanonical := hother.symm.trans hsame
    rw [SameAngle] at hotherCanonical
    split_ifs at hotherCanonical with hwraparound
    · refine hlt (hotherCanonical.eq_of_abs_sub_lt turn.tau_pos ?_).ge
      have hwidth := hnarrow (by simpa using hwraparound)
      rw [abs_sub_comm, abs_of_pos (by linarith)]
      linarith
    · exact hlt hotherCanonical.ge
  constructor
  · intro hbelow
    linarith
  · intro _
    have hlimit := targetErrorLimit_pos config index
    linarith

/-- The default configuration holds the reset pose, the first joint one turn further. -/
theorem holdsStill_home :
    HoldsStill mathTau shippedConfig.guard turnedHome homeJoints 0 0 false := by
  have hhome : canonicalJoint mathTau shippedConfig.guard.taskLower shippedConfig.guard.taskUpper
      shippedConfig.guard.wraparoundJointIndices turnedHome = homeJoints := by decide +kernel
  have hcanonical : canonicalizeJointsForEnvelope mathTau (floats turnedHome)
      (floats shippedConfig.guard.taskLower) (floats shippedConfig.guard.taskUpper)
      shippedConfig.guard.wraparoundJointIndices = .ok homeJoints := by
    rw [canonicalizeJointsForEnvelope_floats, hhome]
  have hsame (i : Fin jointCount) : SameAngle mathTau shippedConfig.guard.wraparoundJointIndices i
      (turnedHome i) (homeJoints i) :=
    hhome ▸ sameAngle_canonicalJoint _ _ _
  have hinside : ∀ i, shippedConfig.guard.taskLower i ≤ homeJoints i ∧
      homeJoints i ≤ shippedConfig.guard.taskUpper i := by decide +kernel
  have hnarrow : ∀ i, shippedConfig.guard.taskUpper i - shippedConfig.guard.taskLower i +
      shippedConfig.guard.smallEnvelopeOvershootRad < mathTau.tau := by decide +kernel
  exact (holdsStill_iff mathTau shippedConfig.guard turnedHome homeJoints 0 0 false hcanonical
    fun i => ⟨_, hsame i, hinside i⟩).mpr fun i =>
      noEarlierTurn_of_narrow (hsame i) (hinside i).1 (hinside i).2 fun _ => hnarrow i

/-- The default configuration with an envelope of one full turn around zero for joint 1. -/
def fullTurnConfig : PolicySafetyConfig ℚ :=
  { shippedConfig.guard with
    taskLower := Function.update shippedConfig.guard.taskLower firstJoint (-(mathTau.tau / 2))
    taskUpper := Function.update shippedConfig.guard.taskUpper firstJoint (mathTau.tau / 2)
    task_lower_lt_upper := by decide +kernel }

/-- The reset pose with joint 1 just below half a turn. -/
def nearHalfTurn : Fin jointCount → ℚ :=
  Function.update homeJoints firstJoint (mathTau.tau / 2 - 1 / 100)

/-- Joint 1 is measured just below half a turn and the guard checks the target just below minus
half a turn, so it rejects the pose the arm is in. -/
theorem nearHalfTurn_rejected :
    ¬∀ (config : PolicySafetyConfig ℚ) (measured canonical : Fin jointCount → ℚ)
        (gripper measuredGripper : ℚ) (previousClosed : Bool),
      canonicalizeJointsForEnvelope mathTau (floats measured) (floats config.taskLower)
        (floats config.taskUpper) config.wraparoundJointIndices = .ok canonical →
      (∀ i, ∃ value, SameAngle mathTau config.wraparoundJointIndices i (measured i) value ∧
        config.taskLower i ≤ value ∧ value ≤ config.taskUpper i) →
      HoldsStill mathTau config measured canonical gripper measuredGripper previousClosed := by
  intro hclaim
  have hcanonical : canonicalizeJointsForEnvelope mathTau (floats nearHalfTurn)
      (floats fullTurnConfig.taskLower) (floats fullTurnConfig.taskUpper)
      fullTurnConfig.wraparoundJointIndices = .ok nearHalfTurn := by
    rw [canonicalizeJointsForEnvelope_floats]
    exact congrArg Except.ok (by decide +kernel)
  have hinside : ∀ i, fullTurnConfig.taskLower i ≤ nearHalfTurn i ∧
      nearHalfTurn i ≤ fullTurnConfig.taskUpper i := by decide +kernel
  obtain ⟨guarded, closed, hguard, -, -⟩ := hclaim fullTurnConfig nearHalfTurn nearHalfTurn 0 0
    false hcanonical fun i => ⟨_, SameAngle.refl _, hinside i⟩
  have hfirst := (guardPolicyAction_eq_ok_iff.mp hguard).1 firstJoint
  obtain ⟨-, -, hclamp, herror⟩ := guardJoint_eq_ok_iff.mp hfirst
  rw [hclamp] at herror
  revert herror
  decide +kernel

end SmolVlaQgf.HoldingStill
