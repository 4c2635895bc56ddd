import SmolVlaQgf.GateLifecycle

/-!
# Safety errors raised by an action

`send_action` can raise a `PolicySafetyError` from the canonicalisation of the
measurement and from the guard. Only the second is inside the handler that closes
the gate, so a rejection closes it exactly when the stored measurement is finite.
-/

namespace SmolVlaQgf.GuardRejection
open ExactFloats PolicySafetyGuard ArmstrongConfiguration ArmstrongAdapter Adapter ActionOutcomes
  GateSteps GateLifecycle TransitionRuns

section Rejections

variable {K Img : Type} [Field K] [LinearOrder K] [FloorRing K] [FloatRounding.Rounding K]

/-- The call raised a `PolicySafetyError`. -/
def raisesPolicySafetyError {α : Type} (outcome : Outcome K Img α) : Bool :=
  match outcome.result with
  | .error e => e.isPolicySafetyError
  | .ok _ => false

/-- The call left the gate closed and no stored command, and published STOP and no
command. -/
structure StoppedSafely {α : Type} (outcome : Outcome K Img α) : Prop where
  gate : outcome.adapter.actionEnabled = false
  command : outcome.adapter.lastSafeJointCommand = none
  stop : .stop ∈ outcome.effects
  silent : ∀ effect ∈ outcome.effects, ¬effect.IsCommand

variable {config : AdapterConfig K} {s : Adapter K Img}

omit [Field K] [LinearOrder K] [FloorRing K] [FloatRounding.Rounding K] in
private theorem publishStop_not_command : ∀ effect ∈ s.publishStop, ¬effect.IsCommand := by
  rw [publishStop]
  split_ifs <;> simp [Effect.IsCommand]

omit [Field K] [LinearOrder K] [FloorRing K] [FloatRounding.Rounding K] in
private theorem publishRawAction_not_command {values : Fin actionDim → PyFloat K} :
    ∀ effect ∈ s.publishRawAction values, ¬effect.IsCommand := by
  rw [publishRawAction]
  split_ifs <;> simp [Effect.IsCommand]

/-- In every reachable state with an open gate, a `PolicySafetyError` out of
`send_action` stops the robot exactly when the measurement is finite. -/
theorem rejection_stops_iff (config : AdapterConfig K) (start : K) {calls : List (Call K Img)}
    (h : Run (Performs config) (Adapter.initial start) calls s) (hopen : s.actionEnabled = true)
    {snapshotTime filterTime : K} {action : ActionDict K}
    (hraise : raisesPolicySafetyError (s.sendAction config snapshotTime filterTime action)) :
    StoppedSafely (s.sendAction config snapshotTime filterTime action) ↔
      ∀ joints ∈ s.jointState, ∀ i, (joints i).isFinite := by
  have hnode := (adapterInvariant h).node (Or.inr hopen)
  have houtcome := sendAction_outcome config snapshotTime filterTime action s
  generalize s.sendAction config snapshotTime filterTime action = outcome at houtcome hraise
  cases houtcome with
  | disconnected => cases hraise
  | gateClosed => cases hraise
  | sent => cases hraise
  | stopped _ hguard =>
    cases hguard with
    | unavailable he => simp [raisesPolicySafetyError, he] at hraise
    | unmeasured hstate hjoints =>
      constructor
      · intro hstopped
        have hclosed := hstopped.gate
        simp [hopen] at hclosed
      · intro hfinite
        exact absurd (hfinite _ hstate) hjoints
    | rejected hstate hjoints =>
      constructor
      · rintro - joints hjoints'
        obtain rfl := Option.some.inj (hstate.symm.trans hjoints')
        exact hjoints
      · intro _
        refine ⟨rfl, rfl, List.mem_append_right _ (stop_mem_publishStop hnode), ?_⟩
        rw [List.forall_mem_append]
        exact ⟨publishRawAction_not_command, publishStop_not_command⟩

end Rejections

/-- An action with the same value for every joint and the gripper. -/
def constantAction (value : ℚ) : ActionDict ℚ := fun _ => some (.finite value)

/-- A target outside the task envelope of joint 2 stops the robot. -/
theorem outsideEnvelope_stops :
    StoppedSafely ((performAll shippedConfig (Adapter.initial 0) rolloutStart).1.sendAction
      shippedConfig 1 1 (constantAction 10)) :=
  (rejection_stops_iff shippedConfig 0 (run_performAll _ _ _) (by decide +kernel)
    (by decide +kernel)).mpr (by decide +kernel)

def nanFeedback : Operation ℚ Unit :=
  .jointCallback []
    (List.ofFn (Function.update (fun i => .finite (homeJoints i)) firstJoint .nan)) 1

/-- NaN feedback under an open gate: the next action raises a `PolicySafetyError` and
leaves the gate open. -/
theorem nanFeedback_leaves_gate_open :
    ¬∀ (calls : List (Call ℚ Unit)) (s : Adapter ℚ Unit) (snapshotTime filterTime : ℚ)
        (action : ActionDict ℚ),
      Run (Performs shippedConfig) (Adapter.initial 0) calls s → s.actionEnabled = true →
      raisesPolicySafetyError (s.sendAction shippedConfig snapshotTime filterTime action) = true →
      StoppedSafely (s.sendAction shippedConfig snapshotTime filterTime action) := by
  intro hclaim
  have hstopped := hclaim _ _ 1 1 (constantAction 10)
    (run_performAll shippedConfig (Adapter.initial 0) (rolloutStart ++ [nanFeedback]))
    (by decide +kernel) (by decide +kernel)
  have hgate : ((performAll shippedConfig (Adapter.initial 0)
      (rolloutStart ++ [nanFeedback])).1.sendAction shippedConfig 1 1
        (constantAction 10)).adapter.actionEnabled = true := by decide +kernel
  simp [hstopped.gate] at hgate

end SmolVlaQgf.GuardRejection
