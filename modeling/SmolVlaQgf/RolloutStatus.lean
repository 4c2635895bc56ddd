import SmolVlaQgf.AdapterOperations
import SmolVlaQgf.FieldText

/-!
# The status message and the rollout monitor

`_publish_status` in its two steps, the values it copies under the lock and the text
it formats after releasing it, and the `Monitor` that reads the text to classify how
a rollout ended.
-/

namespace SmolVlaQgf.RolloutStatus
open ExactFloats DecimalText FieldText TaskCompletion ArmstrongConfiguration ArmstrongAdapter

/-! ## Status message -/

/-- The values `_publish_status` copies under the lock. -/
structure StatusSnapshot (K : Type) where
  jointPresent : Bool
  chestPresent : Bool
  wristPresent : Bool
  jointAge : K
  chestAge : K
  wristAge : K
  policyQueueSize : ℕ
  policyExpectedChunkSize : ℕ
  policyChunkReady : Bool
  armMotionEnabled : Bool
  gripperContact : Bool
  gripperCandidate : Option Bool
  gripperCandidateCount : ℕ
  gripperCommandClosed : Bool
  completionResult : Option (TaskCompletionResult K)
  completionActive : Bool

section Status

variable {K Img : Type} [Field K] [LinearOrder K]

/-- The locked part of `_publish_status`. -/
def statusSnapshot (now : K) (s : Adapter K Img) : StatusSnapshot K where
  jointPresent := s.jointState.isSome
  chestPresent := s.chest.isSome
  wristPresent := s.wrist.isSome
  jointAge := if s.jointState.isSome then now - s.jointTime else -1
  chestAge := if s.chest.isSome then now - s.chestTime else -1
  wristAge := if s.wrist.isSome then now - s.wristTime else -1
  policyQueueSize := s.policyQueueSize
  policyExpectedChunkSize := s.policyExpectedChunkSize
  policyChunkReady := s.policyChunkReady
  armMotionEnabled := s.armMotionEnabled
  gripperContact := s.gripperContact
  gripperCandidate := s.gripperFilter.candidateClosed
  gripperCandidateCount := s.gripperFilter.candidateCount
  gripperCommandClosed := s.gripperFilter.commandClosed
  completionResult := s.completionResult
  completionActive := s.completionDetector.active

/-- `task_completed` -/
def StatusSnapshot.taskCompleted (snap : StatusSnapshot K) : Bool :=
  snap.completionResult.any (·.completed)

/-- `observation_ready` -/
def StatusSnapshot.observationReady (config : AdapterConfig K) (snap : StatusSnapshot K) : Bool :=
  snap.jointPresent && snap.chestPresent && snap.wristPresent &&
    snap.jointAge ≤ config.stateTimeoutSeconds && snap.chestAge ≤ config.cameraTimeoutSeconds &&
    snap.wristAge ≤ config.cameraTimeoutSeconds

/-- `int(flag)` as text. -/
def flagText (flag : Bool) : Text := if flag then ['1'] else ['0']

variable [FloorRing K]

/-- The format `.digitsf` of a float. -/
def fixedFloat (digits : ℕ) : PyFloat K → Text
  | .finite x => fixedPoint digits x
  | .posInf => "inf".toList
  | .negInf => "-inf".toList
  | .nan => "nan".toList

/-- The fields of the message, in order; the first two are read after the lock is
released. -/
def statusFields (config : AdapterConfig K) (snap : StatusSnapshot K)
    (connected actionEnabled : Bool) : List (Text × Text) :=
  let result := snap.completionResult
  [("connected".toList, flagText connected),
    ("action_enabled".toList, flagText actionEnabled),
    ("arm_motion_enabled".toList, flagText snap.armMotionEnabled),
    ("observation_ready".toList, flagText (snap.observationReady config)),
    ("policy_chunk_ready".toList, flagText snap.policyChunkReady),
    ("action_queue_size".toList, decimal snap.policyQueueSize),
    ("expected_action_chunk_size".toList, decimal snap.policyExpectedChunkSize),
    ("gripper_command_closed".toList, flagText snap.gripperCommandClosed),
    ("gripper_contact".toList, flagText snap.gripperContact),
    ("gripper_candidate".toList, snap.gripperCandidate.elim "none".toList flagText),
    ("gripper_candidate_count".toList, decimal snap.gripperCandidateCount),
    ("completion_active".toList, flagText snap.completionActive),
    ("completion_departed".toList, flagText (result.any (·.departed))),
    ("completion_saw_close".toList, flagText (result.any (·.sawClose))),
    ("completion_saw_release".toList, flagText (result.any (·.sawRelease))),
    ("completion_home".toList, flagText (result.any (·.insideReturnEnvelope))),
    ("completion_stable_s".toList, fixedFloat 3 (result.elim (.finite 0) (·.stableSeconds))),
    ("task_completed".toList, flagText snap.taskCompleted),
    ("joint_age_s".toList, fixedPoint 3 snap.jointAge),
    ("chest_age_s".toList, fixedPoint 3 snap.chestAge),
    ("wrist_age_s".toList, fixedPoint 3 snap.wristAge)]

/-- The text `_publish_status` publishes. -/
def statusText (config : AdapterConfig K) (snap : StatusSnapshot K)
    (connected actionEnabled : Bool) : Text :=
  joinFields (statusFields config snap connected actionEnabled)

/-! ## Reading it back -/

private theorem plain_of_digit {c : Char} (h : c = '-' ∨ c = '.' ∨ isDigit c = true) :
    c ≠ ';' ∧ c ≠ '=' ∧ isSpace c = false := by
  rcases h with rfl | rfl | h
  · decide
  · decide
  · simp only [isDigit, Bool.and_eq_true, decide_eq_true_eq] at h
    have hlow : 48 ≤ c.toNat := h.1
    have hhigh : c.toNat ≤ 57 := h.2
    refine ⟨?_, ?_, ?_⟩
    · rintro rfl
      exact absurd hhigh (by decide)
    · rintro rfl
      exact absurd hhigh (by decide)
    · simp only [isSpace, Bool.or_eq_false_iff, Bool.and_eq_false_iff, decide_eq_false_iff_not,
        beq_eq_false_iff_ne]
      omega

private theorem plain_flagText (flag : Bool) : Plain (flagText flag) := by cases flag <;> decide

private theorem plain_decimal (n : ℕ) : Plain (decimal n) := fun _ hc =>
  plain_of_digit (Or.inr (Or.inr (isDigit_of_mem_decimal hc)))

private theorem plain_fixedPoint (digits : ℕ) (x : K) : Plain (fixedPoint digits x) := fun _ hc =>
  plain_of_digit (mem_fixedPoint hc)

private theorem plain_fixedFloat (digits : ℕ) (x : PyFloat K) : Plain (fixedFloat digits x) := by
  cases x with
  | finite x => exact plain_fixedPoint digits x
  | posInf => exact (by decide : Plain "inf".toList)
  | negInf => exact (by decide : Plain "-inf".toList)
  | nan => exact (by decide : Plain "nan".toList)

variable (config : AdapterConfig K) (snap : StatusSnapshot K) (connected actionEnabled : Bool)

theorem plainPairs_statusFields :
    PlainPairs (statusFields config snap connected actionEnabled) := by
  have hcandidate : Plain (snap.gripperCandidate.elim "none".toList flagText) := by
    cases snap.gripperCandidate with
    | none => decide
    | some candidate => exact plain_flagText candidate
  simp only [PlainPairs, statusFields, List.forall_mem_cons, plain_flagText, plain_decimal,
    plain_fixedPoint, plain_fixedFloat, hcandidate, and_true, List.not_mem_nil, IsEmpty.forall_iff,
    implies_true]
  decide +kernel

theorem statusFields_nodup :
    ((statusFields config snap connected actionEnabled).map Prod.fst).Nodup := by
  simp only [statusFields, List.map_cons, List.map_nil]
  decide +kernel

/-- Each key of the message is read back with the value published for it. -/
theorem fields_statusText {p : Text × Text}
    (hp : p ∈ statusFields config snap connected actionEnabled) :
    fields (statusText config snap connected actionEnabled) p.1 = some p.2 :=
  fields_eq_some (plainPairs_statusFields config snap connected actionEnabled)
    (statusFields_nodup config snap connected actionEnabled) hp

theorem fields_actionEnabled : fields (statusText config snap connected actionEnabled)
    "action_enabled".toList = some (flagText actionEnabled) :=
  fields_statusText config snap connected actionEnabled
    (.tail _ (.head _))

theorem fields_taskCompleted : fields (statusText config snap connected actionEnabled)
    "task_completed".toList = some (flagText snap.taskCompleted) :=
  fields_statusText config snap connected actionEnabled
    (p := ("task_completed".toList, flagText snap.taskCompleted)) (by simp [statusFields])

end Status

/-! ## Monitor -/

/-- The state of a `Monitor`. -/
structure Monitor where
  smolvla : Dict
  safety : Dict
  seenEnabled : Bool

/-- `dict.get(key) == value` -/
def reads (dict : Dict) (key value : String) : Bool := dict key.toList = some value.toList

namespace Monitor

/-- `__init__` -/
def new (actionGateConfirmed : Bool) : Monitor where
  smolvla := .empty
  safety := .empty
  seenEnabled := actionGateConfirmed

/-- `_smolvla_cb` -/
def smolvlaCallback (data : Text) (m : Monitor) : Monitor :=
  { m with
    smolvla := fields data
    seenEnabled := m.seenEnabled || reads (fields data) "action_enabled" "1" }

/-- `_safety_cb` -/
def safetyCallback (data : Text) (m : Monitor) : Monitor := { m with safety := fields data }

/-- `error not in (None, "0")` -/
def errorReported (safety : Dict) : Bool :=
  (safety "robot_error_code".toList).any (· ≠ "0".toList)

/-- `result` -/
def result (m : Monitor) : Option (ℕ × Text) :=
  if reads m.safety "robot_emergency_stop" "1" then some (20, "physical_emergency_stop".toList)
  else if reads m.safety "robot_protective_stop" "1" then some (21, "protective_stop".toList)
  else if errorReported m.safety then
    some (22, "robot_error_".toList ++ (m.safety "robot_error_code".toList).getD [])
  else if reads m.smolvla "task_completed" "1" then some (0, "task_completed_returned_home".toList)
  else if m.seenEnabled && reads m.smolvla "action_enabled" "0" then
    some (23, "policy_gate_closed_without_completion".toList)
  else if m.seenEnabled && reads m.safety "robot_enabled" "0" then
    some (24, "robot_enable_lost".toList)
  else if m.seenEnabled && reads m.safety "robot_powered_on" "0" then
    some (25, "robot_power_lost".toList)
  else none

end Monitor

end SmolVlaQgf.RolloutStatus
