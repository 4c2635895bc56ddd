import SmolVlaQgf.PolicySafetyGuard
import SmolVlaQgf.FloatRounding

/-!
# The temporal filter for binary gripper commands

`GripperTemporalConfig` and `GripperTemporalFilter` of `smolvla_guard.py`. A
decisive model output has to stay decisive for a number of consecutive actions,
and the dwell and contact holds keep adjacent policy chunks from undoing a
command.
-/

namespace SmolVlaQgf.GripperFilter
open ExactFloats FloatRounding PolicySafetyGuard

/-- `GripperTemporalConfig` after `__post_init__` has accepted it. -/
structure GripperTemporalConfig (K : Type) [Field K] [LinearOrder K] where
  openThreshold : K
  closeThreshold : K
  confirmationFrames : ℕ
  minStateDwellSeconds : K
  contactHoldSeconds : K
  thresholds : 0 ≤ openThreshold ∧ openThreshold < closeThreshold ∧ closeThreshold ≤ 1
  confirmationFrames_pos : 0 < confirmationFrames
  minStateDwellSeconds_nonneg : 0 ≤ minStateDwellSeconds
  contactHoldSeconds_nonneg : 0 ≤ contactHoldSeconds

/-- The fields a `GripperTemporalConfig` is constructed from, with their defaults. -/
structure GripperTemporalFields (K : Type) [Field K] where
  openThreshold : PyFloat K := .finite (3 / 20)
  closeThreshold : PyFloat K := .finite (17 / 20)
  confirmationFrames : ℤ := 10
  minStateDwellSeconds : PyFloat K := .finite 2
  contactHoldSeconds : PyFloat K := .finite 3

variable {K : Type} [Field K] [LinearOrder K]

/-- `__post_init__` -/
def GripperTemporalFields.postInit (fields : GripperTemporalFields K) :
    Except String (GripperTemporalConfig K) := do
  let thresholds ← orderedThresholds fields.openThreshold fields.closeThreshold
    "gripper thresholds must satisfy 0 <= open < close <= 1"
  let ⟨hframes⟩ ← require (0 < fields.confirmationFrames) "confirmation_frames must be positive"
  let dwell ← nonnegative fields.minStateDwellSeconds "min_state_dwell_seconds cannot be negative"
  let hold ← nonnegative fields.contactHoldSeconds "contact_hold_seconds cannot be negative"
  return {
    openThreshold := thresholds.low
    closeThreshold := thresholds.high
    confirmationFrames := fields.confirmationFrames.toNat
    minStateDwellSeconds := dwell.value
    contactHoldSeconds := hold.value
    thresholds := thresholds.ordered
    confirmationFrames_pos := by omega
    minStateDwellSeconds_nonneg := dwell.nonneg
    contactHoldSeconds_nonneg := hold.nonneg }

/-- The reasons an update gives for holding a decisive candidate back. -/
inductive BlockedReason where
  | confirmation | minimumDwell | contactHold
  deriving DecidableEq, Repr

structure GripperTemporalResult where
  commandClosed : Bool
  transitioned : Bool
  candidateClosed : Option Bool
  candidateCount : ℕ
  blockedReason : Option BlockedReason
  deriving DecidableEq, Repr

/-- The state of a `GripperTemporalFilter`. -/
structure GripperTemporalFilter (K : Type) where
  commandClosed : Bool
  candidateClosed : Option Bool
  candidateCount : ℕ
  lastTransitionTime : K
  contactStartedTime : Option K
  contactActive : Bool

namespace GripperTemporalFilter

/-- `reset`, which also initialises a new filter. -/
def reset (initialClosed : Bool) (now : K) : GripperTemporalFilter K where
  commandClosed := initialClosed
  candidateClosed := none
  candidateCount := 0
  lastTransitionTime := now
  contactStartedTime := none
  contactActive := false

/-- `note_contact` -/
def noteContact (filter : GripperTemporalFilter K) (active : Bool) (now : K) :
    GripperTemporalFilter K :=
  { filter with
    contactStartedTime :=
      if active && !filter.contactActive then some now
      else if !active then none else filter.contactStartedTime
    contactActive := active }

/-- The state a decisive model output asks for. -/
def candidate (config : GripperTemporalConfig K) (rawValue : K) : Option Bool :=
  if rawValue ≤ config.openThreshold then some false
  else if config.closeThreshold ≤ rawValue then some true
  else none

/-- The candidate counters after one more frame asking for `wanted`. -/
def countCandidate (filter : GripperTemporalFilter K) (wanted : Bool) : GripperTemporalFilter K :=
  if filter.candidateClosed = some wanted then
    { filter with candidateCount := filter.candidateCount + 1 }
  else { filter with candidateClosed := some wanted, candidateCount := 1 }

/-- The result of a frame that leaves the candidate pending. -/
def blocked (filter : GripperTemporalFilter K) (reason : BlockedReason) : GripperTemporalResult :=
  ⟨filter.commandClosed, false, filter.candidateClosed, filter.candidateCount, some reason⟩

/-- `elapsed` -/
def elapsed [Rounding K] (filter : GripperTemporalFilter K) (now : K) : PyFloat K :=
  (PyFloat.finite 0).max (toFloat (now - filter.lastTransitionTime))

/-- `now - contact_started_time < contact_hold_seconds` for a contact that has started. -/
def ContactHeld [Rounding K] (config : GripperTemporalConfig K) (filter : GripperTemporalFilter K)
    (now : K) : Prop :=
  ∃ started ∈ filter.contactStartedTime,
    (toFloat (now - started)).lt (.finite config.contactHoldSeconds) = true

instance [Rounding K] (config : GripperTemporalConfig K) (filter : GripperTemporalFilter K)
    (now : K) : Decidable (ContactHeld config filter now) :=
  inferInstanceAs (Decidable (∃ started ∈ filter.contactStartedTime, _))

/-- The part of `update` after the argument checks and `note_contact`. -/
def advance [Rounding K] (config : GripperTemporalConfig K) (filter : GripperTemporalFilter K)
    (rawValue now : K) : GripperTemporalFilter K × GripperTemporalResult :=
  match candidate config rawValue with
  | none =>
      ({ filter with candidateClosed := none, candidateCount := 0 },
        ⟨filter.commandClosed, false, none, 0, none⟩)
  | some wanted =>
      if wanted = filter.commandClosed then
        ({ filter with candidateClosed := none, candidateCount := 0 },
          ⟨filter.commandClosed, false, none, 0, none⟩)
      else
        let counted := filter.countCandidate wanted
        if counted.candidateCount < config.confirmationFrames then
          (counted, counted.blocked .confirmation)
        else if (counted.elapsed now).lt (.finite config.minStateDwellSeconds) then
          (counted, counted.blocked .minimumDwell)
        else if wanted = false ∧ counted.ContactHeld config now then
          (counted, counted.blocked .contactHold)
        else
          ({ counted with
              commandClosed := wanted
              lastTransitionTime := now
              candidateClosed := none
              candidateCount := 0 },
            ⟨wanted, true, none, 0, none⟩)

variable [Rounding K]

/-- `update`; an update that raises leaves the filter as it was. -/
def update (config : GripperTemporalConfig K) (filter : GripperTemporalFilter K)
    (rawValue now : PyFloat K) (contactActive : Bool) :
    Except (PolicySafetyError K) (GripperTemporalFilter K × GripperTemporalResult) :=
  if rawValue.isFinite ∧ now.isFinite then
    .ok (advance config (filter.noteContact contactActive now.exact) rawValue.exact now.exact)
  else .error (.stated "gripper command/time contains NaN or infinity")

@[simp] theorem update_finite (config : GripperTemporalConfig K) (filter : GripperTemporalFilter K)
    (rawValue now : K) (contactActive : Bool) :
    update config filter (.finite rawValue) (.finite now) contactActive =
      .ok (advance config (filter.noteContact contactActive now) rawValue now) := if_pos ⟨rfl, rfl⟩

/-- An update raises exactly on a value or time that is not finite. -/
theorem update_eq_error_iff {config : GripperTemporalConfig K} {filter : GripperTemporalFilter K}
    {rawValue now : PyFloat K} {contactActive : Bool} :
    (∃ e, update config filter rawValue now contactActive = .error e) ↔
      ¬(rawValue.isFinite ∧ now.isFinite) := by
  rw [update]
  split_ifs with h <;> simp [h]

end GripperTemporalFilter

end SmolVlaQgf.GripperFilter
