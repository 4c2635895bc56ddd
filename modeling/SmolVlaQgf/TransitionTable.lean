import SmolVlaQgf.EpisodeRecorder

/-!
# The transition table of an episode

`build_transitions` pairs each recorded sample with the next one and puts the label of
the episode on the last pair.
-/

namespace SmolVlaQgf.TransitionTable
open ExactFloats EpisodeRecorder

/-- A row of `transitions.parquet`. -/
structure TransitionRow (K : Type) where
  episodeStep : ℕ
  timestampNs : ℤ
  nextTimestampNs : ℤ
  state : List (PyFloat K)
  stateTimestampNs : ℤ
  actionPolicy : List (PyFloat K)
  policyActionTimestep : ℤ
  actionPolicyTimestampNs : ℤ
  actionGuarded : List (PyFloat K)
  actionGuardedTimestampNs : ℤ
  actionExecuted : List (PyFloat K)
  actionExecutedTimestampNs : ℤ
  nextState : List (PyFloat K)
  reward : PyFloat K
  success : Bool
  episodeSuccess : Bool
  terminated : Bool
  truncated : Bool
  done : Bool
  gripperContact : Bool
  frames : FrameReference
  task : String

variable {K : Type} [Zero K] [One K]

def transition (success terminal : Bool) (task : String) (index : ℕ)
    (current following : SampleRow K) : TransitionRow K where
  episodeStep := index
  timestampNs := current.timestampNs
  nextTimestampNs := following.timestampNs
  state := current.state
  stateTimestampNs := current.stateTimestampNs
  actionPolicy := current.actionPolicy
  policyActionTimestep := current.policyActionTimestep
  actionPolicyTimestampNs := current.actionPolicyTimestampNs
  actionGuarded := current.actionGuarded
  actionGuardedTimestampNs := current.actionGuardedTimestampNs
  actionExecuted := current.actionExecuted
  actionExecutedTimestampNs := current.actionExecutedTimestampNs
  nextState := following.state
  reward := .ofBool (success && terminal)
  success := success && terminal
  episodeSuccess := success
  terminated := success && terminal
  truncated := !success && terminal
  done := terminal
  gripperContact := current.gripperContact
  frames := current.frames
  task

/-- `build_transitions`; `none` stands for the error about too few samples. -/
def buildTransitions (samples : List (SampleRow K)) (success : Bool) (task : String) :
    Option (List (TransitionRow K)) :=
  if samples.length < 2 then none
  else
    let lastIndex := samples.length - 2
    some ((samples.zip samples.tail).zipIdx.map fun ((current, following), index) =>
      transition success (decide (index = lastIndex)) task index current following)

theorem exists_transitions {samples : List (SampleRow K)} (hsamples : 2 ≤ samples.length)
    (success : Bool) (task : String) :
    ∃ transitions, buildTransitions samples success task = some transitions := by
  rw [buildTransitions, if_neg (Nat.not_lt.mpr hsamples)]
  exact ⟨_, rfl⟩

theorem length_buildTransitions {samples : List (SampleRow K)} {success : Bool} {task : String}
    {transitions : List (TransitionRow K)}
    (h : buildTransitions samples success task = some transitions) :
    transitions.length = samples.length - 1 := by
  rw [buildTransitions] at h
  split at h
  · cases h
  · obtain rfl := Option.some.inj h
    simp

/-- A row is the transition between two consecutive samples, terminal if it is the last. -/
theorem getElem?_buildTransitions {samples : List (SampleRow K)} {success : Bool} {task : String}
    {transitions : List (TransitionRow K)}
    (h : buildTransitions samples success task = some transitions) {index : ℕ}
    {row : TransitionRow K} (hrow : transitions[index]? = some row) :
    ∃ current following, samples[index]? = some current ∧ samples[index + 1]? = some following ∧
      row = transition success (decide (index + 1 = transitions.length)) task index current
        following := by
  have hlength := length_buildTransitions h
  rw [buildTransitions] at h
  split at h
  · cases h
  · rename_i hsamples
    obtain rfl := Option.some.inj h
    have hlast : index + 1 = samples.length - 1 ↔ index = samples.length - 2 := by omega
    rw [hlength, decide_eq_decide.mpr hlast]
    rw [List.getElem?_map, List.getElem?_zipIdx, Option.map_map, Option.map_eq_some_iff] at hrow
    obtain ⟨⟨current, following⟩, hpair, hrow⟩ := hrow
    obtain ⟨hcurrent, hfollowing⟩ := List.getElem?_zip_eq_some.mp hpair
    rw [List.getElem?_tail] at hfollowing
    simp only [Function.comp_apply, Nat.zero_add] at hrow
    exact ⟨current, following, hcurrent, hfollowing, hrow.symm⟩

end SmolVlaQgf.TransitionTable
