import SmolVlaQgf.EpisodeRecorder
import SmolVlaQgf.FallibleTraversals

/-!
# Three readings of the joint-state topic

`_joint_callback` of the adapter, `ordered_positions` of the recorder and `valid_positions` of
the readiness probe each extract the seven joints from a message. The adapter and the probe
refuse any message that has not exactly seven positions; the recorder counts the positions only of
a message without names.
-/

namespace SmolVlaQgf.JointReadings
open ExactFloats FallibleTraversals PolicySafetyGuard ArmstrongConfiguration ArmstrongAdapter
  Adapter
open EpisodeRecorder

variable {K : Type}

/-! ## The readiness probe -/

/-- `EXPECTED_NAMES` -/
def expectedNames : List String := List.ofFn jointNames

/-- `valid_positions` -/
def validPositions (message : JointState K) : Option (List (PyFloat K)) :=
  if message.position.length ≠ jointCount then none
  else
    let positions :=
      if message.name ≠ [] then expectedNames.mapM (lookupLast message.name message.position)
      else some message.position
    positions.filter fun values => values.all PyFloat.isFinite

/-! ## Looking up a joint -/

section Lookup

variable {α : Type} {names : List String} {values : List α} {name : String}

theorem map_fst_zip (names : List String) (values : List α) :
    (names.zip values).map Prod.fst = names.take values.length := by
  induction names generalizing values with
  | nil => simp
  | cons name names ih =>
    cases values with
    | nil => rfl
    | cons value values =>
      rw [List.zip_cons_cons, List.map_cons, ih, List.length_cons, List.take_succ_cons]

theorem isSome_lookupLast_iff :
    (lookupLast names values name).isSome = true ↔ name ∈ names.take values.length := by
  rw [lookupLast, Option.isSome_map, List.find?_isSome, ← map_fst_zip, List.mem_map]
  simp only [List.mem_reverse, decide_eq_true_eq]

private theorem mapM_lookupLast_armNames {lookup : String → Option α} {joints : Fin jointCount → α}
    (h : ∀ i, lookup (jointNames i) = some (joints i)) :
    armNames.mapM lookup = some (List.ofFn joints) := by
  apply mapM_eq_some
  rw [armNames, List.map_ofFn, List.map_ofFn]
  exact congrArg List.ofFn (funext h)

private theorem ofFn_get_cast {n : ℕ} (h : values.length = n) :
    List.ofFn (fun i : Fin n => values.get (i.cast h.symm)) = values := by
  subst h
  exact List.ofFn_get values

end Lookup

/-! ## Agreement -/

/-- The adapter and the recorder both ignore a message or extract the same joints. -/
inductive Agree (message : JointState K) : Prop where
  | ignored (hadapter : orderedJoints message.name message.position = none)
      (hrecorder : orderedPositions message armNames = none)
  | extracted {joints : Fin jointCount → PyFloat K}
      (hadapter : orderedJoints message.name message.position = some joints)
      (hrecorder : orderedPositions message armNames = some (List.ofFn joints))

def ProbeAgrees (message : JointState K) : Prop :=
  ∀ positions, validPositions message = some positions →
    ∃ joints : Fin jointCount → PyFloat K, positions = List.ofFn joints ∧
      orderedJoints message.name message.position = some joints ∧
      orderedPositions message armNames = some positions

/-- A message without names, one with seven positions, or one without a position for a joint. -/
def SevenOrUnreadable (message : JointState K) : Prop :=
  message.name = [] ∨ message.position.length = jointCount ∨
    ∃ i, jointNames i ∉ message.name.take message.position.length

variable {message : JointState K}

private theorem orderedPositions_of_unreadable (hnames : message.name ≠ []) {i : Fin jointCount}
    (hi : jointNames i ∉ message.name.take message.position.length) :
    orderedPositions message armNames = none := by
  rw [orderedPositions, if_pos hnames]
  refine mapM_eq_none (List.mem_ofFn.mpr ⟨i, rfl⟩) ?_
  rwa [← isSome_lookupLast_iff, Bool.not_eq_true, Option.isSome_eq_false_iff,
    Option.isNone_iff_eq_none] at hi

private theorem orderedJoints_of_unreadable (hnames : message.name ≠ []) {i : Fin jointCount}
    (hi : jointNames i ∉ message.name.take message.position.length) :
    orderedJoints message.name message.position = none := by
  have hnot : ¬∀ i, (lookupLast message.name message.position (jointNames i)).isSome = true :=
    fun hall => hi (isSome_lookupLast_iff.mp (hall i))
  rw [orderedJoints]
  split_ifs with hlength
  · exact if_neg hnot
  · rfl

/-- With a position for every joint the recorder extracts them. -/
theorem exists_orderedPositions (hnames : message.name ≠ [])
    (hall : ∀ i, jointNames i ∈ message.name.take message.position.length) :
    ∃ joints : Fin jointCount → PyFloat K,
      (∀ i, lookupLast message.name message.position (jointNames i) = some (joints i)) ∧
      orderedPositions message armNames = some (List.ofFn joints) := by
  have hsome : ∀ i, ∃ x, lookupLast message.name message.position (jointNames i) = some x :=
    fun i => Option.isSome_iff_exists.mp (isSome_lookupLast_iff.mpr (hall i))
  choose joints hjoints using hsome
  refine ⟨joints, hjoints, ?_⟩
  rw [orderedPositions, if_pos hnames]
  exact mapM_lookupLast_armNames hjoints

/-- The adapter extracts the joints of a message with names and seven positions. -/
theorem orderedJoints_of_lookup (hnames : message.name ≠ [])
    (hlength : message.position.length = jointCount) {joints : Fin jointCount → PyFloat K}
    (h : ∀ i, lookupLast message.name message.position (jointNames i) = some (joints i)) :
    orderedJoints message.name message.position = some joints := by
  have hall : ∀ i, (lookupLast message.name message.position (jointNames i)).isSome = true :=
    fun i => by rw [h i]; rfl
  rw [orderedJoints, dif_pos hlength, if_pos hnames, if_pos hall]
  refine congrArg some (funext fun i => ?_)
  rw [h i]
  rfl

private theorem orderedJoints_of_length_ne (h : message.position.length ≠ jointCount) :
    orderedJoints message.name message.position = none := dif_neg h

/-- A message without names is taken in order, or by neither. -/
theorem agree_of_nameless (hnames : message.name = []) : Agree message := by
  by_cases hlength : message.position.length = jointCount
  · have hadapter : orderedJoints message.name message.position =
        some fun i => message.position.get (i.cast hlength.symm) := by
      rw [orderedJoints, dif_pos hlength, if_neg (by simpa using hnames)]
    have hcount : ¬message.position.length ≠ armNames.length := by
      rw [armNames, List.length_ofFn, not_not]
      exact hlength
    refine .extracted hadapter ?_
    rw [orderedPositions, if_neg (by simpa using hnames), if_neg hcount, ofFn_get_cast hlength]
  · refine .ignored (orderedJoints_of_length_ne hlength) ?_
    have hcount : message.position.length ≠ armNames.length := by
      rw [armNames, List.length_ofFn]
      exact hlength
    rw [orderedPositions, if_neg (by simpa using hnames), if_pos hcount]

/-- The adapter and the recorder agree exactly on the messages without names, with seven
positions, or without a position for a joint. -/
theorem agree_iff : Agree message ↔ SevenOrUnreadable message := by
  by_cases hnames : message.name = []
  · exact iff_of_true (agree_of_nameless hnames) (Or.inl hnames)
  by_cases hall : ∀ i, jointNames i ∈ message.name.take message.position.length
  · obtain ⟨joints, hjoints, hrecorder⟩ := exists_orderedPositions hnames hall
    by_cases hlength : message.position.length = jointCount
    · exact iff_of_true (.extracted (orderedJoints_of_lookup hnames hlength hjoints) hrecorder)
        (Or.inr (Or.inl hlength))
    · refine iff_of_false ?_ ?_
      · rintro (⟨hadapter, hnone⟩ | ⟨hadapter, hsome⟩)
        · rw [hrecorder] at hnone
          cases hnone
        · rw [orderedJoints_of_length_ne hlength] at hadapter
          cases hadapter
      · rintro (hempty | hseven | ⟨i, hi⟩)
        · exact hnames hempty
        · exact hlength hseven
        · exact hi (hall i)
  · push Not at hall
    obtain ⟨i, hi⟩ := hall
    exact iff_of_true (.ignored (orderedJoints_of_unreadable hnames hi)
      (orderedPositions_of_unreadable hnames hi)) (Or.inr (Or.inr ⟨i, hi⟩))

private theorem probe_joints {positions : List (PyFloat K)}
    (hlength : message.position.length = jointCount)
    (hrecorder : orderedPositions message armNames = some positions) :
    ∃ joints : Fin jointCount → PyFloat K, positions = List.ofFn joints ∧
      orderedJoints message.name message.position = some joints ∧
      orderedPositions message armNames = some positions := by
  cases agree_iff.mpr (Or.inr (Or.inl hlength)) with
  | ignored hadapter hnone =>
    rw [hrecorder] at hnone
    cases hnone
  | extracted hadapter hsome =>
    rw [hrecorder, Option.some.injEq] at hsome
    exact ⟨_, hsome, hadapter, hrecorder⟩

/-- The probe accepts no message that the others read differently. -/
theorem probeAgrees (message : JointState K) : ProbeAgrees message := by
  intro positions h
  rw [validPositions] at h
  split_ifs at h with hlength hnames
  all_goals
    have hseven : message.position.length = jointCount := not_not.mp hlength
    obtain ⟨hpositions, -⟩ := Option.filter_eq_some_iff.mp h
  · exact probe_joints hseven (by rw [orderedPositions, if_pos hnames]; exact hpositions)
  · have hcount : ¬message.position.length ≠ armNames.length := by
      rw [armNames, List.length_ofFn, not_not]
      exact hseven
    exact probe_joints hseven (by rw [orderedPositions, if_neg hnames, if_neg hcount, hpositions])

def ReadAlike (message : JointState K) : Prop := Agree message ∧ ProbeAgrees message

/-- The three readings are alike exactly on the messages without names, with seven positions, or
without a position for a joint. -/
theorem readAlike_iff (message : JointState K) : ReadAlike message ↔ SevenOrUnreadable message := by
  rw [ReadAlike, and_iff_left (probeAgrees message)]
  exact agree_iff

def messageWithGripper : JointState ℚ where
  name := armNames ++ [gripperName]
  position := List.replicate 8 (.finite 0)
  frameId := none
  sec := 0
  nanosec := 0

/-- The recorder takes a state from a message that the adapter ignores. -/
theorem gripper_not_readAlike : ¬ReadAlike messageWithGripper := by
  rintro ⟨⟨-, hrecorder⟩ | ⟨hadapter, -⟩, -⟩
  · exact absurd hrecorder (by decide)
  · rw [orderedJoints_of_length_ne (by decide)] at hadapter
    cases hadapter

end SmolVlaQgf.JointReadings
