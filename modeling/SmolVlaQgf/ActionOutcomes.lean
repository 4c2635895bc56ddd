import SmolVlaQgf.AdapterOperations

/-!
# What an action can come to

One inversion lemma for each step of `send_action`. A step either raises and says
what it left behind, or hands the next step what that step needs to succeed: a
guard that accepts has seen finite measurements and predictions, so neither the
gripper filter nor the controller mapping can raise after it.
-/

namespace SmolVlaQgf.ActionOutcomes
open ExactFloats PolicySafetyGuard GripperFilter ArmstrongConfiguration ArmstrongAdapter Adapter

variable {K Img : Type} [Field K] [LinearOrder K] [FloorRing K] [FloatRounding.Rounding K]
variable {config : AdapterConfig K} {s : Adapter K Img} {now : K}

/-! ## Mappings of a raw measurement -/

omit [FloatRounding.Rounding K] in
theorem canonicalizeJoints_ofFn (turn : FullTurn K) (joints : Fin jointCount → PyFloat K)
    (lower upper : Fin jointCount → K) (wraparound : List (Fin jointCount)) :
    canonicalizeJointsForEnvelope turn (List.ofFn joints) (floats lower) (floats upper)
        wraparound =
      if ∀ i, (joints i).isFinite then
        .ok (canonicalJoint turn lower upper wraparound fun i => (joints i).exact)
      else .error (.notFinite "joint state") := by
  simp only [canonicalizeJointsForEnvelope, finiteTuple_ofFn, finiteTuple_floats]
  split_ifs <;> rfl

omit [FloatRounding.Rounding K] in
private theorem controllerTargets_ofFn (turn : FullTurn K) (targets : Fin jointCount → K)
    {measured : Fin jointCount → PyFloat K} (hmeasured : ∀ i, (measured i).isFinite)
    (wraparound : List (Fin jointCount)) :
    controllerTargetsNearMeasuredJoints turn (floats targets) (List.ofFn measured) wraparound =
      .ok (controllerTarget turn wraparound targets fun i => (measured i).exact) := by
  simp only [controllerTargetsNearMeasuredJoints, finiteTuple_ofFn, finiteTuple_floats,
    if_pos hmeasured]
  rfl

omit [FloatRounding.Rounding K] in
theorem finite_of_guardPolicyAction {predicted : Fin actionDim → PyFloat K}
    {state : List (PyFloat K)} {previousClosed : Bool} {guard : PolicySafetyConfig K}
    {turn : FullTurn K} {result : (Fin jointCount → K) × Bool}
    (h : guardPolicyAction turn (List.ofFn predicted) state previousClosed guard = .ok result) :
    ∀ i, (predicted i).isFinite := by
  obtain ⟨action, haction, -⟩ := bind_eq_ok_iff.mp h
  rw [finiteTuple_ofFn] at haction
  split_ifs at haction with hfinite
  exact hfinite

/-! ## Snapshot -/

omit [Field K] [FloorRing K] [FloatRounding.Rounding K] in
private theorem fresh_error {α : Type} {source : String} {reading : Option α} {age timeout : K}
    {e : AdapterError K} (h : fresh source reading age timeout = .error e) :
    e.isPolicySafetyError = false := by
  simp only [fresh] at h
  split at h
  · obtain rfl := Except.error.inj h
    rfl
  · split_ifs at h
    obtain rfl := Except.error.inj h
    rfl

omit [FloorRing K] [FloatRounding.Rounding K] in
theorem snapshot_error {e : AdapterError K} (h : snapshot config now s = .error e) :
    e.isPolicySafetyError = false := by
  simp only [snapshot, bind, Except.bind] at h
  split at h
  · obtain rfl := Except.error.inj h
    exact fresh_error ‹_›
  split at h
  · obtain rfl := Except.error.inj h
    exact fresh_error ‹_›
  split at h
  · obtain rfl := Except.error.inj h
    exact fresh_error ‹_›
  cases h

/-! ## Guard -/

inductive GuardOutcome (s : Adapter K Img) : Outcome K Img (AcceptedAction K) → Prop where
  | unavailable {e : AdapterError K} (he : e.isPolicySafetyError = false) :
      GuardOutcome s ⟨s, [], .error e⟩
  | unmeasured {joints : Fin jointCount → PyFloat K} {e : PolicySafetyError K}
      (hstate : s.jointState = some joints) (hjoints : ¬∀ i, (joints i).isFinite) :
      GuardOutcome s ⟨s, [], .error (.safety e)⟩
  | rejected {joints : Fin jointCount → PyFloat K} {predicted : Fin actionDim → PyFloat K}
      {e : PolicySafetyError K}
      (hstate : s.jointState = some joints) (hjoints : ∀ i, (joints i).isFinite) :
      GuardOutcome s ⟨s.closeGate, s.publishRawAction predicted ++ s.publishStop,
        .error (.safety e)⟩
  | accepted (accepted : AcceptedAction K)
      (hstate : s.jointState = some accepted.rawJoints)
      (hjoints : ∀ i, (accepted.rawJoints i).isFinite)
      (hpredicted : ∀ i, (accepted.predicted i).isFinite) :
      GuardOutcome s ⟨s, s.publishRawAction accepted.predicted, .ok accepted⟩

omit [Field K] [LinearOrder K] [FloorRing K] [FloatRounding.Rounding K] in
private theorem readAction_error {action : ActionDict K} {e : AdapterError K}
    (h : readAction action = .error e) : e.isPolicySafetyError = false := by
  rw [readAction] at h
  obtain ⟨i, hi⟩ := forEach_eq_error h
  split at hi
  · cases hi
  · obtain rfl := Except.error.inj hi
    rfl

omit [FloatRounding.Rounding K] in
theorem guardAction_outcome (config : AdapterConfig K) (now : K) (action : ActionDict K)
    (s : Adapter K Img) : GuardOutcome s (s.guardAction config now action) := by
  rw [guardAction]
  cases hsnapshot : s.snapshot config now with
  | error e => exact .unavailable (snapshot_error hsnapshot)
  | ok snap =>
    obtain ⟨hstate, -⟩ := snapshot_eq_ok hsnapshot
    simp only [canonicalizeJoints_ofFn]
    by_cases hjoints : ∀ i, (snap.joints i).isFinite
    · rw [if_pos hjoints]
      dsimp only
      cases haction : readAction action with
      | error e => exact .unavailable (readAction_error haction)
      | ok predicted =>
        dsimp only
        split
        · exact .rejected hstate hjoints
        · rename_i guardedJoints _ hguard
          exact .accepted ⟨snap.joints, predicted, guardedJoints⟩ hstate hjoints
            (finite_of_guardPolicyAction hguard)
    · rw [if_neg hjoints]
      exact .unmeasured hstate hjoints

/-! ## Filter, storage and publication -/

omit [FloorRing K] in
theorem filterAction_finite (config : AdapterConfig K) (now : K) (s : Adapter K Img)
    {accepted : AcceptedAction K} (hpredicted : ∀ i, (accepted.predicted i).isFinite) :
    ∃ filter temporal,
      GripperTemporalFilter.update config.gripper s.gripperFilter (gripperOf accepted.predicted)
        (.finite now) s.gripperContact = .ok (filter, temporal) ∧
      s.filterAction config now accepted =
        ⟨{ s with gripperFilter := filter }, [], .ok temporal⟩ := by
  have hupdate : ∃ p, GripperTemporalFilter.update config.gripper s.gripperFilter
      (gripperOf accepted.predicted) (.finite now) s.gripperContact = .ok p :=
    ⟨_, if_pos ⟨hpredicted _, rfl⟩⟩
  obtain ⟨⟨filter, temporal⟩, h⟩ := hupdate
  exact ⟨filter, temporal, h, by simp only [filterAction, h]⟩

omit [FloatRounding.Rounding K] in
/-- A finite measurement always has a controller target. -/
theorem storeAction_finite (config : AdapterConfig K) (temporal : GripperTemporalResult)
    (s : Adapter K Img) {accepted : AcceptedAction K}
    (hjoints : ∀ i, (accepted.rawJoints i).isFinite) :
    ∃ controllerJoints, s.storeAction config accepted temporal =
      ⟨{ s with lastSafeJointCommand := some controllerJoints },
        s.publishGuardedAction (guardedValues accepted temporal) ++
          [.jointCommand controllerJoints], .ok controllerJoints⟩ := by
  simp only [storeAction, controllerTargets_ofFn _ _ hjoints]
  exact ⟨_, rfl⟩

omit [FloorRing K] in
theorem filterAction_cases (config : AdapterConfig K) (now : K) (accepted : AcceptedAction K)
    (s : Adapter K Img) :
    (∃ e, s.filterAction config now accepted = ⟨s, [], .error e⟩) ∨
      ∃ filter temporal, s.filterAction config now accepted =
        ⟨{ s with gripperFilter := filter }, [], .ok temporal⟩ := by
  rw [filterAction]
  split
  · exact Or.inl ⟨_, rfl⟩
  · exact Or.inr ⟨_, _, rfl⟩

omit [FloatRounding.Rounding K] in
theorem storeAction_cases (config : AdapterConfig K) (accepted : AcceptedAction K)
    (temporal : GripperTemporalResult) (s : Adapter K Img) :
    (∃ effects e, s.storeAction config accepted temporal = ⟨s, effects, .error e⟩) ∨
      ∃ effects command, s.storeAction config accepted temporal =
        ⟨{ s with lastSafeJointCommand := some command }, effects, .ok command⟩ := by
  simp only [storeAction]
  split
  · exact Or.inl ⟨_, _, rfl⟩
  · exact Or.inr ⟨_, _, rfl⟩

/-! ## The whole action -/

/-- The ways `send_action` ends: before the guard, at the guard, or with a command. -/
inductive SendOutcome (config : AdapterConfig K) (s : Adapter K Img) (filterTime : K) :
    Outcome K Img (ActionDict K) → Prop where
  | disconnected (h : s.connected = false) : SendOutcome config s filterTime
      ⟨s, [], .error .notConnected⟩
  | gateClosed {action : ActionDict K} (h : s.actionEnabled = false) :
      SendOutcome config s filterTime ⟨s, [], .ok action⟩
  | stopped {s' : Adapter K Img} {effects : List (Effect K)} {e : AdapterError K}
      (hopen : s.actionEnabled = true)
      (hguard : GuardOutcome s ⟨s', effects, .error e⟩) :
      SendOutcome config s filterTime ⟨s', effects, .error e⟩
  | sent {accepted : AcceptedAction K} {filter : GripperTemporalFilter K}
      {temporal : GripperTemporalResult} {controllerJoints : Fin jointCount → K}
      {result : ActionDict K} {sent : Adapter K Img}
      (hopen : s.actionEnabled = true)
      (hupdate : GripperTemporalFilter.update config.gripper s.gripperFilter
        (gripperOf accepted.predicted) (.finite filterTime) s.gripperContact =
          .ok (filter, temporal))
      (hsent : sent = { s with
        gripperFilter := filter, lastSafeJointCommand := some controllerJoints }) :
      SendOutcome config s filterTime
        ⟨(sent.publishGripper temporal).adapter,
          s.publishRawAction accepted.predicted ++ [] ++
            (s.publishGuardedAction (guardedValues accepted temporal) ++
              [.jointCommand controllerJoints]) ++ (sent.publishGripper temporal).effects,
          .ok result⟩

theorem sendAction_outcome (config : AdapterConfig K) (snapshotTime filterTime : K)
    (action : ActionDict K) (s : Adapter K Img) :
    SendOutcome config s filterTime (s.sendAction config snapshotTime filterTime action) := by
  rw [sendAction]
  cases hconnected : s.connected with
  | false => exact .disconnected hconnected
  | true =>
    cases hopen : s.actionEnabled with
    | false => exact .gateClosed hopen
    | true =>
      simp only [Bool.not_true, Bool.false_eq_true, if_false]
      have hguard := guardAction_outcome config snapshotTime action s
      generalize s.guardAction config snapshotTime action = outcome at hguard
      cases hguard with
      | unavailable he => exact .stopped hopen (.unavailable he)
      | unmeasured hstate hjoints => exact .stopped hopen (.unmeasured hstate hjoints)
      | rejected hstate hjoints => exact .stopped hopen (.rejected hstate hjoints)
      | accepted accepted hstate hjoints hpredicted =>
        obtain ⟨filter, temporal, hupdate, hfilter⟩ :=
          filterAction_finite config filterTime s hpredicted
        obtain ⟨controllerJoints, hstore⟩ :=
          storeAction_finite config temporal { s with gripperFilter := filter } hjoints
        simp only [hfilter, hstore]
        exact .sent hopen hupdate rfl

end SmolVlaQgf.ActionOutcomes
