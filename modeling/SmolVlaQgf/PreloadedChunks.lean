import SmolVlaQgf.AsyncPolicyClient

/-!
# The chunk that waits for the gate

While the gate is closed the client keeps what the server sends. After a start the queue is
empty or one whole chunk; after an episode reset its first action has been executed already,
so the chunk that counts as complete is shorter by one.
-/

namespace SmolVlaQgf.PreloadedChunks
open TransitionRuns AsyncPolicyClient ArmstrongRobotClient

variable {A K : Type}

/-! ## Timesteps -/

def timesteps (actions : List (TimedAction A)) : List ℤ := actions.map TimedAction.timestep

def consecutive (first : ℤ) (count : ℕ) : List ℤ := 
  (List.range count).map fun i : ℕ => first + (i : ℤ)

/-- How many actions of a fresh chunk are still to be executed. -/
def executableCount (H : ℕ) (latest : ℤ) : ℕ := if latest < 0 then H else H - 1

@[simp] theorem length_consecutive (first : ℤ) (count : ℕ) :
    (consecutive first count).length = count := by simp [consecutive]

private theorem timesteps_timeActionChunk (observation : TimedObservation) (actions : List A) :
    timesteps (timeActionChunk observation actions) =
      consecutive observation.timestep actions.length := by
  have hindices : actions.zipIdx.map Prod.snd = List.range actions.length := by
    rw [List.zipIdx_map_snd, List.range_eq_range']
  rw [timesteps, timeActionChunk, consecutive, ← hindices, List.map_map, List.map_map]
  rfl

/-- What a client keeps of a chunk for its own observation timestep. -/
theorem filter_consecutive (latest : ℤ) (H : ℕ) :
    (consecutive (max latest 0) H).filter (fun timestep => decide (latest < timestep)) =
      consecutive (max (latest + 1) 0) (executableCount H latest) := by
  rcases lt_or_ge latest 0 with hlt | hge
  · rw [executableCount, if_pos hlt, max_eq_right hlt.le, max_eq_right (by omega)]
    refine List.filter_eq_self.mpr fun timestep htimestep => ?_
    obtain ⟨i, _, rfl⟩ := List.mem_map.mp htimestep
    simp only [decide_eq_true_eq]
    omega
  · rw [executableCount, if_neg (not_lt.mpr hge), max_eq_left hge, max_eq_left (by omega)]
    cases H with
    | zero => rfl
    | succ n =>
      have hfirst : consecutive latest (n + 1) = latest :: consecutive (latest + 1) n := by
        simp only [consecutive, List.range_succ_eq_map, List.map_cons, List.map_map]
        congr 1
        · simp
        · refine List.map_congr_left fun i _ => ?_
          simp only [Function.comp_apply, Nat.succ_eq_add_one, Nat.cast_add, Nat.cast_one]
          omega
      rw [hfirst, List.filter_cons_of_neg (by simp), Nat.add_sub_cancel]
      refine List.filter_eq_self.mpr fun timestep htimestep => ?_
      obtain ⟨i, _, rfl⟩ := List.mem_map.mp htimestep
      simp only [decide_eq_true_eq]
      omega

private theorem timesteps_receiveActions (merge : A → A → A) (chunk : List (TimedAction A))
    (c : ArmstrongRobotClient A) :
    timesteps (c.receiveActions merge chunk).actionQueue =
      (timesteps chunk).filter fun timestep => decide (c.latestAction < timestep) := by
  simp only [timesteps, receiveActions, List.map_map, List.filter_map]
  refine List.map_congr_left fun new _ => ?_
  exact mergeQueued_timestep merge c.actionQueue new

/-! ## The invariant -/

def stamped? : ObservationThread → Option ℤ
  | .stamped observation | .marked observation => some observation.timestep
  | _ => none

/-- The gate is closed, and all that is on its way was asked for after `latest`. -/
structure Preloading (H : ℕ) (latest : ℤ) (s : State A) : Prop where
  gate : s.gate = false
  resetPending : s.resetPending = false
  actionThread : s.actionThread = .idle
  latestAction : s.client.latestAction = latest
  stamped : ∀ timestep ∈ stamped? s.observationThread, timestep = max latest 0
  observations : ∀ observation ∈ s.observations, observation.timestep = max latest 0
  chunks : ∀ chunk ∈ s.chunks, timesteps chunk = consecutive (max latest 0) H
  queue : s.client.actionQueue = [] ∧ s.client.actionChunkSize = -1 ∨
    timesteps s.client.actionQueue =
      consecutive (max (latest + 1) 0) (executableCount H latest) ∧
        s.client.actionChunkSize = H

/-- The steps while the operator prepares: the gate is not opened, no reset is asked for, and
the server answers with whole chunks. -/
def Preloads (H : ℕ) (_ : State A) : Label A → Prop
  | .setGate actionEnabled => actionEnabled = false
  | .requestReset => False
  | .infer _ actions => actions.length = H
  | _ => True

instance (H : ℕ) (s : State A) : (label : Label A) → Decidable (Preloads H s label)
  | .setGate actionEnabled => inferInstanceAs (Decidable (actionEnabled = false))
  | .requestReset => .isFalse id
  | .infer _ actions => inferInstanceAs (Decidable (actions.length = H))
  | .checkGate | .pop | .sendAction _ | .recordAction | .capture | .stamp | .mark
  | .sendObservation _ | .finishObservation | .deliver _ | .clearQueue => .isTrue trivial

/-- The gate is closed and nothing is on its way. -/
structure Quiet (s : State A) : Prop where
  gate : s.gate = false
  actionThread : s.actionThread = .idle
  observationThread : s.observationThread = .idle
  observations : s.observations = []
  chunks : s.chunks = []

/-- Nothing is on its way, and the queue has not been filled yet. -/
structure Fresh (s : State A) : Prop extends Quiet s where
  resetPending : s.resetPending = false
  actionQueue : s.client.actionQueue = []
  actionChunkSize : s.client.actionChunkSize = -1

private theorem fresh_initial : Fresh (State.initial : State A) :=
  ⟨⟨rfl, rfl, rfl, rfl, rfl⟩, rfl, rfl, rfl⟩

theorem Fresh.preloading {s : State A} (h : Fresh s) (H : ℕ) :
    Preloading H s.client.latestAction s where
  gate := h.gate
  resetPending := h.resetPending
  actionThread := h.actionThread
  latestAction := rfl
  stamped := by simp [h.observationThread, stamped?]
  observations := by simp [h.observations]
  chunks := by simp [h.chunks]
  queue := Or.inl ⟨h.actionQueue, h.actionChunkSize⟩

variable [Field K] [LinearOrder K]
variable {merge : A → A → A} {config : RobotClientConfig K}

/-- A client that has just been started, or whose episode reset has just finished with nothing on
its way. -/
inductive Prepared (merge : A → A → A) (config : RobotClientConfig K) : State A → Prop where
  | started : Prepared merge config .initial
  | reset {s t : State A} (quiet : Quiet s) (cleared : next merge config s .clearQueue = some t) :
      Prepared merge config t

variable {s t u : State A} {H : ℕ} {latest : ℤ}

/-- A finished reset empties the queue and leaves the rest as it was. -/
theorem fresh_of_clearQueue (h : Quiet s) (hstep : Transition merge config s .clearQueue t) :
    Fresh t := by
  cases hstep with
  | queueCleared => exact ⟨⟨h.gate, h.actionThread, h.observationThread, h.observations, h.chunks⟩,
      rfl, rfl, rfl⟩

theorem Prepared.fresh (h : Prepared merge config s) : Fresh s := by
  cases h with
  | started => exact fresh_initial
  | reset hquiet hcleared => exact fresh_of_clearQueue hquiet (transition_of_next hcleared)

/-- A delivery replaces the queue by the whole of what is left to execute of the chunk. -/
theorem Preloading.deliver {index : ℕ} {chunk : List (TimedAction A)}
    (h : Preloading H latest s) (hchunk : s.chunks[index]? = some chunk) :
    Preloading H latest { s with
      client := s.client.receiveActions merge chunk
      chunks := s.chunks.eraseIdx index } where
  gate := h.gate
  resetPending := h.resetPending
  actionThread := h.actionThread
  latestAction := h.latestAction
  stamped := h.stamped
  observations := h.observations
  chunks := fun other hother => h.chunks other (List.mem_of_mem_eraseIdx hother)
  queue := by
    have htimesteps := h.chunks chunk (List.mem_of_getElem? hchunk)
    have hlength : chunk.length = H := by
      simpa [timesteps] using congrArg List.length htimesteps
    refine Or.inr ⟨?_, ?_⟩
    · rw [timesteps_receiveActions, htimesteps, h.latestAction, filter_consecutive]
    · rcases h.queue with ⟨_, hsize⟩ | ⟨_, hsize⟩
      · simp [receiveActions, hsize, hlength]
      · simp [receiveActions, hsize, hlength]

theorem Preloading.step {label : Label A} (h : Preloading H latest s)
    (hlabel : Preloads H s label) (hstep : Transition merge config s label t) :
    Preloading H latest t := by
  cases hstep with
  | delivered hchunk => exact h.deliver hchunk
  | gateOpen _ hgate => exact absurd (h.gate.symm.trans hgate) Bool.false_ne_true
  | queueEmpty hthread => cases h.actionThread.symm.trans hthread
  | popped hthread => cases h.actionThread.symm.trans hthread
  | sent hthread => cases h.actionThread.symm.trans hthread
  | recorded hthread => cases h.actionThread.symm.trans hthread
  | resetAdmitted => exact hlabel.elim
  | queueCleared hpending => exact absurd (h.resetPending.symm.trans hpending) Bool.false_ne_true
  | gateSet actionEnabled => exact { h with gate := hlabel }
  | captured => exact { h with stamped := by simp [stamped?] }
  | stamped =>
    refine { h with stamped := ?_ }
    simp [stamped?, observationTimestep, h.latestAction]
  | marked hthread =>
    refine { h with stamped := ?_ }
    have hstamped := h.stamped
    rw [hthread] at hstamped
    exact hstamped
  | taken hthread =>
    have hstamped := h.stamped
    rw [hthread] at hstamped
    refine { h with stamped := by simp [stamped?], observations := ?_ }
    intro observation hobservation
    rcases List.mem_append.mp hobservation with hold | hnew
    · exact h.observations observation hold
    · rw [List.mem_singleton.mp hnew]
      exact hstamped _ rfl
  | notTaken => exact { h with stamped := by simp [stamped?] }
  | finished => exact { h with stamped := by simp [stamped?] }
  | inferred hobservation actions =>
    refine { h with observations := ?_, chunks := ?_ }
    · exact fun other hother => h.observations other (List.mem_of_mem_eraseIdx hother)
    · intro chunk hchunk
      rcases List.mem_append.mp hchunk with hold | hnew
      · exact h.chunks chunk hold
      · rw [List.mem_singleton.mp hnew, timesteps_timeActionChunk,
          h.observations _ (List.mem_of_getElem? hobservation)]
        exact congrArg _ hlabel
  | _ => exact { h with }

theorem Preloading.run {labels : List (Label A)} (h : Preloading H latest s)
    (hrun : Run (Restricted (Preloads H) (Steps (next merge config))) s labels t) :
    Preloading H latest t :=
  hrun.invariant (fun _ _ _ hstep hs => hs.step hstep.1 (transition_of_next hstep.2)) h

/-! ## What is preloaded -/

/-- The queue holds the whole of what is left to execute of a chunk. -/
def Loaded (H : ℕ) (c : ArmstrongRobotClient A) : Prop :=
  timesteps c.actionQueue =
    consecutive (max (c.latestAction + 1) 0) (executableCount H c.latestAction)

private theorem ne_nil_of_loaded (hH : 2 ≤ H) {c : ArmstrongRobotClient A} (h : Loaded H c) :
    c.actionQueue ≠ [] := by
  intro hnil
  have hlength := congrArg List.length h
  rw [hnil, length_consecutive, executableCount] at hlength
  split at hlength
  · simp [timesteps] at hlength
    omega
  · simp [timesteps] at hlength
    omega

omit [Field K] [LinearOrder K] in
/-- The reported readiness tells the two cases of a preload apart. -/
theorem Preloading.chunkReady_iff (h : Preloading H latest s) (hH : 2 ≤ H)
    (hconfig : config.actionsPerChunk = H) :
    (s.client.policyQueueStatus config).chunkReady = true ↔ Loaded H s.client := by
  constructor
  · intro hready
    rcases h.queue with ⟨hnil, hsize⟩ | ⟨htimesteps, _⟩
    · simp only [policyQueueStatus, hsize, Bool.and_eq_true, decide_eq_true_eq] at hready
      omega
    · rw [Loaded, h.latestAction]
      exact htimesteps
  · intro hloaded
    rcases h.queue with ⟨hnil, _⟩ | ⟨_, hsize⟩
    · exact absurd hnil (ne_nil_of_loaded hH hloaded)
    · have hlength : s.client.actionQueue.length = executableCount H s.client.latestAction := by
        simpa [timesteps] using congrArg List.length hloaded
      simp only [policyQueueStatus, hsize, hlength, hconfig, Bool.and_eq_true, decide_eq_true_eq,
        executableCount]
      split <;> omega

theorem Preloading.actionChunkSize_le {label : Label A} (h : Preloading H latest s)
    (hstep : Transition merge config s label t) :
    s.client.actionChunkSize ≤ t.client.actionChunkSize := by
  cases hstep with
  | delivered hchunk => exact le_max_left _ _
  | queueCleared hpending => exact absurd (h.resetPending.symm.trans hpending) Bool.false_ne_true
  | _ => exact le_rfl

omit [Field K] [LinearOrder K] in
/-- The size of the last chunk tells the two cases of a preload apart, too. -/
theorem Preloading.loaded_iff (h : Preloading H latest s) (hH : 2 ≤ H) :
    Loaded H s.client ↔ 0 ≤ s.client.actionChunkSize := by
  rcases h.queue with ⟨hnil, hsize⟩ | ⟨htimesteps, hsize⟩
  · rw [hsize]
    exact iff_of_false (fun hloaded => ne_nil_of_loaded hH hloaded hnil) (by decide)
  · rw [hsize]
    exact iff_of_true (by rw [Loaded, h.latestAction]; exact htimesteps) (Int.natCast_nonneg H)

theorem Preloading.step_loaded {label : Label A} (h : Preloading H latest s)
    (hlabel : Preloads H s label) (hstep : Transition merge config s label t) (hH : 2 ≤ H)
    (hloaded : Loaded H s.client) : Loaded H t.client :=
  ((h.step hlabel hstep).loaded_iff hH).mpr
    (((h.loaded_iff hH).mp hloaded).trans (h.actionChunkSize_le hstep))

theorem Preloading.run_loaded {labels : List (Label A)} (h : Preloading H latest s)
    (hrun : Run (Restricted (Preloads H) (Steps (next merge config))) s labels t) (hH : 2 ≤ H)
    (hloaded : Loaded H s.client) : Loaded H t.client :=
  (hrun.invariant (I := fun s => Preloading H latest s ∧ Loaded H s.client)
    (fun _ _ _ hstep hs => ⟨hs.1.step hstep.1 (transition_of_next hstep.2),
      hs.1.step_loaded hstep.1 (transition_of_next hstep.2) hH hs.2⟩) ⟨h, hloaded⟩).2

end SmolVlaQgf.PreloadedChunks
