import SmolVlaQgf.AsyncPolicyClient

/-!
# What an episode reset cuts off

A reset empties the queue and nothing else. An observation that is in flight when the
queue is emptied, or a chunk or a popped action computed from it, is therefore still
executed afterwards; everything else captured before the reset is not.
-/

namespace SmolVlaQgf.EpisodeReset
open TransitionRuns AsyncPolicyClient ArmstrongRobotClient

variable {A K : Type}

/-! ## Observations that can still reach the robot -/

def poppedSources : ActionThread A → List ℕ
  | .popped action => action.sources
  | _ => []

def unsentIds : ObservationThread → List ℕ
  | .captured id => [id]
  | .stamped observation | .marked observation => [observation.id]
  | _ => []

/-- Observations captured and not sent, sent and not answered, answered by a chunk not
delivered, or behind an action popped and not sent. -/
def inFlight (s : State A) : List ℕ :=
  poppedSources s.actionThread ++ unsentIds s.observationThread ++
    s.observations.map (·.id) ++ s.chunks.flatten.flatMap (·.sources)

def queued (s : State A) : List ℕ := s.client.actionQueue.flatMap (·.sources)

/-- An observation from which an action can still be sent. -/
structure Alive (s : State A) (id : ℕ) : Prop where
  mem : id ∈ inFlight s ∨ id ∈ queued s

section Membership

variable {s : State A} {id : ℕ}

theorem Alive.popped (h : id ∈ poppedSources s.actionThread) : Alive s id :=
  ⟨Or.inl (by simp [inFlight, h])⟩

theorem Alive.unsent (h : id ∈ unsentIds s.observationThread) : Alive s id :=
  ⟨Or.inl (by simp [inFlight, h])⟩

theorem Alive.observation (h : id ∈ s.observations.map (·.id)) : Alive s id :=
  ⟨Or.inl (List.mem_append_left _ (List.mem_append_right _ h))⟩

theorem Alive.chunk {chunk : List (TimedAction A)} (hchunk : chunk ∈ s.chunks)
    (h : id ∈ chunk.flatMap (·.sources)) : Alive s id := by
  obtain ⟨action, haction, hid⟩ := List.mem_flatMap.mp h
  have hflat : action ∈ s.chunks.flatten := List.mem_flatten.mpr ⟨chunk, hchunk, haction⟩
  exact ⟨Or.inl (List.mem_append_right _ (List.mem_flatMap.mpr ⟨action, hflat, hid⟩))⟩

theorem Alive.queue (h : id ∈ queued s) : Alive s id := ⟨Or.inr h⟩

/-- The five places where a live observation can be. -/
theorem Alive.elim {motive : Prop} (h : Alive s id)
    (popped : id ∈ poppedSources s.actionThread → motive)
    (unsent : id ∈ unsentIds s.observationThread → motive)
    (observation : id ∈ s.observations.map (·.id) → motive)
    (chunk : ∀ chunk ∈ s.chunks, id ∈ chunk.flatMap (·.sources) → motive)
    (queue : id ∈ queued s → motive) : motive := by
  rcases h.mem with hflight | hqueue
  · rw [inFlight] at hflight
    rcases List.mem_append.mp hflight with hflight | hchunks
    · rcases List.mem_append.mp hflight with hflight | hobservation
      · exact (List.mem_append.mp hflight).elim popped unsent
      · exact observation hobservation
    · obtain ⟨action, haction, hid⟩ := List.mem_flatMap.mp hchunks
      obtain ⟨c, hc, hmem⟩ := List.mem_flatten.mp haction
      exact chunk c hc (List.mem_flatMap.mpr ⟨action, hmem, hid⟩)
  · exact queue hqueue

end Membership

/-- No action that goes back to an observation captured before a reset is sent after it. -/
def NoStaleAction (log : List (Event A)) : Prop :=
  ∀ before after action succeeded id, log = before ++ .reset :: after →
    .captured id ∈ before → .sent action succeeded ∈ after → id ∉ action.sources

/-! ## One step -/

/-- What one step can do to the live observations and to the log. -/
structure Traced (s t : State A) : Prop where
  alive : ∀ id, Alive t id → Alive s id ∨ id = s.captures
  captures : s.captures ≤ t.captures
  log : ∃ events, t.log = s.log ++ events ∧
    (∀ id, .captured id ∈ events → id < t.captures) ∧
    ∀ action succeeded, .sent action succeeded ∈ events → ∀ id ∈ action.sources, Alive s id

theorem Traced.quiet {s t : State A} {events : List (Event A)}
    (halive : ∀ id, Alive t id → Alive s id) (hcaptures : t.captures = s.captures)
    (hlog : t.log = s.log ++ events) (hevents : events = [] ∨ events = [.reset]) :
    Traced s t where
  alive := fun id hid => Or.inl (halive id hid)
  captures := hcaptures.ge
  log := by
    refine ⟨events, hlog, ?_, ?_⟩ <;> rcases hevents with rfl | rfl <;> simp

/-- Every place holds only observations that were live before; a place a step leaves alone
keeps its own. -/
structure Inherits (s t : State A) : Prop where
  popped : ∀ id ∈ poppedSources t.actionThread, Alive s id := by exact fun _ h => .popped h
  unsent : ∀ id ∈ unsentIds t.observationThread, Alive s id := by exact fun _ h => .unsent h
  observation : ∀ id ∈ t.observations.map (·.id), Alive s id := by
    exact fun _ h => .observation h
  chunk : ∀ chunk ∈ t.chunks, ∀ id ∈ chunk.flatMap (·.sources), Alive s id := by
    exact fun _ hchunk _ h => .chunk hchunk h
  queue : ∀ id ∈ queued t, Alive s id := by exact fun _ h => .queue h

theorem Inherits.alive {s t : State A} (h : Inherits s t) (id : ℕ) (hid : Alive t id) :
    Alive s id :=
  hid.elim (h.popped id) (h.unsent id) (h.observation id)
    (fun chunk hchunk => h.chunk chunk hchunk id) (h.queue id)

theorem Inherits.traced {s t : State A} (h : Inherits s t) (hcaptures : t.captures = s.captures)
    (hlog : t.log = s.log) : Traced s t :=
  .quiet h.alive hcaptures (hlog.trans (List.append_nil _).symm) (Or.inl rfl)

private theorem mem_sources_timeActionChunk {observation : TimedObservation} {actions : List A}
    {id : ℕ}
    (h : id ∈ (timeActionChunk observation actions).flatMap (·.sources)) :
    id = observation.id := by
  obtain ⟨action, haction, hid⟩ := List.mem_flatMap.mp h
  obtain ⟨entry, -, rfl⟩ := List.mem_map.mp haction
  exact List.mem_singleton.mp hid

private theorem mem_queued_receiveActions {merge : A → A → A} {chunk : List (TimedAction A)}
    {c : ArmstrongRobotClient A} {id : ℕ}
    (h : id ∈ (c.receiveActions merge chunk).actionQueue.flatMap (·.sources)) :
    id ∈ chunk.flatMap (·.sources) ∨ id ∈ c.actionQueue.flatMap (·.sources) := by
  obtain ⟨action, haction, hid⟩ := List.mem_flatMap.mp h
  obtain ⟨new, hnew, rfl⟩ := List.mem_map.mp haction
  have hmem : new ∈ chunk := (List.mem_filter.mp hnew).1
  exact (mem_sources_mergeQueued hid).imp_left fun hid => List.mem_flatMap.mpr ⟨new, hmem, hid⟩

variable [Field K] [LinearOrder K]
variable {merge : A → A → A} {config : RobotClientConfig K} {s t u : State A}

private theorem traced_of_transition {label : Label A} (h : Transition merge config s label t) :
    Traced s t := by
  cases h with
  | @popped action rest hthread hqueue =>
    have hqueued : queued s = action.sources ++ rest.flatMap (·.sources) := by
      rw [queued, hqueue, List.flatMap_cons]
    refine Inherits.traced ?_ rfl rfl
    exact {
      popped := fun _ h => .queue (hqueued ▸ List.mem_append_left _ h)
      queue := fun _ h => .queue (hqueued ▸ List.mem_append_right _ h) }
  | @sent action hthread succeeded =>
    have hinherits : Inherits s { s with
        actionThread := if succeeded then .executed action else .idle
        log := s.log ++ [.sent action succeeded] } :=
      { popped := by cases succeeded <;> exact fun _ h => absurd h List.not_mem_nil }
    refine ⟨fun id hid => Or.inl (hinherits.alive id hid), le_rfl, [.sent action succeeded], rfl,
      by simp, ?_⟩
    intro action' succeeded' hmem id hid
    obtain ⟨rfl, -⟩ := Event.sent.inj (List.mem_singleton.mp hmem)
    have hpopped : id ∈ poppedSources s.actionThread := by rwa [hthread]
    exact .popped hpopped
  | captured hthread =>
    refine ⟨fun id hid => ?_, Nat.le_succ _, [.captured s.captures], rfl, ?_, by simp⟩
    · apply hid.elim
      · exact fun h => Or.inl (.popped h)
      · exact fun h => Or.inr (List.mem_singleton.mp h)
      · exact fun h => Or.inl (.observation h)
      · exact fun _ hchunk h => Or.inl (.chunk hchunk h)
      · exact fun h => Or.inl (.queue h)
    · intro id hmem
      obtain rfl := Event.captured.inj (List.mem_singleton.mp hmem)
      exact Nat.lt_succ_self _
  | @taken observation hthread =>
    have hunsent : unsentIds s.observationThread = [observation.id] := by rw [hthread]; rfl
    refine Inherits.traced { unsent := ?_, observation := ?_ } rfl rfl
    · exact fun _ h => absurd h List.not_mem_nil
    · intro id h
      rw [List.map_append] at h
      rcases List.mem_append.mp h with h | h
      · exact .observation h
      · exact .unsent (hunsent ▸ h)
  | @inferred index observation hobservation actions =>
    have hmem : observation ∈ s.observations := List.mem_of_getElem? hobservation
    refine Inherits.traced { observation := ?_, chunk := ?_ } rfl rfl
    · intro id h
      obtain ⟨other, hother, rfl⟩ := List.mem_map.mp h
      exact .observation (List.mem_map_of_mem (List.mem_of_mem_eraseIdx hother))
    · intro chunk hchunk id h
      rcases List.mem_append.mp hchunk with hchunk | hchunk
      · exact .chunk hchunk h
      · obtain rfl := List.mem_singleton.mp hchunk
        obtain rfl := mem_sources_timeActionChunk h
        exact .observation (List.mem_map_of_mem hmem)
  | @delivered index chunk hchunk =>
    have hmem : chunk ∈ s.chunks := List.mem_of_getElem? hchunk
    refine Inherits.traced { chunk := ?_, queue := ?_ } rfl rfl
    · exact fun other hother _ h => .chunk (List.mem_of_mem_eraseIdx hother) h
    · intro id h
      rcases mem_queued_receiveActions h with h | h
      · exact .chunk hmem h
      · exact .queue h
  | queueCleared =>
    have hinherits : Inherits s (State.sync config { s with
        client := s.client.resetEpisodeQueue
        resetPending := false
        log := s.log ++ [.reset] }) := { queue := fun _ h => absurd h List.not_mem_nil }
    exact .quiet hinherits.alive rfl rfl (Or.inr rfl)
  | stamped hthread | marked hthread =>
    refine Inherits.traced { unsent := fun id h => .unsent ?_ } rfl rfl
    rw [hthread]
    exact h
  | notTaken | finished =>
    exact Inherits.traced { unsent := fun _ h => absurd h List.not_mem_nil } rfl rfl
  | gateOpen | queueEmpty | recorded =>
    exact Inherits.traced { popped := fun _ h => absurd h List.not_mem_nil } rfl rfl
  | gateClosed | gateSet | resetRefused | resetAdmitted => exact Inherits.traced {} rfl rfl

/-! ## Runs -/

def Counted (s : State A) : Prop := ∀ id, .captured id ∈ s.log → id < s.captures

theorem Traced.counted (h : Traced s t) (hs : Counted s) : Counted t := by
  obtain ⟨events, hlog, hcaptured, -⟩ := h.log
  intro id hid
  rw [hlog] at hid
  rcases List.mem_append.mp hid with hid | hid
  · exact (hs id hid).trans_le h.captures
  · exact hcaptured id hid

/-- What holds in every state `s` that a run reaches from `origin`: actions sent since, and
live observations, come from observations that were live in `origin` or captured since. -/
structure CutOff (origin s : State A) : Prop where
  captures : origin.captures ≤ s.captures
  alive : ∀ id, Alive s id → id < origin.captures → Alive origin id
  sent : ∃ later, s.log = origin.log ++ later ∧ ∀ action succeeded,
    .sent action succeeded ∈ later → ∀ id ∈ action.sources, id < origin.captures →
      Alive origin id

theorem CutOff.refl (s : State A) : CutOff s s where
  captures := le_rfl
  alive := fun _ hid _ => hid
  sent := ⟨[], (List.append_nil _).symm, fun _ _ hmem => absurd hmem List.not_mem_nil⟩

theorem CutOff.step {origin : State A} (h : CutOff origin s) (hstep : Traced s t) :
    CutOff origin t where
  captures := h.captures.trans hstep.captures
  alive := fun id hid hold => by
    rcases hstep.alive id hid with hid | rfl
    · exact h.alive id hid hold
    · exact absurd h.captures (Nat.not_le.mpr hold)
  sent := by
    obtain ⟨later, hlater, hsent⟩ := h.sent
    obtain ⟨events, hlog, -, hevents⟩ := hstep.log
    refine ⟨later ++ events, by rw [hlog, hlater, List.append_assoc], ?_⟩
    intro action succeeded hmem id hid hold
    rcases List.mem_append.mp hmem with hmem | hmem
    · exact hsent action succeeded hmem id hid hold
    · exact h.alive id (hevents action succeeded hmem id hid) hold

private theorem counted_of_run {labels : List (Label A)}
    (h : Run (Steps (next merge config)) State.initial labels s) : Counted s :=
  h.invariant (fun _ _ _ hstep => (traced_of_transition (transition_of_next hstep)).counted)
    fun _ hid => absurd hid List.not_mem_nil

private theorem cutOff_of_run {labels : List (Label A)}
    (h : Run (Steps (next merge config)) s labels t) :
    CutOff s t :=
  h.invariant (fun _ _ _ hstep hcut => hcut.step (traced_of_transition (transition_of_next hstep)))
    (.refl s)

/-- After a reset has emptied the queue, an action that goes back to an observation captured
before the reset is sent only if that observation was in flight at the reset. -/
theorem reset_cuts_off_queue {labels labels' : List (Label A)}
    (hrun : Run (Steps (next merge config)) State.initial labels s)
    (hreset : next merge config s .clearQueue = some t)
    (hafter : Run (Steps (next merge config)) t labels' u) :
    ∃ later, u.log = t.log ++ later ∧ ∀ action succeeded, .sent action succeeded ∈ later →
      ∀ id ∈ action.sources, .captured id ∈ t.log → id ∈ inFlight s := by
  have hcounted : Counted t := counted_of_run (hrun.snoc hreset)
  obtain ⟨later, hlater, hsent⟩ := (cutOff_of_run hafter).sent
  refine ⟨later, hlater, ?_⟩
  intro action succeeded hmem id hid hcaptured
  have halive : Alive t id := hsent action succeeded hmem id hid (hcounted id hcaptured)
  cases transition_of_next hreset with
  | queueCleared hpending =>
    rcases halive.mem with hflight | hqueue
    · exact hflight
    · exact absurd hqueue List.not_mem_nil

/-! ## Concrete runs -/

/-- A reset with a full queue and one request on its way. -/
theorem reset_with_request_in_flight :
    ∃ s t u, execute nextUnit State.initial
        (requestChunk ++ answer ++ requestChunk ++ [.requestReset]) = some s ∧
      nextUnit s .clearQueue = some t ∧
      execute nextUnit t (answer ++ [.setGate true] ++ popAndSend) = some u ∧
      ∃ later, u.log = t.log ++ later ∧ ∀ action succeeded, .sent action succeeded ∈ later →
        ∀ id ∈ action.sources, .captured id ∈ t.log → id ∈ inFlight s := by
  have hsome : (((execute nextUnit State.initial
      (requestChunk ++ answer ++ requestChunk ++ [.requestReset])).bind fun s =>
      nextUnit s .clearQueue).bind fun t =>
      execute nextUnit t (answer ++ [.setGate true] ++ popAndSend)).isSome = true := by
    decide +kernel
  obtain ⟨u, hu⟩ := Option.isSome_iff_exists.mp hsome
  obtain ⟨t, ht, hu⟩ := Option.bind_eq_some_iff.mp hu
  obtain ⟨s, hs, ht⟩ := Option.bind_eq_some_iff.mp ht
  exact ⟨s, t, u, hs, ht, hu, reset_cuts_off_queue (run_of_execute hs) ht (run_of_execute hu)⟩

/-- An observation on its way at the reset comes back as an action of the new episode. -/
theorem stale_action_after_reset :
    ∃ labels s, Run (Steps nextUnit) State.initial labels s ∧ ¬NoStaleAction s.log := by
  obtain ⟨s, hrun, hlog⟩ := exists_run_of_execute nextUnit State.initial
    (requestChunk ++ [.requestReset, .clearQueue] ++ answer ++ [.setGate true] ++ popAndSend)
    (fun s => decide (s.log = [.captured 0, .reset, .sent ⟨0, (), [0]⟩ true]))
    (by decide +kernel)
  refine ⟨_, s, hrun, fun hstale => ?_⟩
  have hsent := hstale [.captured 0] [.sent ⟨0, (), [0]⟩ true] ⟨0, (), [0]⟩ true 0
    (of_decide_eq_true hlog) (by simp) (by simp)
  simp at hsent

end SmolVlaQgf.EpisodeReset
