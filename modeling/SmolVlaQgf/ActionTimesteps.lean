import SmolVlaQgf.AsyncPolicyClient

/-!
# The order of executed timesteps

The pop of an action and the update of `latest_action` are separate steps. A chunk
delivered between them is compared with the timestep executed before, so it can put the
action that is just being sent, or an earlier one, back into the queue. Where neither
happens, the executed timesteps increase strictly from one episode reset to the next.
-/

namespace SmolVlaQgf.ActionTimesteps
open TransitionRuns AsyncPolicyClient ArmstrongRobotClient

variable {A K : Type}

/-! ## The executed timesteps and the condition on the steps -/

def recordEvent (executed : List ℤ) : Event A → List ℤ
  | .sent action true => executed ++ [action.timestep]
  | .reset => []
  | _ => executed

/-- The timesteps of the sends that succeeded since the last reset, in order. -/
def executedTimesteps (log : List (Event A)) : List ℤ := log.foldl recordEvent []

@[simp] theorem executedTimesteps_append_singleton (log : List (Event A)) (event : Event A) :
    executedTimesteps (log ++ [event]) = recordEvent (executedTimesteps log) event := by
  rw [executedTimesteps, List.foldl_append]
  rfl

/-- When a popped action is sent, the queue holds later actions only. When a chunk is
delivered between a send and its record, the chunk holds no action that is new to
`latest_action` and not later than the action just sent. -/
def keepsOrder (s : State A) : Label A → Bool
  | .sendAction true =>
      match s.actionThread with
      | .popped action => s.client.actionQueue.all fun queued =>
          decide (action.timestep < queued.timestep)
      | _ => true
  | .deliver index =>
      match s.actionThread with
      | .executed action =>
          !(executedTimesteps s.log).contains action.timestep ||
            (s.chunks[index]?.getD []).all fun new =>
              decide (new.timestep ≤ s.client.latestAction) ||
                decide (action.timestep < new.timestep)
      | _ => true
  | _ => true

/-! ## Increasing queues -/

def Increasing (actions : List (TimedAction A)) : Prop :=
  actions.Pairwise fun a b => a.timestep < b.timestep

private theorem increasing_timeActionChunk (observation : TimedObservation) (actions : List A) :
    Increasing (timeActionChunk observation actions) := by
  have hindices : (actions.zipIdx.map Prod.snd).Pairwise (· < ·) := by
    rw [List.zipIdx_map_snd]
    exact List.pairwise_lt_range'
  have hentries := List.pairwise_map.mp hindices
  rw [Increasing, timeActionChunk, List.pairwise_map]
  refine hentries.imp fun hlt => ?_
  have hcast := Int.ofNat_lt.mpr hlt
  dsimp only
  omega

private theorem increasing_receiveActions {merge : A → A → A} {chunk : List (TimedAction A)}
    {c : ArmstrongRobotClient A} (h : Increasing chunk) :
    Increasing (c.receiveActions merge chunk).actionQueue := by
  simp only [Increasing, receiveActions, List.pairwise_map, mergeQueued_timestep]
  exact h.filter _

private theorem exists_of_mem_receiveActions {merge : A → A → A} {chunk : List (TimedAction A)}
    {c : ArmstrongRobotClient A} {queued : TimedAction A}
    (h : queued ∈ (c.receiveActions merge chunk).actionQueue) :
    ∃ new ∈ chunk, c.latestAction < new.timestep ∧ queued.timestep = new.timestep := by
  obtain ⟨new, hnew, rfl⟩ := List.mem_map.mp h
  obtain ⟨hmem, hlater⟩ := List.mem_filter.mp hnew
  exact ⟨new, hmem, of_decide_eq_true hlater, mergeQueued_timestep _ _ _⟩

/-! ## The invariant -/

/-- How far the executed timesteps can be, by the position of `control_loop_action`. -/
def Behind (latestAction : ℤ) (executed : List ℤ) : ActionThread A → Prop
  | .popped action => ∀ timestep ∈ executed, timestep ≤ latestAction ∧ timestep < action.timestep
  | .executed action => ∀ timestep ∈ executed, timestep ≤ action.timestep ∧
      (timestep ≤ latestAction ∨ timestep = action.timestep)
  | _ => ∀ timestep ∈ executed, timestep ≤ latestAction

structure Ordered (s : State A) : Prop where
  executed : (executedTimesteps s.log).Pairwise (· < ·)
  queue : Increasing s.client.actionQueue
  ahead : ∀ timestep ∈ executedTimesteps s.log, ∀ queued ∈ s.client.actionQueue,
    timestep < queued.timestep
  behind : Behind s.client.latestAction (executedTimesteps s.log) s.actionThread
  chunks : ∀ chunk ∈ s.chunks, Increasing chunk

private theorem ordered_initial : Ordered (State.initial : State A) where
  executed := .nil
  queue := .nil
  ahead := fun _ htimestep => absurd htimestep List.not_mem_nil
  behind := fun _ htimestep => absurd htimestep List.not_mem_nil
  chunks := fun _ hchunk => absurd hchunk List.not_mem_nil

private theorem behind_nil (latestAction : ℤ) (thread : ActionThread A) :
    Behind latestAction [] thread := by
  cases thread <;> exact fun _ htimestep => absurd htimestep List.not_mem_nil

section Steps

variable {s : State A} {action : TimedAction A}

theorem Ordered.pop {rest : List (TimedAction A)} (h : Ordered s)
    (hthread : s.actionThread = .checked) (hqueue : s.client.actionQueue = action :: rest) :
    Ordered { s with
      client := { s.client with actionQueue := rest }
      actionThread := .popped action } := by
  have hbehind := h.behind
  have hahead := h.ahead
  have hincreasing := h.queue
  rw [hthread] at hbehind
  rw [hqueue] at hahead hincreasing
  refine ⟨h.executed, (List.pairwise_cons.mp hincreasing).2, ?_, ?_, h.chunks⟩
  · exact fun timestep htimestep queued hqueued =>
      hahead timestep htimestep queued (List.mem_cons_of_mem _ hqueued)
  · exact fun timestep htimestep =>
      ⟨hbehind timestep htimestep, hahead timestep htimestep action List.mem_cons_self⟩

theorem Ordered.sendFailed (h : Ordered s) (hthread : s.actionThread = .popped action) :
    Ordered { s with actionThread := .idle, log := s.log ++ [.sent action false] } := by
  have hbehind := h.behind
  rw [hthread] at hbehind
  have hlog : executedTimesteps (s.log ++ [.sent action false]) = executedTimesteps s.log :=
    executedTimesteps_append_singleton _ _
  refine ⟨?_, h.queue, ?_, ?_, h.chunks⟩ <;> rw [hlog]
  · exact h.executed
  · exact h.ahead
  · exact fun timestep htimestep => (hbehind timestep htimestep).1

theorem Ordered.sendSucceeded (h : Ordered s) (hthread : s.actionThread = .popped action)
    (hlater : ∀ queued ∈ s.client.actionQueue, action.timestep < queued.timestep) :
    Ordered { s with
      actionThread := .executed action
      log := s.log ++ [.sent action true] } := by
  have hbehind := h.behind
  rw [hthread] at hbehind
  have hlog : executedTimesteps (s.log ++ [.sent action true]) =
      executedTimesteps s.log ++ [action.timestep] := executedTimesteps_append_singleton _ _
  refine ⟨?_, h.queue, ?_, ?_, h.chunks⟩ <;> rw [hlog]
  · rw [List.pairwise_append]
    refine ⟨h.executed, List.pairwise_singleton _ _, ?_⟩
    intro timestep htimestep last hlast
    obtain rfl := List.mem_singleton.mp hlast
    exact (hbehind timestep htimestep).2
  · intro timestep htimestep queued hqueued
    rcases List.mem_append.mp htimestep with htimestep | htimestep
    · exact h.ahead timestep htimestep queued hqueued
    · obtain rfl := List.mem_singleton.mp htimestep
      exact hlater queued hqueued
  · intro timestep htimestep
    rcases List.mem_append.mp htimestep with htimestep | htimestep
    · obtain ⟨hlatest, hlt⟩ := hbehind timestep htimestep
      exact ⟨hlt.le, Or.inl hlatest⟩
    · obtain rfl := List.mem_singleton.mp htimestep
      exact ⟨le_rfl, Or.inr rfl⟩

/-- A delivered chunk holds nothing that is new and not later than an executed action. -/
theorem Ordered.deliver {merge : A → A → A} {index : ℕ} {chunk : List (TimedAction A)}
    (h : Ordered s) (hchunk : s.chunks[index]? = some chunk)
    (hlater : ∀ new ∈ chunk, s.client.latestAction < new.timestep →
      ∀ timestep ∈ executedTimesteps s.log, timestep < new.timestep) :
    Ordered { s with
      client := s.client.receiveActions merge chunk
      chunks := s.chunks.eraseIdx index } where
  executed := h.executed
  queue := increasing_receiveActions (h.chunks chunk (List.mem_of_getElem? hchunk))
  ahead := fun timestep htimestep queued hqueued => by
    obtain ⟨new, hnew, hlatest, heq⟩ := exists_of_mem_receiveActions hqueued
    rw [heq]
    exact hlater new hnew hlatest timestep htimestep
  behind := h.behind
  chunks := fun other hother => h.chunks other (List.mem_of_mem_eraseIdx hother)

end Steps

variable [Field K] [LinearOrder K]
variable {merge : A → A → A} {config : RobotClientConfig K} {s t : State A}

/-- What the condition says about a delivery. -/
theorem later_of_keepsOrder {index : ℕ} {chunk : List (TimedAction A)} (h : Ordered s)
    (hchunk : s.chunks[index]? = some chunk) (hkeeps : keepsOrder s (.deliver index) = true) :
    ∀ new ∈ chunk, s.client.latestAction < new.timestep →
      ∀ timestep ∈ executedTimesteps s.log, timestep < new.timestep := by
  intro new hnew hlatest timestep htimestep
  have hbehind := h.behind
  cases hthread : s.actionThread with
  | idle | checked =>
    rw [hthread] at hbehind
    exact (hbehind timestep htimestep).trans_lt hlatest
  | popped action =>
    rw [hthread] at hbehind
    exact (hbehind timestep htimestep).1.trans_lt hlatest
  | executed action =>
    rw [hthread] at hbehind
    rcases (hbehind timestep htimestep).2 with hle | rfl
    · exact hle.trans_lt hlatest
    · simp only [keepsOrder, hthread, hchunk, Option.getD_some, Bool.or_eq_true,
        Bool.not_eq_true', List.contains_eq_mem, decide_eq_false_iff_not, List.all_eq_true,
        decide_eq_true_eq] at hkeeps
      have hnew := (hkeeps.resolve_left (not_not_intro htimestep)) new hnew
      exact hnew.resolve_left (not_le.mpr hlatest)

theorem Ordered.step {label : Label A} (h : Ordered s) (hkeeps : keepsOrder s label = true)
    (hstep : Transition merge config s label t) : Ordered t := by
  have hbehind := h.behind
  cases hstep with
  | popped hthread hqueue => exact h.pop hthread hqueue
  | @sent action hthread succeeded =>
    cases succeeded with
    | false => exact h.sendFailed hthread
    | true =>
      simp only [keepsOrder, hthread, List.all_eq_true, decide_eq_true_eq] at hkeeps
      exact h.sendSucceeded hthread hkeeps
  | recorded hthread =>
    rw [hthread] at hbehind
    exact ⟨h.executed, h.queue, h.ahead, fun timestep htimestep => (hbehind timestep htimestep).1,
      h.chunks⟩
  | captured hthread =>
    have hlog : executedTimesteps (s.log ++ [.captured s.captures]) = executedTimesteps s.log :=
      executedTimesteps_append_singleton _ _
    refine ⟨?_, h.queue, ?_, ?_, h.chunks⟩ <;> rw [hlog]
    · exact h.executed
    · exact h.ahead
    · exact hbehind
  | inferred hobservation actions =>
    refine ⟨h.executed, h.queue, h.ahead, hbehind, fun chunk hchunk => ?_⟩
    rcases List.mem_append.mp hchunk with hchunk | hchunk
    · exact h.chunks chunk hchunk
    · obtain rfl := List.mem_singleton.mp hchunk
      exact increasing_timeActionChunk _ _
  | delivered hchunk => exact h.deliver hchunk (later_of_keepsOrder h hchunk hkeeps)
  | queueCleared =>
    have hlog : executedTimesteps (s.log ++ [.reset]) = [] :=
      executedTimesteps_append_singleton _ _
    refine ⟨?_, .nil, ?_, ?_, h.chunks⟩ <;> simp only [State.sync, hlog]
    · exact .nil
    · exact fun _ htimestep => absurd htimestep List.not_mem_nil
    · exact behind_nil _ _
  | gateOpen hthread | queueEmpty hthread =>
    rw [hthread] at hbehind
    exact ⟨h.executed, h.queue, h.ahead, hbehind, h.chunks⟩
  | _ => exact ⟨h.executed, h.queue, h.ahead, hbehind, h.chunks⟩

/-- Between two resets every policy timestep is executed at most once and in increasing
order, in every run that keeps the order at sends and deliveries. -/
theorem executed_timesteps_increasing {labels : List (Label A)}
    (h : Run (Restricted (fun s label => keepsOrder s label = true) (Steps (next merge config)))
      State.initial labels s) :
    (executedTimesteps s.log).Pairwise (· < ·) := by
  have hs : Ordered s := h.invariant
    (fun _ _ _ hstep hs => hs.step hstep.1 (transition_of_next hstep.2)) ordered_initial
  exact hs.executed

/-! ## The condition is exact -/

/-- An action at the head of the queue that is not later than the one just sent is sent next. -/
theorem exists_disorder {sent queued : TimedAction A} {rest : List (TimedAction A)}
    (hthread : s.actionThread = .executed sent)
    (hexecuted : sent.timestep ∈ executedTimesteps s.log)
    (hqueue : s.client.actionQueue = queued :: rest) (hle : queued.timestep ≤ sent.timestep) :
    ∃ labels u, Run (Steps (next merge config)) s labels u ∧
      ¬(executedTimesteps u.log).Pairwise (· < ·) := by
  have hrun : execute (next merge config) s
      [.recordAction, .setGate true, .checkGate, .pop, .sendAction true] = some
        { s with
          client := { s.client with actionQueue := rest, latestAction := sent.timestep }
          status := { s.client with latestAction := sent.timestep }.policyQueueStatus config
          gate := true
          actionThread := .executed queued
          log := s.log ++ [.sent queued true] } := by
    simp [execute, next, nextAction, hthread, State.sync, hqueue]
  refine ⟨_, _, run_of_execute hrun, fun hordered => ?_⟩
  rw [executedTimesteps_append_singleton, recordEvent, List.pairwise_append] at hordered
  have hlt := hordered.2.2 sent.timestep hexecuted queued.timestep (List.mem_singleton_self _)
  exact absurd hle (not_le.mpr hlt)

private theorem exists_head_le {queue : List (TimedAction A)} {queued : TimedAction A}
    (h : Increasing queue) (hmem : queued ∈ queue) :
    ∃ first rest, queue = first :: rest ∧ first.timestep ≤ queued.timestep := by
  cases queue with
  | nil => exact absurd hmem List.not_mem_nil
  | cons first rest =>
    refine ⟨first, rest, rfl, ?_⟩
    rcases List.mem_cons.mp hmem with rfl | hmem
    · exact le_rfl
    · exact ((List.pairwise_cons.mp h).1 queued hmem).le

/-- Every step that fails the condition can be continued to a repeated or reordered timestep. -/
theorem exists_disorder_of_not_keepsOrder {label : Label A} (h : Ordered s)
    (hkeeps : keepsOrder s label = false) (hstep : next merge config s label = some t) :
    ∃ labels u, Run (Steps (next merge config)) t labels u ∧
      ¬(executedTimesteps u.log).Pairwise (· < ·) := by
  cases transition_of_next hstep with
  | @sent action hthread succeeded =>
    cases succeeded with
    | false => simp [keepsOrder] at hkeeps
    | true =>
      simp only [keepsOrder, hthread, List.all_eq_false, decide_eq_true_eq, not_lt] at hkeeps
      obtain ⟨queued, hmem, hle⟩ := hkeeps
      obtain ⟨first, rest, hqueue, hfirst⟩ := exists_head_le h.queue hmem
      refine exists_disorder rfl ?_ hqueue (hfirst.trans hle)
      exact (executedTimesteps_append_singleton s.log _).symm ▸ List.mem_append_right _
        (List.mem_singleton_self _)
  | @delivered index chunk hchunk =>
    cases hthread : s.actionThread with
    | executed action =>
      simp only [keepsOrder, hthread, hchunk, Option.getD_some, Bool.or_eq_false_iff,
        Bool.not_eq_false', List.contains_eq_mem, decide_eq_true_eq, List.all_eq_false,
        Bool.or_eq_true, not_or, not_le, not_lt] at hkeeps
      obtain ⟨hexecuted, new, hnew, hlatest, hle⟩ := hkeeps
      have hmem : mergeQueued merge s.client.actionQueue new ∈
          (s.client.receiveActions merge chunk).actionQueue :=
        List.mem_map_of_mem (List.mem_filter.mpr ⟨hnew, decide_eq_true hlatest⟩)
      obtain ⟨first, rest, hqueue, hfirst⟩ := exists_head_le
        (increasing_receiveActions (h.chunks chunk (List.mem_of_getElem? hchunk))) hmem
      rw [mergeQueued_timestep] at hfirst
      exact exists_disorder rfl hexecuted hqueue (hfirst.trans hle)
    | _ => simp [keepsOrder, hthread] at hkeeps
  | _ => simp [keepsOrder] at hkeeps

/-! ## Concrete runs -/

/-- A chunk executed while the next one arrives after the record. -/
theorem delivered_between_actions :
    ∃ s, execute (restrict (fun s label => keepsOrder s label = true) nextUnit) State.initial
        (requestChunk ++ [.infer 0 [(), ()], .deliver 0, .setGate true] ++ popAndSend ++
          [.recordAction] ++ requestChunk ++ [.infer 0 [(), ()], .deliver 0] ++ popAndSend ++
          [.recordAction]) = some s ∧
      (executedTimesteps s.log).Pairwise (· < ·) := by
  obtain ⟨s, hs, hrun⟩ := exists_restricted_run (fun s label => keepsOrder s label = true)
    nextUnit State.initial (requestChunk ++ [.infer 0 [(), ()], .deliver 0, .setGate true] ++
      popAndSend ++ [.recordAction] ++ requestChunk ++ [.infer 0 [(), ()], .deliver 0] ++
      popAndSend ++ [.recordAction]) (by decide +kernel)
  exact ⟨s, hs, executed_timesteps_increasing hrun⟩

/-- A chunk delivered between a send and its record repeats the action just sent. -/
theorem delivered_before_record :
    ∃ labels s, Run (Steps nextUnit) State.initial labels s ∧
      ¬(executedTimesteps s.log).Pairwise (· < ·) := by
  obtain ⟨s, hrun, hexecuted⟩ := exists_run_of_execute nextUnit State.initial
    (requestChunk ++ requestChunk ++ [.infer 0 [(), ()], .infer 0 [(), ()], .deliver 0,
      .setGate true] ++ popAndSend ++ [.deliver 0, .recordAction] ++ popAndSend)
    (fun s => decide (executedTimesteps s.log = [0, 0])) (by decide +kernel)
  refine ⟨_, s, hrun, ?_⟩
  rw [of_decide_eq_true hexecuted]
  decide

end SmolVlaQgf.ActionTimesteps
