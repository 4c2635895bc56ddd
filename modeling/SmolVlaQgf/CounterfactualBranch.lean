import Mathlib.Algebra.Order.Field.Basic
import Mathlib.Algebra.Order.Field.Rat
import Mathlib.Algebra.Order.Ring.Cast
import Mathlib.Tactic.IntervalCases
import SmolVlaQgf.Binary64
import SmolVlaQgf.BranchScores
import SmolVlaQgf.BreakingLoops
import SmolVlaQgf.ExactFloats
import SmolVlaQgf.FieldText
import SmolVlaQgf.StepInfos

/-!
# Counterfactual branches

A branch restores the snapshot, follows its prefix policy for a number of steps and then the tail
policy. The actions of the prefix are padded to the horizon of the critic before they are counted,
so a branch that ends early is charged for steps that the environment never executed.
-/

namespace SmolVlaQgf.CounterfactualBranch
open BranchScores BreakingLoops ExactFloats FieldText FloatRounding StepInfos

/-! ## The simulator -/

inductive BranchError where
  | valueError (message : Text)
  | indexError
  | typeError
  | stackError
  | simulatorError

/-- What `vec_env.step` returns for its only environment, or raises. -/
inductive StepAnswer (W O : Type) where
  | returned (observation : O) (terminated truncated : Bool) (info : StepInfo) (state : W)
  | raised (error : BranchError)

/-- The simulator with the policies and the generator, over one state. -/
structure Simulator (K W O P S : Type) where
  restoreSnapshot : S → W → Except BranchError (K × W)
  reset : P → W → W
  /-- The batch of `policy.select_action` on the preprocessed observation. -/
  selectAction : P → O → String → W → Except BranchError (List (List K) × W)
  /-- The two postprocessors. -/
  postprocess : List (List K) → Except BranchError (List (List K))
  /-- `rng.normal(0.0, noise_std, size)` -/
  normal : K → ℕ → W → Except BranchError (List K × W)
  step : W → List K → StepAnswer W O

/-- What the branches of one snapshot share. -/
structure Probe (K O P S : Type) where
  snapshot : S
  observation : O
  taskDescription : String
  tailPolicy : P
  prefixSteps : ℤ
  tailMaxSteps : ℤ
  noiseStd : K

structure Branch (P : Type) where
  name : String
  prefixPolicy : P

structure BranchRecord (K : Type) where
  branch : String
  restoreFlatMaxAbsDiff : K
  success : Bool
  prefixStepsExecuted : ℤ
  tailSteps : ℕ
  totalSteps : ℤ
  actionChunkEnv : List (List K)
  actionChunkPolicy : List (List K)

/-- The state of the simulator and the number of steps that it has executed. -/
structure Bench (W : Type) where
  state : W
  executed : ℕ

/-- The environment of a bench has executed one more step. -/
def Bench.stepped {W : Type} (bench : Bench W) (state : W) : Bench W :=
  ⟨state, bench.executed + 1⟩

/-- `_extract_success` -/
def extractSuccess (info : StepInfo) : Except BranchError Bool :=
  match info.finalInfo with
  | some (.dict (some (.array values))) => firstEntry .indexError values
  | some (.dict (some (.sequence values))) => firstEntry .indexError values
  | some (.dict (some (.arrayScalar _))) => .error .typeError
  | some (.dict (some (.scalar _))) => .error .typeError
  | _ =>
      match info.isSuccess with
      | some (.array values) => firstEntry .indexError values
      | some (.sequence values) => firstEntry .indexError values
      | some (.arrayScalar value) => .ok value
      | some (.scalar value) => .ok value
      | none => .ok false

/-- `success or _extract_success(info)` -/
def succeeds (success : Bool) (info : StepInfo) : Except BranchError Bool :=
  if success then .ok true else extractSuccess info

/-- `"terminated episode" in str(exc)` of a `ValueError`. -/
def IsTerminatedEpisode : BranchError → Prop
  | .valueError message => "terminated episode".toList <:+: message
  | _ => False

instance : DecidablePred IsTerminatedEpisode
  | .valueError message => inferInstanceAs (Decidable (_ <:+: message))
  | .indexError | .typeError | .stackError | .simulatorError => isFalse id

/-! ## The prefix -/

variable {K W O P S : Type}

/-- `_select_env_action`: the actions of the policy and of the environment. -/
def selectEnvAction (simulator : Simulator K W O P S) (policy : P) (observation : O)
    (taskDescription : String) (state : W) : Except BranchError (List K × List K × W) := do
  let (policyActions, state) ← simulator.selectAction policy observation taskDescription state
  let envActions ← simulator.postprocess policyActions
  let policyAction ← firstEntry .indexError policyActions
  let envAction ← firstEntry .indexError envActions
  return (policyAction, envAction, state)

/-- `_policy_action_to_env_action` -/
def policyActionToEnvAction (simulator : Simulator K W O P S) (policyAction : List K) :
    Except BranchError (List K) := do
  let envActions ← simulator.postprocess [policyAction]
  firstEntry .indexError envActions

structure PrefixState (K W O : Type) where
  bench : Bench W
  currentObs : O
  prefixActions : List (List K)
  prefixPolicyActions : List (List K)
  success : Bool
  terminatedAny : Bool

/-- The variables before the prefix loop, with `restore_diff`. -/
def prefixStart (simulator : Simulator K W O P S) (probe : Probe K O P S) (branch : Branch P)
    (state : W) : Except BranchError (K × PrefixState K W O) := do
  let (restoreDiff, state) ← simulator.restoreSnapshot probe.snapshot state
  return (restoreDiff, {
    bench := ⟨simulator.reset branch.prefixPolicy state, 0⟩
    currentObs := probe.observation
    prefixActions := []
    prefixPolicyActions := []
    success := false
    terminatedAny := false })

/-- The variables after a step that the environment has executed. -/
def PrefixState.executed (state : PrefixState K W O) (policyAction envAction : List K)
    (observation : O) (success ended : Bool) (world : W) : PrefixState K W O where
  bench := state.bench.stepped world
  currentObs := observation
  prefixActions := state.prefixActions ++ [envAction]
  prefixPolicyActions := state.prefixPolicyActions ++ [policyAction]
  success := success
  terminatedAny := state.terminatedAny || ended

def continuePrefix (state : PrefixState K W O) (policyAction envAction : List K) :
    StepAnswer W O → Except BranchError (ForInStep (PrefixState K W O))
  | .raised error =>
      if IsTerminatedEpisode error then .ok (.done { state with terminatedAny := true })
      else .error error
  | .returned observation terminated truncated info world => do
      let success ← succeeds state.success info
      let next :=
        state.executed policyAction envAction observation success (terminated || truncated) world
      return if next.terminatedAny then .done next else .yield next

section Prefix

variable [Field K] [LinearOrder K]

/-- `clamp(-1.0, 1.0)` -/
def clampUnit (action : List K) : List K :=
  action.map fun x => min (max x (-1)) 1

/-- The actions of a prefix step; those of the noisy branch are perturbed. -/
def prefixAction (simulator : Simulator K W O P S) (probe : Probe K O P S) (branch : Branch P)
    (observation : O) (state : W) : Except BranchError (List K × List K × W) := do
  let (policyAction, envAction, state) ←
    selectEnvAction simulator branch.prefixPolicy observation probe.taskDescription state
  if branch.name = "noisy" then
    let (noise, state) ← simulator.normal probe.noiseStd policyAction.length state
    let noisyPolicyAction := clampUnit (List.zipWith (· + ·) policyAction noise)
    let envAction ← policyActionToEnvAction simulator noisyPolicyAction
    return (noisyPolicyAction, envAction, state)
  else
    return (policyAction, envAction, state)

def prefixAnswer (simulator : Simulator K W O P S) (probe : Probe K O P S) (branch : Branch P)
    (state : PrefixState K W O) : Except BranchError (List K × List K × StepAnswer W O) := do
  let (policyAction, envAction, world) ←
    prefixAction simulator probe branch state.currentObs state.bench.state
  return (policyAction, envAction, simulator.step world envAction)

def prefixStep (simulator : Simulator K W O P S) (probe : Probe K O P S) (branch : Branch P)
    (state : PrefixState K W O) : Except BranchError (ForInStep (PrefixState K W O)) := do
  let (policyAction, envAction, answer) ← prefixAnswer simulator probe branch state
  continuePrefix state policyAction envAction answer

variable {simulator : Simulator K W O P S} {probe : Probe K O P S} {branch : Branch P}
  {s t : PrefixState K W O} {n : ℕ}

/-- The environment executes the step of the prefix in a state. -/
def Answered (simulator : Simulator K W O P S) (probe : Probe K O P S) (branch : Branch P)
    (s : PrefixState K W O) : Prop :=
  ∃ policyAction envAction observation terminated truncated info world,
    prefixAnswer simulator probe branch s =
      .ok (policyAction, envAction, .returned observation terminated truncated info world)

/-- A step of the prefix either ends it with the error of a terminated episode, or the environment
executes it. -/
theorem prefixStep_cases {step : ForInStep (PrefixState K W O)}
    (h : prefixStep simulator probe branch s = .ok step) :
    (¬Answered simulator probe branch s ∧ step = .done { s with terminatedAny := true }) ∨
      Answered simulator probe branch s ∧
        ∃ policyAction envAction observation success ended world,
          step = if s.terminatedAny || ended then
              .done (s.executed policyAction envAction observation success ended world)
            else .yield (s.executed policyAction envAction observation success ended world) := by
  obtain ⟨⟨policyAction, envAction, answer⟩, hanswer, hstep⟩ := bind_eq_ok_iff.mp h
  dsimp only at hstep
  cases answer with
  | raised error =>
    refine Or.inl ⟨?_, ?_⟩
    · rintro ⟨_, _, _, _, _, _, _, hreturned⟩
      rw [hanswer] at hreturned
      cases hreturned
    · by_cases hterminated : IsTerminatedEpisode error
      · rw [continuePrefix, if_pos hterminated] at hstep
        exact (Except.ok.inj hstep).symm
      · rw [continuePrefix, if_neg hterminated] at hstep
        cases hstep
  | returned observation terminated truncated info world =>
    refine Or.inr ⟨⟨_, _, _, _, _, _, _, hanswer⟩, policyAction, envAction, observation, ?_⟩
    obtain ⟨success, -, hnext⟩ := bind_eq_ok_iff.mp hstep
    exact ⟨success, terminated || truncated, world, (Except.ok.inj hnext).symm⟩

/-- The action lists have an entry for each executed step. -/
structure Recorded (s : PrefixState K W O) : Prop where
  env : s.prefixActions.length = s.bench.executed
  policy : s.prefixPolicyActions.length = s.bench.executed

omit [Field K] [LinearOrder K] in
theorem Recorded.executed (h : Recorded s) (policyAction envAction : List K) (observation : O)
    (success ended : Bool) (world : W) :
    Recorded (s.executed policyAction envAction observation success ended world) := by
  constructor
  · rw [PrefixState.executed, List.length_append, h.env]
    rfl
  · rw [PrefixState.executed, List.length_append, h.policy]
    rfl

private theorem prefixStep_recorded {step : ForInStep (PrefixState K W O)}
    (h : prefixStep simulator probe branch s = .ok step) (hs : Recorded s) :
    Recorded step.value := by
  obtain ⟨-, rfl⟩ | ⟨-, policyAction, envAction, observation, success, ended, world, rfl⟩ :=
    prefixStep_cases h
  · exact ⟨hs.env, hs.policy⟩
  · split_ifs
    · exact hs.executed _ _ _ _ _ _
    · exact hs.executed _ _ _ _ _ _

private theorem prefixStep_yield (h : prefixStep simulator probe branch s = .ok (.yield t)) :
    t.bench.executed = s.bench.executed + 1 := by
  obtain ⟨-, hstep⟩ | ⟨-, policyAction, envAction, observation, success, ended, world, hstep⟩ :=
    prefixStep_cases h
  · cases hstep
  · split_ifs at hstep
    cases hstep
    rfl

/-- A break counts a step if the environment has executed it. -/
theorem prefixStep_done (h : prefixStep simulator probe branch s = .ok (.done t)) :
    t.bench.executed ≤ s.bench.executed + 1 ∧
      (t.bench.executed = s.bench.executed + 1 ↔ Answered simulator probe branch s) := by
  obtain ⟨hnot, hstep⟩ |
    ⟨hanswered, policyAction, envAction, observation, success, ended, world, hstep⟩ :=
      prefixStep_cases h
  · cases hstep
    exact ⟨Nat.le_succ _, iff_of_false (Nat.succ_ne_self _).symm hnot⟩
  · split_ifs at hstep
    cases hstep
    exact ⟨le_refl _, iff_of_true rfl hanswered⟩

private theorem executed_le_of_loop (hloop : loop (prefixStep simulator probe branch) n s = .ok t) :
    t.bench.executed ≤ s.bench.executed + n :=
  loop_count_le (fun s => s.bench.executed) (fun h => (prefixStep_done h).1) prefixStep_yield
    hloop

private theorem executed_eq_iff_of_loop
    (hloop : loop (prefixStep simulator probe branch) n s = .ok t) :
    t.bench.executed = s.bench.executed + n ↔
      Lasts (prefixStep simulator probe branch) (Answered simulator probe branch) n s :=
  loop_count_eq_iff (fun s => s.bench.executed) (fun h => (prefixStep_done h).1)
    (fun h => (prefixStep_done h).2) prefixStep_yield hloop

end Prefix

/-! ## The tail -/

structure TailState (W O : Type) where
  bench : Bench W
  currentObs : O
  success : Bool
  tailSteps : ℕ

def continueTail (state : TailState W O) :
    StepAnswer W O → Except BranchError (ForInStep (TailState W O))
  | .raised error => if IsTerminatedEpisode error then .ok (.done state) else .error error
  | .returned observation terminated truncated info world => do
      let success ← succeeds state.success info
      let next : TailState W O :=
        ⟨state.bench.stepped world, observation, success, state.tailSteps + 1⟩
      return if success || terminated || truncated then .done next else .yield next

def tailStep (simulator : Simulator K W O P S) (probe : Probe K O P S) (state : TailState W O) :
    Except BranchError (ForInStep (TailState W O)) := do
  let (_, envAction, world) ← selectEnvAction simulator probe.tailPolicy state.currentObs
    probe.taskDescription state.bench.state
  continueTail state (simulator.step world envAction)

/-- The tail, after a prefix that has neither succeeded nor ended the episode. An iteration that
does not break counts one step, so the `while` loop is one of at most `tail_max_steps`. -/
def runTail (simulator : Simulator K W O P S) (probe : Probe K O P S)
    (prefixEnd : PrefixState K W O) : Except BranchError (TailState W O) :=
  let start : TailState W O := ⟨prefixEnd.bench, prefixEnd.currentObs, prefixEnd.success, 0⟩
  if !prefixEnd.success && !prefixEnd.terminatedAny then
    loop (tailStep simulator probe) probe.tailMaxSteps.toNat { start with
      bench := ⟨simulator.reset probe.tailPolicy prefixEnd.bench.state, prefixEnd.bench.executed⟩ }
  else .ok start

section Tail

variable {simulator : Simulator K W O P S} {probe : Probe K O P S} {s t : TailState W O}

/-- A tail step counts itself exactly if the environment has executed it. -/
theorem continueTail_executed {answer : StepAnswer W O} {step : ForInStep (TailState W O)}
    (h : continueTail s answer = .ok step) :
    step.value.bench.executed + s.tailSteps = s.bench.executed + step.value.tailSteps := by
  cases answer with
  | raised error =>
    by_cases hterminated : IsTerminatedEpisode error
    · rw [continueTail, if_pos hterminated] at h
      cases h
      rfl
    · rw [continueTail, if_neg hterminated] at h
      cases h
  | returned observation terminated truncated info world =>
    obtain ⟨success, -, hnext⟩ := bind_eq_ok_iff.mp h
    cases hnext
    split_ifs
    · simp only [ForInStep.value_done, Bench.stepped]
      omega
    · simp only [ForInStep.value_yield, Bench.stepped]
      omega

private theorem tailStep_executed {step : ForInStep (TailState W O)}
    (h : tailStep simulator probe s = .ok step) :
    step.value.bench.executed + s.tailSteps = s.bench.executed + step.value.tailSteps := by
  obtain ⟨⟨policyAction, envAction, world⟩, -, hstep⟩ := bind_eq_ok_iff.mp h
  exact continueTail_executed hstep

theorem runTail_executed {prefixEnd : PrefixState K W O}
    (h : runTail simulator probe prefixEnd = .ok t) :
    t.bench.executed = prefixEnd.bench.executed + t.tailSteps := by
  rw [runTail] at h
  split_ifs at h
  · apply loop_preserves
      (fun s => s.bench.executed = prefixEnd.bench.executed + s.tailSteps) _ h rfl
    intro s step hstep hs
    have hcount := tailStep_executed hstep
    omega
  · cases h
    rfl

end Tail

/-! ## The record -/

/-- `torch.stack` -/
def stack (actions : List (List K)) : Except BranchError (List (List K)) :=
  match actions with
  | [] => .error .stackError
  | first :: rest =>
      if rest.all fun action => action.length = first.length then .ok actions
      else .error .stackError

private theorem stack_eq_ok {actions chunk : List (List K)} (h : stack actions = .ok chunk) :
    chunk = actions ∧ actions ≠ [] := by
  cases actions with
  | nil => cases h
  | cons first rest =>
    rw [stack] at h
    split_ifs at h
    cases h
    exact ⟨rfl, List.cons_ne_nil _ _⟩

variable [Field K]

/-- One turn of the padding loop on a list of actions. -/
def padOnce (actions : List (List K)) : List (List K) :=
  actions ++ [match actions.getLast? with
    | some action => action.map fun _ => (0 : K)
    | none => List.replicate 7 (0 : K)]

private theorem length_padOnce_iterate (actions : List (List K)) (turns : ℕ) :
    (padOnce^[turns] actions).length = actions.length + turns := by
  induction turns with
  | zero => rfl
  | succ turns ih =>
    rw [Function.iterate_succ_apply', padOnce, List.length_append, ih]
    rfl

def branchRecord (probe : Probe K O P S) (branch : Branch P) (restoreDiff : K)
    (prefixEnd : PrefixState K W O) (tailEnd : TailState W O) :
    Except BranchError (BranchRecord K) := do
  let turns := probe.prefixSteps.toNat - prefixEnd.prefixActions.length
  let prefixActions := padOnce^[turns] prefixEnd.prefixActions
  let prefixPolicyActions := padOnce^[turns] prefixEnd.prefixPolicyActions
  let actionChunkEnv ← stack prefixActions
  let actionChunkPolicy ← stack prefixPolicyActions
  return {
    branch := branch.name
    restoreFlatMaxAbsDiff := restoreDiff
    success := tailEnd.success
    prefixStepsExecuted := min probe.prefixSteps prefixActions.length
    tailSteps := tailEnd.tailSteps
    totalSteps := min probe.prefixSteps prefixActions.length + tailEnd.tailSteps
    actionChunkEnv := actionChunkEnv
    actionChunkPolicy := actionChunkPolicy }

theorem branchRecord_counts {probe : Probe K O P S} {branch : Branch P} {restoreDiff : K}
    {prefixEnd : PrefixState K W O} {tailEnd : TailState W O} {record : BranchRecord K}
    (hle : prefixEnd.prefixActions.length ≤ probe.prefixSteps.toNat)
    (h : branchRecord probe branch restoreDiff prefixEnd tailEnd = .ok record) :
    0 < probe.prefixSteps ∧ record.prefixStepsExecuted = probe.prefixSteps ∧
      record.tailSteps = tailEnd.tailSteps ∧
      record.totalSteps = probe.prefixSteps + tailEnd.tailSteps := by
  obtain ⟨chunkEnv, henv, h⟩ := bind_eq_ok_iff.mp h
  obtain ⟨chunkPolicy, -, h⟩ := bind_eq_ok_iff.mp h
  have hpos := List.length_pos_of_ne_nil (stack_eq_ok henv).2
  have hpadded := length_padOnce_iterate prefixEnd.prefixActions
    (probe.prefixSteps.toNat - prefixEnd.prefixActions.length)
  have hmin : min probe.prefixSteps
      (padOnce^[probe.prefixSteps.toNat - prefixEnd.prefixActions.length]
        prefixEnd.prefixActions).length = probe.prefixSteps := by
    omega
  cases h
  refine ⟨by omega, hmin, rfl, ?_⟩
  dsimp only
  rw [hmin]

theorem branchRecord_chunks {probe : Probe K O P S} {branch : Branch P} {restoreDiff : K}
    {prefixEnd : PrefixState K W O} {tailEnd : TailState W O} {record : BranchRecord K}
    (hrecorded : Recorded prefixEnd) (hle : prefixEnd.bench.executed ≤ probe.prefixSteps.toNat)
    (h : branchRecord probe branch restoreDiff prefixEnd tailEnd = .ok record) :
    record.actionChunkEnv.length = probe.prefixSteps ∧
      record.actionChunkPolicy.length = probe.prefixSteps := by
  obtain ⟨chunkEnv, henv, h⟩ := bind_eq_ok_iff.mp h
  obtain ⟨chunkPolicy, hpolicy, h⟩ := bind_eq_ok_iff.mp h
  have hpos := List.length_pos_of_ne_nil (stack_eq_ok henv).2
  obtain rfl := (stack_eq_ok henv).1
  obtain rfl := (stack_eq_ok hpolicy).1
  cases h
  have hactions := hrecorded.env
  have hpolicyActions := hrecorded.policy
  simp only [length_padOnce_iterate] at hpos ⊢
  omega

/-- A branch that was evaluated, with the simulator after each phase. -/
structure BranchRun (K W : Type) where
  record : BranchRecord K
  afterPrefix : Bench W
  afterTail : Bench W

variable [LinearOrder K]

/-- The run of `_evaluate_branch`. -/
def branchRun (simulator : Simulator K W O P S) (probe : Probe K O P S) (branch : Branch P)
    (state : W) : Except BranchError (BranchRun K W) := do
  let (restoreDiff, start) ← prefixStart simulator probe branch state
  let prefixEnd ← loop (prefixStep simulator probe branch) probe.prefixSteps.toNat start
  let tailEnd ← runTail simulator probe prefixEnd
  let record ← branchRecord probe branch restoreDiff prefixEnd tailEnd
  return ⟨record, prefixEnd.bench, tailEnd.bench⟩

/-- `_evaluate_branch` -/
def evaluateBranch (simulator : Simulator K W O P S) (probe : Probe K O P S) (branch : Branch P)
    (state : W) : Except BranchError (BranchRecord K × W) :=
  (branchRun simulator probe branch state).map fun run => (run.record, run.afterTail.state)

def BranchRun.prefixExecuted (run : BranchRun K W) : ℕ := run.afterPrefix.executed

def BranchRun.tailExecuted (run : BranchRun K W) : ℕ :=
  run.afterTail.executed - run.afterPrefix.executed

def BranchRun.executed (run : BranchRun K W) : ℕ := run.prefixExecuted + run.tailExecuted

/-! ## The counts of the record -/

section Accounts

variable {simulator : Simulator K W O P S} {probe : Probe K O P S} {branch : Branch P} {state : W}
  {run : BranchRun K W}

/-- The environment executes every prefix step: none before the last ends the prefix. -/
def FullPrefix (simulator : Simulator K W O P S) (probe : Probe K O P S) (branch : Branch P)
    (state : W) : Prop :=
  ∃ restoreDiff start, prefixStart simulator probe branch state = .ok (restoreDiff, start) ∧
    Lasts (prefixStep simulator probe branch) (Answered simulator probe branch)
      probe.prefixSteps.toNat start

/-- The counts of the record are those of the executed steps. -/
structure Accounts (run : BranchRun K W) : Prop where
  prefixSteps : run.record.prefixStepsExecuted = run.prefixExecuted
  tailSteps : run.record.tailSteps = run.tailExecuted
  totalSteps : run.record.totalSteps = run.prefixExecuted + run.tailExecuted

theorem branchRun_cases (h : branchRun simulator probe branch state = .ok run) :
    ∃ restoreDiff start prefixEnd tailEnd,
      prefixStart simulator probe branch state = .ok (restoreDiff, start) ∧
      start.bench.executed = 0 ∧ Recorded prefixEnd ∧
      loop (prefixStep simulator probe branch) probe.prefixSteps.toNat start = .ok prefixEnd ∧
      runTail simulator probe prefixEnd = .ok tailEnd ∧
      branchRecord probe branch restoreDiff prefixEnd tailEnd = .ok run.record ∧
      run.afterPrefix = prefixEnd.bench ∧ run.afterTail = tailEnd.bench := by
  obtain ⟨⟨restoreDiff, start⟩, hstart, h⟩ := bind_eq_ok_iff.mp h
  obtain ⟨prefixEnd, hloop, h⟩ := bind_eq_ok_iff.mp h
  obtain ⟨tailEnd, htail, h⟩ := bind_eq_ok_iff.mp h
  obtain ⟨record, hrecord, h⟩ := bind_eq_ok_iff.mp h
  cases h
  have hinitial : start.bench.executed = 0 ∧ Recorded start := by
    obtain ⟨restored, -, hrest⟩ := bind_eq_ok_iff.mp hstart
    cases hrest
    exact ⟨rfl, ⟨rfl, rfl⟩⟩
  have hrecorded := loop_preserves Recorded prefixStep_recorded hloop hinitial.2
  exact ⟨restoreDiff, start, prefixEnd, tailEnd, hstart, hinitial.1, hrecorded, hloop, htail,
    hrecord, rfl, rfl⟩

/-- A record has an action for each prefix step, executed or not. -/
theorem branchRun_chunks (h : branchRun simulator probe branch state = .ok run) :
    run.record.actionChunkEnv.length = probe.prefixSteps ∧
      run.record.actionChunkPolicy.length = probe.prefixSteps := by
  obtain ⟨_, _, prefixEnd, _, -, hzero, hrecorded, hloop, -, hrecord, -, -⟩ := branchRun_cases h
  have hle := executed_le_of_loop hloop
  exact branchRecord_chunks hrecorded (by omega) hrecord

theorem branchRun_counts (h : branchRun simulator probe branch state = .ok run) :
    0 < probe.prefixSteps ∧ run.record.prefixStepsExecuted = probe.prefixSteps ∧
      run.record.tailSteps = run.tailExecuted ∧
      run.record.totalSteps = probe.prefixSteps + run.tailExecuted ∧
      (run.prefixExecuted = probe.prefixSteps.toNat ↔ FullPrefix simulator probe branch state) := by
  obtain ⟨restoreDiff, start, prefixEnd, tailEnd, hstart, hzero, hrecorded, hloop, htail, hrecord,
    hprefixEnd, htailEnd⟩ := branchRun_cases h
  have hle := executed_le_of_loop hloop
  have hfull := executed_eq_iff_of_loop hloop
  rw [hzero, Nat.zero_add] at hle hfull
  obtain ⟨hpos, hexecuted, htailSteps, htotal⟩ :=
    branchRecord_counts (hrecorded.env ▸ hle) hrecord
  have hcount : tailEnd.tailSteps = run.tailExecuted := by
    have htailExecuted := runTail_executed htail
    rw [BranchRun.tailExecuted, hprefixEnd, htailEnd]
    omega
  refine ⟨hpos, hexecuted, htailSteps.trans hcount, hcount ▸ htotal, ?_⟩
  rw [BranchRun.prefixExecuted, hprefixEnd, hfull]
  constructor
  · exact fun hlasts => ⟨restoreDiff, start, hstart, hlasts⟩
  · rintro ⟨otherDiff, other, hother, hlasts⟩
    cases hstart.symm.trans hother
    exact hlasts

/-- Whatever the environment does, the record counts the whole prefix as executed. -/
theorem evaluateBranch_prefixSteps {record : BranchRecord K} {state' : W}
    (h : evaluateBranch simulator probe branch state = .ok (record, state')) :
    record.prefixStepsExecuted = probe.prefixSteps ∧
      record.totalSteps = probe.prefixSteps + record.tailSteps := by
  rw [evaluateBranch] at h
  cases hrun : branchRun simulator probe branch state with
  | error error =>
    rw [hrun] at h
    cases h
  | ok run =>
    rw [hrun] at h
    cases h
    obtain ⟨-, hcount, htail, htotal, -⟩ := branchRun_counts hrun
    exact ⟨hcount, htail ▸ htotal⟩

/-- The record counts the executed steps exactly if the prefix was executed whole. -/
theorem accounts_iff_fullPrefix (h : branchRun simulator probe branch state = .ok run) :
    Accounts run ↔ FullPrefix simulator probe branch state := by
  obtain ⟨hpos, hcount, htail, htotal, hfull⟩ := branchRun_counts h
  rw [← hfull]
  constructor
  · intro haccounts
    have hexecuted := haccounts.prefixSteps
    omega
  · intro hexecuted
    exact ⟨by omega, htail, by omega⟩

end Accounts

/-! ## Scores -/

section Scores

variable [Rounding K]

/-- The score that `main` gives a branch. -/
def branchScore (probe : Probe K O P S) (stepBonus : K) (run : BranchRun K W) : PyFloat K :=
  scoreBranch run.record.success run.record.totalSteps probe.tailMaxSteps stepBonus

/-- Of two successful branches below the limit the one that executed fewer steps scores higher. -/
def FewerStepsScoreHigher (probe : Probe K O P S) (stepBonus : K) (fewer more : BranchRun K W) :
    Prop :=
  fewer.record.success = true → more.record.success = true → fewer.executed < more.executed →
    (more.executed : ℤ) < probe.tailMaxSteps →
    (branchScore probe stepBonus more).lt (branchScore probe stepBonus fewer) = true

structure ChargedForSteps (probe : Probe K O P S) (stepBonus : K) (first second : BranchRun K W) :
    Prop where
  first_accounts : Accounts first
  second_accounts : Accounts second
  first_higher : FewerStepsScoreHigher probe stepBonus first second
  second_higher : FewerStepsScoreHigher probe stepBonus second first

/-- The bonus is large enough for floats to tell the step counts of two successes apart. -/
def BonusResolves (probe : Probe K O P S) (stepBonus : K) (first second : BranchRun K W) : Prop :=
  first.record.success = true → second.record.success = true → first.executed ≠ second.executed →
    (first.executed : ℤ) < probe.tailMaxSteps → (second.executed : ℤ) < probe.tailMaxSteps →
      scoreBranch true first.executed probe.tailMaxSteps stepBonus ≠
        scoreBranch true second.executed probe.tailMaxSteps stepBonus

theorem branchScore_of_accounts {probe : Probe K O P S} {stepBonus : K} {run : BranchRun K W}
    (haccounts : Accounts run) (hsuccess : run.record.success = true) :
    branchScore probe stepBonus run =
      scoreBranch true run.executed probe.tailMaxSteps stepBonus := by
  rw [branchScore, hsuccess, haccounts.totalSteps, BranchRun.executed, Nat.cast_add]

/-- Branches that are charged for their steps get different scores for different counts. -/
theorem ChargedForSteps.bonusResolves {probe : Probe K O P S} {stepBonus : K}
    {first second : BranchRun K W} (h : ChargedForSteps probe stepBonus first second) :
    BonusResolves probe stepBonus first second := by
  intro hsuccess hother hne hlimit hlimit'
  rw [← branchScore_of_accounts h.first_accounts hsuccess,
    ← branchScore_of_accounts h.second_accounts hother]
  rcases Nat.lt_or_gt_of_ne hne with hlt | hlt
  · exact (PyFloat.ne_of_lt (h.first_higher hsuccess hother hlt hlimit')).symm
  · exact PyFloat.ne_of_lt (h.second_higher hother hsuccess hlt hlimit)

theorem BonusResolves.symm {probe : Probe K O P S} {stepBonus : K} {first second : BranchRun K W}
    (h : BonusResolves probe stepBonus first second) :
    BonusResolves probe stepBonus second first := by
  intro hsuccess hother hne hlimit hlimit'
  exact (h hother hsuccess hne.symm hlimit' hlimit).symm

variable [IsStrictOrderedRing K]

private theorem fewerStepsScoreHigher_of_accounts {probe : Probe K O P S} {stepBonus : K}
    {fewer more : BranchRun K W} (hbonus : 0 < stepBonus) (hfewer : Accounts fewer)
    (hmore : Accounts more) (hresolves : BonusResolves probe stepBonus fewer more) :
    FewerStepsScoreHigher probe stepBonus fewer more := by
  intro hsuccess hother hlt hlimit
  have hne := hresolves hsuccess hother hlt.ne (by omega) hlimit
  rw [branchScore_of_accounts hfewer hsuccess, branchScore_of_accounts hmore hother]
  exact PyFloat.lt_of_le_of_ne
    (scoreBranch_antitone hbonus.le (Int.natCast_nonneg _) (by omega) _) hne.symm

theorem bonusResolves_of_ample {probe : Probe K O P S} {stepBonus : K}
    (hample : AmpleBonus probe.tailMaxSteps stepBonus) (hbonus : 0 ≤ stepBonus)
    (first second : BranchRun K W) : BonusResolves probe stepBonus first second := by
  intro _ _ hne hlimit hlimit'
  rcases Nat.lt_or_gt_of_ne hne with hlt | hlt
  · exact (PyFloat.ne_of_lt (hample.scoreBranch_lt hbonus (Int.natCast_nonneg first.executed)
      (Int.ofNat_lt.mpr hlt) hlimit'.le)).symm
  · exact PyFloat.ne_of_lt (hample.scoreBranch_lt hbonus (Int.natCast_nonneg second.executed)
      (Int.ofNat_lt.mpr hlt) hlimit.le)

/-- Branches are charged for the steps they took exactly if their prefixes were executed whole and
the bonus tells their step counts apart, as an ample one does. -/
theorem chargedForSteps_iff {simulator : Simulator K W O P S} {probe : Probe K O P S}
    {first second : Branch P} {state state' : W} {run run' : BranchRun K W} {stepBonus : K}
    (hfirst : branchRun simulator probe first state = .ok run)
    (hsecond : branchRun simulator probe second state' = .ok run') (hbonus : 0 < stepBonus) :
    (ChargedForSteps probe stepBonus run run' ↔
      FullPrefix simulator probe first state ∧ FullPrefix simulator probe second state' ∧
        BonusResolves probe stepBonus run run') ∧
      (AmpleBonus probe.tailMaxSteps stepBonus →
        (ChargedForSteps probe stepBonus run run' ↔
          FullPrefix simulator probe first state ∧ FullPrefix simulator probe second state')) := by
  have hcharged : ChargedForSteps probe stepBonus run run' ↔
      FullPrefix simulator probe first state ∧ FullPrefix simulator probe second state' ∧
        BonusResolves probe stepBonus run run' := by
    rw [← accounts_iff_fullPrefix hfirst, ← accounts_iff_fullPrefix hsecond]
    constructor
    · exact fun hcharged =>
        ⟨hcharged.first_accounts, hcharged.second_accounts, hcharged.bonusResolves⟩
    · rintro ⟨haccounts, haccounts', hresolves⟩
      exact ⟨haccounts, haccounts',
        fewerStepsScoreHigher_of_accounts hbonus haccounts haccounts' hresolves,
        fewerStepsScoreHigher_of_accounts hbonus haccounts' haccounts hresolves.symm⟩
  refine ⟨hcharged, fun hample => hcharged.trans ⟨fun h => ⟨h.1, h.2.1⟩, fun h => ?_⟩⟩
  exact ⟨h.1, h.2, bonusResolves_of_ample hample hbonus.le run run'⟩

end Scores

/-! ## Two branches that succeed early -/

/-- A policy of `n` ends the episode with a success at its `n`th step. -/
def countdownSimulator : Simulator ℚ ℕ Unit ℕ Unit where
  restoreSnapshot _ remaining := .ok (0, remaining)
  reset needed _ := needed
  selectAction _ _ _ remaining := .ok ([[1]], remaining)
  postprocess actions := .ok actions
  normal _ size remaining := .ok (List.replicate size 0, remaining)
  step remaining _ :=
    .returned () (remaining ≤ 1) false ⟨none, some (.sequence [decide (remaining ≤ 1)])⟩
      (remaining - 1)

def countdownProbe (prefixSteps : ℤ) : Probe ℚ Unit ℕ Unit :=
  ⟨(), (), "count down", 1, prefixSteps, 5, 0⟩

private theorem ampleBonus_sixteenth : AmpleBonus 5 (1 / 16 : ℚ) where
  counts := by
    intro steps h hle
    interval_cases steps <;> decide +kernel
  bonus := by decide +kernel
  inRange := ⟨2, by decide +kernel, by norm_num⟩
  aboveError := by decide +kernel

theorem one_step_prefixes_charged :
    ∃ run run', branchRun countdownSimulator (countdownProbe 1) ⟨"qgf", 1⟩ 0 = .ok run ∧
      branchRun countdownSimulator (countdownProbe 1) ⟨"baseline", 2⟩ 0 = .ok run' ∧
      ChargedForSteps (countdownProbe 1) (1 / 16) run run' := by
  obtain ⟨run, hrun⟩ : ∃ run,
      branchRun countdownSimulator (countdownProbe 1) ⟨"qgf", 1⟩ 0 = .ok run := ⟨_, rfl⟩
  obtain ⟨run', hrun'⟩ : ∃ run,
      branchRun countdownSimulator (countdownProbe 1) ⟨"baseline", 2⟩ 0 = .ok run := ⟨_, rfl⟩
  refine ⟨run, run', hrun, hrun',
    ((chargedForSteps_iff hrun hrun' (by norm_num)).2 ampleBonus_sixteenth).mpr ⟨?_, ?_⟩⟩
  · exact ⟨_, _, rfl, .last ⟨_, _, _, _, _, _, _, rfl⟩⟩
  · exact ⟨_, _, rfl, .last ⟨_, _, _, _, _, _, _, rfl⟩⟩

/-- Two branches that take one and two of three prefix steps are both charged for three, and score
the same. -/
theorem early_successes_charged_alike :
    ∃ run run', branchRun countdownSimulator (countdownProbe 3) ⟨"qgf", 1⟩ 0 = .ok run ∧
      branchRun countdownSimulator (countdownProbe 3) ⟨"baseline", 2⟩ 0 = .ok run' ∧
      (∀ stepBonus, ¬FewerStepsScoreHigher (countdownProbe 3) stepBonus run run') ∧
      ∀ stepBonus, ¬ChargedForSteps (countdownProbe 3) stepBonus run run' := by
  refine ⟨_, _, rfl, rfl, fun stepBonus h => ?_, fun stepBonus h => ?_⟩
  · have hlt := h rfl rfl (by decide) (by decide)
    exact PyFloat.ne_of_lt hlt rfl
  · have hcount := h.first_accounts.prefixSteps
    revert hcount
    decide

end SmolVlaQgf.CounterfactualBranch
