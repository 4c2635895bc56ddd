import Mathlib.Data.List.ProdSigma
import SmolVlaQgf.CounterfactualSplit
import SmolVlaQgf.ProbedGroups

/-!
# What a ranking pair compares

`train_counterfactual_mixed_critic.py` reads the files of several probes and compares the samples of
equal group names. A pair from one file compares two branches of one snapshot; a pair from two files
compares branches of two snapshots that were taken at the same step of episodes of the same number.
-/

namespace SmolVlaQgf.RankedSnapshots
open BranchScores CounterfactualBranch CounterfactualSplit ExactFloats FieldText FloatRounding
  OrderedTables ProbeCollection ProbedGroups

variable {K W O P S E : Type}

/-! ## Loading -/

/-- A sample of `_load_counterfactual_samples`. -/
structure LoadedSample (K : Type) where
  groupId : Text
  branch : String
  score : PyFloat K
  target : PyFloat K
  success : Bool
  obsFeature : List K
  actionChunk : List (List K)

def LoadedSample.cfSample (sample : LoadedSample K) : CfSample K :=
  ⟨String.ofList sample.groupId, sample.score⟩

/-- `sample[action_key]` where it is a matrix. -/
def actionChunk (actionKey : String) (record : ProbeRecord K) : Option (List (List K)) :=
  if actionKey = "action_chunk_env" then some record.result.actionChunkEnv
  else if actionKey = "action_chunk_policy" then some record.result.actionChunkPolicy
  else none

def loadedSample [Field K] [LinearOrder K] (actionKey : String) (actionHorizon : ℤ)
    (record : ProbeRecord K) : Option (LoadedSample K) :=
  match actionChunk actionKey record with
  | none => none
  | some chunk =>
      if (chunk.length : ℤ) = actionHorizon then
        some {
          groupId := record.groupId
          branch := record.result.branch
          score := record.score
          target := (PyFloat.finite 0).max ((PyFloat.finite 1).min record.score)
          success := record.result.success
          obsFeature := record.obsFeature
          actionChunk := chunk }
      else none

/-- `_load_counterfactual_samples` on the payloads of the files; the second part is `skipped`. -/
def loadCounterfactualSamples [Field K] [LinearOrder K] (actionKey : String) (actionHorizon : ℤ)
    (files : List (List (ProbeRecord K))) : List (LoadedSample K) × ℕ :=
  (files.flatten.filterMap (loadedSample actionKey actionHorizon),
    files.flatten.countP fun record => (loadedSample actionKey actionHorizon record).isNone)

/-- The samples as `_build_ranking_pairs` reads them. -/
def cfSamples [Field K] [LinearOrder K] (actionKey : String) (actionHorizon : ℤ)
    (files : List (List (ProbeRecord K))) : List (CfSample K) :=
  (loadCounterfactualSamples actionKey actionHorizon files).1.map LoadedSample.cfSample

/-! ## Directories of probes -/

/-- A run of `counterfactual_probe.py`. -/
structure ProbeRun (K W O P S E : Type) where
  envs : Environments K W O P S E
  args : ProbeArgs K
  tasks : List (Text × List (ℤ × E))
  distinct : DistinctTasks tasks
  world : W

section Directories

variable [Field K] [LinearOrder K] [Rounding K]

/-- The run of the script where its output directory holds a file. -/
def ProbeRun.outcome (run : ProbeRun K W O P S E) (samplesFile : Option (List (ProbeRecord K))) :
    Except BranchError Unit × ProbeState K W :=
  probeMain run.envs run.args run.tasks run.world samplesFile

/-- `counterfactual_samples.pt` after several runs with one output directory. -/
def directoryFile (runs : List (ProbeRun K W O P S E)) : Option (List (ProbeRecord K)) :=
  runs.foldl (fun samplesFile run => (run.outcome samplesFile).2.samplesFile) none

def SavedBy (saved : List (ProbeRecord K)) (run : ProbeRun K W O P S E) : Prop :=
  ∃ samplesFile, saved <+: (run.outcome samplesFile).2.records

private theorem savedBy_of_outcome {run : ProbeRun K W O P S E}
    {samplesFile : Option (List (ProbeRecord K))}
    {saved : List (ProbeRecord K)} (h : (run.outcome samplesFile).2.samplesFile = some saved) :
    samplesFile = some saved ∨ SavedBy saved run := by
  obtain ⟨groups, jobs, hrun⟩ :=
    probeMain_recorded run.envs run.args run.distinct run.world samplesFile
  cases hreturned : (run.outcome samplesFile).1.isOk with
  | true =>
    right
    have hfile := hrun.file hreturned
    rw [ProbeRun.outcome, hfile] at h
    exact ⟨samplesFile, Option.some.inj h ▸ List.prefix_rfl⟩
  | false =>
    obtain ⟨hsame, -⟩ | ⟨last, hlast, hsaves, -⟩ := hrun.fileAfterError hreturned
    · exact .inl (hsame.symm.trans h)
    · right
      obtain rfl : last = saved := Option.some.inj (hlast.symm.trans h)
      exact ⟨samplesFile, hsaves⟩

private theorem savedBy_of_foldl {runs : List (ProbeRun K W O P S E)} {saved : List (ProbeRecord K)}
    (samplesFile : Option (List (ProbeRecord K)))
    (h : runs.foldl (fun samplesFile run => (run.outcome samplesFile).2.samplesFile) samplesFile =
      some saved) : samplesFile = some saved ∨ ∃ run ∈ runs, SavedBy saved run := by
  induction runs generalizing samplesFile with
  | nil => exact .inl h
  | cons run runs ih =>
    rcases ih _ h with hfile | ⟨other, hother, hsaved⟩
    · exact (savedBy_of_outcome hfile).imp_right fun hsaved => ⟨run, List.mem_cons_self, hsaved⟩
    · exact .inr ⟨other, List.mem_cons_of_mem _ hother, hsaved⟩

theorem savedBy_of_directoryFile {runs : List (ProbeRun K W O P S E)}
    {saved : List (ProbeRecord K)} (h : directoryFile runs = some saved) :
    ∃ run ∈ runs, SavedBy saved run := by
  rcases savedBy_of_foldl none h with hnone | hsaved
  · cases hnone
  · exact hsaved

/-! ## Records and their branches -/

/-- A record is of a branch of a group that a run has taken. -/
structure BranchOf (run : ProbeRun K W O P S E) (group : Group K O P S E) (branch : Branch P)
    (record : ProbeRecord K) : Prop where
  taken : Taken run.envs run.args group
  mem : branch ∈ branches run.envs
  probed : Probed run.envs run.args (group, branch) record

variable {run : ProbeRun K W O P S E} {group : Group K O P S E} {branch : Branch P}
  {record record' : ProbeRecord K} {saved : List (ProbeRecord K)}

theorem BranchOf.key (h : BranchOf run group branch record) : record.key = group.key := by
  obtain ⟨world, result, after, -, rfl⟩ := h.probed
  rfl

theorem BranchOf.groupId (h : BranchOf run group branch record) :
    record.groupId = record.key.groupId := by
  obtain ⟨world, result, after, -, rfl⟩ := h.probed
  rfl

theorem BranchOf.exists_run (h : BranchOf run group branch record) :
    ∃ world evaluated, branchRun (run.envs.simulator group.env) group.probe branch world =
      .ok evaluated ∧ record = recordOf run.args group evaluated.record := by
  obtain ⟨world, result, after, hevaluated, rfl⟩ := h.probed
  rw [evaluateBranch] at hevaluated
  cases hrun : branchRun (run.envs.simulator group.env) group.probe branch world with
  | error error =>
    rw [hrun] at hevaluated
    cases hevaluated
  | ok evaluated =>
    rw [hrun] at hevaluated
    cases hevaluated
    exact ⟨world, evaluated, hrun, rfl⟩

theorem BranchOf.name (h : BranchOf run group branch record) :
    record.result.branch = branch.name := by
  obtain ⟨world, evaluated, hrun, rfl⟩ := h.exists_run
  obtain ⟨_, _, _, _, -, -, -, -, -, hrecord, -, -⟩ := branchRun_cases hrun
  obtain ⟨chunkEnv, -, hrecord⟩ := bind_eq_ok_iff.mp hrecord
  obtain ⟨chunkPolicy, -, hrecord⟩ := bind_eq_ok_iff.mp hrecord
  exact (congrArg BranchRecord.branch (Except.ok.inj hrecord)).symm

/-- The chunks of a record have an action for each prefix step of its run. -/
theorem BranchOf.chunk_length (h : BranchOf run group branch record) {actionKey : String}
    {chunk : List (List K)} (hchunk : actionChunk actionKey record = some chunk) :
    chunk.length = run.args.prefixSteps := by
  obtain ⟨episode, step, snapshot, observation, batch, rfl, -⟩ := h.taken
  obtain ⟨world, evaluated, hrun, rfl⟩ := h.exists_run
  obtain ⟨henv, hpolicy⟩ := branchRun_chunks hrun
  rw [actionChunk] at hchunk
  split_ifs at hchunk
  · cases hchunk
    exact henv
  · cases hchunk
    exact hpolicy

private theorem exists_mem_of_forall₂ {α β : Type} {rel : α → β → Prop} {as : List α} {bs : List β}
    (h : List.Forall₂ rel as bs) {b : β} (hb : b ∈ bs) : ∃ a ∈ as, rel a b := by
  induction h with
  | nil => cases hb
  | cons hrel _ ih =>
    rcases List.mem_cons.mp hb with rfl | hb
    · exact ⟨_, List.mem_cons_self, hrel⟩
    · obtain ⟨a, ha, hrel⟩ := ih hb
      exact ⟨a, List.mem_cons_of_mem _ ha, hrel⟩

private theorem map_eq_of_forall₂ {α β γ : Type} {rel : α → β → Prop} {as : List α} {bs : List β}
    {f : α → γ} {g : β → γ} (h : List.Forall₂ rel as bs)
    (hsame : ∀ a ∈ as, ∀ b, rel a b → g b = f a) : bs.map g = as.map f := by
  induction h with
  | nil => rfl
  | cons hrel _ ih =>
    rw [List.map_cons, List.map_cons, hsame _ List.mem_cons_self _ hrel,
      ih fun a ha => hsame a (List.mem_cons_of_mem _ ha)]

abbrev RecordsOf (run : ProbeRun K W O P S E) (samplesFile : Option (List (ProbeRecord K)))
    (groups : List (Group K O P S E)) (jobs : List (Job K O P S E)) : Prop :=
  RecordedRun run.envs run.args run.tasks samplesFile (run.outcome samplesFile) groups jobs

section Recorded

variable {samplesFile : Option (List (ProbeRecord K))} {groups : List (Group K O P S E)}
  {jobs : List (Job K O P S E)}

private theorem branchOf_of_job (h : RecordsOf run samplesFile groups jobs) {job : Job K O P S E}
    (hjob : job ∈ jobs) : job.1 ∈ groups ∧ ∀ record, Probed run.envs run.args job record →
      BranchOf run job.1 job.2 record := by
  obtain ⟨group, hgroup, hmem⟩ := List.mem_flatMap.mp (h.extended.inOrder.mem hjob)
  obtain ⟨branch, hbranch, rfl⟩ := List.mem_map.mp hmem
  exact ⟨hgroup, fun record hprobed => ⟨h.extended.taken group hgroup, hbranch, hprobed⟩⟩

theorem names_of_records (h : RecordsOf run samplesFile groups jobs) :
    ((run.outcome samplesFile).2.records.map fun record => (record.key, record.result.branch)) =
      jobs.map fun job => (job.1.key, job.2.name) := by
  apply map_eq_of_forall₂ h.extended.probed
  intro job hmem record hprobed
  have hbranch := (branchOf_of_job h hmem).2 record hprobed
  rw [hbranch.key, hbranch.name]

omit [Field K] [LinearOrder K] [Rounding K] in
private theorem names_of_allJobs (envs : Environments K W O P S E)
    (groups : List (Group K O P S E)) :
    (allJobs envs groups).map (fun job => (job.1.key, job.2.name)) =
      groups.map Group.key ×ˢ ["baseline", "qgf", "noisy"] := by
  simp [allJobs, branches, SProd.sprod, List.product, List.map_flatMap, List.flatMap_map]

end Recorded

/-- The groups of a run whose records a file holds, each with its own key. -/
theorem SavedBy.groups (h : SavedBy saved run) : ∃ groups : List (Group K O P S E),
    (groups.map Group.key).Nodup ∧
      (∀ record ∈ saved, ∃ group ∈ groups, ∃ branch, BranchOf run group branch record) ∧
      (saved.map fun record => (record.key, record.result.branch)).Nodup := by
  obtain ⟨samplesFile, hsaved⟩ := h
  obtain ⟨groups, jobs, hrun⟩ :=
    probeMain_recorded run.envs run.args run.distinct run.world samplesFile
  refine ⟨groups, hrun.extended.distinct, ?_, ?_⟩
  · intro record hrecord
    obtain ⟨job, hmem, hprobed⟩ :=
      exists_mem_of_forall₂ hrun.extended.probed (hsaved.mem hrecord)
    obtain ⟨hgroup, hbranch⟩ := branchOf_of_job hrun hmem
    exact ⟨job.1, hgroup, job.2, hbranch record hprobed⟩
  · have hnodup := hrun.extended.distinct.product
      (by decide : ["baseline", "qgf", "noisy"].Nodup)
    rw [← names_of_allJobs run.envs] at hnodup
    have hjobs :=
      (hrun.extended.inOrder.map fun job => (job.1.key, job.2.name)).sublist.nodup hnodup
    rw [← names_of_records hrun] at hjobs
    exact (hsaved.map _).sublist.nodup hjobs

/-- Two records of one file with one name are of one snapshot. -/
theorem SavedBy.sameSnapshot (h : SavedBy saved run) (hrecord : record ∈ saved)
    (hrecord' : record' ∈ saved) (hkey : record.key = record'.key) :
    ∃ group branch branch', BranchOf run group branch record ∧
      BranchOf run group branch' record' ∧ (branch.name = branch'.name → record = record') := by
  obtain ⟨groups, hdistinct, hgroups, hnodup⟩ := h.groups
  obtain ⟨group, hgroup, branch, hbranch⟩ := hgroups record hrecord
  obtain ⟨group', hgroup', branch', hbranch'⟩ := hgroups record' hrecord'
  obtain rfl : group = group' := List.inj_on_of_nodup_map hdistinct hgroup hgroup'
    (hbranch.key.symm.trans (hkey.trans hbranch'.key))
  refine ⟨group, branch, branch', hbranch, hbranch', fun hname => ?_⟩
  apply List.inj_on_of_nodup_map hnodup hrecord hrecord'
  rw [hkey, hbranch.name, hbranch'.name, hname]

structure Sampled (run : ProbeRun K W O P S E) (samplesFile : Option (List (ProbeRecord K)))
    (groups : List (Group K O P S E)) : Prop where
  distinct : (groups.map fun group => group.key.groupId).Nodup
  taken : ∀ group ∈ groups, Taken run.envs run.args group
  inOrder : ((run.outcome samplesFile).2.records.map fun record =>
      (record.groupId, record.result.branch)) <+:
    (groups.map fun group => group.key.groupId) ×ˢ ["baseline", "qgf", "noisy"]
  finished : (run.outcome samplesFile).1.isOk = true →
    (run.outcome samplesFile).2.records.length = 3 * groups.length ∧
      (run.outcome samplesFile).2.samplesFile = some (run.outcome samplesFile).2.records
  failed : (run.outcome samplesFile).1.isOk = false →
    Kept run.args samplesFile (run.outcome samplesFile).2

/-- Two samples of one group make a pair if one scores higher. -/
theorem mem_rankingPairs_iff {samples : List (CfSample K)} {margin : PyFloat K}
    {pair : RankingPair} : pair ∈ rankingPairs samples margin ↔
      (samples[pair.good]?).map CfSample.groupId = some pair.groupId ∧
        (samples[pair.bad]?).map CfSample.groupId = some pair.groupId ∧
          ranksAbove samples margin pair.good pair.bad = true := by
  have hmember : ∀ {name : String} {members : List ℕ}, (name, members) ∈ cfGroups samples →
      ∀ index, index ∈ members ↔ (samples[index]?).map CfSample.groupId = some name := by
    intro name members hgroup index
    rw [group_eq hgroup, ← mem_indexedGroups, List.mem_map]
    constructor
    · rintro ⟨⟨position, groupId⟩, hentry, rfl⟩
      obtain ⟨hmem, hname⟩ := List.mem_filter.mp hentry
      obtain rfl : groupId = name := by simpa using hname
      exact hmem
    · intro hmem
      exact ⟨(index, name), List.mem_filter.mpr ⟨hmem, by simp⟩, rfl⟩
  constructor
  · intro h
    obtain ⟨⟨name, members⟩, hgroup, hmem⟩ := List.mem_flatMap.mp h
    obtain ⟨good, hgood, hmem⟩ := List.mem_flatMap.mp hmem
    obtain ⟨bad, hbad, rfl⟩ := List.mem_map.mp hmem
    obtain ⟨hbad, habove⟩ := List.mem_filter.mp hbad
    exact ⟨(hmember hgroup good).mp hgood, (hmember hgroup bad).mp hbad, habove⟩
  · rintro ⟨hgood, hbad, habove⟩
    have hkey : pair.groupId ∈ (cfGroups samples).map Prod.fst := by
      rw [cfGroups, mem_keys_groupEntries, List.mem_map]
      exact ⟨_, mem_indexedGroups.mpr hgood, rfl⟩
    obtain ⟨⟨name, members⟩, hgroup, hname⟩ := List.mem_map.mp hkey
    obtain rfl : name = pair.groupId := hname
    refine List.mem_flatMap.mpr ⟨_, hgroup, List.mem_flatMap.mpr ⟨pair.good,
      (hmember hgroup _).mpr hgood, List.mem_map.mpr ⟨pair.bad, ?_, rfl⟩⟩⟩
    exact List.mem_filter.mpr ⟨(hmember hgroup _).mpr hbad, habove⟩

def keptRecords (actionKey : String) (actionHorizon : ℤ) (files : List (List (ProbeRecord K))) :
    List (ProbeRecord K) :=
  files.flatten.filter fun record => (loadedSample actionKey actionHorizon record).isSome

omit [Rounding K] in
private theorem cfSamples_eq (actionKey : String) (actionHorizon : ℤ)
    (files : List (List (ProbeRecord K))) :
    cfSamples actionKey actionHorizon files = (keptRecords actionKey actionHorizon files).map
      fun record => ⟨String.ofList record.groupId, record.score⟩ := by
  rw [cfSamples, keptRecords, loadCounterfactualSamples]
  induction files.flatten with
  | nil => rfl
  | cons record records ih =>
    cases hsample : loadedSample actionKey actionHorizon record with
    | none =>
      rw [List.filterMap_cons_none hsample, ih, List.filter_cons_of_neg]
      simp [hsample]
    | some sample =>
      rw [List.filterMap_cons_some hsample, List.filter_cons_of_pos, List.map_cons, List.map_cons,
        ih]
      · rw [loadedSample] at hsample
        cases hchunk : actionChunk actionKey record with
        | none =>
          rw [hchunk] at hsample
          cases hsample
        | some chunk =>
          rw [hchunk] at hsample
          dsimp only at hsample
          split_ifs at hsample
          cases hsample
          rfl
      · simp [hsample]

/-- A kept record is of a run with as many prefix steps as the horizon. -/
theorem prefixSteps_of_kept {actionKey : String} {actionHorizon : ℤ}
    (h : BranchOf run group branch record)
    (hkept : (loadedSample actionKey actionHorizon record).isSome) :
    run.args.prefixSteps = actionHorizon := by
  rw [loadedSample] at hkept
  cases hchunk : actionChunk actionKey record with
  | none =>
    rw [hchunk] at hkept
    cases hkept
  | some chunk =>
    rw [hchunk] at hkept
    dsimp only at hkept
    split_ifs at hkept with hlength
    · exact (h.chunk_length hchunk).symm.trans hlength
    · cases hkept

/-! ## Scores of a snapshot -/

section Scores

theorem BranchOf.score (h : BranchOf run group branch record) :
    record.score = scoreBranch record.result.success record.result.totalSteps
      group.probe.tailMaxSteps run.args.scoreStepBonus := by
  obtain ⟨world, evaluated, -, rfl⟩ := h.exists_run
  rfl

theorem BranchOf.totalSteps_nonneg (h : BranchOf run group branch record) :
    0 ≤ record.result.totalSteps := by
  obtain ⟨world, evaluated, hrun, rfl⟩ := h.exists_run
  obtain ⟨hpos, -, -, htotal, -⟩ := branchRun_counts hrun
  have hresult : (recordOf run.args group evaluated.record).result.totalSteps =
      evaluated.record.totalSteps := rfl
  omega

variable [IsStrictOrderedRing K]

theorem BranchOf.score_le_add {margin : K} (h : BranchOf run group branch record)
    (hmargin : 0 ≤ margin) : record.score.le (record.score.add (.finite margin)) = true := by
  rw [h.score]
  exact scoreBranch_le_add _ h.totalSteps_nonneg _ _ hmargin

theorem BranchOf.success_of_higher {run' : ProbeRun K W O P S E} {group' : Group K O P S E}
    {branch' : Branch P} {margin : K} (h : BranchOf run group branch record)
    (h' : BranchOf run' group' branch' record') (hmargin : 0 ≤ margin)
    (hbonus : 0 ≤ run'.args.scoreStepBonus)
    (hhigher : (record'.score.add (.finite margin)).lt record.score = true) :
    record.result.success = true := by
  have hnonneg : (PyFloat.finite 0).le record'.score = true := by
    rw [h'.score]
    exact scoreBranch_nonneg hbonus _ h'.totalSteps_nonneg _
  have hpos := PyFloat.lt_of_le_of_lt (PyFloat.le_trans hnonneg (h'.score_le_add hmargin)) hhigher
  cases hsuccess : record.result.success with
  | true => rfl
  | false =>
    rw [h.score, hsuccess] at hpos
    exact absurd (PyFloat.finite_lt_finite.mp hpos) (lt_irrefl _)

structure Ranked (directories : List (List (ProbeRun K W O P S E))) (actionHorizon : ℤ) (margin : K)
    (record record' : ProbeRecord K) : Prop where
  sameKey : record.key = record'.key
  higher : (record'.score.add (.finite margin)).lt record.score = true
  succeeded : record.result.success = true
  ofRuns : ∃ run ∈ directories.flatten, ∃ run' ∈ directories.flatten,
    (∃ group branch, BranchOf run group branch record) ∧
      (∃ group branch, BranchOf run' group branch record') ∧
        run.args.prefixSteps = actionHorizon ∧ run'.args.prefixSteps = actionHorizon
  oneFile : ∀ saved ∈ directories.filterMap directoryFile, record ∈ saved → record' ∈ saved →
    ∃ run ∈ directories.flatten, ∃ group branch branch', BranchOf run group branch record ∧
      BranchOf run group branch' record' ∧ branch.name ≠ branch'.name ∧
        (record'.result.success = true → record.result.totalSteps < record'.result.totalSteps)

variable {directories : List (List (ProbeRun K W O P S E))} {actionKey : String} {actionHorizon : ℤ}
  {margin : K}

omit [IsStrictOrderedRing K] in
theorem exists_branchOf_of_kept (h : record ∈ keptRecords actionKey actionHorizon
    (directories.filterMap directoryFile)) :
    ∃ run ∈ directories.flatten, (∃ group branch, BranchOf run group branch record) ∧
      run.args.prefixSteps = actionHorizon := by
  obtain ⟨hmem, hkept⟩ := List.mem_filter.mp h
  obtain ⟨saved, hsaved, hrecord⟩ := List.mem_flatten.mp hmem
  obtain ⟨runs, hruns, hfile⟩ := List.mem_filterMap.mp hsaved
  obtain ⟨run, hrun, hof⟩ := savedBy_of_directoryFile hfile
  obtain ⟨groups, -, hgroups, -⟩ := hof.groups
  obtain ⟨group, -, branch, hbranch⟩ := hgroups record hrecord
  exact ⟨run, List.mem_flatten.mpr ⟨runs, hruns, hrun⟩, ⟨group, branch, hbranch⟩,
    prefixSteps_of_kept hbranch hkept⟩

omit [IsStrictOrderedRing K] in
private theorem groupId_of_kept (h : record ∈ keptRecords actionKey actionHorizon
    (directories.filterMap directoryFile)) : record.groupId = record.key.groupId := by
  obtain ⟨run, -, ⟨group, branch, hbranch⟩, -⟩ := exists_branchOf_of_kept h
  exact hbranch.groupId

private theorem ranked_of_kept (hmargin : 0 ≤ margin)
    (hbonus : ∀ run ∈ directories.flatten, 0 ≤ run.args.scoreStepBonus)
    (hrecord : record ∈ keptRecords actionKey actionHorizon (directories.filterMap directoryFile))
    (hrecord' : record' ∈ keptRecords actionKey actionHorizon (directories.filterMap directoryFile))
    (hkey : record.key = record'.key)
    (hhigher : (record'.score.add (.finite margin)).lt record.score = true) :
    Ranked directories actionHorizon margin record record' := by
  obtain ⟨run, hrun, hbranch, hsteps⟩ := exists_branchOf_of_kept hrecord
  obtain ⟨run', hrun', hbranch', hsteps'⟩ := exists_branchOf_of_kept hrecord'
  refine ⟨hkey, hhigher, ?_, ⟨run, hrun, run', hrun', hbranch, hbranch', hsteps, hsteps'⟩, ?_⟩
  · obtain ⟨group, branch, hbranch⟩ := hbranch
    obtain ⟨group', branch', hbranch'⟩ := hbranch'
    exact hbranch.success_of_higher hbranch' hmargin (hbonus run' hrun') hhigher
  · intro saved hsaved hmem hmem'
    obtain ⟨runs, hruns, hfile⟩ := List.mem_filterMap.mp hsaved
    obtain ⟨run, hrun, hof⟩ := savedBy_of_directoryFile hfile
    have hflat : run ∈ directories.flatten := List.mem_flatten.mpr ⟨runs, hruns, hrun⟩
    obtain ⟨group, branch, branch', hone, hother, hsame⟩ := hof.sameSnapshot hmem hmem' hkey
    have habove := PyFloat.lt_of_le_of_lt (hother.score_le_add hmargin) hhigher
    refine ⟨run, hflat, group, branch, branch', hone, hother, fun hname => ?_, fun hsuccess' => ?_⟩
    · exact PyFloat.ne_of_lt habove (congrArg ProbeRecord.score (hsame hname)).symm
    · by_contra hmore
      have hsuccess := hone.success_of_higher hother hmargin (hbonus run hflat) hhigher
      have hle := scoreBranch_antitone (hbonus run hflat) hother.totalSteps_nonneg
        (not_lt.mp hmore) group.probe.tailMaxSteps
      have hscore := hone.score
      have hscore' := hother.score
      rw [hsuccess] at hscore
      rw [hsuccess'] at hscore'
      rw [← hscore, ← hscore'] at hle
      exact PyFloat.ne_of_lt (PyFloat.lt_of_lt_of_le habove hle) rfl

/-- A pair compares two kept records with one name: successes with failures and, within a file, two
branches of one snapshot. -/
theorem pairs_of_directories (directories : List (List (ProbeRun K W O P S E)))
    (actionKey : String) (actionHorizon : ℤ) {margin : K} (hmargin : 0 ≤ margin)
    (hbonus : ∀ run ∈ directories.flatten, 0 ≤ run.args.scoreStepBonus) (pair : RankingPair) :
    pair ∈ rankingPairs
        (cfSamples actionKey actionHorizon (directories.filterMap directoryFile)) (.finite margin) ↔
      ∃ record record',
        (keptRecords actionKey actionHorizon (directories.filterMap directoryFile))[pair.good]? =
            some record ∧
          (keptRecords actionKey actionHorizon (directories.filterMap directoryFile))[pair.bad]? =
            some record' ∧
          pair.groupId = String.ofList record.key.groupId ∧
            Ranked directories actionHorizon margin record record' := by
  rw [mem_rankingPairs_iff, cfSamples_eq, ranksAbove, List.getElem?_map, List.getElem?_map]
  constructor
  · rintro ⟨hgood, hbad, habove⟩
    obtain ⟨sample, hsample, hname⟩ := Option.map_eq_some_iff.mp hgood
    obtain ⟨record, hrecord, rfl⟩ := Option.map_eq_some_iff.mp hsample
    obtain ⟨sample', hsample', hname'⟩ := Option.map_eq_some_iff.mp hbad
    obtain ⟨record', hrecord', rfl⟩ := Option.map_eq_some_iff.mp hsample'
    rw [hrecord, hrecord'] at habove
    have hmem := List.mem_of_getElem? hrecord
    have hmem' := List.mem_of_getElem? hrecord'
    have hkey : record.key = record'.key := by
      apply groupId_injective
      rw [← groupId_of_kept hmem, ← groupId_of_kept hmem']
      exact String.ofList_injective (hname.trans hname'.symm)
    refine ⟨record, record', hrecord, hrecord', ?_,
      ranked_of_kept hmargin hbonus hmem hmem' hkey ?_⟩
    · rw [← groupId_of_kept hmem]
      exact hname.symm
    · exact habove
  · rintro ⟨record, record', hrecord, hrecord', hname, hranked⟩
    have hid := groupId_of_kept (List.mem_of_getElem? hrecord)
    have hid' := groupId_of_kept (List.mem_of_getElem? hrecord')
    rw [hrecord, hrecord', hname]
    refine ⟨?_, ?_, hranked.higher⟩
    · rw [← hid]
      rfl
    · rw [hranked.sameKey, ← hid']
      rfl

end Scores

end Directories

/-! ## A probe of one snapshot -/

/-- The baseline policy needs two steps, the guided one needs one. -/
def countdownEnvs : Environments ℚ ℕ Unit ℕ Unit Unit where
  simulator _ := countdownSimulator
  makeSnapshot _ remaining := ((), remaining)
  reset _ _ remaining := .ok ((), remaining)
  taskDescription _ _ := .ok "count down"
  maxEpisodeSteps _ _ := .ok 5
  snapshotBatch _ _ := .ok ⟨[1], none, none⟩
  baselinePolicy := 2
  qgfPolicy := 1

def countdownRun : ProbeRun ℚ ℕ Unit ℕ Unit Unit where
  envs := countdownEnvs
  args := ⟨0, 1, [0], 1, 5, 0, 0, 1 / 20⟩
  tasks := [("task".toList, [(0, ())])]
  distinct := ⟨List.nodup_singleton _, by simp⟩
  world := 0

def reseededRun : ProbeRun ℚ ℕ Unit ℕ Unit Unit :=
  { countdownRun with args := ⟨7, 1, [0], 1, 5, 0, 0, 1 / 20⟩ }

/-- The guided branch is ranked above the baseline of its own snapshot, and above that of another
seed, which shares only the name of the snapshot. -/
theorem guided_above_baselines :
    (∃ record record', Ranked [[countdownRun]] 1 0 record record' ∧
      record.result.branch = "qgf" ∧ record'.result.branch = "baseline") ∧
    ∃ record record', Ranked [[countdownRun], [reseededRun]] 1 0 record record' ∧
      record.groupId = record'.groupId ∧ record.seed ≠ record'.seed := by
  constructor
  · obtain ⟨record, record', hrecord, hrecord', -, hranked⟩ :=
      (pairs_of_directories [[countdownRun]] "action_chunk_policy" 1 (le_refl 0)
        (by simp [countdownRun]) ⟨1, 0, "task_0_ep0_step0"⟩).mp
          (mem_rankingPairs_iff.mpr ⟨rfl, rfl, by decide +kernel⟩)
    refine ⟨record, record', hranked, ?_, ?_⟩
    · rw [← Option.some.inj hrecord]
      rfl
    · rw [← Option.some.inj hrecord']
      rfl
  · obtain ⟨record, record', hrecord, hrecord', -, hranked⟩ :=
      (pairs_of_directories [[countdownRun], [reseededRun]] "action_chunk_policy" 1 (le_refl 0)
        (by simp [countdownRun, reseededRun]) ⟨1, 3, "task_0_ep0_step0"⟩).mp
          (mem_rankingPairs_iff.mpr ⟨rfl, rfl, by decide +kernel⟩)
    refine ⟨record, record', hranked, ?_, ?_⟩
    · rw [← Option.some.inj hrecord, ← Option.some.inj hrecord']
      rfl
    · rw [← Option.some.inj hrecord, ← Option.some.inj hrecord']
      decide +kernel

end SmolVlaQgf.RankedSnapshots
