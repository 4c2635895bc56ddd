import SmolVlaQgf.ProbeCollection
import Mathlib.Data.List.Forall2

/-!
# What a probe has recorded

The records are those of the branches of a list of groups, each with its own snapshot, in order; an
error cuts the list short. The name of a group tells where its snapshot was taken. After an error
the file holds all records but the last few.
-/

namespace SmolVlaQgf.ProbedGroups
open BranchScores CounterfactualBranch DecimalText FieldText FloatRounding ProbeCollection
  RaisingLoops

variable {K W O P S E : Type}

/-! ## Names of groups -/

theorem append_mark_inj {mark : Char} {first second rest rest' : Text} (hrest : mark ∉ rest)
    (hrest' : mark ∉ rest') (h : first ++ mark :: rest = second ++ mark :: rest') :
    first = second ∧ rest = rest' := by
  rcases List.append_eq_append_iff.mp h with ⟨middle, rfl, hmarks⟩ | ⟨middle, rfl, hmarks⟩
  · cases middle with
    | nil => exact ⟨(List.append_nil first).symm, (List.cons.inj hmarks).2⟩
    | cons letter middle =>
      obtain ⟨rfl, rfl⟩ := List.cons.inj hmarks
      exact (hrest (List.mem_append_right _ List.mem_cons_self)).elim
  · cases middle with
    | nil => exact ⟨List.append_nil second, (List.cons.inj hmarks).2.symm⟩
    | cons letter middle =>
      obtain ⟨rfl, rfl⟩ := List.cons.inj hmarks
      exact (hrest' (List.mem_append_right _ List.mem_cons_self)).elim

private theorem mark_notMem_decimal (n : ℕ) : '_' ∉ decimal n := by
  intro h
  have hdigit := isDigit_of_mem_decimal h
  cases hdigit

private theorem mark_notMem_decimalInt (n : ℤ) : '_' ∉ decimalInt n := by
  intro h
  obtain hsign | hdigit := mem_decimalInt h
  · cases hsign
  · cases hdigit

theorem groupId_injective : Function.Injective SnapshotKey.groupId := by
  intro key other h
  obtain ⟨taskGroup, taskId, episodeIndex, snapshotStep⟩ := key
  obtain ⟨taskGroup', taskId', episodeIndex', snapshotStep'⟩ := other
  have hshape : ∀ key : SnapshotKey, key.groupId =
      ((key.taskGroup ++ '_' :: decimalInt key.taskId) ++
        '_' :: ("ep".toList ++ decimal key.episodeIndex)) ++
          '_' :: ("step".toList ++ decimal key.snapshotStep) := by
    intro key
    simp [SnapshotKey.groupId, List.append_assoc]
  rw [hshape, hshape] at h
  have hstep : ∀ n, '_' ∉ "step".toList ++ decimal n := fun n hmem => by
    rcases List.mem_append.mp hmem with hmem | hmem
    · simp at hmem
    · exact mark_notMem_decimal n hmem
  have hep : ∀ n, '_' ∉ "ep".toList ++ decimal n := fun n hmem => by
    rcases List.mem_append.mp hmem with hmem | hmem
    · simp at hmem
    · exact mark_notMem_decimal n hmem
  obtain ⟨h, hsteps⟩ := append_mark_inj (hstep _) (hstep _) h
  obtain ⟨h, hepisodes⟩ := append_mark_inj (hep _) (hep _) h
  obtain ⟨htask, hids⟩ := append_mark_inj (mark_notMem_decimalInt _) (mark_notMem_decimalInt _) h
  obtain rfl : snapshotStep = snapshotStep' := decimal_injective (List.append_cancel_left hsteps)
  obtain rfl : episodeIndex = episodeIndex' :=
    decimal_injective (List.append_cancel_left hepisodes)
  obtain rfl : taskId = taskId' := decimalInt_injective hids
  obtain rfl : taskGroup = taskGroup' := htask
  rfl

/-! ## Records of groups -/

section Records

variable [Field K] [LinearOrder K] [Rounding K] (envs : Environments K W O P S E)
  (args : ProbeArgs K)

abbrev Job (K O P S E : Type) := Group K O P S E × Branch P

def allJobs (groups : List (Group K O P S E)) : List (Job K O P S E) :=
  groups.flatMap fun group => (branches envs).map fun branch => (group, branch)

omit [Field K] [LinearOrder K] [Rounding K] in
private theorem allJobs_append (groups groups' : List (Group K O P S E)) :
    allJobs envs (groups ++ groups') = allJobs envs groups ++ allJobs envs groups' :=
  List.flatMap_append

/-- The record of a branch: the branch has been evaluated from the snapshot of its group. -/
def Probed (job : Job K O P S E) (record : ProbeRecord K) : Prop :=
  ∃ world result after, evaluateBranch (envs.simulator job.1.env) job.1.probe job.2 world =
    .ok (result, after) ∧ record = recordOf args job.1 result

/-- A group comes from a snapshot at one of the chosen steps of an episode. -/
def Taken (group : Group K O P S E) : Prop :=
  ∃ episode step snapshot observation batch,
    group = groupOf envs args episode step snapshot observation batch ∧
      (step : ℤ) ∈ args.branchSteps ∧ step < episode.maxSteps ∧
      ∃ world, (envs.makeSnapshot episode.env world).1 = snapshot

/-- The records of the branches of some groups have been appended; all of them, if no error has
been raised. -/
structure Extended (region : SnapshotKey → Prop) (returned : Bool)
    (records records' : List (ProbeRecord K)) (groups : List (Group K O P S E))
    (jobs : List (Job K O P S E)) (added : List (ProbeRecord K)) : Prop where
  within : ∀ group ∈ groups, region group.key
  taken : ∀ group ∈ groups, Taken envs args group
  distinct : (groups.map Group.key).Nodup
  inOrder : jobs <+: allJobs envs groups
  all : returned = true → jobs = allJobs envs groups
  records : records' = records ++ added
  probed : List.Forall₂ (Probed envs args) jobs added

/-- The file holds the records up to the last ones, or is not written yet. -/
def Kept (samplesFile : Option (List (ProbeRecord K))) (s : ProbeState K W) : Prop :=
  (s.samplesFile = samplesFile ∧
      (0 < args.saveEveryRecords → (s.records.length : ℤ) < args.saveEveryRecords)) ∨
    ∃ saved, s.samplesFile = some saved ∧ saved <+: s.records ∧
      args.saveEveryRecords ∣ saved.length ∧
      (s.records.length : ℤ) < saved.length + args.saveEveryRecords

def Extends : Within (ProbeState K W) SnapshotKey := fun region returned s t =>
  (∃ groups jobs added, Extended envs args region returned s.records t.records groups jobs added) ∧
    ∀ samplesFile, Kept args samplesFile s → Kept args samplesFile t

variable {envs args} {s t : ProbeState K W} {region : SnapshotKey → Prop}

theorem Extended.append {region' : SnapshotKey → Prop} {returned : Bool}
    {records records' records'' : List (ProbeRecord K)} {groups groups' : List (Group K O P S E)}
    {jobs jobs' : List (Job K O P S E)} {added added' : List (ProbeRecord K)}
    (h : Extended envs args region true records records' groups jobs added)
    (h' : Extended envs args region' returned records' records'' groups' jobs' added')
    (hdisjoint : ∀ key, region key → ¬region' key) :
    Extended envs args (fun key => region key ∨ region' key) returned records records''
      (groups ++ groups') (jobs ++ jobs') (added ++ added') where
  within := by
    intro group hgroup
    exact (List.mem_append.mp hgroup).imp (h.within group) (h'.within group)
  taken := by
    intro group hgroup
    exact (List.mem_append.mp hgroup).elim (h.taken group) (h'.taken group)
  distinct := by
    rw [List.map_append, List.nodup_append]
    refine ⟨h.distinct, h'.distinct, ?_⟩
    rintro key hkey key' hkey' rfl
    obtain ⟨group, hgroup, rfl⟩ := List.mem_map.mp hkey
    obtain ⟨group', hgroup', hsame⟩ := List.mem_map.mp hkey'
    refine hdisjoint _ (h.within group hgroup) ?_
    rw [← hsame]
    exact h'.within group' hgroup'
  inOrder := by
    rw [h.all rfl, allJobs_append]
    exact (List.prefix_append_right_inj _).mpr h'.inOrder
  all := by
    intro hreturned
    rw [h.all rfl, h'.all hreturned, allJobs_append]
  records := by rw [h'.records, h.records, List.append_assoc]
  probed := List.rel_append h.probed h'.probed

theorem Extended.mono {region' : SnapshotKey → Prop} {returned : Bool}
    {records records' : List (ProbeRecord K)} {groups : List (Group K O P S E)}
    {jobs : List (Job K O P S E)} {added : List (ProbeRecord K)}
    (h : Extended envs args region returned records records' groups jobs added)
    (hle : ∀ key, region key → region' key) :
    Extended envs args region' returned records records' groups jobs added :=
  { h with within := fun group hgroup => hle _ (h.within group hgroup) }

theorem extends_of_same {returned : Bool} (hrecords : t.records = s.records)
    (hfile : t.samplesFile = s.samplesFile) : Extends envs args region returned s t := by
  refine ⟨⟨[], [], [], by simp, by simp, List.nodup_nil, List.prefix_rfl, fun _ => rfl, ?_,
    .nil⟩, ?_⟩
  · rw [hrecords, List.append_nil]
  · intro samplesFile hkept
    rw [Kept, hrecords, hfile]
    exact hkept

variable (envs args) in
private theorem composes_extends : Composes (Extends envs args) where
  refl := fun s => extends_of_same rfl rfl
  append := by
    rintro region region' returned s t u ⟨⟨groups, jobs, added, h⟩, hkept⟩
      ⟨⟨groups', jobs', added', h'⟩, hkept'⟩ hdisjoint
    exact ⟨⟨_, _, _, h.append h' hdisjoint⟩, fun samplesFile hs => hkept' _ (hkept _ hs)⟩
  mono := by
    rintro region region' returned s t ⟨⟨groups, jobs, added, h⟩, hkept⟩ hle
    exact ⟨⟨_, _, _, h.mono hle⟩, hkept⟩

/-! ## Branches of a snapshot -/

omit [Field K] [LinearOrder K] [Rounding K] in
/-- The file loses fewer records than are saved at once. -/
theorem Kept.addRecord {samplesFile : Option (List (ProbeRecord K))} (h : Kept args samplesFile s)
    (record : ProbeRecord K) : Kept args samplesFile (s.addRecord args record) := by
  have hlength : (s.addRecord args record).records.length = s.records.length + 1 := by
    simp [ProbeState.addRecord]
  by_cases hsave : 0 < args.saveEveryRecords ∧
      ((s.addRecord args record).records.length : ℤ) % args.saveEveryRecords = 0
  · right
    refine ⟨(s.addRecord args record).records, if_pos hsave, List.prefix_rfl,
      Int.dvd_of_emod_eq_zero hsave.2, ?_⟩
    omega
  · have hfile : (s.addRecord args record).samplesFile = s.samplesFile := if_neg hsave
    have hnot : args.saveEveryRecords ∣ s.records.length + 1 → ¬0 < args.saveEveryRecords := by
      intro hdvd hpos
      refine hsave ⟨hpos, ?_⟩
      rw [hlength, Nat.cast_add, Nat.cast_one]
      exact Int.emod_eq_zero_of_dvd hdvd
    rcases h with ⟨hsame, hfew⟩ | ⟨saved, hsaved, hsaves, hdvd, hfew⟩
    · left
      refine ⟨hfile.trans hsame, fun hpos => ?_⟩
      have hne : (s.records.length : ℤ) + 1 ≠ args.saveEveryRecords := by
        intro hfull
        exact hnot (hfull ▸ dvd_rfl) hpos
      have := hfew hpos
      omega
    · right
      refine ⟨saved, hfile.trans hsaved, hsaves.trans (List.prefix_append _ _), hdvd, ?_⟩
      have hle : saved.length ≤ s.records.length := hsaves.length_le
      have hne : (s.records.length : ℤ) + 1 ≠ saved.length + args.saveEveryRecords := by
        intro hfull
        refine hnot ?_ (by omega)
        rw [hfull]
        exact dvd_add hdvd dvd_rfl
      omega

variable (envs args) in
structure Ran (group : Group K O P S E) (s : ProbeState K W) (done : List (Branch P))
    (t : ProbeState K W) : Prop where
  records : ∃ added, t.records = s.records ++ added ∧
    List.Forall₂ (Probed envs args) (done.map fun branch => (group, branch)) added
  kept : ∀ samplesFile, Kept args samplesFile s → Kept args samplesFile t

private theorem probeBranch_ran {group : Group K O P S E} {done : List (Branch P)}
    {branch : Branch P}
    (h : Ran envs args group s done t) :
    GoesOn (Ran envs args group s (done ++ [branch])) (Ran envs args group s done)
      (probeBranch envs args group branch t) := by
  rw [probeBranch]
  cases hbranch : evaluateBranch (envs.simulator group.env) group.probe branch t.world with
  | error error => exact h
  | ok evaluated =>
    obtain ⟨result, world⟩ := evaluated
    obtain ⟨added, hrecords, hprobed⟩ := h.records
    refine ⟨rfl, ⟨added ++ [recordOf args group result], ?_, ?_⟩, ?_⟩
    · rw [← List.append_assoc, ← hrecords]
      rfl
    · rw [List.map_append]
      exact List.rel_append hprobed (.cons ⟨t.world, result, world, hbranch, rfl⟩ .nil)
    · intro samplesFile hkept
      exact (h.kept samplesFile hkept : Kept args samplesFile (t.setWorld world)).addRecord _

abbrev stepRegion (episode : Episode E) (step : ℕ) (key : SnapshotKey) : Prop :=
  key = ⟨episode.taskGroup, episode.taskId, episode.episodeIndex, step⟩

private theorem extends_of_ran {group : Group K O P S E} {ran : List (Branch P)} {returned : Bool}
    (h : Ran envs args group s ran t) (hran : ran <+: branches envs)
    (hall : returned = true → ran = branches envs) (htaken : Taken envs args group) :
    Extends envs args (fun key => key = group.key) returned s t := by
  obtain ⟨added, hrecords, hprobed⟩ := h.records
  refine ⟨⟨[group], _, added, ⟨?_, ?_, ?_, ?_, ?_, hrecords, hprobed⟩⟩, h.kept⟩
  · intro other hother
    rw [List.mem_singleton.mp hother]
  · intro other hother
    rw [List.mem_singleton.mp hother]
    exact htaken
  · exact List.nodup_singleton _
  · rw [allJobs, List.flatMap_singleton]
    exact hran.map _
  · intro hreturned
    rw [hall hreturned, allJobs, List.flatMap_singleton]

theorem probeSnapshot_extends {episode : Episode E} {step : ℕ}
    (hstep : (step : ℤ) ∈ args.branchSteps)
    (hmax : step < episode.maxSteps) (observation : O) (s : ProbeState K W) :
    Stays (Extends envs args) (stepRegion episode step) s
      (probeSnapshot envs args episode step observation s) := by
  have hsnapshot : ∃ world, (envs.makeSnapshot episode.env world).1 =
      (envs.makeSnapshot episode.env s.world).1 := ⟨s.world, rfl⟩
  rw [probeSnapshot]
  generalize envs.makeSnapshot episode.env s.world = made at hsnapshot ⊢
  obtain ⟨snapshot, world⟩ := made
  cases envs.snapshotBatch observation episode.taskDescription with
  | error error => exact extends_of_same rfl rfl
  | ok batch =>
    dsimp only
    have htaken : Taken envs args (groupOf envs args episode step snapshot observation batch) :=
      ⟨episode, step, snapshot, observation, batch, rfl, hstep, hmax, hsnapshot⟩
    have hextends : ∀ {ran t} (returned : Bool), Ran envs args
        (groupOf envs args episode step snapshot observation batch) s ran t →
          ran <+: branches envs → (returned = true → ran = branches envs) →
            Extends envs args (stepRegion episode step) returned s t :=
      fun returned hrun hran hall => extends_of_ran hrun hran hall htaken
    generalize groupOf envs args episode step snapshot observation batch = group at hextends ⊢
    have hstart : Ran envs args group s [] (s.setWorld world) :=
      ⟨⟨[], (List.append_nil _).symm, .nil⟩, fun _ hkept => hkept⟩
    obtain ⟨ran, hran, hall, hdone⟩ := forEach_prefix
      (fun _ _ _ hrun => probeBranch_ran hrun) (branches envs) hstart
    rw [List.nil_append] at hdone
    generalize forEach (probeBranch envs args group) (branches envs) (s.setWorld world) = outcome
      at hall hdone ⊢
    obtain ⟨result, t⟩ := outcome
    cases result with
    | error error => exact hextends false hdone hran fun hfalse => Bool.noConfusion hfalse
    | ok done =>
      have hfull := hall rfl
      dsimp only
      cases (envs.simulator episode.env).restoreSnapshot snapshot t.world with
      | error error => exact hextends false hdone hran fun _ => hfull
      | ok restored =>
        have hreturned := hextends true hdone hran fun _ => hfull
        exact hreturned

/-! ## Steps and episodes -/

variable (envs) in
omit [Field K] [LinearOrder K] [Rounding K] in
private theorem baselineStep_same (episode : Episode E) (observation : O) (s : ProbeState K W) :
    (baselineStep envs episode observation s).2.records = s.records ∧
      (baselineStep envs episode observation s).2.samplesFile = s.samplesFile := by
  rw [baselineStep]
  cases selectEnvAction (envs.simulator episode.env) envs.baselinePolicy observation
      episode.taskDescription s.world with
  | error error => exact ⟨rfl, rfl⟩
  | ok selected =>
    obtain ⟨policyAction, envAction, world⟩ := selected
    dsimp only
    cases (envs.simulator episode.env).step world envAction with
    | raised error => exact ⟨rfl, rfl⟩
    | returned observation terminated truncated info world =>
      dsimp only
      cases extractSuccess info with
      | error error => exact ⟨rfl, rfl⟩
      | ok success => exact ⟨rfl, rfl⟩

private theorem decisionStep_stays {episode : Episode E} {step : ℕ} (hmax : step < episode.maxSteps)
    (state : ProbeState K W × O) :
    Stays (onFirst (Extends envs args)) (stepRegion episode step) state
      (decisionStep envs args episode step state) := by
  obtain ⟨s, observation⟩ := state
  have hsnapshot : Stays (Extends envs args) (stepRegion episode step) s
      (if (step : ℤ) ∈ args.branchSteps then probeSnapshot envs args episode step observation s
        else (.ok (), s)) := by
    split
    · next hstep => exact probeSnapshot_extends hstep hmax observation s
    · exact extends_of_same rfl rfl
  rw [decisionStep]
  generalize (if (step : ℤ) ∈ args.branchSteps then
    probeSnapshot envs args episode step observation s else (.ok (), s)) = outcome
    at hsnapshot ⊢
  obtain ⟨result, t⟩ := outcome
  cases result with
  | error error => exact hsnapshot
  | ok done =>
    dsimp only
    have hsame := baselineStep_same envs episode observation t
    generalize baselineStep envs episode observation t = stepped at hsame ⊢
    obtain ⟨result, u⟩ := stepped
    have hafter : ∀ returned, Extends envs args (stepRegion episode step) returned s u :=
      fun _ => (composes_extends envs args).followed hsnapshot (extends_of_same hsame.1 hsame.2)
    cases result with
    | error error => exact hafter false
    | ok answered => exact hafter true

abbrev episodeRegion (taskGroup : Text) (taskId : ℤ) (episodeIndex : ℕ) (key : SnapshotKey) :
    Prop :=
  key.taskGroup = taskGroup ∧ key.taskId = taskId ∧ key.episodeIndex = episodeIndex

private theorem probeEpisode_stays (episode : Episode E) (s : ProbeState K W) :
    Stays (Extends envs args)
      (episodeRegion episode.taskGroup episode.taskId episode.episodeIndex) s
      (probeEpisode envs args episode s) := by
  rw [probeEpisode]
  cases envs.reset episode.env (args.seed + episode.episodeIndex)
      ((envs.simulator episode.env).reset envs.baselinePolicy s.world) with
  | error error => exact extends_of_same rfl rfl
  | ok started =>
    obtain ⟨observation, world⟩ := started
    dsimp only
    have hsteps := forEach_stays (composes_extends envs args).onFirst
      (decisionStep envs args episode) (stepRegion episode) (List.range episode.maxSteps.toNat)
      (fun step hstep state => decisionStep_stays (by rw [List.mem_range] at hstep; omega) state)
      (by
        refine List.nodup_range.imp ?_
        intro step step' hne key hkey hkey'
        exact hne (SnapshotKey.mk.inj (hkey.symm.trans hkey')).2.2.2)
      (s.setWorld world, observation)
    generalize forEach (decisionStep envs args episode) (List.range episode.maxSteps.toNat)
      (s.setWorld world, observation) = outcome at hsteps ⊢
    obtain ⟨result, t, observation⟩ := outcome
    have hregion : ∀ returned, Extends envs args
        (fun key => ∃ step ∈ List.range episode.maxSteps.toNat, stepRegion episode step key)
          returned s t →
        Extends envs args
          (episodeRegion episode.taskGroup episode.taskId episode.episodeIndex) returned s t := by
      intro returned h
      refine (composes_extends envs args).mono h ?_
      rintro key ⟨step, -, rfl⟩
      exact ⟨rfl, rfl, rfl⟩
    cases result with
    | error error => exact hregion false hsteps
    | ok done => exact hregion true hsteps

/-! ## Tasks -/

/-- An outer loop goes on after an inner one. -/
theorem nested_extends {ι : Type} (body : ι → Raising BranchError (ProbeState K W) Bool)
    (region : ι → SnapshotKey → Prop) (items : List ι)
    (hbody : ∀ item ∈ items, ∀ s, Stays (Extends envs args) (region item) s (body item s))
    (happart : items.Pairwise fun item other => ∀ key, region item key → ¬region other key)
    (s : ProbeState K W) :
    Stays (Extends envs args) (fun key => ∃ item ∈ items, region item key) s
      (nested body items s) := by
  have hitems := forEach_stays (composes_extends envs args) body region items hbody happart s
  rw [nested]
  generalize forEach body items s = outcome at hitems ⊢
  obtain ⟨result, t⟩ := outcome
  cases result with
  | error error => exact hitems
  | ok done => exact hitems

private theorem probeTask_stays (taskGroup : Text) (task : ℤ × E) (s : ProbeState K W) :
    Stays (Extends envs args) (fun key => key.taskGroup = taskGroup ∧ key.taskId = task.1) s
      (probeTask envs args taskGroup task s) := by
  rw [probeTask]
  cases envs.taskDescription task.2 s.world with
  | error error => exact extends_of_same rfl rfl
  | ok taskDescription =>
    dsimp only
    cases envs.maxEpisodeSteps task.2 s.world with
    | error error => exact extends_of_same rfl rfl
    | ok maxSteps =>
      have hepisodes := nested_extends
        (fun episodeIndex => probeEpisode envs args
          ⟨taskGroup, task.1, task.2, taskDescription, maxSteps, episodeIndex⟩)
        (episodeRegion taskGroup task.1) (List.range args.nEpisodes.toNat)
        (fun episodeIndex _ s => probeEpisode_stays
          ⟨taskGroup, task.1, task.2, taskDescription, maxSteps, episodeIndex⟩ s)
        (List.nodup_range.imp fun hne key hkey hkey' => hne (hkey.2.2.symm.trans hkey'.2.2)) s
      refine (composes_extends envs args).mono hepisodes ?_
      intro key hkey
      obtain ⟨-, -, hgroup, htask, -⟩ := hkey
      exact ⟨hgroup, htask⟩

/-- The names of the groups are the keys of a dictionary, and so are the tasks of a group. -/
structure DistinctTasks (tasks : List (Text × List (ℤ × E))) : Prop where
  groups : (tasks.map Prod.fst).Nodup
  ofGroup : ∀ group ∈ tasks, (group.2.map Prod.fst).Nodup

variable (envs args) in
private theorem probeGroups_stays {tasks : List (Text × List (ℤ × E))}
    (htasks : DistinctTasks tasks)
    (s : ProbeState K W) :
    Stays (Extends envs args) (fun key => ∃ group ∈ tasks, key.taskGroup = group.1) s
      (probeGroups envs args tasks s) := by
  refine forEach_stays (composes_extends envs args) _
    (fun group key => key.taskGroup = group.1) tasks ?_ ?_ s
  · intro group hgroup s
    have hloop := nested_extends (probeTask envs args group.1)
      (fun task key => key.taskGroup = group.1 ∧ key.taskId = task.1) group.2
      (fun task _ s => probeTask_stays group.1 task s)
      ((List.pairwise_map.mp (htasks.ofGroup group hgroup)).imp
        fun hne key hkey hkey' => hne (hkey.2.symm.trans hkey'.2)) s
    refine (composes_extends envs args).mono hloop ?_
    intro key hkey
    obtain ⟨-, -, hgroup, -⟩ := hkey
    exact hgroup
  · exact (List.pairwise_map.mp htasks.groups).imp
      fun hne key hkey hkey' => hne (hkey.symm.trans hkey')

variable (envs args) in
structure RecordedRun (tasks : List (Text × List (ℤ × E)))
    (samplesFile : Option (List (ProbeRecord K)))
    (outcome : Except BranchError Unit × ProbeState K W)
    (groups : List (Group K O P S E)) (jobs : List (Job K O P S E)) : Prop where
  extended : Extended envs args (fun key => ∃ group ∈ tasks, key.taskGroup = group.1)
    outcome.1.isOk [] outcome.2.records groups jobs outcome.2.records
  file : outcome.1.isOk = true → outcome.2.samplesFile = some outcome.2.records
  fileAfterError : outcome.1.isOk = false → Kept args samplesFile outcome.2

variable (envs args) in
/-- A run records the branches of groups with different keys, in order. -/
theorem probeMain_recorded {tasks : List (Text × List (ℤ × E))} (htasks : DistinctTasks tasks)
    (world : W) (samplesFile : Option (List (ProbeRecord K))) :
    ∃ groups jobs, RecordedRun envs args tasks samplesFile
      (probeMain envs args tasks world samplesFile) groups jobs := by
  obtain ⟨⟨groups, jobs, added, hextended⟩, hkept⟩ :=
    probeGroups_stays envs args htasks ⟨world, [], samplesFile⟩
  have hfile := hkept samplesFile (.inl ⟨rfl, fun hpos => hpos⟩)
  refine ⟨groups, jobs, ?_⟩
  rw [probeMain]
  generalize probeGroups envs args tasks ⟨world, [], samplesFile⟩ = outcome at hextended hfile ⊢
  obtain ⟨result, t⟩ := outcome
  have hrecords : t.records = added := hextended.records
  subst hrecords
  cases result with
  | error error => exact ⟨hextended, fun hfalse => Bool.noConfusion hfalse, fun _ => hfile⟩
  | ok done => exact ⟨hextended, fun _ => rfl, fun hfalse => Bool.noConfusion hfalse⟩

end Records

end SmolVlaQgf.ProbedGroups
