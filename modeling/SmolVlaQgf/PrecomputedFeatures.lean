import Mathlib.Data.List.Sort
import SmolVlaQgf.DiscoveredEpisodes
import SmolVlaQgf.ExactFloats
import SmolVlaQgf.FallibleTraversals
import SmolVlaQgf.FileTrees

/-!
# Precomputed task features

`precompute_episode_features` finds the episodes of an input directory and writes each with its
feature into one flat directory, under the name of its file. Without an `episodes` directory the
search is recursive, and of two episodes with one name only the last is kept.
-/

namespace SmolVlaQgf.PrecomputedFeatures
open FieldText OrderedTables DiscoveredEpisodes ExactFloats FallibleTraversals FileTrees FileTree

inductive PrecomputeError where
  | osError (error : FileError)
  | fileNotFound (message : Text)
  | valueError (message : Text)
  | typeError
  | unpicklingError
  | tensorError

/-- A file holds an episode, which is a dictionary, another collection, in which the names of the
tokens and of their mask may be found, some other object, or no pickle. -/
inductive Content (V : Type) where
  | episode (entries : List (String × V))
  | collection (holdsNames : Bool)
  | object
  | unreadable

/-- The tensor operations on a value of an episode, with the feature function. -/
structure FeatureOps (V : Type) where
  unsqueeze : V → Except PrecomputeError V
  featureFn : V → V → Except PrecomputeError V
  /-- `feature.squeeze(0).detach().to("cpu", dtype=torch.float32)` -/
  exported : V → Except PrecomputeError V

variable {V : Type}

abbrev EpisodeTree (V : Type) := FileTree Text (Content V)

/-! ## The files -/

/-- `episodes_dir` of a directory. -/
def episodesDir (dir : Path) : Path := dir ++ ["episodes".toList]

/-- `summary_path` of a directory. -/
def summaryPath (dir : Path) : Path := dir ++ ["summary.json".toList]

/-- `path.name` -/
def fileName (path : Path) : Text := path.getLast?.getD []

/-- `_episode_files` -/
def episodeFiles (inputDir : Path) (tree : EpisodeTree V) : List Path :=
  let files :=
    if (tree.node (episodesDir inputDir)).isSome then
      (rglob isEpisodeTensor ((tree.below (episodesDir inputDir)).map Prod.fst)).filter
        fun path => path.dropLast = episodesDir inputDir
    else rglob isEpisodeTensor ((tree.below inputDir).map Prod.fst)
  files.insertionSort (· ≤ ·)

/-- `episode_files[:max_episodes]` -/
def upTo (maxEpisodes : Option ℤ) (files : List Path) : List Path :=
  match maxEpisodes with
  | none => files
  | some count =>
      if count < 0 then files.take (files.length + count).toNat else files.take count.toNat

def prepareOutput (inputDir outputDir : Path) (tree : EpisodeTree V) :
    Except PrecomputeError (EpisodeTree V) := do
  let tree ← (mkdirs (episodesDir outputDir) tree).mapError .osError
  if (tree.node (summaryPath inputDir)).isSome then
    let tree ← (mkdirs outputDir tree).mapError .osError
    (copyFile (summaryPath inputDir) (summaryPath outputDir) tree).mapError .osError
  else return tree

/-! ## The features -/

def missingTokens (episodeFile : Path) : PrecomputeError :=
  .valueError (pathText episodeFile ++
    " does not contain task_tokens and task_attention_mask.".toList)

/-- `torch.load`, and for what is no dictionary the test for the tokens and the access to them. -/
def loadEpisode (tree : EpisodeTree V) (episodeFile : Path) :
    Except PrecomputeError (List (String × V)) :=
  match tree.node episodeFile with
  | some (.file (.episode entries)) => .ok entries
  | some (.file (.collection holdsNames)) =>
      .error (if holdsNames then .typeError else missingTokens episodeFile)
  | some (.file .object) => .error .typeError
  | some (.file .unreadable) => .error .unpicklingError
  | some .directory => .error (.osError .isADirectory)
  | none => .error (.osError .noSuchFile)

/-- The episode with the feature of its own tokens and mask. -/
def attachFeature (ops : FeatureOps V) (featureKey : String) (episodeFile : Path)
    (episode : List (String × V)) : Except PrecomputeError (List (String × V)) :=
  match valueAt episode "task_tokens", valueAt episode "task_attention_mask" with
  | some taskTokens, some taskAttentionMask => do
      let tokens ← ops.unsqueeze taskTokens
      let mask ← ops.unsqueeze taskAttentionMask
      let feature ← ops.featureFn tokens mask
      let feature ← ops.exported feature
      return assign featureKey feature episode
  | _, _ => .error (missingTokens episodeFile)

/-- `output_episodes_dir / episode_file.name` -/
def outputPath (outputDir episodeFile : Path) : Path :=
  episodesDir outputDir ++ [fileName episodeFile]

def enrichedEpisode (ops : FeatureOps V) (featureKey : String) (tree : EpisodeTree V)
    (episodeFile : Path) : Except PrecomputeError (List (String × V)) := do
  let episode ← loadEpisode tree episodeFile
  attachFeature ops featureKey episodeFile episode

def precomputeFile (ops : FeatureOps V) (featureKey : String) (outputDir : Path)
    (tree : EpisodeTree V) (episodeFile : Path) : Except PrecomputeError (EpisodeTree V) := do
  let episode ← enrichedEpisode ops featureKey tree episodeFile
  (tree.writeFile (outputPath outputDir episodeFile) (.episode episode)).mapError .osError

/-- `episode_files` in a prepared tree. -/
def selectedFiles (inputDir : Path) (maxEpisodes : Option ℤ) (tree : EpisodeTree V) : List Path :=
  upTo maxEpisodes (episodeFiles inputDir tree)

/-- `precompute_episode_features`: the returned number and the tree that it leaves. -/
def precomputeEpisodeFeatures (ops : FeatureOps V) (inputDir outputDir : Path)
    (featureKey : String) (maxEpisodes : Option ℤ) (tree : EpisodeTree V) :
    Except PrecomputeError (ℕ × EpisodeTree V) := do
  let prepared ← prepareOutput inputDir outputDir tree
  let episodeFiles := selectedFiles inputDir maxEpisodes prepared
  if episodeFiles = [] then
    throw (.fileNotFound ("No episode_*.pt files found under ".toList ++ pathText inputDir ++
      ".".toList))
  let final ← episodeFiles.foldlM (precomputeFile ops featureKey outputDir) prepared
  return (episodeFiles.length, final)

/-! ## Inputs and outputs -/

section Files

variable {tree prepared final : EpisodeTree V} {inputDir outputDir path : Path}

private theorem below_outputPath (outputDir episodeFile : Path) :
    Below (episodesDir outputDir) (outputPath outputDir episodeFile) :=
  ⟨List.prefix_append _ _, by simp [outputPath]⟩

private theorem upTo_sublist (maxEpisodes : Option ℤ) (files : List Path) :
    (upTo maxEpisodes files).Sublist files := by
  cases maxEpisodes with
  | none => exact List.Sublist.refl _
  | some count =>
    rw [upTo]
    split_ifs
    · exact List.take_sublist _ _
    · exact List.take_sublist _ _

/-- A selected file exists, and it has the name of an episode. -/
theorem mem_selectedFiles {maxEpisodes : Option ℤ}
    (h : path ∈ selectedFiles inputDir maxEpisodes tree) :
    tree.node path ≠ none ∧ path.getLast?.any isEpisodeTensor = true := by
  have hfound : path ∈ episodeFiles inputDir tree := (upTo_sublist _ _).subset h
  have hglob : ∃ dir, path ∈ rglob isEpisodeTensor ((tree.below dir).map Prod.fst) := by
    rw [episodeFiles, List.mem_insertionSort] at hfound
    split_ifs at hfound
    · exact ⟨_, List.mem_of_mem_filter hfound⟩
    · exact ⟨_, hfound⟩
  obtain ⟨dir, hglob⟩ := hglob
  obtain ⟨hmem, hname⟩ := List.mem_filter.mp hglob
  refine ⟨fun hnone => ?_, hname⟩
  obtain ⟨entry, hentry, rfl⟩ := List.mem_map.mp hmem
  exact valueAt_eq_none_iff.mp hnone (List.mem_map_of_mem (List.mem_of_mem_filter hentry))

/-- A file of one tree that has the name of an episode is in the other. -/
def EpisodesFrom (tree prepared : EpisodeTree V) : Prop :=
  ∀ path content, path.getLast?.any isEpisodeTensor = true →
    prepared.node path = some (.file content) → tree.node path = some (.file content)

/-- The prepared tree has the episodes of the input and nothing new below the output. -/
structure Prepared (outputDir : Path) (tree prepared : EpisodeTree V) : Prop where
  below : ∀ path, Below (episodesDir outputDir) path → prepared.node path = tree.node path
  episodes : EpisodesFrom tree prepared

theorem Prepared.trans {other : EpisodeTree V} (h : Prepared outputDir tree prepared)
    (h' : Prepared outputDir prepared other) : Prepared outputDir tree other where
  below path hpath := (h'.below path hpath).trans (h.below path hpath)
  episodes path content hname hfile :=
    h.episodes path content hname (h'.episodes path content hname hfile)

theorem Prepared.still_empty (h : Prepared outputDir tree prepared)
    (hempty : tree.below (episodesDir outputDir) = []) :
    prepared.below (episodesDir outputDir) = [] := by
  rw [below_eq_nil_iff] at hempty ⊢
  exact fun path hpath => (h.below path hpath).trans (hempty path hpath)

private theorem prepared_of_mkdirs {dir : Path} (hdir : dir <+: episodesDir outputDir)
    (h : mkdirs dir tree = .ok prepared) : Prepared outputDir tree prepared := by
  have hadds := addsDirectories_of_mkdirs h
  constructor
  · intro path hpath
    rcases hadds path with hsame | ⟨hway, -, -⟩
    · exact hsame
    · exact absurd hpath (not_below_of_isPrefix (hway.trans hdir))
  · rintro path content - hfile
    rcases hadds path with hsame | ⟨-, -, hdirectory⟩
    · exact hsame.symm.trans hfile
    · rw [hdirectory] at hfile
      cases hfile

/-- A path that goes through `summary.json` is not below the episodes. -/
theorem not_below_summaryPath (outputDir rest : Path) :
    ¬Below (episodesDir outputDir) (summaryPath outputDir ++ rest) := by
  rintro ⟨hbelow, -⟩
  rw [episodesDir, summaryPath, List.append_assoc, List.prefix_append_right_inj,
    List.singleton_append, List.cons_prefix_cons] at hbelow
  exact absurd hbelow.1 (by decide)

private theorem copyTarget_summaryPath (inputDir outputDir : Path) (tree : EpisodeTree V) :
    ∃ rest, copyTarget (summaryPath inputDir) (summaryPath outputDir) tree =
        summaryPath outputDir ++ rest ∧
      (summaryPath outputDir ++ rest).getLast? = some "summary.json".toList := by
  have hlast : ∀ dir : Path, (summaryPath dir).getLast? = some "summary.json".toList :=
    fun dir => List.getLast?_concat
  rw [copyTarget, hlast]
  split
  next name _ hname =>
    cases hname
    exact ⟨["summary.json".toList], rfl, List.getLast?_concat⟩
  next => exact ⟨[], (List.append_nil _).symm, by rw [List.append_nil, hlast]⟩

private theorem prepared_of_copyFile
    (h : copyFile (summaryPath inputDir) (summaryPath outputDir) tree = .ok prepared) :
    Prepared outputDir tree prepared := by
  obtain ⟨content, rfl⟩ := eq_put_of_copyFile h
  obtain ⟨rest, htarget, hlast⟩ := copyTarget_summaryPath inputDir outputDir tree
  rw [htarget]
  constructor
  · intro path hpath
    refine (node_put _ _ _ _).trans (if_neg fun heq => ?_)
    exact not_below_summaryPath outputDir rest (heq ▸ hpath)
  · intro path found hname hfile
    rw [node_put, if_neg] at hfile
    · exact hfile
    · rintro rfl
      rw [hlast, Option.any_some] at hname
      exact absurd hname (by decide)

private theorem prepared_of_prepareOutput
    (h : prepareOutput inputDir outputDir tree = .ok prepared) :
    Prepared outputDir tree prepared := by
  obtain ⟨made, hmade, h⟩ := bind_eq_ok_iff.mp h
  have hfirst := prepared_of_mkdirs List.prefix_rfl (mapError_eq_ok_iff.mp hmade)
  split_ifs at h
  · obtain ⟨remade, hremade, hcopy⟩ := bind_eq_ok_iff.mp h
    have hsecond :=
      prepared_of_mkdirs (List.prefix_append outputDir _) (mapError_eq_ok_iff.mp hremade)
    exact (hfirst.trans hsecond).trans (prepared_of_copyFile (mapError_eq_ok_iff.mp hcopy))
  · cases h
    exact hfirst

end Files

/-! ## The loop -/

section Loop

variable {ops : FeatureOps V} {featureKey : String} {tree current final : EpisodeTree V}
  {outputDir path : Path} {files : List Path}

def outputEntry (ops : FeatureOps V) (featureKey : String) (outputDir : Path)
    (tree : EpisodeTree V) (episodeFile : Path) :
    Except PrecomputeError (Path × Node (Content V)) :=
  (enrichedEpisode ops featureKey tree episodeFile).map fun episode =>
    (outputPath outputDir episodeFile, .file (.episode episode))

private theorem node_of_loadEpisode {episode : List (String × V)}
    (h : loadEpisode tree path = .ok episode) :
    tree.node path = some (.file (.episode episode)) := by
  rw [loadEpisode] at h
  split at h
  next hnode =>
    cases h
    exact hnode
  all_goals cases h

/-- What the loop writes is computed from the input. -/
theorem precomputeFile_eq_put
    (hagree : ∀ content, current.node path = some (.file content) →
      tree.node path = some (.file content))
    (h : precomputeFile ops featureKey outputDir current path = .ok final) :
    ∃ entry, outputEntry ops featureKey outputDir tree path = .ok entry ∧
      entry.1 = outputPath outputDir path ∧ final = current.put entry.1 entry.2 := by
  obtain ⟨enriched, henriched, hwrite⟩ := bind_eq_ok_iff.mp h
  obtain ⟨episode, hload, hattach⟩ := bind_eq_ok_iff.mp henriched
  have hinput : loadEpisode tree path = .ok episode := by
    rw [loadEpisode, hagree _ (node_of_loadEpisode hload)]
  have htree : enrichedEpisode ops featureKey tree path = .ok enriched :=
    bind_eq_ok_iff.mpr ⟨episode, hinput, hattach⟩
  refine ⟨(outputPath outputDir path, .file (.episode enriched)), ?_, rfl,
    eq_put_of_writeFile (mapError_eq_ok_iff.mp hwrite)⟩
  rw [outputEntry, htree]
  rfl

/-- The loop puts the entries of the inputs, as no input is below the output directory. -/
theorem foldlM_precomputeFile
    (hinputs : ∀ path ∈ files, ¬Below (episodesDir outputDir) path)
    (hagree : ∀ path ∈ files, ∀ content, current.node path = some (.file content) →
      tree.node path = some (.file content))
    (h : files.foldlM (precomputeFile ops featureKey outputDir) current = .ok final) :
    ∃ entries, files.mapM (outputEntry ops featureKey outputDir tree) = .ok entries ∧
      entries.map Prod.fst = files.map (outputPath outputDir) ∧
      final = current.putAll entries := by
  induction files generalizing current with
  | nil =>
    cases h
    exact ⟨[], rfl, rfl, rfl⟩
  | cons file rest ih =>
    rw [List.foldlM_cons] at h
    obtain ⟨next, hnext, hrest⟩ := bind_eq_ok_iff.mp h
    obtain ⟨entry, hentry, hpath, rfl⟩ :=
      precomputeFile_eq_put (hagree file List.mem_cons_self) hnext
    have hunchanged : ∀ path ∈ rest, (current.put entry.1 entry.2).node path =
        current.node path := by
      intro path hmem
      refine (node_put _ _ _ _).trans (if_neg fun heq => ?_)
      exact hinputs path (List.mem_cons_of_mem _ hmem)
        (heq ▸ hpath ▸ below_outputPath outputDir file)
    obtain ⟨entries, hentries, hpaths, rfl⟩ := ih
      (fun path hmem => hinputs path (List.mem_cons_of_mem _ hmem))
      (fun path hmem content hfile => hagree path (List.mem_cons_of_mem _ hmem) content
        (hunchanged path hmem ▸ hfile)) hrest
    refine ⟨entry :: entries, ?_, ?_, rfl⟩
    · exact mapM_eq_ok_iff.mpr (.cons hentry (mapM_eq_ok_iff.mp hentries))
    · rw [List.map_cons, List.map_cons, hpath, hpaths]

end Loop

/-! ## Lost episodes -/

section Result

variable {ops : FeatureOps V} {featureKey : String} {tree final : EpisodeTree V}
  {inputDir outputDir : Path} {maxEpisodes : Option ℤ} {files : List Path} {n : ℕ}

def processedFiles (inputDir outputDir : Path) (maxEpisodes : Option ℤ) (tree : EpisodeTree V) :
    List Path :=
  match prepareOutput inputDir outputDir tree with
  | .ok prepared => selectedFiles inputDir maxEpisodes prepared
  | .error _ => []

/-- The output directory holds exactly `n` files, one for each input with its feature. -/
structure LosesNoEpisode (ops : FeatureOps V) (featureKey : String) (outputDir : Path)
    (tree : EpisodeTree V) (files : List Path) (n : ℕ) (final : EpisodeTree V) : Prop where
  count : (final.below (episodesDir outputDir)).length = n
  outputs : ∃ entries, files.mapM (outputEntry ops featureKey outputDir tree) = .ok entries ∧
    (final.below (episodesDir outputDir)).Perm entries

theorem nodup_outputPath_iff (outputDir : Path) :
    (files.map (outputPath outputDir)).Nodup ↔ (files.map fileName).Nodup := by
  have hinjective : Function.Injective fun name : Text => episodesDir outputDir ++ [name] := by
    intro a b hab
    simpa using hab
  have hmap : files.map (outputPath outputDir) =
      (files.map fileName).map fun name => episodesDir outputDir ++ [name] := by
    rw [List.map_map]
    rfl
  rw [hmap, List.nodup_map_iff hinjective]

private theorem below_of_outputPaths {entries : List (Path × Node (Content V))}
    (hpaths : entries.map Prod.fst = files.map (outputPath outputDir)) :
    ∀ entry ∈ entries, Below (episodesDir outputDir) entry.1 := by
  intro entry hentry
  have hmem : entry.1 ∈ entries.map Prod.fst := List.mem_map_of_mem hentry
  rw [hpaths] at hmem
  obtain ⟨path, -, hpath⟩ := List.mem_map.mp hmem
  exact hpath ▸ below_outputPath outputDir path

/-- The files of an `episodes` directory have distinct names. -/
theorem nodup_fileName_of_episodesDir (h : (tree.node (episodesDir inputDir)).isSome = true) :
    ((selectedFiles inputDir maxEpisodes tree).map fileName).Nodup := by
  have hsorted : (selectedFiles inputDir maxEpisodes tree).Sublist (episodeFiles inputDir tree) :=
    upTo_sublist _ _
  apply List.Nodup.sublist (hsorted.map _)
  rw [episodeFiles, if_pos h, ((List.perm_insertionSort _ _).map fileName).nodup_iff]
  refine List.Nodup.map_on ?_ (((nodup_below tree _).filter _).filter _)
  intro a ha b hb hab
  have hparent : ∀ path ∈ (rglob isEpisodeTensor
      ((tree.below (episodesDir inputDir)).map Prod.fst)).filter
        (fun path => path.dropLast = episodesDir inputDir),
      path = episodesDir inputDir ++ [fileName path] := by
    intro path hpath
    obtain ⟨hglob, hdir⟩ := List.mem_filter.mp hpath
    have hne : path ≠ [] := by
      rintro rfl
      exact Bool.false_ne_true (List.mem_filter.mp hglob).2
    rw [fileName, List.getLast?_eq_some_getLast hne, Option.getD_some, ← of_decide_eq_true hdir]
    exact (List.dropLast_append_getLast hne).symm
  rw [hparent a ha, hparent b hb, hab]

/-- No episode is lost exactly if the processed files have distinct names. -/
theorem losesNoEpisode_iff (hempty : tree.below (episodesDir outputDir) = [])
    (h : precomputeEpisodeFeatures ops inputDir outputDir featureKey maxEpisodes tree =
      .ok (n, final)) :
    LosesNoEpisode ops featureKey outputDir tree
        (processedFiles inputDir outputDir maxEpisodes tree) n final ↔
      ((processedFiles inputDir outputDir maxEpisodes tree).map fileName).Nodup := by
  obtain ⟨prepared, hprepare, h⟩ := bind_eq_ok_iff.mp h
  obtain ⟨-, h⟩ := guarded_eq_ok_iff.mp h
  obtain ⟨written, hloop, h⟩ := bind_eq_ok_iff.mp h
  cases h
  have hprepared := prepared_of_prepareOutput hprepare
  have hstill := hprepared.still_empty hempty
  rw [processedFiles, hprepare]
  dsimp only
  obtain ⟨entries, hentries, hpaths, rfl⟩ := foldlM_precomputeFile
    (fun path hmem hpath => (mem_selectedFiles hmem).1 (below_eq_nil_iff.mp hstill path hpath))
    (fun path hmem content => hprepared.episodes path content (mem_selectedFiles hmem).2) hloop
  rw [← nodup_outputPath_iff outputDir, ← hpaths,
    ← below_putAll_perm_iff hstill (below_of_outputPaths hpaths)]
  constructor
  · rintro ⟨-, others, hothers, hperm⟩
    cases hentries.symm.trans hothers
    exact hperm
  · intro hperm
    exact ⟨hperm.length_eq.trans (length_of_mapM hentries), entries, hentries, hperm⟩

end Result

/-- Numbers for tensors, with the sum of tokens and mask as the feature. -/
def sumOps : FeatureOps ℕ where
  unsqueeze := .ok
  featureFn tokens mask := .ok (tokens + mask)
  exported := .ok

def twoRuns (second : String) : EpisodeTree ℕ where
  entries := [([], .directory), (["in".toList], .directory),
    (["in".toList, "run_1".toList], .directory), (["in".toList, "run_2".toList], .directory),
    (["in".toList, "run_1".toList, "episode_000000.pt".toList],
      .file (.episode [("task_tokens", 5), ("task_attention_mask", 1)])),
    (["in".toList, "run_2".toList, second.toList],
      .file (.episode [("task_tokens", 7), ("task_attention_mask", 1)]))]
  nodup := by simp

theorem distinct_names_kept :
    ∃ n final, precomputeEpisodeFeatures sumOps ["in".toList] ["out".toList] "hidden" none
        (twoRuns "episode_000001.pt") = .ok (n, final) ∧
      LosesNoEpisode sumOps "hidden" ["out".toList] (twoRuns "episode_000001.pt")
        (processedFiles ["in".toList] ["out".toList] none (twoRuns "episode_000001.pt")) n
        final := by
  obtain ⟨n, final, h⟩ : ∃ n final, precomputeEpisodeFeatures sumOps ["in".toList] ["out".toList]
      "hidden" none (twoRuns "episode_000001.pt") = .ok (n, final) := ⟨_, _, rfl⟩
  exact ⟨n, final, h, (losesNoEpisode_iff rfl h).mpr (by decide)⟩

/-- Two runs that number their episodes from zero leave one file for two. -/
theorem same_name_overwritten :
    ∃ n final, (twoRuns "episode_000000.pt").below (episodesDir ["out".toList]) = [] ∧
      precomputeEpisodeFeatures sumOps ["in".toList] ["out".toList] "hidden" none
        (twoRuns "episode_000000.pt") = .ok (n, final) ∧
      ¬LosesNoEpisode sumOps "hidden" ["out".toList] (twoRuns "episode_000000.pt")
        (processedFiles ["in".toList] ["out".toList] none (twoRuns "episode_000000.pt")) n final :=
  ⟨_, _, rfl, rfl, fun h => absurd h.count (by decide)⟩

end SmolVlaQgf.PrecomputedFeatures
