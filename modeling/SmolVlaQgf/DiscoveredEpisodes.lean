import SmolVlaQgf.EpisodeDataset

/-!
# The files a trainer discovers

`discover_episode_files` collects every transition table below the dataset root, wherever it
lies: the path components decide about a match, and hidden directories are not left out.
-/

namespace SmolVlaQgf.DiscoveredEpisodes
open FieldText CaptureValidation EpisodeDataset

variable {K : Type}

/-! ## The file tree -/

abbrev Path := List Text

/-- The names in an episode directory, with the files that have them. -/
def entryTable : List (String × (EpisodeFiles K → Bool)) :=
  [("samples.jsonl", fun files => files.capture.samples.isFile),
    ("normalized_policy_chunks.jsonl", fun files => files.capture.chunks.isFile),
    ("policy_observations.jsonl", fun files => files.capture.policyObservations.isFile),
    ("capture_summary.json", fun files => files.capture.summary.isFile)] ++
  videoFiles.map (fun video => (video.name, fun files => files.capture.videos video)) ++
  [("transitions.parquet", fun files => files.transitions.isSome),
    ("normalized_policy_chunks.parquet", fun files => files.normalizedPolicyChunks.isSome),
    ("policy_observations.parquet", fun files => files.policyObservations.isSome),
    ("episode_metadata.json", fun files => files.metadata.isFile)]

def rootTable : List (String × (Dataset K → Bool)) :=
  [("episodes", fun _ => true), (".staging", fun _ => true),
    ("episodes.jsonl", fun d => d.manifest.isSome),
    (".episodes.jsonl.tmp", fun d => d.manifestTmp.isSome),
    ("dataset_summary.json", fun d => d.summary.isSome),
    (".dataset_summary.json.tmp", fun d => d.summaryTmp.isSome)]

def present {α : Type} (table : List (String × (α → Bool))) (x : α) : List Text :=
  (table.filter fun entry => entry.2 x).map fun entry => entry.1.toList

def directoryTree (path : Path) (files : EpisodeFiles K) : List Path :=
  path :: (present entryTable files).map fun name => path ++ [name]

def committedPath (name : Text) : Path := ["episodes".toList, name]

def stagedPath (name : Text) : Path := [".staging".toList, name]

/-- A complete listing of the directories under `.staging`. -/
structure StagingListing (d : Dataset K) where
  names : List Text
  nodup : names.Nodup
  mem_iff : ∀ name, name ∈ names ↔ (d.staging name).isSome = true

def stagedTree (d : Dataset K) (name : Text) : List Path :=
  match d.staging name with
  | some files => directoryTree (stagedPath name) files
  | none => []

def tree (d : Dataset K) (staged : List Text) : List Path :=
  (present rootTable d).map ([·]) ++
    d.episodes.flatMap (fun episode => directoryTree (committedPath episode.name) episode.files) ++
      staged.flatMap (stagedTree d)

/-! ## Discovery -/

/-- `rglob` with a pattern for the last component. -/
def rglob (pattern : Text → Bool) (tree : List Path) : List Path :=
  tree.filter fun path => path.getLast?.any pattern

/-- The pattern `episode_*.pt`. -/
def isEpisodeTensor (name : Text) : Bool := (suffix? name).any (".pt".toList.isSuffixOf ·)

/-- The pattern `transitions.parquet`. -/
def isTransitionTable (name : Text) : Bool := name == "transitions.parquet".toList

/-- `str(path)` -/
def pathText (path : Path) : Text := ['/'].intercalate path

/-- `discover_episode_files` -/
def discoverEpisodeFiles (tree : List Path) : List Path :=
  (rglob isEpisodeTensor tree ++ rglob isTransitionTable tree).mergeSort
    fun a b => decide (pathText a ≤ pathText b)

def tableOf (path : Path) : Path := path ++ ["transitions.parquet".toList]

def Unmatched (name : Text) : Prop := isEpisodeTensor name = false ∧ isTransitionTable name = false

theorem rglob_append (pattern : Text → Bool) (a b : List Path) :
    rglob pattern (a ++ b) = rglob pattern a ++ rglob pattern b := List.filter_append ..

theorem rglob_flatMap {α : Type} (pattern : Text → Bool) (items : List α) (f : α → List Path) :
    rglob pattern (items.flatMap f) = items.flatMap fun x => rglob pattern (f x) := by
  induction items with
  | nil => rfl
  | cons x items ih => rw [List.flatMap_cons, rglob_append, ih, List.flatMap_cons]

theorem filter_present {α : Type} (pattern : Text → Bool) (table : List (String × (α → Bool)))
    (x : α) : (present table x).filter pattern =
      present (table.filter fun entry => pattern entry.1.toList) x := by
  rw [present, present, List.filter_map, List.filter_filter, List.filter_filter]
  congr 2
  funext entry
  exact Bool.and_comm _ _

theorem rglob_map_append (pattern : Text → Bool) (path : Path) (names : List Text) :
    rglob pattern (names.map fun name => path ++ [name]) =
      (names.filter pattern).map fun name => path ++ [name] := by
  rw [rglob, List.filter_map]
  congr 2
  funext name
  simp

private theorem not_isEpisodeTensor_of_mem_entryTable {name : String}
    (h : name ∈ (entryTable (K := K)).map Prod.fst) : isEpisodeTensor name.toList = false := by
  have hall : ∀ name ∈ (entryTable (K := Unit)).map Prod.fst,
      isEpisodeTensor name.toList = false := by decide
  exact hall name h

section Directories

variable (path : Path) {name : Text} (files : EpisodeFiles K)

theorem rglob_tensor_directoryTree (hname : isEpisodeTensor name = false) :
    rglob isEpisodeTensor (directoryTree (path ++ [name]) files) = [] := by
  have hentries : (entryTable (K := K)).filter (fun entry => isEpisodeTensor entry.1.toList) = [] :=
    List.filter_eq_nil_iff.mpr fun entry hentry => by
      simp [not_isEpisodeTensor_of_mem_entryTable (List.mem_map_of_mem hentry)]
  have hhead : rglob isEpisodeTensor [path ++ [name]] = [] := by simp [rglob, hname]
  rw [directoryTree, ← List.singleton_append, rglob_append, rglob_map_append, filter_present,
    hentries, hhead]
  rfl

theorem rglob_table_directoryTree (hname : isTransitionTable name = false) :
    rglob isTransitionTable (directoryTree (path ++ [name]) files) =
      if files.transitions.isSome then [tableOf (path ++ [name])] else [] := by
  have hentries : (entryTable (K := K)).filter (fun entry => isTransitionTable entry.1.toList) =
      [("transitions.parquet", fun files => files.transitions.isSome)] := by
    simp [entryTable, isTransitionTable, videoFiles, VideoFile.name]
  have hhead : rglob isTransitionTable [path ++ [name]] = [] := by simp [rglob, hname]
  rw [directoryTree, ← List.singleton_append, rglob_append, rglob_map_append, filter_present,
    hentries, hhead]
  cases htable : files.transitions.isSome <;> simp [present, htable, tableOf]

end Directories

end SmolVlaQgf.DiscoveredEpisodes
