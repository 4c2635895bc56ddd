import Mathlib.Data.List.Infix
import SmolVlaQgf.OrderedTables

/-!
# File trees

A file tree maps paths, which are lists of components, to directories and files. Directories are
made with their parents, and a file that is written replaces the one of the same path. Writing a
list of files into an empty directory therefore leaves all of them only if their paths are distinct.
-/

namespace SmolVlaQgf.FileTrees
open OrderedTables

inductive Node (C : Type) where
  | directory
  | file (content : C)

/-- The nodes of a file system, one for each path that exists. -/
structure FileTree (α C : Type) where
  entries : List (List α × Node C)
  nodup : (entries.map Prod.fst).Nodup

inductive FileError where
  | notADirectory
  | isADirectory
  | noSuchFile
  | sameFile

variable {α C : Type} [DecidableEq α]

def Below (dir path : List α) : Prop := dir <+: path ∧ path ≠ dir

instance (dir path : List α) : Decidable (Below dir path) := inferInstanceAs (Decidable (_ ∧ _))

omit [DecidableEq α] in
theorem not_below_of_isPrefix {dir path : List α} (h : path <+: dir) : ¬Below dir path :=
  fun hbelow => hbelow.2 (h.eq_of_length_le hbelow.1.length_le)

namespace FileTree

/-! ## Nodes -/

def node (tree : FileTree α C) (path : List α) : Option (Node C) := valueAt tree.entries path

def put (tree : FileTree α C) (path : List α) (node : Node C) : FileTree α C where
  entries := assign path node tree.entries
  nodup := nodup_keys_update tree.nodup

def below (tree : FileTree α C) (dir : List α) : List (List α × Node C) :=
  tree.entries.filter fun entry => decide (Below dir entry.1)

variable {tree tree' : FileTree α C} {path dir : List α}

theorem node_put (tree : FileTree α C) (path : List α) (node : Node C) (other : List α) :
    (tree.put path node).node other = if other = path then some node else tree.node other :=
  valueAt_assign _ _ _ _

theorem below_put (tree : FileTree α C) (path : List α) (node : Node C) (dir : List α) :
    (tree.put path node).below dir =
      if Below dir path then assign path node (tree.below dir) else tree.below dir := by
  rw [below, put, filter_assign (fun path => decide (Below dir path))]
  simp only [decide_eq_true_eq]
  rfl

theorem nodup_below (tree : FileTree α C) (dir : List α) :
    ((tree.below dir).map Prod.fst).Nodup :=
  tree.nodup.sublist (List.filter_sublist.map _)

/-- A directory is empty if no path below it exists. -/
theorem below_eq_nil_iff :
    tree.below dir = [] ↔ ∀ path, Below dir path → tree.node path = none := by
  rw [below, List.filter_eq_nil_iff]
  constructor
  · intro h path hbelow
    rw [node, valueAt_eq_none_iff, List.mem_map]
    rintro ⟨entry, hentry, rfl⟩
    exact h entry hentry (decide_eq_true hbelow)
  · intro h entry hentry hbelow
    exact valueAt_eq_none_iff.mp (h entry.1 (of_decide_eq_true hbelow)) (List.mem_map_of_mem hentry)

def putAll (tree : FileTree α C) (entries : List (List α × Node C)) : FileTree α C :=
  entries.foldl (fun tree entry => tree.put entry.1 entry.2) tree

theorem below_putAll {entries : List (List α × Node C)}
    (h : ∀ entry ∈ entries, Below dir entry.1) :
    (tree.putAll entries).below dir =
      entries.foldl (fun table entry => assign entry.1 entry.2 table) (tree.below dir) := by
  induction entries generalizing tree with
  | nil => rfl
  | cons entry rest ih =>
    rw [putAll, List.foldl_cons, List.foldl_cons]
    refine (ih fun e he => h e (List.mem_cons_of_mem _ he)).trans ?_
    rw [below_put, if_pos (h entry List.mem_cons_self)]

theorem mem_keys_below :
    path ∈ (tree.below dir).map Prod.fst ↔ Below dir path ∧ tree.node path ≠ none := by
  rw [node, ne_eq, valueAt_eq_none_iff, not_not, below]
  simp only [List.mem_map, List.mem_filter, decide_eq_true_eq]
  constructor
  · rintro ⟨entry, ⟨hentry, hbelow⟩, rfl⟩
    exact ⟨hbelow, entry, hentry, rfl⟩
  · rintro ⟨hbelow, entry, hentry, rfl⟩
    exact ⟨entry, ⟨hentry, hbelow⟩, rfl⟩

theorem node_putAll_of_not_mem {entries : List (List α × Node C)}
    (h : path ∉ entries.map Prod.fst) : (tree.putAll entries).node path = tree.node path := by
  induction entries generalizing tree with
  | nil => rfl
  | cons entry rest ih =>
    rw [List.map_cons, List.mem_cons, not_or] at h
    rw [putAll, List.foldl_cons]
    refine (ih h.2).trans ?_
    rw [node_put, if_neg h.1]

/-- Of nodes that are put at distinct paths, each is found at its path. -/
theorem node_putAll_of_mem {entries : List (List α × Node C)} {node : Node C}
    (hnodup : (entries.map Prod.fst).Nodup) (h : (path, node) ∈ entries) :
    (tree.putAll entries).node path = some node := by
  induction entries generalizing tree with
  | nil => simp at h
  | cons entry rest ih =>
    rw [List.map_cons, List.nodup_cons] at hnodup
    rw [putAll, List.foldl_cons]
    rcases List.mem_cons.mp h with rfl | hrest
    · refine (node_putAll_of_not_mem hnodup.1).trans ?_
      rw [node_put, if_pos rfl]
    · exact ih hnodup.2 hrest

/-- An empty directory keeps what is put into it exactly if the paths are distinct. -/
theorem below_putAll_perm_iff {entries : List (List α × Node C)} (hempty : tree.below dir = [])
    (h : ∀ entry ∈ entries, Below dir entry.1) :
    ((tree.putAll entries).below dir).Perm entries ↔ (entries.map Prod.fst).Nodup := by
  constructor
  · intro hperm
    exact (hperm.map Prod.fst).nodup_iff.mp (nodup_below _ _)
  · intro hnodup
    rw [below_putAll h, hempty, foldl_assign_of_nodup (by simpa using hnodup), List.nil_append]

/-! ## Operations -/

/-- `os.mkdir` of a directory that may exist. -/
def mkdir (path : List α) (tree : FileTree α C) : Except FileError (FileTree α C) :=
  match tree.node path with
  | none => .ok (tree.put path .directory)
  | some .directory => .ok tree
  | some (.file _) => .error .notADirectory

/-- `mkdir(parents=True, exist_ok=True)` -/
def mkdirs (path : List α) (tree : FileTree α C) : Except FileError (FileTree α C) :=
  path.inits.foldlM (fun tree path => mkdir path tree) tree

def writeFile (path : List α) (content : C) (tree : FileTree α C) :
    Except FileError (FileTree α C) :=
  match tree.node path, tree.node path.dropLast with
  | some .directory, _ => .error .isADirectory
  | _, some .directory => .ok (tree.put path (.file content))
  | _, some (.file _) => .error .notADirectory
  | _, none => .error .noSuchFile

def copyTarget (source target : List α) (tree : FileTree α C) : List α :=
  match tree.node target, source.getLast? with
  | some .directory, some name => target ++ [name]
  | _, _ => target

/-- `shutil.copy2` -/
def copyFile (source target : List α) (tree : FileTree α C) : Except FileError (FileTree α C) :=
  if source = copyTarget source target tree then .error .sameFile
  else
    match tree.node source with
    | some (.file content) => tree.writeFile (copyTarget source target tree) content
    | some .directory => .error .isADirectory
    | none => .error .noSuchFile

theorem eq_put_of_writeFile {content : C} (h : tree.writeFile path content = .ok tree') :
    tree' = tree.put path (.file content) := by
  rw [writeFile] at h
  split at h <;> cases h
  rfl

theorem eq_put_of_copyFile {source target : List α}
    (h : copyFile source target tree = .ok tree') :
    ∃ content, tree' = tree.put (copyTarget source target tree) (.file content) := by
  rw [copyFile] at h
  split_ifs at h
  split at h
  · exact ⟨_, eq_put_of_writeFile h⟩
  · cases h
  · cases h

def AddsDirectories (paths : List α → Prop) (tree tree' : FileTree α C) : Prop :=
  ∀ path, tree'.node path = tree.node path ∨
    paths path ∧ tree.node path = none ∧ tree'.node path = some .directory

theorem AddsDirectories.trans {paths : List α → Prop} {tree'' : FileTree α C}
    (h : AddsDirectories paths tree tree') (h' : AddsDirectories paths tree' tree'') :
    AddsDirectories paths tree tree'' := by
  intro path
  rcases h' path with hsame | ⟨hpath, hnone, hnew⟩
  · rcases h path with hfirst | ⟨hpath, hnone, hnew⟩
    · exact Or.inl (hsame.trans hfirst)
    · exact Or.inr ⟨hpath, hnone, hsame.trans hnew⟩
  · rcases h path with hfirst | ⟨-, -, hdirectory⟩
    · exact Or.inr ⟨hpath, hfirst.symm.trans hnone, hnew⟩
    · rw [hdirectory] at hnone
      cases hnone

theorem addsDirectories_of_mkdir {paths : List α → Prop} (hpath : paths path)
    (h : mkdir path tree = .ok tree') : AddsDirectories paths tree tree' := by
  rw [mkdir] at h
  split at h
  next hnone =>
    cases h
    intro other
    rw [node_put]
    split_ifs with hother
    · exact Or.inr ⟨hother ▸ hpath, hother ▸ hnone, rfl⟩
    · exact Or.inl rfl
  next =>
    cases h
    exact fun _ => Or.inl rfl
  next => cases h

theorem addsDirectories_of_foldlM {paths : List α → Prop} {dirs : List (List α)}
    (hdirs : ∀ dir ∈ dirs, paths dir)
    (h : dirs.foldlM (fun tree path => mkdir path tree) tree = .ok tree') :
    AddsDirectories paths tree tree' := by
  induction dirs generalizing tree with
  | nil =>
    cases h
    exact fun _ => Or.inl rfl
  | cons dir rest ih =>
    rw [List.foldlM_cons] at h
    cases hdir : mkdir dir tree with
    | error e =>
      rw [hdir] at h
      cases h
    | ok made =>
      rw [hdir] at h
      exact (addsDirectories_of_mkdir (hdirs dir List.mem_cons_self) hdir).trans
        (ih (fun d hd => hdirs d (List.mem_cons_of_mem _ hd)) h)

/-- Making a directory makes only directories on the way to it. -/
theorem addsDirectories_of_mkdirs (h : mkdirs path tree = .ok tree') :
    AddsDirectories (· <+: path) tree tree' :=
  addsDirectories_of_foldlM (fun _ hdir => (List.mem_inits _ _).mp hdir) h

end FileTree

end SmolVlaQgf.FileTrees
