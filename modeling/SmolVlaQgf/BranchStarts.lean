import SmolVlaQgf.RestoredSnapshots

/-!
# The start of a branch

A snapshot is restored for every branch of a probe. Whatever the environment has done since the
snapshot was taken, and however often it has been restored, the objects that it covers read again
what they read when it was taken, as long as shared arrays were recorded with equal values.
-/

namespace SmolVlaQgf.BranchStarts
open ArrayMemory OrderedTables SimulatorSnapshots RestoredSnapshots TransitionRuns

variable {V S X Q : Type} {P : ℕ → Prop}

/-! ## The jobs of a restore -/

abbrev Job (S : Type) := ℕ × String × Saved S

def stateJobs (object : ℕ) (state : SavedState S) : List (Job S) :=
  state.map fun saved => (object, saved)

def optionalJobs (object : Option ℕ) (state : SavedState S) : List (Job S) :=
  object.toList.flatMap fun object => stateJobs object state

def robotJobs (robot : RobotParts × RobotState S) : List (Job S) :=
  stateJobs robot.1.robot robot.2.robot ++ optionalJobs robot.1.controller robot.2.controller ++
    optionalJobs robot.1.gripper robot.2.gripper

/-- What `restore_snapshot` restores, in order. -/
def jobs (parts : Parts) (snapshot : Snapshot S Q) : List (Job S) :=
  stateJobs parts.env snapshot.env ++ optionalJobs parts.wrapped snapshot.wrapped ++
    stateJobs parts.inner snapshot.inner ++
      (parts.robots.zip snapshot.robots).flatMap robotJobs

def restoreJobs (w : World V S X) (jobs : List (Job S)) : World V S X :=
  jobs.foldl (fun w job => w.restoreEntry job.1 job.2) w

private theorem restoreJobs_append (w : World V S X) (first rest : List (Job S)) :
    restoreJobs w (first ++ rest) = restoreJobs (restoreJobs w first) rest := List.foldl_append

private theorem restoreJobs_stateJobs (w : World V S X) (object : ℕ) (state : SavedState S) :
    restoreJobs w (stateJobs object state) = w.restoreSimpleState object state := List.foldl_map

private theorem optionalJobs_some (object : ℕ) (state : SavedState S) :
    optionalJobs (some object) state = stateJobs object state := by
  rw [optionalJobs, Option.toList_some, List.flatMap_singleton]

private theorem restoreJobs_optionalJobs (w : World V S X) (object : Option ℕ)
    (state : SavedState S) :
    restoreJobs w (optionalJobs object state) = w.restoreOptional object state := by
  cases object with
  | none => rfl
  | some object =>
    rw [optionalJobs_some, restoreJobs_stateJobs]
    rfl

private theorem restoreJobs_robots (w : World V S X) (robots : List (RobotParts × RobotState S)) :
    restoreJobs w (robots.flatMap robotJobs) =
      robots.foldl (fun w robot => w.restoreRobot robot.1 robot.2) w := by
  induction robots generalizing w with
  | nil => rfl
  | cons robot robots ih =>
    rw [List.flatMap_cons, restoreJobs_append, ih, List.foldl_cons, robotJobs, restoreJobs_append,
      restoreJobs_append, restoreJobs_stateJobs, restoreJobs_optionalJobs, restoreJobs_optionalJobs]
    rfl

private theorem restoreObjects_eq (w : World V S X) (snapshot : Snapshot S Q) :
    w.restoreObjects snapshot = restoreJobs w (jobs w.parts snapshot) := by
  rw [jobs, restoreJobs_append, restoreJobs_append, restoreJobs_append, restoreJobs_robots,
    restoreJobs_stateJobs, restoreJobs_stateJobs, restoreJobs_optionalJobs]
  rfl

def entriesOf (m : Memory V) (jobs : List (Job S)) : List (Entry V S) :=
  jobs.map fun job => entryOf m job.1 job.2

/-- Saved values keep their contents as long as private cells do. -/
theorem savedContent_congr {m m' : Memory V} {saved : Saved S} (howned : Owned P saved)
    (h : ∀ cell, P cell → m'.value cell = m.value cell) :
    savedContent m' saved = savedContent m saved := by
  cases saved with
  | ndarray ref =>
    exact congrArg Content.ndarray
      (Memory.contents_congr fun cell hcell => h cell (howned cell hcell))
  | _ => rfl

private theorem entriesOf_congr {m m' : Memory V} {jobs : List (Job S)}
    (howned : ∀ job ∈ jobs, Owned P job.2.2)
    (h : ∀ cell, P cell → m'.value cell = m.value cell) : entriesOf m' jobs = entriesOf m jobs := by
  refine List.map_congr_left fun job hjob => ?_
  rw [entryOf, entryOf, savedContent_congr (howned job hjob) h]

def Distinct (entries : List (Entry V S)) : Prop :=
  (entries.map fun entry => (entry.object, entry.key)).Nodup

private theorem restored_restoreJobs {w : World V S X} {jobs : List (Job S)} (hvalid : Valid P w)
    (howned : ∀ job ∈ jobs, Owned P job.2.2) (hdistinct : Distinct (entriesOf w.memory jobs))
    (hwriteable : ∀ entry ∈ entriesOf w.memory jobs, Writeable w entry) :
    Restored P w (entriesOf w.memory jobs) (restoreJobs w jobs) := by
  induction jobs generalizing w with
  | nil => exact restored_nil hvalid
  | cons job jobs ih =>
    have hfirst := restored_restoreEntry hvalid
      (hwriteable (entryOf w.memory job.1 job.2) List.mem_cons_self)
    rw [Distinct, entriesOf, List.map_cons, List.map_cons, List.nodup_cons] at hdistinct
    have hapart : Apart [entryOf w.memory job.1 job.2] (entriesOf w.memory jobs) := by
      intro entry hentry other hother hsame
      obtain rfl := List.mem_singleton.mp hentry
      refine hdistinct.1 (List.mem_map.mpr ⟨other, hother, ?_⟩)
      rw [hsame.1, hsame.2]
    have hentries : entriesOf (w.restoreEntry job.1 job.2).memory jobs = entriesOf w.memory jobs :=
      entriesOf_congr (fun job hjob => howned job (List.mem_cons_of_mem _ hjob))
        (hfirst.private_value hvalid)
    have hrest := ih (w := w.restoreEntry job.1 job.2) hfirst.valid
      (fun job hjob => howned job (List.mem_cons_of_mem _ hjob))
      (by rw [hentries]; exact hdistinct.2) ?_
    · rw [hentries] at hrest
      exact hfirst.append hrest hvalid hapart
    · intro entry hentry target htarget
      rw [hentries] at hentry
      have hsame : (((w.restoreEntry job.1 job.2).attributes entry.object).get? entry.key) =
          (w.attributes entry.object).get? entry.key :=
        hfirst.others _ _ fun other hother hsame =>
          hapart other hother entry hentry ⟨hsame.1.symm, hsame.2.symm⟩
      rw [target?_congr hsame] at htarget
      exact hwriteable entry (List.mem_cons_of_mem _ hentry) target htarget

/-! ## Taking a snapshot -/

/-- A memory has been extended; the cells in use are not changed. -/
structure Extends (m m' : Memory V) : Prop where
  next : m.next ≤ m'.next
  value : ∀ cell < m.next, m'.value cell = m.value cell
  convert : ∀ cell < m.next, m'.convert cell = m.convert cell

theorem Extends.refl (m : Memory V) : Extends m m := ⟨Nat.le_refl _, fun _ _ => rfl, fun _ _ => rfl⟩

theorem Extends.trans {m m' m'' : Memory V} (h : Extends m m') (h' : Extends m' m'') :
    Extends m m'' where
  next := Nat.le_trans h.next h'.next
  value := fun cell hcell => by
    rw [h'.value cell (Nat.lt_of_lt_of_le hcell h.next), h.value cell hcell]
  convert := fun cell hcell => by
    rw [h'.convert cell (Nat.lt_of_lt_of_le hcell h.next), h.convert cell hcell]

private theorem extends_copy (m : Memory V) (ref : ArrayRef) : Extends m (m.copy ref).2 where
  next := by simp
  value := fun _ hcell => Memory.copy_value_of_lt hcell
  convert := fun _ hcell => Memory.copy_convert_of_lt hcell

def Fresh (m m' : Memory V) (cell : ℕ) : Prop := m.next ≤ cell ∧ cell < m'.next

def objectEntries (w : World V S X) (object : ℕ) : List (Entry V S) :=
  (w.attributes object).entries.filterMap fun attr =>
    (content? w.memory attr.2).map fun content => ⟨object, attr.1, content⟩

/-- The objects of a snapshot, in the order in which they are restored. -/
def objects (parts : Parts) : List ℕ :=
  parts.env :: parts.wrapped.toList ++ [parts.inner] ++ parts.robots.flatMap fun robot =>
    robot.robot :: robot.controller.toList ++ robot.gripper.toList

def recordedEntries (w : World V S X) : List (Entry V S) :=
  (objects w.parts).flatMap (objectEntries w)

/-- Jobs have been recorded into new cells, and keep their entries while the memory is extended. -/
structure Records (m m' : Memory V) (jobs : List (Job S)) (entries : List (Entry V S)) : Prop where
  extension : Extends m m'
  owned : ∀ job ∈ jobs, Owned (Fresh m m') job.2.2
  entries : ∀ m'', Extends m' m'' → entriesOf m'' jobs = entries

private theorem owned_mono {P P' : ℕ → Prop} {saved : Saved S} (h : Owned P saved)
    (hle : ∀ cell, P cell → P' cell) : Owned P' saved := by
  cases saved with
  | ndarray ref => exact fun cell hcell => hle cell (h cell hcell)
  | _ => trivial

theorem Records.append {m m' m'' : Memory V} {first rest : List (Job S)}
    {entries more : List (Entry V S)} (h : Records m m' first entries)
    (h' : Records m' m'' rest more) : Records m m'' (first ++ rest) (entries ++ more) where
  extension := h.extension.trans h'.extension
  owned := by
    intro job hjob
    rcases List.mem_append.mp hjob with hjob | hjob
    · exact owned_mono (h.owned job hjob) fun cell hcell =>
        ⟨hcell.1, Nat.lt_of_lt_of_le hcell.2 h'.extension.next⟩
    · exact owned_mono (h'.owned job hjob) fun cell hcell =>
        ⟨Nat.le_trans h.extension.next hcell.1, hcell.2⟩
  entries := by
    intro m₃ hextends
    have hfirst := h.entries m₃ (h'.extension.trans hextends)
    have hrest := h'.entries m₃ hextends
    rw [entriesOf] at hfirst hrest
    rw [entriesOf, List.map_append, hfirst, hrest]

theorem Records.of_extends {m m' : Memory V} (h : Extends m m') :
    Records m m' ([] : List (Job S)) [] :=
  ⟨h, by simp, fun _ _ => rfl⟩

variable {w : World V S X} {m m' : Memory V}

theorem saveValue_records (hextends : Extends w.memory m) (object : ℕ) (key : String)
    {value : Value S} (hused : ∀ ref, value = .ndarray ref → ∀ cell ∈ ref.cells,
      cell < w.memory.next) :
    Records m (saveValue m value).2 (stateJobs object ((saveValue m value).1.toList.map (key, ·)))
      ((content? w.memory value).toList.map fun content => ⟨object, key, content⟩) := by
  cases value with
  | ndarray ref =>
    refine ⟨extends_copy m ref, ?_, fun m'' hextends' => ?_⟩
    · intro job hjob
      obtain rfl := List.mem_singleton.mp hjob
      exact fun cell hcell => Memory.mem_cells_copy.mp hcell
    · have hcopy : m''.contents (m.copy ref).1 = w.memory.contents ref := by
        have hkept : m''.contents (m.copy ref).1 = (m.copy ref).2.contents (m.copy ref).1 :=
          Memory.contents_congr fun cell hcell =>
            hextends'.value cell (Memory.mem_cells_copy.mp hcell).2
        rw [hkept, Memory.contents_copy]
        exact Memory.contents_congr fun cell hcell => hextends.value cell (hused ref rfl cell hcell)
      exact congrArg (fun c => [Entry.mk object key (Content.ndarray c)]) hcopy
  | scalar value => exact ⟨.refl m, by simp [stateJobs, saveValue, Owned], fun _ _ => rfl⟩
  | sequence isTuple items =>
    exact ⟨.refl m, by simp [stateJobs, saveValue, Owned], fun _ _ => rfl⟩
  | other id => exact ⟨.refl m, by simp [stateJobs, saveValue], fun _ _ => rfl⟩

private theorem simpleState_records (hextends : Extends w.memory m) (object : ℕ)
    {attributes : List (String × Value S)} (hused : ∀ attr ∈ attributes, ∀ ref,
      attr.2 = .ndarray ref → ∀ cell ∈ ref.cells, cell < w.memory.next) :
    Records m (simpleState attributes m).2 (stateJobs object (simpleState attributes m).1)
      (attributes.filterMap fun attr => (content? w.memory attr.2).map fun content =>
        ⟨object, attr.1, content⟩) := by
  induction attributes generalizing m with
  | nil => exact .of_extends (.refl m)
  | cons attr attributes ih =>
    obtain ⟨key, value⟩ := attr
    have hfirst := saveValue_records hextends object key (hused _ List.mem_cons_self)
    have hrest := ih (m := (saveValue m value).2) (hextends.trans hfirst.extension)
      fun attr hattr => hused attr (List.mem_cons_of_mem _ hattr)
    have happend := hfirst.append hrest
    rw [stateJobs, stateJobs, ← List.map_append] at happend
    rw [List.filterMap_cons]
    cases hcontent : content? w.memory value with
    | none =>
      rw [hcontent] at happend
      exact happend
    | some content =>
      rw [hcontent] at happend
      exact happend

theorem simpleStateOf_records (hvalid : Valid (fun _ => False) w) (hextends : Extends w.memory m)
    (object : Option ℕ) :
    Records m (simpleStateOf w object m).2 (optionalJobs object (simpleStateOf w object m).1)
      (object.toList.flatMap (objectEntries w)) := by
  cases object with
  | none => exact .of_extends (.refl m)
  | some object =>
    rw [optionalJobs_some, Option.toList_some, List.flatMap_singleton]
    refine simpleState_records hextends object fun attr hattr ref href cell hcell => ?_
    have hget : (w.attributes object).get? attr.1 = some (.ndarray ref) := by
      rw [← href]
      exact (lookup_eq_some_iff (w.attributes object).nodup).mpr hattr
    exact (hvalid.attributes object attr.1 ref hget cell hcell).1

private theorem saveExtra_extends (names : List String) (m : Memory V) :
    Extends m (saveExtra w names m).2 := by
  induction names generalizing m with
  | nil => exact .refl m
  | cons name names ih =>
    rw [saveExtra]
    split
    next ref _ => exact (extends_copy m ref).trans (ih _)
    next => exact ih m

private theorem saveRobots_records (hvalid : Valid (fun _ => False) w)
    (hextends : Extends w.memory m)
    (robots : List RobotParts) :
    Records m (saveRobots w robots m).2 ((robots.zip (saveRobots w robots m).1).flatMap robotJobs)
      ((robots.flatMap fun robot =>
        robot.robot :: robot.controller.toList ++ robot.gripper.toList).flatMap
          (objectEntries w)) := by
  induction robots generalizing m with
  | nil => exact .of_extends (.refl m)
  | cons robot robots ih =>
    have hrobot := simpleStateOf_records hvalid hextends (some robot.robot)
    have hcontroller := simpleStateOf_records hvalid (hextends.trans hrobot.extension)
      robot.controller
    have hgripper := simpleStateOf_records hvalid
      ((hextends.trans hrobot.extension).trans hcontroller.extension) robot.gripper
    have hrest := ih (((hextends.trans hrobot.extension).trans hcontroller.extension).trans
      hgripper.extension)
    have happend := ((hrobot.append hcontroller).append hgripper).append hrest
    simpa [saveRobots, robotJobs, optionalJobs, List.flatMap_cons, List.flatMap_append,
      List.append_assoc] using happend

/-- The entries of a snapshot are what has been recorded of the objects. -/
theorem makeSnapshot_records (simulator : Simulator V S X Q) (hvalid : Valid (fun _ => False) w) :
    Records w.memory (makeSnapshot simulator w).2.memory
      (jobs w.parts (makeSnapshot simulator w).1) (recordedEntries w) := by
  have henv := simpleStateOf_records hvalid (.refl _) (some w.parts.env)
  have hwrapped := simpleStateOf_records hvalid henv.extension w.parts.wrapped
  have hinner := simpleStateOf_records hvalid (henv.extension.trans hwrapped.extension)
    (some w.parts.inner)
  have hextends := (henv.extension.trans hwrapped.extension).trans hinner.extension
  have hextra := hextends.trans (saveExtra_extends (w := w) simExtraNames _)
  have hrobots := saveRobots_records hvalid hextra w.parts.robots
  have happend := (((henv.append hwrapped).append hinner).append
    (.of_extends (saveExtra_extends simExtraNames _))).append hrobots
  have hentries : recordedEntries w =
      (some w.parts.env).toList.flatMap (objectEntries w) ++
        w.parts.wrapped.toList.flatMap (objectEntries w) ++
        (some w.parts.inner).toList.flatMap (objectEntries w) ++ [] ++
          (w.parts.robots.flatMap fun robot => robot.robot :: robot.controller.toList ++
            robot.gripper.toList).flatMap (objectEntries w) := by
    simp [recordedEntries, objects, List.flatMap_cons, List.flatMap_append]
  rw [hentries]
  simp only [optionalJobs_some, List.append_nil] at happend ⊢
  exact happend

/-! ## What is recorded -/

private theorem mem_objectEntries {object : ℕ} {entry : Entry V S} :
    entry ∈ objectEntries w object ↔ entry.object = object ∧ Holds w entry := by
  have hget : ∀ value, (entry.key, value) ∈ (w.attributes object).entries ↔
      (w.attributes object).get? entry.key = some value :=
    fun value => (lookup_eq_some_iff (w.attributes object).nodup).symm
  rw [objectEntries, List.mem_filterMap]
  constructor
  · rintro ⟨⟨key, value⟩, hmem, hcontent⟩
    obtain ⟨content, hvalue, rfl⟩ := Option.map_eq_some_iff.mp hcontent
    refine ⟨rfl, ?_⟩
    rw [Holds, (hget value).mp hmem]
    exact hvalue
  · rintro ⟨rfl, hholds⟩
    obtain ⟨value, hvalue, hcontent⟩ := Option.bind_eq_some_iff.mp hholds
    exact ⟨(entry.key, value), (hget value).mpr hvalue, by simp [hcontent]⟩

private theorem holds_of_mem_recordedEntries {entry : Entry V S} (h : entry ∈ recordedEntries w) :
    Holds w entry := by
  obtain ⟨object, -, hentry⟩ := List.mem_flatMap.mp h
  exact (mem_objectEntries.mp hentry).2

/-- Recorded arrays are those of the attributes. -/
theorem exists_ref_of_holds {entry : Entry V S} {contents : Contents V} (h : Holds w entry)
    (hcontent : entry.content = .ndarray contents) :
    ∃ ref, (w.attributes entry.object).get? entry.key = some (.ndarray ref) ∧
      contents = w.memory.contents ref := by
  obtain ⟨value, hvalue, hvalueContent⟩ := Option.bind_eq_some_iff.mp h
  rw [hcontent] at hvalueContent
  cases value with
  | ndarray ref => exact ⟨ref, hvalue, by simpa [content?] using hvalueContent.symm⟩
  | scalar value => simp [content?] at hvalueContent
  | sequence isTuple items => simp [content?] at hvalueContent
  | other id => simp [content?] at hvalueContent

private theorem size_of_mem_recordedEntries {entry : Entry V S} (h : entry ∈ recordedEntries w)
    {contents : Contents V} (hcontent : entry.content = .ndarray contents) :
    contents.values.length = contents.shape.prod := by
  obtain ⟨ref, -, rfl⟩ := exists_ref_of_holds (holds_of_mem_recordedEntries h) hcontent
  rw [Memory.contents, List.length_map, ref.size]

private theorem keys_objectEntries_sublist (w : World V S X) (object : ℕ) :
    ((objectEntries w object).map Entry.key).Sublist
      ((w.attributes object).entries.map Prod.fst) := by
  rw [objectEntries]
  induction (w.attributes object).entries with
  | nil => exact .slnil
  | cons attr rest ih =>
    rw [List.filterMap_cons]
    cases content? w.memory attr.2 with
    | none => exact ih.cons attr.1
    | some content => exact ih.cons_cons attr.1

/-- Different objects, and different attributes of one, have different entries. -/
theorem distinct_recordedEntries (h : (objects w.parts).Nodup) : Distinct (recordedEntries w) := by
  rw [Distinct, recordedEntries, List.map_flatMap, List.nodup_flatMap]
  constructor
  · intro object _
    have hkeys : ((objectEntries w object).map Entry.key).Nodup :=
      (w.attributes object).nodup.sublist (keys_objectEntries_sublist w object)
    refine (List.nodup_map_iff_inj_on ?_).mpr ?_
    · exact hkeys.of_map _
    · intro entry hentry other hother hsame
      exact List.inj_on_of_nodup_map hkeys hentry hother (Prod.mk.inj hsame).2
  · refine h.imp fun {object other} hne => ?_
    intro pair hpair hpair'
    obtain ⟨entry, hentry, rfl⟩ := List.mem_map.mp hpair
    obtain ⟨entry', hentry', hsame⟩ := List.mem_map.mp hpair'
    have hobject := (mem_objectEntries.mp hentry).1
    have hobject' := (mem_objectEntries.mp hentry').1
    exact hne (hobject.symm.trans ((Prod.mk.inj hsame).1.symm.trans hobject'))

/-! ## Between the branches -/

/-- A change that leaves private cells as they are and gets no reference to them. -/
structure Confined (P : ℕ → Prop) (w w' : World V S X) : Prop where
  value : ∀ cell, P cell → w'.memory.value cell = w.memory.value cell
  next : w.memory.next ≤ w'.memory.next
  attributes : ∀ object key ref, (w'.attributes object).get? key = some (.ndarray ref) →
    ∀ cell ∈ ref.cells, cell < w'.memory.next ∧ ¬P cell

variable {w' w'' : World V S X}

theorem Confined.valid (h : Confined P w w') (hvalid : Valid P w) : Valid P w' where
  used := fun cell hcell => Nat.lt_of_lt_of_le (hvalid.used cell hcell) h.next
  attributes := h.attributes

theorem Confined.refl (hvalid : Valid P w) : Confined P w w :=
  ⟨fun _ _ => rfl, Nat.le_refl _, hvalid.attributes⟩

theorem Confined.trans (h : Confined P w w') (h' : Confined P w' w'') : Confined P w w'' where
  value := fun cell hcell => (h'.value cell hcell).trans (h.value cell hcell)
  next := Nat.le_trans h.next h'.next
  attributes := h'.attributes

private theorem assignArray_confined {object : ℕ} {key : String} {target : ArrayRef}
    (hvalid : Valid P w)
    (htarget : (w.attributes object).get? key = some (.ndarray target)) (value : ArrayRef) :
    Confined P w (w.assignArray target value) := by
  rw [World.assignArray]
  split
  · refine ⟨fun cell hcell => ?_, by simp, ?_⟩
    · refine Memory.storeAll_value_of_not_mem fun hmem => ?_
      obtain ⟨write, hwrite, rfl⟩ := List.mem_map.mp hmem
      exact (hvalid.attributes object key target htarget _ (List.of_mem_zip hwrite).1).2 hcell
    · simpa using hvalid.attributes
  · exact .refl hvalid

private theorem restoreEntry_confined (object : ℕ) (saved : String × Saved S) (hvalid : Valid P w) :
    Confined P w (w.restoreEntry object saved) := by
  by_cases hwriteable : Writeable w (entryOf w.memory object saved)
  · have hrestored := restored_restoreEntry hvalid hwriteable
    exact ⟨hrestored.private_value hvalid, hrestored.next, hrestored.valid.attributes⟩
  · rw [Writeable, not_forall] at hwriteable
    obtain ⟨target, hwriteable⟩ := hwriteable
    obtain ⟨htarget, -⟩ := Classical.not_imp.mp hwriteable
    obtain ⟨contents, hcontents, hget, hshape⟩ := target?_eq_some.mp htarget
    obtain ⟨key, saved⟩ := saved
    cases saved with
    | ndarray ref =>
      cases hcontents
      have hrestore : w.restoreEntry object (key, .ndarray ref) = w.assignArray target ref := by
        have hget' : (w.attributes object).get? key = some (.ndarray target) := hget
        have hshape' : target.shape = ref.shape := hshape
        simp only [World.restoreEntry, hget', if_pos hshape']
      rw [hrestore]
      exact assignArray_confined hvalid hget ref
    | scalar value => cases hcontents
    | sequence isTuple items => cases hcontents

private theorem restoreJobs_confined (hvalid : Valid P w) (jobs : List (Job S)) :
    Confined P w (restoreJobs w jobs) := by
  induction jobs generalizing w with
  | nil => exact .refl hvalid
  | cons job jobs ih =>
    have hfirst := restoreEntry_confined job.1 job.2 hvalid
    exact hfirst.trans (ih (hfirst.valid hvalid))

private theorem restoreExtraEntry_confined {entry : String × ArrayRef} (hvalid : Valid P w)
    (h : w.restoreExtraEntry entry = some w') : Confined P w w' := by
  rw [World.restoreExtraEntry] at h
  split at h
  next =>
    obtain rfl := Option.some.inj h
    exact .refl hvalid
  next target htarget =>
    split_ifs at h
    · obtain rfl := Option.some.inj h
      exact .refl hvalid
    · obtain rfl := Option.some.inj h
      exact assignArray_confined hvalid htarget entry.2
  next => cases h

private theorem restoreExtra_confined (hvalid : Valid P w) {extra : List (String × ArrayRef)}
    (h : w.restoreExtra extra = some w') : Confined P w w' := by
  induction extra generalizing w with
  | nil =>
    obtain rfl := Option.some.inj h
    exact .refl hvalid
  | cons entry extra ih =>
    obtain ⟨next, hnext, hrest⟩ := Option.bind_eq_some_iff.mp h
    have hfirst := restoreExtraEntry_confined hvalid hnext
    exact hfirst.trans (ih (hfirst.valid hvalid) hrest)

/-- MuJoCo has no reference to private cells. -/
structure Unaware (simulator : Simulator V S X Q) (P : ℕ → Prop) : Prop where
  setState : ∀ q w, Valid P w → Confined P w (simulator.setState q w)
  forward : ∀ w, Valid P w → Confined P w (simulator.forward w)

variable {simulator : Simulator V S X Q}

private theorem restoreSim_confined {snapshot : Snapshot S Q} (hsim : Unaware simulator P)
    (hvalid : Valid P w) (h : restoreSim simulator snapshot w = some w') : Confined P w w' := by
  obtain ⟨extra, hrestored, rfl⟩ := Option.map_eq_some_iff.mp h
  have hset := hsim.setState snapshot.simState w hvalid
  have hextra := hset.trans (restoreExtra_confined (hset.valid hvalid) hrestored)
  exact hextra.trans (hsim.forward _ (hextra.valid hvalid))

private theorem restoreSnapshot_confined {snapshot : Snapshot S Q} (hsim : Unaware simulator P)
    (hvalid : Valid P w) (h : restoreSnapshot simulator snapshot w = some w') :
    Confined P w w' := by
  obtain ⟨next, hnext, rfl⟩ := Option.map_eq_some_iff.mp h
  have hrestored := restoreSim_confined hsim hvalid hnext
  rw [restoreObjects_eq]
  exact hrestored.trans (restoreJobs_confined (hrestored.valid hvalid) _)

/-- Between the branches the environment is active, or a restore has raised, and the snapshot is
restored. -/
inductive Event where
  | activity
  | restored

def Step (simulator : Simulator V S X Q) (snapshot : Snapshot S Q) (P : ℕ → Prop)
    (s : World V S X) : Event → World V S X → Prop
  | .activity, t => Confined P s t
  | .restored, t => restoreSnapshot simulator snapshot s = some t

private theorem step_confined {s t : World V S X} {event : Event} (hsim : Unaware simulator P)
    (hvalid : Valid P s) (hstep : Step simulator snapshot P s event t) : Confined P s t := by
  cases event with
  | activity => exact hstep
  | restored => exact restoreSnapshot_confined hsim hvalid hstep

private theorem run_confined {s t : World V S X} {events : List Event} (hsim : Unaware simulator P)
    (hvalid : Valid P s) (hrun : Run (Step simulator snapshot P) s events t) : Confined P s t :=
  hrun.invariant (I := fun t => Confined P s t)
    (fun _ _ _ hstep hs => hs.trans (step_confined hsim (hs.valid hvalid) hstep)) (.refl hvalid)

/-- The cells of the copies that a snapshot keeps. -/
def Private (simulator : Simulator V S X Q) (w : World V S X) : ℕ → Prop :=
  Fresh w.memory (makeSnapshot simulator w).2.memory

private theorem valid_makeSnapshot (simulator : Simulator V S X Q)
    (hvalid : Valid (fun _ => False) w) :
    Valid (Private simulator w) (makeSnapshot simulator w).2 where
  used := fun _ hcell => hcell.2
  attributes := by
    intro object key ref href cell hcell
    have hused := (hvalid.attributes object key ref href cell hcell).1
    have hextends := (makeSnapshot_records simulator hvalid).extension
    exact ⟨Nat.lt_of_lt_of_le hused hextends.next, fun hprivate =>
      absurd hused (Nat.not_lt.mpr hprivate.1)⟩

/-- The arrays to which recorded values are assigned in place are those from which they were
recorded, and their cells still represent the values. -/
def KeepsArrays (w u : World V S X) : Prop :=
  ∀ entry ∈ recordedEntries w, ∀ target, target? u entry = some target →
    (w.attributes entry.object).get? entry.key = some (.ndarray target) ∧
      ∀ cell ∈ target.cells, u.memory.convert cell (w.memory.value cell) = w.memory.value cell

/-- Arrays that are kept share memory as they did when they were recorded. -/
theorem KeepsArrays.writes {u : World V S X} (h : KeepsArrays w u) :
    ∀ write ∈ (recordedEntries w).flatMap (writes u), write.2 = w.memory.value write.1 ∧
      u.memory.convert write.1 write.2 = write.2 := by
  intro write hwrite
  obtain ⟨entry, hentry, hmem⟩ := List.mem_flatMap.mp hwrite
  obtain ⟨contents, target, hcontent, htarget, hzip⟩ := mem_writes.mp hmem
  obtain ⟨hget, hrepresents⟩ := h entry hentry target htarget
  obtain ⟨ref, href, rfl⟩ := exists_ref_of_holds (holds_of_mem_recordedEntries hentry) hcontent
  rw [hget] at href
  cases href
  have hvalue : write.2 = w.memory.value write.1 := by
    rw [Memory.writesTo, Memory.contents, List.zip_map_right, List.mem_map] at hzip
    obtain ⟨pair, hpair, rfl⟩ := hzip
    have hsame : pair.1 = pair.2 := by
      obtain ⟨i, hi, rfl⟩ := List.mem_iff_getElem.mp hpair
      simp
    exact congrArg w.memory.value hsame.symm
  refine ⟨hvalue, ?_⟩
  rw [hvalue]
  exact hrepresents write.1 (List.of_mem_zip hzip).1

def counting : Simulator ℕ ℕ ℕ ℕ where
  getState := World.rest
  setState := fun q w => { w with rest := q }
  forward := id

private theorem unaware_counting (P : ℕ → Prop) : Unaware counting P where
  setState := fun _ _ hvalid => ⟨fun _ _ => rfl, Nat.le_refl _, hvalid.attributes⟩
  forward := fun _ hvalid => .refl hvalid

def goal : ArrayRef := ⟨[1], [0], true, rfl⟩

/-- An environment with an array and a view of it. -/
def shared (goalValue steps : ℕ) (m : Memory ℕ) : World ℕ ℕ ℕ where
  memory := { m with value := Function.update m.value 0 goalValue }
  attributes := fun object =>
    if object = 0 then ⟨[("goal", .ndarray goal), ("view", .ndarray goal)], by decide⟩
    else ⟨[], List.nodup_nil⟩
  parts := ⟨1, 0, none, 2, []⟩
  rest := steps

def started : World ℕ ℕ ℕ := shared 5 0 ⟨fun _ => 0, fun _ v => v, 1⟩

def moved : World ℕ ℕ ℕ := shared 9 3 (makeSnapshot counting started).2.memory

private theorem valid_shared {goalValue steps : ℕ} {m : Memory ℕ}
    (hused : ∀ cell, P cell → cell < m.next)
    (hgoal : 0 < m.next) (hpublic : ¬P 0) : Valid P (shared goalValue steps m) where
  used := hused
  attributes := by
    intro object key ref href cell hcell
    have hcells : ref.cells = [0] := by
      by_cases hobject : object = 0
      · subst hobject
        have hmem := (lookup_eq_some_iff ((shared goalValue steps m).attributes 0).nodup).mp href
        simp [shared, goal] at hmem
        rcases hmem with ⟨-, rfl⟩ | ⟨-, rfl⟩ <;> rfl
      · simp [shared, hobject, Attributes.get?, valueAt] at href
    rw [hcells, List.mem_singleton] at hcell
    subst hcell
    exact ⟨hgoal, hpublic⟩

end SmolVlaQgf.BranchStarts
