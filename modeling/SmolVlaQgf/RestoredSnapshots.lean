import SmolVlaQgf.SimulatorSnapshots

/-!
# What a restored snapshot reads

Between the branches of a probe the environment changes its memory and its attributes, but it has
no reference to the copies of the snapshot. Every restored attribute reads what was recorded
exactly if arrays that share memory at that time were recorded with equal values.
-/

namespace SmolVlaQgf.RestoredSnapshots
open ArrayMemory OrderedTables SimulatorSnapshots TransitionRuns

variable {V S X Q : Type}

/-! ## Contents -/

inductive Content (V S : Type) where
  | ndarray (contents : Contents V)
  | scalar (value : S)
  | sequence (isTuple : Bool) (items : List S)

def content? (m : Memory V) : Value S → Option (Content V S)
  | .ndarray ref => some (.ndarray (m.contents ref))
  | .scalar value => some (.scalar value)
  | .sequence isTuple items => some (.sequence isTuple items)
  | .other _ => none

def savedContent (m : Memory V) : Saved S → Content V S
  | .ndarray ref => .ndarray (m.contents ref)
  | .scalar value => .scalar value
  | .sequence isTuple items => .sequence isTuple items

/-- An attribute of an object with a content. -/
structure Entry (V S : Type) where
  object : ℕ
  key : String
  content : Content V S

def Holds (w : World V S X) (entry : Entry V S) : Prop :=
  ((w.attributes entry.object).get? entry.key).bind (content? w.memory) = some entry.content

/-- The array that a content is assigned to in place. -/
def target? (w : World V S X) (entry : Entry V S) : Option ArrayRef :=
  match entry.content, (w.attributes entry.object).get? entry.key with
  | .ndarray contents, some (.ndarray target) =>
      if target.shape = contents.shape then some target else none
  | _, _ => none

/-- The stores of an assignment in place. -/
def writes (w : World V S X) (entry : Entry V S) : List (ℕ × V) :=
  match entry.content, target? w entry with
  | .ndarray contents, some target => Memory.writesTo target contents.values
  | _, _ => []

theorem target?_eq_some {w : World V S X} {entry : Entry V S} {target : ArrayRef} :
    target? w entry = some target ↔ ∃ contents, entry.content = .ndarray contents ∧
      (w.attributes entry.object).get? entry.key = some (.ndarray target) ∧
      target.shape = contents.shape := by
  rw [target?]
  constructor
  · intro h
    split at h
    next contents found hcontent hfound =>
      split_ifs at h with hshape
      cases h
      exact ⟨contents, hcontent, hfound, hshape⟩
    next => cases h
  · rintro ⟨contents, hcontent, hfound, hshape⟩
    rw [hcontent, hfound]
    exact if_pos hshape

theorem mem_writes {w : World V S X} {entry : Entry V S} {write : ℕ × V} :
    write ∈ writes w entry ↔ ∃ contents target, entry.content = .ndarray contents ∧
      target? w entry = some target ∧ write ∈ Memory.writesTo target contents.values := by
  rw [writes]
  constructor
  · intro h
    split at h
    next contents target hcontent htarget => exact ⟨contents, target, hcontent, htarget, h⟩
    next => simp at h
  · rintro ⟨contents, target, hcontent, htarget, hwrite⟩
    rw [hcontent, htarget]
    exact hwrite

private theorem get?_setAttr (w : World V S X) (object : ℕ) (key : String) (value : Value S)
    (other : ℕ) (otherKey : String) :
    ((w.setAttr object key value).attributes other).get? otherKey =
      if other = object ∧ otherKey = key then some value
      else (w.attributes other).get? otherKey := by
  by_cases hobject : other = object
  · subst hobject
    simp [World.setAttr, Attributes.get?_set]
  · simp [World.setAttr, hobject]

/-! ## One entry -/

/-- The arrays of all attributes lie in use, and not in some private cells. -/
structure Valid (P : ℕ → Prop) (w : World V S X) : Prop where
  used : ∀ cell, P cell → cell < w.memory.next
  attributes : ∀ object key ref, (w.attributes object).get? key = some (.ndarray ref) →
    ∀ cell ∈ ref.cells, cell < w.memory.next ∧ ¬P cell

structure Restored (P : ℕ → Prop) (w : World V S X) (entries : List (Entry V S))
    (w' : World V S X) : Prop where
  value : ∀ cell < w.memory.next,
    w'.memory.value cell = (w.memory.storeAll (entries.flatMap (writes w))).value cell
  convert : ∀ cell < w.memory.next, w'.memory.convert cell = w.memory.convert cell
  next : w.memory.next ≤ w'.memory.next
  parts : w'.parts = w.parts
  others : ∀ object key, (∀ entry ∈ entries, ¬(object = entry.object ∧ key = entry.key)) →
    (w'.attributes object).get? key = (w.attributes object).get? key
  inPlace : ∀ entry ∈ entries, ∀ target, target? w entry = some target →
    (w'.attributes entry.object).get? entry.key = some (.ndarray target)
  replaced : ∀ entry ∈ entries, target? w entry = none → Holds w' entry ∧
    ∀ ref, (w'.attributes entry.object).get? entry.key = some (.ndarray ref) →
      ∀ cell ∈ ref.cells, w.memory.next ≤ cell
  valid : Valid P w'

variable {P : ℕ → Prop} {w w₁ w₂ : World V S X} {entries more : List (Entry V S)}

theorem Valid.setAttr (h : Valid P w) (object : ℕ) (key : String) {value : Value S}
    (hvalue : ∀ ref, value = .ndarray ref → ∀ cell ∈ ref.cells, cell < w.memory.next ∧ ¬P cell) :
    Valid P (w.setAttr object key value) where
  used := h.used
  attributes := by
    intro other otherKey ref href
    rw [get?_setAttr] at href
    split_ifs at href
    · exact hvalue ref (Option.some.inj href)
    · exact h.attributes other otherKey ref href

theorem Valid.of_memory (h : Valid P w) {m : Memory V} (hnext : w.memory.next ≤ m.next) :
    Valid P { w with memory := m } where
  used := fun cell hcell => Nat.lt_of_lt_of_le (h.used cell hcell) hnext
  attributes := by
    intro object key ref href cell hcell
    obtain ⟨hlt, hpublic⟩ := h.attributes object key ref href cell hcell
    exact ⟨Nat.lt_of_lt_of_le hlt hnext, hpublic⟩

/-- A value that replaces an attribute holds what was recorded in new cells. -/
theorem restored_setAttr {object : ℕ} {key : String} {value : Value S} {content : Content V S}
    {m : Memory V} (hvalid : Valid P w) (hnext : w.memory.next ≤ m.next)
    (hvalues : ∀ cell < w.memory.next, m.value cell = w.memory.value cell)
    (hconverts : ∀ cell < w.memory.next, m.convert cell = w.memory.convert cell)
    (htarget : target? w ⟨object, key, content⟩ = none)
    (hcontent : content? m value = some content)
    (hnew : ∀ ref, value = .ndarray ref → ∀ cell ∈ ref.cells,
      w.memory.next ≤ cell ∧ cell < m.next) :
    Restored P w [⟨object, key, content⟩] ({ w with memory := m }.setAttr object key value) where
  value := by
    intro cell hcell
    have hnone : writes w ⟨object, key, content⟩ = [] := by
      refine List.eq_nil_iff_forall_not_mem.mpr fun write hwrite => ?_
      obtain ⟨contents, target, -, htarget', -⟩ := mem_writes.mp hwrite
      rw [htarget] at htarget'
      cases htarget'
    simpa [hnone, Memory.storeAll, World.setAttr] using hvalues cell hcell
  convert := hconverts
  next := hnext
  parts := rfl
  others := by
    intro other otherKey hother
    rw [get?_setAttr, if_neg (hother _ List.mem_cons_self)]
  inPlace := by
    intro entry hentry target htarget'
    obtain rfl := List.mem_singleton.mp hentry
    rw [htarget] at htarget'
    cases htarget'
  replaced := by
    intro entry hentry _
    obtain rfl := List.mem_singleton.mp hentry
    refine ⟨?_, fun ref href cell hcell => ?_⟩
    · rw [Holds, get?_setAttr, if_pos ⟨rfl, rfl⟩]
      exact hcontent
    · rw [get?_setAttr, if_pos ⟨rfl, rfl⟩] at href
      exact (hnew ref (Option.some.inj href) cell hcell).1
  valid := by
    refine (hvalid.of_memory hnext).setAttr object key fun ref href cell hcell => ?_
    obtain ⟨hle, hlt⟩ := hnew ref href cell hcell
    exact ⟨hlt, fun hprivate => absurd (hvalid.used cell hprivate) (Nat.not_lt.mpr hle)⟩

theorem restored_assignArray {entry : Entry V S} {contents : Contents V} {target : ArrayRef}
    (hvalid : Valid P w) (hcontent : entry.content = .ndarray contents)
    (htarget : target? w entry = some target) :
    Restored P w [entry] { w with
      memory := w.memory.storeAll (Memory.writesTo target contents.values) } where
  value := by
    intro cell _
    have hwrites : writes w entry = Memory.writesTo target contents.values := by
      rw [writes, hcontent, htarget]
    simp [hwrites]
  convert := by simp
  next := by simp
  parts := rfl
  others := fun _ _ _ => rfl
  inPlace := by
    intro other hother found hfound
    obtain rfl := List.mem_singleton.mp hother
    obtain ⟨_, -, hget, -⟩ := target?_eq_some.mp hfound
    exact hget
  replaced := by
    intro other hother hnone
    obtain rfl := List.mem_singleton.mp hother
    rw [htarget] at hnone
    cases hnone
  valid := hvalid.of_memory (by simp)

def entryOf (m : Memory V) (object : ℕ) (saved : String × Saved S) : Entry V S :=
  ⟨object, saved.1, savedContent m saved.2⟩

def Owned (P : ℕ → Prop) : Saved S → Prop
  | .ndarray ref => ∀ cell ∈ ref.cells, P cell
  | _ => True

/-- The arrays to which an entry is assigned in place can be written. -/
def Writeable (w : World V S X) (entry : Entry V S) : Prop :=
  ∀ target, target? w entry = some target → target.writeable = true

private theorem restored_setCopy {object : ℕ} {key : String} {ref : ArrayRef} (hvalid : Valid P w)
    (htarget : target? w ⟨object, key, .ndarray (w.memory.contents ref)⟩ = none) :
    Restored P w [⟨object, key, .ndarray (w.memory.contents ref)⟩] (w.setCopy object key ref) := by
  refine restored_setAttr hvalid (by simp) (fun cell hcell => Memory.copy_value_of_lt hcell)
    (fun cell hcell => Memory.copy_convert_of_lt hcell) htarget ?_ ?_
  · rw [content?, Memory.contents_copy]
  · intro found hfound cell hcell
    cases hfound
    exact Memory.mem_cells_copy.mp hcell

theorem restored_restoreEntry {object : ℕ} {saved : String × Saved S} (hvalid : Valid P w)
    (hwriteable : Writeable w (entryOf w.memory object saved)) :
    Restored P w [entryOf w.memory object saved] (w.restoreEntry object saved) := by
  obtain ⟨key, saved⟩ := saved
  have hnone : ∀ content : Content V S, (∀ contents, content ≠ .ndarray contents) →
      target? w ⟨object, key, content⟩ = none := by
    intro content hcontent
    rw [Option.eq_none_iff_forall_ne_some]
    intro target htarget
    obtain ⟨contents, hndarray, -⟩ := target?_eq_some.mp htarget
    exact hcontent contents hndarray
  cases saved with
  | scalar value =>
    exact restored_setAttr hvalid (Nat.le_refl _) (fun _ _ => rfl) (fun _ _ => rfl)
      (hnone (.scalar value) (by simp)) rfl (by simp)
  | sequence isTuple items =>
    exact restored_setAttr hvalid (Nat.le_refl _) (fun _ _ => rfl) (fun _ _ => rfl)
      (hnone (.sequence isTuple items) (by simp)) rfl (by simp)
  | ndarray ref =>
    by_cases hinPlace : ∃ target, (w.attributes object).get? key = some (.ndarray target) ∧
        target.shape = ref.shape
    · obtain ⟨target, hget, hshape⟩ := hinPlace
      have htarget : target? w (entryOf w.memory object (key, .ndarray ref)) = some target :=
        target?_eq_some.mpr ⟨_, rfl, hget, hshape⟩
      have hrestore : w.restoreEntry object (key, .ndarray ref) = { w with
          memory := w.memory.storeAll
            (Memory.writesTo target (w.memory.contents ref).values) } := by
        simp only [World.restoreEntry, hget, if_pos hshape, World.assignArray,
          if_pos (hwriteable target htarget)]
      rw [hrestore]
      exact restored_assignArray hvalid rfl htarget
    · have htarget : target? w ⟨object, key, .ndarray (w.memory.contents ref)⟩ = none := by
        rw [Option.eq_none_iff_forall_ne_some]
        intro target htarget
        obtain ⟨contents, hcontents, hget, hshape⟩ := target?_eq_some.mp htarget
        cases hcontents
        exact hinPlace ⟨target, hget, hshape⟩
      have hrestore : w.restoreEntry object (key, .ndarray ref) = w.setCopy object key ref := by
        rw [World.restoreEntry]
        split
        next saved target hsaved hget =>
          cases hsaved
          exact if_neg fun hshape => hinPlace ⟨target, hget, hshape⟩
        next saved hsaved _ =>
          cases hsaved
          rfl
        next hsaved => cases hsaved
        next hsaved => cases hsaved
      rw [hrestore]
      exact restored_setCopy hvalid htarget

/-! ## All entries -/

theorem target?_congr {entry : Entry V S}
    (h : (w₁.attributes entry.object).get? entry.key = (w.attributes entry.object).get? entry.key) :
    target? w₁ entry = target? w entry := by
  rw [target?, target?, h]

private theorem writes_congr {entry : Entry V S}
    (h : (w₁.attributes entry.object).get? entry.key = (w.attributes entry.object).get? entry.key) :
    writes w₁ entry = writes w entry := by
  rw [writes, writes, target?_congr h]

/-- Assignments in place store into cells that are in use. -/
theorem Valid.lt_of_mem_writes (h : Valid P w) {entry : Entry V S} {write : ℕ × V}
    (hwrite : write ∈ writes w entry) : write.1 < w.memory.next ∧ ¬P write.1 := by
  obtain ⟨contents, target, -, htarget, hmem⟩ := mem_writes.mp hwrite
  obtain ⟨_, -, hget, -⟩ := target?_eq_some.mp htarget
  exact h.attributes _ _ target hget _ (List.of_mem_zip hmem).1

private theorem content?_congr {m m' : Memory V} {value : Value S}
    (h : ∀ ref, value = .ndarray ref → ∀ cell ∈ ref.cells, m'.value cell = m.value cell) :
    content? m' value = content? m value := by
  cases value with
  | ndarray ref =>
    exact congrArg (fun c => some (Content.ndarray c)) (Memory.contents_congr (h ref rfl))
  | _ => rfl

def Apart (entries more : List (Entry V S)) : Prop :=
  ∀ entry ∈ entries, ∀ other ∈ more, ¬(entry.object = other.object ∧ entry.key = other.key)

theorem Restored.append (h : Restored P w entries w₁) (h' : Restored P w₁ more w₂)
    (hvalid : Valid P w) (hapart : Apart entries more) : Restored P w (entries ++ more) w₂ := by
  have hunchanged : ∀ other ∈ more, (w₁.attributes other.object).get? other.key =
      (w.attributes other.object).get? other.key := by
    intro other hother
    exact h.others _ _ fun entry hentry hsame =>
      hapart entry hentry other hother ⟨hsame.1.symm, hsame.2.symm⟩
  have hwrites : more.flatMap (writes w₁) = more.flatMap (writes w) :=
    List.flatMap_congr fun other hother => writes_congr (hunchanged other hother)
  have hlater : ∀ entry ∈ entries, (w₂.attributes entry.object).get? entry.key =
      (w₁.attributes entry.object).get? entry.key := by
    intro entry hentry
    exact h'.others _ _ fun other hother => hapart entry hentry other hother
  constructor
  · intro cell hcell
    rw [h'.value cell (Nat.lt_of_lt_of_le hcell h.next), hwrites, List.flatMap_append,
      Memory.storeAll_append]
    refine Memory.storeAll_value_congr (h.value cell hcell) ?_
    rw [h.convert cell hcell, Memory.storeAll_convert]
  · intro cell hcell
    rw [h'.convert cell (Nat.lt_of_lt_of_le hcell h.next), h.convert cell hcell]
  · exact Nat.le_trans h.next h'.next
  · rw [h'.parts, h.parts]
  · intro object key hother
    rw [h'.others object key fun entry hentry => hother entry (List.mem_append_right _ hentry),
      h.others object key fun entry hentry => hother entry (List.mem_append_left _ hentry)]
  · intro entry hentry target htarget
    rcases List.mem_append.mp hentry with hentry | hentry
    · rw [hlater entry hentry]
      exact h.inPlace entry hentry target htarget
    · exact h'.inPlace entry hentry target (by rwa [target?_congr (hunchanged entry hentry)])
  · intro entry hentry hnone
    rcases List.mem_append.mp hentry with hentry | hentry
    · obtain ⟨hholds, hnew⟩ := h.replaced entry hentry hnone
      rw [Holds, hlater entry hentry]
      refine ⟨?_, hnew⟩
      rw [Holds] at hholds
      rw [← hholds]
      cases hget : (w₁.attributes entry.object).get? entry.key with
      | none => rfl
      | some value =>
        refine content?_congr fun ref href cell hcell => ?_
        rw [href] at hget
        have hused := (h.valid.attributes _ _ ref hget cell hcell).1
        have hold := hnew ref hget cell hcell
        rw [h'.value cell hused]
        refine Memory.storeAll_value_of_not_mem fun hmem => ?_
        obtain ⟨write, hwrite, rfl⟩ := List.mem_map.mp hmem
        rw [hwrites] at hwrite
        obtain ⟨other, -, hwrite⟩ := List.mem_flatMap.mp hwrite
        have hlt := (hvalid.lt_of_mem_writes hwrite).1
        omega
    · obtain ⟨hholds, hnew⟩ := h'.replaced entry hentry (by
        rwa [target?_congr (hunchanged entry hentry)])
      exact ⟨hholds, fun ref href cell hcell => Nat.le_trans h.next (hnew ref href cell hcell)⟩
  · exact h'.valid

theorem Restored.private_value (h : Restored P w entries w₁) (hvalid : Valid P w) (cell : ℕ)
    (hcell : P cell) : w₁.memory.value cell = w.memory.value cell := by
  rw [h.value cell (hvalid.used cell hcell)]
  refine Memory.storeAll_value_of_not_mem fun hmem => ?_
  obtain ⟨write, hwrite, rfl⟩ := List.mem_map.mp hmem
  obtain ⟨entry, -, hwrite⟩ := List.mem_flatMap.mp hwrite
  exact (hvalid.lt_of_mem_writes hwrite).2 hcell

theorem restored_nil (hvalid : Valid P w) : Restored P w [] w where
  value := fun _ _ => rfl
  convert := fun _ _ => rfl
  next := Nat.le_refl _
  parts := rfl
  others := fun _ _ _ => rfl
  inPlace := by simp
  replaced := by simp
  valid := hvalid

/-- After attributes have been restored all of them read what was recorded exactly if the stores in
place agree and can be represented. -/
theorem Restored.holds_iff (h : Restored P w entries w₁) (hvalid : Valid P w)
    (hsizes : ∀ entry ∈ entries, ∀ contents, entry.content = .ndarray contents →
      contents.values.length = contents.shape.prod) :
    (∀ entry ∈ entries, Holds w₁ entry) ↔
      Memory.Agree (entries.flatMap (writes w)) ∧
        w.memory.Represents (entries.flatMap (writes w)) := by
  rw [← Memory.storeAll_reads_iff]
  have hread : ∀ entry ∈ entries, ∀ target, target? w entry = some target → (Holds w₁ entry ↔
      ∀ write ∈ writes w entry,
        (w.memory.storeAll (entries.flatMap (writes w))).value write.1 = write.2) := by
    intro entry hentry target htarget
    obtain ⟨contents, hcontent, -, hshape⟩ := target?_eq_some.mp htarget
    have hwrites : writes w entry = Memory.writesTo target contents.values := by
      rw [writes, hcontent, htarget]
    rw [Holds, h.inPlace entry hentry target htarget, Option.bind_some, content?, hcontent,
      Option.some.injEq, Content.ndarray.injEq,
      Memory.contents_eq_iff hshape (hsizes entry hentry contents hcontent), hwrites]
    refine forall_congr' fun write => forall_congr' fun hwrite => ?_
    rw [← hwrites] at hwrite
    rw [h.value _ (hvalid.lt_of_mem_writes hwrite).1]
  constructor
  · intro hall write hwrite
    obtain ⟨entry, hentry, hmem⟩ := List.mem_flatMap.mp hwrite
    obtain ⟨contents, target, -, htarget, -⟩ := mem_writes.mp hmem
    exact (hread entry hentry target htarget).mp (hall entry hentry) write hmem
  · intro hall entry hentry
    cases htarget : target? w entry with
    | none => exact (h.replaced entry hentry htarget).1
    | some target =>
      exact (hread entry hentry target htarget).mpr fun write hwrite =>
        hall write (List.mem_flatMap.mpr ⟨entry, hentry, hwrite⟩)

end SmolVlaQgf.RestoredSnapshots
