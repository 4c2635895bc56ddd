import Mathlib.Data.List.Basic
import Mathlib.Data.List.Dedup
import Mathlib.Data.List.Induction
import Mathlib.Data.List.Perm.Basic

/-!
# Tables in order of insertion

An association list whose keys are distinct: an update changes the value of a key in its
place, and a new key goes to the end. Grouping and counting the entries of a list are
updates, one entry after the other.
-/

namespace SmolVlaQgf.OrderedTables

variable {α β : Type} [DecidableEq α]

def update (f : Option β → β) (key : α) : List (α × β) → List (α × β)
  | [] => [(key, f none)]
  | (name, value) :: rest =>
      if name = key then (name, f (some value)) :: rest
      else (name, value) :: update f key rest

/-- `table[key] = value` -/
def assign (key : α) (value : β) (table : List (α × β)) : List (α × β) :=
  update (fun _ => value) key table

/-- `table.get(key)` -/
def valueAt (table : List (α × β)) (key : α) : Option β := table.lookup key

/-- `table.setdefault(key, []).append(value)` -/
def appendTo (key : α) (value : β) (table : List (α × List β)) : List (α × List β) :=
  update (fun values => values.getD [] ++ [value]) key table

def groupEntries (entries : List (β × α)) : List (α × List β) :=
  entries.foldl (fun table entry => appendTo entry.2 entry.1 table) []

/-- `Counter(keys)` -/
def counter (keys : List α) : List (α × ℕ) :=
  keys.foldl (fun table key => update (fun count => count.getD 0 + 1) key table) []

section Update

variable {f : Option β → β} {key name : α} {value : β} {table : List (α × β)}

theorem keys_update (f : Option β → β) (key : α) (table : List (α × β)) :
    (update f key table).map Prod.fst =
      if key ∈ table.map Prod.fst then table.map Prod.fst else table.map Prod.fst ++ [key] := by
  induction table with
  | nil => simp [update]
  | cons entry rest ih =>
    obtain ⟨name, value⟩ := entry
    by_cases h : name = key
    · simp [update, h]
    · have h' : key ≠ name := Ne.symm h
      rw [update, if_neg h, List.map_cons, ih, List.map_cons]
      by_cases hmem : key ∈ rest.map Prod.fst
      · rw [if_pos hmem, if_pos (List.mem_cons_of_mem _ hmem)]
      · rw [if_neg hmem, if_neg (by simpa [h'] using hmem), List.cons_append]

theorem nodup_keys_update (h : (table.map Prod.fst).Nodup) :
    ((update f key table).map Prod.fst).Nodup := by
  rw [keys_update]
  split_ifs with hmem
  · exact h
  · exact List.nodup_append.mpr ⟨h, List.nodup_singleton key, by
      intro a ha b hb heq
      rw [List.mem_singleton] at hb
      subst hb heq
      exact hmem ha⟩

/-- The other entries stay, and the key has its new value. -/
theorem mem_update_iff (h : (table.map Prod.fst).Nodup) :
    (name, value) ∈ update f key table ↔
      name ≠ key ∧ (name, value) ∈ table ∨ name = key ∧ value = f (table.lookup key) := by
  induction table with
  | nil => simp [update]
  | cons entry rest ih =>
    obtain ⟨first, stored⟩ := entry
    rw [List.map_cons, List.nodup_cons] at h
    obtain ⟨hfirst, hrest⟩ := h
    by_cases heq : first = key
    · subst heq
      have hnot : (name, value) ∈ rest → name ≠ first := by
        intro hmem hname
        exact hfirst (List.mem_map.mpr ⟨_, hmem, hname⟩)
      simp only [update, if_true, List.mem_cons, Prod.mk.injEq, List.lookup_cons, beq_self_eq_true]
      grind
    · have hkey : (key == first) = false := by simpa using Ne.symm heq
      simp only [update, if_neg heq, List.mem_cons, Prod.mk.injEq, ih hrest, List.lookup_cons, hkey]
      grind

@[simp] theorem valueAt_nil (name : α) : valueAt ([] : List (α × β)) name = none := rfl

@[simp] theorem valueAt_cons (entry : α × β) (rest : List (α × β)) (name : α) :
    valueAt (entry :: rest) name = if name = entry.1 then some entry.2 else valueAt rest name := by
  obtain ⟨first, stored⟩ := entry
  by_cases h : name = first
  · simp [valueAt, h]
  · have hname : (name == first) = false := by simpa using h
    simp [valueAt, List.lookup_cons, hname, h]

theorem valueAt_eq_none_iff : valueAt table key = none ↔ key ∉ table.map Prod.fst := by
  induction table with
  | nil => simp
  | cons entry rest ih =>
    rw [valueAt_cons, List.map_cons, List.mem_cons, not_or, ← ih]
    split_ifs with h
    · simp [h]
    · simp [h]

theorem valueAt_assign (key : α) (value : β) (table : List (α × β)) (name : α) :
    valueAt (assign key value table) name =
      if name = key then some value else valueAt table name := by
  induction table with
  | nil => rw [assign, update, valueAt_cons]
  | cons entry rest ih =>
    obtain ⟨first, stored⟩ := entry
    rw [assign] at ih
    by_cases hfirst : first = key
    · rw [assign, update, if_pos hfirst, valueAt_cons, valueAt_cons, hfirst]
      by_cases h : name = key
      · rw [if_pos h, if_pos h]
      · rw [if_neg h, if_neg h, if_neg h]
    · rw [assign, update, if_neg hfirst, valueAt_cons, valueAt_cons, ih]
      by_cases h : name = first
      · rw [if_pos h, if_pos h, if_neg (h ▸ hfirst)]
      · rw [if_neg h, if_neg h]

theorem assign_of_not_mem (h : key ∉ table.map Prod.fst) :
    assign key value table = table ++ [(key, value)] := by
  induction table with
  | nil => rfl
  | cons entry rest ih =>
    obtain ⟨first, stored⟩ := entry
    rw [List.map_cons, List.mem_cons, not_or] at h
    have hrest := ih h.2
    rw [assign] at hrest
    rw [assign, update, if_neg (Ne.symm h.1), hrest, List.cons_append]

theorem filter_assign (p : α → Bool) (key : α) (value : β) (table : List (α × β)) :
    (assign key value table).filter (fun entry => p entry.1) =
      if p key then assign key value (table.filter fun entry => p entry.1)
      else table.filter fun entry => p entry.1 := by
  induction table with
  | nil =>
    by_cases hp : p key
    · simp [assign, update, hp]
    · simp [assign, update, hp]
  | cons entry rest ih =>
    obtain ⟨first, stored⟩ := entry
    rw [assign] at ih
    by_cases hfirst : first = key
    · by_cases hp : p key
      · simp [assign, update, hfirst, hp]
      · simp [assign, update, hfirst, hp]
    · rw [assign, update, if_neg hfirst, List.filter_cons, ih, List.filter_cons]
      by_cases hp : p key
      · by_cases hfirstp : p first
        · simp [assign, update, hfirst, hp, hfirstp]
        · simp [assign, hp, hfirstp]
      · by_cases hfirstp : p first
        · simp [hp, hfirstp]
        · simp [hp, hfirstp]

/-- Entries with distinct new keys are appended in their order. -/
theorem foldl_assign_of_nodup {entries : List (α × β)}
    (h : ((table ++ entries).map Prod.fst).Nodup) :
    entries.foldl (fun table entry => assign entry.1 entry.2 table) table = table ++ entries := by
  induction entries generalizing table with
  | nil => rw [List.foldl_nil, List.append_nil]
  | cons entry rest ih =>
    have hsplit : table ++ entry :: rest = table ++ [entry] ++ rest := by
      rw [List.append_assoc, List.singleton_append]
    have hnew : entry.1 ∉ table.map Prod.fst := by
      rw [List.map_append, List.map_cons] at h
      exact fun hmem => List.disjoint_of_nodup_append h hmem List.mem_cons_self
    rw [List.foldl_cons, assign_of_not_mem hnew, hsplit]
    exact ih (hsplit ▸ h)

end Update

section Groups

variable {entries : List (β × α)} {key : α} {values : List β}

theorem groupEntries_append_singleton (entries : List (β × α)) (entry : β × α) :
    groupEntries (entries ++ [entry]) = appendTo entry.2 entry.1 (groupEntries entries) := by
  simp [groupEntries, List.foldl_append]

theorem nodup_keys_groupEntries (entries : List (β × α)) :
    ((groupEntries entries).map Prod.fst).Nodup := by
  induction entries using List.reverseRecOn with
  | nil => simp [groupEntries]
  | append_singleton entries entry ih =>
    rw [groupEntries_append_singleton]
    exact nodup_keys_update ih

theorem mem_keys_groupEntries (entries : List (β × α)) (key : α) :
    key ∈ (groupEntries entries).map Prod.fst ↔ key ∈ entries.map Prod.snd := by
  induction entries using List.reverseRecOn with
  | nil => simp [groupEntries]
  | append_singleton entries entry ih =>
    rw [groupEntries_append_singleton, appendTo, keys_update, List.map_append, List.mem_append,
      ← ih]
    split_ifs with hmem
    · simp only [List.map_cons, List.map_nil, List.mem_singleton]
      exact ⟨Or.inl, fun h => h.elim id fun heq => heq ▸ hmem⟩
    · simp

theorem keys_groupEntries_perm (entries : List (β × α)) :
    ((groupEntries entries).map Prod.fst).Perm (entries.map Prod.snd).dedup := by
  apply (List.perm_ext_iff_of_nodup (nodup_keys_groupEntries entries) (List.nodup_dedup _)).mpr
  intro key
  rw [mem_keys_groupEntries, List.mem_dedup]

theorem lookup_eq_some_iff {table : List (α × β)} (h : (table.map Prod.fst).Nodup) {value : β} :
    table.lookup key = some value ↔ (key, value) ∈ table := by
  induction table with
  | nil => simp
  | cons entry rest ih =>
    obtain ⟨first, stored⟩ := entry
    rw [List.map_cons, List.nodup_cons] at h
    obtain ⟨hfirst, hrest⟩ := h
    by_cases heq : key = first
    · subst heq
      have hnot : (key, value) ∉ rest := fun hmem =>
        hfirst (List.mem_map.mpr ⟨_, hmem, rfl⟩)
      simp [hnot, eq_comm]
    · have hkey : (key == first) = false := by simpa using heq
      simp [List.lookup_cons, hkey, ih hrest, heq]

theorem group_eq (h : (key, values) ∈ groupEntries entries) :
    values = (entries.filter fun entry => decide (entry.2 = key)).map Prod.fst := by
  induction entries using List.reverseRecOn generalizing values with
  | nil => simp [groupEntries] at h
  | append_singleton entries entry ih =>
    rw [groupEntries_append_singleton, appendTo,
      mem_update_iff (nodup_keys_groupEntries entries)] at h
    rw [List.filter_append, List.map_append]
    rcases h with ⟨hne, hmem⟩ | ⟨rfl, rfl⟩
    · simp [ih hmem, Ne.symm hne]
    · cases hlookup : (groupEntries entries).lookup entry.2 with
      | some stored =>
        rw [lookup_eq_some_iff (nodup_keys_groupEntries entries)] at hlookup
        simp [ih hlookup]
      | none =>
        have hkey : entry.2 ∉ entries.map Prod.snd := by
          rw [← mem_keys_groupEntries]
          intro hmem
          obtain ⟨⟨name, stored⟩, hstored, rfl⟩ := List.mem_map.mp hmem
          rw [(lookup_eq_some_iff (nodup_keys_groupEntries entries)).mpr hstored] at hlookup
          cases hlookup
        have hnone : entries.filter (fun other => decide (other.2 = entry.2)) = [] := by
          rw [List.filter_eq_nil_iff]
          intro other hother
          have hne : other.2 ≠ entry.2 := fun heq => hkey (heq ▸ List.mem_map_of_mem hother)
          simpa using hne
        simp [hnone]

theorem flatMap_appendTo_perm (key : α) (value : β) (table : List (α × List β)) :
    ((appendTo key value table).flatMap Prod.snd).Perm (table.flatMap Prod.snd ++ [value]) := by
  induction table with
  | nil => simp [appendTo, update]
  | cons entry rest ih =>
    obtain ⟨name, values⟩ := entry
    by_cases h : name = key
    · have hcomm : (value :: rest.flatMap Prod.snd).Perm (rest.flatMap Prod.snd ++ [value]) :=
        (List.perm_append_singleton value _).symm
      simpa [appendTo, update, h] using hcomm.append_left values
    · have happend : appendTo key value ((name, values) :: rest) =
          (name, values) :: appendTo key value rest := by
        simp [appendTo, update, h]
      rw [happend, List.flatMap_cons, List.flatMap_cons, List.append_assoc]
      exact ih.append_left values

theorem flatMap_groupEntries_perm (entries : List (β × α)) :
    ((groupEntries entries).flatMap Prod.snd).Perm (entries.map Prod.fst) := by
  induction entries using List.reverseRecOn with
  | nil => simp [groupEntries]
  | append_singleton entries entry ih =>
    rw [groupEntries_append_singleton, List.map_append]
    exact (flatMap_appendTo_perm _ _ _).trans (ih.append_right _)

end Groups

end SmolVlaQgf.OrderedTables
