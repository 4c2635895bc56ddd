import Mathlib.Data.List.DropRight
import Mathlib.Data.List.Induction

/-!
# Texts of `key=value` fields

A list of fields joined by a separator character and the parser that splits it,
cuts each piece at its first equality sign and strips blanks. Fields that hold
neither of these characters are read back unchanged.
-/

namespace SmolVlaQgf.FieldText

abbrev Text := List Char

/-- The characters `str.strip` removes. -/
def isSpace (c : Char) : Bool :=
  let n := c.toNat
  (9 ≤ n && n ≤ 13) || (28 ≤ n && n ≤ 32) || n == 0x85 || n == 0xa0 || n == 0x1680 ||
    (0x2000 ≤ n && n ≤ 0x200a) || n == 0x2028 || n == 0x2029 || n == 0x202f || n == 0x205f ||
    n == 0x3000

/-- `text.strip()` -/
def strip (text : Text) : Text := (text.dropWhile isSpace).rdropWhile isSpace

/-- `text.partition(mark)`: the part before the first mark and, if there is a mark, the
part after it. -/
def partition (mark : Char) (text : Text) : Text × Option Text :=
  let before := text.takeWhile (· ≠ mark)
  match text.dropWhile (· ≠ mark) with
  | [] => (before, none)
  | _ :: after => (before, some after)

abbrev Dict := Text → Option Text

def Dict.empty : Dict := fun _ => none

/-- `dict[key] = value` -/
def Dict.set (dict : Dict) (key value : Text) : Dict :=
  fun k => if k = key then some value else dict k

/-- One piece between separators; a piece without a mark is skipped. -/
def setField (parsed : Dict) (field : Text) : Dict :=
  match partition '=' field with
  | (_, none) => parsed
  | (key, some item) => parsed.set (strip key) (strip item)

/-- Parse the fields of a text; a later field of the same key counts. -/
def fields (value : Text) : Dict := (value.splitOn ';').foldl setField .empty

/-- Join fields as `key=value` pieces. -/
def joinFields (pairs : List (Text × Text)) : Text :=
  [';'].intercalate (pairs.map fun p => p.1 ++ '=' :: p.2)

def Plain (text : Text) : Prop := ∀ c ∈ text, c ≠ ';' ∧ c ≠ '=' ∧ isSpace c = false

instance (text : Text) : Decidable (Plain text) :=
  List.decidableBAll (fun c => c ≠ ';' ∧ c ≠ '=' ∧ isSpace c = false) text

theorem strip_of_plain {text : Text} (h : Plain text) : strip text = text := by
  have hleft : text.dropWhile isSpace = text := by
    cases text with
    | nil => rfl
    | cons c text => exact List.dropWhile_cons_of_neg (by simp [(h c List.mem_cons_self).2.2])
  rw [strip, hleft, List.rdropWhile_eq_self_iff]
  intro hne
  simp [(h _ (List.getLast_mem hne)).2.2]

theorem partition_append {mark : Char} {key : Text} (hkey : mark ∉ key) (item : Text) :
    partition mark (key ++ mark :: item) = (key, some item) := by
  have hall : ∀ c ∈ key, decide (c ≠ mark) = true := by
    intro c hc
    simp only [decide_eq_true_eq]
    rintro rfl
    exact hkey hc
  have htake : (key ++ mark :: item).takeWhile (· ≠ mark) = key := by
    rw [List.takeWhile_append_of_pos hall]
    simp
  have hdrop : (key ++ mark :: item).dropWhile (· ≠ mark) = mark :: item := by
    rw [List.dropWhile_append_of_pos hall]
    simp
  simp only [partition, htake, hdrop]

theorem setField_plain (parsed : Dict) {key item : Text} (hkey : Plain key) (hitem : Plain item) :
    setField parsed (key ++ '=' :: item) = parsed.set key item := by
  have hmark : '=' ∉ key := fun hmem => (hkey _ hmem).2.1 rfl
  simp only [setField, partition_append hmark, strip_of_plain hkey, strip_of_plain hitem]

def PlainPairs (pairs : List (Text × Text)) : Prop := ∀ p ∈ pairs, Plain p.1 ∧ Plain p.2

theorem fields_joinFields {pairs : List (Text × Text)} (h : PlainPairs pairs) :
    fields (joinFields pairs) = pairs.foldl (fun parsed p => parsed.set p.1 p.2) .empty := by
  have hfold : ∀ (pairs : List (Text × Text)) (parsed : Dict), PlainPairs pairs →
      (pairs.map fun p => p.1 ++ '=' :: p.2).foldl setField parsed =
        pairs.foldl (fun parsed p => parsed.set p.1 p.2) parsed := by
    intro pairs
    induction pairs with
    | nil => exact fun _ _ => rfl
    | cons p pairs ih =>
      intro parsed hpairs
      have hp := hpairs p List.mem_cons_self
      rw [List.map_cons, List.foldl_cons, List.foldl_cons, setField_plain parsed hp.1 hp.2]
      exact ih _ fun q hq => hpairs q (List.mem_cons_of_mem _ hq)
  cases pairs with
  | nil => rfl
  | cons p pairs =>
    have hseparator : ∀ field ∈ (p :: pairs).map (fun p => p.1 ++ '=' :: p.2), ';' ∉ field := by
      intro field hfield hmem
      obtain ⟨q, hq, rfl⟩ := List.mem_map.mp hfield
      obtain ⟨hkey, hitem⟩ := h q hq
      rcases List.mem_append.mp hmem with hc | hc
      · exact (hkey _ hc).1 rfl
      · rcases List.mem_cons.mp hc with hc | hc
        · exact absurd hc (by decide)
        · exact (hitem _ hc).1 rfl
    rw [fields, joinFields, List.splitOn_intercalate ';' hseparator (by simp)]
    exact hfold _ _ h

theorem foldl_set_of_not_mem {pairs : List (Text × Text)} {key : Text}
    (h : key ∉ pairs.map Prod.fst) (parsed : Dict) :
    pairs.foldl (fun parsed p => parsed.set p.1 p.2) parsed key = parsed key := by
  induction pairs generalizing parsed with
  | nil => rfl
  | cons q pairs ih =>
    rw [List.map_cons, List.mem_cons, not_or] at h
    rw [List.foldl_cons, ih h.2]
    exact if_neg h.1

/-- With distinct keys, each key is read back with its value. -/
theorem fields_eq_some {pairs : List (Text × Text)} (h : PlainPairs pairs)
    (hdistinct : (pairs.map Prod.fst).Nodup) {p : Text × Text} (hp : p ∈ pairs) :
    fields (joinFields pairs) p.1 = some p.2 := by
  rw [fields_joinFields h]
  clear h
  induction pairs using List.reverseRecOn with
  | nil => cases hp
  | append_singleton pairs q ih =>
    rw [List.foldl_append, List.foldl_cons, List.foldl_nil]
    rw [List.map_append, List.nodup_append] at hdistinct
    rcases List.mem_append.mp hp with hp | hp
    · have hne : p.1 ≠ q.1 :=
        hdistinct.2.2 _ (List.mem_map_of_mem hp) _ (by simp)
      rw [Dict.set, if_neg hne]
      exact ih hdistinct.1 hp
    · obtain rfl : p = q := by simpa using hp
      exact if_pos rfl

/-- With distinct keys, nothing else is read. -/
theorem fields_eq_some_iff {pairs : List (Text × Text)} (h : PlainPairs pairs)
    (hdistinct : (pairs.map Prod.fst).Nodup) {key value : Text} :
    fields (joinFields pairs) key = some value ↔ (key, value) ∈ pairs := by
  refine ⟨fun hread => ?_, fun hp => fields_eq_some h hdistinct hp⟩
  by_cases hkey : key ∈ pairs.map Prod.fst
  · obtain ⟨p, hp, rfl⟩ := List.mem_map.mp hkey
    rw [fields_eq_some h hdistinct hp, Option.some.injEq] at hread
    exact hread ▸ hp
  · rw [fields_joinFields h, foldl_set_of_not_mem hkey] at hread
    cases hread

end SmolVlaQgf.FieldText
