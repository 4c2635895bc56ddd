import Mathlib.Data.List.Forall2

/-!
# Archives of length-prefixed records

A record is a header of fixed width that says how long its payload is, and the payload. Records
follow each other without separators; a reader that takes one header and as much payload as it
says, again and again, gets the records back whatever the payloads contain.
-/

namespace SmolVlaQgf.LengthPrefixedRecords

variable {Byte Header : Type}

/-- How headers are read; `size` is the length of the payload a header announces. -/
structure RecordFormat (Byte Header : Type) where
  width : ℕ
  width_pos : 0 < width
  decode : List Byte → Header
  size : Header → ℕ

namespace RecordFormat

variable (format : RecordFormat Byte Header)

/-- Read all records of an archive; `none` if it ends within one. -/
def parse : List Byte → Option (List (Header × List Byte))
  | [] => some []
  | byte :: bytes =>
      let header := format.decode ((byte :: bytes).take format.width)
      let rest := (byte :: bytes).drop format.width
      if (byte :: bytes).length < format.width ∨ rest.length < format.size header then none
      else (parse (rest.drop (format.size header))).map
        ((header, rest.take (format.size header)) :: ·)
termination_by bytes => bytes.length
decreasing_by
  have := format.width_pos
  simp only [List.length_drop, List.length_cons]
  omega

def Frames (record : Header × List Byte) (bytes : List Byte) : Prop :=
  ∃ front, bytes = front ++ record.2 ∧ front.length = format.width ∧
    format.decode front = record.1 ∧ format.size record.1 = record.2.length

variable {format}

theorem parse_nil : format.parse [] = some [] := by rw [parse]

/-- A record in front of an archive is read first. -/
theorem parse_append {record : Header × List Byte} {bytes : List Byte}
    (h : format.Frames record bytes) (rest : List Byte) :
    format.parse (bytes ++ rest) = (format.parse rest).map (record :: ·) := by
  obtain ⟨front, rfl, hwidth, hheader, hsize⟩ := h
  have hpos := format.width_pos
  have htake : (front ++ record.2 ++ rest).take format.width = front := by
    rw [List.append_assoc, ← hwidth, List.take_left]
  have hdrop : (front ++ record.2 ++ rest).drop format.width = record.2 ++ rest := by
    rw [List.append_assoc, ← hwidth, List.drop_left]
  have hlength : format.width ≤ (front ++ record.2 ++ rest).length := by
    rw [List.length_append, List.length_append]
    omega
  generalize front ++ record.2 ++ rest = all at *
  cases all with
  | nil => simp at hlength; omega
  | cons byte bytes =>
    rw [parse, htake, hdrop, hheader, hsize]
    rw [if_neg (by simp only [List.length_append]; omega), List.take_left, List.drop_left]

theorem parse_flatten {records : List (Header × List Byte)} {frames : List (List Byte)}
    (h : List.Forall₂ format.Frames records frames) :
    format.parse frames.flatten = some records := by
  induction h with
  | nil => exact parse_nil
  | cons hframe _ ih => rw [List.flatten_cons, parse_append hframe, ih, Option.map_some]

end RecordFormat

end SmolVlaQgf.LengthPrefixedRecords
