import Mathlib.Data.List.Basic
import Mathlib.Data.List.Infix

/-!
# Where a pattern occurs in a text put together from parts

An occurrence in a concatenation begins in one of the parts and may reach into the parts
behind it. A part without the first character of the pattern has no occurrence that begins
there.
-/

namespace SmolVlaQgf.TextSearch

universe u

variable {α : Type u} {pattern first text rest : List α}

/-- The pattern occurs in `text ++ rest` from a position in `text`. -/
def BeginsIn (pattern text rest : List α) : Prop :=
  ∃ before after, before ++ after = text ∧ after ≠ [] ∧ pattern <+: after ++ rest

theorem not_beginsIn_nil : ¬BeginsIn pattern [] rest := by
  rintro ⟨before, after, hsplit, hafter, -⟩
  exact hafter (List.append_eq_nil_iff.mp hsplit).2

theorem beginsIn_cons {c : α} : BeginsIn pattern (c :: text) rest ↔
    pattern <+: c :: (text ++ rest) ∨ BeginsIn pattern text rest := by
  constructor
  · rintro ⟨before, after, hsplit, hafter, hstart⟩
    cases before with
    | nil =>
      rw [List.nil_append] at hsplit
      subst hsplit
      exact Or.inl hstart
    | cons b before =>
      exact Or.inr ⟨before, after, (List.cons_eq_cons.mp hsplit).2, hafter, hstart⟩
  · rintro (hstart | ⟨before, after, rfl, hafter, hstart⟩)
    · exact ⟨[], c :: text, rfl, List.cons_ne_nil _ _, hstart⟩
    · exact ⟨c :: before, after, rfl, hafter, hstart⟩

/-- An occurrence begins in the first part or lies in the second. -/
theorem infix_append_iff_beginsIn :
    pattern <:+: text ++ rest ↔ BeginsIn pattern text rest ∨ pattern <:+: rest := by
  induction text with
  | nil => simp [not_beginsIn_nil]
  | cons c text ih => rw [List.cons_append, List.infix_cons_iff, ih, beginsIn_cons, or_assoc]

/-- Nothing begins in a part without the first character of the pattern. -/
theorem not_beginsIn_of_not_mem {c : α} (h : c ∉ text) : ¬BeginsIn (c :: pattern) text rest := by
  rintro ⟨before, after, rfl, hafter, hstart⟩
  cases after with
  | nil => exact hafter rfl
  | cons a after =>
    obtain ⟨rfl, -⟩ := List.cons_prefix_cons.mp hstart
    exact h (by simp)

/-- A pattern does not reach over a character it does not have. -/
theorem prefix_append_cons_iff {c : α} (h : c ∉ pattern) :
    pattern <+: text ++ c :: rest ↔ pattern <+: text := by
  refine ⟨fun hstart => ?_, fun hstart => hstart.trans (List.prefix_append _ _)⟩
  induction text generalizing pattern with
  | nil =>
    cases pattern with
    | nil => exact List.nil_prefix
    | cons a pattern =>
      obtain ⟨rfl, -⟩ := List.cons_prefix_cons.mp hstart
      exact absurd List.mem_cons_self h
  | cons b text ih =>
    cases pattern with
    | nil => exact List.nil_prefix
    | cons a pattern =>
      obtain ⟨rfl, hrest⟩ := List.cons_prefix_cons.mp hstart
      exact List.cons_prefix_cons.mpr ⟨rfl, ih (List.not_mem_of_not_mem_cons h) hrest⟩

/-- In front of a character it does not have, a pattern begins only where all of it is. -/
theorem infix_of_beginsIn {c : α} (h : c ∉ pattern) (hbegins : BeginsIn pattern text (c :: rest)) :
    pattern <:+: text := by
  obtain ⟨before, after, rfl, -, hstart⟩ := hbegins
  have hafter := (prefix_append_cons_iff h).mp hstart
  exact hafter.isInfix.trans (List.suffix_append _ _).isInfix

/-- A pattern without the separator lies on one of its sides. -/
theorem infix_append_cons_iff {c : α} (h : c ∉ pattern) :
    pattern <:+: text ++ c :: rest ↔ pattern <:+: text ∨ pattern <:+: rest := by
  constructor
  · intro hinfix
    rcases infix_append_iff_beginsIn.mp hinfix with hbegins | hrest
    · exact Or.inl (infix_of_beginsIn h hbegins)
    · rcases List.infix_cons_iff.mp hrest with hstart | hrest
      · have hnil : pattern <+: [] := (prefix_append_cons_iff h).mp hstart
        obtain rfl := List.prefix_nil.mp hnil
        exact Or.inl List.nil_infix
      · exact Or.inr hrest
  · rintro (htext | hrest)
    · exact htext.trans (List.prefix_append _ _).isInfix
    · exact hrest.trans ((List.suffix_cons c rest).trans (List.suffix_append _ _)).isInfix

/-- A pattern without the separator lies in one of the pieces. -/
theorem infix_intercalate_iff {c : α} (h : c ∉ pattern) (hpattern : pattern ≠ [])
    (pieces : List (List α)) :
    pattern <:+: [c].intercalate pieces ↔ ∃ piece ∈ pieces, pattern <:+: piece := by
  induction pieces with
  | nil => simp [hpattern]
  | cons piece pieces ih =>
    cases pieces with
    | nil => simp
    | cons next pieces =>
      rw [List.intercalate_cons_cons, List.append_assoc, List.singleton_append,
        infix_append_cons_iff h, List.exists_mem_cons_iff, ih]

/-- With one mark in the text, the pattern before its own mark ends where the text does. -/
theorem infix_marked_iff {mark : α} {before after : List α} (htext : mark ∉ text)
    (hrest : mark ∉ rest) :
    before ++ mark :: after <:+: text ++ mark :: rest ↔ before <:+ text ∧ after <+: rest := by
  constructor
  · rintro ⟨front, back, heq⟩
    have hsplit : text ++ mark :: rest = (front ++ before) ++ mark :: (after ++ back) := by
      rw [← heq]
      simp
    obtain ⟨rfl, -, rfl⟩ := (List.append_cons_inj_of_notMem htext hrest).mp hsplit
    exact ⟨List.suffix_append _ _, List.prefix_append _ _⟩
  · rintro ⟨⟨front, rfl⟩, ⟨back, rfl⟩⟩
    exact ⟨front, back, by simp⟩

theorem BeginsIn.of_start (h : BeginsIn pattern text rest) (hfirst : first <+: pattern) :
    BeginsIn first text rest := by
  obtain ⟨before, after, hsplit, hafter, hstart⟩ := h
  exact ⟨before, after, hsplit, hafter, hfirst.trans hstart⟩

end SmolVlaQgf.TextSearch
