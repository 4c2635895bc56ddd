/-!
# Properties of event logs

A log lists the events of a run, oldest first. Two patterns are used throughout:
every earlier event of one kind has been answered by a later event of another
kind, and a condition that relates each event to the log before it. Both are
characterised by what one appended event changes.
-/

namespace SmolVlaQgf.EventLogs

universe u

variable {ε : Type u}

/-- Every `P` event of the log is followed by a `Q` event. -/
def Answered (P Q : ε → Prop) (log : List ε) : Prop :=
  ∀ pre e post, log = pre ++ e :: post → P e → ∃ q ∈ post, Q q

@[simp] theorem answered_nil (P Q : ε → Prop) : Answered P Q [] := by
  intro pre e post h
  simp at h

theorem append_eq_cons_append_iff {log pre post : List ε} {last e : ε} :
    log ++ [last] = pre ++ e :: post ↔
      (post = [] ∧ log = pre ∧ last = e) ∨
        ∃ post', post = post' ++ [last] ∧ log = pre ++ e :: post' := by
  constructor
  · intro h
    rcases List.eq_nil_or_concat post with rfl | ⟨post', l, rfl⟩
    · exact Or.inl ⟨rfl, by simpa using h⟩
    · have h' : log ++ [last] = (pre ++ e :: post') ++ [l] := by simpa using h
      obtain ⟨hlog, hl⟩ := List.append_inj' h' rfl
      obtain rfl : last = l := by simpa using hl
      exact Or.inr ⟨post', List.concat_eq_append, hlog⟩
  · rintro (⟨rfl, rfl, rfl⟩ | ⟨post', rfl, rfl⟩) <;> simp

@[simp] theorem answered_append_singleton (P Q : ε → Prop) (log : List ε) (last : ε) :
    Answered P Q (log ++ [last]) ↔ ¬P last ∧ (Q last ∨ Answered P Q log) := by
  constructor
  · intro h
    have hlast : ¬P last := by
      intro hp
      obtain ⟨q, hq, -⟩ := h log last [] rfl hp
      simp at hq
    refine ⟨hlast, ?_⟩
    by_cases hq : Q last
    · exact Or.inl hq
    · right
      intro pre e post he hp
      obtain ⟨q, hmem, hqq⟩ := h pre e (post ++ [last]) (by simp [he]) hp
      rcases List.mem_append.mp hmem with hm | hm
      · exact ⟨q, hm, hqq⟩
      · obtain rfl : q = last := by simpa using hm
        exact absurd hqq hq
  · rintro ⟨hlast, h⟩ pre e post he hp
    rcases append_eq_cons_append_iff.mp he with ⟨rfl, rfl, rfl⟩ | ⟨post', rfl, hlog⟩
    · exact absurd hp hlast
    · rcases h with hq | h
      · exact ⟨last, by simp, hq⟩
      · obtain ⟨q, hm, hq⟩ := h pre e post' hlog hp
        exact ⟨q, by simp [hm], hq⟩

@[simp] theorem answered_cons (P Q : ε → Prop) (e : ε) (log : List ε) :
    Answered P Q (e :: log) ↔ (P e → ∃ q ∈ log, Q q) ∧ Answered P Q log := by
  constructor
  · intro h
    exact ⟨h [] e log rfl, fun pre e' post he => h (e :: pre) e' post (by simp [he])⟩
  · rintro ⟨he, h⟩ pre e' post hlog hp
    cases pre with
    | nil =>
      obtain ⟨rfl, rfl⟩ := List.cons.inj hlog
      exact he hp
    | cons a pre =>
      obtain ⟨rfl, rfl⟩ := List.cons.inj hlog
      exact h pre e' post rfl hp

instance decidableAnswered (P Q : ε → Prop) [DecidablePred P] [DecidablePred Q] :
    (log : List ε) → Decidable (Answered P Q log)
  | [] => isTrue (answered_nil P Q)
  | e :: log =>
      have := decidableAnswered P Q log
      decidable_of_iff ((P e → ∃ q ∈ log, Q q) ∧ Answered P Q log) (answered_cons P Q e log).symm

/-- Every event of the log stands in the relation `C` to the log before it. -/
def AtEvery (C : ε → List ε → Prop) (log : List ε) : Prop :=
  ∀ pre e post, log = pre ++ e :: post → C e pre

@[simp] theorem atEvery_nil (C : ε → List ε → Prop) : AtEvery C [] := by
  intro pre e post h
  simp at h

@[simp] theorem atEvery_append_singleton (C : ε → List ε → Prop) (log : List ε) (last : ε) :
    AtEvery C (log ++ [last]) ↔ AtEvery C log ∧ C last log := by
  constructor
  · intro h
    refine ⟨?_, h log last [] rfl⟩
    intro pre e post he
    exact h pre e (post ++ [last]) (by simp [he])
  · rintro ⟨h, hlast⟩ pre e post he
    rcases append_eq_cons_append_iff.mp he with ⟨rfl, rfl, rfl⟩ | ⟨post', rfl, hlog⟩
    · exact hlast
    · exact h pre e post' hlog

theorem atEvery_cons (C : ε → List ε → Prop) (e : ε) (log : List ε) :
    AtEvery C (e :: log) ↔ C e [] ∧ AtEvery (fun x pre => C x (e :: pre)) log := by
  constructor
  · intro h
    exact ⟨h [] e log rfl, fun pre x post hx => h (e :: pre) x post (by simp [hx])⟩
  · rintro ⟨he, h⟩ pre x post hlog
    cases pre with
    | nil =>
      obtain ⟨rfl, rfl⟩ := List.cons.inj hlog
      exact he
    | cons a pre =>
      obtain ⟨rfl, rfl⟩ := List.cons.inj hlog
      exact h pre x post rfl

instance decidableAtEvery : (C : ε → List ε → Prop) → [∀ e pre, Decidable (C e pre)] →
    (log : List ε) → Decidable (AtEvery C log)
  | C, _, [] => isTrue (atEvery_nil C)
  | C, _, e :: log =>
      have := decidableAtEvery (fun x pre => C x (e :: pre)) log
      decidable_of_iff (C e [] ∧ AtEvery (fun x pre => C x (e :: pre)) log)
        (atEvery_cons C e log).symm

end SmolVlaQgf.EventLogs
