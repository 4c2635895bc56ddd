import Mathlib.Data.List.Basic
import Mathlib.Data.List.Count
import Mathlib.Tactic.Common

/-!
# First-in first-out channels and their latest message

A channel keeps everything sent on it and how much of that was delivered. A receiver with
one slot for the channel holds the latest delivered message. Where a sender sends on a
channel for some of its calls only, the number of messages delivered tells which of these
calls the latest message belongs to.
-/

namespace SmolVlaQgf.FifoChannels

variable {α β : Type}

/-! ## Channels -/

/-- The messages sent, oldest first, of which the first `delivered` have arrived. -/
structure Channel (α : Type) where
  sent : List α
  delivered : ℕ
  within : delivered ≤ sent.length

namespace Channel

def empty : Channel α := ⟨[], 0, Nat.le_refl _⟩

def send (messages : List α) (c : Channel α) : Channel α where
  sent := c.sent ++ messages
  delivered := c.delivered
  within := by
    rw [List.length_append]
    exact Nat.le_add_right_of_le c.within

def deliver (c : Channel α) : Option (α × Channel α) :=
  if h : c.delivered < c.sent.length then
    some (c.sent[c.delivered], ⟨c.sent, c.delivered + 1, h⟩)
  else none

def latest (c : Channel α) : Option α := (c.sent.take c.delivered).getLast?

variable {c d : Channel α} {message : α}

@[simp] theorem sent_send (messages : List α) (c : Channel α) :
    (c.send messages).sent = c.sent ++ messages := rfl

@[simp] theorem delivered_send (messages : List α) (c : Channel α) :
    (c.send messages).delivered = c.delivered := rfl

@[simp] theorem latest_empty : (empty : Channel α).latest = none := rfl

@[simp] theorem latest_send (messages : List α) (c : Channel α) :
    (c.send messages).latest = c.latest := by
  rw [latest, sent_send, delivered_send, List.take_append_of_le_length c.within, latest]

theorem sent_of_deliver (h : c.deliver = some (message, d)) : d.sent = c.sent := by
  rw [deliver] at h
  split_ifs at h
  obtain ⟨-, rfl⟩ := Prod.mk.inj (Option.some.inj h)
  rfl

theorem latest_of_deliver (h : c.deliver = some (message, d)) : d.latest = some message := by
  rw [deliver] at h
  split_ifs at h with hlt
  obtain ⟨rfl, rfl⟩ := Prod.mk.inj (Option.some.inj h)
  rw [latest, List.take_succ_eq_append_getElem hlt, List.getLast?_concat]

theorem mem_of_deliver (h : c.deliver = some (message, d)) : message ∈ c.sent := by
  rw [deliver] at h
  split_ifs at h
  obtain ⟨rfl, -⟩ := Prod.mk.inj (Option.some.inj h)
  exact List.getElem_mem _

/-- The latest message is the one sent at the last delivered position. -/
theorem exists_of_latest (h : c.latest = some message) :
    ∃ i, c.sent[i]? = some message ∧ i + 1 = c.delivered := by
  rw [latest, List.getLast?_eq_getElem?, List.length_take, Nat.min_eq_left c.within] at h
  have hpos : 0 < c.delivered := by
    by_contra hzero
    obtain hzero := Nat.eq_zero_of_not_pos hzero
    rw [hzero, List.take_zero] at h
    cases h
  rw [List.getElem?_take_of_lt (Nat.sub_one_lt_of_lt hpos)] at h
  exact ⟨c.delivered - 1, h, Nat.sub_add_cancel hpos⟩

end Channel

/-! ## Calls that send on a channel -/

/-- How many of the first `n` calls send. -/
def sentBefore (message : α → Option β) (calls : List α) (n : ℕ) : ℕ :=
  (calls.take n).countP fun call => (message call).isSome

variable {message : α → Option β} {calls : List α}

theorem sentBefore_mono {m n : ℕ} (h : m ≤ n) :
    sentBefore message calls m ≤ sentBefore message calls n :=
  (List.take_sublist_take_left h).countP_le

theorem sentBefore_succ {n : ℕ} {call : α} (h : calls[n]? = some call) :
    sentBefore message calls (n + 1) =
      sentBefore message calls n + if (message call).isSome then 1 else 0 := by
  obtain ⟨hlt, rfl⟩ := List.getElem?_eq_some_iff.mp h
  rw [sentBefore, List.take_succ_eq_append_getElem hlt, List.countP_append,
    List.countP_singleton, sentBefore]

theorem sentBefore_append {n : ℕ} (more : List α) (h : n ≤ calls.length) :
    sentBefore message (calls ++ more) n = sentBefore message calls n := by
  rw [sentBefore, List.take_append_of_le_length h, sentBefore]

/-- The message at a position was sent by the call before which so many calls had sent. -/
theorem exists_call_of_getElem?_filterMap {n : ℕ} {sent : β}
    (h : (calls.filterMap message)[n]? = some sent) :
    ∃ i call, calls[i]? = some call ∧ message call = some sent ∧
      sentBefore message calls (i + 1) = n + 1 := by
  induction calls generalizing n with
  | nil => simp at h
  | cons first rest ih =>
    have hshift : ∀ i, sentBefore message (first :: rest) (i + 1) =
        sentBefore message rest i + if (message first).isSome then 1 else 0 := fun i => by
      rw [sentBefore, List.take_succ_cons, List.countP_cons, sentBefore]
    cases hfirst : message first with
    | none =>
      rw [List.filterMap_cons_none hfirst] at h
      obtain ⟨i, call, hcall, hsent, hcount⟩ := ih h
      exact ⟨i + 1, call, by simpa using hcall, hsent, by simp [hshift, hfirst, hcount]⟩
    | some message' =>
      rw [List.filterMap_cons_some hfirst] at h
      cases n with
      | zero =>
        obtain rfl : message' = sent := by simpa using h
        exact ⟨0, first, rfl, hfirst, by simp [hfirst, sentBefore]⟩
      | succ n =>
        obtain ⟨i, call, hcall, hsent, hcount⟩ := ih (by simpa using h)
        exact ⟨i + 1, call, by simpa using hcall, hsent, by simp [hshift, hfirst, hcount]⟩

/-- A call that sends is determined by the number of messages sent up to it. -/
theorem eq_of_sentBefore_eq {i j : ℕ} {call call' : α} (hi : calls[i]? = some call)
    (hj : calls[j]? = some call') (hcall : (message call).isSome = true)
    (hcall' : (message call').isSome = true)
    (h : sentBefore message calls (i + 1) = sentBefore message calls (j + 1)) : i = j := by
  have hi : sentBefore message calls (i + 1) = _ := sentBefore_succ hi
  have hj : sentBefore message calls (j + 1) = _ := sentBefore_succ hj
  rw [if_pos hcall] at hi
  rw [if_pos hcall'] at hj
  rcases Nat.lt_trichotomy i j with hlt | heq | hlt
  · have hmono : sentBefore message calls (i + 1) ≤ sentBefore message calls j :=
      sentBefore_mono hlt
    omega
  · exact heq
  · have hmono : sentBefore message calls (j + 1) ≤ sentBefore message calls i :=
      sentBefore_mono hlt
    omega

end SmolVlaQgf.FifoChannels
