import SmolVlaQgf.EpisodeRecorder
import SmolVlaQgf.RolloutStatus
import SmolVlaQgf.TextSearch

/-!
# The consumers of the status text

The monitor and the recorder split the text that `_publish_status` publishes into its fields. The
launch scripts instead wait for a text with given substrings, so a condition `key=value` also holds
for a longer key or a longer value; of the published keys none ends with another.
-/

namespace SmolVlaQgf.StatusGates
open DecimalText FieldText TextSearch ArmstrongConfiguration RolloutStatus EpisodeRecorder

/-! ## Waiting for a text -/

/-- The test of `main` in `wait_for_string_topic` on the latest data; the patterns are given by
what they find. -/
def conditionHolds (contains : List Text) (patterns : List (Text → Bool)) :
    Option Text → Bool
  | none => false
  | some lastData =>
      (contains.all fun value => decide (value <:+: lastData)) &&
        patterns.all fun pattern => pattern lastData

/-- The condition `--contains key=value`. -/
def Gate (key value text : Text) : Prop :=
  conditionHolds [key ++ '=' :: value] [] (some text) = true

private theorem gate_iff {key value text : Text} :
    Gate key value text ↔ key ++ '=' :: value <:+: text := by
  simp [Gate, conditionHolds]

/-! ## Fields and substrings -/

section Fields

variable {pairs : List (Text × Text)} {key value : Text}

/-- A condition without separators holds if one field continues it on both sides. -/
theorem gate_joinFields_iff (h : PlainPairs pairs) (hkey : ';' ∉ key) (hvalue : ';' ∉ value) :
    Gate key value (joinFields pairs) ↔ ∃ p ∈ pairs, key <:+ p.1 ∧ value <+: p.2 := by
  have hseparator : ';' ∉ key ++ '=' :: value := by
    simp only [List.mem_append, List.mem_cons, not_or]
    exact ⟨hkey, by decide, hvalue⟩
  rw [gate_iff, joinFields, infix_intercalate_iff hseparator (by simp)]
  constructor
  · rintro ⟨piece, hpiece, hinfix⟩
    obtain ⟨p, hp, rfl⟩ := List.mem_map.mp hpiece
    exact ⟨p, hp, (infix_marked_iff (fun hmark => ((h p hp).1 _ hmark).2.1 rfl)
      fun hmark => ((h p hp).2 _ hmark).2.1 rfl).mp hinfix⟩
  · rintro ⟨p, hp, hcontinued⟩
    exact ⟨_, List.mem_map.mpr ⟨p, hp, rfl⟩,
      (infix_marked_iff (fun hmark => ((h p hp).1 _ hmark).2.1 rfl)
        fun hmark => ((h p hp).2 _ hmark).2.1 rfl).mpr hcontinued⟩

private theorem gate_of_mem (h : PlainPairs pairs) {p : Text × Text} (hp : p ∈ pairs) :
    Gate p.1 p.2 (joinFields pairs) :=
  (gate_joinFields_iff h (fun hmem => ((h p hp).1 _ hmem).1 rfl)
    fun hmem => ((h p hp).2 _ hmem).1 rfl).mpr ⟨p, hp, List.suffix_rfl, List.prefix_rfl⟩

end Fields

/-! ## The status text -/

structure ReadAlike (pairs : List (Text × Text)) (text : Text) : Prop where
  same : fields text = parseStatus text
  published : ∀ key value, fields text key = some value ↔ (key, value) ∈ pairs
  gate_of_read : ∀ key value, fields text key = some value → Gate key value text
  gate_iff_continued : ∀ key value, ';' ∉ key → ';' ∉ value →
    (Gate key value text ↔ ∃ p ∈ pairs, key <:+ p.1 ∧ value <+: p.2)
  gate_iff_begins : ∀ p ∈ pairs, ∀ value, ';' ∉ value → (Gate p.1 value text ↔ value <+: p.2)
  gate_iff_read : ∀ p ∈ pairs, ∀ value, ';' ∉ value → p.2.length ≤ value.length →
    (Gate p.1 value text ↔ fields text p.1 = some value)

variable {K : Type} [Field K] [LinearOrder K] [FloorRing K]

theorem key_eq_of_suffix {config : AdapterConfig K} {snap : StatusSnapshot K}
    {connected actionEnabled : Bool} {p q : Text × Text}
    (hp : p ∈ statusFields config snap connected actionEnabled)
    (hq : q ∈ statusFields config snap connected actionEnabled) (h : p.1 <:+ q.1) : p.1 = q.1 := by
  have hkeys : ∀ a ∈ (statusFields config snap connected actionEnabled).map Prod.fst,
      ∀ b ∈ (statusFields config snap connected actionEnabled).map Prod.fst, a <:+ b → a = b := by
    simp only [statusFields, List.map_cons, List.map_nil]
    decide +kernel
  exact hkeys _ (List.mem_map_of_mem hp) _ (List.mem_map_of_mem hq) h

/-- The status text is split alike; a condition on a published key holds if its value begins the
published one. -/
theorem status_readAlike (config : AdapterConfig K) (snap : StatusSnapshot K)
    (connected actionEnabled : Bool) :
    ReadAlike (statusFields config snap connected actionEnabled)
      (statusText config snap connected actionEnabled) := by
  have hplain := plainPairs_statusFields config snap connected actionEnabled
  have hnodup := statusFields_nodup config snap connected actionEnabled
  have hpublished : ∀ key value,
      fields (statusText config snap connected actionEnabled) key = some value ↔
        (key, value) ∈ statusFields config snap connected actionEnabled :=
    fun key value => fields_eq_some_iff hplain hnodup
  have hbegins : ∀ p ∈ statusFields config snap connected actionEnabled, ∀ value, ';' ∉ value →
      (Gate p.1 value (statusText config snap connected actionEnabled) ↔ value <+: p.2) := by
    intro p hp value hvalue
    rw [statusText, gate_joinFields_iff hplain (fun hmem => ((hplain p hp).1 _ hmem).1 rfl) hvalue]
    constructor
    · rintro ⟨q, hq, hkey, hprefix⟩
      obtain rfl := List.inj_on_of_nodup_map hnodup hp hq (key_eq_of_suffix hp hq hkey)
      exact hprefix
    · intro hprefix
      exact ⟨p, hp, List.suffix_rfl, hprefix⟩
  constructor
  · rfl
  · exact hpublished
  · intro key value hread
    exact gate_of_mem hplain ((hpublished key value).mp hread)
  · intro key value hkey hvalue
    exact gate_joinFields_iff hplain hkey hvalue
  · exact hbegins
  · intro p hp value hvalue hlength
    rw [hbegins p hp value hvalue,
      fields_statusText config snap connected actionEnabled hp, Option.some.injEq]
    constructor
    · intro hstart
      exact (hstart.eq_of_length_le hlength).symm
    · rintro rfl
      exact List.prefix_rfl

def fiftyQueued : StatusSnapshot ℚ where
  jointPresent := true
  chestPresent := true
  wristPresent := true
  jointAge := 0
  chestAge := 0
  wristAge := 0
  policyQueueSize := 50
  policyExpectedChunkSize := 50
  policyChunkReady := true
  armMotionEnabled := true
  gripperContact := false
  gripperCandidate := none
  gripperCandidateCount := 0
  gripperCommandClosed := false
  completionResult := none
  completionActive := false

/-- Fifty queued actions pass for five. -/
theorem five_of_fifty_queued :
    ¬∀ key value, Gate key value (statusText shippedConfig fiftyQueued true false) ↔
      fields (statusText shippedConfig fiftyQueued true false) key = some value := by
  intro hclaim
  have hfifty : decimal 50 = "50".toList := by
    have hdigits : Nat.digits 10 50 = [0, 5] := by norm_num
    rw [decimal, if_neg (by decide), hdigits]
    rfl
  have hmem : ("action_queue_size".toList, "50".toList) ∈
      statusFields shippedConfig fiftyQueued true false := by
    rw [← hfifty]
    simp [statusFields, fiftyQueued]
  have hgate : Gate "action_queue_size".toList "5".toList
      (statusText shippedConfig fiftyQueued true false) :=
    (gate_joinFields_iff (plainPairs_statusFields shippedConfig fiftyQueued true false)
      (by decide) (by decide)).mpr ⟨_, hmem, List.suffix_rfl, by decide⟩
  have hread := (hclaim _ _).mp hgate
  rw [fields_statusText shippedConfig fiftyQueued true false hmem] at hread
  exact absurd hread (by decide)

end SmolVlaQgf.StatusGates
