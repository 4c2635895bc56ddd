import SmolVlaQgf.AlignedSamples
import SmolVlaQgf.RunningBest
import Mathlib.Order.WithBot

/-!
# The saved critic

`train_critic` and `train_counterfactual_mixed_critic` copy the weights whenever the validation
loss improves on the best one so far, and name the epoch that a minimum over the recorded history
finds. Both selections replace an entry only by a smaller one, so they agree on every sequence of
losses, NaN included.
-/

namespace SmolVlaQgf.CheckpointSelection
open ExactFloats AlignedSamples NearestEntries RunningBest

variable {S W E K : Type}

/-! ## What the scripts share -/

/-- `best_val_loss` and the copy of the weights that goes with it. -/
structure Best (W K : Type) where
  valLoss : Option (PyFloat K)
  stateDict : Option W

def Best.empty : Best W K := ⟨none, none⟩

/-- What `_select_checkpoint_metadata` returns. -/
structure Selection (K : Type) where
  selectedEpoch : Option ℕ
  selectedMetric : String
  selectedValLoss : Option (PyFloat K)

structure Checkpoint (W E K : Type) extends Selection K where
  modelStateDict : W
  finalModelStateDict : W
  history : List E

/-- A training loop: an epoch trains the critic and returns its metrics, of which the validation
loss may be missing. -/
structure Loop (S W E K : Type) where
  initial : S
  runEpoch : ℕ → S → S × E
  stateDict : S → W
  valLoss : E → Option (PyFloat K)

/-- What so many epochs come to: the weights at the end of each, its entry of the history and its
validation loss. -/
structure Trained (W E K : Type) where
  weightsAt : ℕ → W
  metricsAt : ℕ → E
  valLossAt : ℕ → Option (PyFloat K)

structure LoopState (S W E K : Type) where
  critic : S
  best : Best W K
  history : List E

section Loops

variable [LinearOrder K]

/-- `if best_val_loss is None or val_loss < best_val_loss` -/
def Best.update (best : Best W K) (valLoss : PyFloat K) (stateDict : W) : Best W K :=
  match best.valLoss with
  | none => ⟨some valLoss, some stateDict⟩
  | some bestValLoss => if valLoss.lt bestValLoss then ⟨some valLoss, some stateDict⟩ else best

def bestEntry (valLoss : E → Option (PyFloat K)) (history : List E) : Option (E × PyFloat K) :=
  minBy PyFloat.lt Prod.snd
    (history.filterMap fun entry => (valLoss entry).map fun loss => (entry, loss))

/-- The selection from a history; the scripts differ in the metric of an empty one. -/
def selectMetadata (emptyMetric metric : String) (epoch : E → ℕ)
    (valLoss : E → Option (PyFloat K)) (history : List E) : Selection K :=
  match history.getLast? with
  | none => ⟨none, emptyMetric, none⟩
  | some last =>
      match bestEntry valLoss history with
      | none => ⟨some (epoch last), "final", none⟩
      | some (best, loss) => ⟨some (epoch best), metric, some loss⟩

namespace Loop

variable (loop : Loop S W E K)

def start : LoopState S W E K := ⟨loop.initial, .empty, []⟩

def step (state : LoopState S W E K) (epoch : ℕ) : LoopState S W E K :=
  let (critic, metrics) := loop.runEpoch epoch state.critic
  { critic
    best :=
      match loop.valLoss metrics with
      | none => state.best
      | some valLoss => state.best.update valLoss (loop.stateDict critic)
    history := state.history ++ [metrics] }

def run (select : List E → Selection K) (metric : String) (epochs : ℕ) : Checkpoint W E K :=
  let state := (List.range epochs).foldl loop.step loop.start
  let finalModelStateDict := loop.stateDict state.critic
  let selection := select state.history
  { selection with
    modelStateDict :=
      if selection.selectedMetric = metric then state.best.stateDict.getD finalModelStateDict
      else finalModelStateDict
    finalModelStateDict
    history := state.history }

end Loop

end Loops

/-! ## `train_critic` -/

namespace TrainCritic

structure Metrics (K : Type) where
  epoch : ℕ
  trainLoss : PyFloat K
  valLoss : Option (PyFloat K)

/-- What the script trains with: an epoch over the loader, which returns the mean training loss,
and the validation loss if there are validation rows. -/
structure Run (S W K : Type) where
  initial : S
  trainEpoch : ℕ → S → S × PyFloat K
  validate : Option (S → PyFloat K)
  stateDict : S → W

namespace Run

variable (run : Run S W K)

def criticAfter : ℕ → S
  | 0 => run.initial
  | n + 1 => (run.trainEpoch n (criticAfter n)).1

def valLossAt (epoch : ℕ) : Option (PyFloat K) :=
  run.validate.map fun validate => validate (run.criticAfter (epoch + 1))

def trained : Trained W (Metrics K) K where
  weightsAt := fun epoch => run.stateDict (run.criticAfter (epoch + 1))
  metricsAt := fun epoch =>
    ⟨epoch, (run.trainEpoch epoch (run.criticAfter epoch)).2, run.valLossAt epoch⟩
  valLossAt := run.valLossAt

end Run

variable [LinearOrder K]

def Run.loop (run : Run S W K) : Loop S W (Metrics K) K where
  initial := run.initial
  runEpoch := fun epoch critic =>
    let (critic, trainLoss) := run.trainEpoch epoch critic
    (critic, { epoch, trainLoss, valLoss := run.validate.map fun validate => validate critic })
  stateDict := run.stateDict
  valLoss := Metrics.valLoss

/-- `_select_checkpoint_metadata` -/
def selectCheckpointMetadata (history : List (Metrics K)) : Selection K :=
  selectMetadata "none" "val_loss" Metrics.epoch Metrics.valLoss history

/-- `main` of `train_critic.py`, from the loop on. -/
def main (run : Run S W K) (epochs : ℕ) : Checkpoint W (Metrics K) K :=
  run.loop.run selectCheckpointMetadata "val_loss" epochs

end TrainCritic

/-! ## `train_counterfactual_mixed_critic` -/

namespace MixedCritic

structure Row (K : Type) where
  epoch : ℕ
  trainMseLoss : PyFloat K
  trainCfRegressionLoss : PyFloat K
  trainRankingLoss : PyFloat K
  trainRankingAcc : PyFloat K
  trainTotalLoss : PyFloat K
  valMseLoss : Option (PyFloat K)
  valCfRegressionLoss : Option (PyFloat K)
  valRankingLoss : Option (PyFloat K)
  valRankingAcc : Option (PyFloat K)
  valTotalLoss : Option (PyFloat K)

structure TrainMeans (K : Type) where
  mse : PyFloat K
  cf : PyFloat K
  rank : PyFloat K
  rankAcc : PyFloat K

/-- What the script trains with. The evaluations are missing where there is nothing to evaluate;
that of the pairs returns a loss and an accuracy. -/
structure Run (S W K : Type) where
  mseWeight : PyFloat K
  cfRegressionWeight : PyFloat K
  rankingWeight : PyFloat K
  initial : S
  trainEpoch : ℕ → S → S × TrainMeans K
  evalMse : Option (S → PyFloat K)
  evalCfRegression : Option (S → PyFloat K)
  evalPairs : Option (S → PyFloat K × PyFloat K)
  stateDict : S → W

variable [Field K] [LinearOrder K]

/-- `x * y` of floats. -/
def mulFloats : PyFloat K → PyFloat K → PyFloat K
  | .finite x, .finite y => .finite (x * y)
  | .nan, _ | _, .nan => .nan
  | .finite x, .posInf | .posInf, .finite x => timesInfinity x
  | .finite x, .negInf | .negInf, .finite x => timesInfinity (-x)
  | .posInf, .posInf | .negInf, .negInf => .posInf
  | .posInf, .negInf | .negInf, .posInf => .negInf
where
  timesInfinity (x : K) : PyFloat K := if x = 0 then .nan else if 0 < x then .posInf else .negInf

def Run.totalLoss (run : Run S W K) (mse cf rank : PyFloat K) : PyFloat K :=
  addFloats (addFloats (mulFloats run.mseWeight mse) (mulFloats run.cfRegressionWeight cf))
    (mulFloats run.rankingWeight rank)

/-- `val_total_loss`, if there are validation rows or pairs. -/
def Run.valTotalLoss (run : Run S W K) (valMse valCf valRank : Option (PyFloat K)) :
    Option (PyFloat K) :=
  if valMse.isSome ∨ valRank.isSome then
    some (run.totalLoss (valMse.getD (.finite 0)) (valCf.getD (.finite 0))
      (valRank.getD (.finite 0)))
  else none

def Run.row (run : Run S W K) (epoch : ℕ) (means : TrainMeans K) (critic : S) : Row K :=
  let valMse := run.evalMse.map fun eval => eval critic
  let valCf := run.evalCfRegression.map fun eval => eval critic
  let valPairs := run.evalPairs.map fun eval => eval critic
  let valRank := valPairs.map Prod.fst
  { epoch
    trainMseLoss := means.mse
    trainCfRegressionLoss := means.cf
    trainRankingLoss := means.rank
    trainRankingAcc := means.rankAcc
    trainTotalLoss := run.totalLoss means.mse means.cf means.rank
    valMseLoss := valMse
    valCfRegressionLoss := valCf
    valRankingLoss := valRank
    valRankingAcc := valPairs.map Prod.snd
    valTotalLoss := run.valTotalLoss valMse valCf valRank }

def Run.criticAfter (run : Run S W K) : ℕ → S
  | 0 => run.initial
  | n + 1 => (run.trainEpoch n (run.criticAfter n)).1

def Run.trained (run : Run S W K) : Trained W (Row K) K where
  weightsAt := fun epoch => run.stateDict (run.criticAfter (epoch + 1))
  metricsAt := fun epoch => run.row epoch (run.trainEpoch epoch (run.criticAfter epoch)).2
    (run.criticAfter (epoch + 1))
  valLossAt := fun epoch => run.valTotalLoss
    (run.evalMse.map fun eval => eval (run.criticAfter (epoch + 1)))
    (run.evalCfRegression.map fun eval => eval (run.criticAfter (epoch + 1)))
    (run.evalPairs.map fun eval => (eval (run.criticAfter (epoch + 1))).1)

def Run.loop (run : Run S W K) : Loop S W (Row K) K where
  initial := run.initial
  runEpoch := fun epoch critic =>
    let (critic, means) := run.trainEpoch epoch critic
    (critic, run.row epoch means critic)
  stateDict := run.stateDict
  valLoss := Row.valTotalLoss

/-- `_select_checkpoint_metadata` -/
def selectCheckpointMetadata (history : List (Row K)) : Selection K :=
  selectMetadata "final" "val_total_loss" Row.epoch Row.valTotalLoss history

/-- `main` of `train_counterfactual_mixed_critic.py`, from the loop on. -/
def main (run : Run S W K) (epochs : ℕ) : Checkpoint W (Row K) K :=
  run.loop.run selectCheckpointMetadata "val_total_loss" epochs

end MixedCritic

/-! ## A run of a loop -/

section Runs

variable [LinearOrder K] (loop : Loop S W E K)

def Loop.criticAfter : ℕ → S
  | 0 => loop.initial
  | n + 1 => (loop.runEpoch n (criticAfter n)).1

def Loop.weightsAt (epoch : ℕ) : W := loop.stateDict (loop.criticAfter (epoch + 1))

def Loop.metricsAt (epoch : ℕ) : E := (loop.runEpoch epoch (loop.criticAfter epoch)).2

def Loop.trained : Trained W E K where
  weightsAt := loop.weightsAt
  metricsAt := loop.metricsAt
  valLossAt := fun epoch => loop.valLoss (loop.metricsAt epoch)

def Loop.validated (n : ℕ) : List (ℕ × PyFloat K) :=
  (List.range n).filterMap fun epoch =>
    (loop.valLoss (loop.metricsAt epoch)).map fun loss => (epoch, loss)

/-- The epoch with the first least validation loss. -/
def Loop.selected (n : ℕ) : Option (ℕ × PyFloat K) :=
  minBy PyFloat.lt Prod.snd (loop.validated n)

omit [LinearOrder K] in
theorem Loop.validated_succ (n : ℕ) : loop.validated (n + 1) = loop.validated n ++
    ((loop.valLoss (loop.metricsAt n)).map fun loss => (n, loss)).toList := by
  rw [validated, List.range_succ, List.filterMap_append, ← validated]
  cases hloss : loop.valLoss (loop.metricsAt n) with
  | none => simp [hloss]
  | some loss => simp [hloss]

theorem Loop.selected_succ (n : ℕ) : loop.selected (n + 1) =
    match loop.valLoss (loop.metricsAt n) with
    | none => loop.selected n
    | some loss => update PyFloat.lt Prod.snd (loop.selected n) (n, loss) := by
  rw [selected, validated_succ]
  cases loop.valLoss (loop.metricsAt n) with
  | none => simp [selected]
  | some loss =>
    rw [Option.map_some, Option.toList_some, minBy_append_singleton]
    rfl

def Loop.bestOf (selected : Option (ℕ × PyFloat K)) : Best W K where
  valLoss := selected.map Prod.snd
  stateDict := selected.map fun entry => loop.weightsAt entry.1

theorem Loop.update_bestOf (selected : Option (ℕ × PyFloat K)) (epoch : ℕ) (loss : PyFloat K) :
    (loop.bestOf selected).update loss (loop.weightsAt epoch) =
      loop.bestOf (RunningBest.update PyFloat.lt Prod.snd selected (epoch, loss)) := by
  cases selected with
  | none => rfl
  | some entry =>
    simp only [bestOf, Best.update, RunningBest.update, Option.map_some]
    cases loss.lt entry.2 <;> rfl

/-- The loop keeps the weights of the selected epoch. -/
theorem Loop.foldl_step (n : ℕ) : (List.range n).foldl loop.step loop.start =
    ⟨loop.criticAfter n, loop.bestOf (loop.selected n), (List.range n).map loop.metricsAt⟩ := by
  induction n with
  | zero => rfl
  | succ n ih =>
    rw [List.range_succ, List.foldl_append, ih, List.foldl_cons, List.foldl_nil, List.map_append,
      selected_succ, criticAfter]
    refine congrArg₂ (LoopState.mk _) ?_ rfl
    change (match loop.valLoss (loop.metricsAt n) with
      | none => _
      | some valLoss => _) = _
    cases loop.valLoss (loop.metricsAt n) with
    | none => rfl
    | some loss => exact loop.update_bestOf _ n loss

/-- The minimum over the history is the entry of the selected epoch. -/
theorem Loop.bestEntry_history (n : ℕ) :
    bestEntry loop.valLoss ((List.range n).map loop.metricsAt) =
      (loop.selected n).map fun entry => (loop.metricsAt entry.1, entry.2) := by
  have hentries : ((List.range n).map loop.metricsAt).filterMap
      (fun entry => (loop.valLoss entry).map fun loss => (entry, loss)) =
        (loop.validated n).map fun entry => (loop.metricsAt entry.1, entry.2) := by
    rw [validated, List.filterMap_map, List.map_filterMap]
    refine congrArg (fun f => List.filterMap f (List.range n)) (funext fun epoch => ?_)
    rw [Function.comp_apply, Option.map_map]
    rfl
  rw [bestEntry, hentries, minBy_map]
  rfl

omit [LinearOrder K] in
theorem Loop.mem_validated {n epoch : ℕ} {loss : PyFloat K} :
    (epoch, loss) ∈ loop.validated n ↔
      epoch < n ∧ loop.valLoss (loop.metricsAt epoch) = some loss := by
  simp only [validated, List.mem_filterMap, List.mem_range, Option.map_eq_some_iff, Prod.mk.injEq]
  constructor
  · rintro ⟨epoch, hlt, loss, hloss, rfl, rfl⟩
    exact ⟨hlt, hloss⟩
  · rintro ⟨hlt, hloss⟩
    exact ⟨epoch, hlt, loss, hloss, rfl, rfl⟩

omit [LinearOrder K] in
theorem Loop.validated_ascending (n : ℕ) :
    (loop.validated n).Pairwise fun entry other => entry.1 < other.1 := by
  rw [validated, List.pairwise_filterMap]
  refine List.pairwise_lt_range.imp fun {epoch other} hlt entry hentry next hnext => ?_
  obtain ⟨loss, -, rfl⟩ := Option.map_eq_some_iff.mp hentry
  obtain ⟨loss', -, rfl⟩ := Option.map_eq_some_iff.mp hnext
  exact hlt

end Runs

/-! ## Losses without NaN -/

section Ranks

variable [LinearOrder K]

def rank : PyFloat K → WithBot (WithTop K)
  | .finite x => ((x : WithTop K) : WithBot (WithTop K))
  | .posInf => ((⊤ : WithTop K) : WithBot (WithTop K))
  | .negInf | .nan => ⊥

private theorem lt_iff_rank_lt {x y : PyFloat K} (hx : x ≠ .nan) (hy : y ≠ .nan) :
    x.lt y = true ↔ rank x < rank y := by
  have htop : ∀ z : K, ((z : WithTop K) : WithBot (WithTop K)) < ⊤ := fun z =>
    WithBot.coe_lt_coe.mpr (WithTop.coe_lt_top z)
  cases x <;> cases y <;> simp_all [PyFloat.lt, rank]

private theorem le_of_rank_le {x y : PyFloat K} (hx : x ≠ .nan) (hy : y ≠ .nan)
    (h : rank x ≤ rank y) : x.le y = true := by
  cases x <;> cases y <;> simp_all [PyFloat.le, rank]

theorem Loop.minimum_of_selected (loop : Loop S W E K) {n epoch : ℕ} {loss : PyFloat K}
    (hnan : ∀ e < n, loop.valLoss (loop.metricsAt e) ≠ some .nan)
    (h : loop.selected n = some (epoch, loss)) {e : ℕ} (he : e < n) {other : PyFloat K}
    (hother : loop.valLoss (loop.metricsAt e) = some other) :
    loss.le other = true ∧ (e < epoch → loss.lt other = true) := by
  have hnumber : ∀ entry ∈ loop.validated n, entry.2 ≠ .nan := by
    rintro ⟨e, loss⟩ hentry rfl
    obtain ⟨hlt, hloss⟩ := loop.mem_validated.mp hentry
    exact hnan e hlt hloss
  have hmem : (epoch, loss) ∈ loop.validated n := mem_of_minBy _ _ h
  have hmem' : (e, other) ∈ loop.validated n := loop.mem_validated.mpr ⟨he, hother⟩
  have hranks : ∀ x ∈ loop.validated n, ∀ y ∈ loop.validated n,
      x.2.lt y.2 = true ↔ rank x.2 < rank y.2 :=
    fun x hx y hy => lt_iff_rank_lt (hnumber x hx) (hnumber y hy)
  obtain ⟨i, hleast⟩ := exists_leftmost_of_minBy hranks h
  obtain ⟨j, hj, hentry⟩ := List.mem_iff_getElem.mp hmem'
  have hentry' : (loop.validated n)[j]? = some (e, other) := by
    rw [List.getElem?_eq_getElem hj, hentry]
  refine ⟨le_of_rank_le (hnumber _ hmem) (hnumber _ hmem') (hleast.minimal j _ hentry'),
    fun hbefore => ?_⟩
  apply (lt_iff_rank_lt (hnumber _ hmem) (hnumber _ hmem')).mpr
  refine hleast.leftmost j _ ?_ hentry'
  -- The epochs ascend, so an earlier epoch stands further left.
  by_contra hle
  obtain ⟨hi, hfirst⟩ := List.getElem?_eq_some_iff.mp hleast.entry
  rcases Nat.lt_or_eq_of_le (not_lt.mp hle) with hlt | rfl
  · have hascending := List.pairwise_iff_getElem.mp (loop.validated_ascending n) i j hi hj hlt
    rw [hfirst, hentry] at hascending
    exact absurd hbefore (not_lt.mpr hascending.le)
  · rw [hentry, Prod.mk.injEq] at hfirst
    omega

end Ranks

/-! ## The critic that is named -/

section Names

variable [LinearOrder K]

/-- The checkpoint has the weights of the epoch it names: the first one with the least validation
loss, or the last one without validation. -/
structure NamesItsCritic (trained : Trained W E K) (epochs : ℕ) (checkpoint : Checkpoint W E K) :
    Prop where
  history : checkpoint.history = (List.range epochs).map trained.metricsAt
  names : 0 < epochs → ∃ epoch, checkpoint.selectedEpoch = some epoch
  names_none : epochs = 0 → checkpoint.selectedEpoch = none
  weights : ∀ epoch, checkpoint.selectedEpoch = some epoch →
    epoch < epochs ∧ checkpoint.modelStateDict = trained.weightsAt epoch
  minimum : (∀ e < epochs, trained.valLossAt e ≠ some .nan) →
    ∀ epoch, checkpoint.selectedEpoch = some epoch →
      ∀ e < epochs, ∀ other, trained.valLossAt e = some other →
        ∃ loss, trained.valLossAt epoch = some loss ∧ loss.le other = true ∧
          (e < epoch → loss.lt other = true)
  last : (∀ e < epochs, trained.valLossAt e = none) →
    ∀ epoch, checkpoint.selectedEpoch = some epoch → epoch + 1 = epochs

/-- What the selection and the copies come to after so many epochs. -/
inductive Outcome (loop : Loop S W E K) : ℕ → Option ℕ → W → Prop where
  | empty (weights : W) : Outcome loop 0 none weights
  | final {n : ℕ} (hnone : loop.selected (n + 1) = none) :
      Outcome loop (n + 1) (some n) (loop.weightsAt n)
  | best {n epoch : ℕ} {loss : PyFloat K} (hselected : loop.selected n = some (epoch, loss)) :
      Outcome loop n (some epoch) (loop.weightsAt epoch)

theorem Loop.unvalidated_of_selected (loop : Loop S W E K) {n : ℕ} (h : loop.selected n = none)
    {e : ℕ} (he : e < n) : loop.valLoss (loop.metricsAt e) = none := by
  by_contra hloss
  obtain ⟨loss, hloss⟩ := Option.ne_none_iff_exists'.mp hloss
  have hne : loop.validated n ≠ [] :=
    List.ne_nil_of_mem (loop.mem_validated.mpr ⟨he, hloss⟩)
  have hsome := minBy_isSome PyFloat.lt Prod.snd hne
  rw [← Loop.selected, h] at hsome
  cases hsome

theorem Loop.run_outcome (loop : Loop S W E K) (emptyMetric : String) {metric : String}
    {epochOf : E → ℕ}
    (hepoch : ∀ epoch critic, epochOf (loop.runEpoch epoch critic).2 = epoch)
    (hfinal : "final" ≠ metric) (n : ℕ) :
    Outcome loop n
      (loop.run (selectMetadata emptyMetric metric epochOf loop.valLoss) metric n).selectedEpoch
      (loop.run (selectMetadata emptyMetric metric epochOf loop.valLoss) metric n).modelStateDict
      := by
  rw [run, loop.foldl_step]
  dsimp only
  rw [selectMetadata, loop.bestEntry_history]
  cases n with
  | zero => exact .empty _
  | succ n =>
    have hlast : ((List.range (n + 1)).map loop.metricsAt).getLast? = some (loop.metricsAt n) := by
      simp [List.range_succ]
    rw [hlast]
    cases hselected : loop.selected (n + 1) with
    | none =>
      simp only [Option.map_none, if_neg hfinal, metricsAt, hepoch]
      exact .final hselected
    | some entry =>
      simp only [Option.map_some, if_true, metricsAt, hepoch]
      exact .best hselected

theorem Outcome.names {loop : Loop S W E K} {n : ℕ} {checkpoint : Checkpoint W E K}
    (h : Outcome loop n checkpoint.selectedEpoch checkpoint.modelStateDict)
    (hhistory : checkpoint.history = (List.range n).map loop.metricsAt) :
    NamesItsCritic loop.trained n checkpoint := by
  obtain ⟨⟨selectedEpoch, selectedMetric, selectedValLoss⟩, modelStateDict, final, history⟩ :=
    checkpoint
  dsimp only at h hhistory
  cases h with
  | empty =>
    constructor
    · exact hhistory
    · intro hpos
      omega
    · intro _
      rfl
    all_goals
      simp
  | final hnone =>
    constructor
    · exact hhistory
    · intro _
      exact ⟨_, rfl⟩
    · intro hzero
      omega
    · intro epoch hepoch
      obtain rfl := Option.some.inj hepoch
      exact ⟨Nat.lt_succ_self _, rfl⟩
    · intro _ epoch _ e he other hother
      have hunvalidated : loop.trained.valLossAt e = none := loop.unvalidated_of_selected hnone he
      rw [hunvalidated] at hother
      cases hother
    · intro _ epoch hepoch
      obtain rfl := Option.some.inj hepoch
      rfl
  | best hselected =>
    obtain ⟨hlt, hloss⟩ := loop.mem_validated.mp (mem_of_minBy _ _ hselected)
    constructor
    · exact hhistory
    · intro _
      exact ⟨_, rfl⟩
    · intro hzero
      omega
    · intro epoch hepoch
      obtain rfl := Option.some.inj hepoch
      exact ⟨hlt, rfl⟩
    · intro hnan epoch hepoch e he other hother
      obtain rfl := Option.some.inj hepoch
      exact ⟨_, hloss, loop.minimum_of_selected hnan hselected he hother⟩
    · intro hunvalidated epoch hepoch
      exact absurd ((hunvalidated _ hlt).symm.trans hloss) (by simp)

/-- The loops of both scripts save the critic that the metadata names. -/
theorem Loop.run_names (loop : Loop S W E K) (emptyMetric : String) {metric : String}
    {epochOf : E → ℕ} (hepoch : ∀ epoch critic, epochOf (loop.runEpoch epoch critic).2 = epoch)
    (hfinal : "final" ≠ metric) (n : ℕ) :
    NamesItsCritic loop.trained n
      (loop.run (selectMetadata emptyMetric metric epochOf loop.valLoss) metric n) := by
  apply (loop.run_outcome emptyMetric hepoch hfinal n).names
  rw [run, loop.foldl_step]

end Names

/-! ## The scripts -/

private theorem TrainCritic.Run.criticAfter_loop [LinearOrder K] (run : TrainCritic.Run S W K)
    (n : ℕ) : run.loop.criticAfter n = run.criticAfter n := by
  induction n with
  | zero => rfl
  | succ n ih => exact congrArg (fun critic => (run.trainEpoch n critic).1) ih

private theorem TrainCritic.Run.trained_loop [LinearOrder K] (run : TrainCritic.Run S W K) :
    run.loop.trained = run.trained := by
  have hafter : run.loop.criticAfter = run.criticAfter := funext run.criticAfter_loop
  rw [Loop.trained, Trained.mk.injEq]
  refine ⟨funext fun epoch => ?_, funext fun epoch => ?_, funext fun epoch => ?_⟩
  · rw [Loop.weightsAt, hafter]
    rfl
  · rw [Loop.metricsAt, hafter]
    rfl
  · rw [Loop.metricsAt, hafter]
    rfl

private theorem MixedCritic.Run.criticAfter_loop [Field K] [LinearOrder K]
    (run : MixedCritic.Run S W K) (n : ℕ) : run.loop.criticAfter n = run.criticAfter n := by
  induction n with
  | zero => rfl
  | succ n ih => exact congrArg (fun critic => (run.trainEpoch n critic).1) ih

private theorem MixedCritic.Run.trained_loop [Field K] [LinearOrder K]
    (run : MixedCritic.Run S W K) : run.loop.trained = run.trained := by
  have hafter : run.loop.criticAfter = run.criticAfter := funext run.criticAfter_loop
  have hpairs (epoch : ℕ) : (run.evalPairs.map fun eval =>
      eval (run.criticAfter (epoch + 1))).map Prod.fst =
        run.evalPairs.map fun eval => (eval (run.criticAfter (epoch + 1))).1 := Option.map_map ..
  rw [Loop.trained, Trained.mk.injEq]
  refine ⟨funext fun epoch => ?_, funext fun epoch => ?_, funext fun epoch => ?_⟩
  · rw [Loop.weightsAt, hafter]
    rfl
  · rw [Loop.metricsAt, hafter]
    rfl
  · rw [Loop.metricsAt, hafter]
    exact congrArg (run.valTotalLoss _ _) (hpairs epoch)

/-- Three epochs with the losses NaN, one and zero; the critic counts the epochs. -/
def nanFirst : TrainCritic.Run ℕ ℕ ℚ where
  initial := 0
  trainEpoch := fun _ critic => (critic + 1, .finite 0)
  validate := some fun critic => if critic = 1 then .nan else .finite (3 - critic)
  stateDict := id

end SmolVlaQgf.CheckpointSelection
