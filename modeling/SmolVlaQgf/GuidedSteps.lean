import SmolVlaQgf.ClippedGradients
import SmolVlaQgf.ExactFloats
import SmolVlaQgf.QGuidance
import Mathlib.Analysis.Calculus.FDeriv.Mul
import Mathlib.Analysis.SpecialFunctions.Exp

/-!
# Guided steps

For critics that act per example and are differentiable, the guidance of an example is a step
along the gradient of its mean value, unless the norm of clipping is negative, which is not
checked. A negative norm reverses the gradient.
-/

namespace SmolVlaQgf.GuidedSteps
open ExactFloats QGuidance ClippedGradients

variable {ι : Type} [Fintype ι] [DecidableEq ι] {n d : ℕ} {torch : TorchOps ι ℝ}

/-! ## Assumptions -/

/-- `grad` returns the partial derivatives where the function is differentiable. -/
structure Documented (torch : TorchOps ι ℝ) : Prop where
  exp : torch.exp = Real.exp
  sqrt : torch.sqrt = Real.sqrt
  grad : ∀ {n d : ℕ} (f : Batch ι ℝ n d → ℝ) (x : Batch ι ℝ n d), DifferentiableAt ℝ f x →
    ∀ b entry, torch.grad f x b entry = fderiv ℝ f x (Pi.single b (Pi.single entry 1))

/-- What a critic reads of an example besides the actions. -/
structure Features where
  obsFeatures : List ℝ
  proprio : Option (List ℝ)
  taskFeatures : Option (List ℝ)

omit [Fintype ι] [DecidableEq ι] in
def featuresOf (obsFeatures : Fin n → List ℝ) (proprio taskFeatures : Option (Fin n → List ℝ))
    (b : Fin n) : Features where
  obsFeatures := obsFeatures b
  proprio := proprio.map fun rows => rows b
  taskFeatures := taskFeatures.map fun rows => rows b

/-- The value of an example under a critic, for every width of its chunk. -/
abbrev ExampleValue (ι : Type) := (width : ℕ) → Features → Chunk ι ℝ width → ℝ

structure ActsAs (critic : Critic ι ℝ) (value : ExampleValue ι) : Prop where
  call : ∀ {n d : ℕ} (inputs : CriticInputs ι ℝ n d) (b : Fin n), critic.call inputs b =
    value d (featuresOf inputs.obsFeatures inputs.proprio inputs.taskFeatures b)
      (inputs.actionChunk b)
  differentiable : ∀ width features, Differentiable ℝ (value width features)

def PerExample (critic : CriticArgument ι ℝ) : Prop :=
  ∀ critics, asCriticList critic = .ok critics → ∀ member ∈ critics, ∃ value, ActsAs member value

/-! ## Steps up the critic -/

structure Example (ι : Type) (d : ℕ) where
  features : Features
  action : Chunk ι ℝ d
  velocity : Chunk ι ℝ d
  time : Chunk ι ℝ d

def exampleOf (inputs : StepInputs ι ℝ n d) (b : Fin n) : Example ι d where
  features := featuresOf inputs.obsFeatures inputs.proprio inputs.taskFeatures b
  action := inputs.actionT b
  velocity := inputs.velocityT b
  time := timeLike inputs.timeT b

noncomputable def cleanAction (inputs : StepInputs ι ℝ n d) : Batch ι ℝ n d :=
  estimateCleanAction inputs.actionT inputs.velocityT inputs.timeT

noncomputable def ownValue (critics : List (Critic ι ℝ)) (inputs : StepInputs ι ℝ n d)
    (width : {width : ℕ // width ≤ d}) (b : Fin n) (chunk : EuclideanSpace ℝ (ι × Fin d)) : ℝ :=
  qValue critics inputs width (Function.update (cleanAction inputs) b chunk.ofLp) b

/-- The guidance of an example is the gradient times `factor / beta`. -/
structure UpStep (config : QGuidanceConfig ℝ) (criticActionDim : Option ℤ)
    (inputs : StepInputs ι ℝ n d) (guided : Batch ι ℝ n d) (b : Fin n) (gradient : Chunk ι ℝ d)
    (factor : ℝ) : Prop where
  factor_nonneg : 0 ≤ factor
  factor_le_one : factor ≤ 1
  step : ∀ entry, inputs.velocityT b entry - guided b entry =
    factor / config.beta * gradient entry
  bounded : ∀ maxNorm ∈ config.gradClipNorm,
    ‖(WithLp.toLp 2 (inputs.velocityT b - guided b) : EuclideanSpace ℝ (ι × Fin d))‖ ≤
      maxNorm / config.beta
  beyond : ∀ dim ∈ criticActionDim, ∀ entry, dim ≤ (entry.2 : ℤ) →
    inputs.velocityT b entry - guided b entry = 0
  clean : ∀ entry, estimateCleanAction inputs.actionT guided inputs.timeT b entry -
      cleanAction inputs b entry =
    timeLike inputs.timeT b entry * (factor / config.beta) * gradient entry
  upward : 0 ≤ ∑ entry, gradient entry *
    (estimateCleanAction inputs.actionT guided inputs.timeT b entry - cleanAction inputs b entry)

/-- Every example makes a step up the mean value of the critics. -/
inductive StepsUp (critic : CriticArgument ι ℝ) (inputs : StepInputs ι ℝ n d)
    (config : QGuidanceConfig ℝ) (criticActionDim : Option ℤ) (guided : Batch ι ℝ n d) : Prop where
  | intro {critics : List (Critic ι ℝ)} {width : {width : ℕ // width ≤ d}}
      (hcritics : asCriticList critic = .ok critics)
      (hwidth : criticWidth d criticActionDim = .ok width)
      (hsteps : ∀ b, ∃ gradient factor,
        HasGradientAt (ownValue critics inputs width b) (WithLp.toLp 2 gradient)
          (WithLp.toLp 2 (cleanAction inputs b)) ∧
        UpStep config criticActionDim inputs guided b gradient factor)

/-- In every other batch an equal example has an equal velocity. -/
def OwnOnly (torch : TorchOps ι ℝ) (critic : CriticArgument ι ℝ) (inputs : StepInputs ι ℝ n d)
    (config : QGuidanceConfig ℝ) (criticActionDim : Option ℤ) (guided : Batch ι ℝ n d) : Prop :=
  ∀ {m : ℕ} (others : StepInputs ι ℝ m d) other,
    qGuidedVelocity torch critic others config criticActionDim = .ok other →
    ∀ b b', exampleOf others b' = exampleOf inputs b → other.velocity b' = guided b

/-! ## The accepted calls -/

structure Checked (config : QGuidanceConfig ℝ) : Prop where
  beta : 0 < config.beta
  uncertaintyScale : 0 ≤ config.uncertaintyScale
  minGate : 0 ≤ config.minGate ∧ config.minGate ≤ 1

private theorem check_eq_ok_iff {config : QGuidanceConfig ℝ} :
    config.check = .ok () ↔ Checked config := by
  rw [QGuidanceConfig.check, guarded_eq_ok_iff, guarded_eq_ok_iff]
  constructor
  · intro ⟨hbeta, hscale, hgate⟩
    split_ifs at hgate with hrange
    push Not at hbeta hscale hrange
    exact ⟨hbeta, hscale, hrange⟩
  · intro h
    refine ⟨h.beta.not_ge, h.uncertaintyScale.not_gt, ?_⟩
    rw [if_neg (not_or.mpr ⟨h.minGate.1.not_gt, h.minGate.2.not_gt⟩)]
    rfl

noncomputable def gradOf (torch : TorchOps ι ℝ) (critics : List (Critic ι ℝ))
    (inputs : StepInputs ι ℝ n d)
    (width : {width : ℕ // width ≤ d}) : Batch ι ℝ n d :=
  torch.grad (fun chunks => ∑ b, qValue critics inputs width chunks b) (cleanAction inputs)

noncomputable def gateOf (torch : TorchOps ι ℝ) (critics : List (Critic ι ℝ))
    (inputs : StepInputs ι ℝ n d)
    (width : {width : ℕ // width ≤ d}) (config : QGuidanceConfig ℝ) (b : Fin n) : ℝ :=
  gate torch config (qValueStd torch critics inputs width (cleanAction inputs) b)

def IsGuidedBy (torch : TorchOps ι ℝ) (critics : List (Critic ι ℝ)) (inputs : StepInputs ι ℝ n d)
    (width : {width : ℕ // width ≤ d}) (config : QGuidanceConfig ℝ) (guided : Batch ι ℝ n d) :
    Prop :=
  ∀ b entry, guided b entry = inputs.velocityT b entry -
    clip torch config (gradOf torch critics inputs width b) entry *
      gateOf torch critics inputs width config b / config.beta

inductive Accepted (torch : TorchOps ι ℝ) (critic : CriticArgument ι ℝ)
    (inputs : StepInputs ι ℝ n d) (config : QGuidanceConfig ℝ) (criticActionDim : Option ℤ)
    (guided : Batch ι ℝ n d) : Prop where
  | intro {critics : List (Critic ι ℝ)} {width : {width : ℕ // width ≤ d}}
      (hchecked : Checked config) (hcritics : asCriticList critic = .ok critics)
      (hwidth : criticWidth d criticActionDim = .ok width)
      (hguided : IsGuidedBy torch critics inputs width config guided)

omit [DecidableEq ι] in
private theorem exists_guided (torch : TorchOps ι ℝ) {critic : CriticArgument ι ℝ}
    {critics : List (Critic ι ℝ)} {config : QGuidanceConfig ℝ} {criticActionDim : Option ℤ}
    {width : {width : ℕ // width ≤ d}}
    (hchecked : Checked config) (hcritics : asCriticList critic = .ok critics)
    (hwidth : criticWidth d criticActionDim = .ok width) (inputs : StepInputs ι ℝ n d) :
    ∃ guided, qGuidedVelocity torch critic inputs config criticActionDim = .ok guided := by
  rw [qGuidedVelocity, check_eq_ok_iff.mpr hchecked, hwidth, hcritics]
  exact ⟨_, rfl⟩

omit [DecidableEq ι] in
private theorem accepted_of_eq_ok {critic : CriticArgument ι ℝ} {inputs : StepInputs ι ℝ n d}
    {config : QGuidanceConfig ℝ} {criticActionDim : Option ℤ} {guided : Guided ι ℝ n d}
    (h : qGuidedVelocity torch critic inputs config criticActionDim = .ok guided) :
    Accepted torch critic inputs config criticActionDim guided.velocity := by
  rw [qGuidedVelocity] at h
  obtain ⟨checked, hcheck, h⟩ := bind_eq_ok_iff.mp h
  obtain ⟨width, hwidth, h⟩ := bind_eq_ok_iff.mp h
  obtain ⟨critics, hcritics, h⟩ := bind_eq_ok_iff.mp h
  obtain rfl := Except.ok.inj h
  exact .intro (check_eq_ok_iff.mp hcheck) hcritics hwidth fun _ _ => rfl

/-! ## Values of single examples -/

omit [Fintype ι] [DecidableEq ι] in
theorem exists_values {critics : List (Critic ι ℝ)}
    (h : ∀ critic ∈ critics, ∃ value, ActsAs critic value) :
    ∃ values : List (ExampleValue ι), List.Forall₂ ActsAs critics values := by
  induction critics with
  | nil => exact ⟨[], .nil⟩
  | cons critic critics ih =>
    obtain ⟨value, hvalue⟩ := h critic List.mem_cons_self
    obtain ⟨values, hvalues⟩ := ih fun other hother => h other (List.mem_cons_of_mem _ hother)
    exact ⟨value :: values, .cons hvalue hvalues⟩

variable {critics : List (Critic ι ℝ)} {values : List (ExampleValue ι)}

def valuesAt (values : List (ExampleValue ι)) (width : {width : ℕ // width ≤ d})
    (features : Features) (chunk : Chunk ι ℝ d) : List ℝ :=
  values.map fun value => value width.1 features (slice width chunk)

omit [Fintype ι] [DecidableEq ι] in
private theorem qValues_at (h : List.Forall₂ ActsAs critics values) (inputs : StepInputs ι ℝ n d)
    (width : {width : ℕ // width ≤ d}) (chunks : Batch ι ℝ n d) (b : Fin n) :
    (qValues critics inputs width chunks).map (fun values => values b) =
      valuesAt values width (exampleOf inputs b).features (chunks b) := by
  rw [qValues, List.map_map, valuesAt, ← List.forall₂_eq_eq_eq, List.forall₂_map_left_iff,
    List.forall₂_map_right_iff]
  exact h.imp fun critic value hacts => hacts.call _ b

noncomputable def meanAt (values : List (ExampleValue ι)) (width : {width : ℕ // width ≤ d})
    (features : Features) (chunk : Chunk ι ℝ d) : ℝ :=
  mean (valuesAt values width features chunk)

def sliceMap (ι : Type) {d : ℕ} (width : {width : ℕ // width ≤ d}) :
    Chunk ι ℝ d →L[ℝ] Chunk ι ℝ width.1 where
  toFun := slice width
  map_add' := fun _ _ => rfl
  map_smul' := fun _ _ => rfl
  cont := continuous_pi fun _ => continuous_apply _

private theorem differentiable_mean {E : Type} [NormedAddCommGroup E] [NormedSpace ℝ E]
    {functions : List (E → ℝ)} (h : ∀ f ∈ functions, Differentiable ℝ f) :
    Differentiable ℝ fun x => mean (functions.map fun f => f x) := by
  have hsum : Differentiable ℝ fun x => (functions.map fun f => f x).sum := by
    induction functions with
    | nil => exact differentiable_const 0
    | cons f functions ih =>
      simp only [List.map_cons, List.sum_cons]
      exact (h f List.mem_cons_self).add
        (ih fun g hg => h g (List.mem_cons_of_mem _ hg))
  simp only [mean, List.length_map, div_eq_mul_inv]
  exact hsum.mul_const _

omit [DecidableEq ι] in
theorem exists_sliced (h : List.Forall₂ ActsAs critics values) (width : {width : ℕ // width ≤ d})
    (features : Features) : ∃ f : Chunk ι ℝ width.1 → ℝ, Differentiable ℝ f ∧
      meanAt values width features = f ∘ sliceMap ι width := by
  refine ⟨fun chunk => mean ((values.map fun value => value width.1 features).map fun f => f chunk),
    differentiable_mean fun f hf => ?_, ?_⟩
  · obtain ⟨value, hvalue, rfl⟩ := List.mem_map.mp hf
    obtain ⟨i, hi, rfl⟩ := List.mem_iff_getElem.mp hvalue
    exact (h.get (h.length_eq ▸ hi) hi).differentiable width.1 features
  · funext chunk
    simp only [meanAt, valuesAt, List.map_map, Function.comp_def]
    rfl

omit [DecidableEq ι] in
private theorem differentiable_meanAt (h : List.Forall₂ ActsAs critics values)
    (width : {width : ℕ // width ≤ d}) (features : Features) :
    Differentiable ℝ (meanAt values width features) := by
  obtain ⟨f, hf, heq⟩ := exists_sliced h width features
  rw [heq]
  exact hf.comp (sliceMap ι width).differentiable

/-! ## The gradient -/

/-- The gradient of an example has the partial derivatives of its own mean value. -/
theorem gradOf_apply (hdocumented : Documented torch) (h : List.Forall₂ ActsAs critics values)
    (inputs : StepInputs ι ℝ n d) (width : {width : ℕ // width ≤ d}) (b : Fin n)
    (entry : ι × Fin d) :
    gradOf torch critics inputs width b entry =
      fderiv ℝ (meanAt values width (exampleOf inputs b).features) (cleanAction inputs b)
        (Pi.single entry 1) := by
  have hsum : (fun chunks : Batch ι ℝ n d => ∑ b, qValue critics inputs width chunks b) =
      fun chunks => ∑ b, meanAt values width (exampleOf inputs b).features (chunks b) := by
    funext chunks
    simp only [qValue, qValues_at h, meanAt]
  have hdifferentiable : ∀ b : Fin n, DifferentiableAt ℝ
      (meanAt values width (exampleOf inputs b).features) (cleanAction inputs b) :=
    fun b => differentiable_meanAt h width _ _
  rw [gradOf, hsum, hdocumented.grad _ _ (hasFDerivAt_sum hdifferentiable).differentiableAt,
    fderiv_sum_single hdifferentiable]

private theorem hasGradientAt_gradOf (hdocumented : Documented torch)
    (h : List.Forall₂ ActsAs critics values) (inputs : StepInputs ι ℝ n d)
    (width : {width : ℕ // width ≤ d}) (b : Fin n) :
    HasGradientAt (ownValue critics inputs width b)
      (WithLp.toLp 2 (gradOf torch critics inputs width b))
      (WithLp.toLp 2 (cleanAction inputs b)) := by
  have hown : ownValue critics inputs width b = fun chunk : EuclideanSpace ℝ (ι × Fin d) =>
      meanAt values width (exampleOf inputs b).features chunk.ofLp := by
    funext chunk
    rw [ownValue, qValue, qValues_at h, Function.update_self, meanAt]
  rw [hown]
  exact hasGradientAt_of_partial (differentiable_meanAt h width _ _)
    (gradOf_apply hdocumented h inputs width b)

theorem gradOf_beyond (hdocumented : Documented torch) (h : List.Forall₂ ActsAs critics values)
    (inputs : StepInputs ι ℝ n d) (width : {width : ℕ // width ≤ d}) (b : Fin n)
    {entry : ι × Fin d} (hentry : width.1 ≤ entry.2) :
    gradOf torch critics inputs width b entry = 0 := by
  obtain ⟨f, hf, heq⟩ := exists_sliced h width (exampleOf inputs b).features
  have hunseen : sliceMap ι width (Pi.single entry 1) = 0 := by
    funext seen
    have hne : (seen.1, Fin.castLE width.2 seen.2) ≠ entry := by
      rintro rfl
      exact absurd seen.2.isLt (not_lt.mpr hentry)
    exact Pi.single_eq_of_ne hne 1
  rw [gradOf_apply hdocumented h, heq, fderiv_comp _ (hf _) (sliceMap ι width).differentiableAt,
    ContinuousLinearMap.fderiv, ContinuousLinearMap.comp_apply, hunseen, map_zero]

/-! ## Clipping and gating -/

private theorem normSlack_pos : (0 : ℝ) < normSlack := by
  rw [normSlack]
  exact inv_pos.mpr (Nat.cast_pos.mpr (by omega))

omit [Fintype ι] [DecidableEq ι] in
private theorem gate_mem (torch : TorchOps ι ℝ) {config : QGuidanceConfig ℝ} (h : Checked config)
    (qValueStd : ℝ) :
    0 ≤ gate torch config qValueStd ∧ gate torch config qValueStd ≤ 1 := by
  rw [gate]
  split_ifs
  · exact ⟨le_min (le_max_of_le_right h.minGate.1) zero_le_one, min_le_right _ _⟩
  · exact ⟨zero_le_one, le_rfl⟩

noncomputable def clipFactor (config : QGuidanceConfig ℝ) (gradient : Chunk ι ℝ d) : ℝ :=
  match config.gradClipNorm with
  | none => 1
  | some maxNorm => min (maxNorm / (√(∑ entry, gradient entry ^ 2) + normSlack)) 1

private theorem clip_eq (hdocumented : Documented torch) (config : QGuidanceConfig ℝ)
    (gradient : Chunk ι ℝ d) (entry : ι × Fin d) :
    clip torch config gradient entry = clipFactor config gradient * gradient entry := by
  rw [clip, clipFactor]
  cases config.gradClipNorm with
  | none => exact (one_mul _).symm
  | some maxNorm =>
    simp only [QGuidance.norm, hdocumented.sqrt]
    exact mul_comm _ _

def ClipsForward (config : QGuidanceConfig ℝ) : Prop := ∀ maxNorm ∈ config.gradClipNorm, 0 ≤ maxNorm

omit [DecidableEq ι] in
private theorem clipFactor_mem {config : QGuidanceConfig ℝ} (h : ClipsForward config)
    (gradient : Chunk ι ℝ d) :
    0 ≤ clipFactor config gradient ∧ clipFactor config gradient ≤ 1 := by
  rw [clipFactor]
  cases hclip : config.gradClipNorm with
  | none => exact ⟨zero_le_one, le_rfl⟩
  | some maxNorm =>
    have hpos := add_pos_of_nonneg_of_pos (Real.sqrt_nonneg (∑ entry, gradient entry ^ 2))
      normSlack_pos
    exact ⟨le_min (div_nonneg (h maxNorm hclip) hpos.le) zero_le_one, min_le_right _ _⟩

omit [DecidableEq ι] in
private theorem norm_clipFactor_le {config : QGuidanceConfig ℝ} (h : ClipsForward config)
    {maxNorm : ℝ} (hclip : config.gradClipNorm = some maxNorm) (gradient : Chunk ι ℝ d) :
    ‖clipFactor config gradient • (WithLp.toLp 2 gradient : EuclideanSpace ℝ (ι × Fin d))‖ ≤
      maxNorm := by
  rw [clipFactor, hclip]
  dsimp only
  rw [← norm_toLp]
  exact norm_clipped_le (h maxNorm hclip) normSlack_pos _

/-! ## Steps and batches -/

section Steps

variable {critic : CriticArgument ι ℝ} {inputs : StepInputs ι ℝ n d}
  {config : QGuidanceConfig ℝ} {criticActionDim : Option ℤ} {guided : Batch ι ℝ n d}

omit [Fintype ι] [DecidableEq ι] in
/-- The critics see as many dimensions as they are limited to. -/
theorem width_of_criticWidth {width : {width : ℕ // width ≤ d}} {dim : ℤ}
    (h : criticWidth d (some dim) = .ok width) : (width.1 : ℤ) = dim := by
  rw [criticWidth] at h
  split_ifs at h with hdim
  obtain rfl := Except.ok.inj h
  dsimp only
  omega

/-- The factor of an example: it is clipped and gated. -/
noncomputable def factorOf (torch : TorchOps ι ℝ) (critics : List (Critic ι ℝ))
    (inputs : StepInputs ι ℝ n d) (width : {width : ℕ // width ≤ d}) (config : QGuidanceConfig ℝ)
    (b : Fin n) : ℝ :=
  clipFactor config (gradOf torch critics inputs width b) *
    gateOf torch critics inputs width config b

/-- The velocity is lowered by the factor times the gradient. -/
theorem velocity_sub (hdocumented : Documented torch) {width : {width : ℕ // width ≤ d}}
    (hguided : IsGuidedBy torch critics inputs width config guided)
    (b : Fin n) (entry : ι × Fin d) :
    inputs.velocityT b entry - guided b entry =
      factorOf torch critics inputs width config b / config.beta *
        gradOf torch critics inputs width b entry := by
  rw [hguided, clip_eq hdocumented, factorOf]
  ring

/-- The estimate of the clean action moves by the time times the guidance. -/
theorem clean_sub (hdocumented : Documented torch) {width : {width : ℕ // width ≤ d}}
    (hguided : IsGuidedBy torch critics inputs width config guided)
    (b : Fin n) (entry : ι × Fin d) :
    estimateCleanAction inputs.actionT guided inputs.timeT b entry -
        cleanAction inputs b entry =
      timeLike inputs.timeT b entry *
        (factorOf torch critics inputs width config b / config.beta) *
        gradOf torch critics inputs width b entry := by
  rw [mul_assoc, ← velocity_sub hdocumented hguided b entry, cleanAction, estimateCleanAction,
    estimateCleanAction]
  ring

/-- The clipped gradient bounds the guidance, since the gate is at most one. -/
theorem norm_velocity_sub_le (hdocumented : Documented torch) (hchecked : Checked config)
    (hforward : ClipsForward config) {width : {width : ℕ // width ≤ d}}
    (hguided : IsGuidedBy torch critics inputs width config guided) (b : Fin n) {maxNorm : ℝ}
    (hclip : config.gradClipNorm = some maxNorm) :
    ‖(WithLp.toLp 2 (inputs.velocityT b - guided b) : EuclideanSpace ℝ (ι × Fin d))‖ ≤
      maxNorm / config.beta := by
  obtain ⟨hgate, hgate'⟩ := gate_mem torch hchecked
    (qValueStd torch critics inputs width (cleanAction inputs) b)
  have hvector : (WithLp.toLp 2 (inputs.velocityT b - guided b) : EuclideanSpace ℝ (ι × Fin d)) =
      config.beta⁻¹ • gateOf torch critics inputs width config b •
        clipFactor config (gradOf torch critics inputs width b) •
          WithLp.toLp 2 (gradOf torch critics inputs width b) := by
    ext entry
    simp only [PiLp.smul_apply, smul_eq_mul, Pi.sub_apply,
      velocity_sub hdocumented hguided b entry, factorOf]
    ring
  rw [hvector, norm_smul, Real.norm_of_nonneg (inv_nonneg.mpr hchecked.beta.le), mul_comm,
    ← div_eq_mul_inv]
  exact div_le_div_of_nonneg_right
    (norm_smul_le hgate hgate' (norm_clipFactor_le hforward hclip _)) hchecked.beta.le

private theorem upStep (hdocumented : Documented torch)
    (hvalues : List.Forall₂ ActsAs critics values)
    (hchecked : Checked config) (hforward : ClipsForward config)
    {width : {width : ℕ // width ≤ d}} (hwidth : criticWidth d criticActionDim = .ok width)
    (hguided : IsGuidedBy torch critics inputs width config guided)
    (htime : ∀ b entry, 0 ≤ timeLike inputs.timeT b entry) (b : Fin n) :
    UpStep config criticActionDim inputs guided b (gradOf torch critics inputs width b)
      (factorOf torch critics inputs width config b) := by
  obtain ⟨hclip, hclip'⟩ := clipFactor_mem hforward (gradOf torch critics inputs width b)
  obtain ⟨hgate, hgate'⟩ := gate_mem torch hchecked
    (qValueStd torch critics inputs width (cleanAction inputs) b)
  have hfactor : 0 ≤ factorOf torch critics inputs width config b := mul_nonneg hclip hgate
  constructor
  · exact hfactor
  · exact mul_le_one₀ hclip' hgate hgate'
  · exact velocity_sub hdocumented hguided b
  · intro maxNorm hmax
    exact norm_velocity_sub_le hdocumented hchecked hforward hguided b hmax
  · intro dim hdim entry hentry
    obtain rfl := Option.mem_def.mp hdim
    have hle : width.1 ≤ entry.2 := by
      have hdim := width_of_criticWidth hwidth
      omega
    rw [velocity_sub hdocumented hguided, gradOf_beyond hdocumented hvalues inputs width b hle,
      mul_zero]
  · exact clean_sub hdocumented hguided b
  · apply Finset.sum_nonneg
    intro entry _
    rw [clean_sub hdocumented hguided, mul_left_comm]
    exact mul_nonneg (mul_nonneg (htime b entry) (div_nonneg hfactor hchecked.beta.le))
      (mul_self_nonneg _)

omit [Fintype ι] [DecidableEq ι] in
/-- The clean action of an example is estimated from the example alone. -/
theorem cleanAction_congr {m : ℕ} {others : StepInputs ι ℝ m d} {b : Fin n} {b' : Fin m}
    (h : exampleOf others b' = exampleOf inputs b) :
    cleanAction others b' = cleanAction inputs b := by
  have haction : others.actionT b' = inputs.actionT b := congrArg Example.action h
  have hvelocity : others.velocityT b' = inputs.velocityT b := congrArg Example.velocity h
  have htime : timeLike others.timeT b' = timeLike inputs.timeT b := congrArg Example.time h
  funext entry
  rw [cleanAction, cleanAction, estimateCleanAction, estimateCleanAction, haction, hvelocity, htime]

/-- Equal examples of two batches have equal factors and gradients. -/
theorem guidance_congr (config : QGuidanceConfig ℝ) (hdocumented : Documented torch)
    (hvalues : List.Forall₂ ActsAs critics values) {m : ℕ} {others : StepInputs ι ℝ m d}
    (width : {width : ℕ // width ≤ d}) {b : Fin n} {b' : Fin m}
    (h : exampleOf others b' = exampleOf inputs b) :
    gradOf torch critics others width b' = gradOf torch critics inputs width b ∧
      factorOf torch critics others width config b' =
        factorOf torch critics inputs width config b := by
  have hgrad : gradOf torch critics others width b' = gradOf torch critics inputs width b := by
    funext entry
    rw [gradOf_apply hdocumented hvalues, gradOf_apply hdocumented hvalues, h, cleanAction_congr h]
  have hstd : qValueStd torch critics others width (cleanAction others) b' =
      qValueStd torch critics inputs width (cleanAction inputs) b := by
    rw [qValueStd, qValueStd, qValues_at hvalues, qValues_at hvalues, h, cleanAction_congr h]
  refine ⟨hgrad, ?_⟩
  rw [factorOf, factorOf, gateOf, gateOf, hgrad, hstd]

private theorem ownOnly (hdocumented : Documented torch)
    (hvalues : List.Forall₂ ActsAs critics values)
    (hcritics : asCriticList critic = .ok critics) {width : {width : ℕ // width ≤ d}}
    (hwidth : criticWidth d criticActionDim = .ok width)
    (hguided : IsGuidedBy torch critics inputs width config guided) :
    OwnOnly torch critic inputs config criticActionDim guided := by
  intro m others other hother b b' hexample
  obtain ⟨-, hcritics', hwidth', hguided'⟩ := accepted_of_eq_ok hother
  obtain rfl := Except.ok.inj (hcritics.symm.trans hcritics')
  obtain rfl := Except.ok.inj (hwidth.symm.trans hwidth')
  obtain ⟨hgrad, hfactor⟩ := guidance_congr config hdocumented hvalues width hexample
  have hvelocity : others.velocityT b' = inputs.velocityT b := congrArg Example.velocity hexample
  funext entry
  have hstep := velocity_sub hdocumented hguided b entry
  have hstep' := velocity_sub hdocumented hguided' b' entry
  rw [hgrad, hfactor, hvelocity, ← hstep] at hstep'
  linarith

/-- A call that clips forward steps up the mean value, in each example alone. -/
theorem stepsUp_of_forward (hdocumented : Documented torch) (hcritic : PerExample critic)
    (htime : ∀ b entry, 0 ≤ timeLike inputs.timeT b entry) (hforward : ClipsForward config ∨ n = 0)
    {result : Guided ι ℝ n d}
    (h : qGuidedVelocity torch critic inputs config criticActionDim = .ok result) :
    StepsUp critic inputs config criticActionDim result.velocity ∧
      OwnOnly torch critic inputs config criticActionDim result.velocity := by
  obtain ⟨hchecked, hcritics, hwidth, hguided⟩ := accepted_of_eq_ok h
  obtain ⟨values, hvalues⟩ := exists_values (hcritic _ hcritics)
  refine ⟨.intro hcritics hwidth fun b => ?_,
    ownOnly hdocumented hvalues hcritics hwidth hguided⟩
  rcases hforward with hforward | rfl
  · exact ⟨_, _, hasGradientAt_gradOf hdocumented hvalues inputs _ b,
      upStep hdocumented hvalues hchecked hforward hwidth hguided htime b⟩
  · exact b.elim0

/-- For critics that act per example the guidance steps up their mean value, in each example
alone, exactly if the norm of clipping is not negative or the batch is empty. -/
theorem stepsUp_iff (hdocumented : Documented torch) (hcritic : PerExample critic)
    (htime : ∀ b entry, 0 ≤ timeLike inputs.timeT b entry) {result : Guided ι ℝ n d}
    (h : qGuidedVelocity torch critic inputs config criticActionDim = .ok result) :
    (StepsUp critic inputs config criticActionDim result.velocity ∧
        OwnOnly torch critic inputs config criticActionDim result.velocity) ↔
      ClipsForward config ∨ n = 0 := by
  obtain ⟨hchecked, -, -, -⟩ := accepted_of_eq_ok h
  refine ⟨fun ⟨hsteps, howns⟩ => ?_, fun hforward =>
    stepsUp_of_forward hdocumented hcritic htime hforward h⟩
  refine or_iff_not_imp_right.mpr fun hn maxNorm hmax => ?_
  obtain ⟨-, -, hsteps⟩ := hsteps
  obtain ⟨gradient, factor, -, hstep⟩ := hsteps ⟨0, Nat.pos_of_ne_zero hn⟩
  have hbound := (norm_nonneg _).trans (hstep.bounded maxNorm hmax)
  rwa [le_div_iff₀ hchecked.beta, zero_mul] at hbound

/-- A denoising step is the step of one guided call, and the processor keeps all but its
diagnostics. -/
theorem denoiseStep_stepsUp (hdocumented : Documented torch) {processor after : Processor ι ℝ n}
    (hcritic : PerExample processor.critic) {xT velocity : Batch ι ℝ n d}
    {time : TimeTensor ι ℝ n d} (htime : ∀ b entry, 0 ≤ timeLike time b entry)
    {originalDenoiseStepPartial : Batch ι ℝ n d → Batch ι ℝ n d}
    (hforward : ClipsForward processor.config)
    (h : denoiseStep torch processor xT time originalDenoiseStepPartial = .ok (velocity, after)) :
    ∃ obsFeatures, processor.obsFeatures = some obsFeatures ∧
      StepsUp processor.critic ⟨obsFeatures, xT, originalDenoiseStepPartial xT, time, none,
        processor.taskFeatures⟩ processor.config (some processor.criticActionDim) velocity ∧
      after = { processor with diagnostics := after.diagnostics } := by
  rw [denoiseStep] at h
  cases hobs : processor.obsFeatures with
  | none =>
    rw [hobs] at h
    cases h
  | some obsFeatures =>
    rw [hobs] at h
    obtain ⟨guided, hguided, h⟩ := bind_eq_ok_iff.mp h
    obtain ⟨rfl, rfl⟩ := Prod.mk.inj (Except.ok.inj h)
    exact ⟨obsFeatures, rfl,
      (stepsUp_of_forward hdocumented hcritic htime (Or.inl hforward) hguided).1, rfl⟩

end Steps

/-! ## One action -/

noncomputable def exactTorch : TorchOps (Fin 1) ℝ where
  exp := Real.exp
  sqrt := Real.sqrt
  grad := fun f x b entry => fderiv ℝ f x (Pi.single b (Pi.single entry 1))

private theorem documented_exactTorch : Documented exactTorch := ⟨rfl, rfl, fun _ _ _ _ _ => rfl⟩

def sumValue : ExampleValue (Fin 1) := fun _ _ chunk => ∑ entry, chunk entry

def sumCritic : Critic (Fin 1) ℝ := ⟨fun inputs b => ∑ entry, inputs.actionChunk b entry⟩

private theorem actsAs_sumCritic : ActsAs sumCritic sumValue where
  call := fun _ _ => rfl
  differentiable := fun _ _ => Differentiable.fun_sum fun entry _ => differentiable_apply entry

/-- One example with one action, at the start of the flow. -/
noncomputable def oneAction : StepInputs (Fin 1) ℝ 1 1 where
  obsFeatures := fun _ => [0]
  actionT := fun _ _ => 0
  velocityT := fun _ _ => 0
  timeT := .scalar 1
  proprio := none
  taskFeatures := none

private theorem perExample_sumCritic : PerExample (.single sumCritic) := by
  intro critics hcritics member hmember
  obtain rfl := Except.ok.inj hcritics
  obtain rfl := List.mem_singleton.mp hmember
  exact ⟨sumValue, actsAs_sumCritic⟩

private theorem timeLike_oneAction (b : Fin 1) (entry : Fin 1 × Fin 1) :
    0 ≤ timeLike oneAction.timeT b entry := by
  exact zero_le_one

noncomputable def clippingTo (maxNorm : ℝ) : QGuidanceConfig ℝ :=
  { QGuidanceConfig.default with gradClipNorm := some maxNorm }

private theorem checked_clippingTo (maxNorm : ℝ) : Checked (clippingTo maxNorm) := by
  constructor
  · norm_num [clippingTo, QGuidanceConfig.default]
  · norm_num [clippingTo, QGuidanceConfig.default]
  · norm_num [clippingTo, QGuidanceConfig.default]

private theorem exists_guided_oneAction (maxNorm : ℝ) :
    ∃ result, qGuidedVelocity exactTorch (.single sumCritic) oneAction (clippingTo maxNorm) none =
      .ok result :=
  exists_guided exactTorch (checked_clippingTo maxNorm) rfl rfl oneAction

/-- The default configuration clips to the norm one. -/
theorem oneAction_stepsUp :
    ∃ result, qGuidedVelocity exactTorch (.single sumCritic) oneAction .default none =
        .ok result ∧
      StepsUp (.single sumCritic) oneAction .default none result.velocity ∧
      OwnOnly exactTorch (.single sumCritic) oneAction .default none result.velocity := by
  obtain ⟨result, hresult⟩ := exists_guided_oneAction 1
  refine ⟨result, hresult, (stepsUp_iff documented_exactTorch perExample_sumCritic
    timeLike_oneAction hresult).mpr (Or.inl fun maxNorm hmax => ?_)⟩
  obtain rfl := Option.some.inj hmax
  exact zero_le_one

private theorem gradOf_sumCritic (b : Fin 1) (entry : Fin 1 × Fin 1) :
    gradOf exactTorch [sumCritic] oneAction ⟨1, le_rfl⟩ b entry = 1 := by
  have hmean : meanAt [sumValue] (⟨1, le_rfl⟩ : {width : ℕ // width ≤ 1})
      (exampleOf oneAction b).features =
        ContinuousLinearMap.proj (R := ℝ) (φ := fun _ => ℝ) entry := by
    funext chunk
    have hentry : entry = (0, 0) := Subsingleton.elim _ _
    simp [meanAt, valuesAt, mean, sumValue, slice, hentry, Fintype.sum_prod_type]
  rw [gradOf_apply documented_exactTorch (.cons actsAs_sumCritic .nil), hmean,
    ContinuousLinearMap.fderiv, ContinuousLinearMap.proj_apply, Pi.single_eq_same]

omit [DecidableEq ι] in
/-- A negative norm of clipping gives a negative factor. -/
theorem clipFactor_neg {config : QGuidanceConfig ℝ} {maxNorm : ℝ}
    (hclip : config.gradClipNorm = some maxNorm) (hneg : maxNorm < 0) (gradient : Chunk ι ℝ d) :
    clipFactor config gradient < 0 := by
  rw [clipFactor, hclip]
  exact min_lt_of_left_lt (div_neg_of_neg_of_pos hneg
    (add_pos_of_nonneg_of_pos (Real.sqrt_nonneg _) normSlack_pos))

/-- A norm of minus one is accepted, and the value of the guided estimate is lower. -/
theorem negative_norm_steps_down :
    ∃ result, qGuidedVelocity exactTorch (.single sumCritic) oneAction (clippingTo (-1)) none =
        .ok result ∧
      (∑ entry, estimateCleanAction oneAction.actionT result.velocity oneAction.timeT 0 entry) <
        ∑ entry, cleanAction oneAction 0 entry ∧
      ¬StepsUp (.single sumCritic) oneAction (clippingTo (-1)) none result.velocity := by
  obtain ⟨result, hresult⟩ := exists_guided_oneAction (-1)
  refine ⟨result, hresult, Finset.sum_lt_sum_of_nonempty Finset.univ_nonempty fun entry _ => ?_, ?_⟩
  · obtain ⟨hchecked, hcritics, hwidth, hguided⟩ := accepted_of_eq_ok hresult
    obtain rfl := Except.ok.inj hcritics
    obtain rfl := Except.ok.inj hwidth
    have hgate : gateOf exactTorch [sumCritic] oneAction ⟨1, le_rfl⟩ (clippingTo (-1)) 0 = 1 :=
      if_neg (lt_irrefl _)
    have hclip : clipFactor (clippingTo (-1))
        (gradOf exactTorch [sumCritic] oneAction ⟨1, le_rfl⟩ 0) < 0 :=
      clipFactor_neg rfl neg_one_lt_zero _
    have hstep := velocity_sub documented_exactTorch hguided 0 entry
    rw [gradOf_sumCritic, factorOf, hgate, mul_one, mul_one] at hstep
    have hdown : oneAction.velocityT 0 entry - result.velocity 0 entry < 0 :=
      hstep ▸ div_neg_of_neg_of_pos hclip hchecked.beta
    rw [cleanAction, estimateCleanAction, estimateCleanAction]
    have htime : timeLike oneAction.timeT 0 entry = 1 := rfl
    rw [htime]
    linarith
  · intro ⟨hcritics, hwidth, hsteps⟩
    obtain ⟨gradient, factor, -, hstep⟩ := hsteps 0
    have hbound := (norm_nonneg _).trans (hstep.bounded (-1) rfl)
    norm_num [clippingTo, QGuidanceConfig.default] at hbound

end SmolVlaQgf.GuidedSteps
