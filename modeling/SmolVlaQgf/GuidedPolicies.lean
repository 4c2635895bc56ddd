import SmolVlaQgf.QgfInstallation

/-!
# What an installed guidance computes

A chunk of a policy depends on the installation in effect and on its own batch. The objects of the
code compute the same chunks after any history of installations and calls, also of other policies:
the original method is wrapped once however often guidance is installed, a processor that has been
replaced keeps its diagnostics, and nothing of an earlier batch is read, even if it failed.
-/

namespace SmolVlaQgf.GuidedPolicies
open ExactFloats Tensors TokenBags CriticDataset QGuidance HookedComputations QgfInstallation

variable {K M I B N R : Type} {h n d : ℕ}

/-! ## Chunks -/

/-- An installation with the diagnostics of all its guided steps. -/
structure Installation (K : Type) (h : ℕ) where
  args : InstallArgs K h
  diagnostics : List (Diagnostics K)

structure BatchFeatures (K : Type) (n : ℕ) where
  obsFeatures : Rows K n
  taskFeatures : Option (Grid K)
  visualTokens : Option (VisualTokens K)

abbrev Installations (K : Type) (h : ℕ) := ℕ → List (Installation K h)

def Installations.set (installations : Installations K h) (p : ℕ)
    (own : List (Installation K h)) : Installations K h :=
  fun q => if q = p then own else installations q

section Chunks

variable (smolvla : SmolVLA K M I B N R h n d) (critics : ℕ → VisualTransformerCritic K h)

def ownVelocity (policy : SmolVLAPolicy K M h) (query : DenoiseQuery K h n d) :
    Except QgfError (Batch (Fin h) K n d) :=
  if policy.modelConfigRtcEnabled then smolvla.rtc policy.model query
  else .ok (query.originalDenoiseStepPartial query.xT)

def unguidedChunk (policy : SmolVLAPolicy K M h) (batch : PolicyBatch K B n) (noise : Option N) :
    Except QgfError R :=
  ((smolvla.getActionChunk policy.model batch noise).run
    (answering (ownVelocity smolvla policy)) ()).1

def batchTokens (model : M) (args : InstallArgs K h) (batch : PolicyBatch K B n) :
    Except QgfError (Option (VisualTokens K)) :=
  match args.critic with
  | .plain _ => .ok none
  | .adapter _ => (encodeVisualTokens smolvla critics model (some args.critic) batch).map some

variable [Field K] [LinearOrder K]

def batchFeatures (model : M) (args : InstallArgs K h) (batch : PolicyBatch K B n) :
    Except QgfError (BatchFeatures K n) := do
  let obsFeatures ← latestState batch
  let taskFeatures ← taskFeatures smolvla args (some model) batch
  let visualTokens ← batchTokens smolvla critics model args batch
  return ⟨obsFeatures, taskFeatures, visualTokens⟩

def guidedVelocity (args : InstallArgs K h) (features : BatchFeatures K n)
    (query : DenoiseQuery K h n d) :
    Except QgfError (Batch (Fin h) K n d × Diagnostics K) :=
  (guidedStep smolvla critics args features.visualTokens features.obsFeatures
    features.taskFeatures query).map fun guided => (guided.velocity, guided.diagnostics)

def guidedChunk (model : M) (args : InstallArgs K h) (batch : PolicyBatch K B n)
    (noise : Option N) : Except QgfError R × List (Diagnostics K) :=
  match batchFeatures smolvla critics model args batch with
  | .error error => (.error error, [])
  | .ok features => (smolvla.getActionChunk model batch noise).run
      (logged (guidedVelocity smolvla critics args features)) []

def guidance (policies : ℕ → SmolVLAPolicy K M h) :
    Machine (Event K B N h n) (Outcome R) (Installations K h) := fun event installations =>
  match event with
  | .install p args =>
      (.installed, installations.set p (installations p ++ [⟨args, []⟩]))
  | .chunk p batch noise =>
      match (installations p).getLast? with
      | none => (.chunk (unguidedChunk smolvla (policies p) batch noise), installations)
      | some current =>
          let (result, diagnostics) :=
            guidedChunk smolvla critics (policies p).model current.args batch noise
          (.chunk result, installations.set p ((installations p).dropLast ++
            [⟨current.args, current.diagnostics ++ diagnostics⟩]))

end Chunks

/-! ## Objects -/

structure Fresh (policy : SmolVLAPolicy K M h) : Prop where
  getActionChunk : policy.getActionChunk = .original
  originalGetActionChunk : policy.gafOriginalGetActionChunk = none
  originalRtcEnabled : policy.gafOriginalRtcEnabled = none
  modelRtcProcessor : policy.modelRtcProcessor = .original

def guidedPolicy (fresh : SmolVLAPolicy K M h) (id : ℕ) (critic : CriticObject K h) :
    SmolVLAPolicy K M h where
  model := fresh.model
  getActionChunk := .withQgf id .original
  rtcEnabledMethod := .false
  gafOriginalGetActionChunk := some .original
  gafOriginalRtcEnabled := some fresh.rtcEnabledMethod
  rtcProcessor := .qgf id
  configRtcEnabled := true
  modelConfigRtcEnabled := true
  modelRtcProcessor := .qgf id
  gafQgfProcessor := some id
  gafVisualCritic := some critic

def installationOf (processor : SmolVLAQGFProcessor K M h n) : Installation K h :=
  ⟨processor.args, processor.diagnostics⟩

inductive Describes (p : ℕ) (fresh policy : SmolVLAPolicy K M h)
    (processors : List (SmolVLAQGFProcessor K M h n)) : List (Installation K h) → Prop where
  | fresh (hpolicy : policy = fresh) (hprocessors : processors = []) :
      Describes p fresh policy processors []
  | guided {past : List (SmolVLAQGFProcessor K M h n)} {current : SmolVLAQGFProcessor K M h n}
      (hprocessors : processors = past ++ [current])
      (hpolicy : policy = guidedPolicy fresh past.length current.args.critic)
      (hmodel : current.policyModel = some fresh.model)
      (hvisual : current.visualPolicy = some p) :
      Describes p fresh policy processors (past.map installationOf ++ [installationOf current])

def Represents (fresh : ℕ → SmolVLAPolicy K M h) (w : World K M h n)
    (installations : Installations K h) : Prop :=
  ∀ p, Describes p (fresh p) (w.policy p) (w.processors p) (installations p)

variable {fresh : ℕ → SmolVLAPolicy K M h} {w : World K M h n} {p q : ℕ}
  {installations : Installations K h}

private theorem represents_set {w' : World K M h n} {own : List (Installation K h)}
    (hrep : Represents fresh w installations)
    (hown : Describes p (fresh p) (w'.policy p) (w'.processors p) own)
    (hothers : ∀ q, q ≠ p → w'.policy q = w.policy q ∧ w'.processors q = w.processors q) :
    Represents fresh w' (installations.set p own) := by
  intro q
  rw [Installations.set]
  by_cases hq : q = p
  · subst hq
    rwa [if_pos rfl]
  · rw [if_neg hq, (hothers q hq).1, (hothers q hq).2]
    exact hrep q

@[simp] theorem installations_set_self (installations : Installations K h) (p : ℕ) :
    installations.set p (installations p) = installations := by
  funext q
  rw [Installations.set]
  split_ifs with hq
  · rw [hq]
  · rfl

/-! ## Installing -/

theorem represents_install (hfresh : ∀ p, Fresh (fresh p)) (hrep : Represents fresh w installations)
    (p : ℕ) (args : InstallArgs K h) :
    Represents fresh (installSmolvlaQgf p args w)
      (installations.set p (installations p ++ [⟨args, []⟩])) := by
  refine represents_set hrep ?_ fun q hq => ?_
  · have hdescribes := hrep p
    have hprocessors : (installSmolvlaQgf p args w).processors p =
        w.processors p ++ [newProcessor p (w.policy p).model args] := by
      simp [installSmolvlaQgf, World.setPolicy, World.setProcessors]
    have hpolicy : (w.policy p).model = (fresh p).model →
        (w.policy p).gafOriginalGetActionChunk.getD (w.policy p).getActionChunk = .original →
        (w.policy p).gafOriginalRtcEnabled.getD (w.policy p).rtcEnabledMethod =
          (fresh p).rtcEnabledMethod →
        (installSmolvlaQgf p args w).policy p =
          guidedPolicy (fresh p) (w.processors p).length args.critic := by
      intro hmodel hmethod hrtc
      simp [installSmolvlaQgf, World.setPolicy, World.setProcessors, guidedPolicy, hmodel, hmethod,
        hrtc]
    generalize installations p = own at hdescribes ⊢
    cases hdescribes with
    | fresh hown hnone =>
      rw [hown, hnone] at hpolicy hprocessors
      refine .guided hprocessors (hpolicy rfl ?_ ?_) rfl rfl
      · rw [(hfresh p).originalGetActionChunk, (hfresh p).getActionChunk]
        rfl
      · rw [(hfresh p).originalRtcEnabled]
        rfl
    | @guided past current hown hguided hmodel hvisual =>
      rw [hguided, hown] at hprocessors hpolicy
      have hinstallations : past.map installationOf ++ [installationOf current] =
          (past ++ [current]).map installationOf := by simp
      rw [hinstallations]
      exact .guided hprocessors (hpolicy rfl rfl rfl) rfl rfl
  · simp [installSmolvlaQgf, World.setPolicy, World.setProcessors, hq]

/-! ## Features of a batch -/

private theorem modify_last (past : List (SmolVLAQGFProcessor K M h n))
    (current : SmolVLAQGFProcessor K M h n)
    (update : SmolVLAQGFProcessor K M h n → SmolVLAQGFProcessor K M h n) :
    (past ++ [current]).modify past.length update = past ++ [update current] := by
  induction past with
  | nil => rfl
  | cons first past ih =>
    rw [List.cons_append, List.length_cons, List.modify_succ_cons, ih]
    rfl

@[simp] theorem processors_setProcessors (w : World K M h n) (p : ℕ)
    (processors : List (SmolVLAQGFProcessor K M h n)) :
    (w.setProcessors p processors).processors p = processors := if_pos rfl

@[simp] theorem policy_setProcessors (w : World K M h n) (p : ℕ)
    (processors : List (SmolVLAQGFProcessor K M h n)) :
    (w.setProcessors p processors).policy = w.policy := rfl

@[simp] theorem setProcessors_setProcessors (w : World K M h n) (p : ℕ)
    (processors others : List (SmolVLAQGFProcessor K M h n)) :
    (w.setProcessors p processors).setProcessors p others = w.setProcessors p others := by
  rw [World.setProcessors, World.setProcessors, World.setProcessors, World.mk.injEq]
  refine ⟨rfl, funext fun q => ?_, rfl⟩
  dsimp only
  split_ifs <;> rfl

@[simp] theorem setProcessors_self (w : World K M h n) (p : ℕ) :
    w.setProcessors p (w.processors p) = w := by
  obtain ⟨policy, processors, visualTokens⟩ := w
  rw [World.setProcessors, World.mk.injEq]
  refine ⟨rfl, funext fun q => ?_, rfl⟩
  split_ifs with hq
  · rw [hq]
  · rfl

variable {past : List (SmolVLAQGFProcessor K M h n)} {current : SmolVLAQGFProcessor K M h n}

theorem updateProcessor_last (hprocessors : w.processors p = past ++ [current])
    (update : SmolVLAQGFProcessor K M h n → SmolVLAQGFProcessor K M h n) :
    w.updateProcessor p past.length update = w.setProcessors p (past ++ [update current]) := by
  rw [World.updateProcessor, hprocessors, modify_last]

structure SameInstallation (current current' : SmolVLAQGFProcessor K M h n) : Prop where
  args : current'.args = current.args
  diagnostics : current'.diagnostics = current.diagnostics
  policyModel : current'.policyModel = current.policyModel
  visualPolicy : current'.visualPolicy = current.visualPolicy

def prepared (current : SmolVLAQGFProcessor K M h n) (features : BatchFeatures K n) :
    SmolVLAQGFProcessor K M h n :=
  { current with
    obsFeatures := some features.obsFeatures
    taskFeatures := features.taskFeatures }

def withTokens (w : World K M h n) (args : InstallArgs K h) (features : BatchFeatures K n) :
    World K M h n :=
  match args.critic, features.visualTokens with
  | .adapter object, some tokens => w.setVisualTokens object tokens
  | _, _ => w

section Batches

variable {smolvla : SmolVLA K M I B N R h n d} {critics : ℕ → VisualTransformerCritic K h}
  [Field K] [LinearOrder K] {batch : PolicyBatch K B n} {noise : Option N}

structure IsCurrent (fresh : SmolVLAPolicy K M h) (w : World K M h n) (p : ℕ)
    (past : List (SmolVLAQGFProcessor K M h n)) (current : SmolVLAQGFProcessor K M h n) :
    Prop where
  processors : w.processors p = past ++ [current]
  policy : w.policy p = guidedPolicy fresh past.length current.args.critic
  policyModel : current.policyModel = some fresh.model
  visualPolicy : current.visualPolicy = some p

omit [Field K] [LinearOrder K] in
theorem IsCurrent.getElem? {fresh : SmolVLAPolicy K M h}
    (hcurrent : IsCurrent fresh w p past current) :
    (w.processors p)[past.length]? = some current := by
  rw [hcurrent.processors, List.getElem?_append_right (Nat.le_refl _), Nat.sub_self]
  rfl

theorem setBatchFeatures_of_state {fresh : SmolVLAPolicy K M h}
    (hcurrent : IsCurrent fresh w p past current) {obsFeatures : Rows K n}
    (hobs : latestState batch = .ok obsFeatures) :
    setBatchFeatures smolvla critics p past.length batch w =
      match taskFeatures smolvla current.args (some fresh.model) batch with
      | .error error => (.error error, w.setProcessors p
          (past ++ [{ current with obsFeatures := some obsFeatures }]))
      | .ok taskFeatures =>
          let current' := { current with
            obsFeatures := some obsFeatures, taskFeatures := taskFeatures }
          match batchTokens smolvla critics fresh.model current.args batch with
          | .error error => (.error error, w.setProcessors p (past ++ [current']))
          | .ok tokens => (.ok (), withTokens (w.setProcessors p (past ++ [current'])) current.args
              ⟨obsFeatures, taskFeatures, tokens⟩) := by
  rw [setBatchFeatures, hcurrent.getElem?]
  dsimp only
  rw [hobs]
  dsimp only
  rw [updateProcessor_last hcurrent.processors, hcurrent.policyModel]
  cases taskFeatures smolvla current.args (some fresh.model) batch with
  | error error => rfl
  | ok task =>
    dsimp only
    rw [updateProcessor_last (processors_setProcessors _ _ _), setProcessors_setProcessors,
      hcurrent.visualPolicy, batchTokens]
    cases hcritic : current.args.critic with
    | plain critic =>
      dsimp only
      rw [withTokens, hcritic]
    | adapter object =>
      dsimp only
      rw [policy_setProcessors, hcurrent.policy, guidedPolicy, hcritic]
      dsimp only
      cases encodeVisualTokens smolvla critics fresh.model (some (.adapter object)) batch with
      | error error => rfl
      | ok tokens =>
        dsimp only [Except.map]
        rw [withTokens, hcritic]

/-- A batch without features: the error is raised, and the features may have been set in part. -/
theorem setBatchFeatures_error {fresh : SmolVLAPolicy K M h}
    (hcurrent : IsCurrent fresh w p past current) {error : QgfError}
    (hfeatures : batchFeatures smolvla critics fresh.model current.args batch = .error error) :
    ∃ current', SameInstallation current current' ∧
      setBatchFeatures smolvla critics p past.length batch w =
        (.error error, w.setProcessors p (past ++ [current'])) := by
  rw [batchFeatures] at hfeatures
  cases hobs : latestState batch with
  | error obsError =>
    rw [hobs] at hfeatures
    cases hfeatures
    refine ⟨current, ⟨rfl, rfl, rfl, rfl⟩, ?_⟩
    rw [setBatchFeatures, hcurrent.getElem?]
    dsimp only
    rw [hobs, ← hcurrent.processors, setProcessors_self]
  | ok obsFeatures =>
    rw [setBatchFeatures_of_state hcurrent hobs]
    rw [hobs] at hfeatures
    cases htask : taskFeatures smolvla current.args (some fresh.model) batch with
    | error taskError =>
      rw [htask] at hfeatures
      cases hfeatures
      exact ⟨{ current with obsFeatures := some obsFeatures }, ⟨rfl, rfl, rfl, rfl⟩, rfl⟩
    | ok task =>
      rw [htask] at hfeatures
      cases htokens : batchTokens smolvla critics fresh.model current.args batch with
      | error tokensError =>
        rw [htokens] at hfeatures
        cases hfeatures
        exact ⟨{ current with obsFeatures := some obsFeatures, taskFeatures := task },
          ⟨rfl, rfl, rfl, rfl⟩, rfl⟩
      | ok tokens =>
        rw [htokens] at hfeatures
        cases hfeatures

private theorem setBatchFeatures_ok {fresh : SmolVLAPolicy K M h}
    (hcurrent : IsCurrent fresh w p past current) {features : BatchFeatures K n}
    (hfeatures : batchFeatures smolvla critics fresh.model current.args batch = .ok features) :
    setBatchFeatures smolvla critics p past.length batch w =
      (.ok (), withTokens (w.setProcessors p (past ++ [prepared current features])) current.args
        features) := by
  rw [batchFeatures] at hfeatures
  obtain ⟨obsFeatures, hobs, hfeatures⟩ := bind_eq_ok_iff.mp hfeatures
  obtain ⟨task, htask, hfeatures⟩ := bind_eq_ok_iff.mp hfeatures
  obtain ⟨tokens, htokens, hfeatures⟩ := bind_eq_ok_iff.mp hfeatures
  obtain rfl := Except.ok.inj hfeatures
  rw [setBatchFeatures_of_state hcurrent hobs, htask]
  dsimp only
  rw [htokens]
  rfl

/-! ## Guided steps -/

omit [Field K] [LinearOrder K] in
private theorem withTokens_processors (w : World K M h n) (args : InstallArgs K h)
    (features : BatchFeatures K n) : (withTokens w args features).processors = w.processors := by
  rw [withTokens]
  split <;> rfl

omit [Field K] [LinearOrder K] in
private theorem withTokens_policy (w : World K M h n) (args : InstallArgs K h)
    (features : BatchFeatures K n) : (withTokens w args features).policy = w.policy := by
  rw [withTokens]
  split <;> rfl

/-- The tokens that a step reads are those of its batch. -/
theorem keptTokens_withTokens {model : M} {args : InstallArgs K h} {features : BatchFeatures K n}
    (hfeatures : batchFeatures smolvla critics model args batch = .ok features) :
    keptTokens (withTokens w args features) args = features.visualTokens := by
  rw [batchFeatures] at hfeatures
  obtain ⟨obsFeatures, -, hfeatures⟩ := bind_eq_ok_iff.mp hfeatures
  obtain ⟨task, -, hfeatures⟩ := bind_eq_ok_iff.mp hfeatures
  obtain ⟨tokens, htokens, hfeatures⟩ := bind_eq_ok_iff.mp hfeatures
  obtain rfl := Except.ok.inj hfeatures
  rw [batchTokens] at htokens
  cases hcritic : args.critic with
  | plain critic =>
    rw [hcritic] at htokens
    obtain rfl := Except.ok.inj htokens
    rw [keptTokens, hcritic]
  | adapter object =>
    rw [hcritic] at htokens
    dsimp only at htokens
    cases hencode : encodeVisualTokens smolvla critics model (some (.adapter object)) batch with
    | error error =>
      rw [hencode] at htokens
      cases htokens
    | ok encoded =>
      rw [hencode] at htokens
      cases htokens
      rw [keptTokens, withTokens, hcritic]
      exact if_pos rfl

def afterSteps (w : World K M h n) (p : ℕ) (past : List (SmolVLAQGFProcessor K M h n))
    (current : SmolVLAQGFProcessor K M h n) (log : List (Diagnostics K)) : World K M h n :=
  w.setProcessors p (past ++ [{ current with diagnostics := current.diagnostics ++ log }])

variable (smolvla critics)

/-- A step of the model is guided by the current installation with the features of the batch. -/
theorem modelHook_agree (current : SmolVLAQGFProcessor K M h n) {fresh : SmolVLAPolicy K M h}
    {features : BatchFeatures K n}
    (hpolicy : w.policy p = guidedPolicy fresh past.length current.args.critic)
    (hobs : current.obsFeatures = some features.obsFeatures)
    (htask : current.taskFeatures = features.taskFeatures)
    (htokens : keptTokens w current.args = features.visualTokens) (query : DenoiseQuery K h n d)
    (v : World K M h n) (log : List (Diagnostics K)) (hv : v = afterSteps w p past current log) :
    Agree (fun v log => v = afterSteps w p past current log)
      (modelHook smolvla critics p query v)
      (logged (guidedVelocity smolvla critics current.args features) query log) := by
  subst hv
  have hprocessors : (afterSteps w p past current log).processors p =
      past ++ [{ current with diagnostics := current.diagnostics ++ log }] :=
    processors_setProcessors _ _ _
  have hprocessor : ((afterSteps w p past current log).processors p)[past.length]? =
      some { current with diagnostics := current.diagnostics ++ log } := by
    rw [hprocessors, List.getElem?_append_right (Nat.le_refl _), Nat.sub_self]
    rfl
  have hhook : modelHook smolvla critics p query (afterSteps w p past current log) =
      QgfInstallation.denoiseStep smolvla critics p past.length query
        (afterSteps w p past current log) := by
    rw [modelHook, afterSteps, policy_setProcessors, hpolicy]
    rfl
  have hkept : keptTokens (afterSteps w p past current log) current.args = features.visualTokens :=
    htokens
  rw [hhook, QgfInstallation.denoiseStep, hprocessor]
  dsimp only
  rw [hobs, htask, hkept, logged, guidedVelocity]
  dsimp only
  cases guidedStep smolvla critics current.args features.visualTokens features.obsFeatures
      features.taskFeatures query with
  | error error => exact ⟨rfl, rfl⟩
  | ok guided =>
    refine ⟨rfl, ?_⟩
    dsimp only [Except.map]
    rw [updateProcessor_last hprocessors, afterSteps, setProcessors_setProcessors, afterSteps,
      List.append_assoc]

/-- What a chunk leaves of the world: the current processor has a longer list of diagnostics. -/
structure Continues (w w' : World K M h n) (p : ℕ) (past : List (SmolVLAQGFProcessor K M h n))
    (current : SmolVLAQGFProcessor K M h n) (diagnostics : List (Diagnostics K)) : Prop where
  policy : w'.policy = w.policy
  processors : ∃ current' : SmolVLAQGFProcessor K M h n, current'.args = current.args ∧
    current'.policyModel = current.policyModel ∧ current'.visualPolicy = current.visualPolicy ∧
    current'.diagnostics = current.diagnostics ++ diagnostics ∧
    w'.processors = (w.setProcessors p (past ++ [current'])).processors

variable (batch noise)

theorem getActionChunk_guided {fresh : SmolVLAPolicy K M h}
    (hcurrent : IsCurrent fresh w p past current) :
    (getActionChunk smolvla critics p batch noise w).1 =
        (guidedChunk smolvla critics fresh.model current.args batch noise).1 ∧
      Continues w (getActionChunk smolvla critics p batch noise w).2 p past current
        (guidedChunk smolvla critics fresh.model current.args batch noise).2 := by
  rw [getActionChunk, hcurrent.policy, guidedPolicy, callChunkMethod, guidedChunk]
  cases hfeatures : batchFeatures smolvla critics fresh.model current.args batch with
  | error error =>
    obtain ⟨current', hsame, hset⟩ := setBatchFeatures_error hcurrent hfeatures
    rw [hset]
    refine ⟨rfl, rfl, current', hsame.args, hsame.policyModel, hsame.visualPolicy, ?_, rfl⟩
    rw [hsame.diagnostics, List.append_nil]
  | ok features =>
    rw [setBatchFeatures_ok hcurrent hfeatures]
    dsimp only
    have htokens := keptTokens_withTokens
      (w := w.setProcessors p (past ++ [prepared current features])) hfeatures
    have hpolicy := withTokens_policy (w.setProcessors p (past ++ [prepared current features]))
      current.args features
    have hprocessors := withTokens_processors
      (w.setProcessors p (past ++ [prepared current features])) current.args features
    generalize withTokens (w.setProcessors p (past ++ [prepared current features])) current.args
      features = v at htokens hpolicy hprocessors ⊢
    rw [policy_setProcessors] at hpolicy
    have hguided : v.policy p = guidedPolicy fresh past.length current.args.critic := by
      rw [hpolicy]
      exact hcurrent.policy
    have hown : v.processors p = past ++ [prepared current features] := by
      rw [hprocessors, processors_setProcessors]
    have hstart : v = afterSteps v p past (prepared current features) [] := by
      have hself := setProcessors_self v p
      rw [hown] at hself
      rw [afterSteps, List.append_nil]
      exact hself.symm
    have hhook := modelHook_agree smolvla critics (prepared current features) hguided rfl rfl
      htokens
    obtain ⟨hresult, hend⟩ :=
      Hooked.run_agree hhook (smolvla.getActionChunk fresh.model batch noise) hstart
    rw [callChunkMethod, hguided]
    refine ⟨hresult, ?_⟩
    rw [guidedPolicy, hend]
    refine ⟨hpolicy, { prepared current features with diagnostics := current.diagnostics ++ _ },
      rfl, rfl, rfl, rfl, ?_⟩
    funext q
    by_cases hq : q = p
    · subst hq
      simp [afterSteps, prepared]
    · simp [afterSteps, World.setProcessors, hprocessors, hq]

/-- A chunk of a policy without guidance leaves all objects as they are. -/
theorem getActionChunk_fresh {fresh : SmolVLAPolicy K M h} (hfresh : Fresh fresh)
    (hpolicy : w.policy p = fresh) :
    getActionChunk smolvla critics p batch noise w =
      (unguidedChunk smolvla fresh batch noise, w) := by
  have hhook : ∀ query v (none : Unit), v = w → Agree (fun v (_ : Unit) => v = w)
      (modelHook smolvla critics p query v) (answering (ownVelocity smolvla fresh) query none) := by
    intro query v _ hv
    subst hv
    rw [modelHook, hpolicy, answering, ownVelocity, hfresh.modelRtcProcessor]
    split_ifs <;> exact ⟨rfl, rfl⟩
  obtain ⟨hresult, hend⟩ := Hooked.run_agree hhook (smolvla.getActionChunk fresh.model batch noise)
    (rfl : w = w) (t := ())
  rw [getActionChunk, hpolicy, hfresh.getActionChunk, callChunkMethod, hpolicy, unguidedChunk]
  exact Prod.ext hresult hend

/-! ## Histories -/

theorem represents_chunk (hfresh : ∀ p, Fresh (fresh p)) (hrep : Represents fresh w installations)
    (p : ℕ) :
    Agree (Represents fresh) (objects smolvla critics (.chunk p batch noise) w)
      (guidance smolvla critics fresh (.chunk p batch noise) installations) := by
  have hdescribes := hrep p
  rw [objects, guidance]
  generalize hown : installations p = own at hdescribes ⊢
  cases hdescribes with
  | fresh hpolicy hprocessors =>
    dsimp only [List.getLast?_nil]
    rw [getActionChunk_fresh smolvla critics batch noise (hfresh p) hpolicy]
    exact ⟨rfl, hrep⟩
  | @guided past current hprocessors hpolicy hmodel hvisual =>
    obtain ⟨hresult, hcontinues⟩ := getActionChunk_guided smolvla critics batch noise
      ⟨hprocessors, hpolicy, hmodel, hvisual⟩
    obtain ⟨hsame, current', hargs, hmodel', hvisual', hdiagnostics, hprocessors'⟩ := hcontinues
    rw [List.getLast?_concat, List.dropLast_concat]
    refine ⟨congrArg Outcome.chunk hresult, represents_set hrep ?_ fun q hq => ?_⟩
    · have hinstallation : installationOf current' = ⟨current.args, current.diagnostics ++
          (guidedChunk smolvla critics (fresh p).model current.args batch noise).2⟩ := by
        rw [installationOf, hargs, hdiagnostics]
      have hdescribed : Describes p (fresh p) _ (past ++ [current']) _ :=
        .guided rfl rfl (hmodel'.trans hmodel) (hvisual'.trans hvisual)
      rw [hinstallation, hargs, ← hpolicy] at hdescribed
      dsimp only
      rw [hsame, hprocessors', processors_setProcessors]
      exact hdescribed
    · dsimp only
      rw [hsame, hprocessors']
      exact ⟨rfl, if_neg hq⟩

private theorem step_agree (hfresh : ∀ p, Fresh (fresh p)) (event : Event K B N h n)
    (hrep : Represents fresh w installations) :
    Agree (Represents fresh) (objects smolvla critics event w)
      (guidance smolvla critics fresh event installations) := by
  cases event with
  | install p args => exact ⟨rfl, represents_install hfresh hrep p args⟩
  | chunk p batch noise => exact represents_chunk smolvla critics batch noise hfresh hrep p

/-- What the objects of a policy are, as far as its installations tell. -/
structure StandsFor (w : World K M h n) (p : ℕ) (installations : List (Installation K h)) :
    Prop where
  diagnostics : (w.processors p).map installationOf = installations
  wrappedOnce : installations ≠ [] →
    (w.policy p).getActionChunk = .withQgf (installations.length - 1) .original
  rtcEnabled : installations ≠ [] → (w.policy p).rtcEnabled = false

omit [Field K] [LinearOrder K] in
private theorem standsFor_of_describes {fresh : SmolVLAPolicy K M h} {own : List (Installation K h)}
    (hdescribes : Describes p fresh (w.policy p) (w.processors p) own) : StandsFor w p own := by
  cases hdescribes with
  | fresh hpolicy hprocessors =>
    exact ⟨by rw [hprocessors, List.map_nil], fun hne => absurd rfl hne, fun hne => absurd rfl hne⟩
  | @guided past current hprocessors hpolicy hmodel hvisual =>
    constructor
    · rw [hprocessors, List.map_append, List.map_singleton]
    · intro _
      simp [hpolicy, guidedPolicy]
    · intro _
      rw [hpolicy]
      rfl

/-- After any history of installations and chunks, every chunk has been computed with the
installation in effect and its own batch, and every processor has the diagnostics of the steps that
it has guided. -/
theorem chunks_of_installations (hfresh : ∀ p, Fresh (w.policy p))
    (hprocessors : ∀ p, w.processors p = []) (events : List (Event K B N h n)) :
    ((objects smolvla critics).run events w).1 =
        ((guidance smolvla critics w.policy).run events fun _ => []).1 ∧
      ∀ p, StandsFor ((objects smolvla critics).run events w).2 p
        (((guidance smolvla critics w.policy).run events fun _ => []).2 p) := by
  have hrep : Represents w.policy w fun _ => [] := fun p => .fresh rfl (hprocessors p)
  obtain ⟨houtcomes, hend⟩ := Machine.run_agree
    (fun event _ _ => step_agree smolvla critics hfresh event) events hrep
  exact ⟨houtcomes, fun p => standsFor_of_describes (hend p)⟩

end Batches

/-! ## Two installations -/

def oneStep : SmolVLA ℚ Unit Unit Unit Unit (Batch (Fin 1) ℚ 1 1) 1 1 1 where
  torch := ⟨id, Rat.sqrt, fun _ _ _ _ => 1⟩
  notFinite := fun _ _ inputs _ => ⟨inputs.velocityT, ⟨0, 0, 0, 0, 0, 0, 0⟩⟩
  textHiddenFeatures := fun _ _ _ => .error .runtimeError
  prepareImages := fun _ _ => .ok []
  embedImage := fun _ _ => ⟨0, 0, [], by simp⟩
  getActionChunk := fun _ _ _ => .ask ⟨fun _ _ => 0, .scalar 1, fun _ _ _ => 0⟩ .done
  rtc := fun _ _ => .error .raised

/-- The value is the first entry of the chunk, so its gradient is one. -/
def linearCritic : Critic (Fin 1) ℚ where
  call := fun {_ d} inputs b =>
    if hd : 0 < d then inputs.actionChunk b (⟨0, Nat.one_pos⟩, ⟨0, hd⟩) else 0

def linearArgs (beta : ℚ) : InstallArgs ℚ 1 where
  critic := .plain (.single linearCritic)
  config := ⟨.finite beta, none, .finite 0, .finite 0⟩
  criticActionDim := 1
  taskFeatureDim := 0
  taskFeatureSource := .tokens

def loadedWorld : World ℚ Unit 1 1 where
  policy := fun _ => ⟨(), .original, .original, none, none, .original, false, false, .original,
    none, none⟩
  processors := fun _ => []
  visualTokens := fun _ => none

def oneBatch : PolicyBatch ℚ Unit 1 :=
  ⟨some (.matrix ⟨1, fun _ => [0], fun _ => rfl⟩), none, none, ()⟩

/-- Two chunks with different guidance, and one of another policy without. -/
def twoInstallations : List (Event ℚ Unit Unit 1 1) :=
  [.install 0 (linearArgs 2), .chunk 0 oneBatch none, .install 0 (linearArgs 4),
    .chunk 0 oneBatch none, .chunk 1 oneBatch none]

def noCritic : VisualTransformerCritic ℚ 1 := ⟨⟨0, 0, 0, 0, 0⟩, fun _ _ _ _ => 0⟩

theorem chunks_of_two_installations :
    ((objects oneStep fun _ => noCritic).run twoInstallations loadedWorld).1 =
      ((guidance oneStep (fun _ => noCritic) loadedWorld.policy).run twoInstallations
        fun _ => []).1 ∧
    (((objects oneStep fun _ => noCritic).run twoInstallations loadedWorld).2.processors 0).map
      (fun processor => processor.diagnostics.length) = [1, 1] ∧
    (((objects oneStep fun _ => noCritic).run twoInstallations loadedWorld).2.policy
      0).getActionChunk = .withQgf 1 .original := by
  have hfresh : ∀ p, Fresh (loadedWorld.policy p) := fun _ => ⟨rfl, rfl, rfl, rfl⟩
  obtain ⟨houtcomes, hstands⟩ := chunks_of_installations oneStep (fun _ => noCritic) hfresh
    (fun _ => rfl) twoInstallations
  exact ⟨houtcomes, rfl, (hstands 0).wrappedOnce (List.cons_ne_nil _ _)⟩

end SmolVlaQgf.GuidedPolicies
