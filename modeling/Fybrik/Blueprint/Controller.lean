import Fybrik.Plotter.Endpoint

/-!
# The controller of blueprints

`blueprint_controller.go`: every module instance of a blueprint is deployed as a
Helm release, and the status of the blueprint says how far that has come.

* `Helm` — the releases of a cluster, with what has been installed in them.
* `InstanceCalls`, `BlueprintCalls` — the answers the controller gets during one
  reconcile.
* `applyChartResource`, `checkReleaseStatus`, `reconcile`, `reconcileFinalizers` — as
  in the source.
* `reconcileRequest` — the method `Reconcile`: the blueprint and the releases it
  leaves behind, and the error.
* `reconcileRelease_view` — what a round of `reconcile` does to the release of its
  instance; `lookup_releases_reconcile` and `ready_reconcile_iff` — what a whole
  reconcile enters in the status.
-/

namespace Fybrik

/-! ## Helm -/

/-- The states of a release that the controller tells apart. -/
inductive ReleaseStatus where
  | deployed
  | failed
  | other
  deriving DecidableEq, Inhabited, Repr

/-- What a release is installed with: a chart, by reference, and values. -/
structure Deployment where
  chart : String
  values : List (String × Json)
  deriving DecidableEq, Inhabited

/-- The releases of a cluster. -/
structure Helm where
  /-- What is reported of the releases there are. -/
  releases : GoMap Release ReleaseStatus
  /-- What the latest successful install or upgrade of a release was made with. -/
  applied : GoMap Release Deployment
  /-- The releases that were installed or upgraded, and not uninstalled since. -/
  installed : List Release
  deriving DecidableEq, Inhabited

namespace Helm

variable (helm : Helm) (release : Release)

/-- An install or upgrade succeeds. -/
def deploy (deployment : Deployment) : Helm :=
  { releases := helm.releases.set release .deployed
    applied := helm.applied.set release deployment
    installed := release :: helm.installed }

/-- An install or upgrade fails: the release is reported as failed. -/
def fail : Helm :=
  { helm with
    releases := helm.releases.set release .failed
    installed := release :: helm.installed }

/-- A release is uninstalled. -/
def uninstall : Helm :=
  { helm with
    releases := helm.releases.delete release
    installed := helm.installed.filter fun other => other ≠ release }

end Helm

/-! ## What the controller asks -/

/-- Credentials for a registry. -/
structure Credentials where
  username : String
  password : String
  deriving DecidableEq, Inhabited, Repr

/-- A secret, with the lookup of the keyring made from it. -/
structure PullSecret where
  type : String
  lookup : String → Option (List Credentials)
  deriving Inhabited

/-- `ResourceStatusIndicator`. -/
structure ResourceStatusIndicator where
  kind : String
  successCondition : String
  failureCondition : String
  errorMessage : String
  deriving DecidableEq, Inhabited, Repr

/-- The answers the controller gets while it handles one module instance; an error
is its text. -/
structure InstanceCalls where
  /-- The error of the first call of `Status`. -/
  status : Option String
  getSecret : NamespacedName → Except String PullSecret
  registryLogin : String → Credentials → Option String
  tempDir : Option String
  pull : String → Option String
  registryLogout : String → Option String
  load : String → Option String
  /-- The error of the call of `Status` right before the chart is applied. -/
  statusBeforeApply : Option String
  upgrade : Option String
  install : Option String
  getResources : Except String (List Json)
  /-- The indicators of the registered modules, module by module. -/
  statusIndicators : Except String (List (List ResourceStatusIndicator))
  deriving Inhabited

/-- The answers the controller gets during one reconcile. -/
structure BlueprintCalls where
  instances : String → InstanceCalls
  uninstall : Release → Option String
  updateFinalizers : Option String
  updateStatus : Option String
  deriving Inhabited

/-- What `kstatus` makes of a resource. -/
inductive KStatus where
  | failed
  | current
  | other
  deriving DecidableEq, Inhabited, Repr

/-- The fields of a resource, taken as labels. -/
structure Labels where
  has : String → Bool
  get : String → String
  deriving Inhabited

/-- The reconciler of blueprints, with the functions it has from libraries. -/
structure BlueprintReconciler where
  name : String
  settings : Settings
  sha512 : Sha512
  /-- The JSON object of the arguments of an instance (`utils.StructToMap`).
  Arguments come from JSON, so the conversion does not fail. -/
  structToMap : ModuleArguments → List (String × Json)
  /-- The registry of an image (`distributionref`). -/
  imageDomain : String → Except String String
  kstatus : Json → Except String (KStatus × String)
  /-- The requirements of a selector (`labels.Parse`). -/
  parseSelector : String → Except String (List (Labels → Bool))
  /-- The text of a JSON value. -/
  marshal : Json → String
  deriving Inhabited

/-- The blueprint, and the releases of its cluster. -/
structure BlueprintSite where
  blueprint : Blueprint
  helm : Helm
  deriving DecidableEq, Inhabited

namespace BlueprintReconciler

variable (r : BlueprintReconciler)

/-! ## Charts -/

/-- `SetMapField`. -/
def setMapField (obj : List (String × Json)) (k : String) (v : Json) : List (String × Json) :=
  (Json.setField v obj (splitDots k)).1

variable (blueprint : Blueprint)

/-- The arguments of an instance, with the labels `reconcile` adds to them. -/
def labelledArguments (module : BlueprintModule) : ModuleArguments :=
  { module.arguments with
    labels := ((module.arguments.labels.set blueprintNameLabel blueprint.name).set
      blueprintNamespaceLabel blueprint.namespace).set fybrikAppUUID
        (getFybrikApplicationUUIDfromAnnotations blueprint.annotations) }

/-- What an instance is deployed with: its chart, and its arguments overridden by
the values of the chart. -/
def deployment (module : BlueprintModule) : Deployment :=
  { chart := module.chart.name
    values := module.chart.values.pairs.foldl (fun args kv => setMapField args kv.1 (.str kv.2))
      (r.structToMap (labelledArguments blueprint module)) }

/-- The release of an instance. -/
def release (instanceName : String) : Release :=
  { name := blueprintRelease r.sha512 blueprint.labels instanceName
    «namespace» := blueprint.spec.modulesNamespace }

/-- `getDomainFromImageName`. -/
def getDomainFromImageName (image : String) : Except String String :=
  match r.imageDomain image with
  | .error err => .error ("couldn't parse image name: " ++ image ++ ": " ++ err)
  | .ok domain => .ok domain

variable (calls : InstanceCalls) (chart : ChartSpec)

/-- The registry `applyChartResource` manages to log into; the text is empty if
there is none. -/
def registryLogin : Except String String :=
  if chart.chartPullSecret = "" then .ok ""
  else
    match calls.getSecret ⟨chart.chartPullSecret, r.settings.systemNamespace⟩ with
    | .error err =>
      .error ("could not find ChartPullSecret: " ++ chart.chartPullSecret ++ ": " ++ err)
    | .ok pullSecret =>
      if pullSecret.type ≠ "kubernetes.io/dockerconfigjson" then .ok ""
      else
        match r.getDomainFromImageName chart.name with
        | .error err => .error (chart.name ++ ": failed to parse image name: " ++ err)
        | .ok repoToPull =>
          match pullSecret.lookup chart.name with
          | none => .ok ""
          | some creds =>
            if creds.any fun cred => (calls.registryLogin repoToPull cred).isNone then
              .ok repoToPull
            else .ok ""

/-- The part of `applyChartResource` that obtains the chart.  If it is left early,
this is the error it is left with; there is none if the logout fails. -/
def fetchChart : Except (Option String) Unit :=
  match r.registryLogin calls chart with
  | .error err => .error (some err)
  | .ok registrySuccessfulLogin =>
    match calls.tempDir with
    | some err => .error (some
        (chart.name ++ ": failed to create temporary directory for chart pull: " ++ err))
    | none =>
      match calls.pull chart.name with
      | some err => .error (some (chart.name ++ ": failed chart pull: " ++ err))
      | none =>
        -- the error of the logout is not used: what is wrapped is the result of the pull
        if registrySuccessfulLogin ≠ "" ∧ (calls.registryLogout registrySuccessfulLogin).isSome then
          .error none
        else
          match calls.load chart.name with
          | some err => .error (some (chart.name ++ ": failed chart load: " ++ err))
          | none => .ok ()

/-- `applyChartResource`: the releases, and the error. -/
def applyChartResource (deployment : Deployment) (release : Release) (helm : Helm) :
    Helm × Option String :=
  match r.fetchChart calls chart with
  | .error err => (helm, err)
  | .ok _ =>
    if calls.statusBeforeApply.isNone ∧ (helm.releases.lookup release).isSome then
      match calls.upgrade with
      | some err => (helm.fail release, some (chart.name ++ ": failed upgrade: " ++ err))
      | none => (helm.deploy release deployment, none)
    else
      match calls.install with
      | some err => (helm.fail release, some (chart.name ++ ": failed install: " ++ err))
      | none => (helm.deploy release deployment, none)

/-! ## The state of a release -/

variable (res : Json)

/-- `UnstructuredAsLabels`. -/
def unstructuredAsLabels : Labels where
  has label :=
    match res.nestedField (splitDots label) with
    | .ok (some _) => true
    | _ => false
  get label :=
    match res.nestedString (splitDots label) with
    | .ok val => val.getD ""
    | .error _ =>
      match res.nestedField (splitDots label) with
      | .ok val => r.marshal (val.getD .null)
      | .error _ => ""

/-- `matchesCondition`. -/
def matchesCondition (condition : String) : Bool :=
  match r.parseSelector condition with
  | .error _ => false
  | .ok requirements => requirements.all fun req => req (r.unstructuredAsLabels res)

/-- `getErrorMessage`. -/
def getErrorMessage (fieldPath : String) : String :=
  if (r.unstructuredAsLabels res).has fieldPath then (r.unstructuredAsLabels res).get fieldPath
  else ""

/-- The kind of a resource (`GetKind`). -/
def kindOf : String :=
  match res.nestedString ["kind"] with
  | .ok val => val.getD ""
  | .error _ => ""

/-- `getExpectedResults`. -/
def getExpectedResults (kind : String) : Except String (Option ResourceStatusIndicator) :=
  match calls.statusIndicators with
  | .error err => .error err
  | .ok modules => .ok (modules.flatten.find? fun res => res.kind == kind)

/-- `checkResourceStatus`. -/
def checkResourceStatus : ConditionStatus × String :=
  match getExpectedResults calls (kindOf res) with
  | .error _ => (.conditionUnknown, "")
  | .ok none =>
    match r.kstatus res with
    | .error _ => (.conditionUnknown, "")
    | .ok (.failed, message) => (.conditionFalse, message)
    | .ok (.current, _) => (.conditionTrue, "")
    | .ok (.other, _) => (.conditionUnknown, "")
  | .ok (some expected) =>
    if r.matchesCondition res expected.successCondition then (.conditionTrue, "")
    else if r.matchesCondition res expected.failureCondition then
      (.conditionFalse, r.getErrorMessage res expected.errorMessage)
    else (.conditionUnknown, "")

/-- The loop of `checkReleaseStatus`: the first resource that failed, or whether
all of them are ready. -/
def checkResources (calls : InstanceCalls) : Bool → List Json → ConditionStatus × String
  | allReady, [] => if allReady then (.conditionTrue, "") else (.conditionUnknown, "")
  | allReady, res :: resources =>
    match r.checkResourceStatus calls res with
    | (.conditionFalse, errMsg) => (.conditionFalse, errMsg)
    | (.conditionTrue, _) => checkResources calls allReady resources
    | _ => checkResources calls false resources

/-- `checkReleaseStatus`. -/
def checkReleaseStatus : ConditionStatus × String :=
  match calls.getResources with
  | .error _ => (.conditionUnknown, "")
  | .ok resources => r.checkResources calls true resources

/-! ## Reconcile -/

/-- What the loop of `reconcile` over the module instances keeps. -/
structure Progress where
  status : BlueprintStatus
  helm : Helm
  numReleases : ℕ
  numReady : ℕ

/-- `updateModuleState`. -/
def updateModuleState (status : BlueprintStatus) (instanceName : String) (isReady : Bool)
    (err : String) : BlueprintStatus :=
  { status with modulesState := status.modulesState.set instanceName ⟨isReady, err⟩ }

/-- An error is added to the state of the blueprint. -/
def addError (status : BlueprintStatus) (err : String) : BlueprintStatus :=
  { status with
    observedState := { status.observedState with error := status.observedState.error ++ err } }

/-- What `Status` reports of a release at the beginning of a round. -/
def foundRelease (reported : Option ReleaseStatus) : Option ReleaseStatus :=
  if calls.status.isSome then none else reported

/-- The chart of an instance is applied in this round. -/
def appliesChart (updateRequired : Bool) (reported : Option ReleaseStatus) : Bool :=
  updateRequired || foundRelease calls reported == none
    || foundRelease calls reported == some .failed

/-- One round of the loop over the module instances, up to the entry in the map of
releases. -/
def reconcileRelease (blueprint : Blueprint) (updateRequired : Bool) (p : Progress)
    (instanceName : String) (module : BlueprintModule) : Progress :=
  let release := r.release blueprint instanceName
  if appliesChart calls updateRequired (p.helm.releases.lookup release) then
    match r.applyChartResource calls module.chart (r.deployment blueprint module) release p.helm with
    | (helm, some err) => { p with
        status := updateModuleState (addError p.status ("ChartDeploymentFailure: : " ++ err ++ "\n"))
          instanceName false err
        helm := helm }
    | (helm, none) => { p with
        status := updateModuleState p.status instanceName false ""
        helm := helm }
  else if foundRelease calls (p.helm.releases.lookup release) = some .deployed then
    match r.checkReleaseStatus calls with
    | (.conditionFalse, errMsg) => { p with
        status := updateModuleState
          (addError p.status ("ResourceAllocationFailure: " ++ errMsg ++ "\n"))
          instanceName false errMsg }
    | (.conditionTrue, _) => { p with
        status := updateModuleState p.status instanceName true ""
        numReady := p.numReady + 1 }
    | _ => p
  else p

/-- One round of the loop over the module instances. -/
def reconcileInstance (calls : BlueprintCalls) (blueprint : Blueprint) (updateRequired : Bool)
    (p : Progress) (im : String × BlueprintModule) : Progress :=
  let q := r.reconcileRelease (calls.instances im.1) blueprint updateRequired p im.1 im.2
  { q with
    status := { q.status with
      releases := q.status.releases.set (r.release blueprint im.1).name blueprint.generation }
    numReleases := p.numReleases + 1 }

/-- One round of the clean-up: a release that is not part of the blueprint any more
is uninstalled. -/
def uninstallObsolete (calls : BlueprintCalls) (blueprint : Blueprint)
    (st : GoMap String ℕ × Helm) (entry : String × ℕ) : GoMap String ℕ × Helm :=
  if entry.2 ≠ blueprint.generation then
    match calls.uninstall ⟨entry.1, blueprint.spec.modulesNamespace⟩ with
    | some _ => st
    | none => (st.1.delete entry.1, st.2.uninstall ⟨entry.1, blueprint.spec.modulesNamespace⟩)
  else st

/-- The status at the beginning of `reconcile`. -/
def resetStatus : BlueprintStatus :=
  { blueprint.status with
    observedGeneration := blueprint.generation
    observedState := ⟨false, ""⟩ }

/-- The loop of `reconcile` over the module instances. -/
def reconcileInstances (calls : BlueprintCalls) (s : BlueprintSite) : Progress :=
  s.blueprint.spec.modules.pairs.foldl
    (r.reconcileInstance calls s.blueprint
      (s.blueprint.status.observedGeneration != s.blueprint.generation))
    { status := resetStatus s.blueprint, helm := s.helm, numReleases := 0, numReady := 0 }

/-- The clean-up of `reconcile`. -/
def cleanUp (calls : BlueprintCalls) (blueprint : Blueprint) (p : Progress) :
    GoMap String ℕ × Helm :=
  p.status.releases.pairs.foldl (uninstallObsolete calls blueprint) (p.status.releases, p.helm)

/-- `reconcile`: the status, and the releases. -/
def reconcile (calls : BlueprintCalls) (s : BlueprintSite) : BlueprintStatus × Helm :=
  let p := r.reconcileInstances calls s
  let cleaned := cleanUp calls s.blueprint p
  ({ p.status with
      releases := cleaned.1
      observedState := { p.status.observedState with ready := p.numReady == p.numReleases } },
    cleaned.2)

/-- The name of the finalizer. -/
def finalizerName : String := r.name ++ ".finalizer"

/-- The loop of `deleteExternalResources`: the releases are uninstalled, and the
errors are collected. -/
def deleteExternalResources (calls : BlueprintCalls) (s : BlueprintSite) :
    Helm × List String :=
  s.blueprint.status.releases.pairs.foldl (fun st entry =>
    match calls.uninstall ⟨entry.1, s.blueprint.spec.modulesNamespace⟩ with
    | some err => (st.1, st.2 ++ [err])
    | none => (st.1.uninstall ⟨entry.1, s.blueprint.spec.modulesNamespace⟩, st.2)) (s.helm, [])

/-- `UpdateFinalizers`. -/
def updateFinalizers (calls : BlueprintCalls) (s : BlueprintSite) (finalizers : List String) :
    BlueprintSite × Option String :=
  match calls.updateFinalizers with
  | some err => (s, some err)
  | none => ({ s with blueprint := { s.blueprint with finalizers := finalizers } }, none)

/-- `reconcileFinalizers`.  Errors while releases are uninstalled are only logged. -/
def reconcileFinalizers (calls : BlueprintCalls) (s : BlueprintSite) :
    BlueprintSite × Option String :=
  let hasFinalizer := s.blueprint.finalizers.contains r.finalizerName
  if s.blueprint.beingDeleted then
    if hasFinalizer then
      updateFinalizers calls { s with helm := (deleteExternalResources calls s).1 }
        (s.blueprint.finalizers.filter fun f => f != r.finalizerName)
    else (s, none)
  else if hasFinalizer then (s, none)
  else updateFinalizers calls s (s.blueprint.finalizers ++ [r.finalizerName])

/-- `Reconcile`. -/
def reconcileRequest (calls : BlueprintCalls) (s : BlueprintSite) :
    BlueprintSite × Option String :=
  match r.reconcileFinalizers calls s with
  | (s, some err) => (s, some err)
  | (s, none) =>
    if s.blueprint.beingDeleted then (s, none)
    else
      let res := r.reconcile calls s
      -- a status that has not changed is not written
      if res.1 = s.blueprint.status then ({ s with helm := res.2 }, none)
      else
        match calls.updateStatus with
        | some err => ({ s with helm := res.2 }, some ("failed to update blueprint status: " ++ err))
        | none => (⟨{ s.blueprint with status := res.1 }, res.2⟩, none)

end BlueprintReconciler

/-! ## What becomes of the releases -/

namespace Helm

variable {helm : Helm} {release other : Release} {deployment : Deployment}

/-- What there is to know of a release: what is reported, and what it was last
installed with. -/
def view (helm : Helm) (release : Release) : Option ReleaseStatus × Option Deployment :=
  (helm.releases.lookup release, helm.applied.lookup release)

theorem view_deploy :
    (helm.deploy release deployment).view release = (some .deployed, some deployment) := by
  rw [view, deploy, AList.lookup_insert, AList.lookup_insert]

theorem view_deploy_ne (h : other ≠ release) :
    (helm.deploy release deployment).view other = helm.view other := by
  rw [view, view, deploy, AList.lookup_insert_ne h, AList.lookup_insert_ne h]

theorem view_fail : (helm.fail release).view release = (some .failed, helm.applied.lookup release) := by
  rw [view, fail, AList.lookup_insert]

theorem view_fail_ne (h : other ≠ release) : (helm.fail release).view other = helm.view other := by
  rw [view, view, fail, AList.lookup_insert_ne h]

theorem view_uninstall_ne (h : other ≠ release) :
    (helm.uninstall release).view other = helm.view other := by
  rw [view, view, uninstall, AList.lookup_erase_ne h]

end Helm

namespace BlueprintReconciler

variable {r : BlueprintReconciler} {calls : BlueprintCalls} {blueprint : Blueprint}
  {updateRequired : Bool} {p : Progress}

/-- What a chart does to the releases: nothing if it is not obtained, and otherwise
its release is deployed or has failed. -/
theorem applyChartResource_cases (r : BlueprintReconciler) (calls : InstanceCalls)
    (chart : ChartSpec) (deployment : Deployment) (release : Release) (helm : Helm) :
    ((r.applyChartResource calls chart deployment release helm).1 = helm ∧
      r.fetchChart calls chart ≠ .ok ()) ∨
    (r.applyChartResource calls chart deployment release helm).1
      = helm.deploy release deployment ∨
    (r.applyChartResource calls chart deployment release helm).1 = helm.fail release := by
  unfold applyChartResource
  cases hfetch : r.fetchChart calls chart with
  | error err => exact Or.inl ⟨rfl, by simp⟩
  | ok u =>
    right
    by_cases hthere : calls.statusBeforeApply.isNone = true ∧
        (helm.releases.lookup release).isSome = true
    · simp only [if_pos hthere]
      cases calls.upgrade with
      | none => exact Or.inl rfl
      | some err => exact Or.inr rfl
    · simp only [if_neg hthere]
      cases calls.install with
      | none => exact Or.inl rfl
      | some err => exact Or.inr rfl

/-- What a round does to the releases is what its chart does to them, if it is
applied. -/
theorem helm_reconcileRelease (r : BlueprintReconciler) (calls : InstanceCalls)
    (blueprint : Blueprint) (updateRequired : Bool) (p : Progress) (instanceName : String)
    (module : BlueprintModule) :
    (r.reconcileRelease calls blueprint updateRequired p instanceName module).helm
      = if appliesChart calls updateRequired
          (p.helm.releases.lookup (r.release blueprint instanceName)) then
          (r.applyChartResource calls module.chart (r.deployment blueprint module)
            (r.release blueprint instanceName) p.helm).1
        else p.helm := by
  unfold reconcileRelease
  dsimp only
  split
  · split
    · rename_i heq
      rw [heq]
    · rename_i heq
      rw [heq]
  · split
    · split <;> rfl
    · rfl

/-- A round leaves the other releases alone. -/
theorem reconcileRelease_view_ne {calls : InstanceCalls} {instanceName : String}
    {module : BlueprintModule} {other : Release} (h : other ≠ r.release blueprint instanceName) :
    (r.reconcileRelease calls blueprint updateRequired p instanceName module).helm.view other
      = p.helm.view other := by
  rw [helm_reconcileRelease]
  split
  · rcases applyChartResource_cases r calls module.chart (r.deployment blueprint module)
      (r.release blueprint instanceName) p.helm with ⟨hhelm, -⟩ | hhelm | hhelm
    · rw [hhelm]
    · rw [hhelm, Helm.view_deploy_ne h]
    · rw [hhelm, Helm.view_fail_ne h]
  · rfl

/-- What a round does to the release of its instance: it is left alone, unless its
chart is applied and obtained; then it is deployed as the blueprint says, or it
is reported as failed. -/
theorem reconcileRelease_view (r : BlueprintReconciler) (calls : InstanceCalls)
    (blueprint : Blueprint) (updateRequired : Bool) (p : Progress) (instanceName : String)
    (module : BlueprintModule) :
    let after := (r.reconcileRelease calls blueprint updateRequired p instanceName module).helm.view
      (r.release blueprint instanceName)
    (after = p.helm.view (r.release blueprint instanceName) ∧
      (updateRequired = true → r.fetchChart calls module.chart ≠ .ok ())) ∨
    after = (some .deployed, some (r.deployment blueprint module)) ∨
    after = (some .failed, (p.helm.view (r.release blueprint instanceName)).2) := by
  rw [helm_reconcileRelease]
  split
  · rcases applyChartResource_cases r calls module.chart (r.deployment blueprint module)
      (r.release blueprint instanceName) p.helm with ⟨hhelm, hfetch⟩ | hhelm | hhelm
    · rw [hhelm]
      exact Or.inl ⟨rfl, fun _ => hfetch⟩
    · rw [hhelm, Helm.view_deploy]
      exact Or.inr (Or.inl rfl)
    · rw [hhelm, Helm.view_fail]
      exact Or.inr (Or.inr rfl)
  · rename_i hkept
    refine Or.inl ⟨rfl, fun hupdate => absurd ?_ hkept⟩
    rw [appliesChart, hupdate, Bool.true_or, Bool.true_or]

/-! ## What becomes of the status -/

/-- A round enters the current generation for the release of its instance. -/
theorem releases_reconcileInstance (im : String × BlueprintModule) :
    (r.reconcileInstance calls blueprint updateRequired p im).status.releases
      = p.status.releases.set (r.release blueprint im.1).name blueprint.generation := by
  have hkept : (r.reconcileRelease (calls.instances im.1) blueprint updateRequired p im.1
      im.2).status.releases = p.status.releases := by
    unfold reconcileRelease
    dsimp only
    split
    · split <;> rfl
    · split
      · split <;> rfl
      · rfl
  rw [reconcileInstance, hkept]

theorem releases_reconcileInstances (r : BlueprintReconciler) (calls : BlueprintCalls)
    (s : BlueprintSite) :
    (r.reconcileInstances calls s).status.releases = s.blueprint.status.releases.setAll
      (s.blueprint.spec.modules.pairs.map fun im =>
        ((r.release s.blueprint im.1).name, s.blueprint.generation)) := by
  rw [reconcileInstances, GoMap.setAll, List.foldl_map]
  refine (List.foldl_hom (fun p : Progress => p.status.releases) fun p im => ?_).symm
  rw [releases_reconcileInstance]

/-- A release of an instance of the blueprint is entered with the current generation,
and nothing else changes. -/
theorem lookup_releases_reconcileInstances (r : BlueprintReconciler) (calls : BlueprintCalls)
    (s : BlueprintSite) (name : String) :
    (r.reconcileInstances calls s).status.releases.lookup name
      = if ∃ im ∈ s.blueprint.spec.modules.pairs, (r.release s.blueprint im.1).name = name
        then some s.blueprint.generation else s.blueprint.status.releases.lookup name := by
  rw [releases_reconcileInstances, GoMap.lookup_setAll_const]

/-- The entries that remain after the clean-up: those of the current generation,
and those whose release could not be uninstalled. -/
theorem lookup_cleanUp (calls : BlueprintCalls) (blueprint : Blueprint) (p : Progress)
    {name : String} {version : ℕ} :
    (cleanUp calls blueprint p).1.lookup name = some version ↔
      p.status.releases.lookup name = some version ∧ (version = blueprint.generation ∨
        (calls.uninstall ⟨name, blueprint.spec.modulesNamespace⟩).isSome = true) := by
  have hloop : (cleanUp calls blueprint p).1 = p.status.releases.deleteAll
      (fun entry => decide (entry.2 ≠ blueprint.generation) &&
        (calls.uninstall ⟨entry.1, blueprint.spec.modulesNamespace⟩).isNone)
      p.status.releases.pairs := by
    refine (List.foldl_hom Prod.fst fun st entry => ?_).symm
    unfold uninstallObsolete
    by_cases hversion : entry.2 = blueprint.generation
    · simp [hversion]
    · cases hresult : calls.uninstall ⟨entry.1, blueprint.spec.modulesNamespace⟩ <;>
        simp [hversion, hresult]
  rw [hloop, GoMap.lookup_deleteAll_pairs]
  refine and_congr_right fun _ => ?_
  cases calls.uninstall ⟨name, blueprint.spec.modulesNamespace⟩ <;> simp

theorem observedGeneration_reconcile (r : BlueprintReconciler) (calls : BlueprintCalls)
    (s : BlueprintSite) : (r.reconcile calls s).1.observedGeneration = s.blueprint.generation := by
  refine Loops.foldl_untouched (fun p : Progress => p.status.observedGeneration)
    (fun im _ p => ?_) _
  change (r.reconcileRelease _ _ _ _ _ _).status.observedGeneration = _
  unfold reconcileRelease
  dsimp only
  split
  · split <;> rfl
  · split
    · split <;> rfl
    · rfl

/-- The releases that are recorded after a reconcile. -/
theorem lookup_releases_reconcile (r : BlueprintReconciler) (calls : BlueprintCalls)
    (s : BlueprintSite) {name : String} {version : ℕ} :
    (r.reconcile calls s).1.releases.lookup name = some version ↔
      (if ∃ im ∈ s.blueprint.spec.modules.pairs, (r.release s.blueprint im.1).name = name
        then some s.blueprint.generation else s.blueprint.status.releases.lookup name)
          = some version ∧ (version = s.blueprint.generation ∨
        (calls.uninstall ⟨name, s.blueprint.spec.modulesNamespace⟩).isSome = true) := by
  rw [← lookup_releases_reconcileInstances r calls]
  exact lookup_cleanUp calls s.blueprint _

/-- The clean-up leaves the releases of the current generation alone. -/
theorem view_cleanUp {name : String}
    (h : p.status.releases.lookup name = some blueprint.generation) :
    (cleanUp calls blueprint p).2.view ⟨name, blueprint.spec.modulesNamespace⟩
      = p.helm.view ⟨name, blueprint.spec.modulesNamespace⟩ := by
  refine Loops.foldl_untouched (fun st : GoMap String ℕ × Helm =>
    st.2.view ⟨name, blueprint.spec.modulesNamespace⟩) (fun entry hentry st => ?_) _
  unfold uninstallObsolete
  split
  · rename_i hversion
    split
    · rfl
    · refine Helm.view_uninstall_ne fun heq => hversion ?_
      have hname : name = entry.1 := congrArg Release.name heq
      rw [hname, GoMap.mem_pairs.1 hentry] at h
      exact Option.some.inj h
  · rfl

/-! ## The releases that are installed -/

/-- Everything that is installed is recorded. -/
def Recorded («namespace» : String) (releases : GoMap String ℕ) (helm : Helm) : Prop :=
  ∀ release ∈ helm.installed,
    release.namespace = «namespace» ∧ (releases.lookup release.name).isSome = true

theorem Recorded.reconcileInstance {im : String × BlueprintModule}
    (h : Recorded blueprint.spec.modulesNamespace p.status.releases p.helm) :
    Recorded blueprint.spec.modulesNamespace
      (r.reconcileInstance calls blueprint updateRequired p im).status.releases
      (r.reconcileInstance calls blueprint updateRequired p im).helm := by
  rw [releases_reconcileInstance]
  -- an entry is never lost
  have hkept : ∀ name, (p.status.releases.lookup name).isSome = true →
      ((p.status.releases.set (r.release blueprint im.1).name blueprint.generation).lookup
        name).isSome = true := by
    intro name hname
    by_cases heq : name = (r.release blueprint im.1).name
    · rw [heq, AList.lookup_insert]
      rfl
    · rw [AList.lookup_insert_ne heq]
      exact hname
  have hold : Recorded blueprint.spec.modulesNamespace
      (p.status.releases.set (r.release blueprint im.1).name blueprint.generation) p.helm :=
    fun release hrelease => ⟨(h release hrelease).1, hkept _ (h release hrelease).2⟩
  have hnew : ∀ helm : Helm, helm.installed = r.release blueprint im.1 :: p.helm.installed →
      Recorded blueprint.spec.modulesNamespace
        (p.status.releases.set (r.release blueprint im.1).name blueprint.generation) helm := by
    intro helm hinstalled release hrelease
    rw [hinstalled] at hrelease
    rcases List.mem_cons.1 hrelease with rfl | hrelease
    · exact ⟨rfl, by rw [AList.lookup_insert]; rfl⟩
    · exact hold release hrelease
  change Recorded _ _ (r.reconcileRelease _ _ _ _ _ _).helm
  rw [helm_reconcileRelease]
  split
  · rcases applyChartResource_cases r (calls.instances im.1) im.2.chart
      (r.deployment blueprint im.2) (r.release blueprint im.1) p.helm with ⟨hhelm, -⟩ | hhelm | hhelm
    · rw [hhelm]
      exact hold
    · exact hnew _ (by rw [hhelm]; rfl)
    · exact hnew _ (by rw [hhelm]; rfl)
  · exact hold

theorem Recorded.uninstallObsolete {st : GoMap String ℕ × Helm} {entry : String × ℕ}
    (h : Recorded blueprint.spec.modulesNamespace st.1 st.2) :
    Recorded blueprint.spec.modulesNamespace
      (uninstallObsolete calls blueprint st entry).1 (uninstallObsolete calls blueprint st entry).2 := by
  unfold BlueprintReconciler.uninstallObsolete
  split
  · split
    · exact h
    · intro release hrelease
      obtain ⟨hmem, hne⟩ := List.mem_filter.1 hrelease
      obtain ⟨hnamespace, hsome⟩ := h release hmem
      refine ⟨hnamespace, ?_⟩
      have hname : release.name ≠ entry.1 := by
        intro hname
        refine of_decide_eq_true hne ?_
        rw [← hname, ← hnamespace]
      rw [AList.lookup_erase_ne hname]
      exact hsome
  · exact h

/-- A reconcile keeps everything that is installed recorded. -/
theorem Recorded.reconcile {s : BlueprintSite}
    (h : Recorded s.blueprint.spec.modulesNamespace s.blueprint.status.releases s.helm) :
    Recorded s.blueprint.spec.modulesNamespace (r.reconcile calls s).1.releases
      (r.reconcile calls s).2 := by
  have hloop : Recorded s.blueprint.spec.modulesNamespace
      (r.reconcileInstances calls s).status.releases (r.reconcileInstances calls s).helm :=
    List.foldlRecOn (motive := fun p : Progress =>
        Recorded s.blueprint.spec.modulesNamespace p.status.releases p.helm)
      s.blueprint.spec.modules.pairs _ h fun p hp im _ => hp.reconcileInstance
  exact List.foldlRecOn (motive := fun st : GoMap String ℕ × Helm =>
      Recorded s.blueprint.spec.modulesNamespace st.1 st.2)
    (r.reconcileInstances calls s).status.releases.pairs _ hloop
    fun st hst entry _ => hst.uninstallObsolete

/-! ## Whole reconciles -/

/-- No two instances of the blueprint share a release. -/
def DistinctReleases (r : BlueprintReconciler) (blueprint : Blueprint) : Prop :=
  ∀ im ∈ blueprint.spec.modules.pairs, ∀ im' ∈ blueprint.spec.modules.pairs,
    r.release blueprint im.1 = r.release blueprint im'.1 → im.1 = im'.1

/-- Then no round of the loop touches the release of another one. -/
theorem DistinctReleases.frame (h : r.DistinctReleases blueprint) :
    blueprint.spec.modules.pairs.Pairwise fun im im' => ∀ p : Progress,
      (r.reconcileInstance calls blueprint updateRequired p im').helm.view
          (r.release blueprint im.1) = p.helm.view (r.release blueprint im.1) ∧
      (r.reconcileInstance calls blueprint updateRequired p im).helm.view
          (r.release blueprint im'.1) = p.helm.view (r.release blueprint im'.1) := by
  have hnodup := List.pairwise_map.1 (GoMap.nodup_keys_pairs blueprint.spec.modules)
  refine hnodup.imp_of_mem fun him him' hne p => ⟨?_, ?_⟩
  · exact reconcileRelease_view_ne fun heq => hne (h _ him _ him' heq)
  · exact reconcileRelease_view_ne fun heq => hne (h _ him _ him' heq.symm)

/-- The clean-up does not touch the releases of the instances. -/
theorem reconcile_view_eq (calls : BlueprintCalls) {s : BlueprintSite}
    {im : String × BlueprintModule} (him : im ∈ s.blueprint.spec.modules.pairs) :
    (r.reconcile calls s).2.view (r.release s.blueprint im.1)
      = (r.reconcileInstances calls s).helm.view (r.release s.blueprint im.1) := by
  have hentry : (r.reconcileInstances calls s).status.releases.lookup
      (r.release s.blueprint im.1).name = some s.blueprint.generation := by
    rw [lookup_releases_reconcileInstances, if_pos ⟨im, him, rfl⟩]
  exact view_cleanUp hentry

/-- What a reconcile does to the release of an instance. -/
theorem reconcile_view (calls : BlueprintCalls) {s : BlueprintSite}
    (h : r.DistinctReleases s.blueprint) {im : String × BlueprintModule}
    (him : im ∈ s.blueprint.spec.modules.pairs) :
    let after := (r.reconcile calls s).2.view (r.release s.blueprint im.1)
    (after = s.helm.view (r.release s.blueprint im.1) ∧
      (s.blueprint.status.observedGeneration ≠ s.blueprint.generation →
        r.fetchChart (calls.instances im.1) im.2.chart ≠ .ok ())) ∨
    after = (some .deployed, some (r.deployment s.blueprint im.2)) ∨
    after = (some .failed, (s.helm.view (r.release s.blueprint im.1)).2) := by
  obtain ⟨p, hp, hround⟩ := Loops.foldl_view
    (fun (im : String × BlueprintModule) (p : Progress) =>
      p.helm.view (r.release s.blueprint im.1)) h.frame
    { status := resetStatus s.blueprint, helm := s.helm, numReleases := 0, numReady := 0 } him
  have hown := reconcileRelease_view r (calls.instances im.1) s.blueprint
    (s.blueprint.status.observedGeneration != s.blueprint.generation) p im.1 im.2
  simp only [bne_iff_ne] at hown hp hround ⊢
  rw [reconcile_view_eq calls him, reconcileInstances, hround, ← hp]
  exact hown

/-- The round of an instance finds its release deployed and all its resources ready. -/
def findsReady (r : BlueprintReconciler) (calls : InstanceCalls) (updateRequired : Bool)
    (reported : Option ReleaseStatus) : Bool :=
  !appliesChart calls updateRequired reported && foundRelease calls reported == some .deployed
    && (r.checkReleaseStatus calls).1 == .conditionTrue

theorem numReady_reconcileInstance (im : String × BlueprintModule) :
    (r.reconcileInstance calls blueprint updateRequired p im).numReady = p.numReady +
      if r.findsReady (calls.instances im.1) updateRequired
        (p.helm.view (r.release blueprint im.1)).1 then 1 else 0 := by
  change (r.reconcileRelease _ _ _ _ _ _).numReady = _
  unfold reconcileRelease findsReady Helm.view
  by_cases happly : appliesChart (calls.instances im.1) updateRequired
      (p.helm.releases.lookup (r.release blueprint im.1)) = true
  · rw [if_pos happly, happly]
    split <;> rfl
  · rw [if_neg happly, eq_false_of_ne_true happly]
    by_cases hfound : foundRelease (calls.instances im.1)
        (p.helm.releases.lookup (r.release blueprint im.1)) = some .deployed
    · rw [if_pos hfound, hfound]
      rcases hcheck : r.checkReleaseStatus (calls.instances im.1) with ⟨status, msg⟩
      cases status <;> simp
    · rw [if_neg hfound]
      simp [hfound]

theorem numReleases_reconcileInstances (r : BlueprintReconciler) (calls : BlueprintCalls)
    (s : BlueprintSite) :
    (r.reconcileInstances calls s).numReleases = s.blueprint.spec.modules.pairs.length := by
  have hloop : ∀ (l : List (String × BlueprintModule)) (p : Progress),
      (l.foldl (r.reconcileInstance calls s.blueprint
        (s.blueprint.status.observedGeneration != s.blueprint.generation)) p).numReleases
          = p.numReleases + l.length := by
    intro l
    induction l with
    | nil => exact fun p => rfl
    | cons im l ih =>
      intro p
      rw [List.foldl_cons, ih, List.length_cons]
      change p.numReleases + 1 + l.length = _
      omega
  rw [reconcileInstances, hloop]
  exact Nat.zero_add _

/-- When a reconcile reports the blueprint as ready. -/
theorem ready_reconcile_iff {s : BlueprintSite} (h : r.DistinctReleases s.blueprint) :
    (r.reconcile calls s).1.observedState.ready = true ↔
      ∀ im ∈ s.blueprint.spec.modules.pairs, r.findsReady (calls.instances im.1)
        (s.blueprint.status.observedGeneration != s.blueprint.generation)
        (s.helm.releases.lookup (r.release s.blueprint im.1)) = true := by
  have hcount := Loops.foldl_count
    (fun (im : String × BlueprintModule) (p : Progress) =>
      p.helm.view (r.release s.blueprint im.1))
    Progress.numReady
    (fun im v => r.findsReady (calls.instances im.1)
      (s.blueprint.status.observedGeneration != s.blueprint.generation) v.1)
    h.frame (fun im _ p => numReady_reconcileInstance im)
    { status := resetStatus s.blueprint, helm := s.helm, numReleases := 0, numReady := 0 }
  have hready : (r.reconcileInstances calls s).numReady = s.blueprint.spec.modules.pairs.countP
      fun im => r.findsReady (calls.instances im.1)
        (s.blueprint.status.observedGeneration != s.blueprint.generation)
        (s.helm.releases.lookup (r.release s.blueprint im.1)) :=
    hcount.trans (Nat.zero_add _)
  change ((r.reconcileInstances calls s).numReady == (r.reconcileInstances calls s).numReleases)
    = true ↔ _
  rw [beq_iff_eq, hready, numReleases_reconcileInstances, List.countP_eq_length]

end BlueprintReconciler

end Fybrik
