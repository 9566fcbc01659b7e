import Fybrik.Application.Conditions
import Fybrik.Config.Evaluator
import Fybrik.Plotter.Generator

/-!
# From an application to a plotter

The part of `fybrikapplication_controller.go` that is run when the specification
of an application has changed: every dataset is looked up in the catalog, the
policies are asked, and a plotter is built for the datasets that may be used.

* `FybrikApplicationReconciler` — the reconciler, with the answers of the services
  it asks during one reconcile.
* `constructDataInfo`, `buildSolution`, `updateProvisionedStorageStatus`,
  `createOrUpdateResource`, `reconcile` — as in the source; nothing is returned
  if the program crashes.
* `failures`, `served` — the datasets that are turned down and those a plotter is
  built for.
* `reconcile_blocksConflicts_iff` — when conflicting configuration policies keep a
  dataset out of the plotter.
-/

namespace Fybrik

/-- The reconciler of applications. -/
structure FybrikApplicationReconciler where
  name : String
  settings : Settings
  taxonomy : Taxonomy
  policyManager : PolicyManager
  dataCatalog : DataCatalog
  /-- The configuration policies: the output and the error of `Evaluate`. -/
  configEvaluator : EvaluatorInput → EvaluatorOutput × Option String
  /-- The result of listing the clusters. -/
  clusters : Except String (List Cluster)
  /-- The result of listing the clusters with a manager for the local cluster. -/
  localClusters : Except String (List Cluster)
  /-- The result of `GetAllModules`. -/
  modules : Except String (GoMap String FybrikModule)
  /-- The result of listing the storage accounts. -/
  storageAccounts : Except String (List FybrikStorageAccount)
  provision : ProvisionInterface
  api : ApiFailures
  templateEngine : TemplateEngine
  sha512 : Sha512
  deriving Inhabited

/-! ## The datasets -/

/-- `CreateDataRequest`. -/
def createDataRequest (application : FybrikApplication) (dataCtx : DataContext)
    (assetMetadata : ResourceMetadata) : DataRequest :=
  { datasetID := dataCtx.dataSetID
    interface := dataCtx.requirements.interface
    usage := GoMap.ofList [(.readFlow, application.spec.selector.workloadSelector.isSet),
      (.copyFlow, dataCtx.requirements.copy.required)]
    metadata := assetMetadata }

namespace FybrikApplicationReconciler

variable (r : FybrikApplicationReconciler) (application : FybrikApplication)

/-- `GetWorkloadCluster`. -/
def getWorkloadCluster : Except String Cluster :=
  let clusterName := application.spec.selector.clusterName
  if clusterName = "" then
    -- not a read scenario, or the workload runs in the local cluster
    if !application.spec.selector.workloadSelector.isSet then .ok default
    else
      match r.localClusters with
      | .error err => .error err
      | .ok [cluster] => .ok cluster
      | .ok _ => .ok default
  else
    match r.clusters with
    | .error err => .error err
    | .ok clusters =>
      match clusters.find? fun cluster => cluster.name == clusterName with
      | some cluster => .ok cluster
      | none => .error ("Cluster " ++ clusterName ++ " is not available")

variable (workloadCluster : Cluster)

/-- The governance actions for reading a dataset in the cluster of the workload;
there are none if it is not read. -/
def readActions (request : DataRequest) : List Action × Option String :=
  if request.usage.get .readFlow then
    lookupPolicyDecisions r.settings r.taxonomy request.datasetID r.policyManager application
      { actionType := .read, processingLocation := workloadCluster.metadata.region
        destination := workloadCluster.metadata.region }
  else ([], none)

/-- What `constructDataInfo` finds out about a dataset before it evaluates the
configuration policies: the answer of the catalog and the input of the
evaluation. -/
def evaluatorInput (dataCtx : DataContext) : Except String (GetAssetResponse × EvaluatorInput) :=
  match r.dataCatalog.getAssetInfo ⟨dataCtx.dataSetID, "read"⟩
      (policyManagerCreds r.settings application) with
  | .error err => .error err
  | .ok response =>
    match r.taxonomy.validateAssetResponse response dataCtx.dataSetID with
    | some err => .error err
    | none =>
      let request := createDataRequest application dataCtx response.resourceMetadata
      match r.readActions application workloadCluster request with
      | (_, some err) => .error err
      | (actions, none) => .ok (response,
          { workload :=
              { uuid := application.uid, policySetID := "", cluster := workloadCluster
                properties := application.spec.appInfo }
            request := request
            governanceActions := actions })

/-- `constructDataInfo`. -/
def constructDataInfo (dataCtx : DataContext) : Except String DataInfo :=
  match r.evaluatorInput application workloadCluster dataCtx with
  | .error err => .error err
  | .ok (response, input) =>
    match r.configEvaluator input with
    | (_, some err) => .error err
    | (configDecisions, none) => .ok
        { dataDetails := response, context := dataCtx, configuration := configDecisions
          workloadCluster := workloadCluster, actions := input.governanceActions }

/-- The loop of `reconcile` over the datasets: the status, and the datasets a data
path is needed for. -/
def collectRequirements (application : FybrikApplication) (workloadCluster : Cluster) :
    FybrikApplicationStatus → List DataContext →
      Option (FybrikApplicationStatus × List DataInfo)
  | status, [] => some (status, [])
  | status, dataset :: data =>
    match r.constructDataInfo application workloadCluster dataset with
    | .error err =>
      match analyzeError status dataset.dataSetID err with
      | none => none
      | some status => collectRequirements application workloadCluster status data
    | .ok req =>
      match collectRequirements application workloadCluster status data with
      | none => none
      | some (status, requirements) => some (status, req :: requirements)

/-! ## The plotter -/

/-- The generator of plotters that `buildSolution` sets up. -/
def plotterGen : Except String PlotterGenerator :=
  match r.modules with
  | .error err => .error err
  | .ok modules =>
    match r.storageAccounts with
    | .error err => .error err
    | .ok accounts =>
      match r.clusters with
      | .error err => .error err
      | .ok clusters => .ok
          { settings := r.settings, taxonomy := r.taxonomy, modules := modules
            clusters := clusters, owner := ⟨application.name, application.namespace⟩
            policyManager := r.policyManager, provision := r.provision
            storageAccounts := .ok accounts
            storageAccountRegions := accounts.flatMap fun account =>
              account.endpoints.pairs.map Prod.fst
            templateEngine := r.templateEngine, sha512 := r.sha512 }

/-- `buildSolution`. -/
def buildSolution (status : FybrikApplicationStatus) (requirements : List DataInfo) :
    Option (Except String (FybrikApplicationStatus × Generation)) :=
  match r.plotterGen application with
  | .error err => some (.error err)
  | .ok p =>
    match p.addFlows application (p.newGeneration application) requirements with
    | none => none
    | some (g, errs) => (analyzeErrors status errs).map fun status => .ok (status, g)

/-- The check of `updateProvisionedStorageStatus` that all buckets have been
created. -/
def bucketsReady : List (String × DatasetDetails) → Bool × Option String
  | [] => (true, none)
  | (_, details) :: storage =>
    match r.provision.getDatasetStatus ⟨details.datasetRef, r.settings.systemNamespace⟩ with
    | .error _ => (false, none)
    | .ok res =>
      if !res.provisioned then (false, if res.errorMsg ≠ "" then some res.errorMsg else none)
      else bucketsReady storage

/-- `updateProvisionedStorageStatus`: the status, whether the storage is ready, and
the error.  Buckets that are no longer needed are removed, and it does not matter
whether this succeeds. -/
def updateProvisionedStorageStatus (status : FybrikApplicationStatus)
    (provisionedStorage : GoMap String ProvisionedBucket) :
    FybrikApplicationStatus × Bool × Option String :=
  let kept := status.provisionedStorage.pairs.foldl (fun m p =>
    if (provisionedStorage.lookup p.1).isSome then m else m.delete p.1) status.provisionedStorage
  let storage := kept.setAll (provisionedStorage.pairs.map fun p =>
    (p.1, ⟨p.2.name, p.2.secretRef.name⟩))
  ({ status with provisionedStorage := storage }, r.bucketsReady storage.pairs)

end FybrikApplicationReconciler

/-- The sequences of steps the workload reads from, with the asset. -/
def readSequences (flows : List Flow) : List (String × List DataFlowStep) :=
  (flows.filter fun flow => flow.flowType = .readFlow).flatMap fun flow =>
    (flow.subFlows.filter fun subflow => subflow.flowType = .readFlow).flatMap fun subflow =>
      subflow.steps.map fun sequentialSteps => (flow.assetID, sequentialSteps)

/-- The API of the last step of a sequence; it is a crash if there is no last
step or if it has no parameters. -/
def lastStepAPI (sequentialSteps : List DataFlowStep) : Option (Option ResourceDetails) :=
  match sequentialSteps.getLast? with
  | none => none
  | some lastStep => lastStep.parameters.map StepParameters.api

/-- The endpoint of an asset is entered in the status. -/
def setEndpoint (readEndpointMap : GoMap String Connection) (status : FybrikApplicationStatus)
    (asset : DataContext) : FybrikApplicationStatus :=
  { status with
    assetStates := status.assetStates.set asset.dataSetID
      { status.assetStates.get asset.dataSetID with
        endpoint := readEndpointMap.get asset.dataSetID } }

/-- `setReadModulesEndpoints`. -/
def setReadModulesEndpoints (data : List DataContext) (flows : List Flow)
    (status : FybrikApplicationStatus) : Option FybrikApplicationStatus :=
  let readEndpointMap := (readSequences flows).foldlM (fun m s =>
    (lastStepAPI s.2).map fun api => match api with
      | some api => m.set s.1 api.connection
      | none => m) (∅ : GoMap String Connection)
  readEndpointMap.map fun m => data.foldl (setEndpoint m) status

variable {data : List DataContext} {status : FybrikApplicationStatus}

/-- Setting the endpoint of a tracked asset leaves its conditions alone. -/
theorem Tracked.setEndpoint (h : Tracked data status) {ctx : DataContext} (hctx : ctx ∈ data)
    (m : GoMap String Connection) :
    Tracked data (setEndpoint m status ctx) ∧ Marked [] status (setEndpoint m status ctx) := by
  obtain ⟨state, hstate⟩ := h.present ctx hctx
  rw [Fybrik.setEndpoint, GoMap.get_of_lookup hstate]
  have hkept := h.wellKept _ _ hstate
  refine ⟨h.set _ ⟨hkept.length, hkept.decided, hkept.message⟩, fun index id => ?_, rfl, rfl, rfl, rfl⟩
  simp only [List.not_mem_nil, or_false]
  unfold FybrikApplicationStatus.isTrue
  by_cases hid : id = ctx.dataSetID
  · rw [hid, GoMap.get_set, GoMap.get_of_lookup hstate]
  · rw [GoMap.get_set_ne _ _ hid]

theorem setReadModulesEndpoints_marked {flows : List Flow} {status' : FybrikApplicationStatus}
    (htracked : Tracked data status)
    (h : setReadModulesEndpoints data flows status = some status') :
    Tracked data status' ∧ Marked [] status status' := by
  obtain ⟨m, -, rfl⟩ := Option.map_eq_some_iff.1 h
  have hloop : ∀ (l : List DataContext) (status : FybrikApplicationStatus), (∀ ctx ∈ l, ctx ∈ data) →
      Tracked data status → Tracked data (l.foldl (setEndpoint m) status) ∧
        Marked [] status (l.foldl (setEndpoint m) status) := by
    intro l
    induction l with
    | nil => exact fun status _ htracked => ⟨htracked, Marked.refl status⟩
    | cons ctx l ih =>
      intro status hl htracked
      obtain ⟨htracked₁, hmarked₁⟩ := htracked.setEndpoint (hl ctx List.mem_cons_self) m
      obtain ⟨htracked₂, hmarked₂⟩ := ih _ (fun c hc => hl c (List.mem_cons_of_mem _ hc)) htracked₁
      exact ⟨htracked₂, hmarked₁.trans hmarked₂⟩
  exact hloop data status (fun _ hctx => hctx) htracked

/-- Where a generated resource is found. -/
def ResourceReference.namespacedName (ref : ResourceReference) : NamespacedName :=
  ⟨ref.name, ref.namespace⟩

/-- What a run of `reconcile` leaves behind. -/
structure Reconciled where
  status : FybrikApplicationStatus
  /-- The plotter specification that was put together, if it came to that. -/
  plotterSpec : Option PlotterSpec
  plotters : GoMap NamespacedName Plotter
  err : Option String
  deriving DecidableEq

namespace FybrikApplicationReconciler

variable (r : FybrikApplicationReconciler)

/-- `CreateOrUpdateResource`: the plotters, and the error.  Nothing is written if
the plotter is there already. -/
def createOrUpdateResource (application : FybrikApplication) (ref : ResourceReference)
    (plotterSpec : PlotterSpec) (plotters : GoMap NamespacedName Plotter) :
    GoMap NamespacedName Plotter × Option String :=
  match r.api.readPlotter with
  | some err => (plotters, some err)
  | none =>
    let existing := plotters.lookup ref.namespacedName
    if existing.map Plotter.spec = some plotterSpec then (plotters, none)
    else
      match r.api.writePlotter with
      | some err => (plotters, some err)
      | none => (plotters.set ref.namespacedName { existing.getD default with
            labels := plotterLabels application, spec := plotterSpec }, none)

/-- The reference to the plotter of an application. -/
def plotterReference (application : FybrikApplication) : ResourceReference :=
  createResourceReference r.settings
    { name := application.name, «namespace» := application.namespace, kind := ""
      appVersion := application.generation }

/-- The last part of `reconcile`: a plotter without errors is written once its
storage is ready. -/
def deploy (application : FybrikApplication) (plotters : GoMap NamespacedName Plotter)
    (status : FybrikApplicationStatus) (g : Generation) : Option Reconciled :=
  match r.updateProvisionedStorageStatus status g.provisionedStorage with
  | (status, false, allocationErr) => some ⟨status, some g.plotterSpec, plotters, allocationErr⟩
  | (status, true, _) =>
    match setReadModulesEndpoints application.spec.data g.plotterSpec.flows status with
    | none => none
    | some status =>
      let resourceRef := r.plotterReference application
      match r.createOrUpdateResource application resourceRef g.plotterSpec plotters with
      | (plotters, some err) =>
        if err = invalidClusterConfiguration then
          some ⟨{ status with errorMessage := err }, some g.plotterSpec, plotters, none⟩
        else some ⟨status, some g.plotterSpec, plotters, some err⟩
      | (plotters, none) =>
        some ⟨{ status with generated := some resourceRef }, some g.plotterSpec, plotters, none⟩

/-- The part of `reconcile` that follows the loop over the datasets. -/
def solve (application : FybrikApplication) (plotters : GoMap NamespacedName Plotter)
    (status : FybrikApplicationStatus) (requirements : List DataInfo) : Option Reconciled :=
  if requirements.isEmpty then some ⟨status, none, plotters, none⟩
  else
    match r.buildSolution application status requirements with
    | none => none
    | some (.error err) => some ⟨status, none, plotters, some err⟩
    | some (.ok (status, g)) =>
      match getErrorMessages status with
      | none => none
      | some msg =>
        if msg ≠ "" then some ⟨status, some g.plotterSpec, plotters, none⟩
        else r.deploy application plotters status g

/-- `reconcile`. -/
def reconcile (application : FybrikApplication) (plotters : GoMap NamespacedName Plotter) :
    Option Reconciled :=
  let status := initStatus application.spec.data application.status
  if application.spec.data.isEmpty then some ⟨status, none, plotters, none⟩
  else
    match r.getWorkloadCluster application with
    | .error err => some ⟨status, none, plotters, some err⟩
    | .ok workloadCluster =>
      match r.collectRequirements application workloadCluster status application.spec.data with
      | none => none
      | some (status, requirements) => r.solve application plotters status requirements

/-! ## How a reconcile goes -/

/-- The errors of the datasets that are turned down. -/
def failures (application : FybrikApplication) (workloadCluster : Cluster)
    (data : List DataContext) : List (String × String) :=
  data.filterMap fun dataset =>
    match r.constructDataInfo application workloadCluster dataset with
    | .error err => some (dataset.dataSetID, err)
    | .ok _ => none

/-- The datasets a data path is needed for. -/
def served (application : FybrikApplication) (workloadCluster : Cluster)
    (data : List DataContext) : List DataInfo :=
  data.filterMap fun dataset => (r.constructDataInfo application workloadCluster dataset).toOption

/-- The status after some errors of datasets have been noted in it. -/
structure Judged (application : FybrikApplication) (workloadCluster : Cluster)
    (errs : List (String × String)) (status : FybrikApplicationStatus) : Prop where
  cluster : r.getWorkloadCluster application = .ok workloadCluster
  tracked : Tracked application.spec.data status
  marked : Marked (errs.map markOf) (initStatus application.spec.data application.status) status

/-- A plotter has been put together. -/
structure Built (application : FybrikApplication) (workloadCluster : Cluster)
    (p : PlotterGenerator) (g : Generation) (status : FybrikApplicationStatus) : Prop where
  judged : r.Judged application workloadCluster
    (r.failures application workloadCluster application.spec.data ++
      p.rejections application (r.served application workloadCluster application.spec.data)) status
  served_ne : r.served application workloadCluster application.spec.data ≠ []
  plotterGen : r.plotterGen application = .ok p
  addFlows : p.addFlows application (p.newGeneration application)
    (r.served application workloadCluster application.spec.data)
      = some (g, p.rejections application
        (r.served application workloadCluster application.spec.data))

/-- The ways a reconcile can go. -/
inductive Course (application : FybrikApplication) (plotters : GoMap NamespacedName Plotter) :
    Reconciled → Prop
  | noData (hdata : application.spec.data = []) : Course application plotters
      ⟨initStatus application.spec.data application.status, none, plotters, none⟩
  | noCluster {err : String} (hdata : application.spec.data ≠ [])
      (hcluster : r.getWorkloadCluster application = .error err) : Course application plotters
      ⟨initStatus application.spec.data application.status, none, plotters, some err⟩
  | noneServed {workloadCluster : Cluster} {status : FybrikApplicationStatus}
      (hdata : application.spec.data ≠ [])
      (hjudged : r.Judged application workloadCluster
        (r.failures application workloadCluster application.spec.data) status)
      (hserved : r.served application workloadCluster application.spec.data = []) :
      Course application plotters ⟨status, none, plotters, none⟩
  | notListed {workloadCluster : Cluster} {status : FybrikApplicationStatus} {err : String}
      (hdata : application.spec.data ≠ [])
      (hjudged : r.Judged application workloadCluster
        (r.failures application workloadCluster application.spec.data) status)
      (hgen : r.plotterGen application = .error err) :
      Course application plotters ⟨status, none, plotters, some err⟩
  | rejected {workloadCluster : Cluster} {p : PlotterGenerator} {g : Generation}
      {status : FybrikApplicationStatus} (hbuilt : r.Built application workloadCluster p g status)
      {id : String} (herr : status.isTrue errorConditionIndex id = true) :
      Course application plotters ⟨status, some g.plotterSpec, plotters, none⟩
  | waiting {workloadCluster : Cluster} {p : PlotterGenerator} {g : Generation}
      {status : FybrikApplicationStatus} {err : Option String}
      (hbuilt : r.Built application workloadCluster p g status) :
      Course application plotters ⟨status, some g.plotterSpec, plotters, err⟩
  | refused {workloadCluster : Cluster} {p : PlotterGenerator} {g : Generation}
      {status : FybrikApplicationStatus} {msg : String}
      (hbuilt : r.Built application workloadCluster p g status) :
      Course application plotters
        ⟨{ status with errorMessage := msg }, some g.plotterSpec, plotters, none⟩
  | deployed {workloadCluster : Cluster} {p : PlotterGenerator} {g : Generation}
      {status : FybrikApplicationStatus} {plotters' : GoMap NamespacedName Plotter}
      {plotter : Plotter} (hbuilt : r.Built application workloadCluster p g status)
      (herr : ∀ id, status.isTrue errorConditionIndex id = false)
      (hlookup : plotters'.lookup (r.plotterReference application).namespacedName = some plotter)
      (hspec : plotter.spec = g.plotterSpec)
      (hmark : plotter.beingDeleted = ((plotters.lookup
        (r.plotterReference application).namespacedName).getD default).beingDeleted) :
      Course application plotters
        ⟨{ status with generated := some (r.plotterReference application) }, some g.plotterSpec,
          plotters', none⟩

/-- What can follow the loop over the datasets, which ends with a certain status. -/
inductive Solving (application : FybrikApplication) (plotters : GoMap NamespacedName Plotter)
    (workloadCluster : Cluster) (status : FybrikApplicationStatus) : Option Reconciled → Prop
  | noneServed (hserved : r.served application workloadCluster application.spec.data = []) :
      Solving application plotters workloadCluster status (some ⟨status, none, plotters, none⟩)
  | notListed {err : String}
      (hserved : r.served application workloadCluster application.spec.data ≠ [])
      (hgen : r.plotterGen application = .error err) :
      Solving application plotters workloadCluster status (some ⟨status, none, plotters, some err⟩)
  | crashed {p : PlotterGenerator} (hgen : r.plotterGen application = .ok p)
      (hadd : p.addFlows application (p.newGeneration application)
        (r.served application workloadCluster application.spec.data) = none) :
      Solving application plotters workloadCluster status none
  | rejected {p : PlotterGenerator} {g : Generation} {status' : FybrikApplicationStatus}
      (hbuilt : r.Built application workloadCluster p g status')
      (hnoted : analyzeErrors status
        (p.rejections application (r.served application workloadCluster application.spec.data))
          = some status')
      {id : String} (herr : status'.isTrue errorConditionIndex id = true) :
      Solving application plotters workloadCluster status
        (some ⟨status', some g.plotterSpec, plotters, none⟩)
  | accepted {p : PlotterGenerator} {g : Generation} {status' : FybrikApplicationStatus}
      (hbuilt : r.Built application workloadCluster p g status')
      (hnoted : analyzeErrors status
        (p.rejections application (r.served application workloadCluster application.spec.data))
          = some status')
      (herr : ∀ id, status'.isTrue errorConditionIndex id = false) :
      Solving application plotters workloadCluster status
        (r.deploy application plotters status' g)

variable {r} {application : FybrikApplication} {plotters : GoMap NamespacedName Plotter}
  {workloadCluster : Cluster} {errs : List (String × String)}
  {status status' : FybrikApplicationStatus} {p : PlotterGenerator} {g : Generation}
  {res : Reconciled}

/-- The loop over the datasets separates them. -/
theorem collectRequirements_eq (workloadCluster : Cluster) (status : FybrikApplicationStatus)
    (data : List DataContext) :
    r.collectRequirements application workloadCluster status data
      = (analyzeErrors status (r.failures application workloadCluster data)).map fun status =>
          (status, r.served application workloadCluster data) := by
  induction data generalizing status with
  | nil => rfl
  | cons dataset data ih =>
    rw [collectRequirements, failures, served, List.filterMap_cons, List.filterMap_cons]
    cases r.constructDataInfo application workloadCluster dataset with
    | error err =>
      simp only [analyzeErrors, List.foldlM_cons]
      cases analyzeError status dataset.dataSetID err with
      | none => rfl
      | some status' => exact ih status'
    | ok req =>
      simp only [ih]
      change _ = (analyzeErrors status (r.failures application workloadCluster data)).map _
      cases analyzeErrors status (r.failures application workloadCluster data) <;> rfl

variable {data : List DataContext}

theorem mem_failures {ie : String × String} :
    ie ∈ r.failures application workloadCluster data ↔ ∃ dataset ∈ data,
      dataset.dataSetID = ie.1 ∧
        r.constructDataInfo application workloadCluster dataset = .error ie.2 := by
  rw [failures, List.mem_filterMap]
  refine exists_congr fun dataset => and_congr_right fun _ => ?_
  cases r.constructDataInfo application workloadCluster dataset <;> simp [Prod.ext_iff]

variable {dataset : DataContext} {item : DataInfo}

theorem context_constructDataInfo
    (h : r.constructDataInfo application workloadCluster dataset = .ok item) :
    item.context = dataset := by
  unfold constructDataInfo at h
  split at h
  · cases h
  · split at h
    · cases h
    · cases h
      rfl

theorem mem_served :
    item ∈ r.served application workloadCluster data ↔ ∃ dataset ∈ data,
      r.constructDataInfo application workloadCluster dataset = .ok item := by
  rw [served, List.mem_filterMap]
  refine exists_congr fun dataset => and_congr_right fun _ => ?_
  cases r.constructDataInfo application workloadCluster dataset <;> simp [Except.toOption]

theorem Judged.append (h : r.Judged application workloadCluster errs status)
    {errs' : List (String × String)}
    (herrs : ∀ ie ∈ errs', ∃ ctx ∈ application.spec.data, ctx.dataSetID = ie.1) :
    ∃ status', analyzeErrors status errs' = some status' ∧
      r.Judged application workloadCluster (errs ++ errs') status' := by
  obtain ⟨status', hsome, htracked, hmarked⟩ := h.tracked.analyzeErrors herrs
  refine ⟨status', hsome, h.cluster, htracked, ?_⟩
  rw [List.map_append]
  exact h.marked.trans hmarked

/-- A status with the same conditions and the same summary is judged likewise. -/
theorem Judged.of_marked (h : r.Judged application workloadCluster errs status)
    (htracked : Tracked application.spec.data status') (hmarked : Marked [] status status') :
    r.Judged application workloadCluster errs status' := by
  refine ⟨h.cluster, htracked, ?_⟩
  rw [← List.append_nil (errs.map markOf)]
  exact h.marked.trans hmarked

theorem Built.of_marked (h : r.Built application workloadCluster p g status)
    (htracked : Tracked application.spec.data status') (hmarked : Marked [] status status') :
    r.Built application workloadCluster p g status' :=
  ⟨h.judged.of_marked htracked hmarked, h.served_ne, h.plotterGen, h.addFlows⟩

/-- Either the plotter is there in the end, or nothing has changed. -/
theorem createOrUpdateResource_cases (ref : ResourceReference) (plotterSpec : PlotterSpec) :
    (∃ err, r.createOrUpdateResource application ref plotterSpec plotters
        = (plotters, some err)) ∨
      ∃ plotters' plotter, r.createOrUpdateResource application ref plotterSpec plotters
          = (plotters', none) ∧
        plotters'.lookup ref.namespacedName = some plotter ∧ plotter.spec = plotterSpec ∧
        plotter.beingDeleted
          = ((plotters.lookup ref.namespacedName).getD default).beingDeleted := by
  unfold createOrUpdateResource
  cases r.api.readPlotter with
  | some err => exact Or.inl ⟨err, rfl⟩
  | none =>
    by_cases hexisting : (plotters.lookup ref.namespacedName).map Plotter.spec = some plotterSpec
    · obtain ⟨plotter, hlookup, hspec⟩ := Option.map_eq_some_iff.1 hexisting
      exact Or.inr ⟨plotters, plotter, by simp [hexisting], hlookup, hspec, by rw [hlookup]; rfl⟩
    · cases r.api.writePlotter with
      | some err => exact Or.inl ⟨err, by simp [hexisting]⟩
      | none =>
        simp only [hexisting, if_false]
        exact Or.inr ⟨_, _, rfl, AList.lookup_insert _, rfl, rfl⟩

/-- What follows the loop over the datasets once a plotter is built without errors. -/
theorem deploy_course (hbuilt : r.Built application workloadCluster p g status)
    (herr : ∀ id, status.isTrue errorConditionIndex id = false)
    (h : r.deploy application plotters status g = some res) :
    r.Course application plotters res := by
  unfold deploy at h
  have hstorage : ∀ provisioned, Tracked application.spec.data
        (r.updateProvisionedStorageStatus status provisioned).1 ∧
      Marked [] status (r.updateProvisionedStorageStatus status provisioned).1 :=
    fun provisioned => ⟨hbuilt.judged.tracked.congr rfl, fun index id => by
      simp [FybrikApplicationStatus.isTrue, updateProvisionedStorageStatus], rfl, rfl, rfl, rfl⟩
  obtain ⟨htracked₁, hmarked₁⟩ := hstorage g.provisionedStorage
  generalize r.updateProvisionedStorageStatus status g.provisionedStorage = updated at *
  obtain ⟨status₁, ready, allocationErr⟩ := updated
  have hbuilt₁ := hbuilt.of_marked htracked₁ hmarked₁
  cases ready with
  | false =>
    cases h
    exact .waiting hbuilt₁
  | true =>
    cases hendpoints : setReadModulesEndpoints application.spec.data g.plotterSpec.flows status₁ with
    | none => simp [hendpoints] at h
    | some status₂ =>
      simp only [hendpoints] at h
      obtain ⟨htracked₂, hmarked₂⟩ := setReadModulesEndpoints_marked htracked₁ hendpoints
      have hbuilt₂ := hbuilt₁.of_marked htracked₂ hmarked₂
      have herr₂ : ∀ id, status₂.isTrue errorConditionIndex id = false := by
        intro id
        rw [← Bool.not_eq_true, (hmarked₁.trans hmarked₂).isTrue, herr]
        simp
      rcases createOrUpdateResource_cases (r.plotterReference application) g.plotterSpec with
        ⟨err, hwrite⟩ | ⟨plotters', plotter, hwrite, hlookup, hspec, hmark⟩
      · rw [hwrite] at h
        split at h
        · rename_i heq
          obtain ⟨rfl, herr'⟩ := Prod.mk.inj heq
          obtain rfl := Option.some.inj herr'
          split at h
          · cases h
            exact .refused hbuilt₂
          · cases h
            exact .waiting hbuilt₂
        · rename_i heq
          exact absurd (Prod.mk.inj heq).2 (by simp)
      · rw [hwrite] at h
        cases h
        exact .deployed hbuilt₂ herr₂ hlookup hspec hmark

/-- The error messages are empty exactly if no dataset is in an error state. -/
theorem Judged.getErrorMessages_eq (h : r.Judged application workloadCluster errs status) :
    ∃ msg, getErrorMessages status = some msg ∧
      (msg = "" ↔ ∀ id, status.isTrue errorConditionIndex id = false) :=
  Fybrik.getErrorMessages_eq h.tracked
    (h.marked.errorMessage.trans (initStatus_fresh _ _).errorMessage)

/-- The errors of the datasets without a flow can be noted as well. -/
theorem Judged.rejections (h : r.Judged application workloadCluster
      (r.failures application workloadCluster application.spec.data) status)
    (p : PlotterGenerator) :
    ∃ status', analyzeErrors status
        (p.rejections application (r.served application workloadCluster application.spec.data))
          = some status' ∧
      r.Judged application workloadCluster
        (r.failures application workloadCluster application.spec.data ++
          p.rejections application (r.served application workloadCluster application.spec.data))
        status' := by
  refine h.append fun ie hie => ?_
  obtain ⟨item, hitem, hid, -⟩ := PlotterGenerator.mem_rejections.1 hie
  obtain ⟨dataset, hmem, hinfo⟩ := mem_served.1 hitem
  exact ⟨dataset, hmem, by rw [← hid, context_constructDataInfo hinfo]⟩

/-- The solution that is built, with the errors of the datasets without a flow noted. -/
theorem Built.buildSolution_eq (h : r.Built application workloadCluster p g status')
    (hnoted : analyzeErrors status
      (p.rejections application (r.served application workloadCluster application.spec.data))
        = some status') :
    r.buildSolution application status
      (r.served application workloadCluster application.spec.data) = some (.ok (status', g)) := by
  simp only [buildSolution, h.plotterGen, h.addFlows, hnoted, Option.map_some]

/-- What follows the loop over the datasets goes one of the ways listed. -/
theorem solve_solving (hjudged : r.Judged application workloadCluster
      (r.failures application workloadCluster application.spec.data) status) :
    r.Solving application plotters workloadCluster status (r.solve application plotters status
      (r.served application workloadCluster application.spec.data)) := by
  unfold solve
  by_cases hserved : r.served application workloadCluster application.spec.data = []
  · rw [hserved]
    exact .noneServed hserved
  · rw [if_neg fun hempty => hserved (List.isEmpty_iff.1 hempty)]
    cases hgen : r.plotterGen application with
    | error err =>
      simp only [buildSolution, hgen]
      exact .notListed hserved hgen
    | ok p =>
      cases hadd : p.addFlows application (p.newGeneration application)
          (r.served application workloadCluster application.spec.data) with
      | none =>
        simp only [buildSolution, hgen, hadd]
        exact .crashed hgen hadd
      | some gerrs =>
        obtain ⟨g, errs⟩ := gerrs
        obtain ⟨-, rfl, -⟩ := PlotterGenerator.addFlows_eq_some hadd
        obtain ⟨status', hnoted, hjudged'⟩ := hjudged.rejections p
        have hbuilt : r.Built application workloadCluster p g status' :=
          ⟨hjudged', hserved, hgen, hadd⟩
        obtain ⟨msg, hmsg, hiff⟩ := hjudged'.getErrorMessages_eq
        simp only [hbuilt.buildSolution_eq hnoted, hmsg]
        split
        · rename_i hne
          obtain ⟨id, hid⟩ := not_forall.1 (mt hiff.2 hne)
          exact .rejected hbuilt hnoted (Bool.not_eq_false _ ▸ hid)
        · rename_i hempty
          exact .accepted hbuilt hnoted (hiff.1 (not_not.1 hempty))

/-- The errors of the datasets that are turned down can be noted. -/
theorem exists_judged_failures
    (hcluster : r.getWorkloadCluster application = .ok workloadCluster) :
    ∃ status, analyzeErrors (initStatus application.spec.data application.status)
        (r.failures application workloadCluster application.spec.data) = some status ∧
      r.Judged application workloadCluster
        (r.failures application workloadCluster application.spec.data) status := by
  have hinit : r.Judged application workloadCluster []
      (initStatus application.spec.data application.status) :=
    ⟨hcluster, (initStatus_fresh _ _).tracked, Marked.refl _⟩
  refine hinit.append fun ie hie => ?_
  obtain ⟨dataset, hmem, hid, -⟩ := mem_failures.1 hie
  exact ⟨dataset, hmem, hid⟩

/-- A reconcile ends before the datasets are looked at, or it goes through all of them. -/
theorem reconcile_cases (r : FybrikApplicationReconciler) (application : FybrikApplication)
    (plotters : GoMap NamespacedName Plotter) :
    (∃ status err, r.reconcile application plotters = some ⟨status, none, plotters, err⟩ ∧
      r.Course application plotters ⟨status, none, plotters, err⟩) ∨
    application.spec.data ≠ [] ∧ ∃ workloadCluster status,
      r.Judged application workloadCluster
        (r.failures application workloadCluster application.spec.data) status ∧
      r.Solving application plotters workloadCluster status (r.reconcile application plotters) := by
  unfold reconcile
  by_cases hdata : application.spec.data = []
  · exact Or.inl ⟨_, _, if_pos (List.isEmpty_iff.2 hdata), .noData hdata⟩
  · rw [if_neg fun hempty => hdata (List.isEmpty_iff.1 hempty)]
    cases hcluster : r.getWorkloadCluster application with
    | error err => exact Or.inl ⟨_, _, rfl, .noCluster hdata hcluster⟩
    | ok workloadCluster =>
      obtain ⟨status, hstatus, hjudged⟩ := exists_judged_failures hcluster
      refine Or.inr ⟨hdata, workloadCluster, status, hjudged, ?_⟩
      simp only [collectRequirements_eq, hstatus, Option.map_some]
      exact solve_solving hjudged

/-- Every reconcile goes one of the ways listed. -/
theorem reconcile_course (h : r.reconcile application plotters = some res) :
    r.Course application plotters res := by
  rcases r.reconcile_cases application plotters with
    ⟨status, err, heq, hcourse⟩ | ⟨hdata, workloadCluster, status, hjudged, hsolving⟩
  · cases heq.symm.trans h
    exact hcourse
  · generalize r.reconcile application plotters = solved at h hsolving
    cases hsolving with
    | noneServed hserved =>
      cases h
      exact .noneServed hdata hjudged hserved
    | notListed _ hgen =>
      cases h
      exact .notListed hdata hjudged hgen
    | crashed => cases h
    | rejected hbuilt _ herr =>
      cases h
      exact .rejected hbuilt herr
    | accepted hbuilt _ herr => exact deploy_course hbuilt herr h

/-- The conditions that are true are those of the errors noted. -/
theorem Judged.isTrue_iff (h : r.Judged application workloadCluster errs status)
    {index : ℕ} {id : String} :
    status.isTrue index id = true ↔ ∃ ie ∈ errs, markOf ie = (index, id) := by
  rw [h.marked.isTrue, (initStatus_fresh _ _).isTrue, List.mem_map]
  simp

/-- A dataset is in an error or denied state exactly if there is an error for it. -/
theorem Judged.blocked_iff (h : r.Judged application workloadCluster errs status) {id : String} :
    (status.isTrue errorConditionIndex id = true ∨ status.isTrue denyConditionIndex id = true) ↔
      ∃ ie ∈ errs, ie.1 = id := by
  rw [h.isTrue_iff, h.isTrue_iff]
  constructor
  · rintro (⟨ie, hie, hmark⟩ | ⟨ie, hie, hmark⟩)
    · exact ⟨ie, hie, (Prod.mk.inj hmark).2⟩
    · exact ⟨ie, hie, (Prod.mk.inj hmark).2⟩
  · rintro ⟨ie, hie, rfl⟩
    by_cases hdenial : isDenial ie.2 = true
    · exact Or.inr ⟨ie, hie, by rw [markOf, if_pos hdenial]⟩
    · exact Or.inl ⟨ie, hie, by rw [markOf, if_neg hdenial]⟩

/-! ## Conflicting configuration policies -/

variable (r) (application)

/-- The configuration policies for a dataset are in conflict: the evaluator returns
an output that is not valid, and no error. -/
def Conflicting (dataset : DataContext) : Prop :=
  ∃ workloadCluster response input output,
    r.getWorkloadCluster application = .ok workloadCluster ∧
    r.evaluatorInput application workloadCluster dataset = .ok (response, input) ∧
    r.configEvaluator input = (output, none) ∧ output.valid = false

/-- A reconcile keeps every dataset with conflicting policies out of the plotter and
reports it. -/
def BlocksConflicts (res : Reconciled) : Prop :=
  ∀ dataset ∈ application.spec.data, r.Conflicting application dataset →
    (∀ spec, res.plotterSpec = some spec → dataset.dataSetID ∉ spec.flows.map Flow.assetID) ∧
    (res.status.isTrue errorConditionIndex dataset.dataSetID = true ∨
      res.status.isTrue denyConditionIndex dataset.dataSetID = true)

/-- What must stop a dataset with conflicting policies, as the conflict itself does
not: no flow can be generated for it, or, if modules, storage accounts and clusters
cannot be listed, it is listed a second time and turned down there. -/
def ConflictsStopped : Prop :=
  ∀ dataset ∈ application.spec.data, r.Conflicting application dataset →
    ∀ workloadCluster, r.getWorkloadCluster application = .ok workloadCluster →
      (∀ p, r.plotterGen application = .ok p → ∀ dataset' ∈ application.spec.data,
        dataset'.dataSetID = dataset.dataSetID → ∀ item,
          r.constructDataInfo application workloadCluster dataset' = .ok item →
            (p.generateFlow application item).toOption = none) ∧
      (∀ err, r.plotterGen application = .error err → ∃ dataset' ∈ application.spec.data,
        dataset'.dataSetID = dataset.dataSetID ∧ ∃ err',
          r.constructDataInfo application workloadCluster dataset' = .error err')

variable {r} {application}

/-- A dataset with conflicting policies is served all the same. -/
theorem Conflicting.exists_constructDataInfo (h : r.Conflicting application dataset)
    (hcluster : r.getWorkloadCluster application = .ok workloadCluster) :
    ∃ item, r.constructDataInfo application workloadCluster dataset = .ok item := by
  obtain ⟨cluster, response, input, output, hcluster', hinput, heval, -⟩ := h
  obtain rfl := Except.ok.inj (hcluster.symm.trans hcluster')
  simp only [constructDataInfo, hinput, heval]
  exact ⟨_, rfl⟩

/-- With a plotter built: a dataset with conflicting policies is kept out and
reported exactly if no flow can be generated for it. -/
theorem Built.blocks_iff (h : r.Built application workloadCluster p g status)
    (hdataset : dataset ∈ application.spec.data)
    (hitem : r.constructDataInfo application workloadCluster dataset = .ok item) :
    (dataset.dataSetID ∉ g.plotterSpec.flows.map Flow.assetID ∧
      (status.isTrue errorConditionIndex dataset.dataSetID = true ∨
        status.isTrue denyConditionIndex dataset.dataSetID = true)) ↔
      ∀ dataset' ∈ application.spec.data, dataset'.dataSetID = dataset.dataSetID → ∀ item,
        r.constructDataInfo application workloadCluster dataset' = .ok item →
          (p.generateFlow application item).toOption = none := by
  rw [PlotterGenerator.mem_assetIDs_addFlows h.addFlows, h.judged.blocked_iff]
  constructor
  · rintro ⟨hflow, -⟩ dataset' hdataset' hid item' hitem'
    cases hgenerate : p.generateFlow application item' with
    | error abort => rfl
    | ok info =>
      refine absurd ⟨item', mem_served.2 ⟨dataset', hdataset', hitem'⟩, ?_, info, hgenerate⟩ hflow
      rw [context_constructDataInfo hitem', hid]
  · intro hall
    refine ⟨?_, ?_⟩
    · rintro ⟨item', hitem', hid, info, hgenerate⟩
      obtain ⟨dataset', hdataset', hinfo⟩ := mem_served.1 hitem'
      rw [context_constructDataInfo hinfo] at hid
      have hnone := hall dataset' hdataset' hid item' hinfo
      rw [hgenerate] at hnone
      exact absurd hnone (by simp [Except.toOption])
    · have hserved := mem_served.2 ⟨dataset, hdataset, hitem⟩
      have hnone := hall dataset hdataset rfl item hitem
      have hpanic := (PlotterGenerator.addFlows_eq_some h.addFlows).2.2 item hserved
      cases hgenerate : p.generateFlow application item with
      | ok info => simp [hgenerate, Except.toOption] at hnone
      | error abort =>
        cases abort with
        | panic => exact absurd hgenerate hpanic
        | failed provisioned err =>
          refine ⟨(dataset.dataSetID, err), List.mem_append_right _ ?_, rfl⟩
          refine PlotterGenerator.mem_rejections.2 ⟨item, hserved, ?_, provisioned, hgenerate⟩
          rw [context_constructDataInfo hitem]

theorem Built.blocksConflicts_iff
    (h : r.Built application workloadCluster p g status)
    (hspec : res.plotterSpec = some g.plotterSpec)
    (hstates : res.status.assetStates = status.assetStates) :
    r.BlocksConflicts application res ↔ r.ConflictsStopped application := by
  refine forall_congr' fun dataset => forall_congr' fun hdataset => forall_congr' fun hconf => ?_
  obtain ⟨item, hitem⟩ := hconf.exists_constructDataInfo h.judged.cluster
  simp only [hspec, isTrue_congr hstates, Option.some.injEq, forall_eq', h.blocks_iff hdataset hitem,
    h.judged.cluster, h.plotterGen, Except.ok.injEq, reduceCtorEq, false_imp_iff, implies_true,
    and_true]

/-- When conflicting configuration policies keep datasets out of the plotter. -/
theorem reconcile_blocksConflicts_iff (r : FybrikApplicationReconciler)
    (application : FybrikApplication) (plotters : GoMap NamespacedName Plotter) (res : Reconciled)
    (h : r.reconcile application plotters = some res) :
    r.BlocksConflicts application res ↔ r.ConflictsStopped application := by
  cases reconcile_course h with
  | noData hdata =>
    rw [BlocksConflicts, ConflictsStopped, hdata]
    exact iff_of_true (by simp) (by simp)
  | noCluster hdata hcluster =>
    -- no policy is evaluated
    have hnone : ∀ dataset, ¬ r.Conflicting application dataset := by
      rintro dataset ⟨cluster, -, -, -, hcluster', -⟩
      cases hcluster.symm.trans hcluster'
    exact iff_of_true (fun dataset _ hconf => absurd hconf (hnone dataset))
      (fun dataset _ hconf => absurd hconf (hnone dataset))
  | noneServed hdata hjudged hserved =>
    have hnone : ∀ dataset ∈ application.spec.data, ¬ r.Conflicting application dataset := by
      intro dataset hdataset hconf
      obtain ⟨item, hitem⟩ := hconf.exists_constructDataInfo hjudged.cluster
      have hmem := mem_served.2 ⟨dataset, hdataset, hitem⟩
      rw [hserved] at hmem
      cases hmem
    exact iff_of_true (fun dataset hd hconf => absurd hconf (hnone dataset hd))
      (fun dataset hd hconf => absurd hconf (hnone dataset hd))
  | notListed hdata hjudged hgen =>
    refine forall_congr' fun dataset => forall_congr' fun hdataset =>
      forall_congr' fun hconf => ?_
    simp only [hjudged.blocked_iff, hjudged.cluster, hgen, Except.ok.injEq, Except.error.injEq,
      reduceCtorEq, false_imp_iff, implies_true, true_and, forall_eq']
    constructor
    · rintro ⟨ie, hie, hid⟩
      obtain ⟨dataset', hdataset', hid', herr⟩ := mem_failures.1 hie
      exact ⟨dataset', hdataset', hid'.trans hid, ie.2, herr⟩
    · rintro ⟨dataset', hdataset', hid, err, herr⟩
      exact ⟨(dataset'.dataSetID, err), mem_failures.2 ⟨dataset', hdataset', rfl, herr⟩, hid⟩
  | rejected hbuilt _ => exact hbuilt.blocksConflicts_iff rfl rfl
  | waiting hbuilt => exact hbuilt.blocksConflicts_iff rfl rfl
  | refused hbuilt => exact hbuilt.blocksConflicts_iff rfl rfl
  | deployed hbuilt => exact hbuilt.blocksConflicts_iff rfl rfl

/-- An evaluator with two rules about reading that contradict each other. -/
def conflictEvaluator : RegoPolicyEvaluator :=
  { prepareInputForOPA := fun _ => .ok .null
    query := fun _ => .ok [[.null]]
    validateStructure := fun _ => none
    unmarshal := fun _ => .ok
      [⟨"read", { (default : Decision) with deploy := .statusTrue }⟩,
       ⟨"read", { (default : Decision) with deploy := .statusFalse }⟩] }

/-- A reconciler with some modules, which finds every dataset to be a parquet file
that may be read, and contradicting configuration policies for it. -/
def conflictReconciler (modules : GoMap String FybrikModule) : FybrikApplicationReconciler :=
  { (default : FybrikApplicationReconciler) with
    name := "fybrik-application"
    taxonomy := ⟨fun _ => none, fun _ _ => none, fun _ => none⟩
    dataCatalog := ⟨fun _ _ => .ok
      { (default : GetAssetResponse) with details := ⟨⟨"s3", ∅⟩, "parquet"⟩ }⟩
    policyManager := ⟨fun _ _ => .ok ⟨"1", []⟩⟩
    configEvaluator := conflictEvaluator.evaluate
    clusters := .ok [⟨"hobbiton", ⟨"theshire", "", ""⟩⟩]
    modules := .ok modules
    storageAccounts := .ok []
    templateEngine := ⟨fun _ => none, fun text _ => .ok text⟩ }

/-- An application that reads a dataset over arrow-flight. -/
def datasetApplication (datasetID : String) : FybrikApplication :=
  { PlotterGenerator.shireApplication with
    name := "notebook"
    «namespace» := "default"
    generation := 1
    spec := { PlotterGenerator.shireApplication.spec with
      data := [⟨datasetID, ⟨⟨"arrow-flight", "arrow"⟩, default⟩⟩] } }

/-- Without a module there is no data path, so the dataset is reported. -/
theorem reconcile_blocksConflicts_without_modules :
    ∃ res, (conflictReconciler ∅).reconcile (datasetApplication "xxx") ∅ = some res ∧
      (conflictReconciler ∅).BlocksConflicts (datasetApplication "xxx") res := by
  refine ⟨_, rfl, (reconcile_blocksConflicts_iff _ _ ∅ _ rfl).2 ?_⟩
  intro dataset _ _ workloadCluster hcluster
  cases hcluster
  refine ⟨fun p hp dataset' hdataset' _ item hitem => ?_, fun err herr => ?_⟩
  · cases hp
    obtain rfl := List.mem_singleton.1 hdataset'
    cases hitem
    rfl
  · exact absurd herr (by simp [plotterGen, conflictReconciler])

/-- With a module that can read it, the dataset is served in spite of the conflict. -/
theorem reconcile_parquet_not_blocksConflicts :
    ∃ res, (conflictReconciler (GoMap.ofList
        [("parquet-reader", PlotterGenerator.readerModule "parquet-reader" ⟨"s3", "parquet"⟩)])
        ).reconcile (datasetApplication "xxx") ∅ = some res ∧
      ¬ (conflictReconciler (GoMap.ofList
        [("parquet-reader", PlotterGenerator.readerModule "parquet-reader" ⟨"s3", "parquet"⟩)])
        ).BlocksConflicts (datasetApplication "xxx") res := by
  refine ⟨_, rfl, ?_⟩
  intro h
  have hflow := (h _ List.mem_cons_self ⟨_, _, _, _, rfl, rfl, rfl, rfl⟩).1 _ rfl
  exact hflow (by decide)

end FybrikApplicationReconciler

end Fybrik
