import Fybrik.Api.Resources
import Fybrik.Select.Validate
import Fybrik.Utils.Names

/-!
# The plotter generator

`plotter_generator.go` and the loop of `buildSolution`: the selected data path
of each dataset becomes a flow of the plotter, with a step for each edge.

* `generateFlow` — what `AddFlowInfoForAsset` computes for one dataset.  It only
  writes to the shared state, so it is a function of the dataset alone, and
  `addFlowInfoForAsset` applies its result to the plotter under construction.
* `addFlows` — the loop over the datasets.
* `selectedPaths` — the data paths behind the flows of the plotter.
* `addFlows_runsSelected_iff` — when every step finds its own module in the
  template it refers to.
-/

namespace Fybrik

/-! ## Storage for copies -/

/-- Why the generation of a flow ends early: the program crashes, or an error is
returned.  In the second case the buckets provisioned so far stay recorded. -/
inductive Abort where
  | panic
  | failed (provisioned : List (String × ProvisionedBucket)) (err : String)
  deriving DecidableEq

/-- The credentials of a secret kept in vault. -/
def vaultSecret (settings : Settings) (secretPath : String) : Vault :=
  if settings.vaultEnabled then
    { role := settings.modulesRole, secretPath := secretPath, address := settings.vaultAddress
      authPath := "" }
  else default

namespace PlotterGenerator

variable (p : PlotterGenerator)

/-- `AllocateBucket`: the first storage account with an endpoint in the geography. -/
def allocateBucket (bucketName geo : String) : Except String ProvisionedBucket :=
  match p.storageAccounts with
  | .error err => .error err
  | .ok accounts =>
    match accounts.findSome? fun account =>
        (account.endpoints.lookup geo).map fun endpoint => (account, endpoint) with
    | some (account, endpoint) => .ok
        { name := bucketName, endpoint := endpoint
          secretRef := ⟨account.secretRef, p.settings.systemNamespace⟩ }
    | none => .error ("could not allocate a bucket in " ++ geo)

/-- The object key of the copy of a dataset. -/
def copyObjectKey (item : DataInfo) : String :=
  if item.dataDetails.resourceMetadata.name ≠ "" then
    item.dataDetails.resourceMetadata.name ++
      hash p.sha512 (p.owner.name ++ p.owner.namespace) 10
  else p.owner.name ++ hash p.sha512 item.context.dataSetID 10

/-- `GetCopyDestination`: the data store a dataset is copied to, and the bucket
that is recorded for the dataset. -/
def getCopyDestination (item : DataInfo) (destinationInterface : Option InterfaceDetails)
    (geo : String) (provisioned : List (String × ProvisionedBucket)) :
    Except Abort (DataStore × List (String × ProvisionedBucket)) :=
  match p.allocateBucket (generateBucketName p.sha512 p.owner item.context.dataSetID) geo with
  | .error err => .error (.failed provisioned err)
  | .ok bucket =>
    match p.provision.createDataset ⟨bucket.name, p.settings.systemNamespace⟩ bucket p.owner with
    | some err => .error (.failed provisioned err)
    | none =>
      match destinationInterface with
      | none => .error .panic
      | some destination =>
        let vault := vaultSecret p.settings
          (pathForReadingKubeSecret bucket.secretRef.namespace bucket.secretRef.name)
        .ok ({ vault := GoMap.ofList [(DataFlow.writeFlow.text, vault),
                 (DataFlow.readFlow.text, vault)]
               connection := ⟨"s3", GoMap.ofList [("s3", .obj
                 [("endpoint", .str bucket.endpoint), ("bucket", .str bucket.name),
                  ("object_key", .str (p.copyObjectKey item))])]⟩
               format := destination.dataFormat },
             provisioned ++ [(item.context.dataSetID, bucket)])

/-! ## The API of a module -/

/-- The instance whose service an API describes: `moduleAPIToService` takes the
asset into account for modules with one instance per asset. -/
def apiInstanceName (scope : CapabilityScope) (moduleName assetID : String) : String :=
  if scope = .asset then createStepName p.sha512 moduleName assetID else moduleName

/-- What `moduleAPIToService` passes to the API templates. -/
def apiTemplateArgs (scope : CapabilityScope) (appContext : FybrikApplication)
    (moduleName assetID : String) : APITemplateArgs :=
  { release :=
      { name := getReleaseName p.sha512 appContext.name appContext.namespace
          (p.apiInstanceName scope moduleName assetID)
        «namespace» := p.settings.getDefaultModulesNamespace }
    labels := appContext.labels }

/-- One turn of the loop over the properties of the connection: a text is
executed as a template, anything else is copied. -/
def renderProperty (args : APITemplateArgs) : String × Json → Except String (String × Json)
  | (key, .str templateStr) =>
    match p.templateEngine.parse templateStr with
    | some err => .error ("could not parse " ++ templateStr ++ " as a template: " ++ err)
    | none =>
      match p.templateEngine.execute templateStr args with
      | .error err => .error ("could not process template " ++ templateStr ++ ": " ++ err)
      | .ok newValue => .ok (key, .str newValue)
  | (key, val) => .ok (key, val)

/-- `moduleAPIToService`.  It crashes if the connection has no object under its
own name. -/
def moduleAPIToService (api : ResourceDetails) (scope : CapabilityScope)
    (appContext : FybrikApplication) (moduleName assetID : String) :
    Option (Except String ResourceDetails) :=
  match api.connection.additionalProperties.lookup api.connection.name with
  | some (.obj props) => some
    (match props.mapM (p.renderProperty (p.apiTemplateArgs scope appContext moduleName assetID)) with
    | .error err => .error err
    | .ok newProps => .ok
        { connection := ⟨api.connection.name,
            GoMap.ofList [(api.connection.name, .obj newProps)]⟩
          dataFormat := api.dataFormat })
  | _ => none

/-! ## The flow of a dataset -/

end PlotterGenerator

/-- The module of an edge as a template names it. -/
def ResolvedEdge.moduleInfo (e : ResolvedEdge) : ModuleInfo :=
  { name := e.module.name, type := e.module.spec.type, chart := e.module.spec.chart
    scope := e.capability.scope }

/-- The template of an edge: it is named after the capability. -/
def ResolvedEdge.template (e : ResolvedEdge) : Template :=
  { name := e.capability.capability, modules := [e.moduleInfo] }

/-- The variables of `AddFlowInfoForAsset` while it walks the selected path. -/
structure PathState where
  provisioned : List (String × ProvisionedBucket)
  assets : GoMap String AssetDetails
  templates : List Template
  subflows : List SubFlow
  /-- The asset the next step reads: the dataset, or its latest copy. -/
  datasetID : String
  deriving DecidableEq

/-- What is added to the plotter for a dataset. -/
structure FlowInfo where
  provisioned : List (String × ProvisionedBucket)
  flow : Flow
  assets : GoMap String AssetDetails
  templates : List Template
  deriving DecidableEq

namespace PlotterGenerator

variable (p : PlotterGenerator) (application : FybrikApplication)

/-- The service of a step, if its capability has an API. -/
def stepAPI (e : ResolvedEdge) (datasetID : String) :
    Option (Except String (Option ResourceDetails)) :=
  match e.capability.api with
  | none => some (.ok none)
  | some api => (p.moduleAPIToService api e.capability.scope application e.module.name
      datasetID).map fun service => service.map some

/-- The subflow of an edge that copies to `copyAssetID`. -/
def copySubFlow (e : ResolvedEdge) (datasetID copyAssetID : String)
    (api : Option ResourceDetails) : SubFlow :=
  { name := "", flowType := .copyFlow, triggers := [.initTrigger]
    steps := [[{ name := "", cluster := e.cluster, template := e.capability.capability
                 parameters := some
                  { source := some ⟨datasetID, none⟩, sink := some ⟨copyAssetID⟩, api := api
                    actions := e.actions } }]] }

/-- The subflow of an edge that the workload reads from. -/
def readSubFlow (e : ResolvedEdge) (datasetID : String) (api : Option ResourceDetails) : SubFlow :=
  { name := "", flowType := .readFlow, triggers := [.workloadTrigger]
    steps := [[{ name := "", cluster := e.cluster, template := e.capability.capability
                 parameters := some
                  { source := some ⟨datasetID, none⟩, sink := none, api := api
                    actions := e.actions } }]] }

/-- One turn of the loop of `AddFlowInfoForAsset`. -/
def addElement (item : DataInfo) (st : PathState) (e : ResolvedEdge) : Except Abort PathState :=
  match p.stepAPI application e st.datasetID with
  | none => .error .panic
  | some (.error err) => .error (.failed st.provisioned err)
  | some (.ok api) =>
    if !e.sink.virtual then
      -- allocate storage and create a temporary asset
      match p.getCopyDestination item e.sink.connection e.storageAccountRegion st.provisioned with
      | .error abort => .error abort
      | .ok (sinkDataStore, provisioned) =>
        let copyAssetID := st.datasetID ++ "-copy"
        .ok { provisioned := provisioned
              assets := st.assets.set copyAssetID ⟨st.datasetID, sinkDataStore⟩
              templates := st.templates ++ [e.template]
              subflows := st.subflows ++ [copySubFlow e st.datasetID copyAssetID api]
              datasetID := copyAssetID }
    else
      .ok { st with
        templates := st.templates ++ [e.template]
        subflows := st.subflows ++ [readSubFlow e st.datasetID api] }

/-- The state before the loop: the dataset itself is the only asset. -/
def startState (item : DataInfo) : PathState :=
  { provisioned := []
    assets := GoMap.ofList [(item.context.dataSetID,
      { advertisedAssetID := ""
        dataStore :=
          { vault := GoMap.ofList [(DataFlow.readFlow.text,
              vaultSecret p.settings item.dataDetails.credentials)]
            connection := item.dataDetails.details.connection
            format := item.dataDetails.details.dataFormat } })]
    templates := []
    subflows := []
    datasetID := item.context.dataSetID }

/-- The data path chosen for a dataset: the first one found. -/
def selectPath (item : DataInfo) : Option (List ResolvedEdge) :=
  (p.findPaths item application).head?.map Solution.dataPath

/-- What `AddFlowInfoForAsset` computes for a dataset. -/
def generateFlow (item : DataInfo) : Except Abort FlowInfo :=
  match p.selectPath application item with
  | none => .error (.failed [] ("Deployed modules do not provide the functionality required to " ++
      "construct a data path" ++ " for " ++ item.context.dataSetID))
  | some path =>
    match path.foldlM (p.addElement application item) (p.startState item) with
    | .error abort => .error abort
    | .ok st =>
      match st.subflows.getLast? with
      | none => .error .panic
      | some lastSubFlow => .ok
          { provisioned := st.provisioned
            flow :=
              { name := item.context.dataSetID ++ "-" ++ lastSubFlow.flowType.text
                flowType := lastSubFlow.flowType
                assetID := item.context.dataSetID
                subFlows := st.subflows }
            assets := st.assets
            templates := st.templates }

/-! ## The plotter under construction -/

end PlotterGenerator

/-- What is shared by the datasets: the provisioned storage and the plotter. -/
structure Generation where
  provisionedStorage : GoMap String ProvisionedBucket
  plotterSpec : PlotterSpec
  deriving DecidableEq

/-- Adding the flow of a dataset to the plotter. -/
def PlotterSpec.addFlow (spec : PlotterSpec) (info : FlowInfo) : PlotterSpec :=
  { spec with
    flows := spec.flows ++ [info.flow]
    assets := spec.assets.setAll info.assets.pairs
    templates := spec.templates.setAll (info.templates.map fun t => (t.name, t)) }

namespace PlotterGenerator

variable (p : PlotterGenerator) (application : FybrikApplication)

/-- `AddFlowInfoForAsset`: the new state and the error, or nothing if the program
crashes. -/
def addFlowInfoForAsset (g : Generation) (item : DataInfo) : Option (Generation × Option String) :=
  match p.generateFlow application item with
  | .error .panic => none
  | .error (.failed provisioned err) =>
    some ({ g with provisionedStorage := g.provisionedStorage.setAll provisioned }, some err)
  | .ok info =>
    some ({ provisionedStorage := g.provisionedStorage.setAll info.provisioned
            plotterSpec := g.plotterSpec.addFlow info }, none)

/-- The state `buildSolution` starts from. -/
def newGeneration : Generation :=
  { provisionedStorage := ∅
    plotterSpec :=
      { selector := application.spec.selector, assets := ∅, flows := []
        modulesNamespace := p.settings.getDefaultModulesNamespace, templates := ∅ } }

/-- The loop of `buildSolution` over the datasets: the final state, and the error
of each dataset that could not be added. -/
def addFlows : Generation → List DataInfo → Option (Generation × List (String × String))
  | g, [] => some (g, [])
  | g, item :: requirements =>
    match p.addFlowInfoForAsset application g item with
    | none => none
    | some (g', err) =>
      match addFlows g' requirements with
      | none => none
      | some (g'', errs) =>
        some (g'', (err.map fun e => (item.context.dataSetID, e)).toList ++ errs)

/-! ## What a flow consists of -/

/-- The asset that is read after an edge: an edge that copies makes a new one. -/
def nextID (id : String) (e : ResolvedEdge) : String :=
  if e.sink.virtual then id else id ++ "-copy"

/-- The asset that is read after some edges. -/
def runningID (id : String) (path : List ResolvedEdge) : String := path.foldl nextID id

/-- The subflow generated for an edge that reads the asset `id`. -/
def GeneratedFrom (p : PlotterGenerator) (application : FybrikApplication) (id : String)
    (e : ResolvedEdge) (subFlow : SubFlow) : Prop :=
  ∃ api, p.stepAPI application e id = some (.ok api) ∧
    subFlow = if e.sink.virtual then readSubFlow e id api
      else copySubFlow e id (id ++ "-copy") api

/-- The subflows generated for the edges of a path, the first of which reads the
asset `id`. -/
inductive StepsFrom (p : PlotterGenerator) (application : FybrikApplication) :
    String → List ResolvedEdge → List SubFlow → Prop
  | nil (id : String) : StepsFrom p application id [] []
  | cons {id : String} {e : ResolvedEdge} {path : List ResolvedEdge} {subFlow : SubFlow}
      {subFlows : List SubFlow} (head : GeneratedFrom p application id e subFlow)
      (tail : StepsFrom p application (nextID id e) path subFlows) :
      StepsFrom p application id (e :: path) (subFlow :: subFlows)

variable {p application} {path : List ResolvedEdge} {id : String} {subFlows : List SubFlow}

theorem StepsFrom.append {e : ResolvedEdge} {subFlow : SubFlow}
    (h : StepsFrom p application id path subFlows)
    (he : GeneratedFrom p application (runningID id path) e subFlow) :
    StepsFrom p application id (path ++ [e]) (subFlows ++ [subFlow]) := by
  induction h with
  | nil id => exact .cons he (.nil _)
  | cons head _ ih => exact .cons head (ih he)

/-- What the loop over a path maintains. -/
structure Walked (p : PlotterGenerator) (application : FybrikApplication) (item : DataInfo)
    (path : List ResolvedEdge) (st : PathState) : Prop where
  templates : st.templates = path.map ResolvedEdge.template
  datasetID : st.datasetID = runningID item.context.dataSetID path
  subflows : StepsFrom p application item.context.dataSetID path st.subflows

variable {item : DataInfo}

/-- One edge: its template and its subflow are added. -/
theorem addElement_walked {st : PathState} (h : Walked p application item path st)
    (e : ResolvedEdge) :
    Loops.Ends (Walked p application item (path ++ [e])) (fun _ => True)
      (p.addElement application item st e) := by
  have hid : runningID item.context.dataSetID (path ++ [e]) = nextID st.datasetID e := by
    rw [h.datasetID, runningID, runningID, List.foldl_append]
    rfl
  have htemplates : st.templates ++ [e.template] = (path ++ [e]).map ResolvedEdge.template := by
    rw [h.templates, List.map_append, List.map_singleton]
  unfold addElement
  split
  · trivial
  · trivial
  · rename_i api hapi
    cases hvirtual : e.sink.virtual with
    | true =>
      refine ⟨htemplates, ?_, h.subflows.append ⟨api, ?_, ?_⟩⟩
      · rw [hid, nextID, if_pos hvirtual]
      · rw [← h.datasetID, hapi]
      · rw [if_pos hvirtual, h.datasetID]
    | false =>
      simp only [Bool.not_false, if_true]
      split
      · trivial
      · refine ⟨htemplates, ?_, h.subflows.append ⟨api, ?_, ?_⟩⟩
        · rw [hid, nextID, if_neg (by rw [hvirtual]; exact Bool.false_ne_true)]
        · rw [← h.datasetID, hapi]
        · rw [if_neg (by rw [hvirtual]; exact Bool.false_ne_true), h.datasetID]

/-- What is generated for a dataset comes from its selected path. -/
theorem generateFlow_eq_ok {info : FlowInfo} (h : p.generateFlow application item = .ok info) :
    ∃ path, p.selectPath application item = some path ∧
      info.templates = path.map ResolvedEdge.template ∧
      info.flow.assetID = item.context.dataSetID ∧
      StepsFrom p application item.context.dataSetID path info.flow.subFlows := by
  unfold generateFlow at h
  split at h
  · cases h
  · rename_i path hpath
    have hwalked : Loops.Ends (Walked p application item path) (fun _ => True)
        (path.foldlM (p.addElement application item) (p.startState item)) :=
      Loops.foldlM_ends (P := Walked p application item) (fun _ _ e hst => addElement_walked hst e)
        [] path ⟨rfl, rfl, .nil _⟩
    split at h
    · cases h
    · rename_i st hst
      rw [hst] at hwalked
      split at h
      · cases h
      · cases h
        exact ⟨path, hpath, hwalked.templates, rfl, hwalked.subflows⟩

/-! ## What the plotter consists of -/

/-- The flows that can be generated for some datasets. -/
def generatedFlows (p : PlotterGenerator) (application : FybrikApplication)
    (requirements : List DataInfo) : List FlowInfo :=
  requirements.filterMap fun item => (p.generateFlow application item).toOption

/-- The errors of the datasets no flow can be generated for. -/
def rejections (p : PlotterGenerator) (application : FybrikApplication)
    (requirements : List DataInfo) : List (String × String) :=
  requirements.filterMap fun item =>
    match p.generateFlow application item with
    | .error (.failed _ err) => some (item.context.dataSetID, err)
    | _ => none

variable {g : Generation} {g' : Generation}

/-- What one dataset adds: its buckets, and its flow or an error. -/
theorem addFlowInfoForAsset_cases {err : Option String}
    (h : p.addFlowInfoForAsset application g item = some (g', err)) :
    (∃ provisioned msg, p.generateFlow application item = .error (.failed provisioned msg) ∧
      g' = { g with provisionedStorage := g.provisionedStorage.setAll provisioned } ∧
      err = some msg) ∨
    ∃ info, p.generateFlow application item = .ok info ∧
      g' = ⟨g.provisionedStorage.setAll info.provisioned, g.plotterSpec.addFlow info⟩ ∧
      err = none := by
  unfold addFlowInfoForAsset at h
  split at h
  · cases h
  · rename_i provisioned msg hflow
    cases h
    exact Or.inl ⟨provisioned, msg, hflow, rfl, rfl⟩
  · rename_i info hflow
    cases h
    exact Or.inr ⟨info, hflow, rfl, rfl⟩

variable {requirements : List DataInfo} {errs : List (String × String)}

theorem addFlows_cons_eq_some
    (h : p.addFlows application g (item :: requirements) = some (g', errs)) :
    ∃ g₁ err errs', p.addFlowInfoForAsset application g item = some (g₁, err) ∧
      p.addFlows application g₁ requirements = some (g', errs') ∧
      errs = (err.map fun e => (item.context.dataSetID, e)).toList ++ errs' := by
  rw [addFlows] at h
  split at h
  · cases h
  · rename_i g₁ err hadd
    split at h
    · cases h
    · rename_i g₂ errs' hrest
      cases h
      exact ⟨g₁, err, errs', hadd, hrest, rfl⟩

/-- What the loop over the datasets returns: the plotter consists of the flows that
can be generated, and the other datasets have an error. -/
theorem addFlows_eq_some (h : p.addFlows application g requirements = some (g', errs)) :
    g'.plotterSpec
        = (p.generatedFlows application requirements).foldl PlotterSpec.addFlow g.plotterSpec ∧
      errs = p.rejections application requirements ∧
      ∀ item ∈ requirements, p.generateFlow application item ≠ .error .panic := by
  induction requirements generalizing g errs with
  | nil =>
    cases h
    exact ⟨rfl, rfl, nofun⟩
  | cons item requirements ih =>
    obtain ⟨g₁, err, errs', hadd, hrest, rfl⟩ := addFlows_cons_eq_some h
    obtain ⟨hspec, rfl, hpanic⟩ := ih hrest
    rw [hspec, generatedFlows, generatedFlows, rejections, rejections, List.filterMap_cons,
      List.filterMap_cons, List.forall_mem_cons]
    rcases addFlowInfoForAsset_cases hadd with
      ⟨provisioned, msg, hflow, rfl, rfl⟩ | ⟨info, hflow, rfl, rfl⟩
    · rw [hflow]
      exact ⟨rfl, rfl, by simp, hpanic⟩
    · rw [hflow]
      exact ⟨rfl, rfl, by simp, hpanic⟩

theorem mem_rejections {ie : String × String} :
    ie ∈ p.rejections application requirements ↔ ∃ item ∈ requirements,
      item.context.dataSetID = ie.1 ∧ ∃ provisioned,
        p.generateFlow application item = .error (.failed provisioned ie.2) := by
  rw [rejections, List.mem_filterMap]
  refine exists_congr fun item => and_congr_right fun _ => ?_
  cases p.generateFlow application item with
  | ok info => simp
  | error abort =>
    cases abort with
    | panic => simp
    | failed provisioned err => simp [Prod.ext_iff]

variable (infos : List FlowInfo)

theorem foldl_addFlow_flows (spec : PlotterSpec) :
    (infos.foldl PlotterSpec.addFlow spec).flows = spec.flows ++ infos.map FlowInfo.flow := by
  induction infos generalizing spec with
  | nil => simp
  | cons info infos ih =>
    rw [List.foldl_cons, ih, List.map_cons, PlotterSpec.addFlow, List.append_assoc,
      List.singleton_append]

/-- The plotter has flows for the datasets they can be generated for. -/
theorem mem_assetIDs_addFlows
    (h : p.addFlows application (p.newGeneration application) requirements = some (g, errs)) :
    id ∈ g.plotterSpec.flows.map Flow.assetID ↔ ∃ item ∈ requirements,
      item.context.dataSetID = id ∧ ∃ info, p.generateFlow application item = .ok info := by
  have hflows : g.plotterSpec.flows.map Flow.assetID
      = (p.generatedFlows application requirements).map fun info => info.flow.assetID := by
    rw [(addFlows_eq_some h).1, foldl_addFlow_flows, List.map_append, List.map_map]
    rfl
  have hok : ∀ item info, info ∈ (p.generateFlow application item).toOption ↔
      p.generateFlow application item = .ok info := by
    intro item info
    cases p.generateFlow application item <;> simp [Except.toOption]
  rw [hflows, generatedFlows, List.mem_map]
  constructor
  · rintro ⟨info, hinfo, rfl⟩
    obtain ⟨item, hitem, hflow⟩ := List.mem_filterMap.1 hinfo
    have hflow := (hok item info).1 hflow
    obtain ⟨-, -, -, hasset, -⟩ := generateFlow_eq_ok hflow
    exact ⟨item, hitem, hasset.symm, info, hflow⟩
  · rintro ⟨item, hitem, rfl, info, hflow⟩
    obtain ⟨-, -, -, hasset, -⟩ := generateFlow_eq_ok hflow
    exact ⟨info, List.mem_filterMap.2 ⟨item, hitem, (hok item info).2 hflow⟩, hasset⟩

theorem foldl_addFlow_templates (spec : PlotterSpec) :
    (infos.foldl PlotterSpec.addFlow spec).templates
      = spec.templates.setAll (infos.flatMap fun info => info.templates.map fun t => (t.name, t)) := by
  induction infos generalizing spec with
  | nil => rfl
  | cons info infos ih =>
    rw [List.foldl_cons, ih, List.flatMap_cons, GoMap.setAll_append, PlotterSpec.addFlow]

/-- The data paths behind the flows: those selected for the datasets a flow can
be generated for. -/
def selectedPaths (p : PlotterGenerator) (application : FybrikApplication)
    (requirements : List DataInfo) : List (List ResolvedEdge) :=
  requirements.filterMap fun item =>
    match p.generateFlow application item with
    | .ok _ => p.selectPath application item
    | .error _ => none

/-- The datasets that get a flow, with the data paths selected for them. -/
def selections (p : PlotterGenerator) (application : FybrikApplication)
    (requirements : List DataInfo) : List (String × List ResolvedEdge) :=
  requirements.filterMap fun item =>
    match p.generateFlow application item with
    | .ok _ => (p.selectPath application item).map fun path => (item.context.dataSetID, path)
    | .error _ => none

theorem selectedPaths_eq (p : PlotterGenerator) (application : FybrikApplication)
    (requirements : List DataInfo) :
    p.selectedPaths application requirements
      = (p.selections application requirements).map Prod.snd := by
  rw [selectedPaths, selections, List.map_filterMap]
  refine List.filterMap_congr fun item _ => ?_
  cases p.generateFlow application item with
  | error abort => rfl
  | ok info => cases p.selectPath application item <;> rfl

theorem mem_selectedPaths {p : PlotterGenerator} {application : FybrikApplication}
    {requirements : List DataInfo} {s : String × List ResolvedEdge} {e : ResolvedEdge}
    (hs : s ∈ p.selections application requirements) (he : e ∈ s.2) :
    e ∈ (p.selectedPaths application requirements).flatten := by
  rw [selectedPaths_eq]
  exact List.mem_flatten.2 ⟨s.2, List.mem_map_of_mem hs, he⟩

/-- The flows of the plotter belong to the datasets and paths selected. -/
theorem generatedFlows_selections (p : PlotterGenerator) (application : FybrikApplication)
    (requirements : List DataInfo) :
    List.Forall₂ (fun info s => info.templates = s.2.map ResolvedEdge.template ∧
        info.flow.assetID = s.1 ∧ StepsFrom p application s.1 s.2 info.flow.subFlows)
      (p.generatedFlows application requirements) (p.selections application requirements) := by
  induction requirements with
  | nil => exact .nil
  | cons item requirements ih =>
    rw [generatedFlows, selections, List.filterMap_cons, List.filterMap_cons]
    cases hflow : p.generateFlow application item with
    | error abort => exact ih
    | ok info =>
      obtain ⟨path, hpath, htemplates, hasset, hsteps⟩ := generateFlow_eq_ok hflow
      simp only [hpath]
      exact .cons ⟨htemplates, hasset, hsteps⟩ ih

theorem generatedFlows_steps (p : PlotterGenerator) (application : FybrikApplication)
    (requirements : List DataInfo) :
    List.Forall₂ (fun info path => info.templates = path.map ResolvedEdge.template ∧
        StepsFrom p application info.flow.assetID path info.flow.subFlows)
      (p.generatedFlows application requirements) (p.selectedPaths application requirements) := by
  rw [selectedPaths_eq, List.forall₂_map_right_iff]
  exact (generatedFlows_selections p application requirements).imp
    fun info s h => ⟨h.1, h.2.1 ▸ h.2.2⟩

/-! ## Does each step run the module selected for it? -/

/-- Every step of a subflow finds the module of the edge it was generated from in
the template it refers to. -/
def RunsModuleOf (spec : PlotterSpec) (subFlow : SubFlow) (e : ResolvedEdge) : Prop :=
  ∀ step ∈ subFlow.steps.flatten,
    (spec.templates.lookup step.template).map Template.modules = some [e.moduleInfo]

instance (spec : PlotterSpec) (subFlow : SubFlow) (e : ResolvedEdge) :
    Decidable (RunsModuleOf spec subFlow e) :=
  inferInstanceAs (Decidable (∀ _ ∈ _, _))

/-- Every step of every flow runs the module that was selected for it: the flows
correspond to the data paths, and the subflows to the edges. -/
def RunsSelected (spec : PlotterSpec) (paths : List (List ResolvedEdge)) : Prop :=
  List.Forall₂ (fun flow path => List.Forall₂ (RunsModuleOf spec) flow.subFlows path)
    spec.flows paths

instance (spec : PlotterSpec) (paths : List (List ResolvedEdge)) :
    Decidable (RunsSelected spec paths) :=
  inferInstanceAs (Decidable (List.Forall₂ _ _ _))

theorem StepsFrom.forall₂ (h : StepsFrom p application id path subFlows) :
    List.Forall₂ (fun subFlow e => ∃ step, subFlow.steps.flatten = [step] ∧
      step.template = e.capability.capability) subFlows path := by
  induction h with
  | nil id => exact .nil
  | cons head _ ih =>
    obtain ⟨api, -, rfl⟩ := head
    refine .cons ?_ ih
    split
    · exact ⟨_, rfl, rfl⟩
    · exact ⟨_, rfl, rfl⟩

/-- The templates of the plotter are those of the edges; of several edges with
one capability the last one prevails. -/
theorem addFlows_templates
    (h : p.addFlows application (p.newGeneration application) requirements = some (g, errs)) :
    g.plotterSpec.templates = GoMap.ofList ((p.selectedPaths application requirements).flatten.map
      fun e => (e.capability.capability, e.template)) := by
  have hcollect : ∀ (infos : List FlowInfo) (paths : List (List ResolvedEdge)),
      List.Forall₂ (fun info path => info.templates = path.map ResolvedEdge.template ∧
        StepsFrom p application info.flow.assetID path info.flow.subFlows) infos paths →
      (infos.flatMap fun info => info.templates.map fun t => (t.name, t))
        = paths.flatten.map fun e => (e.capability.capability, e.template) := by
    intro infos paths hall
    induction hall with
    | nil => rfl
    | cons hab _ ih =>
      rw [List.flatMap_cons, ih, hab.1, List.flatten_cons, List.map_append, List.map_map]
      rfl
  rw [(addFlows_eq_some h).1, foldl_addFlow_templates,
    hcollect _ _ (generatedFlows_steps p application requirements)]
  rfl

/-- The steps run the modules selected for them exactly if every edge finds its
own module in the template of its capability. -/
theorem runsSelected_iff
    (h : p.addFlows application (p.newGeneration application) requirements = some (g, errs)) :
    RunsSelected g.plotterSpec (p.selectedPaths application requirements) ↔
      ∀ e ∈ (p.selectedPaths application requirements).flatten,
        (g.plotterSpec.templates.lookup e.capability.capability).map Template.modules
          = some [e.moduleInfo] := by
  have hsteps := generatedFlows_steps p application requirements
  have hflows : g.plotterSpec.flows
      = (p.generatedFlows application requirements).map FlowInfo.flow := by
    rw [(addFlows_eq_some h).1, foldl_addFlow_flows]
    rfl
  rw [RunsSelected, hflows, List.forall₂_map_left_iff, Loops.forall₂_iff_right hsteps
    (Q := fun path => ∀ e ∈ path,
      (g.plotterSpec.templates.lookup e.capability.capability).map Template.modules
        = some [e.moduleInfo])]
  · simp only [List.mem_flatten, forall_exists_index, and_imp]
    exact ⟨fun hall e path hpath he => hall path hpath e he,
      fun hall path hpath e he => hall e path hpath he⟩
  · rintro info path - ⟨-, hinfo⟩
    refine Loops.forall₂_iff_right hinfo.forall₂ ?_
    rintro subFlow e - ⟨step, hstep, htemplate⟩
    rw [RunsModuleOf, hstep]
    simp only [List.mem_singleton, forall_eq]
    rw [htemplate]

/-- When every step of the plotter runs the module that was selected for it:
exactly if the edges of all selected paths that have the same capability also
have the same module, with the same type, chart and scope. -/
theorem addFlows_runsSelected_iff (p : PlotterGenerator) (application : FybrikApplication)
    (requirements : List DataInfo) (g : Generation) (errs : List (String × String))
    (h : p.addFlows application (p.newGeneration application) requirements = some (g, errs)) :
    RunsSelected g.plotterSpec (p.selectedPaths application requirements) ↔
      ∀ e ∈ (p.selectedPaths application requirements).flatten,
      ∀ e' ∈ (p.selectedPaths application requirements).flatten,
        e.capability.capability = e'.capability.capability → e.moduleInfo = e'.moduleInfo := by
  rw [runsSelected_iff h]
  constructor
  · intro hruns e he e' he' hcap
    have hmodules := hruns e he
    rw [hcap, hruns e' he'] at hmodules
    exact (List.singleton_inj.1 (Option.some.inj hmodules)).symm
  · intro hsame e he
    -- the template was last written for some edge with the same capability
    obtain ⟨t, ht, hlookup⟩ := GoMap.lookup_setAll_of_mem ∅ (k := e.capability.capability)
      (l := (p.selectedPaths application requirements).flatten.map fun e =>
        (e.capability.capability, e.template))
      ⟨(e.capability.capability, e.template), List.mem_map.2 ⟨e, he, rfl⟩, rfl⟩
    obtain ⟨e', he', heq⟩ := List.mem_map.1 ht
    obtain ⟨hcap, rfl⟩ := Prod.mk.inj heq
    rw [addFlows_templates h, GoMap.ofList, hlookup, hsame e he e' he' hcap.symm]
    rfl

/-- A module that serves data of one kind over arrow-flight. -/
def readerModule (name : String) (source : InterfaceDetails) : FybrikModule :=
  { name := name
    spec :=
      { type := "service"
        capabilities := [⟨"read", .workload, [⟨some source, none⟩],
          some ⟨⟨"arrow-flight", GoMap.ofList [("arrow-flight", .obj
            [("hostname", .str "localhost"), ("port", .num 80)])]⟩, "arrow"⟩, []⟩]
        chart := ⟨name ++ "-chart", "", ∅⟩ } }

/-- A generator with a module for parquet files and one for a message queue. -/
def readersGenerator : PlotterGenerator :=
  { (default : PlotterGenerator) with
    modules := GoMap.ofList [("parquet-reader", readerModule "parquet-reader" ⟨"s3", "parquet"⟩),
      ("queue-reader", readerModule "queue-reader" ⟨"kafka", "json"⟩)]
    clusters := [⟨"hobbiton", ⟨"theshire", "", ""⟩⟩]
    templateEngine := ⟨fun _ => none, fun text _ => .ok text⟩ }

/-- A dataset wanted over arrow-flight. -/
def arrowItem (datasetID : String) (source : InterfaceDetails) : DataInfo :=
  { (default : DataInfo) with
    dataDetails := { (default : GetAssetResponse) with
      details := ⟨⟨source.protocol, ∅⟩, source.dataFormat⟩ }
    context := ⟨datasetID, ⟨⟨"arrow-flight", "arrow"⟩, default⟩⟩ }

/-- Two parquet files are read by the module for parquet files. -/
theorem addFlows_runsSelected_parquet :
    ∃ g, readersGenerator.addFlows shireApplication (readersGenerator.newGeneration shireApplication)
        [arrowItem "xxx" ⟨"s3", "parquet"⟩, arrowItem "yyy" ⟨"s3", "parquet"⟩] = some (g, []) ∧
      RunsSelected g.plotterSpec (readersGenerator.selectedPaths shireApplication
        [arrowItem "xxx" ⟨"s3", "parquet"⟩, arrowItem "yyy" ⟨"s3", "parquet"⟩]) := by
  refine ⟨_, rfl, (addFlows_runsSelected_iff _ _ _ _ [] rfl).2 ?_⟩
  decide

/-- A parquet file and a message queue are read by different modules, but the
plotter only has a template for the second. -/
theorem addFlows_readers_not_runsSelected :
    ∃ g, readersGenerator.addFlows shireApplication (readersGenerator.newGeneration shireApplication)
        [arrowItem "xxx" ⟨"s3", "parquet"⟩, arrowItem "yyy" ⟨"kafka", "json"⟩] = some (g, []) ∧
      ¬ RunsSelected g.plotterSpec (readersGenerator.selectedPaths shireApplication
        [arrowItem "xxx" ⟨"s3", "parquet"⟩, arrowItem "yyy" ⟨"kafka", "json"⟩]) := by
  refine ⟨_, rfl, ?_⟩
  decide

end PlotterGenerator

end Fybrik
