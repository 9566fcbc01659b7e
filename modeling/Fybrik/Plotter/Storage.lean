import Fybrik.Plotter.Generator
import Fybrik.Storage.Provisioning

/-!
# The storage requested for a plotter

`AddFlowInfoForAsset` requests a bucket for every copy on the data path of a dataset, by
creating a `Dataset` resource.  The buckets are recorded by dataset; a flow that cannot be
completed leaves its requests behind.

* `copyCalls`, `elementCalls`, `pathCalls`, `flowCalls`, `storageCalls` — the calls of
  `CreateDataset` for a copy, an edge, a path, a dataset and a list of datasets, with their
  outcomes; also those before a crash.
* `provisionedBuckets` — the buckets recorded for a list of datasets, which
  `addFlows_provisionedStorage` finds in the final state.
* `recorded_of_created`, `name_of_recorded` — if there is no crash, every resource that was
  created is recorded, under the name the bucket of the dataset always has.
-/

namespace Fybrik

namespace PlotterGenerator

variable (p : PlotterGenerator) (application : FybrikApplication)

/-! ## The calls -/

/-- The name of the bucket for copies of a dataset. -/
def bucketName (datasetID : String) : String := generateBucketName p.sha512 p.owner datasetID

/-- The resource of the bucket for copies of a dataset. -/
def bucketRef (datasetID : String) : NamespacedName :=
  ⟨p.bucketName datasetID, p.settings.systemNamespace⟩

/-- The call of `CreateDataset` in `GetCopyDestination`, if it comes to that. -/
def copyCalls (item : DataInfo) (geo : String) : List (DatasetCall × Option String) :=
  match p.allocateBucket (p.bucketName item.context.dataSetID) geo with
  | .error _ => []
  | .ok bucket =>
    let ref : NamespacedName := ⟨bucket.name, p.settings.systemNamespace⟩
    [(.create ref bucket, p.provision.createDataset ref bucket p.owner)]

/-- The calls for one edge. -/
def elementCalls (item : DataInfo) (st : PathState) (e : ResolvedEdge) :
    List (DatasetCall × Option String) :=
  match p.stepAPI application e st.datasetID with
  | some (.ok _) =>
    if e.sink.virtual then [] else p.copyCalls item e.storageAccountRegion
  | _ => []

/-- The calls for the rest of a path. -/
def pathCalls (item : DataInfo) :
    PathState → List ResolvedEdge → List (DatasetCall × Option String)
  | _, [] => []
  | st, e :: path => p.elementCalls application item st e ++
      match p.addElement application item st e with
      | .error _ => []
      | .ok st => pathCalls item st path

/-- The calls for a dataset. -/
def flowCalls (item : DataInfo) : List (DatasetCall × Option String) :=
  match p.selectPath application item with
  | none => []
  | some path => p.pathCalls application item (p.startState item) path

/-- The calls for some datasets, until the program crashes. -/
def storageCalls : List DataInfo → List (DatasetCall × Option String)
  | [] => []
  | item :: requirements => p.flowCalls application item ++
      match p.generateFlow application item with
      | .error .panic => []
      | _ => storageCalls requirements

/-! ## What is recorded -/

/-- The buckets recorded for a dataset. -/
def bucketsOf (item : DataInfo) : List (String × ProvisionedBucket) :=
  match p.generateFlow application item with
  | .ok info => info.provisioned
  | .error (.failed provisioned _) => provisioned
  | .error .panic => []

/-- The buckets recorded for some datasets, one after the other. -/
def provisionedBuckets (requirements : List DataInfo) : List (String × ProvisionedBucket) :=
  requirements.flatMap (p.bucketsOf application)

variable {p application} {item : DataInfo} {st st' : PathState} {e : ResolvedEdge}
  {path : List ResolvedEdge} {requirements : List DataInfo}
  {calls : List (DatasetCall × Option String)} {provisioned : List (String × ProvisionedBucket)}
  {bucket : ProvisionedBucket}

theorem name_allocateBucket {bucketName geo : String}
    (h : p.allocateBucket bucketName geo = .ok bucket) : bucket.name = bucketName := by
  unfold allocateBucket at h
  split at h
  · cases h
  · split at h
    · cases h
      rfl
    · cases h

variable (p) in
/-- The buckets recorded for a dataset after some calls: all have the name of its bucket,
the calls were about the resource of this bucket, and if it was created there is a
bucket. -/
structure Records (item : DataInfo) (calls : List (DatasetCall × Option String))
    (provisioned : List (String × ProvisionedBucket)) : Prop where
  named : ∀ ib ∈ provisioned,
    ib.1 = item.context.dataSetID ∧ ib.2.name = p.bucketName item.context.dataSetID
  requested : ∀ call ∈ calls, ∃ bucket,
    call.1 = .create (p.bucketRef item.context.dataSetID) bucket
  recorded : (∃ call ∈ calls, call.2 = none) → provisioned ≠ []

theorem Records.skip (h : p.Records item calls provisioned) :
    p.Records item (calls ++ []) provisioned := by
  rw [List.append_nil]
  exact h

/-- One more call, which may have failed. -/
theorem Records.request (h : p.Records item calls provisioned)
    (hname : bucket.name = p.bucketName item.context.dataSetID) (answer : Option String)
    {provisioned' : List (String × ProvisionedBucket)}
    (hprovisioned : (answer ≠ none ∧ provisioned' = provisioned) ∨
      provisioned' = provisioned ++ [(item.context.dataSetID, bucket)]) :
    p.Records item
      (calls ++ [(.create ⟨bucket.name, p.settings.systemNamespace⟩ bucket, answer)])
      provisioned' := by
  have hrequested : ∀ call ∈ calls ++
      [(DatasetCall.create ⟨bucket.name, p.settings.systemNamespace⟩ bucket, answer)],
      ∃ bucket, call.1 = .create (p.bucketRef item.context.dataSetID) bucket := by
    intro call hcall
    rcases List.mem_append.1 hcall with hcall | hcall
    · exact h.requested call hcall
    · rw [List.mem_singleton.1 hcall, hname]
      exact ⟨bucket, rfl⟩
  rcases hprovisioned with ⟨hfailed, rfl⟩ | rfl
  · refine ⟨h.named, hrequested, ?_⟩
    rintro ⟨call, hcall, hnone⟩
    rcases List.mem_append.1 hcall with hcall | hcall
    · exact h.recorded ⟨call, hcall, hnone⟩
    · rw [List.mem_singleton.1 hcall] at hnone
      exact absurd hnone hfailed
  · refine ⟨fun ib hib => ?_, hrequested, fun _ => by simp⟩
    rcases List.mem_append.1 hib with hib | hib
    · exact h.named ib hib
    · rw [List.mem_singleton.1 hib]
      exact ⟨rfl, hname⟩

/-- How the call ends: with the bucket recorded, or without a resource created, unless the
program crashes. -/
theorem getCopyDestination_records (h : p.Records item calls provisioned)
    (destination : Option InterfaceDetails) (geo : String) :
    Loops.Ends (fun res => p.Records item (calls ++ p.copyCalls item geo) res.2)
      (fun abort => ∀ provisioned err, abort = .failed provisioned err →
        p.Records item (calls ++ p.copyCalls item geo) provisioned)
      (p.getCopyDestination item destination geo provisioned) := by
  unfold getCopyDestination copyCalls bucketName
  cases halloc : p.allocateBucket
      (generateBucketName p.sha512 p.owner item.context.dataSetID) geo with
  | error err =>
    intro provisioned' err' habort
    obtain ⟨rfl, -⟩ := Abort.failed.inj habort
    exact h.skip
  | ok bucket =>
    simp only
    cases hcreate : p.provision.createDataset ⟨bucket.name, p.settings.systemNamespace⟩ bucket
        p.owner with
    | some err =>
      intro provisioned' err' habort
      obtain ⟨rfl, -⟩ := Abort.failed.inj habort
      exact h.request (name_allocateBucket halloc) _ (Or.inl ⟨Option.some_ne_none err, rfl⟩)
    | none =>
      cases destination with
      | none => exact nofun
      | some destination => exact h.request (name_allocateBucket halloc) _ (Or.inr rfl)

variable (application) in
/-- How one edge ends. -/
theorem addElement_records (h : p.Records item calls st.provisioned) (e : ResolvedEdge) :
    Loops.Ends
      (fun st' => p.Records item (calls ++ p.elementCalls application item st e) st'.provisioned)
      (fun abort => ∀ provisioned err, abort = .failed provisioned err →
        p.Records item (calls ++ p.elementCalls application item st e) provisioned)
      (p.addElement application item st e) := by
  unfold addElement elementCalls
  cases hapi : p.stepAPI application e st.datasetID with
  | none => exact nofun
  | some res =>
    cases res with
    | error err =>
      intro provisioned err' habort
      obtain ⟨rfl, -⟩ := Abort.failed.inj habort
      exact h.skip
    | ok api =>
      cases hvirtual : e.sink.virtual with
      | true => exact h.skip
      | false =>
        simp only [Bool.not_false, if_true, Bool.false_eq_true, if_false]
        have hcopy := getCopyDestination_records h e.sink.connection e.storageAccountRegion
        cases hdestination : p.getCopyDestination item e.sink.connection e.storageAccountRegion
            st.provisioned with
        | error abort =>
          rw [hdestination] at hcopy
          exact hcopy
        | ok res =>
          rw [hdestination] at hcopy
          exact hcopy

variable (application) in
/-- How a path ends. -/
theorem pathCalls_records (h : p.Records item calls st.provisioned) (path : List ResolvedEdge) :
    Loops.Ends
      (fun st' => p.Records item (calls ++ p.pathCalls application item st path) st'.provisioned)
      (fun abort => ∀ provisioned err, abort = .failed provisioned err →
        p.Records item (calls ++ p.pathCalls application item st path) provisioned)
      (path.foldlM (p.addElement application item) st) := by
  induction path generalizing st calls with
  | nil =>
    rw [pathCalls, List.append_nil]
    exact h
  | cons e path ih =>
    have helement := addElement_records application h e
    rw [pathCalls, List.foldlM_cons]
    cases hstep : p.addElement application item st e with
    | error abort =>
      rw [hstep] at helement
      simp only [List.append_nil]
      exact helement
    | ok st' =>
      rw [hstep] at helement
      simp only
      rw [← List.append_assoc]
      exact ih helement

/-- How a dataset ends: the buckets recorded account for the resources created. -/
theorem generateFlow_records (p : PlotterGenerator) (application : FybrikApplication)
    (item : DataInfo) :
    Loops.Ends (fun info => p.Records item (p.flowCalls application item) info.provisioned)
      (fun abort => ∀ provisioned err, abort = .failed provisioned err →
        p.Records item (p.flowCalls application item) provisioned)
      (p.generateFlow application item) := by
  have hstart : p.Records item [] (p.startState item).provisioned :=
    ⟨nofun,
      nofun, by simp⟩
  unfold generateFlow flowCalls
  cases p.selectPath application item with
  | none =>
    intro provisioned err habort
    obtain ⟨rfl, -⟩ := Abort.failed.inj habort
    exact hstart
  | some path =>
    have hpath := pathCalls_records application hstart path
    simp only [List.nil_append] at hpath ⊢
    cases hfold : path.foldlM (p.addElement application item) (p.startState item) with
    | error abort =>
      rw [hfold] at hpath
      exact hpath
    | ok st =>
      rw [hfold] at hpath
      simp only
      split
      · exact nofun
      · exact hpath

theorem bucketsOf_records (h : p.generateFlow application item ≠ .error .panic) :
    p.Records item (p.flowCalls application item) (p.bucketsOf application item) := by
  have hrecords := p.generateFlow_records application item
  unfold bucketsOf
  cases hflow : p.generateFlow application item with
  | ok info =>
    rw [hflow] at hrecords
    exact hrecords
  | error abort =>
    rw [hflow] at h hrecords
    cases abort with
    | panic => exact absurd rfl h
    | failed provisioned err => exact hrecords provisioned err rfl

/-! ## All datasets -/

/-- The loop over the datasets records their buckets. -/
theorem addFlows_provisionedStorage {g g' : Generation} {errs : List (String × String)}
    (h : p.addFlows application g requirements = some (g', errs)) :
    g'.provisionedStorage
      = g.provisionedStorage.setAll (p.provisionedBuckets application requirements) := by
  induction requirements generalizing g errs with
  | nil =>
    cases h
    rfl
  | cons item requirements ih =>
    obtain ⟨g₁, err, errs', hadd, hrest, -⟩ := addFlows_cons_eq_some h
    rw [ih hrest, provisionedBuckets, provisionedBuckets, List.flatMap_cons, GoMap.setAll_append,
      bucketsOf]
    rcases addFlowInfoForAsset_cases hadd with
      ⟨provisioned, msg, hflow, rfl, -⟩ | ⟨info, hflow, rfl, -⟩
    · rw [hflow]
    · rw [hflow]

/-- The loop ends if no dataset makes the program crash. -/
theorem exists_addFlows
    (h : ∀ item ∈ requirements, p.generateFlow application item ≠ .error .panic)
    (g : Generation) : ∃ g' errs, p.addFlows application g requirements = some (g', errs) := by
  induction requirements generalizing g with
  | nil => exact ⟨g, [], rfl⟩
  | cons item requirements ih =>
    obtain ⟨hitem, hrest⟩ := List.forall_mem_cons.1 h
    obtain ⟨g₁, err, hadd⟩ : ∃ g₁ err, p.addFlowInfoForAsset application g item = some (g₁, err) := by
      unfold addFlowInfoForAsset
      split
      · rename_i hpanic
        exact absurd hpanic hitem
      · exact ⟨_, _, rfl⟩
      · exact ⟨_, _, rfl⟩
    obtain ⟨g₂, errs, hrest⟩ := ih hrest g₁
    simp only [addFlows, hadd, hrest]
    exact ⟨_, _, rfl⟩

theorem storageCalls_eq
    (h : ∀ item ∈ requirements, p.generateFlow application item ≠ .error .panic) :
    p.storageCalls application requirements
      = requirements.flatMap (p.flowCalls application) := by
  induction requirements with
  | nil => rfl
  | cons item requirements ih =>
    obtain ⟨hitem, hrest⟩ := List.forall_mem_cons.1 h
    rw [storageCalls, List.flatMap_cons, ih hrest]
    split
    · rename_i hpanic
      exact absurd hpanic hitem
    · rfl

/-- Every resource that was created is recorded for its dataset. -/
theorem recorded_of_created
    (h : ∀ item ∈ requirements, p.generateFlow application item ≠ .error .panic)
    {ref : NamespacedName}
    (hcall : (.create ref bucket, none) ∈ p.storageCalls application requirements) :
    ∃ ib ∈ p.provisionedBuckets application requirements, p.bucketRef ib.1 = ref := by
  rw [storageCalls_eq h, List.mem_flatMap] at hcall
  obtain ⟨item, hitem, hcall⟩ := hcall
  have hrecords := bucketsOf_records (h item hitem)
  obtain ⟨bucket', hrequested⟩ := hrecords.requested _ hcall
  obtain ⟨ib, hib⟩ := List.exists_mem_of_ne_nil _ (hrecords.recorded ⟨_, hcall, rfl⟩)
  refine ⟨ib, List.mem_flatMap.2 ⟨item, hitem, hib⟩, ?_⟩
  rw [(hrecords.named ib hib).1, (DatasetCall.create.inj hrequested).1]

/-- The buckets recorded have the names that belong to their datasets. -/
theorem name_of_recorded
    (h : ∀ item ∈ requirements, p.generateFlow application item ≠ .error .panic)
    {ib : String × ProvisionedBucket} (hib : ib ∈ p.provisionedBuckets application requirements) :
    ib.2.name = p.bucketName ib.1 := by
  obtain ⟨item, hitem, hib⟩ := List.mem_flatMap.1 hib
  obtain ⟨hid, hname⟩ := (bucketsOf_records (h item hitem)).named ib hib
  rw [hid, hname]

/-- Every subflow of the plotter is one step with parameters. -/
theorem addFlows_parameters {g : Generation} {errs : List (String × String)}
    (h : p.addFlows application (p.newGeneration application) requirements = some (g, errs))
    {flow : Flow} (hflow : flow ∈ g.plotterSpec.flows) {subFlow : SubFlow}
    (hsubFlow : subFlow ∈ flow.subFlows) :
    ∃ step parameters, subFlow.steps = [[step]] ∧ step.parameters = some parameters := by
  have hsteps : ∀ {id path subFlows}, StepsFrom p application id path subFlows →
      subFlow ∈ subFlows →
      ∃ step parameters, subFlow.steps = [[step]] ∧ step.parameters = some parameters := by
    intro id path subFlows hfrom hmem
    induction hfrom with
    | nil => cases hmem
    | cons head _ ih =>
      rcases List.mem_cons.1 hmem with rfl | hmem
      · obtain ⟨api, -, rfl⟩ := head
        split
        · exact ⟨_, _, rfl, rfl⟩
        · exact ⟨_, _, rfl, rfl⟩
      · exact ih hmem
  rw [(addFlows_eq_some h).1, foldl_addFlow_flows] at hflow
  obtain ⟨info, hinfo, rfl⟩ := List.mem_map.1 hflow
  obtain ⟨item, hitem, hgenerated⟩ := List.mem_filterMap.1 hinfo
  cases hok : p.generateFlow application item with
  | error abort =>
    rw [hok] at hgenerated
    exact absurd hgenerated (by simp [Except.toOption])
  | ok info' =>
    rw [hok] at hgenerated
    cases hgenerated
    obtain ⟨path, -, -, -, hfrom⟩ := generateFlow_eq_ok hok
    exact hsteps hfrom hsubFlow

end PlotterGenerator

end Fybrik
