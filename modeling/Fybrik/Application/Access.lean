import Fybrik.Application.Controller

/-!
# Who is denied access

What the conditions of an application and its plotter have to do with each other
after a reconcile.

* `DeniedAccess` — a dataset is turned down with one of the errors that mean that
  access is denied.
* `generateFlow_notDenial` — no such error comes from building the plotter.
* `UniformAccess` — a dataset that is listed twice is denied twice or not at all.
* `FlowsMatch` — a plotter serves the datasets that are not denied, and only these.
* `Built.flowsMatch` — this is so for a plotter built without errors.
-/

namespace Fybrik

/-! ## The texts of errors -/

/-- The texts that mean a denial begin with one of three words. -/
theorem take_of_isDenial {err : String} (h : isDenial err = true) :
    err.toList.take 3 ∈ [['t', 'h', 'e'], ['g', 'o', 'v'], ['c', 'o', 'p']] := by
  have hmem : err ∈ [invalidAssetID, readAccessDenied, copyNotAllowed, writeNotAllowed,
      invalidAssetDataStore] := by simpa [isDenial] using h
  simp only [List.mem_cons, List.not_mem_nil, or_false] at hmem
  rcases hmem with rfl | rfl | rfl | rfl | rfl <;> decide

/-- A text that begins otherwise is no denial. -/
theorem isDenial_append {start rest : String} (hlength : 3 ≤ start.toList.length)
    (hstart : start.toList.take 3 ∉ [['t', 'h', 'e'], ['g', 'o', 'v'], ['c', 'o', 'p']]) :
    isDenial (start ++ rest) = false := by
  rw [← Bool.not_eq_true]
  intro hdenial
  have htake := take_of_isDenial hdenial
  rw [String.toList_append, List.take_append_of_le_length hlength] at htake
  exact hstart htake

/-- The generation of a flow does not end with a denial. -/
def Abort.NotDenial : Abort → Prop
  | .panic => True
  | .failed _ err => isDenial err = false

namespace PlotterGenerator

variable {p : PlotterGenerator} {application : FybrikApplication}

theorem renderProperty_notDenial {args : APITemplateArgs} {prop : String × Json} {err : String}
    (h : p.renderProperty args prop = .error err) : isDenial err = false := by
  unfold renderProperty at h
  split at h
  · split at h
    · cases h
      rw [String.append_assoc, String.append_assoc]
      exact isDenial_append (by decide) (by decide)
    · split at h
      · cases h
        rw [String.append_assoc, String.append_assoc]
        exact isDenial_append (by decide) (by decide)
      · cases h
  · cases h

theorem stepAPI_notDenial {e : ResolvedEdge} {datasetID err : String}
    (h : p.stepAPI application e datasetID = some (.error err)) : isDenial err = false := by
  unfold stepAPI at h
  split at h
  · cases h
  · obtain ⟨service, hservice, hmap⟩ := Option.map_eq_some_iff.1 h
    unfold moduleAPIToService at hservice
    split at hservice
    · cases hservice
      split at hmap
      · rename_i err' hprops
        cases hmap
        obtain ⟨prop, -, hprop⟩ := Loops.exists_of_mapM_eq_error hprops
        exact renderProperty_notDenial hprop
      · exact absurd hmap (by simp [Except.map])
    · cases hservice

/-- With storage that can be requested, allocating a bucket is not denied. -/
theorem getCopyDestination_notDenial (haccounts : ∃ accounts, p.storageAccounts = .ok accounts)
    (hcreate : ∀ ref bucket owner, p.provision.createDataset ref bucket owner = none)
    {item : DataInfo} {destination : Option InterfaceDetails} {geo : String}
    {provisioned : List (String × ProvisionedBucket)} {abort : Abort}
    (h : p.getCopyDestination item destination geo provisioned = .error abort) :
    abort.NotDenial := by
  unfold getCopyDestination at h
  split at h
  · rename_i err hbucket
    cases h
    obtain ⟨accounts, haccounts⟩ := haccounts
    unfold allocateBucket at hbucket
    rw [haccounts] at hbucket
    dsimp only at hbucket
    split at hbucket
    · cases hbucket
    · cases hbucket
      exact isDenial_append (by decide) (by decide)
  · rw [hcreate] at h
    dsimp only at h
    split at h
    · cases h
      trivial
    · cases h

theorem addElement_notDenial (haccounts : ∃ accounts, p.storageAccounts = .ok accounts)
    (hcreate : ∀ ref bucket owner, p.provision.createDataset ref bucket owner = none)
    (item : DataInfo) (st : PathState) (e : ResolvedEdge) :
    Loops.Ends (fun _ => True) Abort.NotDenial (p.addElement application item st e) := by
  unfold addElement
  split
  · trivial
  · rename_i err hapi
    exact stepAPI_notDenial hapi
  · split
    · split
      · rename_i abort hcopy
        exact getCopyDestination_notDenial haccounts hcreate hcopy
      · trivial
    · trivial

/-- Building the plotter denies access to no dataset. -/
theorem generateFlow_notDenial (haccounts : ∃ accounts, p.storageAccounts = .ok accounts)
    (hcreate : ∀ ref bucket owner, p.provision.createDataset ref bucket owner = none)
    {item : DataInfo} {abort : Abort} (h : p.generateFlow application item = .error abort) :
    abort.NotDenial := by
  unfold generateFlow at h
  split at h
  · cases h
    exact isDenial_append (by decide) (by decide)
  · rename_i path _
    have hloop : Loops.Ends (fun _ => True) Abort.NotDenial
        (path.foldlM (p.addElement application item) (p.startState item)) :=
      Loops.foldlM_ends (P := fun _ _ => True)
        (fun _ st e _ => addElement_notDenial haccounts hcreate item st e) [] path trivial
    split at h
    · rename_i abort' hpath
      cases h
      rw [hpath] at hloop
      exact hloop
    · split at h
      · cases h
        trivial
      · cases h

end PlotterGenerator

/-! ## Denials in the status -/

/-- The plotter has flows for the datasets that are not denied, of which there are
some, and for no others. -/
structure FlowsMatch (data : List DataContext) (status : FybrikApplicationStatus)
    (plotterSpec : PlotterSpec) : Prop where
  exists_admitted : ∃ ctx ∈ data, status.isTrue denyConditionIndex ctx.dataSetID = false
  mem_assetIDs_iff : ∀ id, id ∈ plotterSpec.flows.map Flow.assetID ↔
    (∃ ctx ∈ data, ctx.dataSetID = id) ∧ status.isTrue denyConditionIndex id = false

/-- It only matters which datasets are denied. -/
theorem FlowsMatch.congr {data : List DataContext} {plotterSpec : PlotterSpec}
    {status status' : FybrikApplicationStatus} (h : FlowsMatch data status plotterSpec)
    (hdenied : ∀ id, status'.isTrue denyConditionIndex id = status.isTrue denyConditionIndex id) :
    FlowsMatch data status' plotterSpec := by
  refine ⟨?_, fun id => ?_⟩
  · obtain ⟨ctx, hctx, hadmitted⟩ := h.exists_admitted
    exact ⟨ctx, hctx, (hdenied _).trans hadmitted⟩
  · rw [hdenied]
    exact h.mem_assetIDs_iff id

namespace FybrikApplicationReconciler

variable (r : FybrikApplicationReconciler)

/-- Access to a dataset is denied: it is turned down with an error that means this. -/
def DeniedAccess (application : FybrikApplication) (ctx : DataContext) : Prop :=
  ∃ workloadCluster err, r.getWorkloadCluster application = .ok workloadCluster ∧
    r.constructDataInfo application workloadCluster ctx = .error err ∧ isDenial err = true

/-- If a dataset is listed more than once, access to it is always denied or never. -/
def UniformAccess (application : FybrikApplication) : Prop :=
  ∀ ctx ∈ application.spec.data, ∀ ctx' ∈ application.spec.data,
    ctx.dataSetID = ctx'.dataSetID → r.DeniedAccess application ctx →
      r.DeniedAccess application ctx'

variable {r} {application : FybrikApplication} {workloadCluster : Cluster}
  {errs : List (String × String)} {status : FybrikApplicationStatus}

/-- What the catalog and the policies say about a dataset depends on nothing but its
identifier. -/
theorem evaluatorInput_eq_error {ctx ctx' : DataContext} {err : String}
    (hid : ctx.dataSetID = ctx'.dataSetID)
    (h : r.evaluatorInput application workloadCluster ctx = .error err) :
    r.evaluatorInput application workloadCluster ctx' = .error err := by
  unfold evaluatorInput at h ⊢
  rw [← hid]
  split at h
  · exact h
  · split at h
    · exact h
    · dsimp only at h ⊢
      have hread : ∀ metadata,
          r.readActions application workloadCluster (createDataRequest application ctx' metadata)
            = r.readActions application workloadCluster (createDataRequest application ctx metadata) := by
        intro metadata
        unfold readActions createDataRequest
        rw [hid]
        rfl
      rw [hread]
      split at h
      · exact h
      · cases h

/-- Access is uniform unless the errors of the configuration policies read like
denials. -/
theorem uniformAccess_of_evaluator
    (h : ∀ input output err, r.configEvaluator input = (output, some err) → isDenial err = false) :
    r.UniformAccess application := by
  rintro ctx - ctx' - hid ⟨workloadCluster, err, hcluster, hinfo, hdenial⟩
  refine ⟨workloadCluster, err, hcluster, ?_, hdenial⟩
  unfold constructDataInfo at hinfo ⊢
  split at hinfo
  · rename_i err' hinput
    rw [evaluatorInput_eq_error hid hinput]
    exact hinfo
  · split at hinfo
    · rename_i err' heval
      cases hinfo
      rw [h _ _ _ heval] at hdenial
      cases hdenial
    · cases hinfo

/-- Only denials and errors are noted in the status. -/
theorem Judged.not_ready (h : r.Judged application workloadCluster errs status) (id : String) :
    status.isTrue readyConditionIndex id = false := by
  rw [← Bool.not_eq_true, h.isTrue_iff]
  rintro ⟨ie, -, hmark⟩
  have hindex := (Prod.mk.inj hmark).1
  split at hindex
  · exact absurd hindex (by decide)
  · exact absurd hindex (by decide)

/-- What a reconcile leaves alone in the status. -/
theorem Judged.summary (h : r.Judged application workloadCluster errs status) :
    status.generated = application.status.generated ∧
      status.observedGeneration = application.status.observedGeneration ∧
      status.ready = application.spec.data.isEmpty := by
  have hfresh := initStatus_fresh application.spec.data application.status
  exact ⟨h.marked.generated.trans hfresh.generated,
    h.marked.observedGeneration.trans hfresh.observedGeneration, h.marked.ready.trans hfresh.ready⟩

/-- However a reconcile goes, the status keeps track of all datasets, and none is ready. -/
theorem Course.tracked {res : Reconciled} (h : r.Course application plotters res) :
    Tracked application.spec.data res.status ∧
      ∀ id, res.status.isTrue readyConditionIndex id = false := by
  have hfresh := initStatus_fresh application.spec.data application.status
  cases h with
  | noData => exact ⟨hfresh.tracked, hfresh.isTrue _⟩
  | noCluster => exact ⟨hfresh.tracked, hfresh.isTrue _⟩
  | noneServed _ hjudged => exact ⟨hjudged.tracked, hjudged.not_ready⟩
  | notListed _ hjudged => exact ⟨hjudged.tracked, hjudged.not_ready⟩
  | rejected hbuilt => exact ⟨hbuilt.judged.tracked, hbuilt.judged.not_ready⟩
  | waiting hbuilt => exact ⟨hbuilt.judged.tracked, hbuilt.judged.not_ready⟩
  | refused hbuilt => exact ⟨hbuilt.judged.tracked.congr rfl, hbuilt.judged.not_ready⟩
  | deployed hbuilt => exact ⟨hbuilt.judged.tracked.congr rfl, hbuilt.judged.not_ready⟩

/-- A dataset is denied exactly if an error that means this was noted for it. -/
theorem Judged.denied_iff (h : r.Judged application workloadCluster errs status) {id : String} :
    status.isTrue denyConditionIndex id = true ↔ ∃ ie ∈ errs, ie.1 = id ∧ isDenial ie.2 = true := by
  rw [h.isTrue_iff]
  refine exists_congr fun ie => and_congr_right fun _ => ?_
  rw [markOf, Prod.mk.injEq, and_comm]
  refine and_congr_right fun _ => ?_
  cases isDenial ie.2 <;> simp [denyConditionIndex, errorConditionIndex]

/-- After a reconcile the datasets some entry of which is denied access are denied. -/
theorem Judged.denied_iff_access
    (h : r.Judged application workloadCluster
      (r.failures application workloadCluster application.spec.data ++ errs) status)
    (herrs : ∀ ie ∈ errs, isDenial ie.2 = false) {id : String} :
    status.isTrue denyConditionIndex id = true ↔
      ∃ ctx ∈ application.spec.data, ctx.dataSetID = id ∧ r.DeniedAccess application ctx := by
  rw [h.denied_iff]
  constructor
  · rintro ⟨ie, hie, hid, hdenial⟩
    rcases List.mem_append.1 hie with hie | hie
    · obtain ⟨ctx, hctx, hctxid, herr⟩ := mem_failures.1 hie
      exact ⟨ctx, hctx, hctxid.trans hid, workloadCluster, ie.2, h.cluster, herr, hdenial⟩
    · rw [herrs ie hie] at hdenial
      cases hdenial
  · rintro ⟨ctx, hctx, hid, cluster, err, hcluster, herr, hdenial⟩
    obtain rfl := Except.ok.inj (h.cluster.symm.trans hcluster)
    exact ⟨(ctx.dataSetID, err), List.mem_append_left _ (mem_failures.2 ⟨ctx, hctx, rfl, herr⟩),
      hid, hdenial⟩

/-- With uniform access, an entry is denied exactly if it is denied access itself. -/
theorem Judged.denied_entry_iff
    (h : r.Judged application workloadCluster
      (r.failures application workloadCluster application.spec.data ++ errs) status)
    (herrs : ∀ ie ∈ errs, isDenial ie.2 = false) (huniform : r.UniformAccess application)
    {ctx : DataContext} (hctx : ctx ∈ application.spec.data) :
    status.isTrue denyConditionIndex ctx.dataSetID = true ↔ r.DeniedAccess application ctx := by
  rw [h.denied_iff_access herrs]
  constructor
  · rintro ⟨ctx', hctx', hid, hdenied⟩
    exact huniform ctx' hctx' ctx hctx hid hdenied
  · exact fun hdenied => ⟨ctx, hctx, rfl, hdenied⟩

theorem not_deniedAccess_of_ok {ctx : DataContext} {item : DataInfo}
    (hcluster : r.getWorkloadCluster application = .ok workloadCluster)
    (hitem : r.constructDataInfo application workloadCluster ctx = .ok item) :
    ¬ r.DeniedAccess application ctx := by
  rintro ⟨cluster, err, hcluster', herr, -⟩
  obtain rfl := Except.ok.inj (hcluster.symm.trans hcluster')
  cases hitem.symm.trans herr

/-! ## A plotter that has been built -/

variable {p : PlotterGenerator} {g : Generation}

theorem Built.data_ne (h : r.Built application workloadCluster p g status) :
    application.spec.data ≠ [] := by
  obtain ⟨item, hitem⟩ := List.exists_mem_of_ne_nil _ h.served_ne
  obtain ⟨ctx, hctx, -⟩ := mem_served.1 hitem
  exact List.ne_nil_of_mem hctx

/-- A reconcile leaves the plotters and the reference to the plotter alone, or it leaves
behind the plotter it has put together. -/
theorem Course.deployed_or_unchanged {res : Reconciled} (h : r.Course application plotters res) :
    (res.plotters = plotters ∧ res.status.generated = application.status.generated) ∨
      (application.spec.data ≠ [] ∧
        res.status.generated = some (r.plotterReference application) ∧
        ∃ plotter, res.plotters.lookup (r.plotterReference application).namespacedName
            = some plotter ∧ res.plotterSpec = some plotter.spec) := by
  have hfresh := initStatus_fresh application.spec.data application.status
  cases h with
  | noData => exact Or.inl ⟨rfl, hfresh.generated⟩
  | noCluster => exact Or.inl ⟨rfl, hfresh.generated⟩
  | noneServed _ hjudged => exact Or.inl ⟨rfl, hjudged.summary.1⟩
  | notListed _ hjudged => exact Or.inl ⟨rfl, hjudged.summary.1⟩
  | rejected hbuilt => exact Or.inl ⟨rfl, hbuilt.judged.summary.1⟩
  | waiting hbuilt => exact Or.inl ⟨rfl, hbuilt.judged.summary.1⟩
  | refused hbuilt => exact Or.inl ⟨rfl, hbuilt.judged.summary.1⟩
  | deployed hbuilt _ hlookup hspec =>
    exact Or.inr ⟨hbuilt.data_ne, rfl, _, hlookup, by rw [hspec]⟩

/-- The errors from building the plotter deny nothing. -/
theorem Built.rejections_notDenial (h : r.Built application workloadCluster p g status)
    (hr : r.ApiSucceeds) :
    ∀ ie ∈ p.rejections application (r.served application workloadCluster application.spec.data),
      isDenial ie.2 = false := by
  intro ie hie
  obtain ⟨item, -, -, provisioned, hgenerate⟩ := PlotterGenerator.mem_rejections.1 hie
  obtain ⟨accounts, haccounts⟩ := hr.storageAccounts
  obtain ⟨modules, hmodules⟩ := hr.modules
  obtain ⟨clusters, hclusters⟩ := hr.clusters
  have hgen := h.plotterGen
  simp only [FybrikApplicationReconciler.plotterGen, hmodules, haccounts, hclusters] at hgen
  cases hgen
  exact PlotterGenerator.generateFlow_notDenial ⟨accounts, rfl⟩ hr.createDataset hgenerate

/-- Some dataset is not denied. -/
theorem Built.exists_admitted (h : r.Built application workloadCluster p g status)
    (hr : r.ApiSucceeds) (huniform : r.UniformAccess application) :
    ∃ ctx ∈ application.spec.data, status.isTrue denyConditionIndex ctx.dataSetID = false := by
  obtain ⟨item, hitem⟩ := List.exists_mem_of_ne_nil _ h.served_ne
  obtain ⟨ctx, hctx, hinfo⟩ := mem_served.1 hitem
  refine ⟨ctx, hctx, ?_⟩
  rw [← Bool.not_eq_true, h.judged.denied_entry_iff (h.rejections_notDenial hr) huniform hctx]
  exact not_deniedAccess_of_ok h.judged.cluster hinfo

/-- Without errors, every dataset that was turned down was denied. -/
theorem Built.isDenial_of_mem (h : r.Built application workloadCluster p g status)
    (herr : ∀ id, status.isTrue errorConditionIndex id = false) :
    ∀ ie ∈ r.failures application workloadCluster application.spec.data ++
      p.rejections application (r.served application workloadCluster application.spec.data),
      isDenial ie.2 = true := by
  intro ie hie
  by_contra hdenial
  have htrue := h.judged.isTrue_iff.2 ⟨ie, hie, by rw [markOf, if_neg hdenial]⟩
  rw [herr] at htrue
  cases htrue

/-- Without errors, a flow was generated for every dataset that was not turned down. -/
theorem Built.exists_generateFlow (h : r.Built application workloadCluster p g status)
    (hr : r.ApiSucceeds) (herr : ∀ id, status.isTrue errorConditionIndex id = false)
    {item : DataInfo}
    (hitem : item ∈ r.served application workloadCluster application.spec.data) :
    ∃ info, p.generateFlow application item = .ok info := by
  cases hgenerate : p.generateFlow application item with
  | ok info => exact ⟨info, rfl⟩
  | error abort =>
    cases abort with
    | panic =>
      exact absurd hgenerate ((PlotterGenerator.addFlows_eq_some h.addFlows).2.2 item hitem)
    | failed provisioned err =>
      -- such an error is no denial, and there are no others
      have hrejected : (item.context.dataSetID, err) ∈ p.rejections application
          (r.served application workloadCluster application.spec.data) :=
        PlotterGenerator.mem_rejections.2 ⟨item, hitem, rfl, provisioned, hgenerate⟩
      have hdenial := h.isDenial_of_mem herr _ (List.mem_append_right _ hrejected)
      rw [h.rejections_notDenial hr _ hrejected] at hdenial
      cases hdenial

/-- A plotter built without errors serves the datasets that are not denied. -/
theorem Built.flowsMatch (h : r.Built application workloadCluster p g status)
    (hr : r.ApiSucceeds) (huniform : r.UniformAccess application)
    (herr : ∀ id, status.isTrue errorConditionIndex id = false) :
    FlowsMatch application.spec.data status g.plotterSpec := by
  have hentry : ∀ ctx ∈ application.spec.data,
      (status.isTrue denyConditionIndex ctx.dataSetID = false ↔ ¬ r.DeniedAccess application ctx) := by
    intro ctx hctx
    rw [← Bool.not_eq_true, h.judged.denied_entry_iff (h.rejections_notDenial hr) huniform hctx]
  refine ⟨h.exists_admitted hr huniform, fun id => ?_⟩
  rw [PlotterGenerator.mem_assetIDs_addFlows h.addFlows]
  constructor
  · rintro ⟨item, hitem, hid, -⟩
    obtain ⟨ctx, hctx, hinfo⟩ := mem_served.1 hitem
    rw [context_constructDataInfo hinfo] at hid
    refine ⟨⟨ctx, hctx, hid⟩, ?_⟩
    rw [← hid, hentry ctx hctx]
    exact not_deniedAccess_of_ok h.judged.cluster hinfo
  · rintro ⟨⟨ctx, hctx, rfl⟩, hadmitted⟩
    rw [hentry ctx hctx] at hadmitted
    cases hinfo : r.constructDataInfo application workloadCluster ctx with
    | error err =>
      have hfailure : (ctx.dataSetID, err)
          ∈ r.failures application workloadCluster application.spec.data :=
        mem_failures.2 ⟨ctx, hctx, rfl, hinfo⟩
      exact absurd ⟨workloadCluster, err, h.judged.cluster, hinfo,
        h.isDenial_of_mem herr _ (List.mem_append_left _ hfailure)⟩ hadmitted
    | ok item =>
      have hserved := mem_served.2 ⟨ctx, hctx, hinfo⟩
      exact ⟨item, hserved, by rw [context_constructDataInfo hinfo],
        h.exists_generateFlow hr herr hserved⟩

end FybrikApplicationReconciler

end Fybrik
