import Fybrik.Plotter.Endpoint
import Fybrik.Plotter.Storage
import Fybrik.Select.Choices

/-!
# The assets of a plotter

A flow refers to assets by their IDs: the dataset, and for each copy on the data path the
ID of what is copied with `-copy` appended.  `AddFlowInfoForAsset` computes the details of
these assets and adds them to the map of the plotter.

* `CopiesFrom` — the copies made along a path; `generateFlow_assets` says that the assets
  of a flow are the dataset and its copies.
* `AssetsAgree` — no copy has the ID of a requested dataset, and assets that share an ID
  have the same details.
* `addFlows_assetsKept_iff` — then and only then the plotter keeps the details computed for
  every flow.
* `addFlowInfoForAsset_realises_iff` — when the data stores of a flow have the interfaces
  the path was selected for.
-/

namespace Fybrik

/-- A copy made for an edge: what is copied, where to, and in which format. -/
structure Copied where
  sourceID : String
  bucket : ProvisionedBucket
  format : DataFormat
  deriving DecidableEq

/-- The asset that is created for a copy. -/
def Copied.assetID (c : Copied) : String := c.sourceID ++ "-copy"

/-- The assets a step refers to. -/
def DataFlowStep.assetIDs (step : DataFlowStep) : List String :=
  match step.parameters with
  | none => []
  | some parameters => (parameters.source.map StepSource.assetID).toList ++
      (parameters.sink.map StepSink.assetID).toList

/-- The assets the steps of some subflows refer to. -/
def stepAssetIDs (subFlows : List SubFlow) : List String :=
  subFlows.flatMap fun subFlow => subFlow.steps.flatten.flatMap DataFlowStep.assetIDs

namespace PlotterGenerator

variable (p : PlotterGenerator) (application : FybrikApplication) (item : DataInfo)

/-! ## Copies along a path -/

/-- The details of the dataset, as the catalog has them. -/
def catalogDetails : AssetDetails :=
  { advertisedAssetID := ""
    dataStore :=
      { vault := GoMap.ofList [(DataFlow.readFlow.text,
          vaultSecret p.settings item.dataDetails.credentials)]
        connection := item.dataDetails.details.connection
        format := item.dataDetails.details.dataFormat } }

/-- The details of a copy. -/
def copyDetails (c : Copied) : AssetDetails :=
  let vault := vaultSecret p.settings
    (pathForReadingKubeSecret c.bucket.secretRef.namespace c.bucket.secretRef.name)
  { advertisedAssetID := c.sourceID
    dataStore :=
      { vault := GoMap.ofList [(DataFlow.writeFlow.text, vault), (DataFlow.readFlow.text, vault)]
        connection := ⟨"s3", GoMap.ofList [("s3", .obj
          [("endpoint", .str c.bucket.endpoint), ("bucket", .str c.bucket.name),
           ("object_key", .str (p.copyObjectKey item))])]⟩
        format := c.format } }

/-- The copies made along a path, the first edge of which reads the asset `id`. -/
inductive CopiesFrom : String → List ResolvedEdge → List Copied → Prop
  | nil (id : String) : CopiesFrom id [] []
  | read {id : String} {e : ResolvedEdge} {path : List ResolvedEdge} {copies : List Copied}
      (hvirtual : e.sink.virtual = true) (tail : CopiesFrom id path copies) :
      CopiesFrom id (e :: path) copies
  | copy {id : String} {e : ResolvedEdge} {path : List ResolvedEdge} {copies : List Copied}
      {bucket : ProvisionedBucket} {destination : InterfaceDetails}
      (hvirtual : e.sink.virtual = false)
      (hbucket : p.allocateBucket (p.bucketName item.context.dataSetID) e.storageAccountRegion
        = .ok bucket)
      (hdestination : e.sink.connection = some destination)
      (tail : CopiesFrom (id ++ "-copy") path copies) :
      CopiesFrom id (e :: path) (⟨id, bucket, destination.dataFormat⟩ :: copies)

/-- The copies that a path asks for: one for every edge whose sink is a data store, in the
region selected for the edge. -/
def copiesAlong : String → List ResolvedEdge → List Copied
  | _, [] => []
  | id, e :: path =>
    if e.sink.virtual then copiesAlong id path
    else
      match p.allocateBucket (p.bucketName item.context.dataSetID) e.storageAccountRegion,
          e.sink.connection with
      | .ok bucket, some destination =>
        ⟨id, bucket, destination.dataFormat⟩ :: copiesAlong (id ++ "-copy") path
      -- no flow is generated along such a path
      | _, _ => []

/-- What the loop over a path has stored. -/
structure Stored (path : List ResolvedEdge) (st : PathState) (copies : List Copied) : Prop where
  made : p.CopiesFrom item item.context.dataSetID path copies
  datasetID : st.datasetID = runningID item.context.dataSetID path
  assets : st.assets = GoMap.ofList ((item.context.dataSetID, p.catalogDetails item) ::
    copies.map fun c => (c.assetID, p.copyDetails item c))
  provisioned : st.provisioned = copies.map fun c => (item.context.dataSetID, c.bucket)

variable {p application item} {path : List ResolvedEdge} {id : String} {copies : List Copied}

theorem CopiesFrom.append {path' : List ResolvedEdge} {copies' : List Copied}
    (h : p.CopiesFrom item id path copies)
    (h' : p.CopiesFrom item (runningID id path) path' copies') :
    p.CopiesFrom item id (path ++ path') (copies ++ copies') := by
  induction h with
  | nil id => exact h'
  | read hvirtual _ ih =>
    refine .read hvirtual (ih ?_)
    rwa [runningID, List.foldl_cons, nextID, if_pos hvirtual] at h'
  | copy hvirtual hbucket hdestination _ ih =>
    refine .copy hvirtual hbucket hdestination (ih ?_)
    rwa [runningID, List.foldl_cons, nextID, hvirtual, if_neg Bool.false_ne_true] at h'

/-- The copies that are made are those the path asks for. -/
theorem CopiesFrom.eq_copiesAlong (h : p.CopiesFrom item id path copies) :
    copies = p.copiesAlong item id path := by
  induction h with
  | nil => rfl
  | read hvirtual _ ih => rw [copiesAlong, if_pos hvirtual, ih]
  | copy hvirtual hbucket hdestination _ ih =>
    rw [copiesAlong, hvirtual, if_neg Bool.false_ne_true, hbucket, hdestination, ih]

/-- What `GetCopyDestination` returns. -/
theorem getCopyDestination_eq_ok {destination : Option InterfaceDetails} {geo : String}
    {provisioned provisioned' : List (String × ProvisionedBucket)} {store : DataStore}
    (h : p.getCopyDestination item destination geo provisioned = .ok (store, provisioned'))
    (id : String) :
    ∃ bucket i, p.allocateBucket (p.bucketName item.context.dataSetID) geo = .ok bucket ∧
      destination = some i ∧
      (⟨id, store⟩ : AssetDetails) = p.copyDetails item ⟨id, bucket, i.dataFormat⟩ ∧
      provisioned' = provisioned ++ [(item.context.dataSetID, bucket)] := by
  unfold getCopyDestination at h
  split at h
  · cases h
  · rename_i bucket hbucket
    split at h
    · cases h
    · split at h
      · cases h
      · rename_i i
        obtain ⟨rfl, rfl⟩ := Prod.mk.inj (Except.ok.inj h)
        exact ⟨bucket, i, hbucket, rfl, rfl, rfl⟩

/-- One edge: a copy is stored, or nothing. -/
theorem addElement_stored {st : PathState} (h : ∃ copies, p.Stored item path st copies)
    (e : ResolvedEdge) :
    Loops.Ends (fun st' => ∃ copies, p.Stored item (path ++ [e]) st' copies) (fun _ => True)
      (p.addElement application item st e) := by
  obtain ⟨copies, h⟩ := h
  have hid : runningID item.context.dataSetID (path ++ [e]) = nextID st.datasetID e := by
    rw [h.datasetID, runningID, runningID, List.foldl_append]
    rfl
  unfold addElement
  split
  · trivial
  · trivial
  · cases hvirtual : e.sink.virtual with
    | true =>
      refine ⟨copies, ?_, ?_, h.assets, h.provisioned⟩
      · have hmade := h.made.append (.read hvirtual (.nil _))
        rwa [List.append_nil] at hmade
      · rw [hid, nextID, if_pos hvirtual]
    | false =>
      simp only [Bool.not_false, if_true]
      split
      · trivial
      · rename_i store provisioned hdestination
        obtain ⟨bucket, i, hbucket, hi, hdetails, rfl⟩ :=
          getCopyDestination_eq_ok hdestination st.datasetID
        refine ⟨copies ++ [⟨st.datasetID, bucket, i.dataFormat⟩], ?_, ?_, ?_, ?_⟩
        · rw [h.datasetID]
          exact h.made.append (.copy hvirtual hbucket hi (.nil _))
        · rw [hid, nextID, hvirtual, if_neg Bool.false_ne_true]
        · rw [h.assets, List.map_append, ← List.cons_append, GoMap.ofList, GoMap.ofList,
            GoMap.setAll_append, hdetails]
          rfl
        · rw [h.provisioned, List.map_append]
          rfl

variable {info : FlowInfo}

/-- The assets of a flow are the dataset and its copies, and their buckets are recorded. -/
theorem generateFlow_assets (h : p.generateFlow application item = .ok info) :
    ∃ path copies, p.selectPath application item = some path ∧
      StepsFrom p application item.context.dataSetID path info.flow.subFlows ∧
      p.CopiesFrom item item.context.dataSetID path copies ∧
      info.assets = GoMap.ofList ((item.context.dataSetID, p.catalogDetails item) ::
        copies.map fun c => (c.assetID, p.copyDetails item c)) ∧
      info.provisioned = copies.map fun c => (item.context.dataSetID, c.bucket) := by
  obtain ⟨path, hpath, -, -, hsteps⟩ := generateFlow_eq_ok h
  unfold generateFlow at h
  rw [hpath] at h
  have hstored : Loops.Ends (fun st => ∃ copies, p.Stored item path st copies) (fun _ => True)
      (path.foldlM (p.addElement application item) (p.startState item)) :=
    Loops.foldlM_ends (P := fun path st => ∃ copies, p.Stored item path st copies)
      (fun _ _ e hst => addElement_stored hst e) [] path ⟨[], .nil _, rfl, rfl, rfl⟩
  simp only at h
  split at h
  · cases h
  · rename_i st hst
    rw [hst] at hstored
    obtain ⟨copies, hstored⟩ := hstored
    split at h
    · cases h
    · cases h
      exact ⟨path, copies, hpath, hsteps, hstored.made, hstored.assets, hstored.provisioned⟩

/-- Every copy has a longer ID than what was there before. -/
theorem CopiesFrom.pairwise_length (h : p.CopiesFrom item id path copies) :
    (id :: copies.map Copied.assetID).Pairwise fun a b => a.length < b.length := by
  induction h with
  | nil id => exact List.pairwise_singleton _ _
  | read _ _ ih => exact ih
  | @copy id e path copies bucket destination _ _ _ _ ih =>
    have hlt : id.length < (id ++ "-copy").length := by
      rw [String.length_append]
      exact Nat.lt_add_of_pos_right (by decide)
    refine List.pairwise_cons.2 ⟨fun x hx => ?_, ih⟩
    rcases List.mem_cons.1 hx with rfl | hx
    · exact hlt
    · exact hlt.trans ((List.pairwise_cons.1 ih).1 x hx)

variable {details : AssetDetails}

/-- The dataset and its copies keep their entries in the map of the flow. -/
theorem CopiesFrom.lookup_assets (h : p.CopiesFrom item item.context.dataSetID path copies) :
    (GoMap.ofList ((item.context.dataSetID, p.catalogDetails item) ::
      copies.map fun c => (c.assetID, p.copyDetails item c))).lookup id = some details ↔
    (id = item.context.dataSetID ∧ details = p.catalogDetails item) ∨
      ∃ c ∈ copies, id = c.assetID ∧ details = p.copyDetails item c := by
  have hnodup : (((item.context.dataSetID, p.catalogDetails item) ::
      copies.map fun c => (c.assetID, p.copyDetails item c)).map Prod.fst).Nodup := by
    rw [List.map_cons, List.map_map]
    exact h.pairwise_length.imp fun hlt heq => absurd (heq ▸ hlt) (Nat.lt_irrefl _)
  rw [← GoMap.mem_pairs, (GoMap.ofList_pairs_perm_of_nodup hnodup).mem_iff, List.mem_cons,
    List.mem_map]
  simp only [Prod.mk.injEq, eq_comm]

theorem stepAssetIDs_readSubFlow (e : ResolvedEdge) (id : String) (api : Option ResourceDetails)
    (subFlows : List SubFlow) :
    stepAssetIDs (readSubFlow e id api :: subFlows) = id :: stepAssetIDs subFlows := rfl

theorem stepAssetIDs_copySubFlow (e : ResolvedEdge) (id id' : String)
    (api : Option ResourceDetails) (subFlows : List SubFlow) :
    stepAssetIDs (copySubFlow e id id' api :: subFlows) = id :: id' :: stepAssetIDs subFlows := rfl

theorem StepsFrom.of_virtual {e : ResolvedEdge} {subFlows : List SubFlow}
    (h : StepsFrom p application id (e :: path) subFlows) (hvirtual : e.sink.virtual = true) :
    ∃ api rest, subFlows = readSubFlow e id api :: rest ∧
      StepsFrom p application id path rest := by
  cases h with
  | cons head tail =>
    obtain ⟨api, -, rfl⟩ := head
    rw [nextID, if_pos hvirtual] at tail
    exact ⟨api, _, by rw [if_pos hvirtual], tail⟩

theorem StepsFrom.of_not_virtual {e : ResolvedEdge} {subFlows : List SubFlow}
    (h : StepsFrom p application id (e :: path) subFlows) (hvirtual : e.sink.virtual = false) :
    ∃ api rest, subFlows = copySubFlow e id (id ++ "-copy") api :: rest ∧
      StepsFrom p application (id ++ "-copy") path rest := by
  cases h with
  | cons head tail =>
    obtain ⟨api, -, rfl⟩ := head
    rw [nextID, hvirtual, if_neg Bool.false_ne_true] at tail
    exact ⟨api, _, by rw [hvirtual, if_neg Bool.false_ne_true], tail⟩

/-- The steps refer to the asset that is read first and to its copies. -/
theorem StepsFrom.mem_stepAssetIDs {subFlows : List SubFlow}
    (h : StepsFrom p application id path subFlows) (hcopies : p.CopiesFrom item id path copies)
    (x : String) : x = id ∨ x ∈ stepAssetIDs subFlows ↔ x = id ∨ ∃ c ∈ copies, x = c.assetID := by
  induction hcopies generalizing subFlows with
  | nil id =>
    cases h
    simp [stepAssetIDs]
  | read hvirtual _ ih =>
    obtain ⟨api, rest, rfl, tail⟩ := h.of_virtual hvirtual
    rw [stepAssetIDs_readSubFlow, List.mem_cons, ← or_assoc, or_self, ih tail]
  | copy hvirtual _ _ _ ih =>
    obtain ⟨api, rest, rfl, tail⟩ := h.of_not_virtual hvirtual
    rw [stepAssetIDs_copySubFlow, List.mem_cons, List.mem_cons, ← or_assoc, or_self, ih tail,
      List.exists_mem_cons_iff]
    rfl

/-- A selected path is a data path, filled in. -/
theorem exists_isDataPath_of_selectPath (h : p.selectPath application item = some path) :
    ∃ found, IsDataPath p item (sourceNode item) (destinationNode item application) found ∧
      path.map ResolvedEdge.toEdge = found.map ResolvedEdge.toEdge := by
  obtain ⟨s, hs, rfl⟩ := Option.map_eq_some_iff.1 h
  obtain ⟨found, hfound, hvalid⟩ := mem_findPaths_iff.1 (List.mem_of_mem_head? hs)
  exact ⟨found, (found_iff.1 hfound).1, validate_edges hvalid⟩

theorem ne_nil_of_selectPath (h : p.selectPath application item = some path) : path ≠ [] := by
  obtain ⟨found, hfound, hedges⟩ := exists_isDataPath_of_selectPath h
  rintro rfl
  exact hfound.ne_nil (List.map_eq_nil_iff.1 hedges.symm)

theorem StepsFrom.mem_stepAssetIDs_self {subFlows : List SubFlow}
    (h : StepsFrom p application id path subFlows) (hne : path ≠ []) :
    id ∈ stepAssetIDs subFlows := by
  cases h with
  | nil => exact absurd rfl hne
  | cons head _ =>
    obtain ⟨api, -, rfl⟩ := head
    split
    · rw [stepAssetIDs_readSubFlow]
      exact List.mem_cons_self
    · rw [stepAssetIDs_copySubFlow]
      exact List.mem_cons_self

/-- The assets computed for a flow are those its steps refer to. -/
theorem mem_stepAssetIDs_iff (h : p.generateFlow application item = .ok info) {x : String} :
    x ∈ stepAssetIDs info.flow.subFlows ↔ (info.assets.lookup x).isSome = true := by
  obtain ⟨path, copies, hpath, hsteps, hcopies, hassets, -⟩ := generateFlow_assets h
  have hself := hsteps.mem_stepAssetIDs_self (ne_nil_of_selectPath hpath)
  have hall : x ∈ stepAssetIDs info.flow.subFlows ↔
      x = item.context.dataSetID ∨ ∃ c ∈ copies, x = c.assetID := by
    rw [← hsteps.mem_stepAssetIDs hcopies]
    exact ⟨Or.inr, fun hx => hx.elim (fun heq => heq ▸ hself) id⟩
  rw [hall, hassets, Option.isSome_iff_exists, GoMap.exists_lookup_ofList_iff, List.map_cons,
    List.mem_cons, List.map_map, List.mem_map]
  simp only [Function.comp_apply, eq_comm (a := x)]

/-! ## Does the plotter keep the assets of every flow? -/

/-- The assets that the steps of each flow refer to are the ones computed for the flow. -/
def AssetsKept (spec : PlotterSpec) (infos : List FlowInfo) : Prop :=
  List.Forall₂ (fun flow info => flow = info.flow ∧ ∀ id ∈ stepAssetIDs flow.subFlows,
    (info.assets.lookup id).isSome = true ∧ spec.assets.lookup id = info.assets.lookup id)
    spec.flows infos

instance (spec : PlotterSpec) (infos : List FlowInfo) : Decidable (AssetsKept spec infos) :=
  inferInstanceAs (Decidable (List.Forall₂ _ _ _))

variable {requirements : List DataInfo}

theorem mem_generatedFlows :
    info ∈ p.generatedFlows application requirements ↔
      ∃ item ∈ requirements, p.generateFlow application item = .ok info := by
  rw [generatedFlows, List.mem_filterMap]
  refine exists_congr fun item => and_congr_right fun _ => ?_
  cases p.generateFlow application item <;> simp [Except.toOption]

theorem foldl_addFlow_assets (infos : List FlowInfo) (spec : PlotterSpec) :
    (infos.foldl PlotterSpec.addFlow spec).assets
      = spec.assets.setAll (infos.flatMap fun info => info.assets.pairs) := by
  induction infos generalizing spec with
  | nil => rfl
  | cons info infos ih =>
    rw [List.foldl_cons, ih, List.flatMap_cons, GoMap.setAll_append, PlotterSpec.addFlow]

variable {errs : List (String × String)}

/-- The plotter consists of the flows that were generated, and its assets are theirs. -/
theorem addFlows_spec {g : Generation}
    (h : p.addFlows application (p.newGeneration application) requirements = some (g, errs)) :
    g.plotterSpec.flows = (p.generatedFlows application requirements).map FlowInfo.flow ∧
    g.plotterSpec.assets = GoMap.ofList
      ((p.generatedFlows application requirements).flatMap fun info => info.assets.pairs) := by
  rw [(addFlows_eq_some h).1, foldl_addFlow_flows, foldl_addFlow_assets]
  exact ⟨rfl, rfl⟩

/-- The plotter keeps the assets of every flow if it keeps whatever was computed. -/
theorem assetsKept_iff {g : Generation}
    (h : p.addFlows application (p.newGeneration application) requirements = some (g, errs)) :
    AssetsKept g.plotterSpec (p.generatedFlows application requirements) ↔
      ∀ info ∈ p.generatedFlows application requirements,
      ∀ (id : String) (details : AssetDetails), info.assets.lookup id = some details →
        g.plotterSpec.assets.lookup id = some details := by
  rw [AssetsKept, (addFlows_spec h).1, List.forall₂_map_left_iff, List.forall₂_same]
  refine forall₂_congr fun info hinfo => ?_
  obtain ⟨item, -, hitem⟩ := mem_generatedFlows.1 hinfo
  rw [and_iff_right rfl]
  constructor
  · intro hkept id details hdetails
    have hid : id ∈ stepAssetIDs info.flow.subFlows := by
      rw [mem_stepAssetIDs_iff hitem, hdetails]
      rfl
    rw [(hkept id hid).2, hdetails]
  · intro hkept id hid
    have hsome := (mem_stepAssetIDs_iff hitem).1 hid
    obtain ⟨details, hdetails⟩ := Option.isSome_iff_exists.1 hsome
    exact ⟨hsome, by rw [hkept id details hdetails, hdetails]⟩

/-- A flow is generated for the dataset, along this path. -/
def Plotted (p : PlotterGenerator) (application : FybrikApplication) (item : DataInfo)
    (path : List ResolvedEdge) : Prop :=
  p.selectPath application item = some path ∧ ∃ info, p.generateFlow application item = .ok info

/-- Two datasets and the copies along their paths have no ID in common, except for assets
with the same details. -/
structure AgreeOnAssets (p : PlotterGenerator) (item item' : DataInfo)
    (path path' : List ResolvedEdge) : Prop where
  dataset : item.context.dataSetID = item'.context.dataSetID →
    p.catalogDetails item = p.catalogDetails item'
  fresh : ∀ c ∈ p.copiesAlong item item.context.dataSetID path,
    c.assetID ≠ item'.context.dataSetID
  copies : ∀ c ∈ p.copiesAlong item item.context.dataSetID path,
    ∀ c' ∈ p.copiesAlong item' item'.context.dataSetID path', c.assetID = c'.assetID →
      p.copyDetails item c = p.copyDetails item' c'

/-- Any two datasets of the plotter agree on their assets. -/
def AssetsAgree (p : PlotterGenerator) (application : FybrikApplication)
    (requirements : List DataInfo) : Prop :=
  ∀ item ∈ requirements, ∀ item' ∈ requirements, ∀ path path',
    p.Plotted application item path → p.Plotted application item' path' →
      p.AgreeOnAssets item item' path path'

/-- The catalog gives credentials for reading only, a copy is written as well. -/
theorem catalogDetails_ne_copyDetails (p : PlotterGenerator) (item item' : DataInfo) (c : Copied) :
    p.catalogDetails item ≠ p.copyDetails item' c := by
  intro heq
  have hwrite := congrArg
    (fun details : AssetDetails => (details.dataStore.vault.lookup "write").isSome) heq
  exact Bool.false_ne_true hwrite

/-- The assets computed for a flow: the dataset and the copies along the path. -/
theorem lookup_assets_iff (hinfo : p.generateFlow application item = .ok info)
    (hpath : p.selectPath application item = some path) :
    info.assets.lookup id = some details ↔
      (id = item.context.dataSetID ∧ details = p.catalogDetails item) ∨
        ∃ c ∈ p.copiesAlong item item.context.dataSetID path,
          id = c.assetID ∧ details = p.copyDetails item c := by
  obtain ⟨path', copies, hpath', -, hcopies, hassets, -⟩ := generateFlow_assets hinfo
  obtain rfl := Option.some.inj (hpath.symm.trans hpath')
  rw [hassets, hcopies.lookup_assets, ← hcopies.eq_copiesAlong]

section

variable {item' : DataInfo} {info info' : FlowInfo} {path path' : List ResolvedEdge}

theorem eq_of_agreeOnAssets (hinfo : p.generateFlow application item = .ok info)
    (hpath : p.selectPath application item = some path)
    (hinfo' : p.generateFlow application item' = .ok info')
    (hpath' : p.selectPath application item' = some path')
    (h : p.AgreeOnAssets item item' path path') (h' : p.AgreeOnAssets item' item path' path)
    {id : String} {details details' : AssetDetails} (hdetails : info.assets.lookup id = some details)
    (hdetails' : info'.assets.lookup id = some details') : details = details' := by
  rcases (lookup_assets_iff hinfo hpath).1 hdetails with ⟨rfl, rfl⟩ | ⟨c, hc, rfl, rfl⟩
  · rcases (lookup_assets_iff hinfo' hpath').1 hdetails' with ⟨hid, rfl⟩ | ⟨c', hc', hid, rfl⟩
    · exact h.dataset hid
    · exact absurd hid.symm (h'.fresh c' hc')
  · rcases (lookup_assets_iff hinfo' hpath').1 hdetails' with ⟨hid, rfl⟩ | ⟨c', hc', hid, rfl⟩
    · exact absurd hid (h.fresh c hc)
    · exact h.copies c hc c' hc' hid

theorem agreeOnAssets_of_eq (hinfo : p.generateFlow application item = .ok info)
    (hpath : p.selectPath application item = some path)
    (hinfo' : p.generateFlow application item' = .ok info')
    (hpath' : p.selectPath application item' = some path')
    (h : ∀ (id : String) (details details' : AssetDetails), info.assets.lookup id = some details →
      info'.assets.lookup id = some details' → details = details') :
    p.AgreeOnAssets item item' path path' := by
  simp only [lookup_assets_iff hinfo hpath, lookup_assets_iff hinfo' hpath'] at h
  refine ⟨?_, ?_, ?_⟩
  · intro hid
    exact h _ _ _ (.inl ⟨rfl, rfl⟩) (.inl ⟨hid, rfl⟩)
  · intro c hc hid
    exact catalogDetails_ne_copyDetails p item' item c
      (h _ _ _ (.inr ⟨c, hc, rfl, rfl⟩) (.inl ⟨hid, rfl⟩)).symm
  · intro c hc c' hc' hid
    exact h _ _ _ (.inr ⟨c, hc, rfl, rfl⟩) (.inr ⟨c', hc', hid, rfl⟩)

end

/-- The map of the plotter has whatever was computed for a flow exactly if the datasets
agree on their assets. -/
theorem lookup_kept_iff_assetsAgree {g : Generation}
    (h : p.addFlows application (p.newGeneration application) requirements = some (g, errs)) :
    (∀ info ∈ p.generatedFlows application requirements, ∀ (id : String) (details : AssetDetails),
      info.assets.lookup id = some details → g.plotterSpec.assets.lookup id = some details) ↔
    p.AssetsAgree application requirements := by
  have hagree := GoMap.forall_lookup_ofList_iff
    (l := (p.generatedFlows application requirements).flatMap fun info => info.assets.pairs)
  simp only [Prod.forall, List.mem_flatMap, GoMap.mem_pairs, forall_exists_index, and_imp] at hagree
  rw [(addFlows_spec h).2]
  constructor
  · rintro hkept item hitem item' hitem' path path' ⟨hpath, info, hinfo⟩ ⟨hpath', info', hinfo'⟩
    refine agreeOnAssets_of_eq hinfo hpath hinfo' hpath' fun id details details' hdetails hdetails' => ?_
    exact hagree.1 (fun id details info hinfo => hkept info hinfo id details) id details info
      (mem_generatedFlows.2 ⟨item, hitem, hinfo⟩) hdetails id details' info'
      (mem_generatedFlows.2 ⟨item', hitem', hinfo'⟩) hdetails' rfl
  · intro hassets info hinfo id details hdetails
    refine hagree.2 ?_ id details info hinfo hdetails
    rintro id₁ details₁ info₁ hmem₁ hdetails₁ _ details₂ info₂ hmem₂ hdetails₂ rfl
    obtain ⟨item₁, hitem₁, hinfo₁⟩ := mem_generatedFlows.1 hmem₁
    obtain ⟨item₂, hitem₂, hinfo₂⟩ := mem_generatedFlows.1 hmem₂
    obtain ⟨path₁, hpath₁, -⟩ := generateFlow_eq_ok hinfo₁
    obtain ⟨path₂, hpath₂, -⟩ := generateFlow_eq_ok hinfo₂
    exact eq_of_agreeOnAssets hinfo₁ hpath₁ hinfo₂ hpath₂
      (hassets item₁ hitem₁ item₂ hitem₂ path₁ path₂ ⟨hpath₁, _, hinfo₁⟩ ⟨hpath₂, _, hinfo₂⟩)
      (hassets item₂ hitem₂ item₁ hitem₁ path₂ path₁ ⟨hpath₂, _, hinfo₂⟩ ⟨hpath₁, _, hinfo₁⟩)
      hdetails₁ hdetails₂

/-- When the plotter keeps the assets of every flow: exactly if no copy has the ID of a
requested dataset, and datasets and copies that share an ID have the same details. -/
theorem addFlows_assetsKept_iff (p : PlotterGenerator) (application : FybrikApplication)
    (requirements : List DataInfo) (g : Generation) (errs : List (String × String))
    (h : p.addFlows application (p.newGeneration application) requirements = some (g, errs)) :
    AssetsKept g.plotterSpec (p.generatedFlows application requirements) ↔
      p.AssetsAgree application requirements := by
  rw [assetsKept_iff h, lookup_kept_iff_assetsAgree h]

/-- Two tables, each of which is copied. -/
def twoTables : List DataInfo := [arrowItem "xxx" ⟨"db2", "table"⟩, arrowItem "yyy" ⟨"db2", "table"⟩]

theorem twoTables_assetsAgree : copyGenerator.AssetsAgree notebookApplication twoTables := by
  have hagree : ∀ item ∈ twoTables, ∀ item' ∈ twoTables,
      ∀ path ∈ copyGenerator.selectPath notebookApplication item,
      ∀ path' ∈ copyGenerator.selectPath notebookApplication item',
        (item.context.dataSetID = item'.context.dataSetID →
          copyGenerator.catalogDetails item = copyGenerator.catalogDetails item') ∧
        (∀ c ∈ copyGenerator.copiesAlong item item.context.dataSetID path,
          c.assetID ≠ item'.context.dataSetID) ∧
        ∀ c ∈ copyGenerator.copiesAlong item item.context.dataSetID path,
          ∀ c' ∈ copyGenerator.copiesAlong item' item'.context.dataSetID path',
            c.assetID = c'.assetID →
              copyGenerator.copyDetails item c = copyGenerator.copyDetails item' c' := by
    decide +kernel
  rintro item hitem item' hitem' path path' ⟨hpath, -⟩ ⟨hpath', -⟩
  obtain ⟨hdataset, hfresh, hcopies⟩ := hagree item hitem item' hitem' path hpath path' hpath'
  exact ⟨hdataset, hfresh, hcopies⟩

/-- The assets of the two tables and of their copies are kept. -/
theorem addFlows_tables_assetsKept :
    ∃ g, copyGenerator.addFlows notebookApplication
        (copyGenerator.newGeneration notebookApplication) twoTables = some (g, []) ∧
      (∀ id ∈ ["xxx-copy", "yyy-copy"], (g.plotterSpec.assets.lookup id).isSome = true) ∧
      AssetsKept g.plotterSpec (copyGenerator.generatedFlows notebookApplication twoTables) :=
  ⟨_, rfl, by decide +kernel, (addFlows_assetsKept_iff _ _ _ _ [] rfl).2 twoTables_assetsAgree⟩

/-- The copy of the first table has the ID of the second one: the server reads the second
table instead of the copy. -/
theorem addFlows_copy_not_assetsKept :
    ∃ g, copyGenerator.addFlows notebookApplication
        (copyGenerator.newGeneration notebookApplication)
        [arrowItem "xxx" ⟨"db2", "table"⟩, arrowItem "xxx-copy" ⟨"db2", "table"⟩] = some (g, []) ∧
      ¬ AssetsKept g.plotterSpec (copyGenerator.generatedFlows notebookApplication
        [arrowItem "xxx" ⟨"db2", "table"⟩, arrowItem "xxx-copy" ⟨"db2", "table"⟩]) := by
  refine ⟨_, rfl, fun h => ?_⟩
  have hcopy := ((List.forall₂_cons.1 h).1.2 "xxx-copy" (by decide)).2
  exact absurd hcopy (by decide +kernel)

/-! ## Do the data stores have the interfaces of the path? -/

/-- The data store of an asset has the protocol and the format of a node. -/
def HoldsInterface (spec : PlotterSpec) (id : String) (node : Node) : Prop :=
  ∃ details, spec.assets.lookup id = some details ∧
    node.connection = some ⟨details.dataStore.connection.name, details.dataStore.format⟩

/-- The step of a subflow reads and writes data stores with the interfaces of the edge. -/
def Realises (spec : PlotterSpec) (subFlow : SubFlow) (e : ResolvedEdge) : Prop :=
  ∃ step parameters source, subFlow.steps = [[step]] ∧ step.parameters = some parameters ∧
    parameters.source = some source ∧ HoldsInterface spec source.assetID e.source ∧
    ∀ sink, parameters.sink = some sink → HoldsInterface spec sink.assetID e.sink

theorem realises_readSubFlow_iff {spec : PlotterSpec} {e e' : ResolvedEdge}
    {api : Option ResourceDetails} :
    Realises spec (readSubFlow e id api) e' ↔ HoldsInterface spec id e'.source := by
  constructor
  · rintro ⟨step, parameters, source, hstep, hparameters, hsource, hholds, -⟩
    obtain rfl := List.singleton_inj.1 (List.singleton_inj.1 hstep)
    cases hparameters
    cases hsource
    exact hholds
  · intro hholds
    exact ⟨_, _, _, rfl, rfl, rfl, hholds, by simp⟩

theorem realises_copySubFlow_iff {spec : PlotterSpec} {e e' : ResolvedEdge} {id' : String}
    {api : Option ResourceDetails} :
    Realises spec (copySubFlow e id id' api) e' ↔
      HoldsInterface spec id e'.source ∧ HoldsInterface spec id' e'.sink := by
  constructor
  · rintro ⟨step, parameters, source, hstep, hparameters, hsource, hholds, hsink⟩
    obtain rfl := List.singleton_inj.1 (List.singleton_inj.1 hstep)
    cases hparameters
    cases hsource
    exact ⟨hholds, hsink _ rfl⟩
  · rintro ⟨hholds, hsink⟩
    refine ⟨_, _, _, rfl, rfl, rfl, hholds, fun sink hcopy => ?_⟩
    cases hcopy
    exact hsink

/-- Along a selected path every edge but the last hands the data to the next one, in a
data store. -/
theorem isChain_of_selectPath (h : p.selectPath application item = some path) :
    path.IsChain (fun e e' => e.sink.virtual = false ∧ e'.source = e.sink) ∧
      ∀ e ∈ path.head?, e.source = sourceNode item := by
  obtain ⟨found, hfound, hedges⟩ := exists_isDataPath_of_selectPath h
  constructor
  · have hchain : (found.map ResolvedEdge.toEdge).IsChain
        fun e e' => e.sink.virtual = false ∧ e'.source = e.sink := by
      rw [List.isChain_map]
      refine hfound.linked.imp fun e e' hlinked => ?_
      obtain ⟨inter, -, hsource, hsink, -⟩ := hlinked
      exact ⟨by rw [hsink], by rw [hsource, hsink]⟩
    rwa [← hedges, List.isChain_map] at hchain
  · intro e he
    have hhead : e.toEdge ∈ (found.map ResolvedEdge.toEdge).head? := by
      rw [← hedges, List.head?_map, Option.mem_def.1 he]
      rfl
    rw [List.head?_map] at hhead
    obtain ⟨e₀, he₀, heq⟩ := Option.map_eq_some_iff.1 hhead
    rw [← heq]
    exact (hfound.starts e₀ he₀).1

section

variable {spec : PlotterSpec} {id : String} {path : List ResolvedEdge} {subFlows : List SubFlow}
  {copies : List Copied}

/-- If every copy goes to an object store, the data stores have the interfaces of the
edges: those of the copies by construction, and each edge reads what the one before it has
written. -/
theorem StepsFrom.realises (h : StepsFrom p application id path subFlows)
    (hcopies : p.CopiesFrom item id path copies)
    (hassets : ∀ c ∈ copies, spec.assets.lookup c.assetID = some (p.copyDetails item c))
    (hchain : path.IsChain fun e e' => e.sink.virtual = false ∧ e'.source = e.sink)
    (hfirst : ∀ e ∈ path.head?, HoldsInterface spec id e.source)
    (hstores : ∀ e ∈ path, e.sink.virtual = false → ∀ i, e.sink.connection = some i →
      i.protocol = "s3") :
    List.Forall₂ (Realises spec) subFlows path := by
  induction hcopies generalizing subFlows with
  | nil id =>
    cases h
    exact .nil
  | @read id e path copies hvirtual _ ih =>
    obtain ⟨api, rest, rfl, tail⟩ := h.of_virtual hvirtual
    obtain ⟨hnext, hchain⟩ := List.isChain_cons.1 hchain
    refine .cons (realises_readSubFlow_iff.2 (hfirst e rfl)) (ih tail hassets hchain ?_ ?_)
    · -- only the last edge ends at an endpoint
      intro e' he'
      rw [(hnext e' he').1] at hvirtual
      exact absurd hvirtual Bool.false_ne_true
    · exact fun e' he' => hstores e' (List.mem_cons_of_mem _ he')
  | @copy id e path copies bucket destination hvirtual hbucket hdestination _ ih =>
    obtain ⟨api, rest, rfl, tail⟩ := h.of_not_virtual hvirtual
    obtain ⟨hnext, hchain⟩ := List.isChain_cons.1 hchain
    have hprotocol := hstores e List.mem_cons_self hvirtual destination hdestination
    have hsink : HoldsInterface spec (id ++ "-copy") e.sink := by
      refine ⟨_, hassets _ List.mem_cons_self, ?_⟩
      show e.sink.connection = some ⟨"s3", destination.dataFormat⟩
      rw [hdestination, ← hprotocol]
    refine .cons (realises_copySubFlow_iff.2 ⟨hfirst e rfl, hsink⟩) (ih tail ?_ hchain ?_ ?_)
    · exact fun c hc => hassets c (List.mem_cons_of_mem _ hc)
    · intro e' he'
      rw [(hnext e' he').2]
      exact hsink
    · exact fun e' he' => hstores e' (List.mem_cons_of_mem _ he')

/-- The data store of a copy is an object store, so only edges that write to one are
realised. -/
theorem StepsFrom.protocol_of_realises (h : StepsFrom p application id path subFlows)
    (hcopies : p.CopiesFrom item id path copies)
    (hassets : ∀ c ∈ copies, spec.assets.lookup c.assetID = some (p.copyDetails item c))
    (hrealises : List.Forall₂ (Realises spec) subFlows path) {e : ResolvedEdge} (he : e ∈ path)
    (hvirtual : e.sink.virtual = false) {i : InterfaceDetails} (hi : e.sink.connection = some i) :
    i.protocol = "s3" := by
  induction hcopies generalizing subFlows with
  | nil => cases he
  | read hvirtual' _ ih =>
    obtain ⟨api, rest, rfl, tail⟩ := h.of_virtual hvirtual'
    rcases List.mem_cons.1 he with rfl | he
    · rw [hvirtual] at hvirtual'
      exact absurd hvirtual' Bool.false_ne_true
    · exact ih tail hassets (List.forall₂_cons.1 hrealises).2 he
  | copy hvirtual' _ _ _ ih =>
    obtain ⟨api, rest, rfl, tail⟩ := h.of_not_virtual hvirtual'
    obtain ⟨hcopy, hrest⟩ := List.forall₂_cons.1 hrealises
    rcases List.mem_cons.1 he with rfl | he
    · obtain ⟨-, details, hdetails, hsink⟩ := realises_copySubFlow_iff.1 hcopy
      obtain rfl := Option.some.inj ((hassets _ List.mem_cons_self).symm.trans hdetails)
      exact congrArg InterfaceDetails.protocol (Option.some.inj (hi.symm.trans hsink))
    · exact ih tail (fun c hc => hassets c (List.mem_cons_of_mem _ hc)) hrest he

end

/-- Right after a dataset was added, the plotter has the assets computed for it. -/
theorem lookup_addFlow (spec : PlotterSpec) (h : info.assets.lookup id = some details) :
    (spec.addFlow info).assets.lookup id = some details := by
  obtain ⟨details', hmem, hlookup⟩ := GoMap.lookup_setAll_of_mem spec.assets
    ⟨(id, details), GoMap.mem_pairs.2 h, rfl⟩
  rw [GoMap.mem_pairs, h] at hmem
  rw [PlotterSpec.addFlow, hlookup, Option.some.inj hmem]

/-- When the generated flow realises the interfaces of the selected path: exactly if every
edge that writes to a data store writes over the protocol `s3`, because a copy always goes
to an object store. -/
theorem addFlowInfoForAsset_realises_iff (p : PlotterGenerator) (application : FybrikApplication)
    (g g' : Generation) (item : DataInfo) (path : List ResolvedEdge) (flow : Flow)
    (hpath : p.selectPath application item = some path)
    (h : p.addFlowInfoForAsset application g item = some (g', none))
    (hflow : g'.plotterSpec.flows = g.plotterSpec.flows ++ [flow]) :
    List.Forall₂ (Realises g'.plotterSpec) flow.subFlows path ↔
      ∀ e ∈ path, e.sink.virtual = false → ∀ i, e.sink.connection = some i →
        i.protocol = "s3" := by
  rcases addFlowInfoForAsset_cases h with ⟨_, _, -, -, hnone⟩ | ⟨info, hinfo, rfl, -⟩
  · cases hnone
  obtain ⟨path', copies, hpath', hsteps, hcopies, hassets, -⟩ := generateFlow_assets hinfo
  obtain rfl := Option.some.inj (hpath.symm.trans hpath')
  obtain rfl : info.flow = flow := List.singleton_inj.1 (List.append_cancel_left hflow)
  have hlookup : ∀ c ∈ copies, (g.plotterSpec.addFlow info).assets.lookup c.assetID
      = some (p.copyDetails item c) := by
    intro c hc
    refine lookup_addFlow _ ?_
    rw [hassets, hcopies.lookup_assets]
    exact Or.inr ⟨c, hc, rfl, rfl⟩
  constructor
  · intro hrealises e he hvirtual i hi
    exact hsteps.protocol_of_realises hcopies hlookup hrealises he hvirtual hi
  · obtain ⟨hchain, hsource⟩ := isChain_of_selectPath hpath
    refine hsteps.realises hcopies hlookup hchain fun e he => ?_
    -- the first edge reads the dataset, whose interface is that of the catalog
    rw [hsource e he]
    refine ⟨p.catalogDetails item, lookup_addFlow _ ?_, rfl⟩
    rw [hassets, hcopies.lookup_assets]
    exact Or.inl ⟨rfl, rfl⟩

/-- A table is copied to an object store, as the path says. -/
theorem addFlowInfoForAsset_table_realises :
    ∃ path g flow,
      copyGenerator.selectPath notebookApplication (arrowItem "xxx" ⟨"db2", "table"⟩) = some path ∧
      copyGenerator.addFlowInfoForAsset notebookApplication
        (copyGenerator.newGeneration notebookApplication) (arrowItem "xxx" ⟨"db2", "table"⟩)
          = some (g, none) ∧
      g.plotterSpec.flows = [flow] ∧ path.length = 2 ∧
      List.Forall₂ (Realises g.plotterSpec) flow.subFlows path := by
  refine ⟨_, _, _, rfl, rfl, rfl, rfl, ?_⟩
  exact (addFlowInfoForAsset_realises_iff copyGenerator notebookApplication
    (copyGenerator.newGeneration notebookApplication) _ (arrowItem "xxx" ⟨"db2", "table"⟩) _ _
    rfl rfl rfl).2 (by decide +kernel)

/-- A generator with a module that copies tables to a message queue. -/
def queueGenerator : PlotterGenerator :=
  { copyGenerator with
    modules := GoMap.ofList
      [("mover", ⟨"mover", ⟨"service", [⟨"copy", .asset,
          [⟨some ⟨"db2", "table"⟩, some ⟨"kafka", "json"⟩⟩], none, []⟩], default⟩⟩),
       ("server", readerModule "server" ⟨"kafka", "json"⟩)] }

/-- The path goes through a message queue, but the flow through an object store. -/
theorem addFlowInfoForAsset_queue_not_realises :
    ∃ path g flow,
      queueGenerator.selectPath notebookApplication (arrowItem "xxx" ⟨"db2", "table"⟩) = some path ∧
      queueGenerator.addFlowInfoForAsset notebookApplication
        (queueGenerator.newGeneration notebookApplication) (arrowItem "xxx" ⟨"db2", "table"⟩)
          = some (g, none) ∧
      g.plotterSpec.flows = [flow] ∧
      ¬ List.Forall₂ (Realises g.plotterSpec) flow.subFlows path := by
  refine ⟨_, _, _, rfl, rfl, rfl, fun h => ?_⟩
  obtain ⟨-, details, hdetails, hsink⟩ := realises_copySubFlow_iff.1 (List.forall₂_cons.1 h).1
  cases hdetails
  exact absurd hsink (by decide +kernel)

end PlotterGenerator

end Fybrik
