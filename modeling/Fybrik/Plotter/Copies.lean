import Fybrik.Plotter.Assets

/-!
# Where copies are stored

The location of a copy is an endpoint, a bucket and an object key.  `GetCopyDestination`
takes the endpoint from the region of the edge, but the bucket and the key only from the
application and the dataset; and it records one bucket for each dataset.

* `DataStore.location` — the location that a connection to an object store names.
* `bucketName_inj` — buckets of different datasets have different names, as far as
  hashing tells the datasets apart.
* `CopiesSeparate` — no copy is stored where another one or its own source is, and every
  bucket is recorded.
* `addFlows_copiesSeparate_iff` — this is so exactly if no path copies twice and no copy
  goes to where the catalog has its dataset (`CopiesOnce`).
-/

namespace Fybrik

/-! ## Locations -/

/-- Where an object is stored. -/
structure Location where
  endpoint : String
  bucket : String
  objectKey : String
  deriving DecidableEq

/-- The location a data store names, if it is in an object store. -/
def DataStore.location (store : DataStore) : Option Location :=
  match store.connection.name, store.connection.additionalProperties.lookup "s3" with
  | "s3", some (.obj members) =>
    match Json.member members "endpoint", Json.member members "bucket",
        Json.member members "object_key" with
    | some (.str endpoint), some (.str bucket), some (.str objectKey) =>
      some ⟨endpoint, bucket, objectKey⟩
    | _, _, _ => none
  | _, _ => none

/-- The location of an asset. -/
def assetLocation (assets : GoMap String AssetDetails) (id : String) : Option Location :=
  (assets.lookup id).bind fun details => details.dataStore.location

/-- The source and the sink of a step that has both. -/
def DataFlowStep.copies (step : DataFlowStep) : List (String × String) :=
  match step.parameters with
  | some { source := some source, sink := some sink, .. } => [(source.assetID, sink.assetID)]
  | _ => []

/-- The sources and sinks of the copy steps of some subflows. -/
def copySteps (subFlows : List SubFlow) : List (String × String) :=
  subFlows.flatMap fun subFlow => subFlow.steps.flatten.flatMap DataFlowStep.copies

/-- No copy is stored where another copy or its own source is, and every bucket that was
allocated for a flow is recorded.  The map `assets` says where the assets of a flow are:
it is the one computed for the flow, or that of the plotter with all flows. -/
structure CopiesSeparate (assets : FlowInfo → GoMap String AssetDetails)
    (provisionedStorage : GoMap String ProvisionedBucket) (infos : List FlowInfo) : Prop where
  apart : ∀ info ∈ infos, ∀ info' ∈ infos, ∀ copy ∈ copySteps info.flow.subFlows,
    ∀ copy' ∈ copySteps info'.flow.subFlows, copy.2 ≠ copy'.2 →
      assetLocation (assets info) copy.2 ≠ assetLocation (assets info') copy'.2
  source : ∀ info ∈ infos, ∀ copy ∈ copySteps info.flow.subFlows,
    assetLocation (assets info) copy.1 ≠ assetLocation (assets info) copy.2
  recorded : ∀ info ∈ infos, ∀ ib ∈ info.provisioned, provisionedStorage.lookup ib.1 = some ib.2

namespace PlotterGenerator

variable {p : PlotterGenerator} {application : FybrikApplication} {item : DataInfo}
  {requirements : List DataInfo}

/-! ## Names of buckets -/

/-- `Hash` tells apart the datasets with these IDs, and the parts that are cut off when the
names of their buckets are too long; its digits are not dots. -/
structure HashSeparates (p : PlotterGenerator) (ids : List String) : Prop where
  digits : ∀ id ∈ ids, '.' ∉ (hash p.sha512 id 10).toList
  datasets : ∀ id ∈ ids, ∀ id' ∈ ids, hash p.sha512 id 10 = hash p.sha512 id' 10 → id = id'
  cuts : ∀ id ∈ ids, ∀ id' ∈ ids,
    hash p.sha512 (dropChars (bucketText p.sha512 p.owner id) 57) 5
      = hash p.sha512 (dropChars (bucketText p.sha512 p.owner id') 57) 5 →
    dropChars (bucketText p.sha512 p.owner id) 57
      = dropChars (bucketText p.sha512 p.owner id') 57

theorem takeChars_append_dropChars (s : String) (n : ℕ) : takeChars s n ++ dropChars s n = s := by
  simp [takeChars, dropChars, ← String.ofList_append]

theorem length_bucketText (sha : Sha512) (owner : NamespacedName) (id : String) :
    (bucketText sha owner id).length = (owner.name ++ "-" ++ owner.namespace).length + 10 := by
  have hreplace : ∀ s : String, (replaceDots s).length = s.length := by
    intro s
    rw [replaceDots, String.length_ofList, List.length_map, String.length_toList]
  rw [bucketText, hreplace, String.length_append, length_hash (by decide)]

/-- Buckets of different datasets have different names. -/
theorem bucketName_inj {ids : List String} (h : p.HashSeparates ids) {id id' : String}
    (hid : id ∈ ids) (hid' : id' ∈ ids) (heq : p.bucketName id = p.bucketName id') : id = id' := by
  -- a text determines the dataset: it ends with the hash of the dataset
  have htext : bucketText p.sha512 p.owner id = bucketText p.sha512 p.owner id' → id = id' := by
    intro htext
    rw [bucketText, bucketText, replaceDots_append, replaceDots_append _ (hash p.sha512 id' 10),
      replaceDots_of_not_mem (h.digits id hid), replaceDots_of_not_mem (h.digits id' hid'),
      append_eq_append_iff_of_length (by rw [length_hash (by decide), length_hash (by decide)])]
      at htext
    exact h.datasets id hid id' hid' htext.2
  have hlength : (bucketText p.sha512 p.owner id).length
      = (bucketText p.sha512 p.owner id').length := by
    rw [length_bucketText, length_bucketText]
  rw [bucketName, bucketName, generateBucketName_eq, generateBucketName_eq, k8sConformName,
    k8sConformName, shortenedName_eq_iff (by decide)] at heq
  rcases heq with heq | ⟨-, -, htake, hhash⟩ | ⟨hlong, hshort, -⟩ | ⟨hlong, hshort, -⟩
  · exact htext heq
  · apply htext
    rw [← takeChars_append_dropChars (bucketText p.sha512 p.owner id) 57, h.cuts id hid id' hid' hhash]
    rw [show takeChars (bucketText p.sha512 p.owner id) 57
      = takeChars (bucketText p.sha512 p.owner id') 57 from htake, takeChars_append_dropChars]
  · omega
  · omega

/-! ## The copies of a flow -/

theorem location_copyDetails (p : PlotterGenerator) (item : DataInfo) (c : Copied) :
    (p.copyDetails item c).dataStore.location
      = some ⟨c.bucket.endpoint, c.bucket.name, p.copyObjectKey item⟩ := rfl

section

variable {id : String} {path : List ResolvedEdge} {copies : List Copied}

theorem StepsFrom.copySteps_eq {subFlows : List SubFlow}
    (h : StepsFrom p application id path subFlows) (hcopies : p.CopiesFrom item id path copies) :
    copySteps subFlows = copies.map fun c => (c.sourceID, c.assetID) := by
  induction hcopies generalizing subFlows with
  | nil =>
    cases h
    rfl
  | read hvirtual _ ih =>
    obtain ⟨api, rest, rfl, tail⟩ := h.of_virtual hvirtual
    rw [← ih tail]
    rfl
  | copy hvirtual _ _ _ ih =>
    obtain ⟨api, rest, rfl, tail⟩ := h.of_not_virtual hvirtual
    rw [List.map_cons, ← ih tail]
    rfl

/-- All copies of a dataset go to a bucket of the same name. -/
theorem CopiesFrom.bucket_name (h : p.CopiesFrom item id path copies) :
    ∀ c ∈ copies, c.bucket.name = p.bucketName item.context.dataSetID := by
  induction h with
  | nil => simp
  | read _ _ ih => exact ih
  | copy _ hbucket _ _ ih => exact List.forall_mem_cons.2 ⟨name_allocateBucket hbucket, ih⟩

theorem CopiesFrom.length_eq (h : p.CopiesFrom item id path copies) :
    copies.length = path.countP fun e => !e.sink.virtual := by
  induction h with
  | nil => rfl
  | read hvirtual _ ih => simp [hvirtual, ih]
  | copy hvirtual _ _ _ ih => simp [hvirtual, ih]

/-- The first copy is one of the asset that is read first. -/
theorem CopiesFrom.head_sourceID {c : Copied} (h : p.CopiesFrom item id path (c :: copies)) :
    c.sourceID = id := by
  generalize hall : c :: copies = all at h
  induction h with
  | nil => simp at hall
  | read _ _ ih => exact ih hall
  | copy _ _ _ _ _ =>
    obtain ⟨rfl, -⟩ := List.cons.inj hall
    rfl

end

theorem eq_of_length_le_one {α : Type} {l : List α} (h : l.length ≤ 1) {a b : α} (ha : a ∈ l)
    (hb : b ∈ l) : a = b := by
  match l, h with
  | [c], _ => rw [List.mem_singleton.1 ha, List.mem_singleton.1 hb]

variable {path : List ResolvedEdge}

/-- A single copy is one of the asset that is read first. -/
theorem CopiesFrom.sourceID_eq {id : String} {copies : List Copied}
    (h : p.CopiesFrom item id path copies) (hone : copies.length ≤ 1) {c : Copied}
    (hc : c ∈ copies) : c.sourceID = id := by
  cases copies with
  | nil => simp at hc
  | cons c' rest =>
    rw [eq_of_length_le_one hone hc List.mem_cons_self]
    exact h.head_sourceID

/-- What a flow says about copies, with its assets in the map `assets`. -/
structure FlowCopies (p : PlotterGenerator) (item : DataInfo) (assets : GoMap String AssetDetails)
    (path : List ResolvedEdge) (info : FlowInfo) (copies : List Copied) : Prop where
  made : p.CopiesFrom item item.context.dataSetID path copies
  steps : copySteps info.flow.subFlows = copies.map fun c => (c.sourceID, c.assetID)
  provisioned : info.provisioned = copies.map fun c => (item.context.dataSetID, c.bucket)
  dataset : assetLocation assets item.context.dataSetID
    = (p.catalogDetails item).dataStore.location
  copy : ∀ c ∈ copies, assetLocation assets c.assetID
    = some ⟨c.bucket.endpoint, c.bucket.name, p.copyObjectKey item⟩

variable {info : FlowInfo}

theorem exists_flowCopies {assets : GoMap String AssetDetails}
    (hinfo : p.generateFlow application item = .ok info)
    (hkept : ∀ (id : String) (details : AssetDetails), info.assets.lookup id = some details →
      assets.lookup id = some details) :
    ∃ path copies, p.selectPath application item = some path ∧
      p.FlowCopies item assets path info copies := by
  obtain ⟨path, copies, hpath, hsteps, hcopies, hassets, hprovisioned⟩ := generateFlow_assets hinfo
  refine ⟨path, copies, hpath, hcopies, hsteps.copySteps_eq hcopies, hprovisioned, ?_, ?_⟩
  · have hdataset := hkept item.context.dataSetID (p.catalogDetails item)
      (by rw [hassets, hcopies.lookup_assets]; exact Or.inl ⟨rfl, rfl⟩)
    rw [assetLocation, hdataset, Option.bind_some]
  · intro c hc
    have hcopy := hkept c.assetID (p.copyDetails item c)
      (by rw [hassets, hcopies.lookup_assets]; exact Or.inr ⟨c, hc, rfl, rfl⟩)
    rw [assetLocation, hcopy, Option.bind_some, location_copyDetails]

/-- Two copies of a dataset would be stored in the same place, or the first of two buckets
would not be recorded. -/
theorem length_le_of_copiesSeparate {assets : FlowInfo → GoMap String AssetDetails}
    {provisionedStorage : GoMap String ProvisionedBucket} {infos : List FlowInfo}
    {copies : List Copied} (h : CopiesSeparate assets provisionedStorage infos)
    (hinfo : info ∈ infos) (hcopies : p.FlowCopies item (assets info) path info copies) :
    copies.length ≤ 1 := by
  match copies, hcopies with
  | [], _ => simp
  | [_], _ => simp
  | c :: c' :: _, hcopies =>
    have hlength : c.assetID.length < c'.assetID.length := by
      have hpairwise := (List.pairwise_cons.1 hcopies.made.pairwise_length).2
      exact (List.pairwise_cons.1 hpairwise).1 _ List.mem_cons_self
    have hapart := h.apart info hinfo info hinfo (c.sourceID, c.assetID)
      (by simp [hcopies.steps]) (c'.sourceID, c'.assetID) (by simp [hcopies.steps])
      (fun heq => absurd (congrArg String.length heq) (Nat.ne_of_lt hlength))
    have hrecorded := h.recorded info hinfo (item.context.dataSetID, c.bucket)
      (by simp [hcopies.provisioned])
    have hrecorded' := h.recorded info hinfo (item.context.dataSetID, c'.bucket)
      (by simp [hcopies.provisioned])
    have hbucket : c.bucket = c'.bucket := Option.some.inj (hrecorded.symm.trans hrecorded')
    rw [hcopies.copy c (by simp), hcopies.copy c' (by simp), hbucket] at hapart
    exact absurd rfl hapart

/-- A dataset for which one bucket was allocated has it recorded. -/
theorem lookup_provisionedStorage {g : Generation} {errs : List (String × String)}
    (h : p.addFlows application (p.newGeneration application) requirements = some (g, errs))
    (hdistinct : (requirements.map fun item => item.context.dataSetID).Nodup)
    (hitem : item ∈ requirements) (hinfo : p.generateFlow application item = .ok info)
    (hone : info.provisioned.length ≤ 1) {ib : String × ProvisionedBucket}
    (hib : ib ∈ info.provisioned) : g.provisionedStorage.lookup ib.1 = some ib.2 := by
  have hpanic := (addFlows_eq_some h).2.2
  have hbuckets : p.bucketsOf application item = info.provisioned := by
    rw [bucketsOf, hinfo]
  have hmem : ib ∈ p.provisionedBuckets application requirements :=
    List.mem_flatMap.2 ⟨item, hitem, hbuckets ▸ hib⟩
  obtain ⟨bucket, hbucket, hlookup⟩ := GoMap.lookup_setAll_of_mem ∅ ⟨ib, hmem, rfl⟩
  obtain ⟨item', hitem', hbucket⟩ := List.mem_flatMap.1 hbucket
  -- what is recorded under the ID of the dataset was allocated for it
  have hid := ((bucketsOf_records (hpanic item hitem)).named ib (hbuckets ▸ hib)).1
  have hid' := ((bucketsOf_records (hpanic item' hitem')).named _ hbucket).1
  obtain rfl : item' = item :=
    List.inj_on_of_nodup_map hdistinct hitem' hitem (hid'.symm.trans hid)
  rw [hbuckets] at hbucket
  rw [addFlows_provisionedStorage h]
  show (GoMap.setAll ∅ _).lookup ib.1 = some ib.2
  rw [hlookup, congrArg Prod.snd (eq_of_length_le_one hone hib hbucket)]

/-- The copies of two datasets are in buckets of different names. -/
theorem FlowCopies.location_ne {item' : DataInfo} {assets assets' : GoMap String AssetDetails}
    {path' : List ResolvedEdge} {info' : FlowInfo} {copies copies' : List Copied}
    (hcopies : p.FlowCopies item assets path info copies)
    (hcopies' : p.FlowCopies item' assets' path' info' copies')
    (hne : p.bucketName item.context.dataSetID ≠ p.bucketName item'.context.dataSetID)
    {c c' : Copied} (hc : c ∈ copies) (hc' : c' ∈ copies') :
    assetLocation assets c.assetID ≠ assetLocation assets' c'.assetID := by
  rw [hcopies.copy c hc, hcopies'.copy c' hc', hcopies.made.bucket_name c hc,
    hcopies'.made.bucket_name c' hc']
  intro heq
  obtain ⟨-, hbucket, -⟩ := Location.mk.inj (Option.some.inj heq)
  exact hne hbucket

/-- A dataset is copied at most once on its way, and not to where the catalog has it. -/
def CopiesOnce (p : PlotterGenerator) (application : FybrikApplication)
    (requirements : List DataInfo) : Prop :=
  ∀ item ∈ requirements, ∀ path, p.Plotted application item path →
    (path.countP fun e => !e.sink.virtual) ≤ 1 ∧
    ∀ c ∈ p.copiesAlong item item.context.dataSetID path,
      (p.catalogDetails item).dataStore.location
        ≠ some ⟨c.bucket.endpoint, c.bucket.name, p.copyObjectKey item⟩

section

variable {g : Generation} {errs : List (String × String)}
  {assets : FlowInfo → GoMap String AssetDetails}

theorem copiesOnce_of_copiesSeparate
    (hkept : ∀ info ∈ p.generatedFlows application requirements, ∀ (id : String)
      (details : AssetDetails), info.assets.lookup id = some details →
        (assets info).lookup id = some details)
    (h : CopiesSeparate assets g.provisionedStorage (p.generatedFlows application requirements)) :
    p.CopiesOnce application requirements := by
  rintro item hitem path ⟨hpath, info, hinfo⟩
  have hmem : info ∈ p.generatedFlows application requirements :=
    mem_generatedFlows.2 ⟨item, hitem, hinfo⟩
  obtain ⟨path', copies, hpath', hcopies⟩ := exists_flowCopies hinfo (hkept info hmem)
  obtain rfl := Option.some.inj (hpath.symm.trans hpath')
  have hone := length_le_of_copiesSeparate h hmem hcopies
  refine ⟨hcopies.made.length_eq ▸ hone, ?_⟩
  rw [← hcopies.made.eq_copiesAlong]
  intro c hc
  have hne := h.source info hmem (c.sourceID, c.assetID)
    (by rw [hcopies.steps]; exact List.mem_map_of_mem hc)
  rwa [hcopies.made.sourceID_eq hone hc, hcopies.dataset, hcopies.copy c hc] at hne

theorem copiesSeparate_of_copiesOnce
    (h : p.addFlows application (p.newGeneration application) requirements = some (g, errs))
    (hdistinct : (requirements.map fun item => item.context.dataSetID).Nodup)
    (hhash : p.HashSeparates (requirements.map fun item => item.context.dataSetID))
    (hkept : ∀ info ∈ p.generatedFlows application requirements, ∀ (id : String)
      (details : AssetDetails), info.assets.lookup id = some details →
        (assets info).lookup id = some details)
    (honce : p.CopiesOnce application requirements) :
    CopiesSeparate assets g.provisionedStorage (p.generatedFlows application requirements) := by
  -- every flow belongs to a dataset that is copied at most once
  have hflows : ∀ info ∈ p.generatedFlows application requirements,
      ∃ item ∈ requirements, ∃ path copies, p.generateFlow application item = .ok info ∧
        p.selectPath application item = some path ∧ copies.length ≤ 1 ∧
        p.FlowCopies item (assets info) path info copies := by
    intro info hmem
    obtain ⟨item, hitem, hinfo⟩ := mem_generatedFlows.1 hmem
    obtain ⟨path, copies, hpath, hcopies⟩ := exists_flowCopies hinfo (hkept info hmem)
    refine ⟨item, hitem, path, copies, hinfo, hpath, ?_, hcopies⟩
    rw [hcopies.made.length_eq]
    exact (honce item hitem path ⟨hpath, info, hinfo⟩).1
  refine ⟨?_, ?_, ?_⟩
  · intro info hinfo info' hinfo' copy hcopy copy' hcopy' hne
    obtain ⟨item, hitem, path, copies, hinfo, -, hone, hcopies⟩ := hflows info hinfo
    obtain ⟨item', hitem', path', copies', hinfo', -, -, hcopies'⟩ := hflows info' hinfo'
    by_cases hid : item.context.dataSetID = item'.context.dataSetID
    · -- one dataset has one copy
      obtain rfl : item = item' := List.inj_on_of_nodup_map hdistinct hitem hitem' hid
      obtain rfl := Except.ok.inj (hinfo.symm.trans hinfo')
      rw [hcopies.steps] at hcopy hcopy'
      have hlength : (copies.map fun c => (c.sourceID, c.assetID)).length ≤ 1 := by
        rw [List.length_map]
        exact hone
      exact absurd (congrArg Prod.snd (eq_of_length_le_one hlength hcopy hcopy')) hne
    · rw [hcopies.steps] at hcopy
      rw [hcopies'.steps] at hcopy'
      obtain ⟨c, hc, rfl⟩ := List.mem_map.1 hcopy
      obtain ⟨c', hc', rfl⟩ := List.mem_map.1 hcopy'
      refine hcopies.location_ne hcopies' (fun heq => hid ?_) hc hc'
      exact bucketName_inj hhash (List.mem_map.2 ⟨item, hitem, rfl⟩)
        (List.mem_map.2 ⟨item', hitem', rfl⟩) heq
  · intro info hinfo copy hcopy
    obtain ⟨item, hitem, path, copies, hinfo, hpath, hone, hcopies⟩ := hflows info hinfo
    rw [hcopies.steps] at hcopy
    obtain ⟨c, hc, rfl⟩ := List.mem_map.1 hcopy
    rw [hcopies.made.sourceID_eq hone hc, hcopies.dataset, hcopies.copy c hc]
    refine (honce item hitem path ⟨hpath, info, hinfo⟩).2 c ?_
    rwa [← hcopies.made.eq_copiesAlong]
  · intro info hinfo ib hib
    obtain ⟨item, hitem, path, copies, hinfo, -, hone, hcopies⟩ := hflows info hinfo
    refine lookup_provisionedStorage h hdistinct hitem hinfo ?_ hib
    rw [hcopies.provisioned, List.length_map]
    exact hone

end

/-- When the copies of a plotter stay apart: exactly if no path copies its dataset more than
once, and no copy goes to where the catalog has the dataset.  This holds of the locations
computed for each flow, and of those in the map of the plotter as long as no entry of a
copy has been overwritten there. -/
theorem addFlows_copiesSeparate_iff (p : PlotterGenerator) (application : FybrikApplication)
    (requirements : List DataInfo) (g : Generation) (errs : List (String × String))
    (h : p.addFlows application (p.newGeneration application) requirements = some (g, errs))
    (hdistinct : (requirements.map fun item => item.context.dataSetID).Nodup)
    (hhash : p.HashSeparates (requirements.map fun item => item.context.dataSetID)) :
    (CopiesSeparate FlowInfo.assets g.provisionedStorage
        (p.generatedFlows application requirements) ↔
      p.CopiesOnce application requirements) ∧
    (p.AssetsAgree application requirements →
      (CopiesSeparate (fun _ => g.plotterSpec.assets) g.provisionedStorage
          (p.generatedFlows application requirements) ↔
        p.CopiesOnce application requirements)) := by
  refine ⟨⟨?_, ?_⟩, fun hagree => ⟨?_, ?_⟩⟩
  · exact copiesOnce_of_copiesSeparate fun _ _ _ _ hdetails => hdetails
  · exact copiesSeparate_of_copiesOnce h hdistinct hhash fun _ _ _ _ hdetails => hdetails
  · exact copiesOnce_of_copiesSeparate ((lookup_kept_iff_assetsAgree h).2 hagree)
  · exact copiesSeparate_of_copiesOnce h hdistinct hhash
      ((lookup_kept_iff_assetsAgree h).2 hagree)

/-- Two tables are copied to an object store, each once. -/
theorem addFlows_tables_copiesSeparate :
    ∃ g, copyGenerator.addFlows notebookApplication
        (copyGenerator.newGeneration notebookApplication) twoTables = some (g, []) ∧
      CopiesSeparate FlowInfo.assets g.provisionedStorage
        (copyGenerator.generatedFlows notebookApplication twoTables) ∧
      CopiesSeparate (fun _ => g.plotterSpec.assets) g.provisionedStorage
        (copyGenerator.generatedFlows notebookApplication twoTables) := by
  have hhash : copyGenerator.HashSeparates ["xxx", "yyy"] :=
    ⟨by decide +kernel, by decide +kernel, by decide +kernel⟩
  have honce : copyGenerator.CopiesOnce notebookApplication twoTables := by
    have hall : ∀ item ∈ twoTables,
        ∀ path ∈ copyGenerator.selectPath notebookApplication item,
          (path.countP fun e => !e.sink.virtual) ≤ 1 ∧
          (copyGenerator.catalogDetails item).dataStore.location = none := by decide +kernel
    rintro item hitem path ⟨hpath, -⟩
    obtain ⟨hcount, hnone⟩ := hall item hitem path hpath
    refine ⟨hcount, fun c _ => ?_⟩
    rw [hnone]
    exact (Option.some_ne_none _).symm
  obtain ⟨⟨g, errors⟩, hg, rfl⟩ : ∃ r ∈ copyGenerator.addFlows notebookApplication
      (copyGenerator.newGeneration notebookApplication) twoTables, r.2 = [] := by decide +kernel
  obtain ⟨hallocated, hplotter⟩ := addFlows_copiesSeparate_iff copyGenerator notebookApplication
    twoTables g [] hg (by decide) hhash
  exact ⟨g, hg, hallocated.2 honce, (hplotter twoTables_assetsAgree).2 honce⟩

/-- Two modules that move data, one after the other, and one that serves it. -/
def relayGenerator : PlotterGenerator :=
  { copyGenerator with
    settings := { (default : Settings) with dataPathMaxSize := 3 }
    modules := GoMap.ofList
      [("mover", ⟨"mover", ⟨"service", [⟨"copy", .asset,
          [⟨some ⟨"db2", "table"⟩, some ⟨"s3", "parquet"⟩⟩], none, []⟩], default⟩⟩),
       ("converter", ⟨"converter", ⟨"service", [⟨"copy", .asset,
          [⟨some ⟨"s3", "parquet"⟩, some ⟨"s3", "csv"⟩⟩], none, []⟩], default⟩⟩),
       ("server", readerModule "server" ⟨"s3", "csv"⟩)] }

/-- The second copy is written over the first one, which it is made from. -/
theorem addFlows_relay_not_copiesSeparate :
    ∃ g, relayGenerator.addFlows notebookApplication
        (relayGenerator.newGeneration notebookApplication)
        [arrowItem "xxx" ⟨"db2", "table"⟩] = some (g, []) ∧
      ¬ CopiesSeparate FlowInfo.assets g.provisionedStorage
        (relayGenerator.generatedFlows notebookApplication [arrowItem "xxx" ⟨"db2", "table"⟩]) ∧
      ¬ CopiesSeparate (fun _ => g.plotterSpec.assets) g.provisionedStorage
        (relayGenerator.generatedFlows notebookApplication
          [arrowItem "xxx" ⟨"db2", "table"⟩]) := by
  obtain ⟨⟨g, errors⟩, hg, rfl, info, hinfo, hcopy, hflow, hplotter⟩ :
      ∃ r ∈ relayGenerator.addFlows notebookApplication
        (relayGenerator.newGeneration notebookApplication) [arrowItem "xxx" ⟨"db2", "table"⟩],
      r.2 = [] ∧ ∃ info ∈ relayGenerator.generatedFlows notebookApplication
          [arrowItem "xxx" ⟨"db2", "table"⟩],
        ("xxx-copy", "xxx-copy-copy") ∈ copySteps info.flow.subFlows ∧
        assetLocation info.assets "xxx-copy" = assetLocation info.assets "xxx-copy-copy" ∧
        assetLocation r.1.plotterSpec.assets "xxx-copy"
          = assetLocation r.1.plotterSpec.assets "xxx-copy-copy" := by decide +kernel
  exact ⟨g, hg, fun h => h.source info hinfo _ hcopy hflow,
    fun h => h.source info hinfo _ hcopy hplotter⟩

end PlotterGenerator

end Fybrik
