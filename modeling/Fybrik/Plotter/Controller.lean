import Fybrik.Lib.Removal
import Fybrik.Plotter.Endpoint

/-!
# The controller of plotters

The rest of `plotter_controller.go`: the blueprints of a plotter are created,
updated and deleted in the clusters, and their states are collected.

* `PlotterResource` — a plotter with what only its own controller reads.
* `ClusterManager` — the answers of the cluster manager during one reconcile;
  `Remotes` — the blueprints there are in the clusters.
* `reconcile`, `reconcileFinalizers` — as in the source; nothing is returned if the
  program crashes.
* `reconcileRequest` — the method `Reconcile`: the plotter and the blueprints it
  leaves behind, and the error.
* `ReportedReady` — a cluster has reported the desired blueprint, and that it is ready.
* `reconcile_readyReported_iff` — when a plotter that is ready after a reconcile means
  that this is so in all its clusters.
-/

namespace Fybrik

/-! ## Plotters and clusters -/

/-- The plotter object as the API server stores it. -/
structure PlotterResource extends Plotter where
  name : String
  «namespace» : String
  annotations : GoMap String String
  generation : ℕ
  observedGeneration : ℕ
  /-- The state of each asset. -/
  assets : GoMap String ObservedState
  /-- The blueprints, by cluster. -/
  blueprints : GoMap String MetaBlueprint
  deriving DecidableEq, Inhabited

/-- The name a plotter has in common with its blueprints. -/
def PlotterResource.key (plotter : PlotterResource) : NamespacedName :=
  ⟨plotter.name, plotter.namespace⟩

/-- Where a recorded blueprint is found. -/
def MetaBlueprint.key (blueprint : MetaBlueprint) : NamespacedName :=
  ⟨blueprint.name, blueprint.namespace⟩

@[inherit_doc MetaBlueprint.key]
def Blueprint.key (blueprint : Blueprint) : NamespacedName := ⟨blueprint.name, blueprint.namespace⟩

/-- The answers of the cluster manager (`multicluster.ClusterManager`) during one
reconcile; in each cluster every call is made at most once. -/
structure ClusterManager where
  getClusters : Except String (List Cluster)
  getBlueprint : String → NamespacedName → Except String (Option Blueprint)
  createBlueprint : String → Blueprint → Option String
  updateBlueprint : String → Blueprint → Option String
  deleteBlueprint : String → NamespacedName → Option String
  deriving Inhabited

/-- The blueprints there are in the clusters. -/
abbrev Remotes := GoMap (String × NamespacedName) Blueprint

namespace Remotes

/-- A blueprint is created, or an existing one updated: its specification, labels and
annotations are replaced, and a new specification makes a new generation. -/
def put (remotes : Remotes) (cluster : String) (blueprint : Blueprint) : Remotes :=
  match remotes.lookup (cluster, blueprint.key) with
  | none => remotes.set (cluster, blueprint.key)
      { blueprint with
        generation := 1, finalizers := [], beingDeleted := false, status := default }
  | some existing => remotes.set (cluster, blueprint.key)
      { existing with
        spec := blueprint.spec, labels := blueprint.labels, annotations := blueprint.annotations
        generation := if blueprint.spec = existing.spec then existing.generation
          else existing.generation + 1 }

variable {remotes : Remotes} {cluster : String} {blueprint : Blueprint}

theorem lookup_put_ne {k : String × NamespacedName} (h : k ≠ (cluster, blueprint.key)) :
    (remotes.put cluster blueprint).lookup k = remotes.lookup k := by
  unfold put
  split <;> exact AList.lookup_insert_ne h

/-- What is in the clusters once a blueprint has been put there. -/
theorem lookup_put (remotes : Remotes) (cluster : String) (blueprint : Blueprint) :
    ∃ b, (remotes.put cluster blueprint).lookup (cluster, blueprint.key) = some b ∧
      b.spec = blueprint.spec ∧
      (b.key = blueprint.key ∧ b.beingDeleted = false ∧ b.generation = 1 ∧ b.status = default ∨
        ∃ existing, remotes.lookup (cluster, blueprint.key) = some existing ∧
          b.key = existing.key ∧ b.beingDeleted = existing.beingDeleted ∧
          existing.generation ≤ b.generation ∧ b.status = existing.status) := by
  unfold put
  split
  · exact ⟨_, AList.lookup_insert _, rfl, Or.inl ⟨rfl, rfl, rfl, rfl⟩⟩
  · rename_i existing hexisting
    refine ⟨_, AList.lookup_insert _, rfl, Or.inr ⟨existing, hexisting, rfl, rfl, ?_, rfl⟩⟩
    simp only
    split <;> omega

end Remotes

/-- The reconciler of plotters, with the answers it gets during one reconcile. -/
structure PlotterReconciler where
  name : String
  sha512 : Sha512
  clusterManager : ClusterManager
  updateFinalizers : Option String
  updateStatus : Option String
  deriving Inhabited

/-- A plotter, and the blueprints in the clusters. -/
structure PlotterSite where
  plotter : PlotterResource
  remotes : Remotes
  deriving DecidableEq, Inhabited

/-! ## The state of assets -/

/-- A module instance contributes its state to that of an asset. -/
def contributeState (moduleState : ObservedState) (assets : GoMap String ObservedState)
    (assetID : String) : GoMap String ObservedState :=
  match assets.lookup assetID with
  | none => assets.set assetID moduleState
  | some state =>
    if !moduleState.ready then
      assets.set assetID ⟨false, state.error ++ "\n" ++ moduleState.error⟩
    else assets

/-- `updatePlotterAssetsState`. -/
def updatePlotterAssetsState (assets : GoMap String ObservedState) (blueprint : Blueprint) :
    GoMap String ObservedState :=
  blueprint.status.modulesState.pairs.foldl (fun assets im =>
    (blueprint.spec.modules.get im.1).assetIDs.foldl (contributeState im.2) assets) assets

/-- `setPlotterAssetsReadyStateToFalse`. -/
def setPlotterAssetsReadyStateToFalse (assets : GoMap String ObservedState)
    (blueprintSpec : BlueprintSpec) (errMsg : String) : GoMap String ObservedState :=
  blueprintSpec.modules.pairs.foldl (fun assets im =>
    im.2.assetIDs.foldl (fun assets assetID => assets.set assetID ⟨false, errMsg⟩) assets) assets

namespace PlotterReconciler

variable (r : PlotterReconciler)

/-! ## Reconcile -/

/-- What the loop of `reconcile` over the clusters keeps. -/
structure Rollout where
  isReady : Bool
  /-- The error in the status of the plotter. -/
  error : String
  assets : GoMap String ObservedState
  blueprints : GoMap String MetaBlueprint
  errorCollection : List String
  remotes : Remotes

variable (plotter : PlotterResource)

/-- The blueprint that is created in a cluster. -/
def newBlueprint (blueprintSpec : BlueprintSpec) : Blueprint :=
  { (default : Blueprint) with
    name := plotter.name
    «namespace» := plotter.namespace
    labels := blueprintLabels plotter.toPlotter
    annotations := GoMap.ofList
      [(fybrikAppUUID, getFybrikApplicationUUIDfromAnnotations plotter.annotations)]
    spec := blueprintSpec }

variable (st : Rollout)

/-- The round for a cluster whose blueprint has been fetched. -/
def reconcileRemote (cluster : String) (blueprintSpec : BlueprintSpec)
    (remoteBlueprint : Blueprint) : Rollout :=
  if blueprintSpec ≠ remoteBlueprint.spec then
    if plotter.generation ≠ plotter.observedGeneration then
      let updated := { remoteBlueprint with spec := blueprintSpec, annotations := ∅ }
      match r.clusterManager.updateBlueprint cluster updated with
      | some err => { st with
          errorCollection := st.errorCollection ++ [err]
          isReady := false
          assets := setPlotterAssetsReadyStateToFalse st.assets blueprintSpec err }
      | none => { st with
          blueprints := st.blueprints.set cluster (createMetaBlueprintWithoutState updated)
          isReady := false
          assets := setPlotterAssetsReadyStateToFalse st.assets blueprintSpec
            "Blueprint changes just applied"
          remotes := st.remotes.put cluster updated }
    else { st with
      isReady := false
      assets := updatePlotterAssetsState st.assets remoteBlueprint }
  else { st with
    blueprints := st.blueprints.set cluster (createMetaBlueprint remoteBlueprint)
    isReady := st.isReady && remoteBlueprint.status.observedState.ready
    error := if remoteBlueprint.status.observedState.error ≠ "" then
      remoteBlueprint.status.observedState.error else st.error
    assets := updatePlotterAssetsState st.assets remoteBlueprint }

/-- The round for a cluster with no recorded blueprint.  If it cannot be created, the
plotter may be ready all the same. -/
def createRemote (cluster : String) (blueprintSpec : BlueprintSpec) : Rollout :=
  match r.clusterManager.createBlueprint cluster (newBlueprint plotter blueprintSpec) with
  | some err => { st with
      errorCollection := st.errorCollection ++ [err]
      assets := setPlotterAssetsReadyStateToFalse st.assets blueprintSpec err }
  | none => { st with
      blueprints := st.blueprints.set cluster
        (createMetaBlueprintWithoutState (newBlueprint plotter blueprintSpec))
      isReady := false
      assets := setPlotterAssetsReadyStateToFalse st.assets blueprintSpec "Blueprint just created"
      remotes := st.remotes.put cluster (newBlueprint plotter blueprintSpec) }

/-- One round of the loop over the clusters.  If a blueprint cannot be fetched, `reconcile`
is left. -/
def reconcileCluster (desired : String × BlueprintSpec) : Except Rollout Rollout :=
  match st.blueprints.lookup desired.1 with
  | none => .ok (r.createRemote plotter st desired.1 desired.2)
  | some blueprint =>
    match r.clusterManager.getBlueprint desired.1 blueprint.key with
    | .error err => .error { st with errorCollection := st.errorCollection ++ [err] }
    | .ok none => .ok { st with
        isReady := false
        assets := setPlotterAssetsReadyStateToFalse st.assets desired.2
          "Could not yet find remote blueprint" }
    | .ok (some remoteBlueprint) =>
      .ok (r.reconcileRemote plotter st desired.1 desired.2 remoteBlueprint)

/-- The error of Razee for a channel that does not exist. -/
def channelNotFound : String := "Query channelByName error. Could not find the channel with name"

/-- One round of the loop that deletes blueprints not in the specification any more. -/
def tidyUp (blueprintsMap : GoMap String BlueprintSpec) (st : Rollout)
    (entry : String × MetaBlueprint) : Rollout :=
  if (blueprintsMap.lookup entry.1).isSome then st
  else
    match r.clusterManager.deleteBlueprint entry.1 entry.2.key with
    | none => { st with
        blueprints := st.blueprints.delete entry.1
        remotes := st.remotes.delete (entry.1, entry.2.key) }
    | some err =>
      if channelNotFound.toList.isPrefixOf err.toList then
        { st with blueprints := st.blueprints.delete entry.1 }
      else { st with errorCollection := st.errorCollection ++ [err] }

/-- The clusters `getBlueprintsMap` knows of; the error of `GetClusters` is ignored. -/
def knownClusters : List Cluster :=
  match r.clusterManager.getClusters with
  | .ok clusters => clusters
  | .error _ => []

/-- The blueprints a plotter asks for. -/
def desiredBlueprints : Option (GoMap String BlueprintSpec) :=
  getBlueprintsMap r.sha512 r.knownClusters plotter.toPlotter

variable (s : PlotterSite)

/-- The state in which the loop over the clusters begins. -/
def startRollout : Rollout :=
  { isReady := true, error := "", assets := ∅, blueprints := s.plotter.blueprints
    errorCollection := [], remotes := s.remotes }

/-- The loop of `reconcile` over the clusters. -/
def rollout (blueprintsMap : GoMap String BlueprintSpec) : Except Rollout Rollout :=
  blueprintsMap.pairs.foldlM (r.reconcileCluster s.plotter) (startRollout s)

/-- The error in the status at the end of `reconcile`. -/
def finalError : String :=
  if !st.isReady && st.error == "" then
    st.errorCollection.foldl (fun aggregatedError err => aggregatedError ++ err ++ "\n") ""
  else st.error

/-- The status if `reconcile` is left because a blueprint cannot be fetched. -/
def leaveEarly (st : Rollout) : PlotterSite :=
  { plotter := { s.plotter with
      observedState := ⟨s.plotter.observedState.ready, st.error⟩
      blueprints := st.blueprints }
    remotes := st.remotes }

/-- The status at the end of `reconcile`. -/
def complete (st : Rollout) : PlotterSite :=
  { plotter := { s.plotter with
      observedState := ⟨st.isReady, finalError st⟩
      observedGeneration := s.plotter.generation
      assets := st.assets
      blueprints := st.blueprints }
    remotes := st.remotes }

/-- `reconcile`: the plotter and the blueprints, and the errors. -/
def reconcile : Option (PlotterSite × List String) :=
  match r.desiredBlueprints s.plotter with
  | none => none
  | some blueprintsMap =>
    match r.rollout s blueprintsMap with
    | .error st => some (leaveEarly s st, st.errorCollection)
    | .ok st =>
      let tidied := st.blueprints.pairs.foldl (r.tidyUp blueprintsMap) st
      some (complete s tidied, tidied.errorCollection)

/-! ## Finalizers -/

/-- The name of the finalizer. -/
def finalizerName : String := r.name ++ ".finalizer"

/-- `UpdateFinalizers`. -/
def storeFinalizers (finalizers : List String) : PlotterResource × Option String :=
  match r.updateFinalizers with
  | some err => (plotter, some err)
  | none => ({ plotter with finalizers := finalizers }, none)

/-- `reconcileFinalizers`, for any cluster manager and any state of the clusters that it
may change when it deletes a blueprint. -/
def reconcileFinalizersWith {σ : Type} (delete : σ → String × NamespacedName → σ × Option String)
    (plotter : PlotterResource) (env : σ) : (PlotterResource × σ) × Option String :=
  let hasFinalizer := plotter.finalizers.contains r.finalizerName
  if plotter.beingDeleted then
    if hasFinalizer then
      match Removal.removeUntilError delete env
          (plotter.blueprints.pairs.map fun cb => (cb.1, cb.2.key)) with
      | (env, some err) => ((plotter, env), some err)
      | (env, none) =>
        let res := r.storeFinalizers plotter
          (plotter.finalizers.filter fun f => f != r.finalizerName)
        ((res.1, env), res.2)
    else ((plotter, env), none)
  else if hasFinalizer then ((plotter, env), none)
  else
    let res := r.storeFinalizers plotter (plotter.finalizers ++ [r.finalizerName])
    ((res.1, env), res.2)

/-- A blueprint is deleted from a cluster. -/
def deleteRemote (remotes : Remotes) (k : String × NamespacedName) : Remotes × Option String :=
  match r.clusterManager.deleteBlueprint k.1 k.2 with
  | some err => (remotes, some err)
  | none => (remotes.delete k, none)

/-- `reconcileFinalizers`. -/
def reconcileFinalizers : PlotterSite × Option String :=
  let res := r.reconcileFinalizersWith r.deleteRemote s.plotter s.remotes
  (⟨res.1.1, res.1.2⟩, res.2)

/-- `Reconcile`. -/
def reconcileRequest : Option (PlotterSite × Option String) :=
  match r.reconcileFinalizers s with
  | (s, some err) => some (s, some err)
  | (s, none) =>
    if s.plotter.beingDeleted then some (s, none)
    else
      match r.reconcile s with
      | none => none
      | some (reconciled, errors) =>
        let error := errors.head?.map fun err => "failed to reconcile plotter: " ++ err
        match r.updateStatus with
        | some err => some ({ s with remotes := reconciled.remotes },
            some ("failed to update plotter status: " ++ err))
        | none => some (reconciled, error)

/-! ## The clusters one by one -/

/-- What there is in a cluster: what the plotter has recorded of it, and its
blueprints. -/
@[ext]
structure ClusterView where
  record : Option MetaBlueprint
  remote : NamespacedName → Option Blueprint

/-- The view of a cluster during `reconcile`. -/
def Rollout.view (cluster : String) : ClusterView :=
  ⟨st.blueprints.lookup cluster, fun key => st.remotes.lookup (cluster, key)⟩

section Frame

variable {r} {plotter : PlotterResource} {st : Rollout} {cluster c : String}

theorem view_put (blueprint : MetaBlueprint) (remote : Blueprint) (isReady : Bool)
    (assets : GoMap String ObservedState) (hc : c ≠ cluster) :
    Rollout.view { st with
      isReady := isReady
      assets := assets
      blueprints := st.blueprints.set cluster blueprint
      remotes := st.remotes.put cluster remote } c = st.view c := by
  ext1
  · exact AList.lookup_insert_ne hc
  · funext key
    exact Remotes.lookup_put_ne fun heq => hc (Prod.mk.inj heq).1

variable (blueprintSpec : BlueprintSpec)

/-- The other clusters are left alone in the round of a cluster. -/
theorem view_reconcileRemote (remote : Blueprint) (hc : c ≠ cluster) :
    (r.reconcileRemote plotter st cluster blueprintSpec remote).view c = st.view c := by
  unfold reconcileRemote
  dsimp only
  split
  · split
    · split
      · rfl
      · exact view_put _ _ _ _ hc
    · rfl
  · ext1
    · exact AList.lookup_insert_ne hc
    · rfl

theorem view_createRemote (hc : c ≠ cluster) :
    (r.createRemote plotter st cluster blueprintSpec).view c = st.view c := by
  unfold createRemote
  split
  · rfl
  · exact view_put _ _ _ _ hc

theorem view_reconcileCluster {st' : Rollout} {desired : String × BlueprintSpec}
    (h : r.reconcileCluster plotter st desired = .ok st') (hc : c ≠ desired.1) :
    st'.view c = st.view c := by
  unfold reconcileCluster at h
  split at h
  · cases h
    exact view_createRemote _ hc
  · split at h
    · cases h
    · cases h
      rfl
    · cases h
      exact view_reconcileRemote _ _ hc

/-- Tidying up leaves the clusters alone that are in the specification. -/
theorem view_tidyUp {blueprintsMap : GoMap String BlueprintSpec}
    (hc : (blueprintsMap.lookup c).isSome = true) (l : List (String × MetaBlueprint))
    (st : Rollout) : (l.foldl (r.tidyUp blueprintsMap) st).view c = st.view c := by
  refine Loops.foldl_untouched (Rollout.view · c) (fun entry _ st => ?_) st
  unfold tidyUp
  split
  · rfl
  · rename_i hentry
    have hne : c ≠ entry.1 := fun heq => hentry (heq ▸ hc)
    split
    · ext1
      · exact AList.lookup_erase_ne hne
      · funext key
        exact AList.lookup_erase_ne fun heq => hne (Prod.mk.inj heq).1
    · split
      · ext1
        · exact AList.lookup_erase_ne hne
        · rfl
      · rfl

end Frame

/-! ## When a plotter is ready -/

section Readiness

variable (plotter : PlotterResource) (desired : String × BlueprintSpec)

/-- The cluster has reported the desired blueprint, and that it is ready. -/
def ReportedReady : Prop :=
  ∃ blueprint remoteBlueprint, plotter.blueprints.lookup desired.1 = some blueprint ∧
    r.clusterManager.getBlueprint desired.1 blueprint.key = .ok (some remoteBlueprint) ∧
    remoteBlueprint.spec = desired.2 ∧ remoteBlueprint.status.observedState.ready = true

/-- A recorded blueprint cannot be fetched. -/
def FetchFails : Prop :=
  ∃ blueprint err, plotter.blueprints.lookup desired.1 = some blueprint ∧
    r.clusterManager.getBlueprint desired.1 blueprint.key = .error err

/-- No blueprint is recorded, and it cannot be created. -/
def CreateFails : Prop :=
  plotter.blueprints.lookup desired.1 = none ∧
    (r.clusterManager.createBlueprint desired.1 (newBlueprint plotter desired.2)).isSome = true

variable {r plotter desired}

theorem ReportedReady.not_createFails (h : r.ReportedReady plotter desired) :
    ¬ r.CreateFails plotter desired := by
  obtain ⟨blueprint, -, hlookup, -⟩ := h
  rintro ⟨hnone, -⟩
  cases hlookup.symm.trans hnone

theorem FetchFails.not_createFails (h : r.FetchFails plotter desired) :
    ¬ r.CreateFails plotter desired := by
  obtain ⟨blueprint, -, hlookup, -⟩ := h
  rintro ⟨hnone, -⟩
  cases hlookup.symm.trans hnone

theorem FetchFails.not_reportedReady (h : r.FetchFails plotter desired) :
    ¬ r.ReportedReady plotter desired := by
  obtain ⟨blueprint, err, hlookup, herr⟩ := h
  rintro ⟨blueprint', remote, hlookup', hremote, -⟩
  obtain rfl := Option.some.inj (hlookup.symm.trans hlookup')
  cases herr.symm.trans hremote

variable (r plotter) in
/-- A fetched blueprint keeps the plotter ready only if it is the desired one and ready. -/
theorem reconcileRemote_isReady (st : Rollout) (cluster : String) (blueprintSpec : BlueprintSpec)
    (remote : Blueprint) :
    (r.reconcileRemote plotter st cluster blueprintSpec remote).isReady = true ↔
      st.isReady = true ∧ remote.spec = blueprintSpec ∧
        remote.status.observedState.ready = true := by
  unfold reconcileRemote
  dsimp only
  split
  · rename_i hspec
    have hfalse : ¬ (st.isReady = true ∧ remote.spec = blueprintSpec ∧
        remote.status.observedState.ready = true) := fun h => hspec h.2.1.symm
    split
    · split <;> exact iff_of_false Bool.false_ne_true hfalse
    · exact iff_of_false Bool.false_ne_true hfalse
  · rename_i hspec
    simp [(not_not.1 hspec).symm]

variable (r plotter) in
/-- A blueprint that is created makes the plotter wait, one that cannot be created does
not. -/
theorem createRemote_isReady (st : Rollout) (cluster : String) (blueprintSpec : BlueprintSpec) :
    (r.createRemote plotter st cluster blueprintSpec).isReady = true ↔ st.isReady = true ∧
      (r.clusterManager.createBlueprint cluster (newBlueprint plotter blueprintSpec)).isSome = true := by
  unfold createRemote
  split
  · rename_i err herr
    simp [herr]
  · rename_i hnone
    simp [hnone]

section Rounds

variable {st : Rollout} {blueprint : MetaBlueprint}

theorem reconcileCluster_unrecorded (h : st.blueprints.lookup desired.1 = none) :
    r.reconcileCluster plotter st desired = .ok (r.createRemote plotter st desired.1 desired.2) := by
  simp only [reconcileCluster, h]

theorem reconcileCluster_error {err : String} (h : st.blueprints.lookup desired.1 = some blueprint)
    (hget : r.clusterManager.getBlueprint desired.1 blueprint.key = .error err) :
    r.reconcileCluster plotter st desired =
      .error { st with errorCollection := st.errorCollection ++ [err] } := by
  simp only [reconcileCluster, h, hget]

theorem reconcileCluster_missing (h : st.blueprints.lookup desired.1 = some blueprint)
    (hget : r.clusterManager.getBlueprint desired.1 blueprint.key = .ok none) :
    r.reconcileCluster plotter st desired = .ok { st with
      isReady := false
      assets := setPlotterAssetsReadyStateToFalse st.assets desired.2
        "Could not yet find remote blueprint" } := by
  simp only [reconcileCluster, h, hget]

theorem reconcileCluster_fetched {remote : Blueprint}
    (h : st.blueprints.lookup desired.1 = some blueprint)
    (hget : r.clusterManager.getBlueprint desired.1 blueprint.key = .ok (some remote)) :
    r.reconcileCluster plotter st desired =
      .ok (r.reconcileRemote plotter st desired.1 desired.2 remote) := by
  simp only [reconcileCluster, h, hget]

/-- One round of the loop over the clusters. -/
theorem reconcileCluster_cases
    (hfresh : st.blueprints.lookup desired.1 = plotter.blueprints.lookup desired.1) :
    (r.FetchFails plotter desired ∧ ∃ st', r.reconcileCluster plotter st desired = .error st') ∨
    (¬ r.FetchFails plotter desired ∧ ∃ st', r.reconcileCluster plotter st desired = .ok st' ∧
      (st'.isReady = true ↔ st.isReady = true ∧
        (r.ReportedReady plotter desired ∨ r.CreateFails plotter desired))) := by
  cases hlookup : plotter.blueprints.lookup desired.1 with
  | none =>
    refine Or.inr ⟨?_, _, reconcileCluster_unrecorded (hfresh.trans hlookup), ?_⟩
    · simp [FetchFails, hlookup]
    · rw [createRemote_isReady]
      simp [ReportedReady, CreateFails, hlookup]
  | some blueprint =>
    have hrecorded := hfresh.trans hlookup
    cases hget : r.clusterManager.getBlueprint desired.1 blueprint.key with
    | error err =>
      exact Or.inl ⟨⟨blueprint, err, hlookup, hget⟩, _, reconcileCluster_error hrecorded hget⟩
    | ok found =>
      have hfetch : ¬ r.FetchFails plotter desired := by
        simp [FetchFails, hlookup, hget]
      cases found with
      | none =>
        refine Or.inr ⟨hfetch, _, reconcileCluster_missing hrecorded hget, ?_⟩
        simp [ReportedReady, CreateFails, hlookup, hget]
      | some remote =>
        refine Or.inr ⟨hfetch, _, reconcileCluster_fetched hrecorded hget, ?_⟩
        rw [reconcileRemote_isReady]
        simp [ReportedReady, CreateFails, hlookup, hget]

end Rounds

variable {P : List (String × BlueprintSpec) → Rollout → Prop}

/-- The loop over the clusters is left if a blueprint cannot be fetched; otherwise it ends
with what each of its rounds preserves. -/
theorem foldlM_reconcileCluster
    (hround : ∀ walked st d st', st.blueprints.lookup d.1 = plotter.blueprints.lookup d.1 →
      P walked st → r.reconcileCluster plotter st d = .ok st' → P (walked ++ [d]) st')
    {l : List (String × BlueprintSpec)} (hnodup : (l.map Prod.fst).Nodup)
    (walked : List (String × BlueprintSpec)) {st : Rollout}
    (hfresh : ∀ d ∈ l, st.blueprints.lookup d.1 = plotter.blueprints.lookup d.1)
    (hst : P walked st) :
    ((∃ d ∈ l, r.FetchFails plotter d) ∧
      ∃ st', l.foldlM (r.reconcileCluster plotter) st = .error st') ∨
    ((∀ d ∈ l, ¬ r.FetchFails plotter d) ∧
      ∃ st', l.foldlM (r.reconcileCluster plotter) st = .ok st' ∧ P (walked ++ l) st') := by
  induction l generalizing walked st with
  | nil =>
    rw [List.append_nil]
    exact Or.inr ⟨by simp, st, rfl, hst⟩
  | cons d l ih =>
    rw [List.map_cons, List.nodup_cons] at hnodup
    rw [List.foldlM_cons, List.append_cons]
    have hd := hfresh d List.mem_cons_self
    rcases reconcileCluster_cases hd with ⟨hfetch, st', hst'⟩ | ⟨hfetch, st', hst', -⟩
    · rw [hst']
      exact Or.inl ⟨⟨d, List.mem_cons_self, hfetch⟩, st', rfl⟩
    · rw [hst']
      have hfresh' : ∀ d' ∈ l, st'.blueprints.lookup d'.1 = plotter.blueprints.lookup d'.1 := by
        intro d' hd'
        have hne : d'.1 ≠ d.1 := fun heq => hnodup.1 (heq ▸ List.mem_map_of_mem hd')
        exact (congrArg ClusterView.record (view_reconcileCluster hst' hne)).trans
          (hfresh d' (List.mem_cons_of_mem d hd'))
      rcases ih hnodup.2 (walked ++ [d]) hfresh' (hround walked st d st' hd hst hst') with
        ⟨⟨d', hd', hfails⟩, herr⟩ | ⟨hfails, hend⟩
      · exact Or.inl ⟨⟨d', List.mem_cons_of_mem d hd', hfails⟩, herr⟩
      · exact Or.inr ⟨List.forall_mem_cons.2 ⟨hfetch, hfails⟩, hend⟩

variable {blueprintsMap : GoMap String BlueprintSpec} {errors : List String}

/-- How `reconcile` ends: early if a blueprint cannot be fetched, and otherwise with what
the rounds of the loop over the clusters preserve. -/
theorem reconcile_cases {s s' : PlotterSite}
    (hround : ∀ walked st d st', st.blueprints.lookup d.1 = s.plotter.blueprints.lookup d.1 →
      P walked st → r.reconcileCluster s.plotter st d = .ok st' → P (walked ++ [d]) st')
    (hstart : P [] (startRollout s)) (hmap : r.desiredBlueprints s.plotter = some blueprintsMap)
    (h : r.reconcile s = some (s', errors)) :
    ((∃ d ∈ blueprintsMap.pairs, r.FetchFails s.plotter d) ∧ ∃ st, s' = leaveEarly s st) ∨
    ((∀ d ∈ blueprintsMap.pairs, ¬ r.FetchFails s.plotter d) ∧ ∃ st, P blueprintsMap.pairs st ∧
      s' = complete s (st.blueprints.pairs.foldl (r.tidyUp blueprintsMap) st)) := by
  unfold reconcile at h
  rw [hmap] at h
  dsimp only at h
  rcases foldlM_reconcileCluster hround blueprintsMap.nodup_keys_pairs [] (fun _ _ => rfl) hstart
    with ⟨hfails, st, hst⟩ | ⟨hfetched, st, hst, hP⟩
  · rw [rollout, hst] at h
    exact Or.inl ⟨hfails, st, (Prod.mk.inj (Option.some.inj h)).1.symm⟩
  · rw [rollout, hst] at h
    exact Or.inr ⟨hfetched, st, hP, (Prod.mk.inj (Option.some.inj h)).1.symm⟩

/-- The clean-up only changes blueprints and the errors collected. -/
theorem frame_tidyUp {β : Type} (part : Rollout → β)
    (h : ∀ (st : Rollout) blueprints remotes errorCollection,
      part { st with blueprints, remotes, errorCollection } = part st)
    (blueprintsMap : GoMap String BlueprintSpec) (l : List (String × MetaBlueprint))
    (st : Rollout) : part (l.foldl (r.tidyUp blueprintsMap) st) = part st := by
  refine Loops.foldl_untouched part (fun entry _ st => ?_) st
  unfold tidyUp
  split
  · rfl
  · split
    · exact h st _ _ _
    · split <;> exact h st _ _ _

/-- Whether a plotter is ready after a reconcile: as before if a blueprint could not be
fetched, and otherwise if no cluster makes it wait. -/
theorem ready_reconcile {s s' : PlotterSite}
    (hmap : r.desiredBlueprints s.plotter = some blueprintsMap)
    (h : r.reconcile s = some (s', errors)) :
    ((∃ d ∈ blueprintsMap.pairs, r.FetchFails s.plotter d) ∧
      s'.plotter.observedState.ready = s.plotter.observedState.ready) ∨
    ((∀ d ∈ blueprintsMap.pairs, ¬ r.FetchFails s.plotter d) ∧
      (s'.plotter.observedState.ready = true ↔ ∀ d ∈ blueprintsMap.pairs,
        r.ReportedReady s.plotter d ∨ r.CreateFails s.plotter d)) := by
  have hround : ∀ walked st d st', st.blueprints.lookup d.1 = s.plotter.blueprints.lookup d.1 →
      (st.isReady = true ↔
        ∀ d' ∈ walked, r.ReportedReady s.plotter d' ∨ r.CreateFails s.plotter d') →
      r.reconcileCluster s.plotter st d = .ok st' → (st'.isReady = true ↔
        ∀ d' ∈ walked ++ [d], r.ReportedReady s.plotter d' ∨ r.CreateFails s.plotter d') := by
    intro walked st d st' hfresh hst hok
    rcases reconcileCluster_cases hfresh with ⟨-, st'', hst''⟩ | ⟨-, st'', hst'', hready⟩
    · cases hok.symm.trans hst''
    · obtain rfl := Except.ok.inj (hok.symm.trans hst'')
      rw [hready, hst, List.forall_mem_append, List.forall_mem_singleton]
  have hstart : (startRollout s).isReady = true ↔
      ∀ d' ∈ [], r.ReportedReady s.plotter d' ∨ r.CreateFails s.plotter d' := by
    simp [startRollout]
  rcases reconcile_cases (P := fun walked st => st.isReady = true ↔
      ∀ d' ∈ walked, r.ReportedReady s.plotter d' ∨ r.CreateFails s.plotter d')
      hround hstart hmap h with ⟨hfails, st, rfl⟩ | ⟨hfetched, st, hready, rfl⟩
  · exact Or.inl ⟨hfails, rfl⟩
  · refine Or.inr ⟨hfetched, ?_⟩
    change (st.blueprints.pairs.foldl (r.tidyUp blueprintsMap) st).isReady = true ↔ _
    rw [frame_tidyUp Rollout.isReady fun _ _ _ _ => rfl, hready]

variable (r plotter) in
/-- What must not happen for readiness to mean anything: that a blueprint cannot be
fetched while the plotter still has the state ready, and that all blueprints are
ready except for some that cannot be created. -/
structure NothingOverlooked (blueprintsMap : GoMap String BlueprintSpec) : Prop where
  fetched : plotter.observedState.ready = true →
    ∀ d ∈ blueprintsMap.pairs, ¬ r.FetchFails plotter d
  created : (∀ d ∈ blueprintsMap.pairs, r.ReportedReady plotter d ∨ r.CreateFails plotter d) →
    ∀ d ∈ blueprintsMap.pairs, ¬ r.CreateFails plotter d

end Readiness

/-! ## A plotter with one cluster -/

/-- A plotter with one step, which runs a reader in the cluster hobbiton. -/
def readerPlotter : PlotterResource :=
  { (default : PlotterResource) with
    name := "notebook-default"
    «namespace» := "fybrik-system"
    generation := 1
    spec := { (default : PlotterSpec) with
      flows := [⟨"flow", .readFlow, "xxx",
        [⟨"subflow", .readFlow, [], [[⟨"step", "hobbiton", "read", none⟩]]⟩]⟩]
      templates := GoMap.ofList [("read", ⟨"read", [⟨"reader", "service", default, .workload⟩]⟩)] } }

theorem readAssets_ne_nil : ["xxx"] ≠ [] := List.cons_ne_nil _ _

/-- The blueprint it asks for. -/
def readerBlueprintSpec : BlueprintSpec :=
  generateBlueprint default [{ chart := default, args := commonArguments readerPlotter.toPlotter
                               assetIDs := ["xxx"], clusterName := "hobbiton"
                               moduleName := "reader", scope := .workload
                               assetIDs_ne_nil := readAssets_ne_nil }] "hobbiton"
    readerPlotter.toPlotter

/-- A cluster manager that finds a certain blueprint everywhere. -/
def clustersWith (blueprint : Blueprint) : ClusterManager :=
  { getClusters := .ok [], getBlueprint := fun _ _ => .ok (some blueprint)
    createBlueprint := fun _ _ => none, updateBlueprint := fun _ _ => none
    deleteBlueprint := fun _ _ => none }

/-- A reconciler of plotters with some cluster manager. -/
def plotterReconciler (clusterManager : ClusterManager) : PlotterReconciler :=
  { name := "plotter", sha512 := default, clusterManager := clusterManager
    updateFinalizers := none, updateStatus := none }

theorem desiredBlueprints_reader (clusterManager : ClusterManager)
    (h : clusterManager.getClusters = .ok []) :
    (plotterReconciler clusterManager).desiredBlueprints readerPlotter =
      some (GoMap.ofList [("hobbiton", readerBlueprintSpec)]) := by
  have hknown : (plotterReconciler clusterManager).knownClusters = [] := by
    simp only [knownClusters, plotterReconciler, h]
  rw [desiredBlueprints, hknown]
  change getBlueprintsMap default [] readerPlotter.toPlotter = _
  decide +kernel

/-- The blueprint of the reader, ready. -/
def readyBlueprint : Blueprint :=
  { newBlueprint readerPlotter readerBlueprintSpec with
    generation := 1
    status := { (default : BlueprintStatus) with
      observedState := ⟨true, ""⟩
      observedGeneration := 1 } }

/-- A plotter that has recorded the blueprint of the reader. -/
def recordedPlotter : PlotterResource :=
  { readerPlotter with
    observedGeneration := 1
    blueprints := GoMap.ofList [("hobbiton", createMetaBlueprint readyBlueprint)] }

/-- That plotter, and the blueprint in the cluster. -/
def recordedSite : PlotterSite :=
  ⟨recordedPlotter, GoMap.ofList [(("hobbiton", recordedPlotter.key), readyBlueprint)]⟩

/-- The same after the blueprint has been found ready. -/
def recordedReady : PlotterSite :=
  { recordedSite with plotter := { recordedPlotter with observedState := ⟨true, ""⟩ } }

/-- A cluster manager that cannot create blueprints. -/
def noCreation : ClusterManager :=
  { clustersWith readyBlueprint with createBlueprint := fun _ _ => some "quota exceeded" }

/-! ## What readiness means -/

/-- When a plotter that is ready after a reconcile means that every cluster has reported
its blueprint to be in place and ready. -/
theorem reconcile_readyReported_iff (r : PlotterReconciler) (s s' : PlotterSite)
    (blueprintsMap : GoMap String BlueprintSpec) (errors : List String)
    (hmap : r.desiredBlueprints s.plotter = some blueprintsMap)
    (h : r.reconcile s = some (s', errors)) :
    (s'.plotter.observedState.ready = true →
      ∀ d ∈ blueprintsMap.pairs, r.ReportedReady s.plotter d) ↔
      r.NothingOverlooked s.plotter blueprintsMap := by
  rcases ready_reconcile hmap h with ⟨⟨d, hd, hfails⟩, hready⟩ | ⟨hfetched, hready⟩
  · -- the cluster that could not be fetched has reported nothing
    rw [hready]
    constructor
    · intro hall
      refine ⟨fun htrue => absurd (hall htrue d hd) hfails.not_reportedReady, fun hevery => ?_⟩
      exact absurd (hevery d hd) (not_or.2 ⟨hfails.not_reportedReady, hfails.not_createFails⟩)
    · intro hok htrue
      exact absurd hfails (hok.fetched htrue d hd)
  · rw [hready]
    constructor
    · intro hall
      exact ⟨fun _ => hfetched, fun hevery d hd => (hall hevery d hd).not_createFails⟩
    · intro hok hevery d hd
      exact (hevery d hd).resolve_right (hok.created hevery d hd)

theorem recorded_readyReported :
    ((plotterReconciler (clustersWith readyBlueprint)).desiredBlueprints recordedPlotter =
        some (GoMap.ofList [("hobbiton", readerBlueprintSpec)]) ∧
      (plotterReconciler (clustersWith readyBlueprint)).reconcile recordedSite =
        some (recordedReady, [])) ∧
    ((recordedReady.plotter.observedState.ready = true →
      ∀ d ∈ (GoMap.ofList [("hobbiton", readerBlueprintSpec)]).pairs,
        (plotterReconciler (clustersWith readyBlueprint)).ReportedReady recordedPlotter d) ↔
      (plotterReconciler (clustersWith readyBlueprint)).NothingOverlooked recordedPlotter
        (GoMap.ofList [("hobbiton", readerBlueprintSpec)])) :=
  ⟨⟨desiredBlueprints_reader _ rfl, by decide +kernel⟩,
    reconcile_readyReported_iff _ recordedSite _ _ [] (desiredBlueprints_reader _ rfl)
      (by decide +kernel)⟩

/-- The blueprint of a new plotter cannot be created, and the plotter is ready. -/
theorem createFailure_not_readyReported :
    ∃ s' errors, (plotterReconciler noCreation).desiredBlueprints readerPlotter =
        some (GoMap.ofList [("hobbiton", readerBlueprintSpec)]) ∧
      (plotterReconciler noCreation).reconcile ⟨readerPlotter, ∅⟩ = some (s', errors) ∧
      s'.plotter.observedState.ready = true ∧
      ¬ (plotterReconciler noCreation).ReportedReady readerPlotter ("hobbiton", readerBlueprintSpec) := by
  refine ⟨⟨{ readerPlotter with observedState := ⟨true, ""⟩, observedGeneration := 1,
                                assets := GoMap.ofList [("xxx", ⟨false, "quota exceeded"⟩)] }, ∅⟩,
    ["quota exceeded"], desiredBlueprints_reader _ rfl, by decide +kernel, rfl, ?_⟩
  rintro ⟨blueprint, remote, hrecorded, -⟩
  have hnone : readerPlotter.blueprints.lookup "hobbiton" = none := by decide
  cases hnone.symm.trans hrecorded

end PlotterReconciler

end Fybrik
