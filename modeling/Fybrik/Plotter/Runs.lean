import Fybrik.Blueprint.Runs
import Fybrik.Plotter.Controller

/-!
# Runs of the controllers of plotters and blueprints

The life of a plotter and of its blueprints: the specification of the plotter is
edited, its controller is called, and so are the controllers of the blueprints in
the clusters, in any order.

* `Handled` — what becomes of a cluster in its round of the loop of `reconcile`.
* `Move` — everything `reconcile` does to the records and to the clusters.
* `PlotterWorld`, `Step` — the plotter, the blueprints and Helm in the clusters, and
  one step in their life.
* `run_specsConverge` — after any run in which the specifications are delivered, a
  reconcile without failures leaves the desired blueprints in all clusters;
  `updateFailure_not_converges` shows that it fails otherwise.
* `run_readyObserved_iff` — when a plotter that becomes ready has not relied on an
  outdated status; `outdated_not_readyObserved` shows how this can happen.
-/

namespace Fybrik

namespace PlotterSite

/-- What there is in a cluster. -/
def view (s : PlotterSite) (cluster : String) : PlotterReconciler.ClusterView :=
  ⟨s.plotter.blueprints.lookup cluster, fun key => s.remotes.lookup (cluster, key)⟩

/-- The finalizers are replaced. -/
def withFinalizers (s : PlotterSite) (finalizers : List String) : PlotterSite :=
  { s with plotter := { s.plotter with finalizers := finalizers } }

end PlotterSite

namespace PlotterReconciler

variable {r : PlotterReconciler} {s s' : PlotterSite} {d : String × BlueprintSpec}
  {blueprintsMap : GoMap String BlueprintSpec} {errors : List String}

/-! ## What becomes of a cluster -/

/-- What there is in a cluster after its round. -/
inductive Handled (r : PlotterReconciler) (s : PlotterSite) (d : String × BlueprintSpec)
    (v : ClusterView) : Prop
  | created {bp : Blueprint} (hrecord : s.plotter.blueprints.lookup d.1 = none)
      (hsucceeds : r.clusterManager.createBlueprint d.1 (newBlueprint s.plotter d.2) = none)
      (hkey : v.record.map MetaBlueprint.key = some s.plotter.key)
      (hremote : v.remote s.plotter.key = some bp) (hspec : bp.spec = d.2)
  | notCreated (hfails : r.CreateFails s.plotter d) (hv : v = s.view d.1)
  | missing {blueprint : MetaBlueprint}
      (hrecord : s.plotter.blueprints.lookup d.1 = some blueprint)
      (hget : r.clusterManager.getBlueprint d.1 blueprint.key = .ok none) (hv : v = s.view d.1)
  | inPlace {blueprint : MetaBlueprint} {remote : Blueprint}
      (hrecord : s.plotter.blueprints.lookup d.1 = some blueprint)
      (hget : r.clusterManager.getBlueprint d.1 blueprint.key = .ok (some remote))
      (hspec : remote.spec = d.2) (hkey : v.record.map MetaBlueprint.key = some remote.key)
      (hremote : v.remote = (s.view d.1).remote)
  | updated {blueprint : MetaBlueprint} {remote bp : Blueprint}
      (hrecord : s.plotter.blueprints.lookup d.1 = some blueprint)
      (hget : r.clusterManager.getBlueprint d.1 blueprint.key = .ok (some remote))
      (hdiffers : remote.spec ≠ d.2)
      (hkey : v.record.map MetaBlueprint.key = some remote.key)
      (hremote : v.remote remote.key = some bp) (hspec : bp.spec = d.2)
  | refused {blueprint : MetaBlueprint} {remote : Blueprint}
      (hrecord : s.plotter.blueprints.lookup d.1 = some blueprint)
      (hget : r.clusterManager.getBlueprint d.1 blueprint.key = .ok (some remote))
      (hspec : remote.spec ≠ d.2)
      (hgeneration : s.plotter.generation ≠ s.plotter.observedGeneration)
      (hfails : r.clusterManager.updateBlueprint d.1
        { remote with spec := d.2, annotations := ∅ } ≠ none)
  | outOfStep {blueprint : MetaBlueprint} {remote : Blueprint}
      (hrecord : s.plotter.blueprints.lookup d.1 = some blueprint)
      (hget : r.clusterManager.getBlueprint d.1 blueprint.key = .ok (some remote))
      (hspec : remote.spec ≠ d.2)
      (hgeneration : s.plotter.generation = s.plotter.observedGeneration)

theorem key_lookup_set (blueprints : GoMap String MetaBlueprint) (cluster : String)
    (blueprint : MetaBlueprint) :
    ((blueprints.set cluster blueprint).lookup cluster).map MetaBlueprint.key
      = some blueprint.key := by
  rw [GoMap.set, AList.lookup_insert, Option.map_some]

variable {st : Rollout}

theorem handled_createRemote (hfresh : st.view d.1 = s.view d.1)
    (hrecord : s.plotter.blueprints.lookup d.1 = none) :
    r.Handled s d ((r.createRemote s.plotter st d.1 d.2).view d.1) := by
  unfold createRemote
  split
  · rename_i err herr
    refine .notCreated ⟨hrecord, ?_⟩ hfresh
    rw [herr]
    rfl
  · rename_i hnone
    obtain ⟨bp, hbp, hspec, -⟩ := Remotes.lookup_put st.remotes d.1 (newBlueprint s.plotter d.2)
    exact .created hrecord hnone (key_lookup_set _ _ _) hbp hspec

theorem handled_reconcileRemote {blueprint : MetaBlueprint} {remote : Blueprint}
    (hfresh : st.view d.1 = s.view d.1) (hrecord : s.plotter.blueprints.lookup d.1 = some blueprint)
    (hget : r.clusterManager.getBlueprint d.1 blueprint.key = .ok (some remote)) :
    r.Handled s d ((r.reconcileRemote s.plotter st d.1 d.2 remote).view d.1) := by
  unfold reconcileRemote
  dsimp only
  split
  · rename_i hspec
    have hspec := Ne.symm hspec
    split
    · rename_i hgeneration
      split
      · rename_i err herr
        exact .refused hrecord hget hspec hgeneration (by rw [herr]; exact Option.some_ne_none err)
      · obtain ⟨bp, hbp, hbpSpec, -⟩ := Remotes.lookup_put st.remotes d.1
          { remote with spec := d.2, annotations := ∅ }
        exact .updated hrecord hget hspec (key_lookup_set _ _ _) hbp hbpSpec
    · rename_i hgeneration
      exact .outOfStep hrecord hget hspec (not_not.1 hgeneration)
  · rename_i hspec
    have hremote : (st.view d.1).remote = (s.view d.1).remote := by rw [hfresh]
    exact .inPlace hrecord hget (not_not.1 hspec).symm (key_lookup_set _ _ _) hremote

theorem handled_reconcileCluster {st' : Rollout} (hfresh : st.view d.1 = s.view d.1)
    (h : r.reconcileCluster s.plotter st d = .ok st') : r.Handled s d (st'.view d.1) := by
  have hsame : st.blueprints.lookup d.1 = s.plotter.blueprints.lookup d.1 :=
    congrArg ClusterView.record hfresh
  cases hrecord : s.plotter.blueprints.lookup d.1 with
  | none =>
    rw [reconcileCluster_unrecorded (hsame.trans hrecord)] at h
    cases h
    exact handled_createRemote hfresh hrecord
  | some blueprint =>
    cases hget : r.clusterManager.getBlueprint d.1 blueprint.key with
    | error err =>
      rw [reconcileCluster_error (hsame.trans hrecord) hget] at h
      cases h
    | ok found =>
      cases found with
      | none =>
        rw [reconcileCluster_missing (hsame.trans hrecord) hget] at h
        cases h
        exact .missing hrecord hget hfresh
      | some remote =>
        rw [reconcileCluster_fetched (hsame.trans hrecord) hget] at h
        cases h
        exact handled_reconcileRemote hfresh hrecord hget

theorem view_of_error {plotter : PlotterResource} {e : Rollout} (c : String)
    (h : r.reconcileCluster plotter st d = .error e) : e.view c = st.view c := by
  unfold reconcileCluster at h
  split at h
  · cases h
  · split at h
    · cases h
      rfl
    · cases h
    · cases h

/-- The loop over the clusters deals with each of them, unless it is left; then some
have been dealt with, and the others are as before. -/
theorem rollout_rounds (r : PlotterReconciler) (s : PlotterSite)
    (blueprintsMap : GoMap String BlueprintSpec) :
    Loops.Ends (fun st => ∀ d ∈ blueprintsMap.pairs, r.Handled s d (st.view d.1))
      (fun st => (∃ d ∈ blueprintsMap.pairs, r.FetchFails s.plotter d) ∧
        ∀ d ∈ blueprintsMap.pairs, st.view d.1 = s.view d.1 ∨ r.Handled s d (st.view d.1))
      (r.rollout s blueprintsMap) := by
  have hframe : ([] ++ blueprintsMap.pairs).Pairwise fun d d' => ∀ st st' : Rollout,
      (r.reconcileCluster s.plotter st d = Except.ok st' → st.view d'.1 = s.view d'.1 →
        st'.view d'.1 = s.view d'.1) ∧
      (r.reconcileCluster s.plotter st d' = Except.ok st' → r.Handled s d (st.view d.1) →
        r.Handled s d (st'.view d.1)) := by
    refine (List.pairwise_map.1 blueprintsMap.nodup_keys_pairs).imp fun hne st st' => ⟨?_, ?_⟩
    · intro hst' hview
      rw [view_reconcileCluster hst' hne.symm, hview]
    · intro hst' hhandled
      rw [view_reconcileCluster hst' hne]
      exact hhandled
  have hends := Loops.foldlM_rounds (fun d st => Rollout.view st d.1 = s.view d.1)
    (fun d st => r.Handled s d (st.view d.1)) [] blueprintsMap.pairs hframe
    (fun d _ st st' hfresh hst' => handled_reconcileCluster hfresh hst')
    (s := startRollout s) (nofun) (fun d _ => rfl)
  rw [rollout]
  cases hrollout : blueprintsMap.pairs.foldlM (r.reconcileCluster s.plotter) (startRollout s) with
  | ok st =>
    rw [hrollout] at hends
    exact hends
  | error st =>
    rw [hrollout] at hends
    obtain ⟨b, hb, u, hu, hfresh, hall⟩ := hends
    refine ⟨⟨b, hb, ?_⟩, fun d hd => ?_⟩
    · rcases reconcileCluster_cases (congrArg ClusterView.record hfresh) with
        ⟨hfails, -⟩ | ⟨-, st', hst', -⟩
      · exact hfails
      · cases hu.symm.trans hst'
    · rw [view_of_error d.1 hu]
      exact hall d hd

/-- What becomes of the clusters in a reconcile. -/
theorem reconcile_rounds (hmap : r.desiredBlueprints s.plotter = some blueprintsMap)
    (h : r.reconcile s = some (s', errors)) :
    ((∃ d ∈ blueprintsMap.pairs, r.FetchFails s.plotter d) ∧
      s'.plotter.observedGeneration = s.plotter.observedGeneration ∧
      ∀ d ∈ blueprintsMap.pairs, s'.view d.1 = s.view d.1 ∨ r.Handled s d (s'.view d.1)) ∨
    (s'.plotter.observedGeneration = s.plotter.generation ∧
      ∀ d ∈ blueprintsMap.pairs, r.Handled s d (s'.view d.1)) := by
  have hrounds := rollout_rounds r s blueprintsMap
  unfold reconcile at h
  rw [hmap] at h
  dsimp only at h
  cases hst : r.rollout s blueprintsMap with
  | error st =>
    rw [hst] at h hrounds
    cases h
    exact Or.inl ⟨hrounds.1, rfl, hrounds.2⟩
  | ok st =>
    rw [hst] at h hrounds
    cases h
    refine Or.inr ⟨rfl, fun d hd => ?_⟩
    have hsome : (blueprintsMap.lookup d.1).isSome = true := by
      rw [GoMap.mem_pairs.1 hd]
      rfl
    have hview := view_tidyUp (r := r) hsome st.blueprints.pairs st
    change r.Handled s d ((st.blueprints.pairs.foldl (r.tidyUp blueprintsMap) st).view d.1)
    rw [hview]
    exact hrounds d hd

/-! ## Everything a reconcile does -/

/-- One change to the records of a plotter and the blueprints in the clusters. -/
inductive Move (r : PlotterReconciler) (plotter : PlotterResource) :
    GoMap String MetaBlueprint × Remotes → GoMap String MetaBlueprint × Remotes → Prop
  | create {blueprints : GoMap String MetaBlueprint} {remotes : Remotes} (cluster : String)
      (spec : BlueprintSpec) :
      Move r plotter (blueprints, remotes)
        (blueprints.set cluster (createMetaBlueprintWithoutState (newBlueprint plotter spec)),
          remotes.put cluster (newBlueprint plotter spec))
  | update {blueprints : GoMap String MetaBlueprint} {remotes : Remotes} {cluster : String}
      {blueprint : MetaBlueprint} {remote : Blueprint} (spec : BlueprintSpec)
      (hrecord : blueprints.lookup cluster = some blueprint)
      (hget : r.clusterManager.getBlueprint cluster blueprint.key = .ok (some remote)) :
      Move r plotter (blueprints, remotes)
        (blueprints.set cluster
          (createMetaBlueprintWithoutState { remote with spec := spec, annotations := ∅ }),
          remotes.put cluster { remote with spec := spec, annotations := ∅ })
  | record {blueprints : GoMap String MetaBlueprint} {remotes : Remotes} {cluster : String}
      {blueprint : MetaBlueprint} {remote : Blueprint}
      (hrecord : blueprints.lookup cluster = some blueprint)
      (hget : r.clusterManager.getBlueprint cluster blueprint.key = .ok (some remote)) :
      Move r plotter (blueprints, remotes)
        (blueprints.set cluster (createMetaBlueprint remote), remotes)
  | delete {blueprints : GoMap String MetaBlueprint} {remotes : Remotes} (cluster : String)
      (key : NamespacedName) :
      Move r plotter (blueprints, remotes)
        (blueprints.delete cluster, remotes.delete (cluster, key))
  | forget {blueprints : GoMap String MetaBlueprint} {remotes : Remotes} (cluster : String) :
      Move r plotter (blueprints, remotes) (blueprints.delete cluster, remotes)

/-- The records and the clusters in the middle of a reconcile. -/
def Rollout.holdings (st : Rollout) : GoMap String MetaBlueprint × Remotes :=
  (st.blueprints, st.remotes)

section Moves

open Relation

variable {plotter : PlotterResource} {st : Rollout}

theorem moves_reconcileCluster (r : PlotterReconciler) (plotter : PlotterResource) (st : Rollout)
    (d : String × BlueprintSpec) :
    Loops.Ends (fun st' => ReflTransGen (r.Move plotter) st.holdings st'.holdings)
      (fun st' => ReflTransGen (r.Move plotter) st.holdings st'.holdings)
      (r.reconcileCluster plotter st d) := by
  unfold reconcileCluster
  split
  · unfold createRemote
    split
    · exact .refl
    · exact .single (.create d.1 d.2)
  · rename_i blueprint hrecord
    split
    · exact .refl
    · exact .refl
    · rename_i remote hget
      unfold reconcileRemote
      dsimp only
      split
      · split
        · split
          · exact .refl
          · exact .single (.update d.2 hrecord hget)
        · exact .refl
      · exact .single (.record hrecord hget)

theorem moves_rollout (r : PlotterReconciler) (s : PlotterSite)
    (blueprintsMap : GoMap String BlueprintSpec) :
    Loops.Ends (fun st => ReflTransGen (r.Move s.plotter) (startRollout s).holdings st.holdings)
      (fun st => ReflTransGen (r.Move s.plotter) (startRollout s).holdings st.holdings)
      (r.rollout s blueprintsMap) := by
  refine Loops.foldlM_ends
    (P := fun _ (st : Rollout) => ReflTransGen (r.Move s.plotter) (startRollout s).holdings st.holdings)
    (fun l st d hst => ?_) [] blueprintsMap.pairs .refl
  have hd := moves_reconcileCluster r s.plotter st d
  cases hround : r.reconcileCluster s.plotter st d with
  | ok st' =>
    rw [hround] at hd
    exact hst.trans hd
  | error st' =>
    rw [hround] at hd
    exact hst.trans hd

theorem moves_tidyUp (blueprintsMap : GoMap String BlueprintSpec)
    (l : List (String × MetaBlueprint)) (st : Rollout) :
    ReflTransGen (r.Move plotter) st.holdings (l.foldl (r.tidyUp blueprintsMap) st).holdings := by
  induction l generalizing st with
  | nil => exact .refl
  | cons entry l ih =>
    refine .trans ?_ (ih (r.tidyUp blueprintsMap st entry))
    unfold tidyUp
    split
    · exact .refl
    · split
      · exact .single (.delete entry.1 entry.2.key)
      · split
        · exact .single (.forget entry.1)
        · exact .refl

/-- Whatever a reconcile does to the records and the clusters is a sequence of such
changes. -/
theorem moves_reconcile (h : r.reconcile s = some (s', errors)) :
    ReflTransGen (r.Move s.plotter) (s.plotter.blueprints, s.remotes)
      (s'.plotter.blueprints, s'.remotes) := by
  unfold reconcile at h
  split at h
  · cases h
  · rename_i blueprintsMap _
    have hmoves := moves_rollout r s blueprintsMap
    cases hst : r.rollout s blueprintsMap with
    | error st =>
      rw [hst] at h hmoves
      cases h
      exact hmoves
    | ok st =>
      rw [hst] at h hmoves
      cases h
      exact hmoves.trans (moves_tidyUp blueprintsMap st.blueprints.pairs st)

end Moves

/-- A reconcile only changes the status of the plotter. -/
theorem plotter_reconcile (h : r.reconcile s = some (s', errors)) :
    ∃ observedState observedGeneration assets blueprints,
      s'.plotter = { s.plotter with
        observedState := observedState
        observedGeneration := observedGeneration
        assets := assets
        blueprints := blueprints } := by
  unfold reconcile at h
  split at h
  · cases h
  · split at h
    · cases h
      exact ⟨_, _, _, _, rfl⟩
    · cases h
      exact ⟨_, _, _, _, rfl⟩

/-- The finalizers are seen to first; this may fail. -/
theorem reconcileFinalizers_eq (r : PlotterReconciler) (hdeleted : s.plotter.beingDeleted = false) :
    ∃ finalizers err, r.reconcileFinalizers s = (s.withFinalizers finalizers, err) ∧
      (r.updateFinalizers = none → err = none) := by
  unfold reconcileFinalizers reconcileFinalizersWith
  rw [hdeleted]
  by_cases hfinalizer : s.plotter.finalizers.contains r.finalizerName = true
  · exact ⟨s.plotter.finalizers, none, by simp only [hfinalizer]; rfl, fun _ => rfl⟩
  · simp only [hfinalizer, storeFinalizers]
    cases r.updateFinalizers with
    | none => exact ⟨_, none, rfl, fun _ => rfl⟩
    | some err => exact ⟨s.plotter.finalizers, some err, rfl, fun h => absurd h (by simp)⟩

variable {err : Option String}

/-- A call sees to the finalizers, and then runs `reconcile`, whose status may be lost. -/
theorem reconcileRequest_ends (h : r.reconcileRequest s = some (s', err)) :
    (s' = (r.reconcileFinalizers s).1 ∧ ((r.reconcileFinalizers s).2 ≠ none ∨
        (r.reconcileFinalizers s).1.plotter.beingDeleted = true)) ∨
      ∃ res errors, r.reconcile (r.reconcileFinalizers s).1 = some (res, errors) ∧
        (s' = res ∨ s' = { (r.reconcileFinalizers s).1 with remotes := res.remotes }) := by
  unfold reconcileRequest at h
  generalize r.reconcileFinalizers s = finalized at h ⊢
  obtain ⟨s₁, ferr⟩ := finalized
  cases ferr with
  | some ferr =>
    cases h
    exact Or.inl ⟨rfl, Or.inl (Option.some_ne_none ferr)⟩
  | none =>
    simp only at h ⊢
    split at h
    · rename_i hdeleted
      cases h
      exact Or.inl ⟨rfl, Or.inr hdeleted⟩
    · split at h
      · cases h
      · rename_i res errors hres
        refine Or.inr ⟨res, errors, hres, ?_⟩
        split at h
        · exact Or.inr (Prod.mk.inj (Option.some.inj h)).1.symm
        · exact Or.inl (Prod.mk.inj (Option.some.inj h)).1.symm

/-- What a call of the controller leaves behind: if the finalizers are in order, what
`reconcile` leaves behind, except that the status may not get written. -/
theorem reconcileRequest_cases (hdeleted : s.plotter.beingDeleted = false)
    (h : r.reconcileRequest s = some (s', err)) :
    ∃ finalizers, (s' = s.withFinalizers finalizers ∧ r.updateFinalizers ≠ none) ∨
      ∃ res errors, r.reconcile (s.withFinalizers finalizers) = some (res, errors) ∧
        (s' = res ∨ s' = { s.withFinalizers finalizers with remotes := res.remotes }) := by
  obtain ⟨finalizers, ferr, heq, hferr⟩ := reconcileFinalizers_eq r hdeleted
  have hends := reconcileRequest_ends h
  rw [heq] at hends
  refine ⟨finalizers, hends.imp_left ?_⟩
  rintro ⟨hs', hfails | hbeing⟩
  · exact ⟨hs', fun hnone => hfails (hferr hnone)⟩
  · cases hdeleted.symm.trans hbeing

theorem generation_reconcileFinalizers (r : PlotterReconciler) (s : PlotterSite) :
    (r.reconcileFinalizers s).1.plotter.generation = s.plotter.generation := by
  have hstore : ∀ finalizers,
      (r.storeFinalizers s.plotter finalizers).1.generation = s.plotter.generation := by
    intro finalizers
    unfold storeFinalizers
    split <;> rfl
  unfold reconcileFinalizers reconcileFinalizersWith
  dsimp only
  split
  · split
    · split
      · rfl
      · exact hstore _
    · rfl
  · split
    · rfl
    · exact hstore _

/-- No call of the controller makes a new generation of the plotter. -/
theorem generation_reconcileRequest (h : r.reconcileRequest s = some (s', err)) :
    s'.plotter.generation = s.plotter.generation := by
  have hfinalizers := generation_reconcileFinalizers r s
  rcases reconcileRequest_ends h with ⟨rfl, -⟩ | ⟨res, errors, hres, rfl | rfl⟩
  · exact hfinalizers
  · obtain ⟨observedState, observedGeneration, assets, blueprints, hplotter⟩ :=
      plotter_reconcile hres
    rw [hplotter]
    exact hfinalizers
  · exact hfinalizers

end PlotterReconciler

/-! ## Steps -/

/-- A plotter, with the blueprints and Helm in the clusters.  We remember which
blueprints were given a new specification and have not been reconciled since. -/
structure PlotterWorld extends PlotterSite where
  helm : String → Helm
  waiting : List (String × NamespacedName)

/-- The blueprints that wait for their controller after a reconcile of the plotter:
those that already did, and those with a new generation. -/
def stillWaiting (waiting : List (String × NamespacedName)) (remotes remotes' : Remotes) :
    List (String × NamespacedName) :=
  (remotes'.pairs.filter fun kb => waiting.contains kb.1 ||
    (remotes.lookup kb.1).any fun old => decide (old.generation < kb.2.generation)).map Prod.fst

/-- The controller of blueprints is called in one of the clusters; afterwards the
blueprint waits no more unless there was an error. -/
def PlotterWorld.reconcileBlueprint (w : PlotterWorld) (b : BlueprintReconciler)
    (calls : BlueprintCalls) (k : String × NamespacedName) (blueprint : Blueprint) : PlotterWorld :=
  let res := b.reconcileRequest calls ⟨blueprint, w.helm k.1⟩
  { w with
    remotes := w.remotes.set k res.1.blueprint
    helm := Function.update w.helm k.1 res.1.helm
    waiting := if res.2 = none then w.waiting.filter fun k' => k' != k else w.waiting }

namespace PlotterReconciler

/-- The answers a reconciler gets are true: the hash function and the registered
clusters are the ones there are, and a blueprint that is found is there.  All calls
may fail, and a blueprint may not be visible yet. -/
structure Faithful (r : PlotterReconciler) (sha : Sha512) (clusters : List Cluster)
    (remotes : Remotes) : Prop where
  sha512 : r.sha512 = sha
  clusters : ∀ found, r.clusterManager.getClusters = .ok found → found = clusters
  blueprints : ∀ cluster key remote,
    r.clusterManager.getBlueprint cluster key = .ok (some remote) →
      remotes.lookup (cluster, key) = some remote

/-- One step in the life of a plotter: its specification is edited, which makes a new
generation of it, its controller is called (subject to a condition), or the one of
a blueprint is. -/
inductive Step (sha : Sha512) (clusters : List Cluster)
    (ok : PlotterReconciler → PlotterSite → Prop) : PlotterWorld → PlotterWorld → Prop
  | edit {w : PlotterWorld} (spec : PlotterSpec) :
      Step sha clusters ok w
        { w with plotter := { w.plotter with
            spec := spec
            generation := w.plotter.generation + 1 } }
  | reconcile {w : PlotterWorld} {s' : PlotterSite} {err : Option String} (r : PlotterReconciler)
      (hfaithful : r.Faithful sha clusters w.remotes) (hok : ok r w.toPlotterSite)
      (h : r.reconcileRequest w.toPlotterSite = some (s', err)) :
      Step sha clusters ok w ⟨s', w.helm, stillWaiting w.waiting w.remotes s'.remotes⟩
  | reconcileBlueprint {w : PlotterWorld} {k : String × NamespacedName} {blueprint : Blueprint}
      (b : BlueprintReconciler) (calls : BlueprintCalls)
      (hblueprint : w.remotes.lookup k = some blueprint) :
      Step sha clusters ok w (w.reconcileBlueprint b calls k blueprint)

/-- The plotter has just been created; there may be blueprints from elsewhere. -/
structure Created (w : PlotterWorld) : Prop where
  notDeleted : w.plotter.beingDeleted = false
  generation : 0 < w.plotter.generation
  observedGeneration : w.plotter.observedGeneration = 0
  blueprints : w.plotter.blueprints = ∅
  named : ∀ k blueprint, w.remotes.lookup k = some blueprint → blueprint.key = k.2

/-- What is true in every run: blueprints are stored under their names, and those of
the plotter have its name. -/
structure WellKept (s : PlotterSite) : Prop where
  notDeleted : s.plotter.beingDeleted = false
  observed : s.plotter.observedGeneration ≤ s.plotter.generation
  named : ∀ k blueprint, s.remotes.lookup k = some blueprint → blueprint.key = k.2
  keyed : ∀ cluster blueprint, s.plotter.blueprints.lookup cluster = some blueprint →
    blueprint.key = s.plotter.key

variable {r : PlotterReconciler} {s s' : PlotterSite} {d : String × BlueprintSpec}
  {blueprintsMap : GoMap String BlueprintSpec} {errors : List String}
  {sha : Sha512} {clusters : List Cluster} {ok : PlotterReconciler → PlotterSite → Prop}
  {w w₀ : PlotterWorld}

theorem Created.wellKept (h : Created w) : WellKept w.toPlotterSite := by
  refine ⟨h.notDeleted, ?_, h.named, fun cluster blueprint hlookup => ?_⟩
  · rw [h.observedGeneration]
    exact Nat.zero_le _
  · rw [h.blueprints] at hlookup
    cases hlookup

variable {k : String × NamespacedName} {remotes : Remotes}

theorem named_put (h : ∀ k blueprint, remotes.lookup k = some blueprint → blueprint.key = k.2)
    (cluster : String) (blueprint : Blueprint) {b : Blueprint}
    (hb : (remotes.put cluster blueprint).lookup k = some b) : b.key = k.2 := by
  by_cases hk : k = (cluster, blueprint.key)
  · subst hk
    obtain ⟨b', hb', -, ⟨hkey, -⟩ | ⟨existing, hexisting, hkey, -⟩⟩ :=
      Remotes.lookup_put remotes cluster blueprint
    · obtain rfl := Option.some.inj (hb.symm.trans hb')
      exact hkey
    · obtain rfl := Option.some.inj (hb.symm.trans hb')
      exact hkey.trans (h _ _ hexisting)
  · rw [Remotes.lookup_put_ne hk] at hb
    exact h k b hb

variable {key : NamespacedName}

/-- A record is replaced by one with the same name. -/
theorem keyed_set {blueprints : GoMap String MetaBlueprint}
    (h : ∀ cluster blueprint, blueprints.lookup cluster = some blueprint → blueprint.key = key)
    {cluster : String} {blueprint : MetaBlueprint} (hkey : blueprint.key = key) :
    ∀ cluster' blueprint', (blueprints.set cluster blueprint).lookup cluster' = some blueprint' →
      blueprint'.key = key := by
  intro cluster' blueprint' hlookup
  rcases GoMap.eq_or_of_lookup_set hlookup with ⟨-, rfl⟩ | hbefore
  · exact hkey
  · exact h cluster' blueprint' hbefore

/-- The names stay in order in a reconcile. -/
theorem WellKept.move (h : WellKept s)
    (hblueprints : ∀ cluster key remote,
      r.clusterManager.getBlueprint cluster key = .ok (some remote) →
        s.remotes.lookup (cluster, key) = some remote)
    {c : GoMap String MetaBlueprint × Remotes}
    (hmoves : Relation.ReflTransGen (r.Move s.plotter) (s.plotter.blueprints, s.remotes) c) :
    (∀ k blueprint, c.2.lookup k = some blueprint → blueprint.key = k.2) ∧
      ∀ cluster blueprint, c.1.lookup cluster = some blueprint →
        blueprint.key = s.plotter.key := by
  induction hmoves with
  | refl => exact ⟨h.named, h.keyed⟩
  | tail _ hmove ih =>
    obtain ⟨hnamed, hkeyed⟩ := ih
    cases hmove with
    | create cluster spec =>
      exact ⟨fun k b hb => named_put hnamed cluster _ hb, keyed_set hkeyed rfl⟩
    | update spec hrecord hget =>
      have hkey := (h.named _ _ (hblueprints _ _ _ hget)).trans (hkeyed _ _ hrecord)
      exact ⟨fun k b hb => named_put hnamed _ _ hb, keyed_set hkeyed hkey⟩
    | record hrecord hget =>
      have hkey := (h.named _ _ (hblueprints _ _ _ hget)).trans (hkeyed _ _ hrecord)
      exact ⟨hnamed, keyed_set hkeyed hkey⟩
    | delete cluster key =>
      exact ⟨fun k b hb => hnamed k b (GoMap.lookup_of_delete hb),
        fun c b hb => hkeyed c b (GoMap.lookup_of_delete hb)⟩
    | forget cluster => exact ⟨hnamed, fun c b hb => hkeyed c b (GoMap.lookup_of_delete hb)⟩

theorem observed_reconcile (h : WellKept s) (hres : r.reconcile s = some (s', errors)) :
    s'.plotter.observedGeneration ≤ s'.plotter.generation := by
  obtain ⟨_, _, _, _, heq⟩ := plotter_reconcile hres
  have hgeneration : s'.plotter.generation = s.plotter.generation := by rw [heq]
  have hobserved := h.observed
  cases hmap : r.desiredBlueprints s.plotter with
  | none =>
    rw [reconcile, hmap] at hres
    cases hres
  | some blueprintsMap =>
    rcases reconcile_rounds hmap hres with ⟨-, hsame, -⟩ | ⟨hnew, -⟩ <;> omega

theorem WellKept.reconcile (h : WellKept s) (hfaithful : r.Faithful sha clusters s.remotes)
    (hres : r.reconcile s = some (s', errors)) :
    WellKept s' ∧ WellKept { s with remotes := s'.remotes } := by
  obtain ⟨hnamed, hkeyed⟩ := h.move hfaithful.blueprints (moves_reconcile hres)
  have hobserved := observed_reconcile h hres
  obtain ⟨_, _, _, _, heq⟩ := plotter_reconcile hres
  refine ⟨⟨?_, hobserved, hnamed, fun c b hb => ?_⟩, h.notDeleted, h.observed, hnamed, h.keyed⟩
  · rw [heq]
    exact h.notDeleted
  · rw [hkeyed c b hb, heq]
    rfl

variable {err : Option String}

theorem WellKept.reconcileRequest (h : WellKept s) (hfaithful : r.Faithful sha clusters s.remotes)
    (hres : r.reconcileRequest s = some (s', err)) : WellKept s' := by
  obtain ⟨finalizers, ⟨rfl, -⟩ | ⟨res, errors, hreconcile, hs'⟩⟩ :=
    reconcileRequest_cases h.notDeleted hres
  · exact ⟨h.notDeleted, h.observed, h.named, h.keyed⟩
  · have h₁ : WellKept (s.withFinalizers finalizers) :=
      ⟨h.notDeleted, h.observed, h.named, h.keyed⟩
    obtain ⟨hstored, hnotStored⟩ := h₁.reconcile hfaithful hreconcile
    rcases hs' with rfl | rfl
    · exact hstored
    · exact hnotStored

variable {blueprint remote : Blueprint} {b : BlueprintReconciler} {calls : BlueprintCalls}
  {k' : String × NamespacedName}

/-- A reconcile of a blueprint does not change its name or specification. -/
theorem lookup_reconcileBlueprint (hblueprint : w.remotes.lookup k = some blueprint)
    (h : (w.reconcileBlueprint b calls k blueprint).remotes.lookup k' = some remote) :
    ∃ before, w.remotes.lookup k' = some before ∧ remote.key = before.key ∧
      remote.spec = before.spec := by
  rcases GoMap.eq_or_of_lookup_set h with ⟨rfl, rfl⟩ | hbefore
  · obtain ⟨finalizers, status, heq⟩ :=
      b.blueprint_reconcileRequest calls ⟨blueprint, w.helm k'.1⟩
    rw [heq]
    exact ⟨blueprint, hblueprint, rfl, rfl⟩
  · exact ⟨remote, hbefore, rfl, rfl⟩

theorem WellKept.step {w' : PlotterWorld} (h : WellKept w.toPlotterSite)
    (hstep : Step sha clusters ok w w') : WellKept w'.toPlotterSite := by
  cases hstep with
  | edit spec => exact ⟨h.notDeleted, Nat.le_succ_of_le h.observed, h.named, h.keyed⟩
  | reconcile r hfaithful _ hres => exact h.reconcileRequest hfaithful hres
  | reconcileBlueprint b calls hblueprint =>
    refine ⟨h.notDeleted, h.observed, fun k remote hremote => ?_, h.keyed⟩
    obtain ⟨before, hbefore, hkey, -⟩ := lookup_reconcileBlueprint hblueprint hremote
    exact hkey.trans (h.named k before hbefore)

theorem wellKept_of_run (h₀ : Created w₀)
    (hrun : Relation.ReflTransGen (Step sha clusters ok) w₀ w) : WellKept w.toPlotterSite := by
  induction hrun with
  | refl => exact h₀.wellKept
  | tail _ hstep ih => exact ih.step hstep

/-! ## Convergence -/

/-- What a reconcile has to achieve for later ones to rely on it: the registered clusters
are known, and for a new generation, unless some blueprint cannot be fetched, every
recorded blueprint is visible and can be updated if needed. -/
structure SpecsDelivered (r : PlotterReconciler) (clusters : List Cluster) (s : PlotterSite) :
    Prop where
  known : r.clusterManager.getClusters = .ok clusters
  updated : s.plotter.generation ≠ s.plotter.observedGeneration →
    ∀ blueprintsMap, r.desiredBlueprints s.plotter = some blueprintsMap →
      (∀ d ∈ blueprintsMap.pairs, ¬ r.FetchFails s.plotter d) →
      ∀ d ∈ blueprintsMap.pairs, ∀ blueprint,
        s.plotter.blueprints.lookup d.1 = some blueprint →
        ∃ remote, r.clusterManager.getBlueprint d.1 blueprint.key = .ok (some remote) ∧
          (remote.spec ≠ d.2 → r.clusterManager.updateBlueprint d.1
            { remote with spec := d.2, annotations := ∅ } = none)

/-- What is maintained: once a generation of the plotter is observed, the recorded
blueprints have the specifications it asks for. -/
def Delivered (sha : Sha512) (clusters : List Cluster) (s : PlotterSite) : Prop :=
  s.plotter.observedGeneration = s.plotter.generation →
    ∀ blueprintsMap, getBlueprintsMap sha clusters s.plotter.toPlotter = some blueprintsMap →
      ∀ d ∈ blueprintsMap.pairs, (s.plotter.blueprints.lookup d.1).isSome = true →
        ∀ remote, s.remotes.lookup (d.1, s.plotter.key) = some remote → remote.spec = d.2

/-- The specification of a fetched blueprint's object. -/
theorem lookup_of_fetched {blueprint : MetaBlueprint} (h : WellKept s)
    (hfaithful : r.Faithful sha clusters s.remotes)
    (hrecord : s.plotter.blueprints.lookup d.1 = some blueprint)
    (hget : r.clusterManager.getBlueprint d.1 blueprint.key = .ok (some remote)) :
    s.remotes.lookup (d.1, s.plotter.key) = some remote ∧ remote.key = s.plotter.key := by
  have hkey := h.keyed d.1 blueprint hrecord
  have hlookup := hfaithful.blueprints d.1 blueprint.key remote hget
  have hname := h.named _ _ hlookup
  rw [hkey] at hlookup
  exact ⟨hlookup, hname.trans hkey⟩

theorem desiredBlueprints_of_known (hsha : r.sha512 = sha)
    (hknown : r.clusterManager.getClusters = .ok clusters) (plotter : PlotterResource) :
    r.desiredBlueprints plotter = getBlueprintsMap sha clusters plotter.toPlotter := by
  have hclusters : r.knownClusters = clusters := by simp only [knownClusters, hknown]
  rw [desiredBlueprints, hclusters, hsha]

variable {v : ClusterView}

/-- A cluster that has been dealt with has the specification asked for. -/
theorem Handled.spec_eq (h : r.Handled s d v) (hkept : WellKept s)
    (hdelivered : Delivered sha clusters s) (hfaithful : r.Faithful sha clusters s.remotes)
    (hok : r.SpecsDelivered clusters s) (hmap : r.desiredBlueprints s.plotter = some blueprintsMap)
    (hd : d ∈ blueprintsMap.pairs)
    (hgeneration : s.plotter.generation ≠ s.plotter.observedGeneration →
      ∀ d ∈ blueprintsMap.pairs, ¬ r.FetchFails s.plotter d)
    (hrecorded : v.record.isSome = true ∨ (s.view d.1).record.isSome = true)
    (hremote : v.remote s.plotter.key = some remote) : remote.spec = d.2 := by
  have hwanted := (desiredBlueprints_of_known hfaithful.sha512 hok.known s.plotter).symm.trans hmap
  -- an observed generation has been delivered already
  have hbefore : s.plotter.generation = s.plotter.observedGeneration →
      (s.view d.1).record.isSome = true → ∀ bp, (s.view d.1).remote s.plotter.key = some bp →
        bp.spec = d.2 :=
    fun heq hsome => hdelivered heq.symm blueprintsMap hwanted d hd hsome
  cases h with
  | created _ _ _ hbp hspec => rw [← Option.some.inj (hbp.symm.trans hremote), hspec]
  | notCreated hfails hv =>
    rw [hv, or_self] at hrecorded
    have hnone : (s.view d.1).record = none := hfails.1
    rw [hnone] at hrecorded
    cases hrecorded
  | missing hrecord hget hv =>
    by_cases heq : s.plotter.generation = s.plotter.observedGeneration
    · rw [hv] at hrecorded hremote
      exact hbefore heq (or_self_iff.1 hrecorded) remote hremote
    · obtain ⟨found, hfound, -⟩ :=
        hok.updated heq blueprintsMap hmap (hgeneration heq) d hd _ hrecord
      cases hget.symm.trans hfound
  | inPlace hrecord hget hspec _ hsame =>
    obtain ⟨hlookup, -⟩ := lookup_of_fetched hkept hfaithful hrecord hget
    rw [hsame] at hremote
    rw [← Option.some.inj (hlookup.symm.trans hremote), hspec]
  | updated hrecord hget _ _ hbp hspec =>
    obtain ⟨-, hkey⟩ := lookup_of_fetched hkept hfaithful hrecord hget
    rw [hkey] at hbp
    rw [← Option.some.inj (hbp.symm.trans hremote), hspec]
  | refused hrecord hget hspec hne hfails =>
    obtain ⟨found, hfound, hupdate⟩ :=
      hok.updated hne blueprintsMap hmap (hgeneration hne) d hd _ hrecord
    obtain rfl := Option.some.inj (Except.ok.inj (hget.symm.trans hfound))
    exact absurd (hupdate hspec) hfails
  | outOfStep hrecord hget hspec heq =>
    obtain ⟨hlookup, -⟩ := lookup_of_fetched hkept hfaithful hrecord hget
    have hsome : (s.view d.1).record.isSome = true := by
      change (s.plotter.blueprints.lookup d.1).isSome = true
      rw [hrecord]
      rfl
    exact absurd (hbefore heq hsome _ hlookup) hspec

/-- A cluster that has been dealt with did not fail to answer. -/
theorem Handled.not_fetchFails (h : r.Handled s d v) : ¬ r.FetchFails s.plotter d := by
  rintro ⟨blueprint, err, hrecord, herr⟩
  cases h with
  | created hnone => cases hrecord.symm.trans hnone
  | notCreated hfails => cases hrecord.symm.trans hfails.1
  | missing hrecord' hget | inPlace hrecord' hget | updated hrecord' hget
  | refused hrecord' hget | outOfStep hrecord' hget =>
    obtain rfl := Option.some.inj (hrecord.symm.trans hrecord')
    cases herr.symm.trans hget

/-- The status of a plotter has no influence on the blueprints it asks for. -/
theorem getBlueprintsMap_reconcile (h : r.reconcile s = some (s', errors)) :
    getBlueprintsMap sha clusters s'.plotter.toPlotter =
      getBlueprintsMap sha clusters s.plotter.toPlotter := by
  obtain ⟨_, _, _, _, heq⟩ := plotter_reconcile h
  rw [heq]
  rfl

theorem key_reconcile (h : r.reconcile s = some (s', errors)) : s'.plotter.key = s.plotter.key := by
  obtain ⟨_, _, _, _, heq⟩ := plotter_reconcile h
  rw [heq]
  rfl

/-- A reconcile keeps what was delivered, whether or not its status is stored. -/
theorem Delivered.reconcile (hdelivered : Delivered sha clusters s) (hkept : WellKept s)
    (hfaithful : r.Faithful sha clusters s.remotes) (hok : r.SpecsDelivered clusters s)
    (hres : r.reconcile s = some (s', errors)) :
    Delivered sha clusters s' ∧ Delivered sha clusters { s with remotes := s'.remotes } := by
  have hdesired := desiredBlueprints_of_known hfaithful.sha512 hok.known s.plotter
  obtain ⟨_, _, _, _, heq⟩ := plotter_reconcile hres
  have hgeneration : s'.plotter.generation = s.plotter.generation := by rw [heq]
  -- what the rounds leave behind, if the generation counts as observed afterwards
  have hspecs : ∀ blueprintsMap, r.desiredBlueprints s.plotter = some blueprintsMap →
      (s'.plotter.observedGeneration = s.plotter.generation ∨
        s.plotter.observedGeneration = s.plotter.generation) →
      ∀ d ∈ blueprintsMap.pairs,
        (s'.view d.1).record.isSome = true ∨ (s.view d.1).record.isSome = true →
        ∀ remote, (s'.view d.1).remote s.plotter.key = some remote → remote.spec = d.2 := by
    intro blueprintsMap hmap hobserved d hd hrecorded remote hremote
    rcases reconcile_rounds hmap hres with ⟨-, hsame, hrounds⟩ | ⟨-, hrounds⟩
    · have hold : s.plotter.observedGeneration = s.plotter.generation := by
        rcases hobserved with h | h
        · exact hsame.symm.trans h
        · exact h
      rcases hrounds d hd with hview | hhandled
      · rw [hview] at hrecorded hremote
        exact hdelivered hold blueprintsMap (hdesired.symm.trans hmap) d hd
          (or_self_iff.1 hrecorded) remote hremote
      · exact hhandled.spec_eq hkept hdelivered hfaithful hok hmap hd
          (fun hne => absurd hold.symm hne) hrecorded hremote
    · exact (hrounds d hd).spec_eq hkept hdelivered hfaithful hok hmap hd
        (fun _ d hd => (hrounds d hd).not_fetchFails) hrecorded hremote
  constructor
  · intro hobserved blueprintsMap hwanted d hd hrecord remote hremote
    rw [getBlueprintsMap_reconcile hres] at hwanted
    rw [key_reconcile hres] at hremote
    exact hspecs blueprintsMap (hdesired.trans hwanted) (Or.inl (hobserved.trans hgeneration)) d hd
      (Or.inl hrecord) remote hremote
  · intro hobserved blueprintsMap hwanted d hd hrecord remote hremote
    exact hspecs blueprintsMap (hdesired.trans hwanted) (Or.inr hobserved) d hd (Or.inr hrecord)
      remote hremote

theorem Delivered.reconcileRequest (hdelivered : Delivered sha clusters s) (hkept : WellKept s)
    (hfaithful : r.Faithful sha clusters s.remotes) (hok : r.SpecsDelivered clusters s)
    (hres : r.reconcileRequest s = some (s', err)) : Delivered sha clusters s' := by
  obtain ⟨finalizers, ⟨rfl, -⟩ | ⟨res, errors, hreconcile, hs'⟩⟩ :=
    reconcileRequest_cases hkept.notDeleted hres
  · exact hdelivered
  · have hkept₁ : WellKept (s.withFinalizers finalizers) :=
      ⟨hkept.notDeleted, hkept.observed, hkept.named, hkept.keyed⟩
    have hdelivered₁ : Delivered sha clusters (s.withFinalizers finalizers) := hdelivered
    have hok₁ : r.SpecsDelivered clusters (s.withFinalizers finalizers) :=
      ⟨hok.known, hok.updated⟩
    obtain ⟨hstored, hnotStored⟩ := hdelivered₁.reconcile hkept₁ hfaithful hok₁ hreconcile
    rcases hs' with rfl | rfl
    · exact hstored
    · exact hnotStored

theorem delivered_of_run (h₀ : Created w₀)
    (hrun : Relation.ReflTransGen (Step sha clusters (SpecsDelivered · clusters)) w₀ w) :
    Delivered sha clusters w.toPlotterSite := by
  induction hrun with
  | refl =>
    intro hobserved
    have hpos := h₀.generation
    rw [← hobserved, h₀.observedGeneration] at hpos
    exact absurd hpos (Nat.lt_irrefl 0)
  | tail hrun hstep ih =>
    have hkept := wellKept_of_run h₀ hrun
    cases hstep with
    | edit spec =>
      -- the new generation has not been observed
      intro hobserved
      have hle := hkept.observed
      simp only at hobserved
      omega
    | reconcile r hfaithful hok hres => exact ih.reconcileRequest hkept hfaithful hok hres
    | reconcileBlueprint b calls hblueprint =>
      intro hobserved blueprintsMap hwanted d hd hrecord remote hremote
      obtain ⟨before, hbefore, -, hspec⟩ := lookup_reconcileBlueprint hblueprint hremote
      rw [hspec]
      exact ih hobserved blueprintsMap hwanted d hd hrecord before hbefore

/-- No call to the cluster manager fails, and the recorded blueprints are visible. -/
structure CallsSucceed (r : PlotterReconciler) (clusters : List Cluster) (s : PlotterSite) :
    Prop where
  getClusters : r.clusterManager.getClusters = .ok clusters
  getBlueprint : ∀ cluster blueprint, s.plotter.blueprints.lookup cluster = some blueprint →
    ∃ remote, r.clusterManager.getBlueprint cluster blueprint.key = .ok (some remote)
  createBlueprint : ∀ cluster blueprint, r.clusterManager.createBlueprint cluster blueprint = none
  updateBlueprint : ∀ cluster blueprint, r.clusterManager.updateBlueprint cluster blueprint = none
  deleteBlueprint : ∀ cluster key, r.clusterManager.deleteBlueprint cluster key = none
  updateFinalizers : r.updateFinalizers = none

/-- The desired blueprints are in all clusters. -/
def Converged (plotter : PlotterResource) (blueprintsMap : GoMap String BlueprintSpec)
    (remotes : Remotes) : Prop :=
  ∀ d ∈ blueprintsMap.pairs, ∃ remote, remotes.lookup (d.1, plotter.key) = some remote ∧
    remote.spec = d.2

/-- A reconcile without failures deals with each cluster as it should. -/
theorem Handled.converged (h : r.Handled s d v) (hkept : WellKept s)
    (hdelivered : Delivered sha clusters s) (hfaithful : r.Faithful sha clusters s.remotes)
    (hcalls : r.CallsSucceed clusters s)
    (hmap : getBlueprintsMap sha clusters s.plotter.toPlotter = some blueprintsMap)
    (hd : d ∈ blueprintsMap.pairs) :
    ∃ remote, v.remote s.plotter.key = some remote ∧ remote.spec = d.2 := by
  cases h with
  | created _ _ _ hbp hspec => exact ⟨_, hbp, hspec⟩
  | notCreated hfails =>
    have hnone := hfails.2
    rw [hcalls.createBlueprint] at hnone
    cases hnone
  | missing hrecord hget =>
    obtain ⟨remote, hremote⟩ := hcalls.getBlueprint _ _ hrecord
    cases hget.symm.trans hremote
  | inPlace hrecord hget hspec _ hsame =>
    obtain ⟨hlookup, -⟩ := lookup_of_fetched hkept hfaithful hrecord hget
    refine ⟨_, ?_, hspec⟩
    rw [hsame]
    exact hlookup
  | updated hrecord hget _ _ hbp hspec =>
    obtain ⟨-, hkey⟩ := lookup_of_fetched hkept hfaithful hrecord hget
    rw [hkey] at hbp
    exact ⟨_, hbp, hspec⟩
  | refused _ _ _ _ hfails => exact absurd (hcalls.updateBlueprint _ _) hfails
  | outOfStep hrecord hget hspec heq =>
    obtain ⟨hlookup, -⟩ := lookup_of_fetched hkept hfaithful hrecord hget
    exact absurd (hdelivered heq.symm blueprintsMap hmap d hd (by rw [hrecord]; rfl) _ hlookup) hspec

theorem Delivered.converges (hdelivered : Delivered sha clusters s) (hkept : WellKept s)
    (hfaithful : r.Faithful sha clusters s.remotes) (hcalls : r.CallsSucceed clusters s)
    (hmap : getBlueprintsMap sha clusters s.plotter.toPlotter = some blueprintsMap)
    (hres : r.reconcile s = some (s', errors)) :
    Converged s.plotter blueprintsMap s'.remotes := by
  have hdesired := desiredBlueprints_of_known hfaithful.sha512 hcalls.getClusters s.plotter
  rcases reconcile_rounds (hdesired.trans hmap) hres with ⟨⟨d, hd, hfails⟩, -⟩ | ⟨-, hrounds⟩
  · obtain ⟨blueprint, err, hrecord, herr⟩ := hfails
    obtain ⟨remote, hremote⟩ := hcalls.getBlueprint _ _ hrecord
    cases herr.symm.trans hremote
  · exact fun d hd => (hrounds d hd).converged hkept hdelivered hfaithful hcalls hmap hd

/-- A reconcile only crashes while the blueprints are generated. -/
theorem exists_reconcile (hmap : r.desiredBlueprints s.plotter = some blueprintsMap) :
    ∃ s' errors, r.reconcile s = some (s', errors) := by
  unfold reconcile
  rw [hmap]
  dsimp only
  cases r.rollout s blueprintsMap with
  | error st => exact ⟨_, _, rfl⟩
  | ok st => exact ⟨_, _, rfl⟩

theorem exists_reconcileRequest (hdeleted : s.plotter.beingDeleted = false)
    (hmap : r.desiredBlueprints s.plotter = some blueprintsMap) :
    ∃ s' err, r.reconcileRequest s = some (s', err) := by
  obtain ⟨finalizers, ferr, heq, -⟩ := reconcileFinalizers_eq r hdeleted
  unfold reconcileRequest
  rw [heq]
  cases ferr with
  | some ferr => exact ⟨_, _, rfl⟩
  | none =>
    have hnotDeleted : ¬ (s.withFinalizers finalizers).plotter.beingDeleted = true := by
      change ¬ s.plotter.beingDeleted = true
      rw [hdeleted]
      exact Bool.false_ne_true
    obtain ⟨res, errors, hres⟩ := exists_reconcile (r := r) (s := s.withFinalizers finalizers) hmap
    simp only [if_neg hnotDeleted, hres]
    split
    · exact ⟨_, _, rfl⟩
    · cases r.updateStatus with
      | none => exact ⟨_, _, rfl⟩
      | some err => exact ⟨_, _, rfl⟩

/-- Once failures are over, the clusters get the blueprints the plotter asks for, after
every run in which the specifications are delivered. -/
theorem run_specsConverge (sha : Sha512) (clusters : List Cluster) (w₀ w : PlotterWorld)
    (h₀ : Created w₀)
    (hrun : Relation.ReflTransGen (Step sha clusters (SpecsDelivered · clusters)) w₀ w)
    (r : PlotterReconciler) (hfaithful : r.Faithful sha clusters w.remotes)
    (hcalls : r.CallsSucceed clusters w.toPlotterSite) (blueprintsMap : GoMap String BlueprintSpec)
    (hmap : getBlueprintsMap sha clusters w.plotter.toPlotter = some blueprintsMap) :
    ∃ s' err, r.reconcileRequest w.toPlotterSite = some (s', err) ∧
      Converged w.plotter blueprintsMap s'.remotes := by
  have hkept := wellKept_of_run h₀ hrun
  have hdelivered := delivered_of_run h₀ hrun
  have hdesired := desiredBlueprints_of_known hfaithful.sha512 hcalls.getClusters w.plotter
  obtain ⟨s', err, hres⟩ := exists_reconcileRequest hkept.notDeleted (hdesired.trans hmap)
  refine ⟨s', err, hres, ?_⟩
  obtain ⟨finalizers, ⟨-, hfails⟩ | ⟨res, errors, hreconcile, hs'⟩⟩ :=
    reconcileRequest_cases hkept.notDeleted hres
  · exact absurd hcalls.updateFinalizers hfails
  · have hkept₁ : WellKept (w.toPlotterSite.withFinalizers finalizers) :=
      ⟨hkept.notDeleted, hkept.observed, hkept.named, hkept.keyed⟩
    have hcalls₁ : r.CallsSucceed clusters (w.toPlotterSite.withFinalizers finalizers) :=
      ⟨hcalls.getClusters, hcalls.getBlueprint, hcalls.createBlueprint, hcalls.updateBlueprint,
        hcalls.deleteBlueprint, hcalls.updateFinalizers⟩
    have hdelivered₁ : Delivered sha clusters (w.toPlotterSite.withFinalizers finalizers) :=
      hdelivered
    have hconverged := hdelivered₁.converges hkept₁ hfaithful hcalls₁ hmap hreconcile
    rcases hs' with rfl | rfl
    · exact hconverged
    · exact hconverged

/-! ## A plotter with one cluster, continued -/

/-- A cluster manager that finds the blueprints there are, and for which everything
succeeds. -/
def clustersOf (remotes : Remotes) : ClusterManager :=
  { getClusters := .ok []
    getBlueprint := fun cluster key =>
      match remotes.lookup (cluster, key) with
      | some remote => .ok (some remote)
      | none => .error "not found"
    createBlueprint := fun _ _ => none, updateBlueprint := fun _ _ => none
    deleteBlueprint := fun _ _ => none }

theorem getBlueprint_clustersOf {cluster : String} :
    (clustersOf remotes).getBlueprint cluster key = .ok (some remote) ↔
      remotes.lookup (cluster, key) = some remote := by
  simp only [clustersOf]
  cases remotes.lookup (cluster, key) <;> simp

theorem faithful_clustersOf (remotes : Remotes) :
    (plotterReconciler (clustersOf remotes)).Faithful default [] remotes :=
  ⟨rfl, fun _ h => (Except.ok.inj h).symm, fun _ _ _ h => getBlueprint_clustersOf.1 h⟩

/-- The plotter with the reader has just been created. -/
def readerCreated : PlotterWorld :=
  { plotter := readerPlotter, remotes := ∅, helm := fun _ => default, waiting := [] }

theorem readerCreated_created : Created readerCreated :=
  ⟨rfl, by decide, rfl, rfl, fun _ _ h => absurd h (by simp [readerCreated])⟩

/-- The controller of plotters is called. -/
def called (r : PlotterReconciler) (w : PlotterWorld) : PlotterWorld :=
  (r.reconcileRequest w.toPlotterSite).elim w fun res =>
    ⟨res.1, w.helm, stillWaiting w.waiting w.remotes res.1.remotes⟩

theorem step_called (hfaithful : r.Faithful sha clusters w.remotes) (hok : ok r w.toPlotterSite)
    (hsome : (r.reconcileRequest w.toPlotterSite).isSome = true) :
    Step sha clusters ok w (called r w) := by
  unfold called
  cases hres : r.reconcileRequest w.toPlotterSite with
  | none =>
    rw [hres] at hsome
    cases hsome
  | some res => exact .reconcile r hfaithful hok hres

/-- The namespace of the modules is edited. -/
def edited (w : PlotterWorld) : PlotterWorld :=
  { w with plotter := { w.plotter with
      spec := { w.plotter.spec with modulesNamespace := "fybrik-blueprints" }
      generation := w.plotter.generation + 1 } }

/-- The blueprint the plotter asks for then. -/
def editedBlueprintSpec : BlueprintSpec :=
  { readerBlueprintSpec with modulesNamespace := "fybrik-blueprints" }

/-- The blueprint has been created, and the specification of the plotter has been edited. -/
def readerChanged : PlotterWorld :=
  edited (called (plotterReconciler (clustersOf ∅)) readerCreated)

/-- The controller is called again when a call to update a blueprint fails. -/
def updateFails (remotes : Remotes) : PlotterReconciler :=
  plotterReconciler { clustersOf remotes with updateBlueprint := fun _ _ => some "conflict" }

/-- If the one blueprint that is recorded is there, no call fails. -/
theorem callsSucceed_clustersOf (s : PlotterSite) (blueprint : MetaBlueprint)
    (hrecord : s.plotter.blueprints = GoMap.ofList [("hobbiton", blueprint)])
    (hremote : (s.remotes.lookup ("hobbiton", blueprint.key)).isSome = true) :
    (plotterReconciler (clustersOf s.remotes)).CallsSucceed [] s := by
  refine ⟨rfl, fun cluster found hfound => ?_, fun _ _ => rfl, fun _ _ => rfl, fun _ _ => rfl, rfl⟩
  rw [hrecord] at hfound
  rcases GoMap.eq_or_of_lookup_set hfound with ⟨rfl, rfl⟩ | hnone
  · obtain ⟨remote, hremote⟩ := Option.isSome_iff_exists.1 hremote
    exact ⟨remote, getBlueprint_clustersOf.2 hremote⟩
  · cases hnone

/-- A plotter without blueprints has nothing to deliver to those that exist. -/
theorem specsDelivered_of_none (manager : ClusterManager) (hclusters : manager.getClusters = .ok [])
    (hnone : s.plotter.blueprints = ∅) : SpecsDelivered (plotterReconciler manager) [] s := by
  refine ⟨hclusters, fun _ blueprintsMap _ _ d _ blueprint hrecord => ?_⟩
  rw [hnone] at hrecord
  cases hrecord

/-- Blueprints cannot be created. -/
def createFails : ClusterManager :=
  { clustersOf ∅ with createBlueprint := fun _ _ => some "timeout" }

/-- The blueprint could not be created at first. -/
def readerRetried : PlotterWorld :=
  called (plotterReconciler (clustersOf ∅)) (called (plotterReconciler createFails) readerCreated)

theorem readerRetried_specsConverge :
    ∃ s' err, (plotterReconciler (clustersOf readerRetried.remotes)).reconcileRequest
        (edited readerRetried).toPlotterSite = some (s', err) ∧
      Converged (edited readerRetried).plotter
        (GoMap.ofList [("hobbiton", editedBlueprintSpec)]) s'.remotes := by
  refine run_specsConverge default [] readerCreated (edited readerRetried) readerCreated_created
    ?_ _ (faithful_clustersOf _) ?_ _ (by decide +kernel)
  · have hfails : Step default [] (fun r s => r.SpecsDelivered [] s) readerCreated
        (called (plotterReconciler createFails) readerCreated) := by
      refine step_called ?_ (specsDelivered_of_none createFails rfl rfl) (by decide +kernel)
      exact ⟨rfl, fun _ h => (Except.ok.inj h).symm, fun _ _ _ h => getBlueprint_clustersOf.1 h⟩
    have hretry : Step default [] (fun r s => r.SpecsDelivered [] s)
        (called (plotterReconciler createFails) readerCreated) readerRetried := by
      refine step_called ?_ (specsDelivered_of_none (clustersOf ∅) rfl (by decide +kernel))
        (by decide +kernel)
      have hremotes : (called (plotterReconciler createFails) readerCreated).remotes = ∅ := by
        decide +kernel
      rw [hremotes]
      exact faithful_clustersOf ∅
    exact .tail (.tail (.tail .refl hfails) hretry) (.edit _)
  · refine callsSucceed_clustersOf (edited readerRetried).toPlotterSite
      (createMetaBlueprintWithoutState (newBlueprint readerPlotter readerBlueprintSpec)) ?_ ?_
    · decide +kernel
    · decide +kernel

/-- The update of a blueprint fails when the new generation is seen for the first time.
From then on the generation counts as observed, and the blueprint is never updated. -/
theorem updateFailure_not_converges :
    ∃ w, Relation.ReflTransGen (Step default [] fun _ _ => True) readerCreated w ∧
      (plotterReconciler (clustersOf w.remotes)).CallsSucceed [] w.toPlotterSite ∧
      getBlueprintsMap default [] w.plotter.toPlotter =
        some (GoMap.ofList [("hobbiton", editedBlueprintSpec)]) ∧
      ∃ s' err, (plotterReconciler (clustersOf w.remotes)).reconcileRequest w.toPlotterSite =
        some (s', err) ∧
        ¬ Converged w.plotter (GoMap.ofList [("hobbiton", editedBlueprintSpec)]) s'.remotes := by
  refine ⟨called (updateFails readerChanged.remotes) readerChanged, ?_, ?_, by decide +kernel, ?_⟩
  · refine .tail (.tail (.tail .refl (step_called (faithful_clustersOf ∅) trivial
      (by decide +kernel))) (.edit _)) (step_called ?_ trivial (by decide +kernel))
    exact ⟨rfl, fun _ h => (Except.ok.inj h).symm, fun _ _ _ h => getBlueprint_clustersOf.1 h⟩
  · refine callsSucceed_clustersOf
      (called (updateFails readerChanged.remotes) readerChanged).toPlotterSite
      (createMetaBlueprintWithoutState (newBlueprint readerPlotter readerBlueprintSpec)) ?_ ?_
    · decide +kernel
    · decide +kernel
  · -- the blueprint has the old specification
    have hspec : ((plotterReconciler (clustersOf (called (updateFails readerChanged.remotes)
        readerChanged).remotes)).reconcileRequest (called (updateFails readerChanged.remotes)
        readerChanged).toPlotterSite).map
        (fun res => (res.1.remotes.lookup ("hobbiton", readerPlotter.key)).map Blueprint.spec) =
        some (some readerBlueprintSpec) := by
      decide +kernel
    obtain ⟨⟨s', err⟩, hres, hold⟩ := Option.map_eq_some_iff.1 hspec
    refine ⟨s', err, hres, fun hconverged => ?_⟩
    obtain ⟨remote, hremote, hnew⟩ := hconverged ("hobbiton", editedBlueprintSpec) List.mem_cons_self
    obtain ⟨remote', hremote', hold⟩ := Option.map_eq_some_iff.1 hold
    obtain rfl := Option.some.inj (hremote.symm.trans hremote')
    exact absurd (hnew.symm.trans hold) (by decide +kernel)

/-! ## Outdated statuses -/

/-- What is known of a blueprint in a cluster: it has never been reconciled, or its
status is about its generation, or it waits for its controller. -/
structure Watched (waiting : List (String × NamespacedName)) (k : String × NamespacedName)
    (blueprint : Blueprint) : Prop where
  notDeleted : blueprint.beingDeleted = false
  generation : 0 < blueprint.generation
  status : (blueprint.status.observedGeneration = 0 ∧
      blueprint.status.observedState.ready = false) ∨
    (blueprint.status.observedGeneration = blueprint.generation ∧ k ∉ waiting) ∨
    (blueprint.status.observedGeneration < blueprint.generation ∧ k ∈ waiting)

/-- What becomes of a blueprint in a reconcile of the plotter: it is new, or it keeps its
status. -/
structure Descends (remotes : Remotes) (k : String × NamespacedName) (blueprint : Blueprint) :
    Prop where
  notDeleted : blueprint.beingDeleted = false
  generation : 0 < blueprint.generation
  status : blueprint.status = default ∨
    ∃ old, remotes.lookup k = some old ∧ old.generation ≤ blueprint.generation ∧
      blueprint.status = old.status

theorem descends_put {remotes₀ : Remotes}
    (h : ∀ k blueprint, remotes.lookup k = some blueprint → Descends remotes₀ k blueprint)
    (cluster : String) (blueprint : Blueprint) {b : Blueprint}
    (hb : (remotes.put cluster blueprint).lookup k = some b) : Descends remotes₀ k b := by
  by_cases hk : k = (cluster, blueprint.key)
  · subst hk
    obtain ⟨b', hb', -, hcases⟩ := Remotes.lookup_put remotes cluster blueprint
    obtain rfl := Option.some.inj (hb.symm.trans hb')
    rcases hcases with ⟨-, hdeleted, hgeneration, hstatus⟩ |
      ⟨existing, hexisting, -, hdeleted, hgeneration, hstatus⟩
    · exact ⟨hdeleted, by omega, Or.inl hstatus⟩
    · have hbefore := h _ _ hexisting
      refine ⟨hdeleted.trans hbefore.notDeleted, hbefore.generation.trans_le hgeneration, ?_⟩
      rw [hstatus]
      rcases hbefore.status with hnew | ⟨old, hold, hle, hsame⟩
      · exact Or.inl hnew
      · exact Or.inr ⟨old, hold, hle.trans hgeneration, hsame⟩
  · rw [Remotes.lookup_put_ne hk] at hb
    exact h k b hb

theorem descends_reconcile (h : r.reconcile s = some (s', errors))
    (hbefore : ∀ k blueprint, s.remotes.lookup k = some blueprint →
      blueprint.beingDeleted = false ∧ 0 < blueprint.generation) :
    ∀ k blueprint, s'.remotes.lookup k = some blueprint → Descends s.remotes k blueprint := by
  have hmoves := moves_reconcile h
  have hall : ∀ c, Relation.ReflTransGen (r.Move s.plotter) (s.plotter.blueprints, s.remotes) c →
      ∀ k blueprint, c.2.lookup k = some blueprint → Descends s.remotes k blueprint := by
    intro c hc
    induction hc with
    | refl =>
      intro k blueprint hlookup
      obtain ⟨hdeleted, hgeneration⟩ := hbefore k blueprint hlookup
      exact ⟨hdeleted, hgeneration, Or.inr ⟨blueprint, hlookup, Nat.le_refl _, rfl⟩⟩
    | tail _ hmove ih =>
      intro k blueprint hlookup
      cases hmove with
      | create cluster spec => exact descends_put ih cluster _ hlookup
      | update spec _ _ => exact descends_put ih _ _ hlookup
      | record _ _ => exact ih k blueprint hlookup
      | delete cluster key => exact ih k blueprint (GoMap.lookup_of_delete hlookup)
      | forget cluster => exact ih k blueprint hlookup
  exact hall _ hmoves

variable {waiting : List (String × NamespacedName)}

theorem mem_stillWaiting {remotes' : Remotes} (hlookup : remotes'.lookup k = some blueprint) :
    k ∈ stillWaiting waiting remotes remotes' ↔
      k ∈ waiting ∨ ∃ old, remotes.lookup k = some old ∧ old.generation < blueprint.generation := by
  simp only [stillWaiting, List.mem_map, List.mem_filter, Bool.or_eq_true, List.contains_iff_mem,
    Option.any_eq_true, decide_eq_true_eq]
  constructor
  · rintro ⟨⟨k', b⟩, ⟨hmem, hcond⟩, rfl⟩
    obtain rfl := Option.some.inj (hlookup.symm.trans (GoMap.mem_pairs.1 hmem))
    exact hcond
  · intro hcond
    exact ⟨(k, blueprint), ⟨GoMap.mem_pairs.2 hlookup, hcond⟩, rfl⟩

/-- A blueprint is watched during a reconcile of the plotter. -/
theorem Descends.watched {remotes' : Remotes} (h : Descends remotes k blueprint)
    (hlookup : remotes'.lookup k = some blueprint)
    (hbefore : ∀ old, remotes.lookup k = some old → Watched waiting k old) :
    Watched (stillWaiting waiting remotes remotes') k blueprint := by
  refine ⟨h.notDeleted, h.generation, ?_⟩
  rw [mem_stillWaiting hlookup]
  rcases h.status with hnew | ⟨old, hold, hle, hsame⟩
  · rw [hnew]
    exact Or.inl ⟨rfl, rfl⟩
  · have hgrown : (∃ old', remotes.lookup k = some old' ∧ old'.generation < blueprint.generation) ↔
        old.generation < blueprint.generation := by
      simp [hold]
    rw [hgrown, hsame]
    rcases (hbefore old hold).status with hfresh | ⟨hobserved, hnot⟩ | ⟨hobserved, hmem⟩
    · exact Or.inl hfresh
    · rcases hle.eq_or_lt with heq | hlt
      · exact Or.inr (Or.inl ⟨by omega, not_or.2 ⟨hnot, by omega⟩⟩)
      · exact Or.inr (Or.inr ⟨by omega, Or.inr hlt⟩)
    · exact Or.inr (Or.inr ⟨by omega, Or.inl hmem⟩)

/-- A blueprint is watched during a reconcile of its own. -/
theorem Watched.reconcileBlueprint (h : Watched w.waiting k blueprint) :
    Watched (w.reconcileBlueprint b calls k blueprint).waiting k
      (b.reconcileRequest calls ⟨blueprint, w.helm k.1⟩).1.blueprint := by
  unfold PlotterWorld.reconcileBlueprint
  obtain ⟨finalizers, ⟨hfirst, herr, -⟩ | hstored | ⟨hfirst, herr, -⟩⟩ :=
    b.reconcileRequest_ends calls (s := ⟨blueprint, w.helm k.1⟩) h.notDeleted
  · simp only [if_neg herr, hfirst]
    exact ⟨h.notDeleted, h.generation, h.status⟩
  · have hobserved := b.observedGeneration_reconcile calls ⟨blueprint, w.helm k.1⟩
    simp only [hstored]
    refine ⟨h.notDeleted, h.generation, Or.inr (Or.inl ⟨hobserved, ?_⟩)⟩
    simp
  · simp only [if_neg herr, hfirst]
    exact ⟨h.notDeleted, h.generation, h.status⟩

theorem Watched.of_mem_iff {waiting' : List (String × NamespacedName)}
    (h : Watched waiting k blueprint) (hiff : k ∈ waiting' ↔ k ∈ waiting) :
    Watched waiting' k blueprint := by
  refine ⟨h.notDeleted, h.generation, ?_⟩
  rw [hiff]
  exact h.status

theorem mem_waiting_reconcileBlueprint (hne : k' ≠ k) :
    k' ∈ (w.reconcileBlueprint b calls k blueprint).waiting ↔ k' ∈ w.waiting := by
  unfold PlotterWorld.reconcileBlueprint
  dsimp only
  split
  · simp [hne]
  · exact Iff.rfl

theorem watched_reconcileRequest
    (h : ∀ k blueprint, s.remotes.lookup k = some blueprint → Watched waiting k blueprint)
    (hkept : WellKept s) (hres : r.reconcileRequest s = some (s', err))
    (hlookup : s'.remotes.lookup k = some blueprint) :
    Watched (stillWaiting waiting s.remotes s'.remotes) k blueprint := by
  have hdescends : Descends s.remotes k blueprint := by
    obtain ⟨finalizers, ⟨rfl, -⟩ | ⟨res, errors, hreconcile, hs'⟩⟩ :=
      reconcileRequest_cases hkept.notDeleted hres
    · have hwatched := h k blueprint hlookup
      exact ⟨hwatched.notDeleted, hwatched.generation,
        Or.inr ⟨blueprint, hlookup, Nat.le_refl _, rfl⟩⟩
    · refine descends_reconcile hreconcile (fun k old hold => ?_) k blueprint ?_
      · exact ⟨(h k old hold).notDeleted, (h k old hold).generation⟩
      · rcases hs' with rfl | rfl <;> exact hlookup
  exact hdescends.watched hlookup fun old hold => h k old hold

theorem watched_reconcileBlueprint
    (h : ∀ k blueprint, w.remotes.lookup k = some blueprint → Watched w.waiting k blueprint)
    (hblueprint : w.remotes.lookup k = some blueprint)
    (hlookup : (w.reconcileBlueprint b calls k blueprint).remotes.lookup k' = some remote) :
    Watched (w.reconcileBlueprint b calls k blueprint).waiting k' remote := by
  by_cases hk : k' = k
  · subst hk
    rw [PlotterWorld.reconcileBlueprint, GoMap.set, AList.lookup_insert] at hlookup
    rw [← Option.some.inj hlookup]
    exact (h _ _ hblueprint).reconcileBlueprint
  · refine Watched.of_mem_iff (h k' remote ?_) (mem_waiting_reconcileBlueprint hk)
    rwa [PlotterWorld.reconcileBlueprint, GoMap.set, AList.lookup_insert_ne hk] at hlookup

theorem watched_of_run (h₀ : Created w₀) (hremotes : w₀.remotes = ∅)
    (hrun : Relation.ReflTransGen (Step sha clusters ok) w₀ w) :
    ∀ k blueprint, w.remotes.lookup k = some blueprint → Watched w.waiting k blueprint := by
  induction hrun with
  | refl =>
    intro k blueprint hlookup
    rw [hremotes] at hlookup
    cases hlookup
  | tail hrun hstep ih =>
    intro k blueprint hlookup
    cases hstep with
    | edit spec => exact ih k blueprint hlookup
    | reconcile r _ _ hres => exact watched_reconcileRequest ih (wellKept_of_run h₀ hrun) hres hlookup
    | reconcileBlueprint b calls hblueprint => exact watched_reconcileBlueprint ih hblueprint hlookup

/-- The blueprint recorded for a cluster is the desired one, and its status was written
for its generation. -/
def ObservedInPlace (s : PlotterSite) (d : String × BlueprintSpec) : Prop :=
  ∃ blueprint remote, s.plotter.blueprints.lookup d.1 = some blueprint ∧
    s.remotes.lookup (d.1, blueprint.key) = some remote ∧ remote.spec = d.2 ∧
    remote.status.observedGeneration = remote.generation

/-- If no cluster makes the plotter wait, the desired blueprints are all recorded, and
none of them waits for its controller. -/
def NoneWaiting (r : PlotterReconciler) (w : PlotterWorld)
    (blueprintsMap : GoMap String BlueprintSpec) : Prop :=
  (∀ d ∈ blueprintsMap.pairs, r.ReportedReady w.plotter d ∨ r.CreateFails w.plotter d) →
    ∀ d ∈ blueprintsMap.pairs, ∃ blueprint, w.plotter.blueprints.lookup d.1 = some blueprint ∧
      (d.1, blueprint.key) ∉ w.waiting

/-- A ready blueprint is current exactly if it does not wait for its controller. -/
theorem Watched.current_iff (h : Watched waiting k blueprint)
    (hready : blueprint.status.observedState.ready = true) :
    blueprint.status.observedGeneration = blueprint.generation ↔ k ∉ waiting := by
  rcases h.status with ⟨-, hfalse⟩ | ⟨hobserved, hnot⟩ | ⟨hobserved, hmem⟩
  · cases hready.symm.trans hfalse
  · exact iff_of_true hobserved hnot
  · exact iff_of_false (by omega) (not_not.2 hmem)

/-- What is left of a cluster that has reported its blueprint as ready. -/
theorem observedInPlace_iff (hkept : WellKept w.toPlotterSite)
    (hfaithful : r.Faithful sha clusters w.remotes)
    (hwatched : ∀ k blueprint, w.remotes.lookup k = some blueprint → Watched w.waiting k blueprint)
    (hhandled : r.Handled w.toPlotterSite d (s'.view d.1)) (hready : r.ReportedReady w.plotter d) :
    ObservedInPlace s' d ↔ ∃ blueprint, w.plotter.blueprints.lookup d.1 = some blueprint ∧
      (d.1, blueprint.key) ∉ w.waiting := by
  obtain ⟨blueprint, remote, hrecord, hget, hspec, hstatus⟩ := hready
  have hlookup := hfaithful.blueprints _ _ _ hget
  have hname := hkept.named _ _ hlookup
  have hcurrent := (hwatched _ _ hlookup).current_iff hstatus
  -- the round found the blueprint in place
  have hafter : (s'.view d.1).record.map MetaBlueprint.key = some remote.key ∧
      (s'.view d.1).remote = (w.toPlotterSite.view d.1).remote := by
    cases hhandled with
    | created hnone => cases hrecord.symm.trans hnone
    | notCreated hfails => cases hrecord.symm.trans hfails.1
    | missing hrecord' hget' =>
      obtain rfl := Option.some.inj (hrecord.symm.trans hrecord')
      cases hget.symm.trans hget'
    | inPlace hrecord' hget' _ hkey hremote =>
      obtain rfl := Option.some.inj (hrecord.symm.trans hrecord')
      obtain rfl := Option.some.inj (Except.ok.inj (hget.symm.trans hget'))
      exact ⟨hkey, hremote⟩
    | updated hrecord' hget' hne | refused hrecord' hget' hne | outOfStep hrecord' hget' hne =>
      obtain rfl := Option.some.inj (hrecord.symm.trans hrecord')
      obtain rfl := Option.some.inj (Except.ok.inj (hget.symm.trans hget'))
      exact absurd hspec hne
  obtain ⟨hkey, hremotes⟩ := hafter
  obtain ⟨blueprint', hrecord', hkey'⟩ := Option.map_eq_some_iff.1 hkey
  have hplace : s'.remotes.lookup (d.1, blueprint'.key) = some remote := by
    rw [hkey', hname]
    exact (congrFun hremotes blueprint.key).trans hlookup
  constructor
  · rintro ⟨blueprint'', remote'', hrecord'', hremote'', -, hobserved⟩
    obtain rfl := Option.some.inj (hrecord'.symm.trans hrecord'')
    obtain rfl := Option.some.inj (hplace.symm.trans hremote'')
    exact ⟨blueprint, hrecord, hcurrent.1 hobserved⟩
  · rintro ⟨blueprint'', hrecord'', hnot⟩
    obtain rfl := Option.some.inj (hrecord.symm.trans hrecord'')
    exact ⟨blueprint', remote, hrecord', hplace, hspec, hcurrent.2 hnot⟩

/-- A cluster in which the blueprint cannot be created has no record. -/
theorem Handled.record_eq_none (h : r.Handled s d v) (hfails : r.CreateFails s.plotter d) :
    v.record = none := by
  obtain ⟨hnone, hcreate⟩ := hfails
  cases h with
  | created _ hsucceeds =>
    rw [hsucceeds] at hcreate
    cases hcreate
  | notCreated _ hv =>
    rw [hv]
    exact hnone
  | missing hrecord | inPlace hrecord | updated hrecord | refused hrecord | outOfStep hrecord =>
    cases hrecord.symm.trans hnone

/-- The controller of the blueprint is called in the cluster of the reader. -/
def blueprintCalled (w : PlotterWorld) : PlotterWorld :=
  (w.remotes.lookup ("hobbiton", readerPlotter.key)).elim w
    (w.reconcileBlueprint BlueprintReconciler.readerReconciler BlueprintReconciler.callsSucceed
      ("hobbiton", readerPlotter.key))

theorem step_blueprintCalled
    (hsome : (w.remotes.lookup ("hobbiton", readerPlotter.key)).isSome = true) :
    Step sha clusters ok w (blueprintCalled w) := by
  unfold blueprintCalled
  obtain ⟨blueprint, hblueprint⟩ := Option.isSome_iff_exists.1 hsome
  rw [hblueprint]
  exact .reconcileBlueprint _ _ hblueprint

/-- The blueprint has been created and is ready. -/
def readerRunning : PlotterWorld :=
  blueprintCalled (blueprintCalled (called (plotterReconciler (clustersOf ∅)) readerCreated))

theorem run_readerRunning :
    Relation.ReflTransGen (Step default [] fun _ _ => True) readerCreated readerRunning :=
  .tail (.tail (.tail .refl (step_called (faithful_clustersOf ∅) trivial (by decide +kernel)))
    (step_blueprintCalled (by decide +kernel))) (step_blueprintCalled (by decide +kernel))

/-- The plotter of the running reader has been edited, and its blueprint updated. -/
def readerUpdated : PlotterWorld :=
  called (plotterReconciler (clustersOf readerRunning.remotes)) (edited readerRunning)

end PlotterReconciler

end Fybrik
