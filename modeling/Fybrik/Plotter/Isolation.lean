import Fybrik.Plotter.Translation
import Mathlib.Data.Option.Basic

/-!
# The blueprints of different clusters are isolated

Two plotters that assign the same steps to a cluster give it the same blueprint,
whatever they assign to the other clusters, provided that the program does not crash on
a step of either of them.

* `getBlueprintsMapIn` — the translation, with the order in which the loop over the map
  of unified instances takes them; `getBlueprintsMapIn_listed` says that
  `getBlueprintsMap` is one case of it.
* `clusterSteps` — the steps of a cluster, with all that they refer to.
* `AgreeOn` — two plotters agree on all that concerns a cluster.
* `getBlueprintsMapIn_isolated_iff` — **which plotters that agree on a cluster give it
  the same blueprint**.
-/

namespace Fybrik

/-! ## The order of the unified instances -/

/-- `RefineInstances`, with the order in which its last loop takes the instances. -/
def refineInstancesIn (order : GoMap.RangeOrder String ModuleInstanceSpec)
    (instances : List ModuleInstanceSpec) : List ModuleInstanceSpec :=
  let st := instances.foldl refineStep ([], ∅)
  st.1 ++ order.values st.2

variable (sha : Sha512) (orders : String → GoMap.RangeOrder String ModuleInstanceSpec)

/-- `GenerateBlueprints`, with an order for each call of `RefineInstances`: there is one
for each cluster. -/
def generateBlueprintsIn (instances : List ModuleInstanceSpec) (plotter : Plotter) :
    GoMap String BlueprintSpec :=
  GoMap.ofList ((GoMap.groupBy ModuleInstanceSpec.clusterName instances).pairs.map fun kl =>
    (kl.1, generateBlueprint sha (refineInstancesIn (orders kl.1) kl.2) kl.1 plotter))

variable (plotter : Plotter) (clusters : List Cluster)

@[inherit_doc getBlueprintsMap]
def getBlueprintsMapIn (plotter : Plotter) : Option (GoMap String BlueprintSpec) :=
  ((moduleUses plotter).mapM fun u =>
    convertPlotterModuleToBlueprintModule plotter (u.plotterModule clusters)).map fun instances =>
      generateBlueprintsIn sha orders instances plotter

theorem getBlueprintsMapIn_listed (plotter : Plotter) :
    getBlueprintsMapIn sha (fun _ => .listed) clusters plotter
      = getBlueprintsMap sha clusters plotter := rfl

/-- Two specifications are the same: the modules of a blueprint have no order. -/
structure BlueprintSpec.Same (b b' : BlueprintSpec) : Prop where
  cluster : b.cluster = b'.cluster
  modulesNamespace : b.modulesNamespace = b'.modulesNamespace
  modules : ∀ name, b.modules.lookup name = b'.modules.lookup name

/-- The order of the unified instances plays no part: their names differ. -/
theorem generateBlueprint_same (order order' : GoMap.RangeOrder String ModuleInstanceSpec)
    {c : String} {instances : List ModuleInstanceSpec} (hc : ∀ i ∈ instances, i.clusterName = c)
    {plotter plotter' : Plotter}
    (h : plotter.spec.modulesNamespace = plotter'.spec.modulesNamespace) :
    (generateBlueprint sha (refineInstancesIn order instances) c plotter).Same
      (generateBlueprint sha (refineInstancesIn order' instances) c plotter') := by
  refine ⟨rfl, h, ?_⟩
  intro name
  simp only [generateBlueprint, refineInstancesIn, foldl_refineStep, List.map_append, GoMap.ofList,
    GoMap.setAll_append]
  refine GoMap.lookup_setAll_perm _ (((order.perm _).trans (order'.perm _).symm).map _) ?_ name
  rw [List.map_map]
  refine ((order.perm _).map _).nodup_iff.2 ?_
  exact List.pairwise_map.2 (pairwise_sharedMap hc)

/-! ## What concerns a cluster -/

/-- A step as the cluster that executes it sees it: the asset and the type of the flow,
the parameters, what the template contains, and the assets the parameters refer to. -/
structure ClusterStep where
  assetID : String
  flowType : DataFlow
  parameters : Option StepParameters
  modules : List ModuleInfo
  source : Option AssetDetails
  sink : Option AssetDetails
  deriving DecidableEq

/-- The asset a step reads, if it reads one. -/
def StepParameters.sourceAsset (params : StepParameters) : Option AssetDetails :=
  params.source.bind fun source =>
    if source.assetID ≠ "" then some (plotter.spec.assets.get source.assetID) else none

/-- The asset a step writes, if it writes one. -/
def StepParameters.sinkAsset (params : StepParameters) : Option AssetDetails :=
  params.sink.map fun sink => plotter.spec.assets.get sink.assetID

/-- A step of a plotter, with what it refers to. -/
def clusterStep (flow : Flow) (subFlow : SubFlow) (step : DataFlowStep) : ClusterStep :=
  { assetID := flow.assetID
    flowType := subFlow.flowType
    parameters := step.parameters
    modules := (plotter.spec.templates.get step.template).modules
    source := step.parameters.bind (StepParameters.sourceAsset plotter)
    sink := step.parameters.bind (StepParameters.sinkAsset plotter) }

/-- The steps assigned to a cluster, in their order. -/
def clusterSteps (c : String) : List ClusterStep :=
  plotter.spec.flows.flatMap fun flow =>
    flow.subFlows.flatMap fun subFlow =>
      subFlow.steps.flatMap fun subFlowStep =>
        (subFlowStep.filter fun seqStep => seqStep.cluster = c).map fun seqStep =>
          clusterStep plotter flow subFlow seqStep

/-- What the cluster manager knows about a cluster. -/
def clusterMetadata (c : String) : Option ClusterMetadata :=
  (clusters.find? fun cluster => c == cluster.name).map Cluster.metadata

/-- Two plotters, each with the clusters known when it is translated, agree on all that
concerns the cluster `c`. -/
structure AgreeOn (c : String) (clusters clusters' : List Cluster) (plotter plotter' : Plotter) :
    Prop where
  labels : plotter.labels = plotter'.labels
  workloadSelector :
    plotter.spec.selector.workloadSelector = plotter'.spec.selector.workloadSelector
  modulesNamespace : plotter.spec.modulesNamespace = plotter'.spec.modulesNamespace
  metadata : clusterMetadata clusters c = clusterMetadata clusters' c
  steps : clusterSteps plotter c = clusterSteps plotter' c

/-- Both translations return, and either both have a blueprint for the cluster, the same
one, or neither has. -/
def SameBlueprint (c : String) (result result' : Option (GoMap String BlueprintSpec)) : Prop :=
  ∃ blueprints blueprints', result = some blueprints ∧ result' = some blueprints' ∧
    Option.Rel BlueprintSpec.Same (blueprints.lookup c) (blueprints'.lookup c)

/-! ## When a use of a module is converted -/

section Plotter

variable {sha : Sha512} {clusters clusters' : List Cluster} {plotter plotter' : Plotter}

/-- The program crashes exactly if a use of a module is not converted. -/
theorem isSome_mapM_convert_iff (clusters : List Cluster) (plotter : Plotter)
    (uses : List ModuleUse) :
    (∃ instances, uses.mapM (fun u =>
      convertPlotterModuleToBlueprintModule plotter (u.plotterModule clusters)) = some instances) ↔
      ∀ u ∈ uses, u.Converts := by
  constructor
  · rintro ⟨instances, h⟩ u hu
    obtain ⟨i, -, hi⟩ := Loops.exists_of_mapM_eq_some h hu
    rw [← isSome_convert_iff clusters plotter, hi]
    rfl
  · intro h
    have hsome : ∀ u ∈ uses, ∃ i, convertPlotterModuleToBlueprintModule plotter
        (u.plotterModule clusters) = some i ∧ True := by
      intro u hu
      obtain ⟨i, hi⟩ := Option.isSome_iff_exists.1 ((isSome_convert_iff clusters plotter u).2 (h u hu))
      exact ⟨i, hi, trivial⟩
    obtain ⟨instances, hinstances, -⟩ := Loops.exists_mapM_eq_some hsome
    exact ⟨instances, hinstances⟩

theorem clusterName_of_convert {u : ModuleUse} {i : ModuleInstanceSpec}
    (h : convertPlotterModuleToBlueprintModule plotter (u.plotterModule clusters) = some i) :
    i.clusterName = u.step.cluster := by
  obtain ⟨args, -, rfl⟩ := Option.map_eq_some_iff.1 h
  rfl

/-! ## The uses of modules in a cluster -/

/-- A use of a module as its cluster sees it. -/
def ModuleUse.inCluster (plotter : Plotter) (u : ModuleUse) : ClusterStep × ModuleInfo :=
  (clusterStep plotter u.flow u.subFlow u.step, u.module)

theorem map_inCluster (plotter : Plotter) (c : String) :
    ((moduleUses plotter).filter fun u => u.step.cluster = c).map (ModuleUse.inCluster plotter)
      = (clusterSteps plotter c).flatMap fun s => s.modules.map fun module => (s, module) := by
  have hstep : ∀ flow subFlow (seqStep : DataFlowStep),
      (((plotter.spec.templates.get seqStep.template).modules.map fun module =>
        (⟨flow, subFlow, seqStep, module⟩ : ModuleUse)).filter
          fun u => u.step.cluster = c).map (ModuleUse.inCluster plotter)
        = if decide (seqStep.cluster = c) then
            (clusterStep plotter flow subFlow seqStep).modules.map fun module =>
              (clusterStep plotter flow subFlow seqStep, module)
          else [] := by
    intro flow subFlow seqStep
    rw [List.filter_map]
    by_cases hcluster : seqStep.cluster = c
    · rw [if_pos (decide_eq_true hcluster), List.filter_eq_self.2 (by simp [hcluster]),
        List.map_map]
      rfl
    · rw [if_neg (by simp [hcluster]), List.filter_eq_nil_iff.2 (by simp [hcluster])]
      rfl
  unfold moduleUses clusterSteps
  simp only [List.filter_flatMap, List.map_flatMap, List.flatMap_assoc, List.flatMap_map, hstep,
    Loops.flatMap_ite_nil]

theorem clusterAuthPath_eq (clusters : List Cluster) (c : String) :
    clusterAuthPath clusters c
      = ((clusterMetadata clusters c).map fun m => getAuthPath m.vaultAuthPath).getD "" := by
  unfold clusterAuthPath clusterMetadata
  cases clusters.find? fun cluster => c == cluster.name <;> rfl

/-- A step reads the same data if it refers to the same asset. -/
theorem sourceStore_congr {authPath : String} {params : StepParameters}
    (h : params.sourceAsset plotter = params.sourceAsset plotter') :
    sourceStore plotter authPath params = sourceStore plotter' authPath params := by
  unfold StepParameters.sourceAsset at h
  unfold sourceStore
  cases hsource : params.source with
  | none => rfl
  | some source =>
    rw [hsource] at h
    by_cases hid : source.assetID = ""
    · simp [hid]
    · simp only [Option.bind_some, ne_eq, hid, not_false_eq_true, if_true, Option.some.injEq] at h
      simp only [ne_eq, hid, not_false_eq_true, if_true, h]

/-- A step writes the same data if it refers to the same asset. -/
theorem sinkStore_congr {authPath : String} {params : StepParameters}
    (h : params.sinkAsset plotter = params.sinkAsset plotter') :
    sinkStore plotter authPath params = sinkStore plotter' authPath params := by
  unfold StepParameters.sinkAsset at h
  unfold sinkStore
  cases hsink : params.sink with
  | none => rfl
  | some sink =>
    rw [hsink, Option.map_some, Option.map_some, Option.some.injEq] at h
    rw [Option.map_some, Option.map_some, h]

/-- A use of a module in a cluster is converted to the same instance by two plotters
that agree on the cluster. -/
theorem convert_congr {c : String} (h : AgreeOn c clusters clusters' plotter plotter')
    {u v : ModuleUse} (hu : u.step.cluster = c) (hv : v.step.cluster = c)
    (huv : u.inCluster plotter = v.inCluster plotter') :
    convertPlotterModuleToBlueprintModule plotter (u.plotterModule clusters)
      = convertPlotterModuleToBlueprintModule plotter' (v.plotterModule clusters') := by
  obtain ⟨hstep, hmodule⟩ := Prod.mk.inj huv
  obtain ⟨hasset, hflow, hparams, -, hsource, hsink⟩ := ClusterStep.mk.inj hstep
  have hauth : clusterAuthPath clusters c = clusterAuthPath clusters' c := by
    rw [clusterAuthPath_eq, clusterAuthPath_eq, h.metadata]
  have hcommon : commonArguments plotter = commonArguments plotter' := by
    unfold commonArguments
    rw [h.labels, h.workloadSelector]
  have hplugin : u.isPlugin = v.isPlugin := by
    rw [ModuleUse.isPlugin, ModuleUse.isPlugin, hmodule]
  have hmodules : u.plotterModule clusters = v.plotterModule clusters' := by
    unfold ModuleUse.plotterModule
    rw [hplugin, hmodule, hparams, hasset, hflow, hu, hv, hauth]
  rw [convertPlotterModuleToBlueprintModule, convertPlotterModuleToBlueprintModule, hmodules]
  congr 1
  unfold instanceArguments
  rw [hcommon]
  simp only [ModuleUse.plotterModule]
  cases v.isPlugin with
  | true => rfl
  | false =>
    cases hp : v.step.parameters with
    | none => rfl
    | some params =>
      rw [hparams, hp, Option.bind_some, Option.bind_some] at hsource hsink
      simp only [Bool.false_eq_true, if_false, sourceStore_congr hsource, sinkStore_congr hsink]

/-! ## Isolation -/

/-- Two lists of instances with the same instances in a cluster give it the same
blueprint. -/
theorem generateBlueprintsIn_same (sha : Sha512)
    (orders orders' : String → GoMap.RangeOrder String ModuleInstanceSpec) {c : String}
    {instances instances' : List ModuleInstanceSpec}
    (hnamespace : plotter.spec.modulesNamespace = plotter'.spec.modulesNamespace)
    (h : (instances.filter fun i => i.clusterName = c)
      = instances'.filter fun i => i.clusterName = c) :
    Option.Rel BlueprintSpec.Same ((generateBlueprintsIn sha orders instances plotter).lookup c)
      ((generateBlueprintsIn sha orders' instances' plotter').lookup c) := by
  unfold generateBlueprintsIn
  rw [GoMap.lookup_ofList_map_pairs _ fun k l =>
      generateBlueprint sha (refineInstancesIn (orders k) l) k plotter,
    GoMap.lookup_ofList_map_pairs _ fun k l =>
      generateBlueprint sha (refineInstancesIn (orders' k) l) k plotter',
    GoMap.lookup_groupBy_congr h]
  cases hlookup : (GoMap.groupBy ModuleInstanceSpec.clusterName instances').lookup c with
  | none => exact .none
  | some l =>
    refine .some (generateBlueprint_same sha _ _ ?_ hnamespace)
    intro i hi
    rw [GoMap.eq_filter_of_mem_groupBy (GoMap.mem_pairs.2 hlookup)] at hi
    exact of_decide_eq_true (List.mem_filter.1 hi).2

end Plotter

/-- Plotters that agree on a cluster give it the same blueprint if and only if the
program crashes on no step of either plotter; steps of other clusters make no other
difference. -/
theorem getBlueprintsMapIn_isolated_iff (sha : Sha512)
    (orders orders' : String → GoMap.RangeOrder String ModuleInstanceSpec) {c : String}
    {clusters clusters' : List Cluster} {plotter plotter' : Plotter}
    (h : AgreeOn c clusters clusters' plotter plotter') :
    SameBlueprint c (getBlueprintsMapIn sha orders clusters plotter)
      (getBlueprintsMapIn sha orders' clusters' plotter') ↔
      (∀ u ∈ moduleUses plotter, u.Converts) ∧ ∀ u ∈ moduleUses plotter', u.Converts := by
  rw [← isSome_mapM_convert_iff clusters plotter, ← isSome_mapM_convert_iff clusters' plotter']
  constructor
  · rintro ⟨blueprints, blueprints', hget, hget', -⟩
    obtain ⟨instances, hinstances, -⟩ := Option.map_eq_some_iff.1 hget
    obtain ⟨instances', hinstances', -⟩ := Option.map_eq_some_iff.1 hget'
    exact ⟨⟨instances, hinstances⟩, ⟨instances', hinstances'⟩⟩
  · rintro ⟨⟨instances, hinstances⟩, ⟨instances', hinstances'⟩⟩
    refine ⟨_, _, by rw [getBlueprintsMapIn, hinstances]; rfl,
      by rw [getBlueprintsMapIn, hinstances']; rfl, ?_⟩
    -- the instances of the cluster come from its uses, and these look the same
    have hof := Loops.mapM_filter_eq_some (p := fun u => decide (u.step.cluster = c))
      (q := fun i => decide (i.clusterName = c))
      (fun u i hi => by rw [clusterName_of_convert hi]) hinstances
    have hof' := Loops.mapM_filter_eq_some (p := fun u => decide (u.step.cluster = c))
      (q := fun i => decide (i.clusterName = c))
      (fun u i hi => by rw [clusterName_of_convert hi]) hinstances'
    have huses : ((moduleUses plotter).filter fun u => u.step.cluster = c).map
        (ModuleUse.inCluster plotter)
        = ((moduleUses plotter').filter fun u => u.step.cluster = c).map
          (ModuleUse.inCluster plotter') := by
      rw [map_inCluster, map_inCluster, h.steps]
    rw [Loops.mapM_congr_of_map_eq huses, hof', Option.some.injEq] at hof
    · exact generateBlueprintsIn_same sha orders orders' h.modulesNamespace hof.symm
    · intro u hu v hv huv
      exact convert_congr h (of_decide_eq_true (List.mem_filter.1 hu).2)
        (of_decide_eq_true (List.mem_filter.1 hv).2) huv

/-! ## A step of another cluster -/

/-- A step that serves data in a cluster. -/
def servingStep (cluster : String) (source : Option StepSource) : DataFlowStep :=
  { name := "read", cluster := cluster, template := "serve"
    parameters := some { source := source, sink := none, api := none, actions := [] } }

/-- An asset is served in one cluster and, in a second sequence of steps, in others. -/
def servingPlotter (others : List DataFlowStep) : Plotter :=
  { (default : Plotter) with
    spec :=
      { selector := default
        assets := GoMap.ofList [("xxx", default)]
        modulesNamespace := "fybrik-blueprints"
        templates := GoMap.ofList [("serve",
          { name := "serve"
            modules := [{ name := "arrow-flight", type := "service", chart := default
                          scope := .workload }] })]
        flows :=
          [{ name := "xxx-read"
             flowType := .readFlow
             assetID := "xxx"
             subFlows :=
               [{ name := "read"
                  flowType := .readFlow
                  triggers := [.workloadTrigger]
                  steps := [[servingStep "thegreendragon" (some ⟨"xxx", none⟩)], others] }] }] } }

/-- A step of another cluster makes no difference. -/
theorem getBlueprintsMapIn_serving_isolated :
    SameBlueprint "thegreendragon"
      (getBlueprintsMapIn sampleSha512 (fun _ => .listed) [] (servingPlotter []))
      (getBlueprintsMapIn sampleSha512 (fun _ => .listed) []
        (servingPlotter [servingStep "theprancingpony" (some ⟨"xxx", none⟩)])) := by
  have hagree : AgreeOn "thegreendragon" [] [] (servingPlotter [])
      (servingPlotter [servingStep "theprancingpony" (some ⟨"xxx", none⟩)]) :=
    ⟨rfl, rfl, rfl, rfl, by decide⟩
  refine (getBlueprintsMapIn_isolated_iff sampleSha512 _ _ hagree).2 ⟨?_, ?_⟩
  · intro u hu
    rw [← isSome_convert_iff [] (servingPlotter [])]
    revert u
    decide
  · intro u hu
    rw [← isSome_convert_iff [] (servingPlotter [])]
    revert u
    decide

/-- The program crashes on a step of another cluster that has no source, and the cluster
gets no blueprint. -/
theorem getBlueprintsMapIn_serving_not_isolated :
    AgreeOn "thegreendragon" [] [] (servingPlotter [])
      (servingPlotter [servingStep "theprancingpony" none]) ∧
    ((getBlueprintsMap sampleSha512 [] (servingPlotter [])).bind fun blueprints =>
      blueprints.lookup "thegreendragon").isSome = true ∧
    getBlueprintsMap sampleSha512 [] (servingPlotter [servingStep "theprancingpony" none]) = none ∧
    ¬ SameBlueprint "thegreendragon"
      (getBlueprintsMapIn sampleSha512 (fun _ => .listed) [] (servingPlotter []))
      (getBlueprintsMapIn sampleSha512 (fun _ => .listed) []
        (servingPlotter [servingStep "theprancingpony" none])) := by
  have hnone : getBlueprintsMap sampleSha512 []
      (servingPlotter [servingStep "theprancingpony" none]) = none := by decide
  refine ⟨⟨rfl, rfl, rfl, rfl, by decide⟩, by decide, hnone, ?_⟩
  rintro ⟨-, blueprints', -, hget', -⟩
  rw [getBlueprintsMapIn_listed, hnone] at hget'
  cases hget'

end Fybrik
