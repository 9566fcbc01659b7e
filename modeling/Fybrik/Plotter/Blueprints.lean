import Fybrik.Api.Resources
import Fybrik.Lib.MapLoops
import Fybrik.Utils.Names

/-!
# From a plotter to blueprints

The part of `plotter_controller.go` and `blueprint_mgr.go` that turns a plotter
into one blueprint for each cluster: the steps of the flows become module
instances, instances of a module that is not used per asset are unified, and
every instance gets a name.

* `moduleUses` — the four nested loops of `getBlueprintsMap`, as a list.
* `convertPlotterModuleToBlueprintModule` — the arguments of a module instance.
* `refineInstances`, `generateBlueprint`, `generateBlueprints` — as in the source.
* `getBlueprintsMap` — all of it; nothing is returned if the program crashes on a
  step without the parameters it reads.
* `refineInstances_eq` — the unification loop as an instance of the library's
  `unifyBy`.
-/

namespace Fybrik

/-! ## Module instances -/

/-- One round of the innermost loop of `getBlueprintsMap`: a module of the
template of a step of a subflow of a flow. -/
structure ModuleUse where
  flow : Flow
  subFlow : SubFlow
  step : DataFlowStep
  module : ModuleInfo
  deriving DecidableEq

/-- The rounds of the loops over flows, subflows, steps and modules. -/
def moduleUses (plotter : Plotter) : List ModuleUse :=
  plotter.spec.flows.flatMap fun flow =>
    flow.subFlows.flatMap fun subFlow =>
      subFlow.steps.flatMap fun subFlowStep =>
        subFlowStep.flatMap fun seqStep =>
          (plotter.spec.templates.get seqStep.template).modules.map fun module =>
            ⟨flow, subFlow, seqStep, module⟩

/-- `PlotterModulesSpec`. -/
structure PlotterModulesSpec where
  clusterName : String
  vaultAuthPath : String
  assetID : String
  moduleName : String
  moduleArguments : Option StepParameters
  flowType : DataFlow
  chart : ChartSpec
  scope : CapabilityScope
  deriving DecidableEq, Inhabited

theorem PlotterModulesSpec.assetIDs_ne_nil (plotterModule : PlotterModulesSpec) :
    [plotterModule.assetID] ≠ [] := List.cons_ne_nil _ _

/-- The module is a plugin: it gets no arguments of its own. -/
def ModuleUse.isPlugin (u : ModuleUse) : Bool := u.module.type == "plugin"

/-- The authentication path of a cluster, if it is known. -/
def clusterAuthPath (clusters : List Cluster) (clusterName : String) : String :=
  match clusters.find? fun cluster => clusterName == cluster.name with
  | some cluster => getAuthPath cluster.metadata.vaultAuthPath
  | none => ""

/-- The details of a module that `getBlueprintsMap` extracts from the plotter. -/
def ModuleUse.plotterModule (clusters : List Cluster) (u : ModuleUse) : PlotterModulesSpec :=
  { moduleArguments := if u.isPlugin then none else u.step.parameters
    assetID := u.flow.assetID
    flowType := u.subFlow.flowType
    clusterName := u.step.cluster
    chart := u.module.chart
    moduleName := u.module.name
    scope := u.module.scope
    vaultAuthPath := clusterAuthPath clusters u.step.cluster }

/-- `ModuleInstanceSpec`.  An instance always serves some asset. -/
structure ModuleInstanceSpec where
  chart : ChartSpec
  args : ModuleArguments
  assetIDs : List String
  clusterName : String
  moduleName : String
  scope : CapabilityScope
  assetIDs_ne_nil : assetIDs ≠ []
  deriving DecidableEq

/-- `addCredentials`: only the credentials for one kind of access are kept. -/
def addCredentials (dataStore : DataStore) (vaultAuthPath : String) (flowType : DataFlow) :
    DataStore :=
  { dataStore with
    vault := GoMap.ofList [(flowType.text,
      { dataStore.vault.get flowType.text with authPath := vaultAuthPath })] }

/-- The data store a step reads from; the program crashes if it is not given. -/
def sourceStore (plotter : Plotter) (vaultAuthPath : String) (params : StepParameters) :
    Option DataStore :=
  match params.source with
  | none => none
  | some source =>
    if source.assetID ≠ "" then
      some (addCredentials (plotter.spec.assets.get source.assetID).dataStore vaultAuthPath
        .readFlow)
    else source.api.map fun api => { vault := ∅, connection := api.connection
                                     format := api.dataFormat }

/-- The data store a step writes to; the program crashes if it is not given. -/
def sinkStore (plotter : Plotter) (vaultAuthPath : String) (params : StepParameters) :
    Option DataStore :=
  params.sink.map fun sink =>
    addCredentials (plotter.spec.assets.get sink.assetID).dataStore vaultAuthPath .writeFlow

/-- The arguments every instance gets. -/
def commonArguments (plotter : Plotter) : ModuleArguments :=
  { labels := plotter.labels, appSelector := plotter.spec.selector.workloadSelector
    copy := none, read := [], write := [] }

/-- The arguments of `convertPlotterModuleToBlueprintModule`, by flow type. -/
def instanceArguments (plotter : Plotter) (plotterModule : PlotterModulesSpec) :
    Option ModuleArguments :=
  match plotterModule.moduleArguments with
  | none => some (commonArguments plotter)
  | some params =>
    match plotterModule.flowType with
    | .readFlow =>
      match sourceStore plotter plotterModule.vaultAuthPath params with
      | none => none
      | some source => some { commonArguments plotter with
          read := [⟨source, plotterModule.assetID, params.actions⟩] }
    | .writeFlow =>
      match sinkStore plotter plotterModule.vaultAuthPath params with
      | none => none
      | some destination => some { commonArguments plotter with
          write := [⟨destination, plotterModule.assetID, params.actions⟩] }
    | .copyFlow =>
      match sourceStore plotter plotterModule.vaultAuthPath params,
          sinkStore plotter plotterModule.vaultAuthPath params with
      | some source, some destination => some { commonArguments plotter with
          copy := some ⟨source, destination, plotterModule.assetID, params.actions⟩ }
      | _, _ => none
    | .deleteFlow => some (commonArguments plotter)

/-- `convertPlotterModuleToBlueprintModule`. -/
def convertPlotterModuleToBlueprintModule (plotter : Plotter)
    (plotterModule : PlotterModulesSpec) : Option ModuleInstanceSpec :=
  (instanceArguments plotter plotterModule).map fun args =>
    { chart := plotterModule.chart
      args := args
      assetIDs := [plotterModule.assetID]
      clusterName := plotterModule.clusterName
      moduleName := plotterModule.moduleName
      scope := plotterModule.scope
      assetIDs_ne_nil := plotterModule.assetIDs_ne_nil }

/-! ## Unifying instances -/

/-- The instance that stands for two uses of a module: arguments for reading and
writing are accumulated. -/
def ModuleInstanceSpec.unify (a b : ModuleInstanceSpec) : ModuleInstanceSpec :=
  { a with
    args := { a.args with read := a.args.read ++ b.args.read, write := a.args.write ++ b.args.write }
    assetIDs := a.assetIDs ++ b.assetIDs
    assetIDs_ne_nil := List.append_ne_nil_of_left_ne_nil a.assetIDs_ne_nil _ }

/-- The key of the map of instances to be unified. -/
def ModuleInstanceSpec.key (i : ModuleInstanceSpec) : String :=
  i.moduleName ++ "," ++ i.clusterName

/-- One turn of the loop of `RefineInstances`: the new instances, and the map of
instances to be unified. -/
def refineStep (st : List ModuleInstanceSpec × GoMap String ModuleInstanceSpec)
    (moduleInstance : ModuleInstanceSpec) :
    List ModuleInstanceSpec × GoMap String ModuleInstanceSpec :=
  if moduleInstance.scope = .asset then (st.1 ++ [moduleInstance], st.2)
  else
    match st.2.lookup moduleInstance.key with
    | none => (st.1, st.2.set moduleInstance.key moduleInstance)
    | some other => (st.1, st.2.set moduleInstance.key (other.unify moduleInstance))

/-- `RefineInstances`. -/
def refineInstances (instances : List ModuleInstanceSpec) : List ModuleInstanceSpec :=
  let st := instances.foldl refineStep ([], ∅)
  st.1 ++ st.2.pairs.map Prod.snd

/-! ## Blueprints -/

/-- The name of an instance in its blueprint. -/
def ModuleInstanceSpec.instanceName (sha : Sha512) (i : ModuleInstanceSpec) : String :=
  if i.scope = .asset then createStepName sha i.moduleName (i.assetIDs.head i.assetIDs_ne_nil)
  else i.moduleName

/-- An instance as a blueprint lists it. -/
def ModuleInstanceSpec.blueprintModule (i : ModuleInstanceSpec) : BlueprintModule :=
  { name := i.moduleName, chart := i.chart, arguments := i.args, assetIDs := i.assetIDs }

/-- `GenerateBlueprint`. -/
def generateBlueprint (sha : Sha512) (instances : List ModuleInstanceSpec) (clusterName : String)
    (plotter : Plotter) : BlueprintSpec :=
  { cluster := clusterName
    modulesNamespace := plotter.spec.modulesNamespace
    modules := GoMap.ofList (instances.map fun i => (i.instanceName sha, i.blueprintModule)) }

/-- `GenerateBlueprints`. -/
def generateBlueprints (sha : Sha512) (instances : List ModuleInstanceSpec) (plotter : Plotter) :
    GoMap String BlueprintSpec :=
  GoMap.ofList ((GoMap.groupBy ModuleInstanceSpec.clusterName instances).pairs.map fun kl =>
    (kl.1, generateBlueprint sha (refineInstances kl.2) kl.1 plotter))

/-- `getBlueprintsMap`.  The list of clusters is empty if it could not be
obtained. -/
def getBlueprintsMap (sha : Sha512) (clusters : List Cluster) (plotter : Plotter) :
    Option (GoMap String BlueprintSpec) :=
  ((moduleUses plotter).mapM fun u =>
    convertPlotterModuleToBlueprintModule plotter (u.plotterModule clusters)).map fun instances =>
      generateBlueprints sha instances plotter

/-! ## The unification loop -/

section Step

variable {st : List ModuleInstanceSpec × GoMap String ModuleInstanceSpec} {i : ModuleInstanceSpec}

theorem refineStep_asset (hscope : i.scope = .asset) : refineStep st i = (st.1 ++ [i], st.2) :=
  if_pos hscope

theorem refineStep_first (hscope : i.scope ≠ .asset) (hlookup : st.2.lookup i.key = none) :
    refineStep st i = (st.1, st.2.set i.key i) := by
  rw [refineStep, if_neg hscope, hlookup]

theorem refineStep_again (hscope : i.scope ≠ .asset) {other : ModuleInstanceSpec}
    (hlookup : st.2.lookup i.key = some other) :
    refineStep st i = (st.1, st.2.set i.key (other.unify i)) := by
  rw [refineStep, if_neg hscope, hlookup]

end Step

/-- Instances per asset are kept as they are, the others are unified by key. -/
theorem foldl_refineStep (instances : List ModuleInstanceSpec) :
    instances.foldl refineStep ([], ∅) =
      (instances.filter fun i => i.scope = .asset,
        GoMap.unifyBy ModuleInstanceSpec.key ModuleInstanceSpec.unify
          (instances.filter fun i => i.scope ≠ .asset)) := by
  induction instances using List.reverseRecOn with
  | nil => rfl
  | append_singleton instances i ih =>
    rw [List.foldl_append, ih, List.foldl_cons, List.foldl_nil]
    by_cases hscope : i.scope = .asset
    · rw [refineStep_asset hscope, List.filter_append, List.filter_append]
      simp [hscope]
    · rw [List.filter_append, List.filter_append]
      have hasset : [i].filter (fun i => i.scope = .asset) = [] := by simp [hscope]
      have hother : [i].filter (fun i => i.scope ≠ .asset) = [i] := by simp [hscope]
      rw [hasset, hother, List.append_nil, GoMap.unifyBy_append, GoMap.unifyStep]
      cases hlookup : (GoMap.unifyBy ModuleInstanceSpec.key ModuleInstanceSpec.unify
        (instances.filter fun i => i.scope ≠ .asset)).lookup i.key with
      | none => rw [refineStep_first hscope hlookup]
      | some other => rw [refineStep_again hscope hlookup]

theorem refineInstances_eq (instances : List ModuleInstanceSpec) :
    refineInstances instances = (instances.filter fun i => i.scope = .asset) ++
      (GoMap.unifyBy ModuleInstanceSpec.key ModuleInstanceSpec.unify
        (instances.filter fun i => i.scope ≠ .asset)).pairs.map Prod.snd := by
  rw [refineInstances, foldl_refineStep]

theorem key_eq_iff {a b : ModuleInstanceSpec} (h : a.clusterName = b.clusterName) :
    a.key = b.key ↔ a.moduleName = b.moduleName := by
  rw [ModuleInstanceSpec.key, ModuleInstanceSpec.key, h,
    append_eq_append_iff_of_length rfl, append_eq_append_iff_of_length rfl]
  simp

end Fybrik
