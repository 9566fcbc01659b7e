import Fybrik.Plotter.Generator
import Fybrik.Plotter.Translation

/-!
# The endpoint of a step and the release behind it

The name of the release of a module instance is computed twice: when a flow is
generated, `moduleAPIToService` puts it into the API of the step, and when a
blueprint is reconciled, the chart of the instance is installed under it.

* `releaseNames` — the releases of a blueprint.
* `mem_releaseNames` — the instance made for a step has its release there.
* `AdvertisesDeployed` — every API of the plotter names the release of the
  instance made for its step.
* `addFlows_advertisesDeployed_iff` — for which data paths this is the case: the
  asset that is read at a step must have the hash of the dataset, and the
  template of its capability must be its own.
-/

namespace Fybrik

/-! ## The releases of a blueprint -/

/-- The plotter created for an application; it has no status yet. -/
def plotterOf (application : FybrikApplication) (spec : PlotterSpec) : Plotter :=
  { (default : Plotter) with labels := plotterLabels application, spec := spec }

/-- The labels of the blueprints of a plotter. -/
def blueprintLabels (plotter : Plotter) : GoMap String String :=
  GoMap.ofList [("razee/watch-resource", "debug"),
    (applicationNameLabel, plotter.labels.get applicationNameLabel),
    (applicationNamespaceLabel, plotter.labels.get applicationNamespaceLabel)]

/-- The release `BlueprintReconciler.reconcile` installs for an instance. -/
def blueprintRelease (sha : Sha512) (labels : GoMap String String) (instanceName : String) :
    String :=
  getReleaseName sha (labels.get applicationNameLabel) (labels.get applicationNamespaceLabel)
    instanceName

/-- The loop of `BlueprintReconciler.reconcile` over the module instances: the
name of each instance, and its release. -/
def releaseNames (sha : Sha512) (labels : GoMap String String) (spec : BlueprintSpec) :
    List (String × String) :=
  spec.modules.pairs.map fun nm => (nm.1, blueprintRelease sha labels nm.1)

/-- The release of the instance made for a use of a module. -/
def deployedRelease (sha : Sha512) (plotter : Plotter) (u : ModuleUse) : String :=
  blueprintRelease sha (blueprintLabels plotter) (u.instanceName sha)

section Releases

variable {sha : Sha512} {clusters : List Cluster} {plotter : Plotter}

/-- Unifying the instances of a cluster keeps their names. -/
theorem exists_mem_refineInstances (sha : Sha512) {c : String} {instances : List ModuleInstanceSpec}
    (hc : ∀ i ∈ instances, i.clusterName = c) {i : ModuleInstanceSpec} (hi : i ∈ instances) :
    ∃ i' ∈ refineInstances instances, i'.instanceName sha = i.instanceName sha := by
  rw [refineInstances_eq]
  by_cases hscope : i.scope = .asset
  · exact ⟨i, List.mem_append_left _ (List.mem_filter.2 ⟨hi, decide_eq_true hscope⟩), rfl⟩
  · obtain ⟨i', hi', hname⟩ := (exists_mem_sharedMap_iff sha hc).2 ⟨i, hi, hscope, rfl⟩
    exact ⟨i', List.mem_append_right _ hi', hname.trans (instanceName_of_shared hscope).symm⟩

/-- The instance made for a use of a module is listed in the blueprint of its
cluster, so its release is installed. -/
theorem mem_releaseNames {blueprints : GoMap String BlueprintSpec}
    (h : getBlueprintsMap sha clusters plotter = some blueprints) {u : ModuleUse}
    (hu : u ∈ moduleUses plotter) :
    ∃ spec, blueprints.lookup u.step.cluster = some spec ∧
      (u.instanceName sha, deployedRelease sha plotter u)
        ∈ releaseNames sha (blueprintLabels plotter) spec := by
  obtain ⟨instances, hinstances, rfl⟩ := Option.map_eq_some_iff.1 h
  obtain ⟨i, hi, hconvert⟩ := Loops.exists_of_mapM_eq_some hinstances hu
  obtain ⟨args, -, rfl⟩ := Option.map_eq_some_iff.1 hconvert
  -- the blueprint of the cluster
  have hgroup := GoMap.mem_pairs.2
    (GoMap.lookup_groupBy_of_mem ModuleInstanceSpec.clusterName hi)
  have hblueprint := (generateBlueprints_pairs_perm sha instances plotter).mem_iff.2
    (List.mem_map_of_mem hgroup)
  refine ⟨_, GoMap.mem_pairs.1 hblueprint, ?_⟩
  -- the instance in it
  obtain ⟨i', hi', hname⟩ := exists_mem_refineInstances sha
    (fun j hj => of_decide_eq_true (List.mem_filter.1 hj).2)
    (List.mem_filter.2 ⟨hi, decide_eq_true rfl⟩)
  obtain ⟨m, -, hlookup⟩ := GoMap.lookup_setAll_of_mem ∅ (k := u.instanceName sha)
    ⟨_, List.mem_map_of_mem (f := fun i => (i.instanceName sha, i.blueprintModule)) hi', hname⟩
  exact List.mem_map.2 ⟨_, GoMap.mem_pairs.2 hlookup, rfl⟩

end Releases

/-- The labels of a blueprint name the application. -/
theorem blueprintRelease_plotterOf (sha : Sha512) (application : FybrikApplication)
    (spec : PlotterSpec) (instanceName : String) :
    blueprintRelease sha (blueprintLabels (plotterOf application spec)) instanceName
      = getReleaseName sha application.name application.namespace instanceName := by
  have howner : (ownerLabels ⟨application.name, application.namespace⟩).pairs
      = [(applicationNameLabel, application.name),
         (applicationNamespaceLabel, application.namespace)] := rfl
  have hname : (plotterLabels application).get applicationNameLabel = application.name := by
    rw [plotterLabels, howner, GoMap.get, GoMap.lookup_setAll]
    rfl
  have hnamespace : (plotterLabels application).get applicationNamespaceLabel
      = application.namespace := by
    rw [plotterLabels, howner, GoMap.get, GoMap.lookup_setAll]
    rfl
  rw [blueprintRelease, blueprintLabels, plotterOf, hname, hnamespace]
  rfl

/-! ## What the APIs of a plotter name -/

namespace PlotterGenerator

variable {p : PlotterGenerator} {application : FybrikApplication}

/-- The release that `moduleAPIToService` passes to the API templates for an edge
that reads the asset `id`. -/
def advertisedRelease (p : PlotterGenerator) (application : FybrikApplication) (id : String)
    (e : ResolvedEdge) : String :=
  (p.apiTemplateArgs e.capability.scope application e.module.name id).release.name

/-- The API of every step names the release of the instances made for the step. -/
def AdvertisesDeployed (p : PlotterGenerator) (application : FybrikApplication)
    (plotter : Plotter) (selections : List (String × List ResolvedEdge)) : Prop :=
  List.Forall₂ (fun flow s => ∀ (j : ℕ) (e : ResolvedEdge) (subFlow : SubFlow),
      s.2[j]? = some e → flow.subFlows[j]? = some subFlow → e.capability.api.isSome = true →
      ∀ step ∈ subFlow.steps.flatten, ∀ m ∈ (plotter.spec.templates.get step.template).modules,
        p.advertisedRelease application (runningID s.1 (s.2.take j)) e
          = deployedRelease p.sha512 plotter ⟨flow, subFlow, step, m⟩)
    plotter.spec.flows selections

/-- Of the edges with a capability, the one whose template the plotter keeps. -/
def prevailing (edges : List ResolvedEdge) (capability : String) : Option ResolvedEdge :=
  (edges.filter fun e => e.capability.capability = capability).getLast?

/-- The instance named for the edge `e`, which reads the asset `id`, is the one
deployed for the edge `e'` and the dataset `d`; or both are cut to the same release
name. -/
def NamesDeployed (p : PlotterGenerator) (application : FybrikApplication) (d id : String)
    (e e' : ResolvedEdge) : Prop :=
  (e.module.name = e'.module.name ∧ (e.capability.scope = .asset ↔ e'.capability.scope = .asset) ∧
    (e.capability.scope = .asset → hash p.sha512 id 10 = hash p.sha512 d 10)) ∨
  (e.capability.scope = .asset ∧ e'.capability.scope ≠ .asset ∧
    createStepName p.sha512 e.module.name id = e'.module.name) ∨
  (e.capability.scope ≠ .asset ∧ e'.capability.scope = .asset ∧
    e.module.name = createStepName p.sha512 e'.module.name d) ∨
  Collide p.sha512 53 5
    (application.name ++ "-" ++ application.namespace ++ "-" ++
      p.apiInstanceName e.capability.scope e.module.name id)
    (application.name ++ "-" ++ application.namespace ++ "-" ++
      p.apiInstanceName e'.capability.scope e'.module.name d)

variable {id : String} {e : ResolvedEdge} {subFlow : SubFlow} {path : List ResolvedEdge}
  {subFlows : List SubFlow}

/-- The edge at a position of a path reads the asset reached before it. -/
theorem StepsFrom.generatedFrom (h : StepsFrom p application id path subFlows) {j : ℕ}
    (he : path[j]? = some e) (hsubFlow : subFlows[j]? = some subFlow) :
    GeneratedFrom p application (runningID id (path.take j)) e subFlow := by
  induction h generalizing j with
  | nil id => simp at he
  | cons head _ ih =>
    cases j with
    | zero =>
      cases he
      cases hsubFlow
      exact head
    | succ j => exact ih he hsubFlow

theorem StepsFrom.length_eq (h : StepsFrom p application id path subFlows) :
    subFlows.length = path.length :=
  h.forall₂.length_eq

theorem GeneratedFrom.flatten_steps (h : GeneratedFrom p application id e subFlow) :
    ∃ step, subFlow.steps.flatten = [step] ∧ step.template = e.capability.capability := by
  obtain ⟨api, -, rfl⟩ := h
  split
  · exact ⟨_, rfl, rfl⟩
  · exact ⟨_, rfl, rfl⟩

variable {errs : List (String × String)}

/-- The template of a capability comes from the prevailing edge. -/
theorem templates_get {requirements : List DataInfo} {g : Generation}
    (h : p.addFlows application (p.newGeneration application) requirements = some (g, errs))
    (he : e ∈ (p.selectedPaths application requirements).flatten) :
    ∃ e', prevailing (p.selectedPaths application requirements).flatten e.capability.capability
        = some e' ∧ (g.plotterSpec.templates.get e.capability.capability).modules
          = [e'.moduleInfo] := by
  have hne : (p.selectedPaths application requirements).flatten.filter
      (fun e' => e'.capability.capability = e.capability.capability) ≠ [] :=
    List.ne_nil_of_mem (List.mem_filter.2 ⟨he, decide_eq_true rfl⟩)
  have hlast := List.getLast?_eq_some_getLast hne
  refine ⟨_, hlast, ?_⟩
  have hlookup : g.plotterSpec.templates.lookup e.capability.capability
      = some ((List.getLast _ hne).template) := by
    rw [addFlows_templates h, GoMap.ofList, GoMap.lookup_setAll, List.filter_map,
      List.getLast?_map]
    simp only [Function.comp_def, hlast]
    rfl
  rw [GoMap.get_of_lookup hlookup]
  rfl

variable {d : String}

/-- Which instances have the same name. -/
theorem apiInstanceName_eq_iff {scope scope' : CapabilityScope} {m m' : String} :
    p.apiInstanceName scope m id = p.apiInstanceName scope' m' d ↔
      (m = m' ∧ (scope = .asset ↔ scope' = .asset) ∧
        (scope = .asset → hash p.sha512 id 10 = hash p.sha512 d 10)) ∨
      (scope = .asset ∧ scope' ≠ .asset ∧ createStepName p.sha512 m id = m') ∨
      (scope ≠ .asset ∧ scope' = .asset ∧ m = createStepName p.sha512 m' d) := by
  unfold apiInstanceName
  by_cases hs : scope = .asset
  · by_cases hs' : scope' = .asset
    · simp [hs, hs', createStepName_eq_iff]
    · simp [hs, hs']
  · by_cases hs' : scope' = .asset
    · simp [hs, hs']
    · simp [hs, hs']

/-- The release named for an edge is the one deployed for the template of another. -/
theorem advertisedRelease_eq_iff {e' : ResolvedEdge} {spec : PlotterSpec} {flow : Flow}
    (hflow : flow.assetID = d) (subFlow : SubFlow) (step : DataFlowStep) :
    p.advertisedRelease application id e
        = deployedRelease p.sha512 (plotterOf application spec) ⟨flow, subFlow, step, e'.moduleInfo⟩
      ↔ NamesDeployed p application d id e e' := by
  have hname : ModuleUse.instanceName p.sha512 ⟨flow, subFlow, step, e'.moduleInfo⟩
      = p.apiInstanceName e'.capability.scope e'.module.name d := by
    rw [← hflow]
    rfl
  rw [deployedRelease, blueprintRelease_plotterOf, hname, advertisedRelease, apiTemplateArgs,
    getReleaseName_eq_iff, apiInstanceName_eq_iff, NamesDeployed, or_assoc, or_assoc]

/-- One step: the API names the release deployed for it exactly if it does so for
the edge whose template prevails. -/
theorem advertised_step_iff {requirements : List DataInfo} {g : Generation}
    (h : p.addFlows application (p.newGeneration application) requirements = some (g, errs))
    {flow : Flow} (hflow : flow.assetID = d)
    (he : e ∈ (p.selectedPaths application requirements).flatten)
    (hgen : GeneratedFrom p application id e subFlow) :
    (∀ step ∈ subFlow.steps.flatten, ∀ m ∈ (g.plotterSpec.templates.get step.template).modules,
        p.advertisedRelease application id e = deployedRelease p.sha512
          (plotterOf application g.plotterSpec) ⟨flow, subFlow, step, m⟩) ↔
      ∀ e', prevailing (p.selectedPaths application requirements).flatten e.capability.capability
        = some e' → NamesDeployed p application d id e e' := by
  obtain ⟨step, hstep, htemplate⟩ := hgen.flatten_steps
  obtain ⟨e', he', hmodules⟩ := templates_get h he
  simp only [hstep, List.mem_singleton, forall_eq, htemplate, hmodules, he', Option.some.injEq,
    forall_eq']
  exact advertisedRelease_eq_iff hflow subFlow step

/-- When every API of the plotter names the release that is deployed for its step. -/
theorem addFlows_advertisesDeployed_iff (p : PlotterGenerator) (application : FybrikApplication)
    (requirements : List DataInfo) (g : Generation) (errs : List (String × String))
    (h : p.addFlows application (p.newGeneration application) requirements = some (g, errs)) :
    AdvertisesDeployed p application (plotterOf application g.plotterSpec)
        (p.selections application requirements) ↔
      ∀ s ∈ p.selections application requirements, ∀ (j : ℕ) (e : ResolvedEdge),
        s.2[j]? = some e → e.capability.api.isSome = true →
        ∀ e', prevailing (p.selectedPaths application requirements).flatten
            e.capability.capability = some e' →
          NamesDeployed p application s.1 (runningID s.1 (s.2.take j)) e e' := by
  have hflows : g.plotterSpec.flows
      = (p.generatedFlows application requirements).map FlowInfo.flow := by
    rw [(addFlows_eq_some h).1, foldl_addFlow_flows]
    rfl
  unfold AdvertisesDeployed
  simp only [plotterOf]
  rw [hflows, List.forall₂_map_left_iff]
  refine Loops.forall₂_iff_right (generatedFlows_selections p application requirements) ?_
  rintro info s hs ⟨-, hasset, hsteps⟩
  constructor
  · intro hnamed j e he hapi
    have hj : j < info.flow.subFlows.length := by
      rw [hsteps.length_eq]
      exact (List.getElem?_eq_some_iff.1 he).1
    have hsubFlow := List.getElem?_eq_getElem hj
    exact (advertised_step_iff h hasset (mem_selectedPaths hs (List.mem_of_getElem? he))
      (hsteps.generatedFrom he hsubFlow)).1 (hnamed j e _ he hsubFlow hapi)
  · intro hnamed j e subFlow he hsubFlow hapi
    exact (advertised_step_iff h hasset (mem_selectedPaths hs (List.mem_of_getElem? he))
      (hsteps.generatedFrom he hsubFlow)).2 (hnamed j e he hapi)

/-- The API of a reader that is shared by the datasets names its release. -/
theorem addFlows_advertisesDeployed_parquet :
    ∃ g, readersGenerator.addFlows shireApplication (readersGenerator.newGeneration shireApplication)
        [arrowItem "xxx" ⟨"s3", "parquet"⟩, arrowItem "yyy" ⟨"s3", "parquet"⟩] = some (g, []) ∧
      AdvertisesDeployed readersGenerator shireApplication (plotterOf shireApplication g.plotterSpec)
        (readersGenerator.selections shireApplication
          [arrowItem "xxx" ⟨"s3", "parquet"⟩, arrowItem "yyy" ⟨"s3", "parquet"⟩]) := by
  refine ⟨_, rfl, (addFlows_advertisesDeployed_iff _ _ _ _ [] rfl).2 ?_⟩
  have hreader : ∀ e ∈ (readersGenerator.selectedPaths shireApplication
      [arrowItem "xxx" ⟨"s3", "parquet"⟩, arrowItem "yyy" ⟨"s3", "parquet"⟩]).flatten,
      e.module.name = "parquet-reader" ∧ e.capability.scope = .workload := by decide
  intro s hs j e he _ e' he'
  obtain ⟨hname, hscope⟩ := hreader e (mem_selectedPaths hs (List.mem_of_getElem? he))
  obtain ⟨hname', hscope'⟩ := hreader e' (List.mem_of_mem_filter (List.mem_of_getLast? he'))
  rw [NamesDeployed, hname, hname', hscope, hscope']
  exact Or.inl ⟨rfl, Iff.rfl, fun h => absurd h (by decide)⟩

/-! ## A copy is served under another name -/

/-- A generator with a module that copies tables to an object store and a module
that serves the copy, with one instance per asset. -/
def copyGenerator : PlotterGenerator :=
  { (default : PlotterGenerator) with
    settings := { (default : Settings) with dataPathMaxSize := 2 }
    modules := GoMap.ofList
      [("mover", ⟨"mover", ⟨"service", [⟨"copy", .asset,
          [⟨some ⟨"db2", "table"⟩, some ⟨"s3", "parquet"⟩⟩], none, []⟩], default⟩⟩),
       ("server", ⟨"server", ⟨"service", [⟨"read", .asset,
          [⟨some ⟨"s3", "parquet"⟩, none⟩], some ⟨⟨"arrow-flight", GoMap.ofList [("arrow-flight",
            .obj [("hostname", .str "\x7b\x7b .Release.Name \x7d\x7d")])]⟩, "arrow"⟩, []⟩],
          default⟩⟩)]
    clusters := [⟨"hobbiton", ⟨"theshire", "", ""⟩⟩]
    policyManager := ⟨fun _ _ => .ok ⟨"1", []⟩⟩
    taxonomy := ⟨fun _ => none, fun _ _ => none, fun _ => none⟩
    storageAccounts := .ok [⟨"credentials", GoMap.ofList [("theshire", "http://theshire.storage")]⟩]
    storageAccountRegions := ["theshire"]
    owner := ⟨"notebook", "default"⟩
    templateEngine := ⟨fun _ => none, fun _ args => .ok args.release.name⟩
    sha512 := sampleSha512 }

/-- A notebook that asks for data. -/
def notebookApplication : FybrikApplication :=
  { shireApplication with name := "notebook", «namespace» := "default" }

/-- The API of the copy names a release for the hash of the copy, but the instance
is deployed for the hash of the dataset. -/
theorem addFlows_copy_not_advertisesDeployed :
    ∃ g, copyGenerator.addFlows notebookApplication
        (copyGenerator.newGeneration notebookApplication)
        [arrowItem "xxx" ⟨"db2", "table"⟩] = some (g, []) ∧
      ¬ AdvertisesDeployed copyGenerator notebookApplication
        (plotterOf notebookApplication g.plotterSpec)
        (copyGenerator.selections notebookApplication [arrowItem "xxx" ⟨"db2", "table"⟩]) := by
  refine ⟨_, rfl, ?_⟩
  intro h
  have hflow := (List.forall₂_cons.1 h).1
  -- the second step serves the copy
  have hserver := hflow 1 _ _ rfl rfl rfl _ List.mem_cons_self _ List.mem_cons_self
  exact absurd hserver (by decide +kernel)

end PlotterGenerator

end Fybrik
