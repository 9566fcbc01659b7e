import Fybrik.Plotter.Endpoint

/-!
# Governance, from the policies to the blueprints

The policy manager asks for actions on the data of an application.  They are
spread over the edges of the selected data paths, written into the steps of the
plotter, turned into arguments of module instances and sent to the clusters in
blueprints.

* `requiredActions` — the actions the policies ask for, for a dataset: those for
  reading it, and those for writing each of its copies.
* `appliedActions` — the transformations the blueprints list for a dataset.
* `Enforces` — both are the same for every dataset, with repetitions.
* `KeepsActions` — what this takes: no plugin is asked for an action, and no
  instance with an action shares its name in its cluster with a later one.
* `addFlows_enforces_iff` — for every plotter that is generated and translated,
  no action is applied that was not asked for, and the blueprints enforce the
  policies exactly if the plotter keeps the actions.
-/

namespace Fybrik

/-! ## The actions in the blueprints -/

/-- The asset an entry is for. -/
def ArgumentEntry.assetID : ArgumentEntry → String
  | .read args => args.assetID
  | .write args => args.assetID
  | .copy args => args.assetID

/-- The transformations an entry asks a module for. -/
def ArgumentEntry.transformations : ArgumentEntry → List Action
  | .read args => args.transformations
  | .write args => args.transformations
  | .copy args => args.transformations

/-- The transformations an entry asks for, if it is for the dataset. -/
def LocatedEntry.actionsFor (id : String) (l : LocatedEntry) : List Action :=
  if l.entry.assetID = id then l.entry.transformations else []

/-- The transformations the blueprints list for a dataset. -/
def appliedActions (blueprints : GoMap String BlueprintSpec) (id : String) : List Action :=
  (argumentEntries blueprints).flatMap (LocatedEntry.actionsFor id)

/-- The actions a step asks for. -/
def ModuleUse.actions (u : ModuleUse) : List Action :=
  (u.step.parameters.map StepParameters.actions).getD []

/-- The actions a step asks for, if its flow is for the dataset. -/
def ModuleUse.actionsFor (id : String) (u : ModuleUse) : List Action :=
  if u.flow.assetID = id then u.actions else []

section Instances

variable {sha : Sha512} {clusters : List Cluster} {plotter : Plotter} {u : ModuleUse}

theorem actions_of_expectedEntry {e : ArgumentEntry}
    (h : u.expectedEntry clusters plotter = some e) :
    e.assetID = u.flow.assetID ∧ e.transformations = u.actions := by
  obtain ⟨params, hparams, ⟨-, source, -, rfl⟩ | ⟨-, destination, -, rfl⟩ |
    ⟨-, source, destination, -, -, rfl⟩⟩ := expectedEntry_cases h
  all_goals
    rw [ModuleUse.actions, hparams]
    exact ⟨rfl, rfl⟩

variable {i : ModuleInstanceSpec}

/-- The entry of an instance, if its module is not a plugin. -/
theorem InstanceOf.exists_entry (h : InstanceOf clusters plotter u i)
    (hplugin : u.isPlugin = false) :
    ∃ e, i.located = [⟨u.step.cluster, u.module.name, e⟩] ∧
      e.assetID = u.flow.assetID ∧ e.transformations = u.actions := by
  obtain ⟨e, he⟩ := Option.isSome_iff_exists.1
    ((isSome_expectedEntry clusters plotter u).2 (h.parameters hplugin))
  refine ⟨e, ?_, actions_of_expectedEntry he⟩
  rw [h.located, hplugin, he]
  rfl

/-- An instance has no transformations if its step asks for none. -/
theorem InstanceOf.transformations_eq_nil_iff (h : InstanceOf clusters plotter u i)
    (hidle : u.isPlugin = true → u.actions = []) :
    i.located.flatMap (fun l => l.entry.transformations) = [] ↔ u.actions = [] := by
  cases hplugin : u.isPlugin with
  | true => simp [h.located, hplugin, hidle]
  | false =>
    obtain ⟨e, he, -, hactions⟩ := h.exists_entry hplugin
    simp [he, hactions]

theorem InstanceOf.actionsFor (h : InstanceOf clusters plotter u i) (id : String) :
    i.located.flatMap (LocatedEntry.actionsFor id)
      = if u.isPlugin then [] else u.actionsFor id := by
  cases hplugin : u.isPlugin with
  | true =>
    rw [h.located, hplugin]
    rfl
  | false =>
    obtain ⟨e, he, hasset, hactions⟩ := h.exists_entry hplugin
    simp [he, LocatedEntry.actionsFor, ModuleUse.actionsFor, hasset, hactions]

/-- A copy that is dropped had the transformations of its step. -/
theorem InstanceOf.droppedCopy_eq_nil_iff (h : InstanceOf clusters plotter u i)
    (hidle : u.isPlugin = true → u.actions = []) :
    i.droppedCopy.flatMap (fun l => l.entry.transformations) = [] ↔
      (u.subFlow.flowType = .copyFlow → u.actions = []) := by
  cases hcopy : i.args.copy with
  | none =>
    rw [Fybrik.droppedCopy_eq_nil_iff.2 hcopy]
    rcases h.copy.1 hcopy with hplugin | hflow
    · simp [hidle hplugin]
    · simp [hflow]
  | some c =>
    obtain ⟨hplugin, hflow⟩ := not_or.1 (mt h.copy.2 (by simp [hcopy]))
    rw [Bool.not_eq_true] at hplugin
    obtain ⟨e, he, -, hactions⟩ := h.exists_entry hplugin
    -- the copy is the only entry of the instance
    have hentries : i.args.entries
        = .copy c :: (i.args.read.map .read ++ i.args.write.map .write) := by
      rw [ModuleArguments.entries, hcopy]
      rfl
    have hlocated : i.located.head? = i.droppedCopy.head? := by
      rw [ModuleInstanceSpec.located, BlueprintModule.located, ModuleInstanceSpec.droppedCopy]
      simp [ModuleInstanceSpec.blueprintModule, hentries, hcopy]
    have hdropped : i.droppedCopy = [⟨u.step.cluster, u.module.name, e⟩] := by
      rw [he, ModuleInstanceSpec.droppedCopy, hcopy] at hlocated
      rw [ModuleInstanceSpec.droppedCopy, hcopy]
      exact congrArg (fun l => [l]) (Option.some.inj hlocated.symm)
    simp [hdropped, hactions, not_not.1 hflow]

/-- Of the actions the steps ask for, the plugins leave theirs out. -/
theorem flatMap_actionsFor_perm {uses : List ModuleUse} {instances : List ModuleInstanceSpec}
    (hof : List.Forall₂ (InstanceOf clusters plotter) uses instances) (id : String) :
    (instances.flatMap (fun i => i.located.flatMap (LocatedEntry.actionsFor id)) ++
      (uses.filter ModuleUse.isPlugin).flatMap (ModuleUse.actionsFor id)).Perm
      (uses.flatMap (ModuleUse.actionsFor id)) := by
  induction hof with
  | nil => exact .nil
  | cons hu _ ih =>
    rw [List.flatMap_cons, List.flatMap_cons, hu.actionsFor]
    cases hplugin : ModuleUse.isPlugin _ with
    | true =>
      rw [List.filter_cons_of_pos hplugin, List.flatMap_cons]
      refine List.perm_append_comm_assoc .. |>.trans ?_
      exact ih.append_left _
    | false =>
      rw [List.filter_cons_of_neg (by simp [hplugin]), List.append_assoc]
      exact ih.append_left _

end Instances

/-! ## What is lost on the way -/

/-- Nothing with a weight is lost in any cluster. -/
@[mk_iff]
structure Spares (sha : Sha512) {β : Type} (w : LocatedEntry → List β)
    (instances : List ModuleInstanceSpec) : Prop where
  assets : instances.Pairwise fun a b => a.clusterName = b.clusterName →
    a.scope = .asset → b.scope = .asset → a.instanceName sha = b.instanceName sha →
      a.located.flatMap w = []
  shared : ∀ a ∈ instances, ∀ b ∈ instances, a.clusterName = b.clusterName →
    a.scope = .asset → b.scope ≠ .asset → a.instanceName sha = b.moduleName →
      a.located.flatMap w = []
  copies : instances.Pairwise fun a b => a.clusterName = b.clusterName →
    a.scope ≠ .asset → b.scope ≠ .asset → a.moduleName = b.moduleName →
      b.droppedCopy.flatMap w = []

/-- What is lost of the instances in all clusters. -/
def lostOf (sha : Sha512) (instances : List ModuleInstanceSpec) : List LocatedEntry :=
  (GoMap.groupBy ModuleInstanceSpec.clusterName instances).pairs.flatMap fun kl =>
    lostEntries sha kl.1 kl.2

theorem flatMap_lostOf_eq_nil_iff (sha : Sha512) {β : Type} (w : LocatedEntry → List β)
    (instances : List ModuleInstanceSpec) :
    (lostOf sha instances).flatMap w = [] ↔ Spares sha w instances := by
  have hcluster : ∀ c, ∀ i ∈ instances.filter fun i => i.clusterName = c, i.clusterName = c :=
    fun c i hi => of_decide_eq_true (List.mem_filter.1 hi).2
  have hgroups : (lostOf sha instances).flatMap w = [] ↔
      ∀ c, (lostEntries sha c (instances.filter fun i => i.clusterName = c)).flatMap w = [] := by
    rw [lostOf, List.flatMap_assoc, List.flatMap_eq_nil_iff]
    constructor
    · intro h c
      cases hlookup : (GoMap.groupBy ModuleInstanceSpec.clusterName instances).lookup c with
      | none =>
        rw [← GoMap.get_groupBy, GoMap.get_of_lookup_none hlookup]
        rfl
      | some l =>
        have hl := GoMap.mem_pairs.2 hlookup
        rw [← GoMap.eq_filter_of_mem_groupBy hl]
        exact h (c, l) hl
    · rintro h ⟨c, l⟩ hl
      rw [GoMap.eq_filter_of_mem_groupBy hl]
      exact h c
  rw [hgroups]
  simp only [flatMap_lostEntries_eq_nil_iff sha w (hcluster _), forall_and,
    Loops.forall_pairwise_filter]
  constructor
  · rintro ⟨hassets, hshared, hcopies⟩
    refine ⟨hassets, fun a ha b hb hc => ?_, hcopies⟩
    exact hshared a.clusterName a (List.mem_filter.2 ⟨ha, by simp⟩) b
      (List.mem_filter.2 ⟨hb, by simp [hc]⟩)
  · rintro ⟨hassets, hshared, hcopies⟩
    refine ⟨hassets, fun c a ha b hb => ?_, hcopies⟩
    exact hshared a (List.mem_of_mem_filter ha) b (List.mem_of_mem_filter hb)
      ((hcluster c a ha).trans (hcluster c b hb).symm)

/-- When no action is lost on the way from a plotter to the blueprints. -/
@[mk_iff]
structure KeepsActions (sha : Sha512) (plotter : Plotter) : Prop where
  /-- No plugin is asked for an action. -/
  plugins : ∀ u ∈ moduleUses plotter, u.isPlugin = true → u.actions = []
  /-- Of two uses of modules per asset in one cluster that share an instance name,
  the first asks for no action. -/
  assets : (moduleUses plotter).Pairwise fun u v => u.step.cluster = v.step.cluster →
    u.module.scope = .asset → v.module.scope = .asset →
      u.instanceName sha = v.instanceName sha → u.actions = []
  /-- An instance per asset that has the name of a module that is not used per asset
  in the same cluster is asked for no action. -/
  shared : ∀ u ∈ moduleUses plotter, ∀ v ∈ moduleUses plotter,
    u.step.cluster = v.step.cluster → u.module.scope = .asset → v.module.scope ≠ .asset →
      u.instanceName sha = v.module.name → u.actions = []
  /-- Of two uses of one module in one cluster that are not per asset, the second is
  asked for no action if it copies. -/
  copies : (moduleUses plotter).Pairwise fun u v => u.step.cluster = v.step.cluster →
    u.module.scope ≠ .asset → v.module.scope ≠ .asset → u.module.name = v.module.name →
      v.subFlow.flowType = .copyFlow → v.actions = []

section Plotter

variable {sha : Sha512} {clusters : List Cluster} {plotter : Plotter}

/-- The instances keep the actions if and only if the plotter does. -/
theorem spares_iff_keepsActions {instances : List ModuleInstanceSpec}
    (hof : List.Forall₂ (InstanceOf clusters plotter) (moduleUses plotter) instances)
    (hplugins : ∀ u ∈ moduleUses plotter, u.isPlugin = true → u.actions = []) :
    Spares sha (fun l => l.entry.transformations) instances ↔ KeepsActions sha plotter := by
  -- with the actions of plugins out of the way, an instance has those of its step
  have hidle := (List.forall₂_and_left _ _).2 ⟨hplugins, hof⟩
  rw [spares_iff, keepsActions_iff, and_iff_right hplugins]
  refine and_congr ?_ (and_congr ?_ ?_)
  · refine (Loops.pairwise_iff_of_forall₂ hidle ?_).symm
    rintro u v a b ⟨hu', hu⟩ ⟨-, hv⟩
    rw [hu.clusterName, hv.clusterName, hu.scope, hv.scope, hu.instanceName, hv.instanceName,
      hu.transformations_eq_nil_iff hu']
  · refine (Loops.forall_mem_iff_of_forall₂ hidle ?_).symm
    rintro u a ⟨hu', hu⟩
    refine Loops.forall_mem_iff_of_forall₂ hof fun v b hv => ?_
    rw [hu.clusterName, hv.clusterName, hu.scope, hv.scope, hu.instanceName, hv.moduleName,
      hu.transformations_eq_nil_iff hu']
  · refine (Loops.pairwise_iff_of_forall₂ hidle ?_).symm
    rintro u v a b ⟨-, hu⟩ ⟨hv', hv⟩
    rw [hu.clusterName, hv.clusterName, hu.scope, hv.scope, hu.moduleName, hv.moduleName,
      hv.droppedCopy_eq_nil_iff hv']

/-- What the blueprints apply, what is lost and what the plugins leave out make up
the actions the steps ask for. -/
theorem appliedActions_perm (sha : Sha512) {instances : List ModuleInstanceSpec}
    (hof : List.Forall₂ (InstanceOf clusters plotter) (moduleUses plotter) instances)
    (id : String) :
    (appliedActions (generateBlueprints sha instances plotter) id ++
      ((lostOf sha instances).flatMap (LocatedEntry.actionsFor id) ++
        ((moduleUses plotter).filter ModuleUse.isPlugin).flatMap (ModuleUse.actionsFor id))).Perm
      ((moduleUses plotter).flatMap (ModuleUse.actionsFor id)) := by
  have hentries := (generateBlueprints_entries_perm sha instances plotter).flatMap_right
    (LocatedEntry.actionsFor id)
  rw [List.flatMap_append, List.flatMap_assoc (l := instances)] at hentries
  rw [← List.append_assoc]
  exact (hentries.append_right _).trans (flatMap_actionsFor_perm hof id)

theorem flatMap_actionsFor_eq_nil_iff {l : List LocatedEntry} :
    (∀ id, l.flatMap (LocatedEntry.actionsFor id) = []) ↔
      l.flatMap (fun l => l.entry.transformations) = [] := by
  simp only [List.flatMap_eq_nil_iff, LocatedEntry.actionsFor]
  constructor
  · intro h x hx
    simpa using h x.entry.assetID x hx
  · intro h id x hx
    rw [h x hx, ite_self]

/-- The blueprints apply no action that the steps do not ask for, and they apply all
of them exactly if the plotter keeps the actions. -/
theorem appliedActions_iff {blueprints : GoMap String BlueprintSpec}
    (hparams : ∀ u ∈ moduleUses plotter, u.isPlugin = false → u.HasParameters)
    (h : getBlueprintsMap sha clusters plotter = some blueprints) :
    (∀ id, (appliedActions blueprints id).Subperm
      ((moduleUses plotter).flatMap (ModuleUse.actionsFor id))) ∧
    ((∀ id, (appliedActions blueprints id).Perm
      ((moduleUses plotter).flatMap (ModuleUse.actionsFor id))) ↔ KeepsActions sha plotter) := by
  obtain ⟨instances, hof, hconvert, -⟩ := exists_instances clusters plotter hparams
  rw [getBlueprintsMap, hconvert] at h
  cases h
  have hperm := appliedActions_perm sha hof
  refine ⟨fun id => ?_, ?_⟩
  · exact (List.sublist_append_left _ _).subperm.trans (hperm id).subperm
  · have hplugins : (∀ id, ((moduleUses plotter).filter ModuleUse.isPlugin).flatMap
        (ModuleUse.actionsFor id) = []) ↔
          ∀ u ∈ moduleUses plotter, u.isPlugin = true → u.actions = [] := by
      simp only [List.flatMap_eq_nil_iff, List.mem_filter, ModuleUse.actionsFor]
      constructor
      · intro h u hu hplugin
        simpa using h u.flow.assetID u ⟨hu, hplugin⟩
      · intro h id u hu
        rw [h u hu.1 hu.2, ite_self]
    simp only [fun id => Loops.perm_iff_of_append_perm (hperm id), List.append_eq_nil_iff,
      forall_and, flatMap_actionsFor_eq_nil_iff, hplugins]
    rw [flatMap_lostOf_eq_nil_iff]
    constructor
    · rintro ⟨hspares, hidle⟩
      exact (spares_iff_keepsActions hof hidle).1 hspares
    · intro h
      exact ⟨(spares_iff_keepsActions hof h.plugins).2 h, h.plugins⟩

end Plotter

/-! ## The actions of the selected paths -/

namespace PlotterGenerator

variable {p : PlotterGenerator} {application : FybrikApplication}

/-- The actions the policies ask for, for a dataset: those for reading it, and those
for writing its copies along the selected data path. -/
def requiredActions (p : PlotterGenerator) (application : FybrikApplication)
    (requirements : List DataInfo) (id : String) : List Action :=
  requirements.flatMap fun item =>
    if item.context.dataSetID = id then
      item.actions ++ ((p.selectPath application item).getD []).flatMap
        (p.writeShare item application)
    else []

/-- The blueprints apply the actions the policies ask for, as often as they do. -/
def Enforces (p : PlotterGenerator) (application : FybrikApplication)
    (requirements : List DataInfo) (blueprints : GoMap String BlueprintSpec) : Prop :=
  ∀ id, (appliedActions blueprints id).Perm (p.requiredActions application requirements id)

variable {path : List ResolvedEdge}

/-- The edges of a selected path carry the actions on read of the dataset and their
own actions on write. -/
theorem selectPath_actions_perm {item : DataInfo} (h : p.selectPath application item = some path) :
    (path.flatMap ResolvedEdge.actions).Perm
      (item.actions ++ path.flatMap (p.writeShare item application)) := by
  obtain ⟨s, hs, rfl⟩ := Option.map_eq_some_iff.1 h
  obtain ⟨hleft, hresolved⟩ := findPaths_resolved (List.mem_of_mem_head? hs)
  have hperm := Loops.shares_perm supportsGovernanceAction
    (s.dataPath.map ResolvedEdge.toEdge) item.actions
  rw [hleft, List.append_nil] at hperm
  have hlength : s.dataPath.length = (Loops.shares supportsGovernanceAction
      (s.dataPath.map ResolvedEdge.toEdge) item.actions).length := by
    rw [Loops.length_shares, List.length_map]
  have hshares : List.Forall₂ (fun e share =>
      e.actions = p.writeShare item application e ++ share) s.dataPath
        (Loops.shares supportsGovernanceAction (s.dataPath.map ResolvedEdge.toEdge)
          item.actions) := by
    refine List.forall₂_iff_get.2 ⟨hlength, fun j hj hj' => ?_⟩
    obtain ⟨e, reads, hempty, hreads, hres⟩ := hresolved j _ (List.getElem?_eq_getElem hj)
    rw [List.getElem?_eq_getElem hj'] at hreads
    rw [List.get_eq_getElem, List.get_eq_getElem, Option.some.inj hreads, hres.actions_eq,
      hres.writeShare_eq hempty]
  exact (Loops.flatMap_perm_of_forall₂ hshares).trans (hperm.append_right _)

/-! ## From the paths to the steps -/

/-- What the innermost loop makes of the subflows of a flow. -/
def flowUses (spec : PlotterSpec) (flow : Flow) (subFlows : List SubFlow) : List ModuleUse :=
  subFlows.flatMap fun subFlow =>
    subFlow.steps.flatMap fun subFlowStep =>
      subFlowStep.flatMap fun seqStep =>
        (spec.templates.get seqStep.template).modules.map fun module =>
          ⟨flow, subFlow, seqStep, module⟩

/-- The use of a module for a step, and the edge that the step was generated for. -/
structure UseOf (flow : Flow) (e : ResolvedEdge) (u : ModuleUse) : Prop where
  flow : u.flow = flow
  flowType : u.subFlow.flowType = .readFlow ∨ u.subFlow.flowType = .copyFlow
  actions : ∃ params, u.step.parameters = some params ∧ params.actions = e.actions

theorem GeneratedFrom.useOf {id : String} {e : ResolvedEdge} {subFlow : SubFlow}
    (h : GeneratedFrom p application id e subFlow) {spec : PlotterSpec} (flow : Flow)
    (hm : ∃ m, (spec.templates.get e.capability.capability).modules = [m]) :
    ∃ u, flowUses spec flow [subFlow] = [u] ∧ UseOf flow e u := by
  obtain ⟨api, -, rfl⟩ := h
  obtain ⟨m, hm⟩ := hm
  split
  · refine ⟨⟨flow, readSubFlow e id api, ⟨"", e.cluster, e.capability.capability,
      some ⟨some ⟨id, none⟩, none, api, e.actions⟩⟩, m⟩, ?_, rfl, Or.inl rfl, _, rfl, rfl⟩
    simp [flowUses, readSubFlow, hm]
  · refine ⟨⟨flow, copySubFlow e id (id ++ "-copy") api, ⟨"", e.cluster, e.capability.capability,
      some ⟨some ⟨id, none⟩, some ⟨id ++ "-copy"⟩, api, e.actions⟩⟩, m⟩, ?_, rfl, Or.inr rfl, _,
      rfl, rfl⟩
    simp [flowUses, copySubFlow, hm]

/-- There is one use of a module for each edge of the path of a flow. -/
theorem StepsFrom.useOf {id : String} {subFlows : List SubFlow}
    (h : StepsFrom p application id path subFlows) {spec : PlotterSpec} (flow : Flow)
    (hm : ∀ e ∈ path, ∃ m, (spec.templates.get e.capability.capability).modules = [m]) :
    List.Forall₂ (UseOf flow) path (flowUses spec flow subFlows) := by
  induction h with
  | nil id => exact .nil
  | @cons id e path subFlow subFlows head _ ih =>
    obtain ⟨u, hu, huse⟩ := head.useOf flow (hm e List.mem_cons_self)
    have hsplit : flowUses spec flow (subFlow :: subFlows)
        = flowUses spec flow [subFlow] ++ flowUses spec flow subFlows := by
      rw [flowUses, flowUses, flowUses, List.flatMap_cons, List.flatMap_singleton]
    rw [hsplit, hu]
    exact .cons huse (ih fun e he => hm e (List.mem_cons_of_mem _ he))

theorem actionsFor_of_useOf {flow : Flow} {uses : List ModuleUse}
    (h : List.Forall₂ (UseOf flow) path uses) (id : String) :
    uses.flatMap (ModuleUse.actionsFor id)
      = if flow.assetID = id then path.flatMap ResolvedEdge.actions else [] := by
  induction h with
  | nil => simp
  | cons hu _ ih =>
    obtain ⟨params, hparams, hactions⟩ := hu.actions
    rw [List.flatMap_cons, ih, ModuleUse.actionsFor, ModuleUse.actions, hu.flow, hparams]
    by_cases hid : flow.assetID = id <;> simp [hid, hactions]

section Generated

variable {requirements : List DataInfo} {g : Generation} {errs : List (String × String)}

/-- The uses of modules in a generated plotter, flow by flow. -/
theorem moduleUses_generated
    (h : p.addFlows application (p.newGeneration application) requirements = some (g, errs)) :
    moduleUses (plotterOf application g.plotterSpec)
        = (p.generatedFlows application requirements).flatMap (fun info =>
            flowUses g.plotterSpec info.flow info.flow.subFlows) ∧
      List.Forall₂ (fun info s => info.flow.assetID = s.1 ∧ List.Forall₂ (UseOf info.flow) s.2
          (flowUses g.plotterSpec info.flow info.flow.subFlows))
        (p.generatedFlows application requirements) (p.selections application requirements) := by
  have hflows : g.plotterSpec.flows
      = (p.generatedFlows application requirements).map FlowInfo.flow := by
    rw [(addFlows_eq_some h).1, foldl_addFlow_flows]
    rfl
  refine ⟨?_, ?_⟩
  · rw [moduleUses, plotterOf, hflows, List.flatMap_map]
    rfl
  · refine (Loops.forall₂_iff_right (generatedFlows_selections p application requirements)
      (Q := fun _ => True) ?_).2 fun _ _ => trivial
    rintro info s hs ⟨-, hasset, hsteps⟩
    refine iff_true_intro ⟨hasset, hsteps.useOf info.flow fun e he => ?_⟩
    obtain ⟨e', -, hmodules⟩ := templates_get h (mem_selectedPaths hs he)
    exact ⟨_, hmodules⟩

/-- The steps of a generated plotter ask for the actions of the selected paths. -/
theorem actionsFor_moduleUses
    (h : p.addFlows application (p.newGeneration application) requirements = some (g, errs))
    (id : String) :
    (moduleUses (plotterOf application g.plotterSpec)).flatMap (ModuleUse.actionsFor id)
      = (p.selections application requirements).flatMap fun s =>
          if s.1 = id then s.2.flatMap ResolvedEdge.actions else [] := by
  obtain ⟨huses, hsel⟩ := moduleUses_generated h
  rw [huses, List.flatMap_assoc]
  clear huses
  generalize p.generatedFlows application requirements = infos,
    p.selections application requirements = sel at hsel
  induction hsel with
  | nil => rfl
  | cons hs _ ih =>
    rw [List.flatMap_cons, List.flatMap_cons, ih, actionsFor_of_useOf hs.2, hs.1]

/-- A generated plotter has the parameters its steps need, if it can be translated. -/
theorem hasParameters_generated
    (h : p.addFlows application (p.newGeneration application) requirements = some (g, errs))
    {sha : Sha512} {clusters : List Cluster} {blueprints : GoMap String BlueprintSpec}
    (hb : getBlueprintsMap sha clusters (plotterOf application g.plotterSpec) = some blueprints)
    {u : ModuleUse} (hu : u ∈ moduleUses (plotterOf application g.plotterSpec))
    (hplugin : u.isPlugin = false) : u.HasParameters := by
  obtain ⟨huses, hsel⟩ := moduleUses_generated h
  have hflow : ∀ info ∈ p.generatedFlows application requirements,
      ∀ u ∈ flowUses g.plotterSpec info.flow info.flow.subFlows, ∃ e, UseOf info.flow e u := by
    refine ((List.forall₂_and_left _ _).1 (hsel.imp fun info s hs => ⟨?_, hs⟩)).1
    exact ((List.forall₂_and_left _ _).1 (hs.2.flip.imp fun u e hu => ⟨⟨e, hu⟩, hu⟩)).1
  obtain ⟨instances, hinstances, -⟩ := Option.map_eq_some_iff.1 hb
  obtain ⟨i, -, hi⟩ := Loops.exists_of_mapM_eq_some hinstances hu
  have hconverts := (isSome_convert_iff clusters _ u).1 (Option.isSome_iff_exists.2 ⟨i, hi⟩)
  rw [huses, List.mem_flatMap] at hu
  obtain ⟨info, hinfo, hu⟩ := hu
  obtain ⟨e, huse⟩ := hflow info hinfo u hu
  obtain ⟨params, hparams, -⟩ := huse.actions
  refine ⟨params, hparams, ?_⟩
  have hneeds := hconverts hplugin params hparams
  rcases huse.flowType with hflow | hflow
  · simpa only [hflow] using hneeds
  · simpa only [hflow] using hneeds

/-- Without rejections, the selected paths carry the actions the policies ask for. -/
theorem selections_perm_requiredActions
    (h : p.addFlows application (p.newGeneration application) requirements = some (g, []))
    (id : String) :
    ((p.selections application requirements).flatMap fun s =>
        if s.1 = id then s.2.flatMap ResolvedEdge.actions else []).Perm
      (p.requiredActions application requirements id) := by
  obtain ⟨-, hrejections, hpanic⟩ := addFlows_eq_some h
  have hok : ∀ item ∈ requirements, ∃ info, p.generateFlow application item = .ok info := by
    intro item hitem
    cases hflow : p.generateFlow application item with
    | ok info => exact ⟨info, rfl⟩
    | error abort =>
      cases abort with
      | panic => exact absurd hflow (hpanic item hitem)
      | failed provisioned err =>
        have hmem : (item.context.dataSetID, err) ∈ p.rejections application requirements :=
          mem_rejections.2 ⟨item, hitem, rfl, provisioned, hflow⟩
        rw [← hrejections] at hmem
        cases hmem
  clear hrejections hpanic h
  induction requirements with
  | nil => exact .nil
  | cons item requirements ih =>
    obtain ⟨info, hinfo⟩ := hok item List.mem_cons_self
    obtain ⟨path, hpath, -⟩ := generateFlow_eq_ok hinfo
    rw [selections, List.filterMap_cons, requiredActions, List.flatMap_cons]
    simp only [hinfo, hpath, Option.map_some, Option.getD_some, List.flatMap_cons]
    refine List.Perm.append ?_ (ih fun item hitem => hok item (List.mem_cons_of_mem _ hitem))
    split
    · exact selectPath_actions_perm hpath
    · exact .nil

end Generated

/-- The blueprints of a generated plotter apply no action that the policies did not
ask for, and no action more often; and they apply each as often as the policies ask
for it exactly if the plotter keeps the actions. -/
theorem addFlows_enforces_iff (p : PlotterGenerator) (application : FybrikApplication)
    (requirements : List DataInfo) (g : Generation)
    (h : p.addFlows application (p.newGeneration application) requirements = some (g, []))
    (clusters : List Cluster) (blueprints : GoMap String BlueprintSpec)
    (hb : getBlueprintsMap p.sha512 clusters (plotterOf application g.plotterSpec)
      = some blueprints) :
    (∀ id, (appliedActions blueprints id).Subperm
      (p.requiredActions application requirements id)) ∧
    (p.Enforces application requirements blueprints ↔
      KeepsActions p.sha512 (plotterOf application g.plotterSpec)) := by
  obtain ⟨hsub, hiff⟩ := appliedActions_iff
    (fun u hu hplugin => hasParameters_generated h hb hu hplugin) hb
  have hrequired : ∀ id, ((moduleUses (plotterOf application g.plotterSpec)).flatMap
      (ModuleUse.actionsFor id)).Perm (p.requiredActions application requirements id) := by
    intro id
    rw [actionsFor_moduleUses h]
    exact selections_perm_requiredActions h id
  refine ⟨fun id => (hsub id).trans (hrequired id).subperm, ?_⟩
  rw [← hiff]
  constructor
  · intro henforces id
    exact (henforces id).trans (hrequired id).symm
  · intro happlied id
    exact (happlied id).trans (hrequired id)

/-- The modules that copy and serve tables, able to redact, to encrypt and to filter
them.  What is written has to be encrypted. -/
def guardedGenerator : PlotterGenerator :=
  { copyGenerator with
    modules := GoMap.ofList
      [("mover", ⟨"mover", ⟨"service", [⟨"copy", .asset,
          [⟨some ⟨"db2", "table"⟩, some ⟨"s3", "parquet"⟩⟩], none, [⟨"redact"⟩, ⟨"encrypt"⟩]⟩],
          default⟩⟩),
       ("server", ⟨"server", ⟨"service", [⟨"read", .asset,
          [⟨some ⟨"s3", "parquet"⟩, none⟩], some ⟨⟨"arrow-flight", GoMap.ofList [("arrow-flight",
            .obj [])]⟩, "arrow"⟩, [⟨"filter"⟩]⟩], default⟩⟩)]
    policyManager := ⟨fun _ _ => .ok ⟨"1", [⟨"protect at rest", ⟨"encrypt", ∅⟩⟩]⟩⟩ }

/-- A table of which some columns are redacted and some rows are left out. -/
def guardedItem : DataInfo :=
  { arrowItem "xxx" ⟨"db2", "table"⟩ with actions := [⟨"filter", ∅⟩, ⟨"redact", ∅⟩] }

/-- The server filters the copy, which is encrypted and redacted. -/
theorem guarded_enforces : ∃ g blueprints,
    guardedGenerator.addFlows notebookApplication
      (guardedGenerator.newGeneration notebookApplication) [guardedItem] = some (g, []) ∧
    getBlueprintsMap guardedGenerator.sha512 guardedGenerator.clusters
      (plotterOf notebookApplication g.plotterSpec) = some blueprints ∧
    guardedGenerator.Enforces notebookApplication [guardedItem] blueprints ∧
    (appliedActions blueprints "xxx").map Action.name = ["filter", "encrypt", "redact"] := by
  refine ⟨_, _, rfl, rfl, ?_, by decide +kernel⟩
  refine (addFlows_enforces_iff guardedGenerator notebookApplication [guardedItem] _ rfl
    guardedGenerator.clusters _ rfl).2.2 ⟨?_, ?_, ?_, ?_⟩
  all_goals decide +kernel

end PlotterGenerator

end Fybrik
