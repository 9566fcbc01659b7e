import Fybrik.Lib.Loops
import Fybrik.Plotter.Blueprints
import Mathlib.Algebra.Order.Group.Multiset
import Mathlib.Tactic.Abel

/-!
# What the translation to blueprints keeps and what it loses

A plotter asks for one argument entry for each use of a module that is not a
plugin: what to read, to write or to copy.  The blueprints contain the arguments
of the module instances.

* `expectedEntries` — the entries a plotter asks for, each with the cluster and
  the module it belongs to.
* `argumentEntries` — the entries found in the blueprints.
* `generateBlueprints_lossless_iff` — which lists of instances are translated
  without a loss: the instances that are overwritten under their name have no
  arguments, and no copy is unified with an earlier instance.
* `getBlueprintsMap_lossless_iff` — the same for plotters.
-/

namespace Fybrik

/-! ## Argument entries -/

/-- An entry of the arguments of a module. -/
inductive ArgumentEntry where
  | read (args : ReadModuleArgs)
  | write (args : WriteModuleArgs)
  | copy (args : CopyModuleArgs)
  deriving DecidableEq

/-- The entries of the arguments of a module instance. -/
def ModuleArguments.entries (a : ModuleArguments) : List ArgumentEntry :=
  a.copy.toList.map .copy ++ a.read.map .read ++ a.write.map .write

/-- An entry with the cluster and the module it belongs to. -/
structure LocatedEntry where
  cluster : String
  moduleName : String
  entry : ArgumentEntry
  deriving DecidableEq

/-- The entries of an instance in the blueprint of a cluster. -/
def BlueprintModule.located (cluster : String) (m : BlueprintModule) : List LocatedEntry :=
  m.arguments.entries.map fun e => ⟨cluster, m.name, e⟩

/-- The entries found in some blueprints. -/
def argumentEntries (blueprints : GoMap String BlueprintSpec) : List LocatedEntry :=
  blueprints.pairs.flatMap fun cb => cb.2.modules.pairs.flatMap fun nm => nm.2.located cb.1

variable (clusters : List Cluster) (plotter : Plotter) (u : ModuleUse)

/-- The entry a use of a module asks for: the data stores, the actions and the
asset of the step. -/
def ModuleUse.expectedEntry : Option ArgumentEntry :=
  match u.step.parameters with
  | none => none
  | some params =>
    let authPath := clusterAuthPath clusters u.step.cluster
    match u.subFlow.flowType with
    | .readFlow => (sourceStore plotter authPath params).map fun source =>
        .read ⟨source, u.flow.assetID, params.actions⟩
    | .writeFlow => (sinkStore plotter authPath params).map fun destination =>
        .write ⟨destination, u.flow.assetID, params.actions⟩
    | .copyFlow => (sourceStore plotter authPath params).bind fun source =>
        (sinkStore plotter authPath params).map fun destination =>
          .copy ⟨source, destination, u.flow.assetID, params.actions⟩
    | .deleteFlow => none

/-- The entry a use of a module is given: plugins get none. -/
def ModuleUse.givenEntry : Option ArgumentEntry :=
  if u.isPlugin then none else u.expectedEntry clusters plotter

/-- The arguments of an instance with at most one entry. -/
def argumentsOf : Option ArgumentEntry → ModuleArguments
  | none => commonArguments plotter
  | some (.read args) => { commonArguments plotter with read := [args] }
  | some (.write args) => { commonArguments plotter with write := [args] }
  | some (.copy args) => { commonArguments plotter with copy := some args }

@[simp] theorem entries_argumentsOf (e : Option ArgumentEntry) :
    (argumentsOf plotter e).entries = e.toList := by
  match e with
  | none => rfl
  | some (.read args) => rfl
  | some (.write args) => rfl
  | some (.copy args) => rfl

/-- The entries a plotter asks for, if every use of a module asks for one. -/
def expectedEntries : Option (List LocatedEntry) :=
  ((moduleUses plotter).filter fun u => !u.isPlugin).mapM fun u =>
    (u.expectedEntry clusters plotter).map fun e => ⟨u.step.cluster, u.module.name, e⟩

/-- The blueprints contain exactly the entries the plotter asks for. -/
def Lossless (sha : Sha512) (clusters : List Cluster) (plotter : Plotter) : Prop :=
  ∃ blueprints entries, getBlueprintsMap sha clusters plotter = some blueprints ∧
    expectedEntries clusters plotter = some entries ∧ (argumentEntries blueprints).Perm entries

/-! ## The instances of a cluster -/

/-- The entries of an instance. -/
def ModuleInstanceSpec.located (i : ModuleInstanceSpec) : List LocatedEntry :=
  i.blueprintModule.located i.clusterName

/-- What is lost of an instance that is unified with an earlier one. -/
def ModuleInstanceSpec.droppedCopy (i : ModuleInstanceSpec) : List LocatedEntry :=
  i.args.copy.toList.map fun c => ⟨i.clusterName, i.moduleName, .copy c⟩

theorem droppedCopy_eq_nil_iff {i : ModuleInstanceSpec} :
    i.droppedCopy = [] ↔ i.args.copy = none := by
  rw [ModuleInstanceSpec.droppedCopy, List.map_eq_nil_iff]
  cases i.args.copy <;> simp

/-- Unifying keeps all entries but the copy of the second instance. -/
theorem located_unify {a b : ModuleInstanceSpec} (hc : a.clusterName = b.clusterName)
    (hm : a.moduleName = b.moduleName) :
    ((a.unify b).located ++ b.droppedCopy).Perm (a.located ++ b.located) := by
  simp only [ModuleInstanceSpec.located, BlueprintModule.located, ModuleArguments.entries,
    ModuleInstanceSpec.unify, ModuleInstanceSpec.blueprintModule, ModuleInstanceSpec.droppedCopy,
    List.map_append, List.map_map, hc, hm, ← Multiset.coe_eq_coe, ← Multiset.coe_add]
  simp only [Function.comp_def]
  abel

/-- Instances of one cluster that are not used per asset unify to such. -/
theorem unifies_unify (c : String) : GoMap.Unifies ModuleInstanceSpec.key ModuleInstanceSpec.unify
    fun i => i.clusterName = c ∧ i.scope ≠ .asset where
  key_combine _ _ _ := rfl
  combine _ _ hb _ := hb

section Cluster

variable {sha : Sha512} {c : String} {instances : List ModuleInstanceSpec}

/-- The instances that are not used per asset, unified. -/
def sharedMap (instances : List ModuleInstanceSpec) : GoMap String ModuleInstanceSpec :=
  GoMap.unifyBy ModuleInstanceSpec.key ModuleInstanceSpec.unify
    (instances.filter fun i => i.scope ≠ .asset)

theorem sharedMap_holds (hc : ∀ i ∈ instances, i.clusterName = c) :
    GoMap.Holds ModuleInstanceSpec.key (fun i => i.clusterName = c ∧ i.scope ≠ .asset)
      (sharedMap instances) := by
  refine (unifies_unify c).unifyBy _ fun i hi => ?_
  obtain ⟨hmem, hscope⟩ := List.mem_filter.1 hi
  exact ⟨hc i hmem, of_decide_eq_true hscope⟩

theorem clusterName_of_mem_refineInstances (hc : ∀ i ∈ instances, i.clusterName = c)
    {i : ModuleInstanceSpec} (hi : i ∈ refineInstances instances) : i.clusterName = c := by
  rw [refineInstances_eq, List.mem_append] at hi
  rcases hi with hi | hi
  · exact hc i (List.mem_of_mem_filter hi)
  · obtain ⟨⟨k, i⟩, hki, rfl⟩ := List.mem_map.1 hi
    exact (sharedMap_holds hc k i (GoMap.mem_pairs.1 hki)).2.1

/-- What is lost in a cluster: the entries of the instances that are overwritten
by another one of the same name, and the copies that are unified with an earlier
instance. -/
def lostEntries (sha : Sha512) (c : String) (instances : List ModuleInstanceSpec) :
    List LocatedEntry :=
  (GoMap.overwritten ((refineInstances instances).map fun i =>
    (i.instanceName sha, i.blueprintModule))).flatMap (fun nm => nm.2.located c) ++
  (GoMap.repeated ModuleInstanceSpec.key []
    (instances.filter fun i => i.scope ≠ .asset)).flatMap ModuleInstanceSpec.droppedCopy

/-- The blueprint of a cluster and what was lost make up the entries of its
instances. -/
theorem generateBlueprint_entries_perm (hc : ∀ i ∈ instances, i.clusterName = c)
    (plotter : Plotter) :
    ((generateBlueprint sha (refineInstances instances) c plotter).modules.pairs.flatMap
      (fun nm => nm.2.located c) ++ lostEntries sha c instances).Perm
      (instances.flatMap ModuleInstanceSpec.located) := by
  -- the map of instances, and what was overwritten in it
  have hmap := ((GoMap.ofList_pairs_perm ((refineInstances instances).map fun i =>
    (i.instanceName sha, i.blueprintModule))).append_right _).trans
    (GoMap.survivors_overwritten_perm _)
  have hnamed := hmap.flatMap_right fun nm => nm.2.located c
  rw [List.flatMap_append, List.flatMap_map] at hnamed
  have hrefined : (refineInstances instances).flatMap (fun i => i.blueprintModule.located c)
      = (instances.filter fun i => i.scope = .asset).flatMap ModuleInstanceSpec.located ++
        (sharedMap instances).pairs.flatMap fun kb => kb.2.located := by
    have hlocated : (refineInstances instances).flatMap (fun i => i.blueprintModule.located c)
        = (refineInstances instances).flatMap ModuleInstanceSpec.located := by
      refine List.flatMap_congr fun i hi => ?_
      rw [ModuleInstanceSpec.located, clusterName_of_mem_refineInstances hc hi]
    rw [hlocated, refineInstances_eq, List.flatMap_append, List.flatMap_map]
    rfl
  rw [hrefined] at hnamed
  -- the unification
  have hunified := (unifies_unify c).perm ModuleInstanceSpec.located
    ModuleInstanceSpec.droppedCopy
    (fun b a hkey hb ha => located_unify (hb.1.trans ha.1.symm)
      ((key_eq_iff (hb.1.trans ha.1.symm)).1 hkey))
    (instances.filter fun i => i.scope ≠ .asset) (fun i hi =>
      ⟨hc i (List.mem_of_mem_filter hi), of_decide_eq_true (List.mem_filter.1 hi).2⟩)
  have hsplit := (List.filter_append_perm (fun i : ModuleInstanceSpec => decide (i.scope = .asset))
    instances).flatMap_right ModuleInstanceSpec.located
  rw [List.flatMap_append] at hsplit
  simp only [← decide_not, ← ne_eq] at hsplit
  have hrest := (hunified.append_left _).trans hsplit
  rw [lostEntries, ← List.append_assoc]
  refine (hnamed.append_right _).trans ?_
  rw [List.append_assoc]
  exact hrest

/-- When nothing is lost in a cluster. -/
structure KeptInCluster (sha : Sha512) (instances : List ModuleInstanceSpec) : Prop where
  /-- No instance with arguments is followed by another one of the same name. -/
  assets : instances.Pairwise fun a b => a.scope = .asset → b.scope = .asset →
    a.instanceName sha = b.instanceName sha → a.args.entries = []
  /-- No instance with arguments is named like a module that is not used per asset. -/
  shared : ∀ a ∈ instances, ∀ b ∈ instances, a.scope = .asset → b.scope ≠ .asset →
    a.instanceName sha = b.moduleName → a.args.entries = []
  /-- No instance with a copy is unified with an earlier one. -/
  copies : instances.Pairwise fun a b => a.scope ≠ .asset → b.scope ≠ .asset →
    a.moduleName = b.moduleName → b.args.copy = none

theorem instanceName_of_shared {i : ModuleInstanceSpec} (h : i.scope ≠ .asset) :
    i.instanceName sha = i.moduleName := if_neg h

/-- The names of the unified instances are the names of the modules that are not
used per asset. -/
theorem exists_mem_sharedMap_iff (sha : Sha512) (hc : ∀ i ∈ instances, i.clusterName = c)
    {name : String} :
    (∃ i ∈ (sharedMap instances).pairs.map Prod.snd, i.instanceName sha = name) ↔
      ∃ b ∈ instances, b.scope ≠ .asset ∧ b.moduleName = name := by
  have hholds := sharedMap_holds hc
  constructor
  · rintro ⟨i, hi, rfl⟩
    obtain ⟨⟨k, i⟩, hki, rfl⟩ := List.mem_map.1 hi
    have hlookup := GoMap.mem_pairs.1 hki
    obtain ⟨hkey, hcluster, hscope⟩ := hholds k i hlookup
    obtain ⟨b, hb, hbk⟩ := (GoMap.isSome_lookup_unifyBy _ k).1
      (Option.isSome_iff_exists.2 ⟨i, hlookup⟩)
    obtain ⟨hmem, hbscope⟩ := List.mem_filter.1 hb
    refine ⟨b, hmem, of_decide_eq_true hbscope, ?_⟩
    rw [instanceName_of_shared hscope]
    exact (key_eq_iff ((hc b hmem).trans hcluster.symm)).1 (hbk.trans hkey.symm)
  · rintro ⟨b, hb, hscope, rfl⟩
    have hsome : ((sharedMap instances).lookup b.key).isSome = true :=
      (GoMap.isSome_lookup_unifyBy _ b.key).2
        ⟨b, List.mem_filter.2 ⟨hb, decide_eq_true hscope⟩, rfl⟩
    obtain ⟨i, hlookup⟩ := Option.isSome_iff_exists.1 hsome
    obtain ⟨hkey, hcluster, hiscope⟩ := hholds b.key i hlookup
    refine ⟨i, List.mem_map.2 ⟨(b.key, i), GoMap.mem_pairs.2 hlookup, rfl⟩, ?_⟩
    rw [instanceName_of_shared hiscope]
    exact (key_eq_iff (hcluster.trans (hc b hb).symm)).1 hkey

/-- The unified instances have different names. -/
theorem pairwise_sharedMap (hc : ∀ i ∈ instances, i.clusterName = c) :
    ((sharedMap instances).pairs.map Prod.snd).Pairwise fun a b =>
      a.instanceName sha ≠ b.instanceName sha := by
  have hholds := sharedMap_holds hc
  rw [List.pairwise_map]
  refine (List.pairwise_map.1 (sharedMap instances).nodup_keys_pairs).imp_of_mem ?_
  rintro ⟨k, a⟩ ⟨k', b⟩ ha hb hne hname
  obtain ⟨hak, hac, hascope⟩ := hholds k a (GoMap.mem_pairs.1 ha)
  obtain ⟨hbk, hbc, hbscope⟩ := hholds k' b (GoMap.mem_pairs.1 hb)
  rw [instanceName_of_shared hascope, instanceName_of_shared hbscope] at hname
  exact hne (hak.symm.trans (((key_eq_iff (hac.trans hbc.symm)).2 hname).trans hbk))

/-- When what is lost in a cluster has no weight. -/
theorem flatMap_lostEntries_eq_nil_iff (sha : Sha512) {β : Type} (w : LocatedEntry → List β)
    (hc : ∀ i ∈ instances, i.clusterName = c) :
    (lostEntries sha c instances).flatMap w = [] ↔
      (instances.Pairwise fun a b => a.scope = .asset → b.scope = .asset →
        a.instanceName sha = b.instanceName sha → a.located.flatMap w = []) ∧
      (∀ a ∈ instances, ∀ b ∈ instances, a.scope = .asset → b.scope ≠ .asset →
        a.instanceName sha = b.moduleName → a.located.flatMap w = []) ∧
      instances.Pairwise fun a b => a.scope ≠ .asset → b.scope ≠ .asset →
        a.moduleName = b.moduleName → b.droppedCopy.flatMap w = [] := by
  have hcopies : (instances.filter fun i => i.scope ≠ .asset).Pairwise (fun a b =>
      a.key = b.key → b.droppedCopy.flatMap w = []) ↔ instances.Pairwise fun a b =>
        a.scope ≠ .asset → b.scope ≠ .asset → a.moduleName = b.moduleName →
          b.droppedCopy.flatMap w = [] := by
    rw [List.pairwise_filter]
    refine List.Pairwise.iff_of_mem fun {a b} ha hb => ?_
    simp only [decide_eq_true_eq, key_eq_iff ((hc a ha).trans (hc b hb).symm)]
  have hlocated : ∀ i ∈ instances, i.blueprintModule.located c = i.located := by
    intro i hi
    rw [ModuleInstanceSpec.located, hc i hi]
  rw [lostEntries, List.flatMap_append, List.append_eq_nil_iff, List.flatMap_assoc,
    List.flatMap_assoc, GoMap.flatMap_overwritten_eq_nil_iff, GoMap.flatMap_repeated_eq_nil_iff,
    hcopies, List.pairwise_map, refineInstances_eq, List.pairwise_append, List.pairwise_filter]
  simp only [decide_eq_true_eq, List.not_mem_nil, false_imp_iff, implies_true, true_and]
  constructor
  · rintro ⟨⟨hassets, -, hcross⟩, hcop⟩
    refine ⟨hassets.imp_of_mem fun {a b} ha _ h => ?_, ?_, hcop⟩
    · rwa [← hlocated a ha]
    · intro a ha b hb hascope hbscope hname
      obtain ⟨i, hi, hiname⟩ := (exists_mem_sharedMap_iff sha hc).2 ⟨b, hb, hbscope, rfl⟩
      rw [← hlocated a ha]
      exact hcross a (List.mem_filter.2 ⟨ha, decide_eq_true hascope⟩) i hi
        (hname.trans hiname.symm)
  · rintro ⟨hassets, hshared, hcop⟩
    refine ⟨⟨hassets.imp_of_mem fun {a b} ha _ h => ?_, ?_, ?_⟩, hcop⟩
    · rwa [hlocated a ha]
    · exact (pairwise_sharedMap hc).imp fun hne heq => absurd heq hne
    · intro a ha i hi hname
      obtain ⟨hmem, hascope⟩ := List.mem_filter.1 ha
      obtain ⟨b, hb, hbscope, hbname⟩ := (exists_mem_sharedMap_iff sha hc).1 ⟨i, hi, rfl⟩
      rw [hlocated a hmem]
      exact hshared a hmem b hb (of_decide_eq_true hascope) hbscope (hname.trans hbname.symm)

theorem lostEntries_eq_nil_iff (hc : ∀ i ∈ instances, i.clusterName = c) :
    lostEntries sha c instances = [] ↔ KeptInCluster sha instances := by
  have hlocated : ∀ i : ModuleInstanceSpec, i.located = [] ↔ i.args.entries = [] := by
    intro i
    rw [ModuleInstanceSpec.located, BlueprintModule.located, List.map_eq_nil_iff]
    rfl
  have h := flatMap_lostEntries_eq_nil_iff sha (fun l => [l]) hc
  simp only [List.flatMap_singleton', hlocated, droppedCopy_eq_nil_iff] at h
  rw [h]
  exact ⟨fun ⟨hassets, hshared, hcopies⟩ => ⟨hassets, hshared, hcopies⟩,
    fun h => ⟨h.assets, h.shared, h.copies⟩⟩

end Cluster

/-! ## All clusters -/

section Instances

variable {sha : Sha512} {instances : List ModuleInstanceSpec}

/-- When nothing is lost in any cluster. -/
structure KeptInstances (sha : Sha512) (instances : List ModuleInstanceSpec) : Prop where
  assets : instances.Pairwise fun a b => a.clusterName = b.clusterName →
    a.scope = .asset → b.scope = .asset → a.instanceName sha = b.instanceName sha →
      a.args.entries = []
  shared : ∀ a ∈ instances, ∀ b ∈ instances, a.clusterName = b.clusterName →
    a.scope = .asset → b.scope ≠ .asset → a.instanceName sha = b.moduleName → a.args.entries = []
  copies : instances.Pairwise fun a b => a.clusterName = b.clusterName →
    a.scope ≠ .asset → b.scope ≠ .asset → a.moduleName = b.moduleName → b.args.copy = none

theorem keptInCluster_filter_iff :
    (∀ c, KeptInCluster sha (instances.filter fun i => i.clusterName = c)) ↔
      KeptInstances sha instances := by
  constructor
  · intro h
    refine ⟨(Loops.forall_pairwise_filter _ _ _).1 fun c => (h c).assets, ?_,
      (Loops.forall_pairwise_filter _ _ _).1 fun c => (h c).copies⟩
    intro a ha b hb hc
    exact (h a.clusterName).shared a (List.mem_filter.2 ⟨ha, by simp⟩) b
      (List.mem_filter.2 ⟨hb, by simp [hc]⟩)
  · intro h c
    refine ⟨(Loops.forall_pairwise_filter _ _ _).2 h.assets c, ?_,
      (Loops.forall_pairwise_filter _ _ _).2 h.copies c⟩
    intro a ha b hb
    obtain ⟨ha, hac⟩ := List.mem_filter.1 ha
    obtain ⟨hb, hbc⟩ := List.mem_filter.1 hb
    exact h.shared a ha b hb ((of_decide_eq_true hac).trans (of_decide_eq_true hbc).symm)

/-- There is one blueprint for each cluster. -/
theorem generateBlueprints_pairs_perm (sha : Sha512) (instances : List ModuleInstanceSpec)
    (plotter : Plotter) :
    (generateBlueprints sha instances plotter).pairs.Perm
      ((GoMap.groupBy ModuleInstanceSpec.clusterName instances).pairs.map fun kl =>
        (kl.1, generateBlueprint sha (refineInstances kl.2) kl.1 plotter)) := by
  apply GoMap.ofList_pairs_perm_of_nodup
  rw [List.map_map]
  exact GoMap.nodup_keys_pairs _

/-- The blueprints and what was lost make up the entries of the instances. -/
theorem generateBlueprints_entries_perm (sha : Sha512) (instances : List ModuleInstanceSpec)
    (plotter : Plotter) :
    (argumentEntries (generateBlueprints sha instances plotter) ++
      (GoMap.groupBy ModuleInstanceSpec.clusterName instances).pairs.flatMap fun kl =>
        lostEntries sha kl.1 kl.2).Perm (instances.flatMap ModuleInstanceSpec.located) := by
  have hblueprints := (generateBlueprints_pairs_perm sha instances plotter).flatMap_right fun cb =>
    cb.2.modules.pairs.flatMap fun nm => nm.2.located cb.1
  rw [List.flatMap_map] at hblueprints
  refine (hblueprints.append_right _).trans ((List.flatMap_append_perm _ _ _).trans ?_)
  have hclusters : ∀ kl ∈ (GoMap.groupBy ModuleInstanceSpec.clusterName instances).pairs,
      ((generateBlueprint sha (refineInstances kl.2) kl.1 plotter).modules.pairs.flatMap
        (fun nm => nm.2.located kl.1) ++ lostEntries sha kl.1 kl.2).Perm
        (kl.2.flatMap ModuleInstanceSpec.located) := by
    rintro ⟨c, l⟩ hcl
    refine generateBlueprint_entries_perm (fun i hi => ?_) plotter
    rw [GoMap.eq_filter_of_mem_groupBy hcl] at hi
    exact of_decide_eq_true (List.mem_filter.1 hi).2
  refine (List.Perm.flatMap_left _ hclusters).trans ?_
  rw [← List.flatMap_assoc]
  exact (GoMap.groupBy_perm _ instances).flatMap_right _

/-- Which lists of instances are translated to blueprints without a loss. -/
theorem generateBlueprints_lossless_iff (sha : Sha512) (instances : List ModuleInstanceSpec)
    (plotter : Plotter) :
    (argumentEntries (generateBlueprints sha instances plotter)).Perm
      (instances.flatMap ModuleInstanceSpec.located) ↔ KeptInstances sha instances := by
  rw [Loops.perm_iff_of_append_perm (generateBlueprints_entries_perm sha instances plotter),
    List.flatMap_eq_nil_iff, ← keptInCluster_filter_iff]
  constructor
  · intro h c
    cases hlookup : (GoMap.groupBy ModuleInstanceSpec.clusterName instances).lookup c with
    | none =>
      rw [← GoMap.get_groupBy, GoMap.get_of_lookup_none hlookup]
      exact ⟨.nil, nofun, .nil⟩
    | some l =>
      have hl := GoMap.eq_filter_of_mem_groupBy (GoMap.mem_pairs.2 hlookup)
      rw [← hl, ← lostEntries_eq_nil_iff (c := c)]
      · exact h (c, l) (GoMap.mem_pairs.2 hlookup)
      · intro i hi
        rw [hl] at hi
        exact of_decide_eq_true (List.mem_filter.1 hi).2
  · rintro h ⟨c, l⟩ hcl
    rw [lostEntries_eq_nil_iff]
    · rw [GoMap.eq_filter_of_mem_groupBy hcl]
      exact h c
    · intro i hi
      rw [GoMap.eq_filter_of_mem_groupBy hcl] at hi
      exact of_decide_eq_true (List.mem_filter.1 hi).2

end Instances

/-! ## Plotters -/

/-- The data source of a step is given, as an asset or as a service. -/
def StepParameters.HasSource (params : StepParameters) : Prop :=
  ∃ source, params.source = some source ∧ (source.assetID ≠ "" ∨ source.api.isSome = true)

/-- A step has the parameters that its flow type asks for. -/
def ModuleUse.HasParameters : Prop :=
  ∃ params, u.step.parameters = some params ∧
    match u.subFlow.flowType with
    | .readFlow => params.HasSource
    | .writeFlow => params.sink.isSome = true
    | .copyFlow => params.HasSource ∧ params.sink.isSome = true
    | .deleteFlow => False

/-- The parameters of a step are those that its flow type asks for, or are not read: the
program does not crash on a use of a module. -/
def ModuleUse.Converts : Prop :=
  u.isPlugin = false → ∀ params, u.step.parameters = some params →
    match u.subFlow.flowType with
    | .readFlow => params.HasSource
    | .writeFlow => params.sink.isSome = true
    | .copyFlow => params.HasSource ∧ params.sink.isSome = true
    | .deleteFlow => True

/-- The name of the instance a module is used by. -/
def ModuleUse.instanceName (sha : Sha512) (u : ModuleUse) : String :=
  if u.module.scope = .asset then createStepName sha u.module.name u.flow.assetID
  else u.module.name

/-- When the translation loses nothing. -/
structure NothingLost (sha : Sha512) (plotter : Plotter) : Prop where
  /-- Every step of a module that is not a plugin reads, writes or copies, and has
  the parameters for that. -/
  parameters : ∀ u ∈ moduleUses plotter, u.isPlugin = false → u.HasParameters
  /-- Of two uses of modules per asset in one cluster that share an instance name,
  the first is one of a plugin. -/
  assets : (moduleUses plotter).Pairwise fun u v => u.step.cluster = v.step.cluster →
    u.module.scope = .asset → v.module.scope = .asset →
      u.instanceName sha = v.instanceName sha → u.isPlugin = true
  /-- Only plugins have instances per asset with the name of a module that is not
  used per asset in the same cluster. -/
  shared : ∀ u ∈ moduleUses plotter, ∀ v ∈ moduleUses plotter,
    u.step.cluster = v.step.cluster → u.module.scope = .asset → v.module.scope ≠ .asset →
      u.instanceName sha = v.module.name → u.isPlugin = true
  /-- Of two uses of one module in one cluster that are not per asset, the second
  does not copy, or is one of a plugin. -/
  copies : (moduleUses plotter).Pairwise fun u v => u.step.cluster = v.step.cluster →
    u.module.scope ≠ .asset → v.module.scope ≠ .asset → u.module.name = v.module.name →
      v.isPlugin = true ∨ v.subFlow.flowType ≠ .copyFlow

section Plotter

variable {sha : Sha512} {clusters : List Cluster} {plotter : Plotter}

theorem isSome_sourceStore (plotter : Plotter) (authPath : String) (params : StepParameters) :
    (sourceStore plotter authPath params).isSome = true ↔ params.HasSource := by
  unfold sourceStore StepParameters.HasSource
  cases params.source with
  | none => simp
  | some source =>
    by_cases hid : source.assetID = ""
    · simp [hid]
    · simp [hid]

theorem isSome_expectedEntry (clusters : List Cluster) (plotter : Plotter) (u : ModuleUse) :
    (u.expectedEntry clusters plotter).isSome = true ↔ u.HasParameters := by
  unfold ModuleUse.expectedEntry ModuleUse.HasParameters
  cases u.step.parameters with
  | none => simp
  | some params =>
    have hsource := isSome_sourceStore plotter (clusterAuthPath clusters u.step.cluster) params
    cases u.subFlow.flowType with
    | readFlow => simp [hsource]
    | writeFlow => simp [sinkStore]
    | copyFlow =>
      simp only [Option.some.injEq, exists_eq_left', ← hsource]
      cases sourceStore plotter (clusterAuthPath clusters u.step.cluster) params with
      | none => simp
      | some source => simp [sinkStore]
    | deleteFlow => simp

variable {u : ModuleUse}

/-- What the `switch` over the flow type does: it crashes, or fills in the entry that a use
of a module is given. -/
theorem instanceArguments_eq_some_iff {args : ModuleArguments} :
    instanceArguments plotter (u.plotterModule clusters) = some args ↔
      u.Converts ∧ argumentsOf plotter (u.givenEntry clusters plotter) = args := by
  unfold instanceArguments ModuleUse.Converts ModuleUse.givenEntry ModuleUse.expectedEntry
  simp only [ModuleUse.plotterModule]
  cases u.isPlugin with
  | true => simp [argumentsOf]
  | false =>
    cases u.step.parameters with
    | none => simp [argumentsOf]
    | some params =>
      have hsource := isSome_sourceStore plotter (clusterAuthPath clusters u.step.cluster) params
      have hsink : (sinkStore plotter (clusterAuthPath clusters u.step.cluster) params).isSome
          = params.sink.isSome := by
        simp [sinkStore]
      simp only [Option.some.injEq, forall_eq', forall_const]
      cases u.subFlow.flowType with
      | readFlow =>
        rw [← hsource]
        cases hs : sourceStore plotter (clusterAuthPath clusters u.step.cluster) params <;>
          simp [hs, argumentsOf]
      | writeFlow =>
        rw [← hsink]
        cases hd : sinkStore plotter (clusterAuthPath clusters u.step.cluster) params <;>
          simp [hd, argumentsOf]
      | copyFlow =>
        rw [← hsource, ← hsink]
        cases hs : sourceStore plotter (clusterAuthPath clusters u.step.cluster) params <;>
          cases hd : sinkStore plotter (clusterAuthPath clusters u.step.cluster) params <;>
            simp [hs, hd, argumentsOf]
      | deleteFlow => simp [argumentsOf]

theorem isSome_convert_iff (clusters : List Cluster) (plotter : Plotter) (u : ModuleUse) :
    (convertPlotterModuleToBlueprintModule plotter (u.plotterModule clusters)).isSome = true ↔
      u.Converts := by
  rw [convertPlotterModuleToBlueprintModule, Option.isSome_map, Option.isSome_iff_exists]
  simp only [instanceArguments_eq_some_iff]
  constructor
  · rintro ⟨-, h, -⟩
    exact h
  · intro h
    exact ⟨_, h, rfl⟩

theorem converts_of_hasParameters (h : u.isPlugin = false → u.HasParameters) : u.Converts := by
  intro hplugin params hparams
  obtain ⟨params', hparams', hmatch⟩ := h hplugin
  obtain rfl := Option.some.inj (hparams.symm.trans hparams')
  cases hflow : u.subFlow.flowType <;> simp [hflow] at hmatch ⊢ <;> exact hmatch

/-- The instance that a use of a module is converted to. -/
structure InstanceOf (clusters : List Cluster) (plotter : Plotter) (u : ModuleUse)
    (i : ModuleInstanceSpec) : Prop where
  parameters : u.isPlugin = false → u.HasParameters
  clusterName : i.clusterName = u.step.cluster
  moduleName : i.moduleName = u.module.name
  scope : i.scope = u.module.scope
  assetIDs : i.assetIDs = [u.flow.assetID]
  entries : i.args.entries =
    if u.isPlugin then [] else (u.expectedEntry clusters plotter).toList
  copy : i.args.copy = none ↔ u.isPlugin = true ∨ u.subFlow.flowType ≠ .copyFlow

/-- The entry a use of a module asks for, by its flow type. -/
theorem expectedEntry_cases {e : ArgumentEntry} (h : u.expectedEntry clusters plotter = some e) :
    ∃ params, u.step.parameters = some params ∧
      ((u.subFlow.flowType = .readFlow ∧ ∃ source,
          sourceStore plotter (clusterAuthPath clusters u.step.cluster) params = some source ∧
          e = .read ⟨source, u.flow.assetID, params.actions⟩) ∨
        (u.subFlow.flowType = .writeFlow ∧ ∃ destination,
          sinkStore plotter (clusterAuthPath clusters u.step.cluster) params = some destination ∧
          e = .write ⟨destination, u.flow.assetID, params.actions⟩) ∨
        (u.subFlow.flowType = .copyFlow ∧ ∃ source destination,
          sourceStore plotter (clusterAuthPath clusters u.step.cluster) params = some source ∧
          sinkStore plotter (clusterAuthPath clusters u.step.cluster) params = some destination ∧
          e = .copy ⟨source, destination, u.flow.assetID, params.actions⟩)) := by
  unfold ModuleUse.expectedEntry at h
  cases hparams : u.step.parameters with
  | none => rw [hparams] at h; cases h
  | some params =>
    rw [hparams] at h
    refine ⟨params, rfl, ?_⟩
    cases hflow : u.subFlow.flowType with
    | readFlow =>
      simp only [hflow] at h
      obtain ⟨source, hsource, rfl⟩ := Option.map_eq_some_iff.1 h
      exact Or.inl ⟨rfl, source, hsource, rfl⟩
    | writeFlow =>
      simp only [hflow] at h
      obtain ⟨destination, hsink, rfl⟩ := Option.map_eq_some_iff.1 h
      exact Or.inr (Or.inl ⟨rfl, destination, hsink, rfl⟩)
    | copyFlow =>
      simp only [hflow] at h
      obtain ⟨source, hsource, h⟩ := Option.bind_eq_some_iff.1 h
      obtain ⟨destination, hsink, rfl⟩ := Option.map_eq_some_iff.1 h
      exact Or.inr (Or.inr ⟨rfl, source, destination, hsource, hsink, rfl⟩)
    | deleteFlow => simp [hflow] at h

theorem copy_of_expectedEntry {e : ArgumentEntry} (h : u.expectedEntry clusters plotter = some e) :
    (argumentsOf plotter (some e)).copy = none ↔ u.subFlow.flowType ≠ .copyFlow := by
  obtain ⟨params, -, ⟨hflow, source, -, rfl⟩ | ⟨hflow, destination, -, rfl⟩ |
    ⟨hflow, source, destination, -, -, rfl⟩⟩ := expectedEntry_cases h
  · simp [hflow, argumentsOf, commonArguments]
  · simp [hflow, argumentsOf, commonArguments]
  · simp [hflow, argumentsOf]

/-- A use of a plugin, or of a module that gets its parameters, is converted. -/
theorem exists_instanceOf (clusters : List Cluster) (plotter : Plotter)
    (h : u.isPlugin = false → u.HasParameters) :
    ∃ i, convertPlotterModuleToBlueprintModule plotter (u.plotterModule clusters) = some i ∧
      InstanceOf clusters plotter u i := by
  have hargs : instanceArguments plotter (u.plotterModule clusters)
      = some (argumentsOf plotter (u.givenEntry clusters plotter)) :=
    instanceArguments_eq_some_iff.2 ⟨converts_of_hasParameters h, rfl⟩
  rw [convertPlotterModuleToBlueprintModule, hargs]
  refine ⟨_, rfl, h, rfl, rfl, rfl, rfl, ?_, ?_⟩
  · rw [entries_argumentsOf, ModuleUse.givenEntry]
    cases u.isPlugin <;> rfl
  · unfold ModuleUse.givenEntry
    cases hplugin : u.isPlugin with
    | true => simp [argumentsOf, commonArguments]
    | false =>
      obtain ⟨e, he⟩ := Option.isSome_iff_exists.1
        ((isSome_expectedEntry clusters plotter u).2 (h hplugin))
      simp [he, copy_of_expectedEntry he]

variable {i : ModuleInstanceSpec}

theorem InstanceOf.located (h : InstanceOf clusters plotter u i) :
    i.located = if u.isPlugin then [] else
      ((u.expectedEntry clusters plotter).map fun e =>
        ⟨u.step.cluster, u.module.name, e⟩).toList := by
  rw [ModuleInstanceSpec.located, BlueprintModule.located, h.clusterName]
  simp only [ModuleInstanceSpec.blueprintModule, h.moduleName, h.entries]
  cases u.isPlugin with
  | true => rfl
  | false => cases u.expectedEntry clusters plotter <;> rfl

theorem InstanceOf.instanceName (sha : Sha512) (h : InstanceOf clusters plotter u i) :
    i.instanceName sha = u.instanceName sha := by
  obtain ⟨chart, args, assetIDs, clusterName, moduleName, scope, hne⟩ := i
  obtain ⟨-, rfl, rfl, rfl, rfl, -, -⟩ := h
  rfl

/-- An instance has no entries if and only if it is one of a plugin. -/
theorem InstanceOf.entries_eq_nil_iff (h : InstanceOf clusters plotter u i) :
    i.args.entries = [] ↔ u.isPlugin = true := by
  rw [h.entries]
  by_cases hplugin : u.isPlugin = true
  · simp [hplugin]
  · rw [if_neg hplugin, Option.toList_eq_nil_iff, ← Option.not_isSome_iff_eq_none,
      isSome_expectedEntry clusters plotter u]
    exact iff_of_false (not_not_intro (h.parameters (Bool.not_eq_true _ ▸ hplugin))) hplugin

/-- All uses of modules are converted, and the entries of the instances are those
that the plotter asks for. -/
theorem exists_instances (clusters : List Cluster) (plotter : Plotter) {uses : List ModuleUse}
    (h : ∀ u ∈ uses, u.isPlugin = false → u.HasParameters) :
    ∃ instances, List.Forall₂ (InstanceOf clusters plotter) uses instances ∧
      uses.mapM (fun u =>
        convertPlotterModuleToBlueprintModule plotter (u.plotterModule clusters))
          = some instances ∧
      (uses.filter fun u => !u.isPlugin).mapM (fun u =>
        (u.expectedEntry clusters plotter).map fun e =>
          (⟨u.step.cluster, u.module.name, e⟩ : LocatedEntry))
          = some (instances.flatMap ModuleInstanceSpec.located) := by
  induction uses with
  | nil => exact ⟨[], .nil, rfl, rfl⟩
  | cons u uses ih =>
    obtain ⟨instances, hof, hconvert, hentries⟩ := ih fun v hv => h v (List.mem_cons_of_mem _ hv)
    obtain ⟨i, hi, hiof⟩ := exists_instanceOf clusters plotter
      (h u List.mem_cons_self)
    refine ⟨i :: instances, .cons hiof hof, ?_, ?_⟩
    · simp [List.mapM_cons, hi, hconvert]
    · rw [List.flatMap_cons, hiof.located]
      by_cases hplugin : u.isPlugin = true
      · rw [List.filter_cons_of_neg (by simp [hplugin]), hentries, if_pos hplugin, List.nil_append]
      · rw [Bool.not_eq_true] at hplugin
        obtain ⟨e, he⟩ := Option.isSome_iff_exists.1
          ((isSome_expectedEntry clusters plotter u).2 (h u List.mem_cons_self hplugin))
        rw [List.filter_cons_of_pos (by simp [hplugin]), List.mapM_cons, hentries, he, hplugin]
        rfl

/-- The instances are kept if and only if nothing of their uses is lost. -/
theorem keptInstances_iff {instances : List ModuleInstanceSpec}
    (hof : List.Forall₂ (InstanceOf clusters plotter) (moduleUses plotter) instances)
    (hparams : ∀ u ∈ moduleUses plotter, u.isPlugin = false → u.HasParameters) :
    KeptInstances sha instances ↔ NothingLost sha plotter := by
  have hassets : ∀ u v a b, InstanceOf clusters plotter u a → InstanceOf clusters plotter v b →
      ((u.step.cluster = v.step.cluster → u.module.scope = .asset → v.module.scope = .asset →
        u.instanceName sha = v.instanceName sha → u.isPlugin = true) ↔
      (a.clusterName = b.clusterName → a.scope = .asset → b.scope = .asset →
        a.instanceName sha = b.instanceName sha → a.args.entries = [])) := by
    intro u v a b hu hv
    rw [hu.clusterName, hv.clusterName, hu.scope, hv.scope, hu.instanceName, hv.instanceName,
      hu.entries_eq_nil_iff]
  have hshared : ∀ u v a b, InstanceOf clusters plotter u a → InstanceOf clusters plotter v b →
      ((u.step.cluster = v.step.cluster → u.module.scope = .asset → v.module.scope ≠ .asset →
        u.instanceName sha = v.module.name → u.isPlugin = true) ↔
      (a.clusterName = b.clusterName → a.scope = .asset → b.scope ≠ .asset →
        a.instanceName sha = b.moduleName → a.args.entries = [])) := by
    intro u v a b hu hv
    rw [hu.clusterName, hv.clusterName, hu.scope, hv.scope, hu.instanceName, hv.moduleName,
      hu.entries_eq_nil_iff]
  have hcopies : ∀ u v a b, InstanceOf clusters plotter u a → InstanceOf clusters plotter v b →
      ((u.step.cluster = v.step.cluster → u.module.scope ≠ .asset → v.module.scope ≠ .asset →
        u.module.name = v.module.name → v.isPlugin = true ∨ v.subFlow.flowType ≠ .copyFlow) ↔
      (a.clusterName = b.clusterName → a.scope ≠ .asset → b.scope ≠ .asset →
        a.moduleName = b.moduleName → b.args.copy = none)) := by
    intro u v a b hu hv
    rw [hu.clusterName, hv.clusterName, hu.scope, hv.scope, hu.moduleName, hv.moduleName, hv.copy]
  have hforall := Loops.forall_mem_iff_of_forall₂ hof fun u a hu =>
    Loops.forall_mem_iff_of_forall₂ hof fun v b hv => hshared u v a b hu hv
  constructor
  · intro h
    exact ⟨hparams, (Loops.pairwise_iff_of_forall₂ hof hassets).2 h.assets, hforall.2 h.shared,
      (Loops.pairwise_iff_of_forall₂ hof hcopies).2 h.copies⟩
  · intro h
    exact ⟨(Loops.pairwise_iff_of_forall₂ hof hassets).1 h.assets, hforall.1 h.shared,
      (Loops.pairwise_iff_of_forall₂ hof hcopies).1 h.copies⟩

/-- A plotter asks for a list of entries only if the modules get their parameters. -/
theorem hasParameters_of_expectedEntries {entries : List LocatedEntry}
    (h : expectedEntries clusters plotter = some entries) (hu : u ∈ moduleUses plotter)
    (hplugin : u.isPlugin = false) : u.HasParameters := by
  have hmem : u ∈ (moduleUses plotter).filter fun u => !u.isPlugin :=
    List.mem_filter.2 ⟨hu, by simp [hplugin]⟩
  obtain ⟨located, -, hlocated⟩ := Loops.exists_of_mapM_eq_some h hmem
  obtain ⟨e, he, -⟩ := Option.map_eq_some_iff.1 hlocated
  exact (isSome_expectedEntry clusters plotter u).1 (Option.isSome_iff_exists.2 ⟨e, he⟩)

end Plotter

/-- The translation loses and adds nothing if and only if the modules of every step
get their parameters, and no instance with arguments is overwritten. -/
theorem getBlueprintsMap_lossless_iff (sha : Sha512) (clusters : List Cluster)
    (plotter : Plotter) : Lossless sha clusters plotter ↔ NothingLost sha plotter := by
  have hlossless : ∀ hparams : ∀ u ∈ moduleUses plotter, u.isPlugin = false → u.HasParameters,
      Lossless sha clusters plotter ↔ NothingLost sha plotter := by
    intro hparams
    obtain ⟨instances, hof, hconvert, hentries⟩ := exists_instances clusters plotter hparams
    rw [← keptInstances_iff hof hparams, ← generateBlueprints_lossless_iff sha instances plotter]
    unfold Lossless getBlueprintsMap expectedEntries
    rw [hconvert, hentries]
    simp
  constructor
  · intro h
    refine (hlossless fun u hu hplugin => ?_).1 h
    obtain ⟨-, entries, -, hentries, -⟩ := h
    exact hasParameters_of_expectedEntries hentries hu hplugin
  · intro h
    exact (hlossless h.parameters).2 h

/-! ## An instance that is overwritten -/

/-- Every step of the flows refers to a template and has parameters. -/
def StepsResolved : Prop :=
  ∀ flow ∈ plotter.spec.flows, ∀ subFlow ∈ flow.subFlows, ∀ subFlowStep ∈ subFlow.steps,
    ∀ seqStep ∈ subFlowStep, (plotter.spec.templates.lookup seqStep.template).isSome = true ∧
      seqStep.parameters.isSome = true

instance (plotter : Plotter) : Decidable (StepsResolved plotter) :=
  inferInstanceAs (Decidable (∀ flow ∈ plotter.spec.flows, ∀ subFlow ∈ flow.subFlows,
    ∀ subFlowStep ∈ subFlow.steps, ∀ seqStep ∈ subFlowStep,
      (plotter.spec.templates.lookup seqStep.template).isSome = true ∧
        seqStep.parameters.isSome = true))

/-- A module that copies and serves data, one instance per asset. -/
def shuttleTemplate (name : String) : Template :=
  { name := name
    modules := [{ name := "shuttle", type := "service", chart := default, scope := .asset }] }

/-- The module copies an asset and then serves the copy, in one cluster. -/
def shuttlePlotter : Plotter :=
  { (default : Plotter) with
    spec :=
      { selector := default
        assets := GoMap.ofList [("xxx", default), ("xxx-copy", default)]
        modulesNamespace := "fybrik-blueprints"
        templates := GoMap.ofList
          [("copy", shuttleTemplate "copy"), ("read", shuttleTemplate "read")]
        flows :=
          [{ name := "xxx-read"
             flowType := .readFlow
             assetID := "xxx"
             subFlows :=
               [{ name := "copy"
                  flowType := .copyFlow
                  triggers := [.initTrigger]
                  steps := [[{ name := "copy", cluster := "thegreendragon", template := "copy"
                               parameters := some
                                 { source := some ⟨"xxx", none⟩, sink := some ⟨"xxx-copy"⟩
                                   api := none, actions := [] } }]] },
                { name := "read"
                  flowType := .readFlow
                  triggers := [.workloadTrigger]
                  steps := [[{ name := "read", cluster := "thegreendragon", template := "read"
                               parameters := some
                                 { source := some ⟨"xxx-copy", none⟩, sink := none
                                   api := none, actions := [] } }]] }] }] } }

/-- The instance that serves the data overwrites the one that copies it. -/
theorem getBlueprintsMap_shuttle_not_lossless :
    StepsResolved shuttlePlotter ∧ ¬ Lossless sampleSha512 [] shuttlePlotter := by
  refine ⟨by decide +kernel, ?_⟩
  rintro ⟨blueprints, entries, hblueprints, hentries, hperm⟩
  have hkept : (getBlueprintsMap sampleSha512 [] shuttlePlotter).map
      (fun b => (argumentEntries b).length) = some 1 := by decide +kernel
  have hasked : (expectedEntries [] shuttlePlotter).map List.length = some 2 := by
    decide +kernel
  rw [hblueprints, Option.map_some, Option.some.injEq] at hkept
  rw [hentries, Option.map_some, Option.some.injEq] at hasked
  exact absurd hperm.length_eq (by rw [hkept, hasked]; decide)

end Fybrik
