import Fybrik.Plotter.Memory
import Fybrik.Plotter.Translation

/-!
# The credentials that modules receive

A data store in the arguments of a module comes from an asset of the plotter, or from a
service that another module offers.  In the first case the module gets the credentials
for one kind of access only: for reading what it reads, for writing what it writes.

* `Granted` — the credentials of a data store that comes from an asset.
* `ModuleUse.Supplies` — an argument entry has the data stores of a use of a module.
* `Memory.getBlueprintsMap_grants` — **every data store in the blueprints has the
  credentials its operation needs, and the specification of the plotter is unchanged**.
-/

namespace Fybrik

/-- The credentials an asset declares for an operation. -/
def declaredVault (plotter : Plotter) (assetID : String) (operation : DataFlow) : Vault :=
  (plotter.spec.assets.get assetID).dataStore.vault.get operation.text

/-- A data store that comes from an asset, for an operation performed in a cluster: the
only key is that of the operation, and the authentication path is that of the cluster. -/
structure Granted (clusters : List Cluster) (plotter : Plotter) (cluster : String)
    (operation : DataFlow) (assetID : String) (store : DataStore) : Prop where
  vault : store.vault.pairs = [(operation.text,
    { role := (declaredVault plotter assetID operation).role
      address := (declaredVault plotter assetID operation).address
      secretPath := (declaredVault plotter assetID operation).secretPath
      authPath := clusterAuthPath clusters cluster })]
  connection : store.connection = (plotter.spec.assets.get assetID).dataStore.connection
  format : store.format = (plotter.spec.assets.get assetID).dataStore.format

section Supplies

variable (clusters : List Cluster) (plotter : Plotter) (u : ModuleUse)

/-- The data store a use of a module reads from: that of an asset, or a service. -/
def ModuleUse.ReadsFrom (store : DataStore) : Prop :=
  ∃ params source, u.step.parameters = some params ∧ params.source = some source ∧
    ((source.assetID ≠ "" ∧
        Granted clusters plotter u.step.cluster .readFlow source.assetID store) ∨
      (source.assetID = "" ∧ ∃ api, source.api = some api ∧
        store = { vault := ∅, connection := api.connection, format := api.dataFormat }))

/-- The data store a use of a module writes to: that of an asset. -/
def ModuleUse.WritesTo (store : DataStore) : Prop :=
  ∃ params sink, u.step.parameters = some params ∧ params.sink = some sink ∧
    Granted clusters plotter u.step.cluster .writeFlow sink.assetID store

/-- An argument entry contains the data stores of a use of a module. -/
def ModuleUse.Supplies : ArgumentEntry → Prop
  | .read args => u.subFlow.flowType = .readFlow ∧ u.ReadsFrom clusters plotter args.source
  | .write args => u.subFlow.flowType = .writeFlow ∧ u.WritesTo clusters plotter args.destination
  | .copy args => u.subFlow.flowType = .copyFlow ∧ u.ReadsFrom clusters plotter args.source ∧
      u.WritesTo clusters plotter args.destination

end Supplies

section Credentials

variable {sha : Sha512} {clusters : List Cluster} {plotter : Plotter} {u : ModuleUse}

theorem granted_addCredentials (clusters : List Cluster) (plotter : Plotter) (cluster : String)
    (operation : DataFlow) (assetID : String) :
    Granted clusters plotter cluster operation assetID
      (addCredentials (plotter.spec.assets.get assetID).dataStore (clusterAuthPath clusters cluster)
        operation) :=
  ⟨rfl, rfl, rfl⟩

theorem readsFrom_of_sourceStore {params : StepParameters} (hparams : u.step.parameters = some params)
    {store : DataStore}
    (h : sourceStore plotter (clusterAuthPath clusters u.step.cluster) params = some store) :
    u.ReadsFrom clusters plotter store := by
  unfold sourceStore at h
  cases hsource : params.source with
  | none => rw [hsource] at h; cases h
  | some source =>
    rw [hsource] at h
    refine ⟨params, source, hparams, hsource, ?_⟩
    by_cases hid : source.assetID = ""
    · simp only [hid, ne_eq, not_true_eq_false, if_false] at h
      obtain ⟨api, hapi, rfl⟩ := Option.map_eq_some_iff.1 h
      exact Or.inr ⟨hid, api, hapi, rfl⟩
    · simp only [ne_eq, hid, not_false_eq_true, if_true, Option.some.injEq] at h
      rw [← h]
      exact Or.inl ⟨hid, granted_addCredentials _ _ _ _ _⟩

theorem writesTo_of_sinkStore {params : StepParameters} (hparams : u.step.parameters = some params)
    {store : DataStore}
    (h : sinkStore plotter (clusterAuthPath clusters u.step.cluster) params = some store) :
    u.WritesTo clusters plotter store := by
  obtain ⟨sink, hsink, rfl⟩ := Option.map_eq_some_iff.1 h
  exact ⟨params, sink, hparams, hsink, granted_addCredentials _ _ _ _ _⟩

/-- The entry a use of a module asks for contains its data stores. -/
theorem supplies_of_expectedEntry {e : ArgumentEntry}
    (h : u.expectedEntry clusters plotter = some e) : u.Supplies clusters plotter e := by
  obtain ⟨params, hparams, ⟨hflow, source, hsource, rfl⟩ | ⟨hflow, destination, hsink, rfl⟩ |
    ⟨hflow, source, destination, hsource, hsink, rfl⟩⟩ := expectedEntry_cases h
  · exact ⟨hflow, readsFrom_of_sourceStore hparams hsource⟩
  · exact ⟨hflow, writesTo_of_sinkStore hparams hsink⟩
  · exact ⟨hflow, readsFrom_of_sourceStore hparams hsource, writesTo_of_sinkStore hparams hsink⟩

/-- An instance has no entries but the one of the use it was converted from. -/
theorem supplies_of_convert {i : ModuleInstanceSpec}
    (h : convertPlotterModuleToBlueprintModule plotter (u.plotterModule clusters) = some i)
    {e : ArgumentEntry} (he : e ∈ i.args.entries) :
    u.isPlugin = false ∧ u.Supplies clusters plotter e := by
  obtain ⟨args, hargs, rfl⟩ := Option.map_eq_some_iff.1 h
  obtain ⟨-, rfl⟩ := instanceArguments_eq_some_iff.1 hargs
  have he : e ∈ (argumentsOf plotter (u.givenEntry clusters plotter)).entries := he
  rw [entries_argumentsOf, Option.mem_toList, ModuleUse.givenEntry] at he
  cases hplugin : u.isPlugin with
  | true => simp [hplugin] at he
  | false =>
    rw [hplugin] at he
    exact ⟨rfl, supplies_of_expectedEntry he⟩

/-- Every entry in the blueprints comes from a use of a module in the same cluster. -/
theorem exists_use_of_mem_argumentEntries {blueprints : GoMap String BlueprintSpec}
    (h : getBlueprintsMap sha clusters plotter = some blueprints) {e : LocatedEntry}
    (he : e ∈ argumentEntries blueprints) :
    ∃ u ∈ moduleUses plotter, u.isPlugin = false ∧ u.step.cluster = e.cluster ∧
      u.module.name = e.moduleName ∧ u.Supplies clusters plotter e.entry := by
  obtain ⟨instances, hinstances, rfl⟩ := Option.map_eq_some_iff.1 h
  have hmem := (generateBlueprints_entries_perm sha instances plotter).subset
    (List.mem_append_left _ he)
  obtain ⟨i, hi, hei⟩ := List.mem_flatMap.1 hmem
  obtain ⟨entry, hentry, rfl⟩ := List.mem_map.1 hei
  obtain ⟨u, hu, hconvert⟩ := Loops.exists_of_mem_mapM hinstances hi
  obtain ⟨hplugin, hsupplies⟩ := supplies_of_convert hconvert hentry
  obtain ⟨args, -, rfl⟩ := Option.map_eq_some_iff.1 hconvert
  exact ⟨u, hu, hplugin, rfl, rfl, hsupplies⟩

end Credentials

/-- Every data store in the arguments of a module belongs to a step that is executed in the
cluster of the blueprint, with the credentials of the asset for the operation of the
step and the authentication path of the cluster.  The specification of the plotter is
left unchanged. -/
theorem Memory.getBlueprintsMap_grants (sha : Sha512) (clusters : List Cluster)
    {plotter : Plotter} {mem mem' : Memory} (hplotter : mem.loadPlotter = plotter)
    {blueprints : GoMap String BlueprintSpec}
    (h : mem.getBlueprintsMap sha clusters = some (blueprints, mem')) :
    (∀ e ∈ argumentEntries blueprints, ∃ u ∈ moduleUses plotter, u.isPlugin = false ∧
      u.step.cluster = e.cluster ∧ u.module.name = e.moduleName ∧
        u.Supplies clusters plotter e.entry) ∧
      mem'.plotter = mem.plotter ∧ mem'.loadPlotter.spec = plotter.spec := by
  subst hplotter
  have hrefines := mem.getBlueprintsMap_refines sha clusters
  rw [h] at hrefines
  generalize hget : Fybrik.getBlueprintsMap sha clusters mem.loadPlotter = result at hrefines
  cases hrefines with
  | some hsame =>
    obtain ⟨rfl, hcell, hload⟩ := hsame
    refine ⟨?_, hcell, ?_⟩
    · intro e he
      exact exists_use_of_mem_argumentEntries hget he
    · rw [hload]

/-! ## A copy that is read in another cluster -/

/-- A template with one module for all assets. -/
def sharedTemplate (name : String) : Template :=
  { name := name
    modules := [{ name := name, type := "service", chart := default, scope := .workload }] }

/-- Credentials for an operation. -/
def sampleVault (role : String) : Vault :=
  { role := role, secretPath := "/v1/secret/" ++ role, address := "http://vault", authPath := "" }

/-- An asset is copied in one cluster, and the copy is read in another. -/
def crossingPlotter : Plotter :=
  { (default : Plotter) with
    spec :=
      { selector := default
        assets := GoMap.ofList
          [("xxx", { advertisedAssetID := "", dataStore :=
              { vault := GoMap.ofList [("read", sampleVault "reader")], connection := default
                format := default } }),
           ("xxx-copy", { advertisedAssetID := "xxx", dataStore :=
              { vault := GoMap.ofList
                  [("read", sampleVault "copy-reader"), ("write", sampleVault "copy-writer")]
                connection := default, format := default } })]
        modulesNamespace := "fybrik-blueprints"
        templates := GoMap.ofList [("copy", sharedTemplate "copy"), ("read", sharedTemplate "read")]
        flows :=
          [{ name := "xxx-read"
             flowType := .readFlow
             assetID := "xxx"
             subFlows :=
               [{ name := "copy"
                  flowType := .copyFlow
                  triggers := [.initTrigger]
                  steps := [[{ name := "copy", cluster := "thegreendragon", template := "copy"
                               parameters := some
                                 { source := some ⟨"xxx", none⟩, sink := some ⟨"xxx-copy"⟩
                                   api := none, actions := [] } }]] },
                { name := "read"
                  flowType := .readFlow
                  triggers := [.workloadTrigger]
                  steps := [[{ name := "read", cluster := "theprancingpony", template := "read"
                               parameters := some
                                 { source := some ⟨"xxx-copy", none⟩, sink := none
                                   api := none, actions := [] } }]] }] }] } }

/-- The clusters that are listed: not the one in which the copy is read. -/
def crossingClusters : List Cluster :=
  [{ name := "thegreendragon"
     metadata := { region := "theshire", zone := "hobbiton", vaultAuthPath := "kubernetes" } }]

/-- There are blueprints with two entries, and both have the credentials they need. -/
theorem Memory.getBlueprintsMap_crossing_grants :
    ∃ blueprints mem', (Memory.ofPlotter crossingPlotter).getBlueprintsMap sampleSha512
        crossingClusters = some (blueprints, mem') ∧
      (argumentEntries blueprints).length = 2 ∧
      (∀ e ∈ argumentEntries blueprints, ∃ u ∈ moduleUses crossingPlotter, u.isPlugin = false ∧
        u.step.cluster = e.cluster ∧ u.module.name = e.moduleName ∧
          u.Supplies crossingClusters crossingPlotter e.entry) ∧
      mem'.loadPlotter.spec = crossingPlotter.spec := by
  have hlength : ((Memory.ofPlotter crossingPlotter).getBlueprintsMap sampleSha512
      crossingClusters).map (fun r => (argumentEntries r.1).length) = some 2 := by
    decide +kernel
  obtain ⟨⟨blueprints, mem'⟩, hget, htwo⟩ := Option.map_eq_some_iff.1 hlength
  obtain ⟨hentries, -, hspec⟩ := Memory.getBlueprintsMap_grants sampleSha512 crossingClusters
    (Memory.loadPlotter_ofPlotter crossingPlotter) hget
  exact ⟨blueprints, mem', hget, htwo, hentries, hspec⟩

end Fybrik
