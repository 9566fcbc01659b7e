import Fybrik.Lib.Heap
import Fybrik.Lib.Loops
import Fybrik.Plotter.Blueprints

/-!
# The translation to blueprints, in memory

`addCredentials` and `RefineInstances` write through pointers: to a data store, to a map
of credentials and to the arguments of an instance.  Here is the translation of a plotter
with these pointers, from a memory that holds the plotter to one that holds it and more.

* `Memory` — the plotter, the maps of credentials, the data stores whose address is taken
  and the arguments of instances.
* `Memory.addCredentials`, `Memory.convertPlotterModuleToBlueprintModule`,
  `Memory.refineInstances`, `Memory.getBlueprintsMap` — as in the source, with the writes
  it makes.
* `Memory.getBlueprintsMap_refines` — **the blueprints are those of `getBlueprintsMap`,
  and the plotter is left as it was**.
* `Memory.ofPlotter` — a memory for every plotter.
-/

namespace Fybrik

/-! ## What is in memory -/

/-- A data store.  Its credentials are a reference to a map, or nil. -/
structure StoreCell where
  vault : Option ℕ
  connection : Connection
  format : DataFormat
  deriving DecidableEq, Inhabited

/-- `AssetDetails`. -/
structure AssetCell where
  advertisedAssetID : String
  dataStore : StoreCell
  deriving DecidableEq, Inhabited

/-- A plotter. -/
structure PlotterCell where
  labels : GoMap String String
  selector : Selector
  assets : GoMap String AssetCell
  flows : List Flow
  modulesNamespace : String
  templates : GoMap String Template
  observedState : ObservedState
  finalizers : List String
  beingDeleted : Bool

/-- `CopyModuleArgs`. -/
structure CopyCell where
  source : StoreCell
  destination : StoreCell
  assetID : String
  transformations : List Action

/-- `ReadModuleArgs`. -/
structure ReadCell where
  source : StoreCell
  assetID : String
  transformations : List Action

/-- `WriteModuleArgs`. -/
structure WriteCell where
  destination : StoreCell
  assetID : String
  transformations : List Action

/-- `ModuleArguments`. -/
structure ArgumentsCell where
  labels : GoMap String String
  appSelector : LabelSelector
  copy : Option CopyCell
  read : List ReadCell
  write : List WriteCell
  deriving Inhabited

/-- `ModuleInstanceSpec`.  The arguments are a pointer. -/
structure InstanceCell where
  chart : ChartSpec
  args : ℕ
  assetIDs : List String
  clusterName : String
  moduleName : String
  scope : CapabilityScope
  assetIDs_ne_nil : assetIDs ≠ []

section Load

variable (vaults : Heap (GoMap String Vault))

/-- The map a reference refers to; nil is an empty map. -/
def dereference : Option ℕ → GoMap String Vault
  | none => ∅
  | some p => vaults.read p

/-- A data store with its credentials. -/
def StoreCell.load (s : StoreCell) : DataStore :=
  { vault := dereference vaults s.vault, connection := s.connection, format := s.format }

@[inherit_doc StoreCell.load]
def AssetCell.load (a : AssetCell) : AssetDetails :=
  { advertisedAssetID := a.advertisedAssetID, dataStore := a.dataStore.load vaults }

@[inherit_doc StoreCell.load]
def PlotterCell.load (p : PlotterCell) : Plotter :=
  { labels := p.labels
    observedState := p.observedState
    finalizers := p.finalizers
    beingDeleted := p.beingDeleted
    spec :=
      { selector := p.selector
        assets := p.assets.mapVal fun _ => AssetCell.load vaults
        flows := p.flows
        modulesNamespace := p.modulesNamespace
        templates := p.templates } }

/-- The arguments with the credentials of their data stores. -/
def ArgumentsCell.load (a : ArgumentsCell) : ModuleArguments :=
  { labels := a.labels
    appSelector := a.appSelector
    copy := a.copy.map fun c =>
      ⟨c.source.load vaults, c.destination.load vaults, c.assetID, c.transformations⟩
    read := a.read.map fun r => ⟨r.source.load vaults, r.assetID, r.transformations⟩
    write := a.write.map fun w => ⟨w.destination.load vaults, w.assetID, w.transformations⟩ }

/-- The map that a data store refers to is there. -/
def StoreCell.InRange (s : StoreCell) : Prop := ∀ p, s.vault = some p → p < vaults.size

/-- The data stores of some arguments. -/
def ArgumentsCell.stores (a : ArgumentsCell) : List StoreCell :=
  (a.copy.toList.flatMap fun c => [c.source, c.destination]) ++ a.read.map ReadCell.source ++
    a.write.map WriteCell.destination

end Load

/-- The memory of the program.  The assets of the plotter refer to maps that are there. -/
structure Memory where
  plotter : PlotterCell
  vaults : Heap (GoMap String Vault)
  stores : Heap StoreCell
  args : Heap ArgumentsCell
  valid : ∀ assetID asset, plotter.assets.lookup assetID = some asset →
    asset.dataStore.InRange vaults

namespace Memory

variable (mem : Memory)

/-- The plotter as a value. -/
def loadPlotter : Plotter := mem.plotter.load mem.vaults

/-! ## Allocation and assignment -/

/-- `make(map[string]api.Vault)`; its address is the size of the heap. -/
@[simps]
def allocVault : Memory :=
  { mem with
    vaults := mem.vaults.alloc ∅
    valid := by
      intro assetID asset hlookup p hp
      rw [Heap.size_alloc]
      exact Nat.lt_succ_of_lt (mem.valid assetID asset hlookup p hp) }

/-- An assignment to an entry of a map. -/
@[simps]
def assignVault (p : ℕ) (key : String) (v : Vault) : Memory :=
  { mem with
    vaults := mem.vaults.write p ((mem.vaults.read p).set key v)
    valid := by
      intro assetID asset hlookup q hq
      rw [Heap.size_write]
      exact mem.valid assetID asset hlookup q hq }

/-- A new data store; its address is the size of the heap. -/
@[simps]
def allocStore (s : StoreCell) : Memory := { mem with stores := mem.stores.alloc s }

/-- An assignment to a data store. -/
@[simps]
def assignStore (p : ℕ) (s : StoreCell) : Memory :=
  { mem with stores := mem.stores.write p s }

/-- New arguments; their address is the size of the heap. -/
@[simps]
def allocArgs (a : ArgumentsCell) : Memory := { mem with args := mem.args.alloc a }

/-- An assignment to arguments. -/
@[simps]
def assignArgs (p : ℕ) (a : ArgumentsCell) : Memory :=
  { mem with args := mem.args.write p a }

/-! ## Module instances -/

/-- `addCredentials`, which gets the address of a data store. -/
def addCredentials (dataStore : ℕ) (vaultAuthPath : String) (flowType : DataFlow) : Memory :=
  let vaultMap := mem.vaults.size
  let mem := mem.allocVault
  let declared := (dereference mem.vaults (mem.stores.read dataStore).vault).get flowType.text
  let mem := mem.assignVault vaultMap flowType.text { declared with authPath := vaultAuthPath }
  mem.assignStore dataStore { mem.stores.read dataStore with vault := some vaultMap }

/-- The address of a copy of a data store, with credentials for one kind of access. -/
def copyStore (s : StoreCell) (vaultAuthPath : String) (flowType : DataFlow) : ℕ × Memory :=
  (mem.stores.size, (mem.allocStore s).addCredentials mem.stores.size vaultAuthPath flowType)

/-- The address of the data store a step reads from. -/
def sourceStore (vaultAuthPath : String) (params : StepParameters) : Option (ℕ × Memory) :=
  match params.source with
  | none => none
  | some source =>
    if source.assetID ≠ "" then
      some (mem.copyStore (mem.plotter.assets.get source.assetID).dataStore vaultAuthPath .readFlow)
    else source.api.map fun api => (mem.stores.size, mem.allocStore
      { vault := none, connection := api.connection, format := api.dataFormat })

/-- The address of the data store a step writes to. -/
def sinkStore (vaultAuthPath : String) (params : StepParameters) : Option (ℕ × Memory) :=
  params.sink.map fun sink =>
    mem.copyStore (mem.plotter.assets.get sink.assetID).dataStore vaultAuthPath .writeFlow

/-- The `switch` of `convertPlotterModuleToBlueprintModule`, which fills in the arguments
at an address. -/
def fillArguments (args : ℕ) (plotterModule : PlotterModulesSpec) (params : StepParameters) :
    Option Memory :=
  match plotterModule.flowType with
  | .readFlow =>
    (mem.sourceStore plotterModule.vaultAuthPath params).bind fun (dataStore, mem) =>
      some (mem.assignArgs args { mem.args.read args with
        read := [⟨mem.stores.read dataStore, plotterModule.assetID, params.actions⟩] })
  | .writeFlow =>
    (mem.sinkStore plotterModule.vaultAuthPath params).bind fun (destDataStore, mem) =>
      some (mem.assignArgs args { mem.args.read args with
        write := [⟨mem.stores.read destDataStore, plotterModule.assetID, params.actions⟩] })
  | .copyFlow =>
    (mem.sourceStore plotterModule.vaultAuthPath params).bind fun (dataStore, mem) =>
      (mem.sinkStore plotterModule.vaultAuthPath params).bind fun (destDataStore, mem) =>
        some (mem.assignArgs args { mem.args.read args with
          copy := some ⟨mem.stores.read dataStore, mem.stores.read destDataStore,
            plotterModule.assetID, params.actions⟩ })
  | .deleteFlow => some mem

/-- The arguments every instance gets. -/
def commonCell : ArgumentsCell :=
  { labels := mem.plotter.labels, appSelector := mem.plotter.selector.workloadSelector
    copy := none, read := [], write := [] }

/-- `convertPlotterModuleToBlueprintModule`. -/
def convertPlotterModuleToBlueprintModule (plotterModule : PlotterModulesSpec) :
    Option (InstanceCell × Memory) :=
  let blueprintModule : InstanceCell :=
    { chart := plotterModule.chart
      args := mem.args.size
      assetIDs := [plotterModule.assetID]
      clusterName := plotterModule.clusterName
      moduleName := plotterModule.moduleName
      scope := plotterModule.scope
      assetIDs_ne_nil := plotterModule.assetIDs_ne_nil }
  let mem' := mem.allocArgs mem.commonCell
  match plotterModule.moduleArguments with
  | none => some (blueprintModule, mem')
  | some params => (mem'.fillArguments mem.args.size plotterModule params).bind fun mem =>
      some (blueprintModule, mem)

/-- One round of the loops of `getBlueprintsMap`: the instances so far, and the memory. -/
def convertStep (clusters : List Cluster) (st : List InstanceCell × Memory) (u : ModuleUse) :
    Option (List InstanceCell × Memory) :=
  (st.2.convertPlotterModuleToBlueprintModule (u.plotterModule clusters)).bind fun (cell, mem) =>
    some (st.1 ++ [cell], mem)

/-! ## Blueprints -/

/-- An instance with its arguments. -/
def loadInstance (i : InstanceCell) : ModuleInstanceSpec :=
  { chart := i.chart
    args := (mem.args.read i.args).load mem.vaults
    assetIDs := i.assetIDs
    clusterName := i.clusterName
    moduleName := i.moduleName
    scope := i.scope
    assetIDs_ne_nil := i.assetIDs_ne_nil }

end Memory

/-- The key of the map of instances to be unified. -/
def InstanceCell.key (i : InstanceCell) : String := i.moduleName ++ "," ++ i.clusterName

/-- The instance that stands for two uses of a module.  Its arguments are those of the
first. -/
def InstanceCell.unify (a b : InstanceCell) : InstanceCell :=
  { a with
    assetIDs := a.assetIDs ++ b.assetIDs
    assetIDs_ne_nil := List.append_ne_nil_of_left_ne_nil a.assetIDs_ne_nil _ }

namespace Memory

/-- The arguments at `p` are extended by those at `q`, in two assignments. -/
def appendArguments (mem : Memory) (p q : ℕ) : Memory :=
  let mem := mem.assignArgs p { mem.args.read p with
    read := (mem.args.read p).read ++ (mem.args.read q).read }
  mem.assignArgs p { mem.args.read p with
    write := (mem.args.read p).write ++ (mem.args.read q).write }

/-- One turn of the loop of `RefineInstances`: the new instances, the map of instances to
be unified and the memory. -/
def refineStep (st : (List InstanceCell × GoMap String InstanceCell) × Memory)
    (moduleInstance : InstanceCell) : (List InstanceCell × GoMap String InstanceCell) × Memory :=
  if moduleInstance.scope = .asset then ((st.1.1 ++ [moduleInstance], st.1.2), st.2)
  else
    match st.1.2.lookup moduleInstance.key with
    | none => ((st.1.1, st.1.2.set moduleInstance.key moduleInstance), st.2)
    | some other => ((st.1.1, st.1.2.set moduleInstance.key (other.unify moduleInstance)),
        st.2.appendArguments other.args moduleInstance.args)

/-- `RefineInstances`. -/
def refineInstances (mem : Memory) (instances : List InstanceCell) : List InstanceCell × Memory :=
  let st := instances.foldl refineStep (([], ∅), mem)
  (st.1.1 ++ st.1.2.pairs.map Prod.snd, st.2)

/-- One turn of the loop of `GenerateBlueprints`, for the instances of a cluster.
`GenerateBlueprint` copies the arguments of the instances. -/
def generateStep (sha : Sha512) (st : GoMap String BlueprintSpec × Memory)
    (kl : String × List InstanceCell) : GoMap String BlueprintSpec × Memory :=
  let (instances, mem) := st.2.refineInstances kl.2
  (st.1.set kl.1 (generateBlueprint sha (instances.map mem.loadInstance) kl.1 mem.loadPlotter), mem)

/-- `GenerateBlueprints`. -/
def generateBlueprints (sha : Sha512) (mem : Memory) (instances : List InstanceCell) :
    GoMap String BlueprintSpec × Memory :=
  (GoMap.groupBy InstanceCell.clusterName instances).pairs.foldl (generateStep sha) (∅, mem)

/-- `getBlueprintsMap`. -/
def getBlueprintsMap (sha : Sha512) (clusters : List Cluster) (mem : Memory) :
    Option (GoMap String BlueprintSpec × Memory) :=
  ((moduleUses mem.loadPlotter).foldlM (convertStep clusters) ([], mem)).bind
    fun (instances, mem) => some (generateBlueprints sha mem instances)

end Memory

/-! ## Memory that grows -/

section Grows

variable {vaults vaults' : Heap (GoMap String Vault)}

theorem StoreCell.load_extends {s : StoreCell} (hs : s.InRange vaults)
    (h : vaults.Extends vaults') : s.load vaults' = s.load vaults := by
  unfold StoreCell.load
  cases hvault : s.vault with
  | none => rfl
  | some p => rw [dereference, dereference, h.read_eq p (hs p hvault)]

theorem StoreCell.InRange.mono {s : StoreCell} (hs : s.InRange vaults)
    (h : vaults.Extends vaults') : s.InRange vaults' := by
  intro p hp
  exact Nat.lt_of_lt_of_le (hs p hp) h.size_le

theorem ArgumentsCell.load_extends {a : ArgumentsCell} (ha : ∀ s ∈ a.stores, s.InRange vaults)
    (h : vaults.Extends vaults') : a.load vaults' = a.load vaults := by
  have hstore : ∀ s ∈ a.stores, s.load vaults' = s.load vaults := by
    intro s hs
    exact StoreCell.load_extends (ha s hs) h
  simp only [ArgumentsCell.stores, List.mem_append, List.mem_map] at hstore
  have hread : ∀ r ∈ a.read, r.source.load vaults' = r.source.load vaults := by
    intro r hr
    exact hstore _ (Or.inl (Or.inr ⟨r, hr, rfl⟩))
  have hwrite : ∀ w ∈ a.write, w.destination.load vaults' = w.destination.load vaults := by
    intro w hw
    exact hstore _ (Or.inr ⟨w, hw, rfl⟩)
  unfold ArgumentsCell.load
  congr 1
  · cases hcopy : a.copy with
    | none => rfl
    | some c =>
      rw [hcopy] at hstore
      rw [Option.map_some, Option.map_some, hstore c.source (by simp),
        hstore c.destination (by simp)]
  · refine List.map_congr_left fun r hr => ?_
    rw [hread r hr]
  · refine List.map_congr_left fun w hw => ?_
    rw [hwrite w hw]

end Grows

namespace Memory

/-- What was in memory before is still there. -/
structure Kept (mem mem' : Memory) : Prop where
  plotter : mem'.plotter = mem.plotter
  vaults : mem.vaults.Extends mem'.vaults
  stores : mem.stores.Extends mem'.stores
  args : mem.args.Extends mem'.args

variable (mem : Memory)

theorem Kept.refl : mem.Kept mem := ⟨rfl, .refl _, .refl _, .refl _⟩

theorem Kept.trans {mem₁ mem₂ mem₃ : Memory} (h : mem₁.Kept mem₂) (h' : mem₂.Kept mem₃) :
    mem₁.Kept mem₃ :=
  ⟨h'.plotter.trans h.plotter, h.vaults.trans h'.vaults, h.stores.trans h'.stores,
    h.args.trans h'.args⟩

variable {mem' : Memory}

/-- The plotter as a value does not change. -/
theorem Kept.loadPlotter {mem : Memory} (h : mem.Kept mem') :
    mem'.loadPlotter = mem.loadPlotter := by
  have hassets : (mem.plotter.assets.mapVal fun _ => AssetCell.load mem'.vaults)
      = mem.plotter.assets.mapVal fun _ => AssetCell.load mem.vaults := by
    refine GoMap.mapVal_congr ?_
    intro assetID asset hlookup
    rw [AssetCell.load, AssetCell.load,
      StoreCell.load_extends (mem.valid assetID asset hlookup) h.vaults]
  rw [Memory.loadPlotter, Memory.loadPlotter, h.plotter, PlotterCell.load, PlotterCell.load, hassets]

/-! ## Data stores -/

/-- After some steps from `mem` there is a data store at an address. -/
structure StoreAt (mem : Memory) (r : ℕ × Memory) (store : DataStore) : Prop where
  kept : mem.Kept r.2
  address : r.1 < r.2.stores.size
  inRange : (r.2.stores.read r.1).InRange r.2.vaults
  load : (r.2.stores.read r.1).load r.2.vaults = store

/-- The new data store gets a map of its own; the map it was copied with is only read. -/
theorem storeAt_copyStore {s : StoreCell} (hs : s.InRange mem.vaults) (vaultAuthPath : String)
    (flowType : DataFlow) :
    mem.StoreAt (mem.copyStore s vaultAuthPath flowType)
      (Fybrik.addCredentials (s.load mem.vaults) vaultAuthPath flowType) := by
  have hmap := Heap.extends_alloc mem.vaults ∅
  have hdeclared : dereference (mem.vaults.alloc ∅) s.vault = dereference mem.vaults s.vault :=
    congrArg DataStore.vault (StoreCell.load_extends hs hmap)
  have hread : (mem.copyStore s vaultAuthPath flowType).2.stores.read mem.stores.size
      = { s with vault := some mem.vaults.size } := by
    simp [copyStore, addCredentials, Heap.read_write_self]
  have hvault : (mem.copyStore s vaultAuthPath flowType).2.vaults.read mem.vaults.size
      = GoMap.ofList [(flowType.text, { (dereference mem.vaults s.vault).get flowType.text with
          authPath := vaultAuthPath })] := by
    simp [copyStore, addCredentials, Heap.read_write_self, hdeclared, GoMap.ofList]
  refine ⟨⟨rfl, ?_, ?_, .refl _⟩, ?_, ?_, ?_⟩
  · exact hmap.write (Nat.le_refl _)
  · exact (Heap.extends_alloc mem.stores s).write (Nat.le_refl _)
  · simp [copyStore, addCredentials]
  · intro p hp
    simp only [copyStore] at hread hp
    rw [hread] at hp
    cases hp
    simp [copyStore, addCredentials]
  · show (StoreCell.load _ ((mem.copyStore s vaultAuthPath flowType).2.stores.read
      mem.stores.size)) = _
    rw [hread, StoreCell.load, dereference, hvault]
    rfl

/-- The asset as a value, and that the map it refers to is there. -/
theorem load_asset (assetID : String) :
    (mem.loadPlotter.spec.assets.get assetID).dataStore
        = (mem.plotter.assets.get assetID).dataStore.load mem.vaults ∧
      (mem.plotter.assets.get assetID).dataStore.InRange mem.vaults := by
  constructor
  · exact congrArg AssetDetails.dataStore (GoMap.get_mapVal _ rfl mem.plotter.assets)
  · cases hlookup : mem.plotter.assets.lookup assetID with
    | none =>
      rw [GoMap.get_of_lookup_none hlookup]
      intro p hp
      cases hp
    | some asset =>
      rw [GoMap.get_of_lookup hlookup]
      exact mem.valid assetID asset hlookup

variable (vaultAuthPath : String) (params : StepParameters)

theorem sourceStore_refines :
    Option.Rel mem.StoreAt (mem.sourceStore vaultAuthPath params)
      (Fybrik.sourceStore mem.loadPlotter vaultAuthPath params) := by
  unfold Memory.sourceStore Fybrik.sourceStore
  cases params.source with
  | none => exact .none
  | some source =>
    by_cases hid : source.assetID = ""
    · simp only [hid, ne_eq, not_true_eq_false, if_false]
      cases source.api with
      | none => exact .none
      | some api =>
        refine .some ⟨⟨rfl, .refl _, Heap.extends_alloc _ _, .refl _⟩, ?_, ?_, ?_⟩
        · show mem.stores.size < (mem.stores.alloc _).size
          rw [Heap.size_alloc]
          omega
        · intro p hp
          simp [Memory.allocStore] at hp
        · simp [Memory.allocStore, StoreCell.load, dereference]
    · obtain ⟨hload, hrange⟩ := mem.load_asset source.assetID
      simp only [ne_eq, hid, not_false_eq_true, if_true, hload]
      exact .some (mem.storeAt_copyStore hrange vaultAuthPath .readFlow)

theorem sinkStore_refines :
    Option.Rel mem.StoreAt (mem.sinkStore vaultAuthPath params)
      (Fybrik.sinkStore mem.loadPlotter vaultAuthPath params) := by
  unfold Memory.sinkStore Fybrik.sinkStore
  cases params.sink with
  | none => exact .none
  | some sink =>
    obtain ⟨hload, hrange⟩ := mem.load_asset sink.assetID
    simp only [Option.map_some, hload]
    exact .some (mem.storeAt_copyStore hrange vaultAuthPath .writeFlow)

/-! ## Arguments -/

/-- After some steps from `mem` there are arguments at a new address. -/
structure ArgumentsAt (mem : Memory) (p : ℕ) (mem' : Memory) (args : ModuleArguments) : Prop where
  kept : mem.Kept mem'
  address : p < mem'.args.size
  inRange : ∀ s ∈ (mem'.args.read p).stores, s.InRange mem'.vaults
  load : (mem'.args.read p).load mem'.vaults = args

/-- Younger arguments may be assigned to. -/
theorem argumentsAt_assignArgs {mem : Memory} {p : ℕ} (hkept : mem.Kept mem')
    (hnew : mem.args.size ≤ p) (hp : p < mem'.args.size) {a : ArgumentsCell}
    (ha : ∀ s ∈ a.stores, s.InRange mem'.vaults) {args : ModuleArguments}
    (hload : a.load mem'.vaults = args) : mem.ArgumentsAt p (mem'.assignArgs p a) args := by
  have hread : (mem'.assignArgs p a).args.read p = a := Heap.read_write_self hp
  refine ⟨⟨hkept.plotter, hkept.vaults, hkept.stores, hkept.args.write hnew⟩, ?_, ?_, ?_⟩
  · simpa using hp
  · rw [hread]
    exact ha
  · rw [hread]
    exact hload

section Fill

variable {mem mem₁ : Memory} {p : ℕ} {m : PlotterModulesSpec} {params : StepParameters}

/-- The arguments are filled in by the `switch` as `instanceArguments` says. -/
theorem fillArguments_refines (hkept : mem.Kept mem₁) (hnew : mem.args.size ≤ p)
    (hp : p < mem₁.args.size) (hread : mem₁.args.read p = mem.commonCell)
    (hparams : m.moduleArguments = some params) :
    Option.Rel (mem.ArgumentsAt p) (mem₁.fillArguments p m params)
      (instanceArguments mem.loadPlotter m) := by
  have hsource := mem₁.sourceStore_refines m.vaultAuthPath params
  have hsink := mem₁.sinkStore_refines m.vaultAuthPath params
  rw [hkept.loadPlotter] at hsource hsink
  unfold fillArguments instanceArguments
  rw [hparams]
  cases m.flowType with
  | readFlow =>
    simp only
    generalize mem₁.sourceStore m.vaultAuthPath params = x at hsource ⊢
    generalize Fybrik.sourceStore mem.loadPlotter m.vaultAuthPath params = y at hsource ⊢
    cases hsource with
    | none => exact .none
    | @some r source hat =>
      have hread₂ := (hat.kept.args.read_eq p hp).trans hread
      refine .some (argumentsAt_assignArgs (hkept.trans hat.kept) hnew
        (Nat.lt_of_lt_of_le hp hat.kept.args.size_le) ?_ ?_)
      · simpa [ArgumentsCell.stores, hread₂, commonCell] using hat.inRange
      · simp [ArgumentsCell.load, hread₂, commonCell, hat.load, commonArguments, loadPlotter,
          PlotterCell.load]
  | writeFlow =>
    simp only
    generalize mem₁.sinkStore m.vaultAuthPath params = x at hsink ⊢
    generalize Fybrik.sinkStore mem.loadPlotter m.vaultAuthPath params = y at hsink ⊢
    cases hsink with
    | none => exact .none
    | @some r destination hat =>
      have hread₂ := (hat.kept.args.read_eq p hp).trans hread
      refine .some (argumentsAt_assignArgs (hkept.trans hat.kept) hnew
        (Nat.lt_of_lt_of_le hp hat.kept.args.size_le) ?_ ?_)
      · simpa [ArgumentsCell.stores, hread₂, commonCell] using hat.inRange
      · simp [ArgumentsCell.load, hread₂, commonCell, hat.load, commonArguments, loadPlotter,
          PlotterCell.load]
  | copyFlow =>
    simp only
    generalize mem₁.sourceStore m.vaultAuthPath params = x at hsource ⊢
    generalize Fybrik.sourceStore mem.loadPlotter m.vaultAuthPath params = y at hsource ⊢
    cases hsource with
    | none => exact .none
    | @some r source hat =>
      obtain ⟨d, mem₂⟩ := r
      -- the destination is copied later, and leaves the source as it is
      have hsink₂ := mem₂.sinkStore_refines m.vaultAuthPath params
      rw [(hkept.trans hat.kept).loadPlotter] at hsink₂
      simp only [Option.bind_some]
      generalize mem₂.sinkStore m.vaultAuthPath params = x at hsink₂ ⊢
      generalize Fybrik.sinkStore mem.loadPlotter m.vaultAuthPath params = y at hsink₂ ⊢
      cases hsink₂ with
      | none => exact .none
      | @some r₂ destination hat₂ =>
        have hkept₂ := hat.kept.trans hat₂.kept
        have hread₂ := (hkept₂.args.read_eq p hp).trans hread
        have hsame : r₂.2.stores.read d = mem₂.stores.read d :=
          hat₂.kept.stores.read_eq d hat.address
        have hload : (r₂.2.stores.read d).load r₂.2.vaults = source := by
          rw [hsame, StoreCell.load_extends hat.inRange hat₂.kept.vaults, hat.load]
        refine .some (argumentsAt_assignArgs (hkept.trans hkept₂) hnew
          (Nat.lt_of_lt_of_le hp hkept₂.args.size_le) ?_ ?_)
        · simp only [ArgumentsCell.stores, hread₂, commonCell, hsame]
          simpa using ⟨hat.inRange.mono hat₂.kept.vaults, hat₂.inRange⟩
        · simp [ArgumentsCell.load, hread₂, commonCell, hload, hat₂.load, commonArguments,
            loadPlotter, PlotterCell.load]
  | deleteFlow =>
    refine .some ⟨hkept, hp, ?_, ?_⟩
    · rw [hread]
      simp [ArgumentsCell.stores, commonCell]
    · rw [hread]
      rfl

end Fill

/-! ## Instances -/

/-- After some steps from `mem` there is an instance with new arguments. -/
structure InstanceAt (mem : Memory) (r : InstanceCell × Memory) (i : ModuleInstanceSpec) :
    Prop where
  args : r.1.args = mem.args.size
  at_args : mem.ArgumentsAt r.1.args r.2 i.args
  load : r.2.loadInstance r.1 = i

theorem convert_refines (m : PlotterModulesSpec) :
    Option.Rel mem.InstanceAt (mem.convertPlotterModuleToBlueprintModule m)
      (Fybrik.convertPlotterModuleToBlueprintModule mem.loadPlotter m) := by
  have hkept : mem.Kept (mem.allocArgs mem.commonCell) :=
    ⟨rfl, .refl _, .refl _, Heap.extends_alloc _ _⟩
  have hp : mem.args.size < (mem.allocArgs mem.commonCell).args.size := by simp
  have hread : (mem.allocArgs mem.commonCell).args.read mem.args.size = mem.commonCell := by simp
  unfold convertPlotterModuleToBlueprintModule Fybrik.convertPlotterModuleToBlueprintModule
  cases hargs : m.moduleArguments with
  | none =>
    have hcommon : mem.ArgumentsAt mem.args.size (mem.allocArgs mem.commonCell)
        (commonArguments mem.loadPlotter) := by
      refine ⟨hkept, hp, ?_, ?_⟩
      · rw [hread]
        simp [ArgumentsCell.stores, commonCell]
      · rw [hread]
        rfl
    have hpure : instanceArguments mem.loadPlotter m = some (commonArguments mem.loadPlotter) := by
      rw [instanceArguments, hargs]
    rw [hpure]
    refine .some ⟨rfl, hcommon, ?_⟩
    unfold loadInstance
    rw [hcommon.load]
  | some params =>
    have hfilled := fillArguments_refines hkept (Nat.le_refl _) hp hread hargs
    simp only
    generalize (mem.allocArgs mem.commonCell).fillArguments mem.args.size m params = x at hfilled ⊢
    generalize instanceArguments mem.loadPlotter m = y at hfilled ⊢
    cases hfilled with
    | none => exact .none
    | some hat =>
      refine .some ⟨rfl, hat, ?_⟩
      unfold loadInstance
      rw [hat.load]

/-- The instances so far are in memory, each with arguments of its own. -/
structure Converted (mem : Memory) (st : List InstanceCell × Memory)
    (instances : List ModuleInstanceSpec) : Prop where
  kept : mem.Kept st.2
  loaded : st.1.map st.2.loadInstance = instances
  nodup : (st.1.map InstanceCell.args).Nodup
  address : ∀ i ∈ st.1, i.args < st.2.args.size
  inRange : ∀ i ∈ st.1, ∀ s ∈ (st.2.args.read i.args).stores, s.InRange st.2.vaults

/-- An instance does not change while memory grows. -/
theorem Kept.loadInstance {mem : Memory} (h : mem.Kept mem') {i : InstanceCell}
    (haddress : i.args < mem.args.size)
    (hrange : ∀ s ∈ (mem.args.read i.args).stores, s.InRange mem.vaults) :
    mem'.loadInstance i = mem.loadInstance i := by
  unfold Memory.loadInstance
  rw [h.args.read_eq i.args haddress, ArgumentsCell.load_extends hrange h.vaults]

theorem Converted.step {mem : Memory} {st : List InstanceCell × Memory}
    {instances : List ModuleInstanceSpec} (h : mem.Converted st instances)
    (clusters : List Cluster) (u : ModuleUse) :
    Option.Rel (fun st' i => mem.Converted st' (instances ++ [i])) (convertStep clusters st u)
      (Fybrik.convertPlotterModuleToBlueprintModule mem.loadPlotter (u.plotterModule clusters)) := by
  have hconvert := st.2.convert_refines (u.plotterModule clusters)
  rw [h.kept.loadPlotter] at hconvert
  rw [← Option.bind_fun_some (Fybrik.convertPlotterModuleToBlueprintModule mem.loadPlotter _)]
  refine Loops.rel_bind hconvert ?_
  rintro ⟨cell, mem'⟩ i ⟨hargs, hat, hload⟩
  have hargs : cell.args = st.2.args.size := hargs
  have hkept : st.2.Kept mem' := hat.kept
  refine .some ⟨h.kept.trans hkept, ?_, ?_, ?_, ?_⟩
  · rw [List.map_append, List.map_singleton, hload, ← h.loaded]
    congr 1
    refine List.map_congr_left fun j hj => ?_
    exact hkept.loadInstance (h.address j hj) (h.inRange j hj)
  · rw [List.map_append, List.map_singleton, List.nodup_append]
    refine ⟨h.nodup, List.nodup_singleton _, ?_⟩
    intro p hp q hq
    obtain ⟨j, hj, rfl⟩ := List.mem_map.1 hp
    rw [List.mem_singleton.1 hq, hargs]
    have := h.address j hj
    omega
  · intro j hj
    rcases List.mem_append.1 hj with hj | hj
    · exact Nat.lt_of_lt_of_le (h.address j hj) hkept.args.size_le
    · obtain rfl := List.mem_singleton.1 hj
      exact hat.address
  · intro j hj s hs
    rcases List.mem_append.1 hj with hj | hj
    · rw [hkept.args.read_eq _ (h.address j hj)] at hs
      exact (h.inRange j hj s hs).mono hkept.vaults
    · obtain rfl := List.mem_singleton.1 hj
      exact hat.inRange s hs

/-- The loops of `getBlueprintsMap`. -/
theorem convertUses_refines (clusters : List Cluster) (uses : List ModuleUse) :
    Option.Rel mem.Converted (uses.foldlM (convertStep clusters) ([], mem))
      (uses.mapM fun u =>
        Fybrik.convertPlotterModuleToBlueprintModule mem.loadPlotter (u.plotterModule clusters)) := by
  have hstart : mem.Converted ([], mem) [] :=
    ⟨.refl mem, rfl, List.nodup_nil, by simp, by simp⟩
  refine Loops.foldlM_rel_mapM (P := mem.Converted) ?_ hstart
  intro u _ st instances h
  exact h.step clusters u

/-! ## Unifying instances -/

/-- Only the arguments at some addresses may have changed. -/
structure Within (mem : Memory) (addresses : List ℕ) (mem' : Memory) : Prop where
  plotter : mem'.plotter = mem.plotter
  vaults : mem'.vaults = mem.vaults
  size : mem'.args.size = mem.args.size
  frame : ∀ p, p ∉ addresses → mem'.args.read p = mem.args.read p

namespace Within

variable {mem mem' mem'' : Memory} {addresses addresses' : List ℕ}

theorem refl (mem : Memory) (addresses : List ℕ) : mem.Within addresses mem :=
  ⟨rfl, rfl, rfl, fun _ _ => rfl⟩

theorem trans (h : mem.Within addresses mem') (h' : mem'.Within addresses mem'') :
    mem.Within addresses mem'' := by
  refine ⟨h'.plotter.trans h.plotter, h'.vaults.trans h.vaults, h'.size.trans h.size, ?_⟩
  intro p hp
  rw [h'.frame p hp, h.frame p hp]

theorem mono (h : mem.Within addresses mem') (hsub : addresses ⊆ addresses') :
    mem.Within addresses' mem' :=
  ⟨h.plotter, h.vaults, h.size, fun p hp => h.frame p fun hmem => hp (hsub hmem)⟩

theorem loadPlotter (h : mem.Within addresses mem') : mem'.loadPlotter = mem.loadPlotter := by
  rw [Memory.loadPlotter, Memory.loadPlotter, h.plotter, h.vaults]

theorem loadInstance (h : mem.Within addresses mem') {i : InstanceCell} (hi : i.args ∉ addresses) :
    mem'.loadInstance i = mem.loadInstance i := by
  unfold Memory.loadInstance
  rw [h.frame i.args hi, h.vaults]

end Within

theorem within_assignArgs (p : ℕ) (a : ArgumentsCell) : mem.Within [p] (mem.assignArgs p a) := by
  refine ⟨rfl, rfl, Heap.size_write _ _ _, ?_⟩
  intro q hq
  refine Heap.read_write_ne ?_
  rintro rfl
  exact hq (List.mem_singleton_self _)

/-- The instances with which `RefineInstances` ends, if its loop ends with `st`. -/
def refined (st : List InstanceCell × GoMap String InstanceCell) : List InstanceCell :=
  st.1 ++ st.2.pairs.map Prod.snd

/-- No two instances share their arguments, and these are arguments of instances seen. -/
structure Owned (seen cells : List InstanceCell) : Prop where
  subset : cells.map InstanceCell.args ⊆ seen.map InstanceCell.args
  nodup : (cells.map InstanceCell.args).Nodup

namespace Owned

variable {seen cells cells' : List InstanceCell} {i : InstanceCell}

theorem keep (h : Owned seen cells)
    (hperm : (cells'.map InstanceCell.args).Perm (cells.map InstanceCell.args)) :
    Owned (seen ++ [i]) cells' := by
  refine ⟨?_, hperm.nodup_iff.2 h.nodup⟩
  intro p hp
  rw [List.map_append]
  exact List.mem_append_left _ (h.subset (hperm.mem_iff.1 hp))

theorem add (h : Owned seen cells) (hnew : i.args ∉ seen.map InstanceCell.args)
    (hperm : cells'.Perm (i :: cells)) : Owned (seen ++ [i]) cells' := by
  have hargs : (cells'.map InstanceCell.args).Perm (i.args :: cells.map InstanceCell.args) :=
    hperm.map _
  refine ⟨?_, ?_⟩
  · intro p hp
    rw [List.map_append, List.mem_append]
    rcases List.mem_cons.1 (hargs.mem_iff.1 hp) with rfl | hp
    · exact Or.inr (List.mem_singleton_self _)
    · exact Or.inl (h.subset hp)
  · rw [hargs.nodup_iff, List.nodup_cons]
    exact ⟨fun hmem => hnew (h.subset hmem), h.nodup⟩

end Owned

/-- The state of the loop of `RefineInstances` after some instances, in memory and as a
value. -/
structure Refined (mem : Memory) (seen : List InstanceCell)
    (st : (List InstanceCell × GoMap String InstanceCell) × Memory) : Prop where
  within : mem.Within (seen.map InstanceCell.args) st.2
  loaded : (seen.map mem.loadInstance).foldl Fybrik.refineStep ([], ∅)
    = (st.1.1.map st.2.loadInstance, st.1.2.mapVal fun _ => st.2.loadInstance)
  owned : Owned seen (refined st.1)

section Refine

variable {mem : Memory} {seen : List InstanceCell}
  {st : (List InstanceCell × GoMap String InstanceCell) × Memory} {i : InstanceCell}

theorem within_appendArguments (mem : Memory) (p q : ℕ) :
    mem.Within [p] (mem.appendArguments p q) :=
  (within_assignArgs _ _ _).trans (within_assignArgs _ _ _)

/-- The unified instance has the arguments of both. -/
theorem loadInstance_unify {a b : InstanceCell} (ha : a.args < mem.args.size)
    (hne : a.args ≠ b.args) :
    (mem.appendArguments a.args b.args).loadInstance (a.unify b)
      = (mem.loadInstance a).unify (mem.loadInstance b) := by
  have hread : (mem.appendArguments a.args b.args).args.read a.args
      = { mem.args.read a.args with
          read := (mem.args.read a.args).read ++ (mem.args.read b.args).read
          write := (mem.args.read a.args).write ++ (mem.args.read b.args).write } := by
    simp [appendArguments, Heap.read_write_self, Heap.read_write_ne, ha, hne]
  unfold Memory.loadInstance ModuleInstanceSpec.unify
  simp only [InstanceCell.unify, hread, ArgumentsCell.load, List.map_append]
  rfl

/-- An instance is extended where it is, and no other instance changes. -/
theorem Refined.step_again (h : mem.Refined seen st) (hnew : i.args ∉ seen.map InstanceCell.args)
    (haddress : ∀ j ∈ seen, j.args < mem.args.size) {other : InstanceCell}
    (hlookup : st.1.2.lookup i.key = some other) :
    mem.Within ((seen ++ [i]).map InstanceCell.args) (st.2.appendArguments other.args i.args) ∧
    (st.1.1.map (st.2.appendArguments other.args i.args).loadInstance,
      (st.1.2.set i.key (other.unify i)).mapVal
        fun _ => (st.2.appendArguments other.args i.args).loadInstance)
      = (st.1.1.map st.2.loadInstance, (st.1.2.mapVal fun _ => st.2.loadInstance).set i.key
          ((st.2.loadInstance other).unify (st.2.loadInstance i))) ∧
    Owned (seen ++ [i]) (refined (st.1.1, st.1.2.set i.key (other.unify i))) := by
  have hother : other ∈ st.1.2.pairs.map Prod.snd :=
    List.mem_map.2 ⟨(i.key, other), GoMap.mem_pairs.2 hlookup, rfl⟩
  have hseen : other.args ∈ seen.map InstanceCell.args :=
    h.owned.subset (List.mem_map_of_mem (List.mem_append_right _ hother))
  have hne : other.args ≠ i.args := fun heq => hnew (heq ▸ hseen)
  have hlt : other.args < st.2.args.size := by
    obtain ⟨j, hj, hjargs⟩ := List.mem_map.1 hseen
    rw [h.within.size, ← hjargs]
    exact haddress j hj
  have hframe := within_appendArguments st.2 other.args i.args
  -- the instances before the map, and those under other keys, have other addresses
  have hnodup := h.owned.nodup
  rw [refined, List.map_append, List.nodup_append] at hnodup
  obtain ⟨-, hmap, hdisjoint⟩ := hnodup
  refine ⟨?_, ?_, ?_⟩
  · refine (h.within.mono ?_).trans (hframe.mono ?_)
    · rw [List.map_append]
      exact List.subset_append_left _ _
    · rw [List.map_append]
      exact List.cons_subset.2 ⟨List.mem_append_left _ hseen, List.nil_subset _⟩
  · have hlist : st.1.1.map (st.2.appendArguments other.args i.args).loadInstance
        = st.1.1.map st.2.loadInstance := by
      refine List.map_congr_left fun j hj => hframe.loadInstance ?_
      rw [List.mem_singleton]
      exact hdisjoint _ (List.mem_map_of_mem hj) _ (List.mem_map_of_mem hother)
    rw [hlist, GoMap.mapVal_set, loadInstance_unify hlt hne]
    congr 1
    refine GoMap.mapVal_set_congr ?_ _
    intro k j hj hk
    refine hframe.loadInstance ?_
    rw [List.mem_singleton]
    intro hargs
    rw [List.map_map] at hmap
    have hpair := List.inj_on_of_nodup_map hmap (GoMap.mem_pairs.2 hj) (GoMap.mem_pairs.2 hlookup)
      hargs
    exact hk (congrArg Prod.fst hpair)
  · refine h.owned.keep ?_
    have hperm := ((GoMap.pairs_perm_of_lookup hlookup).map Prod.snd).map InstanceCell.args
    rw [refined, refined, List.map_append, List.map_append, GoMap.pairs_set]
    exact List.Perm.append_left _ hperm.symm

theorem Refined.step (h : mem.Refined seen st) (hnew : i.args ∉ seen.map InstanceCell.args)
    (haddress : ∀ j ∈ seen, j.args < mem.args.size) :
    mem.Refined (seen ++ [i]) (refineStep st i) := by
  have hwithin : mem.Within ((seen ++ [i]).map InstanceCell.args) st.2 := by
    refine h.within.mono ?_
    rw [List.map_append]
    exact List.subset_append_left _ _
  have hpure : ((seen ++ [i]).map mem.loadInstance).foldl Fybrik.refineStep ([], ∅)
      = Fybrik.refineStep (st.1.1.map st.2.loadInstance,
          st.1.2.mapVal fun _ => st.2.loadInstance) (st.2.loadInstance i) := by
    rw [List.map_append, List.foldl_append, h.loaded, h.within.loadInstance hnew]
    rfl
  have hmap : (st.1.2.mapVal fun _ => st.2.loadInstance).lookup (st.2.loadInstance i).key
      = (st.1.2.lookup i.key).map st.2.loadInstance := GoMap.lookup_mapVal _ _ _
  by_cases hscope : i.scope = .asset
  · rw [refineStep, if_pos hscope]
    refine ⟨hwithin, ?_, h.owned.add hnew ?_⟩
    · rw [hpure, refineStep_asset hscope, List.map_append, List.map_singleton]
    · show (st.1.1 ++ [i] ++ st.1.2.pairs.map Prod.snd).Perm (i :: refined st.1)
      rw [List.append_assoc]
      exact List.perm_middle
  · cases hlookup : st.1.2.lookup i.key with
    | none =>
      rw [refineStep, if_neg hscope, hlookup]
      refine ⟨hwithin, ?_, h.owned.add hnew ?_⟩
      · rw [hlookup] at hmap
        rw [hpure, refineStep_first hscope hmap, GoMap.mapVal_set]
        rfl
      · show (st.1.1 ++ (st.1.2.set i.key i).pairs.map Prod.snd).Perm (i :: refined st.1)
        rw [GoMap.pairs_set, GoMap.pairs_delete_of_lookup hlookup, List.map_cons]
        exact List.perm_middle
    | some other =>
      rw [refineStep, if_neg hscope, hlookup]
      obtain ⟨hwithin, hloaded, howned⟩ := h.step_again hnew haddress hlookup
      refine ⟨hwithin, ?_, howned⟩
      rw [hlookup] at hmap
      rw [hpure, refineStep_again hscope hmap]
      exact hloaded.symm

/-- `RefineInstances` on instances that share no arguments. -/
theorem refineInstances_refines (mem : Memory) {instances : List InstanceCell}
    (hnodup : (instances.map InstanceCell.args).Nodup)
    (haddress : ∀ j ∈ instances, j.args < mem.args.size) :
    mem.Within (instances.map InstanceCell.args) (mem.refineInstances instances).2 ∧
      (mem.refineInstances instances).1.map (mem.refineInstances instances).2.loadInstance
        = Fybrik.refineInstances (instances.map mem.loadInstance) := by
  have hloop : mem.Refined instances (instances.foldl refineStep (([], ∅), mem)) := by
    induction instances using List.reverseRecOn with
    | nil => exact ⟨.refl _ _, rfl, ⟨List.nil_subset _, List.nodup_nil⟩⟩
    | append_singleton instances i ih =>
      rw [List.map_append, List.map_singleton, List.nodup_append] at hnodup
      obtain ⟨hnodup, -, hdisjoint⟩ := hnodup
      have haddress' : ∀ j ∈ instances, j.args < mem.args.size := by
        intro j hj
        exact haddress j (List.mem_append_left _ hj)
      rw [List.foldl_append]
      refine (ih hnodup haddress').step ?_ haddress'
      intro hmem
      exact hdisjoint _ hmem _ (List.mem_singleton_self _) rfl
  refine ⟨hloop.within, ?_⟩
  rw [Memory.refineInstances, Fybrik.refineInstances, hloop.loaded, List.map_append,
    GoMap.pairs_mapVal, List.map_map, List.map_map]
  rfl

end Refine

/-! ## All clusters -/

variable (sha : Sha512)

/-- The blueprint of a cluster. -/
theorem generateStep_refines (st : GoMap String BlueprintSpec × Memory)
    {kl : String × List InstanceCell} (hnodup : (kl.2.map InstanceCell.args).Nodup)
    (haddress : ∀ j ∈ kl.2, j.args < st.2.args.size) :
    (generateStep sha st kl).1 = st.1.set kl.1 (generateBlueprint sha
        (Fybrik.refineInstances (kl.2.map st.2.loadInstance)) kl.1 st.2.loadPlotter) ∧
      st.2.Within (kl.2.map InstanceCell.args) (generateStep sha st kl).2 := by
  obtain ⟨hwithin, hload⟩ := st.2.refineInstances_refines hnodup haddress
  refine ⟨?_, hwithin⟩
  show st.1.set kl.1 (generateBlueprint sha
    ((st.2.refineInstances kl.2).1.map (st.2.refineInstances kl.2).2.loadInstance) kl.1
      (st.2.refineInstances kl.2).2.loadPlotter) = _
  rw [hload, hwithin.loadPlotter]

/-- The loop over the clusters.  The arguments of the instances of one cluster are not
touched while those of another are unified. -/
theorem generateLoop_refines (blueprints : GoMap String BlueprintSpec) (mem : Memory)
    {groups : List (String × List InstanceCell)}
    (hnodup : ((groups.flatMap Prod.snd).map InstanceCell.args).Nodup)
    (haddress : ∀ j ∈ groups.flatMap Prod.snd, j.args < mem.args.size) :
    (groups.foldl (generateStep sha) (blueprints, mem)).1
        = blueprints.setAll (groups.map fun kl => (kl.1, generateBlueprint sha
            (Fybrik.refineInstances (kl.2.map mem.loadInstance)) kl.1 mem.loadPlotter)) ∧
      mem.Within ((groups.flatMap Prod.snd).map InstanceCell.args)
        (groups.foldl (generateStep sha) (blueprints, mem)).2 := by
  induction groups generalizing blueprints mem with
  | nil => exact ⟨rfl, .refl _ _⟩
  | cons kl groups ih =>
    rw [List.flatMap_cons, List.map_append, List.nodup_append] at hnodup
    obtain ⟨hfirst, hrest, hdisjoint⟩ := hnodup
    obtain ⟨hset, hwithin⟩ := generateStep_refines sha (blueprints, mem) hfirst fun j hj =>
      haddress j (by rw [List.flatMap_cons]; exact List.mem_append_left _ hj)
    rw [List.foldl_cons]
    generalize hst : generateStep sha (blueprints, mem) kl = st at hset hwithin
    obtain ⟨blueprints₁, mem₁⟩ := st
    dsimp only at hset hwithin
    obtain ⟨hloop, hwithin'⟩ := ih blueprints₁ mem₁ hrest fun j hj => by
      rw [hwithin.size]
      exact haddress j (by rw [List.flatMap_cons]; exact List.mem_append_right _ hj)
    constructor
    · have hloads : ∀ kl' ∈ groups, kl'.2.map mem₁.loadInstance = kl'.2.map mem.loadInstance := by
        intro kl' hkl'
        refine List.map_congr_left fun j hj => hwithin.loadInstance fun hmem => ?_
        have hj' : j ∈ groups.flatMap Prod.snd := List.mem_flatMap.2 ⟨kl', hkl', hj⟩
        exact hdisjoint _ hmem _ (List.mem_map_of_mem hj') rfl
      rw [hloop, hset, List.map_cons, GoMap.setAll_cons, hwithin.loadPlotter]
      congr 1
      refine List.map_congr_left fun kl' hkl' => ?_
      rw [hloads kl' hkl']
    · rw [List.flatMap_cons, List.map_append]
      exact (hwithin.mono (List.subset_append_left _ _)).trans
        (hwithin'.mono (List.subset_append_right _ _))

/-- `GenerateBlueprints` on instances that share no arguments. -/
theorem generateBlueprints_refines (mem : Memory) {instances : List InstanceCell}
    (hnodup : (instances.map InstanceCell.args).Nodup)
    (haddress : ∀ j ∈ instances, j.args < mem.args.size) :
    (generateBlueprints sha mem instances).1
        = Fybrik.generateBlueprints sha (instances.map mem.loadInstance) mem.loadPlotter ∧
      mem.Within (instances.map InstanceCell.args) (generateBlueprints sha mem instances).2 := by
  have hperm := GoMap.groupBy_perm InstanceCell.clusterName instances
  obtain ⟨hloop, hwithin⟩ := generateLoop_refines sha ∅ mem
    ((hperm.map InstanceCell.args).nodup_iff.2 hnodup)
    fun j hj => haddress j (hperm.mem_iff.1 hj)
  refine ⟨?_, hwithin.mono (hperm.map InstanceCell.args).subset⟩
  rw [generateBlueprints, hloop, Fybrik.generateBlueprints, GoMap.groupBy_map, GoMap.pairs_mapVal,
    List.map_map]
  rfl

/-- In memory the program computes the same blueprints, and crashes on the same plotters.
It leaves the plotter as it was, and what the plotter refers to. -/
theorem getBlueprintsMap_refines (clusters : List Cluster) (mem : Memory) :
    Option.Rel (fun r blueprints => r.1 = blueprints ∧ r.2.plotter = mem.plotter ∧
        r.2.loadPlotter = mem.loadPlotter)
      (mem.getBlueprintsMap sha clusters)
      (Fybrik.getBlueprintsMap sha clusters mem.loadPlotter) := by
  unfold Memory.getBlueprintsMap Fybrik.getBlueprintsMap
  rw [Option.map_eq_bind]
  refine Loops.rel_bind (mem.convertUses_refines clusters _) ?_
  rintro ⟨cells, mem₁⟩ instances ⟨hkept, hloaded, hnodup, haddress, -⟩
  obtain ⟨hblueprints, hwithin⟩ := generateBlueprints_refines sha mem₁ hnodup haddress
  refine .some ⟨?_, hwithin.plotter.trans hkept.plotter, ?_⟩
  · rw [hblueprints, hkept.loadPlotter, ← hloaded]
  · rw [hwithin.loadPlotter, hkept.loadPlotter]

end Memory

/-! ## Every plotter can be in memory -/

variable (spec : PlotterSpec)

/-- The address of the credentials of an asset: the position of its key. -/
def PlotterSpec.address (assetID : String) : ℕ :=
  (spec.assets.pairs.map Prod.fst).idxOf assetID

/-- The maps of credentials of the assets. -/
def PlotterSpec.vaults : Heap (GoMap String Vault) :=
  ⟨spec.assets.pairs.map fun kv => kv.2.dataStore.vault⟩

/-- The assets, each with a reference to its credentials. -/
def PlotterSpec.cells : GoMap String AssetCell :=
  spec.assets.mapVal fun assetID asset =>
    { advertisedAssetID := asset.advertisedAssetID
      dataStore :=
        { vault := some (spec.address assetID)
          connection := asset.dataStore.connection
          format := asset.dataStore.format } }

theorem read_address {assetID : String} {asset : AssetDetails}
    (h : spec.assets.lookup assetID = some asset) :
    spec.address assetID < spec.vaults.size ∧
      spec.vaults.read (spec.address assetID) = asset.dataStore.vault := by
  have hmem : assetID ∈ spec.assets.pairs.map Prod.fst :=
    List.mem_map.2 ⟨(assetID, asset), GoMap.mem_pairs.2 h, rfl⟩
  have hlt : spec.address assetID < spec.assets.pairs.length := by
    rw [← List.length_map Prod.fst]
    exact List.idxOf_lt_length_iff.2 hmem
  have hkey : (spec.assets.pairs[spec.address assetID]).1 = assetID := by
    have hidx := List.getElem_idxOf (List.idxOf_lt_length_iff.2 hmem)
    rwa [List.getElem_map] at hidx
  -- the key occurs once, so that this is the entry of the asset
  have hvalue : (spec.assets.pairs[spec.address assetID]).2 = asset := by
    have hentry : spec.assets.lookup (spec.assets.pairs[spec.address assetID]).1
        = some (spec.assets.pairs[spec.address assetID]).2 :=
      GoMap.mem_pairs.1 (List.getElem_mem hlt)
    rw [hkey, h] at hentry
    exact (Option.some.inj hentry).symm
  constructor
  · rw [Heap.size, PlotterSpec.vaults, List.length_map]
    exact hlt
  · rw [Heap.read, PlotterSpec.vaults, List.getElem?_map, List.getElem?_eq_getElem hlt,
      Option.map_some, hvalue]
    rfl

/-- A memory that holds a plotter and nothing else. -/
def Memory.ofPlotter (plotter : Plotter) : Memory where
  plotter :=
    { labels := plotter.labels
      selector := plotter.spec.selector
      assets := plotter.spec.cells
      flows := plotter.spec.flows
      modulesNamespace := plotter.spec.modulesNamespace
      templates := plotter.spec.templates
      observedState := plotter.observedState
      finalizers := plotter.finalizers
      beingDeleted := plotter.beingDeleted }
  vaults := plotter.spec.vaults
  stores := ⟨[]⟩
  args := ⟨[]⟩
  valid := by
    intro assetID cell hlookup p hp
    rw [PlotterSpec.cells, GoMap.lookup_mapVal, Option.map_eq_some_iff] at hlookup
    obtain ⟨asset, hasset, rfl⟩ := hlookup
    cases hp
    exact (read_address plotter.spec hasset).1

@[simp] theorem Memory.loadPlotter_ofPlotter (plotter : Plotter) :
    (Memory.ofPlotter plotter).loadPlotter = plotter := by
  have hassets : (plotter.spec.cells.mapVal fun _ => AssetCell.load plotter.spec.vaults)
      = plotter.spec.assets := by
    rw [PlotterSpec.cells, GoMap.mapVal_mapVal]
    refine GoMap.mapVal_eq_self ?_
    intro assetID asset hasset
    simp only [AssetCell.load, StoreCell.load, dereference, (read_address plotter.spec hasset).2]
  rw [Memory.loadPlotter, PlotterCell.load, Memory.ofPlotter, hassets]

end Fybrik
