import Fybrik.Api.Types
import Fybrik.Lib.Loops

/-!
# The conditions of assets

`fybrikapplication_conditions.go`: the status of an application keeps a list of
three conditions for each of its datasets.  A condition is addressed by its index
in the list, and the program crashes if the list is too short.

* `initStatus`, `setErrorCondition`, `setDenyCondition`, `setReadyCondition`,
  `isReady`, `getErrorMessages`, `analyzeError` — as in the source; nothing is
  returned where the program crashes.
* `FybrikApplicationStatus.isTrue` — the conditions that hold.
* `Tracked` — the form the status has after `initStatus`; on such a status no
  function crashes.
* `Marked` — what the functions do to a status: they make some conditions true
  and leave the summary alone.
-/

namespace Fybrik

/-- The place of each condition in the list of conditions of an asset. -/
def readyConditionIndex : ℕ := 0
@[inherit_doc readyConditionIndex]
def denyConditionIndex : ℕ := 1
@[inherit_doc readyConditionIndex]
def errorConditionIndex : ℕ := 2

/-- The state of an asset nothing is known of yet. -/
def freshAssetState : AssetState :=
  { conditions := [⟨.ready, .conditionFalse, ""⟩, ⟨.deny, .conditionFalse, ""⟩,
      ⟨.error, .conditionFalse, ""⟩]
    catalogedAsset := ""
    endpoint := default }

/-- `resetAssetState`. -/
def resetAssetState (status : FybrikApplicationStatus) (assetID : String) :
    FybrikApplicationStatus :=
  { status with assetStates := status.assetStates.set assetID freshAssetState }

/-- `initStatus`. -/
def initStatus (data : List DataContext) (status : FybrikApplicationStatus) :
    FybrikApplicationStatus :=
  data.foldl (fun status asset => resetAssetState status asset.dataSetID)
    { status with errorMessage := "", assetStates := ∅, ready := data.isEmpty }

/-- An assignment to one of the conditions of an asset. -/
def updateCondition (status : FybrikApplicationStatus) (assetID : String) (index : ℕ)
    (f : Condition → Condition) : Option FybrikApplicationStatus :=
  let state := status.assetStates.get assetID
  state.conditions[index]?.map fun condition =>
    let state' := { state with conditions := state.conditions.set index (f condition) }
    { status with assetStates := status.assetStates.set assetID state' }

/-- `setErrorCondition`. -/
def setErrorCondition (status : FybrikApplicationStatus) (assetID msg : String) :
    Option FybrikApplicationStatus :=
  updateCondition status assetID errorConditionIndex fun _ =>
    { type := .error, status := .conditionTrue
      message := "An error was received for asset " ++ assetID ++
        " . If the error persists, please contact an operator." ++ "Error description: " ++ msg }

/-- `setDenyCondition`. -/
def setDenyCondition (status : FybrikApplicationStatus) (assetID msg : String) :
    Option FybrikApplicationStatus :=
  updateCondition status assetID denyConditionIndex fun _ =>
    { type := .deny, status := .conditionTrue, message := msg }

/-- `setReadyCondition`. -/
def setReadyCondition (status : FybrikApplicationStatus) (assetID : String) :
    Option FybrikApplicationStatus :=
  updateCondition status assetID readyConditionIndex fun condition =>
    { condition with status := .conditionTrue }

/-- The loop of `isReady`. -/
def assetsReady (status : FybrikApplicationStatus) : List DataContext → Option Bool
  | [] => some true
  | asset :: data =>
    let conditions := (status.assetStates.get asset.dataSetID).conditions
    if conditions.isEmpty then some false
    else
      match conditions[denyConditionIndex]?, conditions[readyConditionIndex]? with
      | some deny, some ready =>
        if deny.status = .conditionFalse ∧ ready.status = .conditionFalse then some false
        else assetsReady status data
      | _, _ => none

/-- `isReady`. -/
def isReady (data : List DataContext) (status : FybrikApplicationStatus) : Option Bool :=
  if data.isEmpty then some true
  else if status.assetStates.pairs.isEmpty then some false
  else assetsReady status data

/-- The message of an asset with an error, as a list. -/
def assetErrors (state : AssetState) : Option (List String) :=
  state.conditions[errorConditionIndex]?.map fun condition =>
    if condition.status = .conditionTrue then [condition.message] else []

/-- `getErrorMessages`. -/
def getErrorMessages (status : FybrikApplicationStatus) : Option String :=
  if status.errorMessage ≠ "" then some status.errorMessage
  else (status.assetStates.pairs.mapM fun p => assetErrors p.2).map fun errorMsgs =>
    "\n".intercalate errorMsgs.flatten

/-- The errors that mean that access to an asset is denied. -/
def isDenial (err : String) : Bool :=
  [invalidAssetID, readAccessDenied, copyNotAllowed, writeNotAllowed,
    invalidAssetDataStore].contains err

/-- `AnalyzeError`. -/
def analyzeError (status : FybrikApplicationStatus) (assetID err : String) :
    Option FybrikApplicationStatus :=
  if isDenial err then setDenyCondition status assetID err
  else setErrorCondition status assetID err

/-- The errors of several assets, one after the other. -/
def analyzeErrors (status : FybrikApplicationStatus) (errs : List (String × String)) :
    Option FybrikApplicationStatus :=
  errs.foldlM (fun status ie => analyzeError status ie.1 ie.2) status

/-! ## What the conditions say -/

/-- A condition of an asset is true. -/
def FybrikApplicationStatus.isTrue (status : FybrikApplicationStatus) (index : ℕ)
    (assetID : String) : Bool :=
  ((status.assetStates.get assetID).conditions[index]?.map Condition.status)
    == some .conditionTrue

/-- The state of an asset as the controller keeps it: three conditions, which are
true or false, and an error has a text. -/
structure WellKept (state : AssetState) : Prop where
  length : state.conditions.length = 3
  decided : ∀ c ∈ state.conditions, c.status = .conditionTrue ∨ c.status = .conditionFalse
  message : ∀ c, state.conditions[errorConditionIndex]? = some c → c.status = .conditionTrue →
    c.message ≠ ""

/-- The status keeps track of all datasets. -/
structure Tracked (data : List DataContext) (status : FybrikApplicationStatus) : Prop where
  wellKept : ∀ id state, status.assetStates.lookup id = some state → WellKept state
  present : ∀ ctx ∈ data, ∃ state, status.assetStates.lookup ctx.dataSetID = some state

/-- Some conditions have become true, and the summary of the status is the same. -/
structure Marked (marks : List (ℕ × String)) (status status' : FybrikApplicationStatus) :
    Prop where
  isTrue : ∀ index id, status'.isTrue index id = true ↔
    status.isTrue index id = true ∨ (index, id) ∈ marks
  ready : status'.ready = status.ready
  errorMessage : status'.errorMessage = status.errorMessage
  observedGeneration : status'.observedGeneration = status.observedGeneration
  generated : status'.generated = status.generated

variable {data : List DataContext} {status status' status'' : FybrikApplicationStatus} {index : ℕ}
  {id : String}

/-- Conditions are read from the states of the assets. -/
theorem isTrue_congr (h : status'.assetStates = status.assetStates) :
    status'.isTrue index id = status.isTrue index id := by
  rw [FybrikApplicationStatus.isTrue, FybrikApplicationStatus.isTrue, h]

theorem Tracked.congr (h : Tracked data status) (hstates : status'.assetStates = status.assetStates) :
    Tracked data status' :=
  ⟨by rw [hstates]; exact h.wellKept, by rw [hstates]; exact h.present⟩

theorem Marked.refl (status : FybrikApplicationStatus) : Marked [] status status :=
  ⟨by simp, rfl, rfl, rfl, rfl⟩

variable {marks : List (ℕ × String)}

theorem Marked.trans {marks' : List (ℕ × String)} (h : Marked marks status status')
    (h' : Marked marks' status' status'') : Marked (marks ++ marks') status status'' := by
  refine ⟨fun index id => ?_, h'.ready.trans h.ready, h'.errorMessage.trans h.errorMessage,
    h'.observedGeneration.trans h.observedGeneration, h'.generated.trans h.generated⟩
  rw [h'.isTrue, h.isTrue, List.mem_append, or_assoc]

/-- The same datasets are denied, and the same plotter is known. -/
structure SameDenials (status status' : FybrikApplicationStatus) : Prop where
  denied : ∀ id, status'.isTrue denyConditionIndex id = status.isTrue denyConditionIndex id
  observedGeneration : status'.observedGeneration = status.observedGeneration
  generated : status'.generated = status.generated

theorem SameDenials.refl (status : FybrikApplicationStatus) : SameDenials status status :=
  ⟨fun _ => rfl, rfl, rfl⟩

theorem SameDenials.trans (h : SameDenials status status') (h' : SameDenials status' status'') :
    SameDenials status status'' :=
  ⟨fun id => (h'.denied id).trans (h.denied id), h'.observedGeneration.trans h.observedGeneration,
    h'.generated.trans h.generated⟩

/-- Making another condition than the denial true. -/
theorem Marked.sameDenials (h : Marked marks status status')
    (hmarks : ∀ id, (denyConditionIndex, id) ∉ marks) : SameDenials status status' := by
  refine ⟨fun id => ?_, h.observedGeneration, h.generated⟩
  rw [Bool.eq_iff_iff, h.isTrue]
  simp [hmarks id]

variable {f : Condition → Condition}

theorem updateCondition_marked (h : updateCondition status id index f = some status')
    (hf : ∀ c, (f c).status = .conditionTrue) : Marked [(index, id)] status status' := by
  obtain ⟨c, hc, rfl⟩ := Option.map_eq_some_iff.1 h
  have hindex : index < (status.assetStates.get id).conditions.length :=
    (List.getElem?_eq_some_iff.1 hc).1
  refine ⟨fun index' id' => ?_, rfl, rfl, rfl, rfl⟩
  rw [List.mem_singleton, Prod.mk.injEq]
  unfold FybrikApplicationStatus.isTrue
  by_cases hid : id' = id
  · subst hid
    rw [GoMap.get_set, List.getElem?_set]
    by_cases hi : index' = index
    · subst hi
      simp [hindex, hf]
    · simp [hi, Ne.symm hi]
  · rw [GoMap.get_set_ne _ _ hid]
    simp [hid]

variable {state : AssetState}

theorem WellKept.set (h : WellKept state) {c : Condition} (hc : c.status = .conditionTrue)
    (hmsg : index = errorConditionIndex → c.message ≠ "") :
    WellKept { state with conditions := state.conditions.set index c } := by
  refine ⟨?_, fun c' hc' => ?_, fun c' hc' htrue => ?_⟩
  · simp only [List.length_set]
    exact h.length
  · rcases List.mem_or_eq_of_mem_set hc' with hmem | rfl
    · exact h.decided c' hmem
    · exact Or.inl hc
  · simp only [List.getElem?_set] at hc'
    split at hc'
    · rename_i hi
      split at hc'
      · obtain rfl := Option.some.inj hc'
        exact hmsg hi
      · exact absurd hc' (by simp)
    · exact h.message c' hc' htrue

theorem Tracked.set (h : Tracked data status) (id : String) (hkept : WellKept state) :
    Tracked data { status with assetStates := status.assetStates.set id state } := by
  refine ⟨fun id' state' hlookup => ?_, fun ctx hctx => ?_⟩
  · by_cases hid : id' = id
    · subst hid
      rw [AList.lookup_insert] at hlookup
      cases hlookup
      exact hkept
    · rw [AList.lookup_insert_ne hid] at hlookup
      exact h.wellKept id' state' hlookup
  · by_cases hid : ctx.dataSetID = id
    · exact ⟨state, by rw [hid]; exact AList.lookup_insert _⟩
    · obtain ⟨state', hstate'⟩ := h.present ctx hctx
      exact ⟨state', by rw [AList.lookup_insert_ne hid]; exact hstate'⟩

variable {ctx : DataContext}

/-- On a status that keeps track of an asset, the assignment does not crash. -/
theorem Tracked.updateCondition (h : Tracked data status) (hctx : ctx ∈ data) (hindex : index < 3)
    (hf : ∀ c, (f c).status = .conditionTrue)
    (hmsg : index = errorConditionIndex → ∀ c, (f c).message ≠ "") :
    ∃ status', updateCondition status ctx.dataSetID index f = some status' ∧
      Tracked data status' ∧ Marked [(index, ctx.dataSetID)] status status' := by
  obtain ⟨state, hstate⟩ := h.present ctx hctx
  have hkept := h.wellKept _ _ hstate
  have hget := GoMap.get_of_lookup hstate
  obtain ⟨c, hc⟩ : ∃ c, state.conditions[index]? = some c :=
    ⟨_, List.getElem?_eq_getElem (by rw [hkept.length]; exact hindex)⟩
  have hupdate : Fybrik.updateCondition status ctx.dataSetID index f = some
      { status with assetStates := status.assetStates.set ctx.dataSetID ⟨state.conditions.set
          index (f c), state.catalogedAsset, state.endpoint⟩ } := by
    rw [Fybrik.updateCondition, hget]
    simp only [hc, Option.map_some]
  exact ⟨_, hupdate, h.set _ (hkept.set (hf c) fun hi => hmsg hi c), updateCondition_marked hupdate hf⟩

/-! ## Errors -/

/-- The condition an error of an asset makes true. -/
def markOf (ie : String × String) : ℕ × String :=
  (if isDenial ie.2 then denyConditionIndex else errorConditionIndex, ie.1)

theorem Tracked.setErrorCondition (h : Tracked data status) (hctx : ctx ∈ data) (msg : String) :
    ∃ status', setErrorCondition status ctx.dataSetID msg = some status' ∧
      Tracked data status' ∧ Marked [(errorConditionIndex, ctx.dataSetID)] status status' := by
  refine h.updateCondition hctx (by decide) (fun _ => rfl) (fun _ _ hmsg => ?_)
  have hlength := congrArg String.length hmsg
  simp only [String.length_append] at hlength
  exact absurd hlength (by simp)

theorem Tracked.analyzeError (h : Tracked data status) (hctx : ctx ∈ data) (err : String) :
    ∃ status', analyzeError status ctx.dataSetID err = some status' ∧
      Tracked data status' ∧ Marked [markOf (ctx.dataSetID, err)] status status' := by
  unfold Fybrik.analyzeError markOf
  by_cases hdenial : isDenial err = true
  · rw [if_pos hdenial, if_pos hdenial]
    exact h.updateCondition hctx (by decide) (fun _ => rfl) (fun hi => absurd hi (by decide))
  · rw [if_neg hdenial, if_neg hdenial]
    exact h.setErrorCondition hctx err

/-- Errors of known assets never make the program crash. -/
theorem Tracked.analyzeErrors (h : Tracked data status) {errs : List (String × String)}
    (herrs : ∀ ie ∈ errs, ∃ ctx ∈ data, ctx.dataSetID = ie.1) :
    ∃ status', analyzeErrors status errs = some status' ∧ Tracked data status' ∧
      Marked (errs.map markOf) status status' := by
  induction errs generalizing status with
  | nil => exact ⟨status, rfl, h, Marked.refl status⟩
  | cons ie errs ih =>
    obtain ⟨ctx, hctx, hid⟩ := herrs ie List.mem_cons_self
    obtain ⟨status₁, hstep, htracked, hmarked⟩ := h.analyzeError hctx ie.2
    obtain ⟨status₂, hrest, htracked₂, hmarked₂⟩ :=
      ih htracked fun ie' hie' => herrs ie' (List.mem_cons_of_mem _ hie')
    rw [hid] at hstep hmarked
    refine ⟨status₂, ?_, htracked₂, hmarked.trans hmarked₂⟩
    rw [Fybrik.analyzeErrors, List.foldlM_cons]
    simp only [hstep]
    exact hrest

/-! ## The fresh status -/

/-- The status after `initStatus`: all datasets are tracked, no condition is true. -/
structure Fresh (data : List DataContext) (status status' : FybrikApplicationStatus) : Prop where
  tracked : Tracked data status'
  isTrue : ∀ index id, status'.isTrue index id = false
  ready : status'.ready = data.isEmpty
  errorMessage : status'.errorMessage = ""
  observedGeneration : status'.observedGeneration = status.observedGeneration
  generated : status'.generated = status.generated

theorem initStatus_eq (data : List DataContext) (status : FybrikApplicationStatus) :
    initStatus data status = { status with
      errorMessage := "", ready := data.isEmpty
      assetStates := GoMap.ofList (data.map fun ctx => (ctx.dataSetID, freshAssetState)) } := by
  have hloop : ∀ (l : List DataContext) (status : FybrikApplicationStatus),
      l.foldl (fun status asset => resetAssetState status asset.dataSetID) status
        = { status with assetStates :=
            status.assetStates.setAll (l.map fun ctx => (ctx.dataSetID, freshAssetState)) } := by
    intro l
    induction l with
    | nil => exact fun _ => rfl
    | cons ctx l ih =>
      intro status
      rw [List.foldl_cons, ih, List.map_cons, GoMap.setAll_cons]
      rfl
  rw [initStatus, hloop]
  rfl

/-- The states of the assets are those of the datasets, and nothing is known of them. -/
theorem lookup_initStatus (data : List DataContext) (status : FybrikApplicationStatus)
    (id : String) : (initStatus data status).assetStates.lookup id
      = if ∃ ctx ∈ data, ctx.dataSetID = id then some freshAssetState else none := by
  rw [initStatus_eq, GoMap.ofList, GoMap.lookup_setAll_const]
  rfl

theorem eq_fresh_of_lookup_initStatus
    (h : (initStatus data status).assetStates.lookup id = some state) :
    state = freshAssetState := by
  rw [lookup_initStatus] at h
  split at h
  · exact (Option.some.inj h).symm
  · cases h

theorem initStatus_fresh (data : List DataContext) (status : FybrikApplicationStatus) :
    Fresh data status (initStatus data status) := by
  refine ⟨⟨fun id state h => ?_, fun ctx hctx => ?_⟩, fun index id => ?_, ?_, ?_, ?_, ?_⟩
  · rw [eq_fresh_of_lookup_initStatus h]
    exact ⟨rfl, by decide, by decide⟩
  · exact ⟨freshAssetState, by rw [lookup_initStatus, if_pos ⟨ctx, hctx, rfl⟩]⟩
  · unfold FybrikApplicationStatus.isTrue
    cases hlookup : (initStatus data status).assetStates.lookup id with
    | none =>
      rw [GoMap.get_of_lookup_none hlookup]
      rfl
    | some state =>
      rw [GoMap.get_of_lookup hlookup, eq_fresh_of_lookup_initStatus hlookup]
      match index with
      | 0 => rfl
      | 1 => rfl
      | 2 => rfl
      | index + 3 => rfl
  all_goals rw [initStatus_eq]

/-! ## Summaries of the conditions -/

/-- The conditions of a tracked asset. -/
theorem Tracked.conditions (h : Tracked data status) (hctx : ctx ∈ data) :
    ∃ ready deny error, (status.assetStates.get ctx.dataSetID).conditions = [ready, deny, error] ∧
      (deny.status = .conditionFalse ↔ status.isTrue denyConditionIndex ctx.dataSetID = false) ∧
      (ready.status = .conditionFalse ↔
        status.isTrue readyConditionIndex ctx.dataSetID = false) := by
  obtain ⟨state, hstate⟩ := h.present ctx hctx
  have hkept := h.wellKept _ _ hstate
  obtain ⟨ready, deny, error, hconditions⟩ := List.length_eq_three.1 hkept.length
  have hdecided := hkept.decided
  rw [hconditions] at hdecided
  refine ⟨ready, deny, error, ?_, ?_, ?_⟩
  · rw [GoMap.get_of_lookup hstate, hconditions]
  · rw [FybrikApplicationStatus.isTrue, GoMap.get_of_lookup hstate, hconditions]
    rcases hdecided deny (by simp) with hd | hd <;> simp [denyConditionIndex, hd]
  · rw [FybrikApplicationStatus.isTrue, GoMap.get_of_lookup hstate, hconditions]
    rcases hdecided ready (by simp) with hr | hr <;> simp [readyConditionIndex, hr]

theorem Tracked.assetsReady (h : Tracked data status) {l : List DataContext}
    (hl : ∀ ctx ∈ l, ctx ∈ data) :
    assetsReady status l = some (l.all fun ctx =>
      status.isTrue denyConditionIndex ctx.dataSetID ||
        status.isTrue readyConditionIndex ctx.dataSetID) := by
  induction l with
  | nil => rfl
  | cons ctx l ih =>
    obtain ⟨ready, deny, error, hconditions, hdeny, hready⟩ :=
      h.conditions (hl ctx List.mem_cons_self)
    rw [Fybrik.assetsReady, hconditions, ih fun c hc => hl c (List.mem_cons_of_mem _ hc),
      List.all_cons]
    simp only [List.isEmpty_cons, Bool.false_eq_true, if_false, denyConditionIndex,
      readyConditionIndex, List.getElem?_cons_succ, List.getElem?_cons_zero]
    simp only [hdeny, hready, denyConditionIndex, readyConditionIndex]
    cases status.isTrue 1 ctx.dataSetID <;> cases status.isTrue 0 ctx.dataSetID <;> simp

/-- An application is ready if each of its datasets is denied or ready. -/
theorem isReady_eq (h : Tracked data status) :
    isReady data status = some (data.all fun ctx =>
      status.isTrue denyConditionIndex ctx.dataSetID ||
        status.isTrue readyConditionIndex ctx.dataSetID) := by
  rw [isReady]
  cases hdata : data with
  | nil => rfl
  | cons ctx l =>
    obtain ⟨state, hstate⟩ := h.present ctx (hdata ▸ List.mem_cons_self)
    have hpairs : status.assetStates.pairs.isEmpty = false := by
      rw [List.isEmpty_eq_false_iff]
      exact List.ne_nil_of_mem (GoMap.mem_pairs.2 hstate)
    rw [if_neg (by simp), hpairs, if_neg (by simp), ← hdata]
    exact h.assetsReady fun _ hctx => hctx

theorem intercalate_eq_empty_iff {sep : String} {l : List String} (h : ∀ m ∈ l, m ≠ "") :
    sep.intercalate l = "" ↔ l = [] := by
  cases l with
  | nil => simp
  | cons m l =>
    have hm : m.toList ≠ [] := fun hnil =>
      h m List.mem_cons_self (String.toList_injective hnil)
    rw [← String.toList_inj, String.toList_intercalate]
    cases l with
    | nil => simpa [List.intercalate] using hm
    | cons m' l => simp [List.intercalate, hm]

/-- There is an error message if and only if some asset has an error. -/
theorem getErrorMessages_eq (h : Tracked data status) (hmsg : status.errorMessage = "") :
    ∃ msg, getErrorMessages status = some msg ∧
      (msg = "" ↔ ∀ id, status.isTrue errorConditionIndex id = false) := by
  -- the messages of each asset
  have hstate : ∀ id state, status.assetStates.lookup id = some state →
      ∃ msgs, assetErrors state = some msgs ∧ (∀ m ∈ msgs, m ≠ "") ∧
        (msgs = [] ↔ status.isTrue errorConditionIndex id = false) := by
    intro id state hlookup
    have hkept := h.wellKept id state hlookup
    obtain ⟨c, hc⟩ : ∃ c, state.conditions[errorConditionIndex]? = some c :=
      ⟨_, List.getElem?_eq_getElem (by rw [hkept.length]; decide)⟩
    rw [assetErrors, hc, FybrikApplicationStatus.isTrue, GoMap.get_of_lookup hlookup, hc]
    by_cases htrue : c.status = .conditionTrue
    · refine ⟨[c.message], by simp [htrue], ?_, by simp [htrue]⟩
      intro m hm
      rw [List.mem_singleton.1 hm]
      exact hkept.message c hc htrue
    · exact ⟨[], by simp [htrue], by simp, by simp [htrue]⟩
  obtain ⟨msgs, hmsgs, hrel⟩ := Loops.exists_mapM_eq_some
    fun (p : String × AssetState) (hp : p ∈ status.assetStates.pairs) =>
      hstate p.1 p.2 (GoMap.mem_pairs.1 hp)
  have hnonempty : ∀ ms ∈ msgs, ∀ m ∈ ms, m ≠ "" :=
    (Loops.forall_mem_iff_of_forall₂ hrel fun p ms hp =>
      (iff_of_true trivial hp.1 : True ↔ _)).1 fun _ _ => trivial
  have hnone := Loops.forall_mem_iff_of_forall₂ hrel fun p ms hp => hp.2.symm
  refine ⟨_, by rw [getErrorMessages, if_neg (by simp [hmsg]), hmsgs]; rfl, ?_⟩
  rw [intercalate_eq_empty_iff fun m hm => ?_, List.flatten_eq_nil_iff, ← hnone]
  · constructor
    · intro hpairs id
      cases hlookup : status.assetStates.lookup id with
      | none => rw [FybrikApplicationStatus.isTrue, GoMap.get_of_lookup_none hlookup]; rfl
      | some state => exact hpairs (id, state) (GoMap.mem_pairs.2 hlookup)
    · exact fun hall p _ => hall p.1
  · obtain ⟨ms, hms, hmem⟩ := List.mem_flatten.1 hm
    exact hnonempty ms hms m hmem

end Fybrik
