import Fybrik.Api.Services
import Fybrik.Lib.Removal

/-!
# Provisioned storage

`pkg/storage/storage_provisioning.go`: buckets are requested by creating `Dataset`
resources, which have the name of the bucket.

* `Datasets` — the resources there are; `ProvisionImpl.createDataset`,
  `ProvisionImpl.deleteDataset` — as in the source.
* `datasetRemover` — if nothing else goes wrong, a resource that is there is deleted, and
  deleting one that is gone is an error.
* `Execution` — the effect of a sequence of such calls, whose outcomes are known, and
  `createdBy`, the resources it creates: `Execution.created_of_present` and
  `Execution.present_of_deletes` say which resources may be there in the end.
-/

namespace Fybrik

/-- The `Dataset` resources, each with the bucket it asks for. -/
abbrev Datasets := GoMap NamespacedName ProvisionedBucket

/-- The answers `ProvisionImpl` gets from the API server; reading or deleting a resource
that does not exist, and creating one that does, fails in any case. -/
structure ProvisionImpl where
  get : NamespacedName → Option String
  create : NamespacedName → Option String
  delete : NamespacedName → Option String

/-- The error for a resource that is not there. -/
def datasetNotFound (ref : NamespacedName) : String :=
  "datasets.com.ie.ibm.hpsys \"" ++ ref.name ++ "\" not found"

/-- The error for a resource that is there already. -/
def datasetExists (ref : NamespacedName) : String :=
  "datasets.com.ie.ibm.hpsys \"" ++ ref.name ++ "\" already exists"

namespace ProvisionImpl

variable (p : ProvisionImpl)

/-- `getDatasetAsUnstructured`. -/
def getDataset (datasets : Datasets) (ref : NamespacedName) : Except String ProvisionedBucket :=
  match p.get ref, datasets.lookup ref with
  | some err, _ => .error err
  | none, none => .error (datasetNotFound ref)
  | none, some existing => .ok existing

/-- `DeleteDataset`. -/
def deleteDataset (datasets : Datasets) (ref : NamespacedName) : Datasets × Option String :=
  match p.getDataset datasets ref with
  | .error err => (datasets, some err)
  | .ok _ =>
    match p.delete ref with
    | some err => (datasets, some err)
    | none => (datasets.delete ref, none)

/-- The last part of `CreateDataset`. -/
def storeDataset (datasets : Datasets) (ref : NamespacedName) (bucket : ProvisionedBucket) :
    Datasets × Option String :=
  match p.create ref, datasets.lookup ref with
  | some err, _ => (datasets, some err)
  | none, some _ => (datasets, some (datasetExists ref))
  | none, none => (datasets.set ref bucket, none)

/-- `CreateDataset`.  A resource for another bucket is deleted first. -/
def createDataset (datasets : Datasets) (ref : NamespacedName) (bucket : ProvisionedBucket) :
    Datasets × Option String :=
  match p.getDataset datasets ref with
  | .error _ => p.storeDataset datasets ref bucket
  | .ok existing =>
    if bucket = existing then (datasets, none)
    else
      match p.deleteDataset datasets ref with
      | (datasets, some err) => (datasets, some err)
      | (datasets, none) => p.storeDataset datasets ref bucket

/-- No call fails because of the API server. -/
structure Undisturbed : Prop where
  get : ∀ ref, p.get ref = none
  delete : ∀ ref, p.delete ref = none

variable {p} {datasets : Datasets} {ref k : NamespacedName} {bucket : ProvisionedBucket}

/-- A deletion removes the resource, or nothing. -/
theorem deleteDataset_cases (p : ProvisionImpl) (datasets : Datasets) (ref : NamespacedName) :
    ((p.deleteDataset datasets ref).1 = datasets ∧ (p.deleteDataset datasets ref).2 ≠ none) ∨
      p.deleteDataset datasets ref = (datasets.delete ref, none) := by
  unfold deleteDataset
  split
  · exact Or.inl ⟨rfl, Option.some_ne_none _⟩
  · split
    · exact Or.inl ⟨rfl, Option.some_ne_none _⟩
    · exact Or.inr rfl

theorem deleteDataset_undisturbed (h : p.Undisturbed) (datasets : Datasets) (ref : NamespacedName) :
    p.deleteDataset datasets ref =
      if (datasets.lookup ref).isSome then (datasets.delete ref, none)
      else (datasets, some (datasetNotFound ref)) := by
  unfold deleteDataset getDataset
  rw [h.get, h.delete]
  cases datasets.lookup ref <;> rfl

/-- Deleting resources. -/
def datasetRemover (p : ProvisionImpl) (h : p.Undisturbed) :
    Removal.Remover Datasets NamespacedName NamespacedName String where
  remove := p.deleteDataset
  target := id
  holds datasets ref := (datasets.lookup ref).isSome = true
  succeeds datasets ref hsome := by
    rw [id_eq] at hsome
    rw [deleteDataset_undisturbed h, if_pos hsome]
  removes datasets ref hsome k := by
    rw [id_eq] at hsome
    rw [deleteDataset_undisturbed h, if_pos hsome]
    exact GoMap.isSome_lookup_delete
  fails datasets ref hnone := by
    rw [id_eq] at hnone
    rw [deleteDataset_undisturbed h, if_neg hnone]
    exact Option.some_ne_none _

theorem present_of_storeDataset
    (h : ((p.storeDataset datasets ref bucket).1.lookup k).isSome = true) :
    (datasets.lookup k).isSome = true ∨
      (k = ref ∧ (p.storeDataset datasets ref bucket).2 = none) := by
  unfold storeDataset at h ⊢
  split at h
  · exact Or.inl h
  · exact Or.inl h
  · by_cases hk : k = ref
    · exact Or.inr ⟨hk, rfl⟩
    · rw [GoMap.set, AList.lookup_insert_ne hk] at h
      exact Or.inl h

/-- A resource that is there after a creation was there before, or has been created. -/
theorem present_of_createDataset
    (h : ((p.createDataset datasets ref bucket).1.lookup k).isSome = true) :
    (datasets.lookup k).isSome = true ∨
      (k = ref ∧ (p.createDataset datasets ref bucket).2 = none) := by
  unfold createDataset at h ⊢
  split at h
  · exact present_of_storeDataset h
  · split at h
    · rename_i hequal
      exact Or.inl h
    · rename_i hdiffers
      rw [if_neg hdiffers]
      rcases p.deleteDataset_cases datasets ref with ⟨hsame, hfails⟩ | hdeleted
      · cases hdelete : p.deleteDataset datasets ref with
        | mk datasets' err =>
          rw [hdelete] at h hsame hfails
          obtain rfl := hsame
          cases err with
          | none => exact absurd rfl hfails
          | some err => exact Or.inl h
      · simp only [hdeleted] at h ⊢
        refine (present_of_storeDataset h).imp_left fun hpresent => ?_
        exact (GoMap.isSome_lookup_delete.1 hpresent).1

end ProvisionImpl

/-! ## Sequences of calls -/

/-- A call of `ProvisionInterface` that changes the resources. -/
inductive DatasetCall where
  | create (ref : NamespacedName) (bucket : ProvisionedBucket)
  | delete (ref : NamespacedName)
  deriving DecidableEq

/-- The effect and the outcome of a call. -/
def ProvisionImpl.execute (p : ProvisionImpl) (datasets : Datasets) :
    DatasetCall → Datasets × Option String
  | .create ref bucket => p.createDataset datasets ref bucket
  | .delete ref => p.deleteDataset datasets ref

/-- The resources there are before and after some calls with known outcomes, whatever the
API server has answered. -/
inductive Execution : Datasets → List (DatasetCall × Option String) → Datasets → Prop
  | nil {datasets : Datasets} : Execution datasets [] datasets
  | cons {datasets datasets₁ datasets₂ : Datasets} {call : DatasetCall} {err : Option String}
      {calls : List (DatasetCall × Option String)} (p : ProvisionImpl)
      (hcall : p.execute datasets call = (datasets₁, err))
      (hcalls : Execution datasets₁ calls datasets₂) :
      Execution datasets ((call, err) :: calls) datasets₂

/-- The resources that some calls create. -/
def createdBy (calls : List (DatasetCall × Option String)) : List NamespacedName :=
  calls.filterMap fun
    | (.create ref _, none) => some ref
    | _ => none

theorem mem_createdBy {calls : List (DatasetCall × Option String)} {ref : NamespacedName} :
    ref ∈ createdBy calls ↔ ∃ bucket, (DatasetCall.create ref bucket, none) ∈ calls := by
  rw [createdBy, List.mem_filterMap]
  constructor
  · rintro ⟨⟨call, err⟩, hmem, hcall⟩
    cases call with
    | delete ref' => cases hcall
    | create ref' bucket =>
      cases err with
      | some err => cases hcall
      | none =>
        cases hcall
        exact ⟨bucket, hmem⟩
  · rintro ⟨bucket, hmem⟩
    exact ⟨_, hmem, rfl⟩

namespace Execution

variable {datasets datasets' : Datasets} {calls calls' : List (DatasetCall × Option String)}
  {k : NamespacedName}

theorem append_cases (h : Execution datasets (calls ++ calls') datasets') :
    ∃ datasets₁, Execution datasets calls datasets₁ ∧ Execution datasets₁ calls' datasets' := by
  induction calls generalizing datasets with
  | nil => exact ⟨datasets, .nil, h⟩
  | cons call calls ih =>
    cases h with
    | cons p hcall hcalls =>
      obtain ⟨datasets₁, hfirst, hsecond⟩ := ih hcalls
      exact ⟨datasets₁, .cons p hcall hfirst, hsecond⟩

/-- What is there in the end was there in the beginning, or has been created. -/
theorem created_of_present (h : Execution datasets calls datasets')
    (hpresent : (datasets'.lookup k).isSome = true) :
    (datasets.lookup k).isSome = true ∨ k ∈ createdBy calls := by
  rw [mem_createdBy]
  induction h with
  | nil => exact Or.inl hpresent
  | @cons datasets datasets₁ _ call err calls p hcall _ ih =>
    rcases ih hpresent with hpresent₁ | ⟨bucket, hmem⟩
    · cases call with
      | create ref bucket =>
        have hcall : p.createDataset datasets ref bucket = (datasets₁, err) := hcall
        have hbefore := @ProvisionImpl.present_of_createDataset p datasets ref k bucket
        rw [hcall] at hbefore
        rcases hbefore hpresent₁ with hpresent₀ | ⟨rfl, rfl⟩
        · exact Or.inl hpresent₀
        · exact Or.inr ⟨bucket, List.mem_cons_self⟩
      | delete ref =>
        have hcall : p.deleteDataset datasets ref = (datasets₁, err) := hcall
        left
        rcases p.deleteDataset_cases datasets ref with ⟨hsame, -⟩ | hdeleted
        · rw [hcall] at hsame
          exact hsame ▸ hpresent₁
        · obtain ⟨rfl, -⟩ := Prod.mk.inj (hcall.symm.trans hdeleted)
          exact (GoMap.isSome_lookup_delete.1 hpresent₁).1
    · exact Or.inr ⟨bucket, List.mem_cons_of_mem _ hmem⟩

/-- What is there after deletions was there before, and has not been deleted. -/
theorem present_of_deletes (h : Execution datasets calls datasets')
    (hdeletes : ∀ call ∈ calls, ∃ ref, call.1 = DatasetCall.delete ref)
    (hpresent : (datasets'.lookup k).isSome = true) :
    (datasets.lookup k).isSome = true ∧ (DatasetCall.delete k, none) ∉ calls := by
  induction h with
  | nil => exact ⟨hpresent, List.not_mem_nil⟩
  | @cons datasets datasets₁ _ call err calls p hcall _ ih =>
    obtain ⟨hpresent₁, hnot⟩ := ih (fun c hc => hdeletes c (List.mem_cons_of_mem _ hc)) hpresent
    obtain ⟨ref, hdelete⟩ := hdeletes _ List.mem_cons_self
    have hcall : p.deleteDataset datasets ref = (datasets₁, err) := by
      rw [show call = .delete ref from hdelete] at hcall
      exact hcall
    rcases p.deleteDataset_cases datasets ref with ⟨hsame, hfails⟩ | hdeleted
    · rw [hcall] at hsame hfails
      refine ⟨hsame ▸ hpresent₁, fun hmem => ?_⟩
      rcases List.mem_cons.1 hmem with heq | hmem
      · exact hfails (Prod.mk.inj heq).2.symm
      · exact hnot hmem
    · obtain ⟨rfl, -⟩ := Prod.mk.inj (hcall.symm.trans hdeleted)
      obtain ⟨hpresent₀, hne⟩ := GoMap.isSome_lookup_delete.1 hpresent₁
      refine ⟨hpresent₀, fun hmem => ?_⟩
      rcases List.mem_cons.1 hmem with heq | hmem
      · exact hne (DatasetCall.delete.inj ((Prod.mk.inj heq).1.trans hdelete))
      · exact hnot hmem

end Execution

end Fybrik
