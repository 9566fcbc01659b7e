import Fybrik.Lib.OptimisticStore

/-!
# Updates of resources

`UpdateFinalizers` and `UpdateStatus` of `utils.go`: a resource is written back to the API
server, and if another client has written to it since it was read, it is read again and the
change is repeated.

* `Resource` — a resource as far as the helpers read it; `submitObject` and `submitStatus`
  are what the API server makes of the two kinds of updates.
* `updateFinalizers`, `updateStatus` — as in the source.
* `FinalizersKept` — what other clients must have done to the list of finalizers.
* `updates_preserve_iff` — when a change by other clients survives.
-/

namespace Fybrik

/-- A resource: its finalizers, its status and the rest of it. -/
structure Resource (C S : Type) where
  content : C
  finalizers : List String
  /-- A deletion time is scheduled. -/
  beingDeleted : Bool
  status : S
  deriving DecidableEq

variable {C S : Type}

/-! ## The API server -/

/-- `Update`: everything but the status, which is a resource of its own, is replaced.  A
resource that is being deleted is gone with its last finalizer. -/
def submitObject (request current : Resource C S) : Option (Resource C S) :=
  if current.beingDeleted && request.finalizers.isEmpty then none
  else some { current with content := request.content, finalizers := request.finalizers }

/-- `Status().Update`: the status is replaced. -/
def submitStatus (request current : Resource C S) : Option (Resource C S) :=
  some { current with status := request.status }

/-- The number of attempts of `retry.DefaultRetry`. -/
def defaultRetrySteps : ℕ := 5

/-! ## Finalizers -/

/-- What the controller does to the list of finalizers before it calls `UpdateFinalizers`. -/
inductive FinalizerChange where
  | add
  | remove
  deriving DecidableEq, Repr

/-- `AddFinalizer` and `RemoveFinalizer`. -/
def FinalizerChange.apply (name : String) (finalizers : List String) :
    FinalizerChange → List String
  | add => if finalizers.contains name then finalizers else finalizers ++ [name]
  | remove => finalizers.filter fun finalizer => finalizer != name

/-- `UpdateFinalizers`.  After a conflict the finalizers of the object are carried over to
the latest version of it. -/
def updateFinalizers (traffic : Traffic (Resource C S)) (s : Store (Resource C S)) (version : ℕ)
    (obj : Resource C S) : Store (Resource C S) × Option Refusal :=
  s.updateOr submitObject traffic version obj fun s =>
    s.retryOnConflict submitObject traffic (fun latest => { latest with finalizers := obj.finalizers })
      defaultRetrySteps 1

/-- The finalizers of a resource; there are none if it is gone. -/
def finalizersOf (x : Option (Resource C S)) : List String := (x.map Resource.finalizers).getD []

theorem finalizersOf_submitObject (request current : Resource C S) :
    finalizersOf (submitObject request current) = request.finalizers := by
  unfold submitObject
  split
  · rename_i hgone
    rw [Bool.and_eq_true, List.isEmpty_iff] at hgone
    exact hgone.2.symm
  · rfl

/-- Whenever `UpdateFinalizers` succeeds, the finalizers of its object are stored. -/
theorem finalizers_updateFinalizers {traffic : Traffic (Resource C S)} {version : ℕ}
    {x obj : Resource C S} {s' : Store (Resource C S)}
    (h : updateFinalizers traffic (.ofRead version x) version obj = (s', none)) :
    finalizersOf (s'.stored.map Prod.snd) = obj.finalizers := by
  rcases Store.succeeds_updateOr (Store.unchanged_ofRead version x) h with
    ⟨-, hstored⟩ | ⟨t, ht, hretry⟩
  · rw [hstored, finalizersOf_submitObject]
  · obtain ⟨latest, -, hstored⟩ := Store.succeeds_retryOnConflict ht hretry
    rw [hstored, finalizersOf_submitObject]

/-- Other clients have left the finalizers as they were read, apart from the one that the
controller adds or removes. -/
def FinalizersKept (name : String) (read left : List String) : FinalizerChange → Prop
  | .add => left = read ∨ (name ∉ read ∧ left = read ++ [name]) ∨
      (name ∉ left ∧ read = left ++ [name])
  | .remove => (left.filter fun finalizer => finalizer != name)
      = read.filter fun finalizer => finalizer != name

theorem apply_eq_apply_iff (name : String) (read left : List String) (change : FinalizerChange) :
    change.apply name read = change.apply name left ↔ FinalizersKept name read left change := by
  cases change with
  | remove => exact eq_comm
  | add =>
    unfold FinalizerChange.apply FinalizersKept
    simp only [List.contains_iff_mem]
    by_cases hread : name ∈ read
    · rw [if_pos hread]
      by_cases hleft : name ∈ left
      · rw [if_pos hleft]
        simp [hread, hleft, eq_comm]
      · rw [if_neg hleft]
        have hne : left ≠ read := fun heq => hleft (heq ▸ hread)
        simp [hread, hleft, hne]
    · rw [if_neg hread]
      by_cases hleft : name ∈ left
      · rw [if_pos hleft]
        have hne : left ≠ read := fun heq => hread (heq ▸ hleft)
        simp [hread, hleft, hne, eq_comm]
      · rw [if_neg hleft]
        have hne : left ≠ read ++ [name] := fun heq => hleft (by simp [heq])
        have hne' : read ≠ left ++ [name] := fun heq => hread (by simp [heq])
        simp [hne, hne', eq_comm]

/-! ## Status -/

/-- A status as a value of type `interface{}`: none at all, a pointer to the struct, or the
map that is made from it by way of JSON. -/
inductive StatusValue (S : Type) where
  | nil
  | pointer (status : S)
  | map (status : S)
  deriving DecidableEq

/-- `equality.Semantic.DeepEqual`: values of different types are different. -/
def semanticDeepEqual [DecidableEq S] : StatusValue S → StatusValue S → Bool
  | .nil, .nil => true
  | .pointer status, .pointer status' => status = status'
  | .map status, .map status' => status = status'
  | _, _ => false

/-- `UpdateStatus`.  The status of the object is compared with the previous one after it has
been made a map. -/
def updateStatus [DecidableEq S] (traffic : Traffic (Resource C S)) (s : Store (Resource C S))
    (version : ℕ) (obj : Resource C S) (previousStatus : StatusValue S) :
    Store (Resource C S) × Option Refusal :=
  s.updateOr submitStatus traffic version obj fun s =>
    if previousStatus != .nil && semanticDeepEqual previousStatus (.map obj.status) then (s, none)
    else
      s.retryOnConflict submitStatus traffic (fun latest => { latest with status := obj.status })
        defaultRetrySteps 1

/-- The value represents a status. -/
def StatusValue.Represents (status : S) : StatusValue S → Prop
  | .nil => False
  | .pointer status' => status' = status
  | .map status' => status' = status

/-- When `UpdateStatus` succeeds without a change by the controller, the status that was read
is stored, unless there was a conflict and the previous status was a map: then nothing has
been written. -/
theorem status_updateStatus [DecidableEq S] {traffic : Traffic (Resource C S)} {version : ℕ}
    {x obj : Resource C S} {previousStatus : StatusValue S} {s' : Store (Resource C S)}
    (hobj : obj.status = x.status) (hprevious : previousStatus.Represents x.status)
    (h : updateStatus traffic (.ofRead version x) version obj previousStatus = (s', none)) :
    (s'.stored.map fun vx => vx.2.status) = some x.status ∧
        (s'.left = some x ∨ previousStatus ≠ .map x.status) ∨
      s'.stored.map Prod.snd = s'.left ∧ previousStatus = .map x.status := by
  have hstatus : ∀ request current : Resource C S, request.status = x.status →
      s'.stored.map Prod.snd = submitStatus request current →
      (s'.stored.map fun vx => vx.2.status) = some x.status := by
    intro request current hrequest hstored
    have hmap := congrArg (Option.map Resource.status) hstored
    rw [Option.map_map] at hmap
    rw [← hrequest]
    exact hmap
  rcases Store.succeeds_updateOr (Store.unchanged_ofRead version x) h with
    ⟨hleft, hstored⟩ | ⟨t, ht, hconflict⟩
  · exact Or.inl ⟨hstatus _ _ hobj hstored, Or.inl hleft⟩
  · split at hconflict
    · rename_i hequal
      obtain rfl := (Prod.mk.inj hconflict).1
      rw [hobj, Bool.and_eq_true] at hequal
      refine Or.inr ⟨ht.left, ?_⟩
      cases previousStatus with
      | nil => exact absurd hequal.1 (by simp)
      | pointer status => exact absurd hequal.2 (by simp [semanticDeepEqual])
      | map status => exact congrArg StatusValue.map hprevious
    · rename_i hdiffers
      obtain ⟨latest, -, hstored⟩ := Store.succeeds_retryOnConflict ht hconflict
      refine Or.inl ⟨hstatus _ _ hobj hstored, Or.inr ?_⟩
      rintro rfl
      exact hdiffers (by simp [semanticDeepEqual, hobj])

/-! ## What survives of the changes by other clients -/

/-- When changes that other clients make between the read of a resource and the success of a
helper survive.  The finalizers are those the others have left, with the controller's own
added or removed, exactly if the others have left all other finalizers as they were.  If
the controller has not changed the status, it is the one the others have left exactly if
that is the one that was read, or if the previous status is given as a map. -/
theorem updates_preserve_iff [DecidableEq S] (version : ℕ) (x : Resource C S) (content : C)
    (traffic : Traffic (Resource C S)) (s' : Store (Resource C S)) :
    (∀ name change, updateFinalizers traffic (.ofRead version x) version { x with
          content := content, finalizers := change.apply name x.finalizers } = (s', none) →
      (finalizersOf (s'.stored.map Prod.snd) = change.apply name (finalizersOf s'.left) ↔
        FinalizersKept name x.finalizers (finalizersOf s'.left) change)) ∧
    ∀ previousStatus : StatusValue S, previousStatus.Represents x.status →
      updateStatus traffic (.ofRead version x) version { x with content := content } previousStatus
          = (s', none) →
      ((s'.stored.map fun vx => vx.2.status) = s'.left.map Resource.status ↔
        s'.left.map Resource.status = some x.status ∨ previousStatus = .map x.status) := by
  constructor
  · intro name change h
    rw [finalizers_updateFinalizers h]
    exact apply_eq_apply_iff name x.finalizers (finalizersOf s'.left) change
  · intro previousStatus hprevious h
    rcases status_updateStatus rfl hprevious h with ⟨hstored, hleft⟩ | ⟨hstored, hmap⟩
    · rw [hstored, eq_comm]
      constructor
      · exact Or.inl
      · rintro (hsame | hmap)
        · exact hsame
        · rw [hleft.resolve_right (not_not.2 hmap)]
          rfl
    · refine iff_of_true ?_ (Or.inr hmap)
      rw [← hstored, Option.map_map]
      rfl

/-- An application as it was read, with the finalizer of another controller. -/
def notebookResource : Resource String String :=
  ⟨"generation 1", ["backup.finalizer"], false, "pending"⟩

/-- One other client writes to the application right before the first request. -/
def oneWrite (x : Resource String String) : Traffic (Resource String String) :=
  { writes := fun n => if n = 0 then [some x] else [], faults := fun _ => none }

/-- The user edits the specification, and nothing else. -/
def editedResource : Resource String String := { notebookResource with content := "generation 2" }

/-- Another controller adds its finalizer, and the status is written. -/
def touchedResource : Resource String String :=
  { notebookResource with
    finalizers := ["backup.finalizer", "audit.finalizer"]
    status := "denied" }

/-- The finalizers as the controller of applications wants them. -/
def notebookFinalized : Resource String String :=
  { notebookResource with
    finalizers := FinalizerChange.add.apply "app.finalizer" notebookResource.finalizers }

/-- An edit of the specification makes both helpers retry, and does no harm. -/
theorem edited_updates_preserve :
    (updateFinalizers (oneWrite editedResource) (.ofRead 1 notebookResource) 1 notebookFinalized
      = (⟨3, some (3, { notebookFinalized with content := "generation 2" }), some editedResource⟩,
        none) ∧
      FinalizersKept "app.finalizer" notebookResource.finalizers (finalizersOf (some editedResource))
        .add) ∧
    updateStatus (oneWrite editedResource) (.ofRead 1 notebookResource) 1 notebookResource
        (.pointer "pending") = (⟨3, some (3, editedResource), some editedResource⟩, none) ∧
      ((some editedResource).map Resource.status = some "pending" ∨
        StatusValue.pointer "pending" = .map "pending") := by
  refine ⟨⟨by decide, ?_⟩, by decide, ?_⟩
  · exact ((updates_preserve_iff 1 notebookResource notebookResource.content
      (oneWrite editedResource)
      ⟨3, some (3, { notebookFinalized with content := "generation 2" }), some editedResource⟩).1
        "app.finalizer" .add (by decide)).1 (by decide)
  · exact ((updates_preserve_iff 1 notebookResource notebookResource.content
      (oneWrite editedResource) ⟨3, some (3, editedResource), some editedResource⟩).2
        (.pointer "pending") rfl (by decide)).1 (by decide)

/-- The finalizer that another controller has added is gone, and so is the status that
another client has written, although the controller has not changed the status. -/
theorem touched_not_preserved :
    (∃ s', updateFinalizers (oneWrite touchedResource) (.ofRead 1 notebookResource) 1
        notebookFinalized = (s', none) ∧
      finalizersOf s'.left = ["backup.finalizer", "audit.finalizer"] ∧
      finalizersOf (s'.stored.map Prod.snd) = ["backup.finalizer", "app.finalizer"]) ∧
    ∃ s', updateStatus (oneWrite touchedResource) (.ofRead 1 notebookResource) 1 notebookResource
        (.pointer notebookResource.status) = (s', none) ∧
      s'.left.map Resource.status = some "denied" ∧
      (s'.stored.map fun vx => vx.2.status) = some "pending" := by
  refine ⟨⟨⟨3, some (3, { touchedResource with
      finalizers := ["backup.finalizer", "app.finalizer"] }), some touchedResource⟩, ?_⟩,
    ⟨3, some (3, { touchedResource with status := "pending" }), some touchedResource⟩, ?_⟩
  · decide
  · decide

end Fybrik
