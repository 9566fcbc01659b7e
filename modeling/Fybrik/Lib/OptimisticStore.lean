import Mathlib.Data.Nat.Basic

/-!
# A store with optimistic concurrency

A server keeps a value with a version.  Every write makes a new version, and a client that
wants to replace the value says which version it has read: if the value has been written
since, the request is refused as a conflict, and the client may read again and retry.

* `Store` — the value, and what the other clients have left there.
* `Traffic` — what the other clients write between the requests of a client, and which of
  its requests fail for other reasons.
* `updateOr`, `retryOnConflict` — a first attempt with what to do on a conflict, and the
  loop that reads again and retries.
* `Unchanged` — what is known of the store once a value has been read.
* `succeeds_updateOr`, `succeeds_retryOnConflict` — what a successful request has replaced
  is what the other clients have left.
-/

/-- A value with its version.  `left` is what the other clients have left there: the client
under consideration does not write to it. -/
structure Store (X : Type) where
  revision : ℕ
  stored : Option (ℕ × X)
  left : Option X
  deriving DecidableEq

/-- Why a request is refused. -/
inductive Refusal where
  | conflict
  | other (err : String)
  deriving DecidableEq, Repr

/-- What happens around the requests of a client, which are counted from 0: what the other
clients have written by then, and whether the request fails for another reason than a
conflict.  Writing nothing deletes the value. -/
structure Traffic (X : Type) where
  writes : ℕ → List (Option X)
  faults : ℕ → Option String

namespace Store

variable {X : Type}

/-- A value that has just been read. -/
def ofRead (version : ℕ) (x : X) : Store X := ⟨version, some (version, x), some x⟩

/-- Another client writes a value or deletes it. -/
def write (s : Store X) (x : Option X) : Store X :=
  ⟨s.revision + 1, x.map fun x => (s.revision + 1, x), x⟩

/-- Other clients write one after the other. -/
def writeAll (s : Store X) (xs : List (Option X)) : Store X := xs.foldl write s

/-- A request to replace the value.  What it is replaced by depends on the request and on
what is stored; nothing means that the value is deleted. -/
def update (submit : X → X → Option X) (s : Store X) (version : ℕ) (request : X) :
    Except Refusal (Store X) :=
  match s.stored with
  | none => .error (.other "not found")
  | some (current, x) =>
    if current ≠ version then .error .conflict
    else .ok { s with
      revision := s.revision + 1
      stored := (submit request x).map fun x => (s.revision + 1, x) }

/-- The first request of a client, and what it does in case of a conflict. -/
def updateOr (submit : X → X → Option X) (traffic : Traffic X) (s : Store X) (version : ℕ)
    (request : X) (onConflict : Store X → Store X × Option Refusal) : Store X × Option Refusal :=
  let s := s.writeAll (traffic.writes 0)
  match traffic.faults 0 with
  | some err => (s, some (.other err))
  | none =>
    match s.update submit version request with
    | .ok s => (s, none)
    | .error .conflict => onConflict s
    | .error (.other err) => (s, some (.other err))

/-- The loop that reads the value, modifies it and asks for it to be replaced, until there
is no conflict or no attempt is left.  Also given is the number of the next request. -/
def retryOnConflict (submit : X → X → Option X) (traffic : Traffic X) (modify : X → X) :
    ℕ → ℕ → Store X → Store X × Option Refusal
  | 0, _, s => (s, some .conflict)
  | attempts + 1, n, s =>
    let s := s.writeAll (traffic.writes n)
    match traffic.faults n, s.stored with
    | some err, _ => (s, some (.other err))
    | none, none => (s, some (.other "not found"))
    | none, some (version, latest) =>
      let s := s.writeAll (traffic.writes (n + 1))
      match traffic.faults (n + 1) with
      | some err => (s, some (.other err))
      | none =>
        match s.update submit version (modify latest) with
        | .ok s => (s, none)
        | .error .conflict => retryOnConflict submit traffic modify attempts (n + 2) s
        | .error (.other err) => (s, some (.other err))

/-! ## What is known after a read -/

/-- Since the value was read with this version, only other clients have written, and the
value is the same as long as the version is. -/
structure Unchanged (version : ℕ) (x : X) (s : Store X) : Prop where
  left : s.stored.map Prod.snd = s.left
  version_le : version ≤ s.revision
  stored_le : ∀ v y, s.stored = some (v, y) → v ≤ s.revision
  eq : ∀ y, s.stored = some (version, y) → y = x

variable {submit : X → X → Option X} {traffic : Traffic X} {version : ℕ} {x request : X}
  {s s' : Store X}

theorem unchanged_ofRead (version : ℕ) (x : X) : Unchanged version x (ofRead version x) := by
  refine ⟨rfl, Nat.le_refl version, fun v y h => ?_, fun y h => ?_⟩
  · exact Nat.le_of_eq (Prod.mk.inj (Option.some.inj h)).1.symm
  · exact (Prod.mk.inj (Option.some.inj h)).2.symm

theorem Unchanged.write (h : Unchanged version x s) (y : Option X) :
    Unchanged version x (s.write y) := by
  have hle := h.version_le
  cases y with
  | none => exact ⟨rfl, Nat.le_succ_of_le hle, fun _ _ h => absurd h (by simp [Store.write]),
    fun _ h => absurd h (by simp [Store.write])⟩
  | some y =>
    refine ⟨rfl, Nat.le_succ_of_le hle, fun v z h => ?_, fun z h => ?_⟩
    · exact Nat.le_of_eq (Prod.mk.inj (Option.some.inj h)).1.symm
    · -- the new version is a later one
      have hversion := (Prod.mk.inj (Option.some.inj h)).1
      omega

theorem Unchanged.writeAll (h : Unchanged version x s) (ys : List (Option X)) :
    Unchanged version x (s.writeAll ys) := by
  induction ys generalizing s with
  | nil => exact h
  | cons y ys ih => exact ih (h.write y)

/-- A value that is read is unchanged right then. -/
theorem Unchanged.read {v : ℕ} {y : X} (h : Unchanged version x s)
    (hread : s.stored = some (v, y)) :
    Unchanged v y s := by
  refine ⟨h.left, h.stored_le v y hread, h.stored_le, fun z hz => ?_⟩
  exact (Prod.mk.inj (Option.some.inj (hread.symm.trans hz))).2.symm

/-- A request that succeeds replaces the value that was read, which is what the other
clients have left. -/
theorem Unchanged.update (h : Unchanged version x s)
    (hok : s.update submit version request = .ok s') :
    s'.left = some x ∧ s'.stored.map Prod.snd = submit request x := by
  unfold Store.update at hok
  split at hok
  · cases hok
  · rename_i current y hstored
    split at hok
    · cases hok
    · rename_i hversion
      obtain rfl := not_not.1 hversion
      obtain rfl := h.eq y hstored
      cases hok
      refine ⟨?_, ?_⟩
      · rw [← h.left, hstored]
        rfl
      · rw [Option.map_map]
        exact Option.map_id'

/-- The loop succeeds by replacing what the other clients have left. -/
theorem succeeds_retryOnConflict {modify : X → X} {attempts n : ℕ} (h : Unchanged version x s)
    (hok : retryOnConflict submit traffic modify attempts n s = (s', none)) :
    ∃ latest, s'.left = some latest ∧
      s'.stored.map Prod.snd = submit (modify latest) latest := by
  induction attempts generalizing n s version x with
  | zero => exact absurd (Prod.mk.inj hok).2 (by simp)
  | succ attempts ih =>
    rw [retryOnConflict] at hok
    have hread := h.writeAll (traffic.writes n)
    split at hok
    · exact absurd (Prod.mk.inj hok).2 (by simp)
    · exact absurd (Prod.mk.inj hok).2 (by simp)
    · rename_i v latest _ hstored
      have hlatest := (hread.read hstored).writeAll (traffic.writes (n + 1))
      dsimp only at hok
      split at hok
      · exact absurd (Prod.mk.inj hok).2 (by simp)
      · split at hok
        · rename_i hupdate
          obtain rfl := (Prod.mk.inj hok).1
          exact ⟨latest, hlatest.update hupdate⟩
        · exact ih hlatest hok
        · exact absurd (Prod.mk.inj hok).2 (by simp)

/-- The first request succeeds by replacing the value that was read, or there has been a
conflict. -/
theorem succeeds_updateOr {onConflict : Store X → Store X × Option Refusal}
    (h : Unchanged version x s)
    (hok : s.updateOr submit traffic version request onConflict = (s', none)) :
    (s'.left = some x ∧ s'.stored.map Prod.snd = submit request x) ∨
      ∃ t, Unchanged version x t ∧ onConflict t = (s', none) := by
  unfold updateOr at hok
  have hread := h.writeAll (traffic.writes 0)
  dsimp only at hok
  split at hok
  · exact absurd (Prod.mk.inj hok).2 (by simp)
  · split at hok
    · rename_i hupdate
      obtain rfl := (Prod.mk.inj hok).1
      exact Or.inl (hread.update hupdate)
    · exact Or.inr ⟨_, hread, hok⟩
    · exact absurd (Prod.mk.inj hok).2 (by simp)

end Store
