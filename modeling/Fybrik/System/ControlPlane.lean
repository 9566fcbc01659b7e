import Fybrik.Application.Convergence
import Fybrik.Blueprint.Convergence
import Fybrik.Lib.Stages
import Fybrik.Plotter.Convergence

/-!
# The control plane

The three controllers at work: the one of applications generates a plotter, the one of
plotters puts blueprints into the clusters, and the ones of blueprints deploy the releases
there.  Each of them reads what the next one reports, and they are called in any order.

We assume that all the calls they make succeed, that the application is valid and can be
served by a plotter, and that no controller is kept from acting forever.  Then the
application becomes ready, and everything is in place from then on.

* `Installation` — what does not change; `ControlPlane` — what is stored.
* `ControlPlane.Step` — one of the controllers is called, and all its calls succeed.
* `Awaiting`, `Standing` — the plotter is still to be generated, or has been generated.
* `At` — what is said of the blueprint and of Helm in a cluster, with the rules for a step
  (`At.step`, `at_of_blueprint`).
* `Up` — everything is in place.
* `Fair` — no controller is kept from acting forever.
* `lasts_up` — the application of a fair run is up from some time on.
-/

namespace Fybrik

open Stages

/-- What does not change: the settings, the hash function, the registered clusters, and
the reconciler of blueprints in each of them. -/
structure Installation where
  settings : Settings
  sha512 : Sha512
  clusters : List Cluster
  blueprintReconciler : String → BlueprintReconciler

/-- The controllers; there is one for blueprints in each cluster. -/
inductive Controller where
  | application
  | plotter
  | blueprint (cluster : String)
  deriving DecidableEq

/-- What is stored: the application and the plotters, the plotter of the application as its
controller sees it, the blueprints in the clusters, and the releases there. -/
@[ext]
structure ControlPlane extends World where
  resource : PlotterResource
  remotes : Remotes
  helm : String → Helm

namespace ControlPlane

variable (i : Installation)

/-! ## Steps -/

/-- The plotter and the blueprints, as the controller of plotters sees them. -/
def site (s : ControlPlane) (plotter : Plotter) : PlotterSite :=
  ⟨{ s.resource with toPlotter := plotter }, s.remotes⟩

/-- The controller of applications is called. -/
def reconcileApplication (s : ControlPlane) (r : FybrikApplicationReconciler) : ControlPlane :=
  let w := (r.reconcileRequest s.toWorld).1
  let key := s.plotterKey i.settings
  match w.plotters.lookup key with
  | none => { s with toWorld := w }
  | some after => { s with
      toWorld := w
      resource := s.resource.write key (s.plotters.lookup key) after }

/-- The controller of plotters has left a plotter and blueprints behind. -/
def storeSite (s : ControlPlane) (site : PlotterSite) : ControlPlane :=
  { s with
    plotters := storePlotter s.plotters (s.plotterKey i.settings) site.plotter.toPlotter
    resource := site.plotter
    remotes := site.remotes }

/-- The controller of blueprints is called in a cluster. -/
def reconcileBlueprint (s : ControlPlane) (calls : BlueprintCalls) (cluster : String)
    (blueprint : Blueprint) : ControlPlane :=
  let res := (i.blueprintReconciler cluster).reconcileRequest calls ⟨blueprint, s.helm cluster⟩
  { s with
    remotes := s.remotes.set (cluster, s.plotterKey i.settings) res.1.blueprint
    helm := Function.update s.helm cluster res.1.helm }

/-- A controller is called, and all the calls it makes succeed.  If the plotter is to be
generated, this succeeds as well, and it can be translated into blueprints. -/
inductive Step : Controller → ControlPlane → ControlPlane → Prop
  | application {s : ControlPlane} (r : FybrikApplicationReconciler)
      (hsucceeds : r.Succeeds i.settings s.application)
      (hdeploys : (r.submitted s.toWorld).isSome = true → r.deploys s.toWorld = true)
      (htranslates : ∀ plotter, (r.reconcileRequest s.toWorld).1.plotters.lookup
        (s.plotterKey i.settings) = some plotter →
          (getBlueprintsMap i.sha512 i.clusters plotter).isSome = true) :
      Step .application s (s.reconcileApplication i r)
  | plotter {s : ControlPlane} {plotter : Plotter} {site' : PlotterSite} {err : Option String}
      (r : PlotterReconciler)
      (hplotter : s.plotters.lookup (s.plotterKey i.settings) = some plotter)
      (hsucceeds : r.Succeeds i.sha512 i.clusters (s.site plotter))
      (h : r.reconcileRequest (s.site plotter) = some (site', err)) :
      Step .plotter s (s.storeSite i site')
  | noPlotter {s : ControlPlane} (hnone : s.plotters.lookup (s.plotterKey i.settings) = none) :
      Step .plotter s s
  | blueprint {s : ControlPlane} {cluster : String} {blueprint : Blueprint} (calls : BlueprintCalls)
      (hblueprint : s.remotes.lookup (cluster, s.plotterKey i.settings) = some blueprint)
      (hsucceeds : (i.blueprintReconciler cluster).Succeeds calls blueprint.spec) :
      Step (.blueprint cluster) s (s.reconcileBlueprint i calls cluster blueprint)
  | noBlueprint {s : ControlPlane} {cluster : String}
      (hnone : s.remotes.lookup (cluster, s.plotterKey i.settings) = none) :
      Step (.blueprint cluster) s s

/-- The application has been created, and its plotter is still to be generated. -/
structure Awaiting (s : ControlPlane) : Prop where
  world : s.toWorld.Awaiting i.settings
  remotes : ∀ cluster, s.remotes.lookup (cluster, s.plotterKey i.settings) = none
  named : ∀ k blueprint, s.remotes.lookup k = some blueprint → blueprint.key = k.2
  helm : ∀ cluster release, (s.helm cluster).releases.lookup release ≠ some .other

/-- The plotter has been generated for the present generation of the application, and asks
for certain blueprints; no release hangs. -/
structure Standing (blueprintsMap : GoMap String BlueprintSpec) (s : ControlPlane) : Prop where
  world : s.toWorld.Generated i.settings
  stored : s.plotters.lookup (s.plotterKey i.settings) = some s.resource.toPlotter
  key : s.resource.key = s.plotterKey i.settings
  asks : PlotterReconciler.Asks i.sha512 i.clusters blueprintsMap ⟨s.resource, s.remotes⟩
  helm : ∀ cluster release, (s.helm cluster).releases.lookup release ≠ some .other

/-- The blueprint of the application is in a cluster, and something is true of it and of
Helm there. -/
def At (s : ControlPlane) (cluster : String) (P : BlueprintSite → Prop) : Prop :=
  ∃ remote, s.remotes.lookup (cluster, s.plotterKey i.settings) = some remote ∧
    P ⟨remote, s.helm cluster⟩

/-- Everything is in place: the application is ready, so is its plotter, and in each cluster
the blueprint the plotter asks for has settled. -/
structure Up (blueprintsMap : GoMap String BlueprintSpec) (s : ControlPlane) : Prop where
  served : s.toWorld.Served
  plotter : ∃ plotter, s.plotters.lookup (s.plotterKey i.settings) = some plotter ∧
    plotter.observedState = ⟨true, ""⟩ ∧
    getBlueprintsMap i.sha512 i.clusters plotter = some blueprintsMap
  blueprints : ∀ d ∈ blueprintsMap.pairs, s.At i d.1 fun bs =>
    bs.blueprint.spec = d.2 ∧ (i.blueprintReconciler d.1).Settled bs

variable {i} {s s' : ControlPlane} {a : Controller} {blueprintsMap : GoMap String BlueprintSpec}
  {d : String × BlueprintSpec}

/-! ## What a step does once the plotter has been generated -/

/-- The ways a step can go: the application looks at its plotter, a plotter is reconciled, a
blueprint is, or there is none. -/
inductive Moved (i : Installation) (s : ControlPlane) : Controller → ControlPlane → Prop
  | polled {w : World} (hpolled : World.Polled s.toWorld w s.resource.observedState) :
      Moved i s .application { s with toWorld := w }
  | plotter {site' : PlotterSite} {err : Option String} (r : PlotterReconciler)
      (hsucceeds : r.Succeeds i.sha512 i.clusters ⟨s.resource, s.remotes⟩)
      (h : r.reconcileRequest ⟨s.resource, s.remotes⟩ = some (site', err)) :
      Moved i s .plotter (s.storeSite i site')
  | blueprint {cluster : String} {blueprint : Blueprint} (calls : BlueprintCalls)
      (hblueprint : s.remotes.lookup (cluster, s.plotterKey i.settings) = some blueprint)
      (hdeleted : blueprint.beingDeleted = false)
      (hsucceeds : (i.blueprintReconciler cluster).Succeeds calls blueprint.spec) :
      Moved i s (.blueprint cluster) (s.reconcileBlueprint i calls cluster blueprint)
  | noBlueprint {cluster : String}
      (hnone : s.remotes.lookup (cluster, s.plotterKey i.settings) = none) :
      Moved i s (.blueprint cluster) s

theorem site_eq (h : s.plotters.lookup (s.plotterKey i.settings) = some s.resource.toPlotter)
    {plotter : Plotter} (hplotter : s.plotters.lookup (s.plotterKey i.settings) = some plotter) :
    s.site plotter = ⟨s.resource, s.remotes⟩ := by
  obtain rfl := Option.some.inj (h.symm.trans hplotter)
  rfl

/-- A plotter that has not been written is the same object as before. -/
theorem write_self (resource : PlotterResource) (key : NamespacedName) :
    resource.write key (some resource.toPlotter) resource.toPlotter = resource := by
  simp only [PlotterResource.write, and_self, if_true]

theorem Standing.moved (h : Standing i blueprintsMap s) (hstep : Step i a s s') :
    Moved i s a s' := by
  cases hstep with
  | application r hsucceeds =>
    have hpolled := h.world.polled hsucceeds h.stored
    have hlookup : (r.reconcileRequest s.toWorld).1.plotters.lookup (s.plotterKey i.settings)
        = some s.resource.toPlotter := by
      rw [hpolled.plotters]
      exact h.stored
    have hsame : s.reconcileApplication i r
        = { s with toWorld := (r.reconcileRequest s.toWorld).1 } := by
      simp only [reconcileApplication, hlookup, h.stored, write_self]
    rw [hsame]
    exact .polled hpolled
  | plotter r hplotter hsucceeds hres =>
    rw [site_eq h.stored hplotter] at hsucceeds hres
    exact .plotter r hsucceeds hres
  | noPlotter hnone => cases hnone.symm.trans h.stored
  | @blueprint _ cluster blueprint calls hblueprint hsucceeds =>
    refine .blueprint calls hblueprint (h.asks.alive cluster blueprint ?_) hsucceeds
    rw [h.key]
    exact hblueprint
  | noBlueprint hnone => exact .noBlueprint hnone

theorem Moved.plotterKey_eq (h : Moved i s a s') :
    s'.plotterKey i.settings = s.plotterKey i.settings := by
  cases h with
  | polled hpolled =>
    obtain ⟨finalizers, happlication⟩ := hpolled.application
    rw [World.plotterKey, happlication]
    rfl
  | plotter => rfl
  | blueprint => rfl
  | noBlueprint => rfl

/-- The blueprints in the clusters keep their names and specifications when one of them is
reconciled, and stay alive. -/
theorem lookup_reconcileBlueprint {calls : BlueprintCalls} {cluster : String}
    {blueprint : Blueprint}
    (hblueprint : s.remotes.lookup (cluster, s.plotterKey i.settings) = some blueprint)
    {k : String × NamespacedName} {remote : Blueprint}
    (h : (s.reconcileBlueprint i calls cluster blueprint).remotes.lookup k = some remote) :
    ∃ before, s.remotes.lookup k = some before ∧ remote.key = before.key ∧
      remote.spec = before.spec ∧ remote.beingDeleted = before.beingDeleted := by
  rcases GoMap.eq_or_of_lookup_set h with ⟨rfl, rfl⟩ | hbefore
  · obtain ⟨finalizers, status, heq⟩ := (i.blueprintReconciler cluster).blueprint_reconcileRequest
      calls ⟨blueprint, s.helm cluster⟩
    rw [heq]
    exact ⟨blueprint, hblueprint, rfl, rfl, rfl⟩
  · exact ⟨remote, hbefore, rfl, rfl, rfl⟩

theorem Standing.step (h : Standing i blueprintsMap s) (hstep : Step i a s s') :
    Standing i blueprintsMap s' := by
  have hmoved := h.moved hstep
  have hkey := hmoved.plotterKey_eq
  cases hmoved with
  | polled hpolled =>
    refine ⟨hpolled.generated h.world, ?_, h.key.trans hkey.symm, h.asks, h.helm⟩
    rw [hkey, hpolled.plotters]
    exact h.stored
  | plotter r hsucceeds hres =>
    have hasks := h.asks.reconcileRequest hsucceeds hres
    refine ⟨⟨h.world.proper, h.world.tracked, h.world.observed, h.world.reference⟩, ?_, ?_, hasks,
      h.helm⟩
    · rw [storeSite, storePlotter_of_alive hasks.kept.notDeleted]
      exact AList.lookup_insert _
    · exact (h.asks.key_reconcileRequest hsucceeds hres).trans h.key
  | @blueprint cluster blueprint calls hblueprint hdeleted hsucceeds =>
    refine ⟨h.world, h.stored, h.key, h.asks.of_remotes fun _ _ hremote =>
      lookup_reconcileBlueprint hblueprint hremote, fun cluster' => ?_⟩
    by_cases hcluster : cluster' = cluster
    · subst hcluster
      simp only [reconcileBlueprint, Function.update_self]
      exact BlueprintReconciler.noneHangs_reconcileRequest hdeleted hsucceeds (h.helm cluster')
    · simp only [reconcileBlueprint, Function.update_of_ne hcluster]
      exact h.helm cluster'
  | noBlueprint => exact h

/-! ## What is true in a cluster -/

/-- What the call of the controller in a cluster makes of the blueprint there. -/
theorem At.reconcileBlueprint (h : Standing i blueprintsMap s) {cluster : String}
    (hstep : Step i (.blueprint cluster) s s') {P Q : BlueprintSite → Prop} (hP : s.At i cluster P)
    (hcall : ∀ bs calls, bs.blueprint.beingDeleted = false →
      (∀ release, bs.helm.releases.lookup release ≠ some .other) →
      (i.blueprintReconciler cluster).Succeeds calls bs.blueprint.spec → P bs →
        Q ((i.blueprintReconciler cluster).reconcileRequest calls bs).1) : s'.At i cluster Q := by
  obtain ⟨remote, hremote, hbs⟩ := hP
  have hmoved := h.moved hstep
  cases hmoved with
  | blueprint calls hblueprint hdeleted hsucceeds =>
    obtain rfl := Option.some.inj (hremote.symm.trans hblueprint)
    refine ⟨_, AList.lookup_insert _, ?_⟩
    simp only [ControlPlane.reconcileBlueprint, Function.update_self]
    exact hcall ⟨remote, s.helm cluster⟩ calls hdeleted (h.helm cluster) hsucceeds hbs
  | noBlueprint hnone => cases hnone.symm.trans hremote

/-- Blueprints that are in place are only changed by the controllers in their clusters. -/
theorem At.step (h : Standing i blueprintsMap s)
    (hrolled : PlotterReconciler.RolledOut blueprintsMap ⟨s.resource, s.remotes⟩)
    (hd : d ∈ blueprintsMap.pairs) (hstep : Step i a s s') {P : BlueprintSite → Prop}
    (hP : s.At i d.1 P)
    (hcall : ∀ bs calls, bs.blueprint.beingDeleted = false →
      (∀ release, bs.helm.releases.lookup release ≠ some .other) →
      (i.blueprintReconciler d.1).Succeeds calls bs.blueprint.spec → P bs →
        P ((i.blueprintReconciler d.1).reconcileRequest calls bs).1) : s'.At i d.1 P := by
  by_cases ha : a = .blueprint d.1
  · subst ha
    exact hP.reconcileBlueprint h hstep hcall
  · obtain ⟨remote, hremote, hbs⟩ := hP
    have hmoved := h.moved hstep
    have hkey := hmoved.plotterKey_eq
    cases hmoved with
    | polled =>
      refine ⟨remote, ?_, hbs⟩
      rw [hkey]
      exact hremote
    | plotter r hsucceeds hres =>
      refine ⟨remote, ?_, hbs⟩
      exact (hrolled.lookup_reconcileRequest h.asks hsucceeds hres hd _).trans hremote
    | @blueprint cluster =>
      have hcluster : d.1 ≠ cluster := fun heq => ha (heq ▸ rfl)
      refine ⟨remote, ?_, ?_⟩
      · exact (AList.lookup_insert_ne fun heq => hcluster (Prod.mk.inj heq).1).trans hremote
      · simp only [ControlPlane.reconcileBlueprint, Function.update_of_ne hcluster]
        exact hbs
    | noBlueprint => exact ⟨remote, hremote, hbs⟩

/-! ## One stage after the other -/

/-- The plotter has been generated, and its blueprints are in place. -/
structure InPlace (i : Installation) (blueprintsMap : GoMap String BlueprintSpec)
    (s : ControlPlane) : Prop where
  standing : Standing i blueprintsMap s
  rolledOut : PlotterReconciler.RolledOut blueprintsMap ⟨s.resource, s.remotes⟩

theorem InPlace.at (h : InPlace i blueprintsMap s) (hd : d ∈ blueprintsMap.pairs) :
    s.At i d.1 fun bs => bs.blueprint.spec = d.2 := by
  obtain ⟨remote, hremote, hspec⟩ := h.rolledOut.converged d hd
  rw [h.standing.key] at hremote
  exact ⟨remote, hremote, hspec⟩

theorem spec_reconcileRequest (b : BlueprintReconciler) (calls : BlueprintCalls)
    (bs : BlueprintSite) : (b.reconcileRequest calls bs).1.blueprint.spec = bs.blueprint.spec := by
  obtain ⟨finalizers, status, heq⟩ := b.blueprint_reconcileRequest calls bs
  rw [heq]

theorem InPlace.step (h : InPlace i blueprintsMap s) (hstep : Step i a s s') :
    InPlace i blueprintsMap s' := by
  have hstanding := h.standing.step hstep
  refine ⟨hstanding, ?_⟩
  have hconverged : PlotterReconciler.Converged s'.resource blueprintsMap s'.remotes := by
    intro d hd
    obtain ⟨remote, hremote, hspec⟩ := At.step h.standing h.rolledOut hd hstep (h.at hd)
      fun bs calls _ _ _ hspec => (spec_reconcileRequest _ calls bs).trans hspec
    rw [← hstanding.key] at hremote
    exact ⟨remote, hremote, hspec⟩
  cases h.standing.moved hstep with
  | polled => exact h.rolledOut
  | plotter r hsucceeds hres => exact h.standing.asks.rolledOut_reconcileRequest hsucceeds hres
  | blueprint => exact ⟨h.rolledOut.observed, h.rolledOut.recorded, hconverged⟩
  | noBlueprint => exact h.rolledOut

theorem Standing.inPlace (h : Standing i blueprintsMap s) (hstep : Step i .plotter s s') :
    InPlace i blueprintsMap s' := by
  have hmoved := h.moved hstep
  refine ⟨h.step hstep, ?_⟩
  cases hmoved with
  | plotter r hsucceeds hres => exact h.asks.rolledOut_reconcileRequest hsucceeds hres

/-- The releases of a blueprint are deployed for its present generation. -/
structure Deployed (b : BlueprintReconciler) (bs : BlueprintSite) : Prop where
  observed : bs.blueprint.status.observedGeneration = bs.blueprint.generation
  deployed : b.AllDeployed bs

section Cluster

variable {b : BlueprintReconciler} {bs : BlueprintSite} {calls : BlueprintCalls}
  (hdeleted : bs.blueprint.beingDeleted = false) (hsucceeds : b.Succeeds calls bs.blueprint.spec)
include hdeleted hsucceeds

theorem deployed_reconcileRequest
    (hnone : ∀ release, bs.helm.releases.lookup release ≠ some .other) :
    Deployed b (b.reconcileRequest calls bs).1 := by
  have hhangs : ¬ b.Hangs bs := fun h => by
    obtain ⟨-, im, -, hother⟩ := h
    exact hnone _ hother
  exact ⟨(BlueprintReconciler.quiet_reconcileRequest hdeleted hsucceeds).observed,
    BlueprintReconciler.allDeployed_reconcileRequest hdeleted hsucceeds hhangs⟩

theorem Deployed.settled (h : Deployed b bs) : b.Settled (b.reconcileRequest calls bs).1 :=
  BlueprintReconciler.settled_reconcileRequest hdeleted hsucceeds h.deployed h.observed

end Cluster

/-! ## The beginning -/

/-- Whether the plotter has been generated. -/
theorem Awaiting.standing (h : Awaiting i s) (hstep : Step i .application s s') :
    ∃ blueprintsMap, Standing i blueprintsMap s' := by
  cases hstep with
  | application r hsucceeds hdeploys htranslates =>
    have hsubmitted : (r.submitted s.toWorld).isSome = true := by
      obtain ⟨finalizers, status, haccepted⟩ := hsucceeds.accepted h.world.proper
      have hneeded : r.plotterNeeded ⟨{ s.application with finalizers := finalizers }, s.plotters⟩
          = true := by
        simp [FybrikApplicationReconciler.plotterNeeded,
          FybrikApplicationReconciler.generationComplete,
          FybrikApplicationReconciler.resourceExists, h.world.generated]
      rw [haccepted.submitted_eq, if_pos hneeded]
      rfl
    obtain ⟨hgenerated, finalizers, status, plotter, happlication, hplotter, halive⟩ :=
      h.world.reconcileRequest hsucceeds (hdeploys hsubmitted)
    obtain ⟨blueprintsMap, hwanted⟩ := Option.isSome_iff_exists.1 (htranslates plotter hplotter)
    have hkey : (r.reconcileRequest s.toWorld).1.plotterKey i.settings
        = s.plotterKey i.settings := by
      rw [World.plotterKey, happlication]
      rfl
    refine ⟨blueprintsMap, ?_⟩
    simp only [reconcileApplication, hplotter, h.world.plotter, PlotterResource.write]
    refine ⟨hgenerated, ?_, hkey.symm, ⟨⟨halive, Nat.zero_le 1, h.named, ?_⟩, ?_, hwanted, ?_⟩, h.helm⟩
    · exact hkey ▸ hplotter
    · intro cluster blueprint hlookup
      have hnone : (default : PlotterResource).blueprints.lookup cluster = none := rfl
      cases hnone.symm.trans hlookup
    · exact fun hobserved => absurd hobserved Nat.zero_ne_one
    · exact fun cluster remote hremote => absurd ((h.remotes cluster).symm.trans hremote) (by simp)

theorem Awaiting.step (h : Awaiting i s) (hstep : Step i a s s') (ha : a ≠ .application) :
    Awaiting i s' := by
  cases hstep with
  | application => exact absurd rfl ha
  | plotter r hplotter => cases h.world.plotter.symm.trans hplotter
  | noPlotter => exact h
  | blueprint calls hblueprint => exact absurd ((h.remotes _).symm.trans hblueprint) (by simp)
  | noBlueprint => exact h

/-- The plotter is still to be generated, or has been generated. -/
theorem begun_step (h : Awaiting i s ∨ ∃ blueprintsMap, Standing i blueprintsMap s)
    (hstep : Step i a s s') : Awaiting i s' ∨ ∃ blueprintsMap, Standing i blueprintsMap s' := by
  rcases h with hawaiting | ⟨blueprintsMap, hstanding⟩
  · by_cases ha : a = .application
    · subst ha
      exact Or.inr (hawaiting.standing hstep)
    · exact Or.inl (hawaiting.step hstep ha)
  · exact Or.inr ⟨blueprintsMap, hstanding.step hstep⟩

/-! ## Fair runs -/

/-- No controller is kept from acting forever; those of blueprints only need to act as long
as there is a blueprint in their cluster. -/
structure Fair (e : Run (Step i)) : Prop where
  application : e.Recurs .application
  plotter : e.Recurs .plotter
  blueprint : ∀ cluster,
    (∃ᶠ t in Filter.atTop, ∃ blueprint, (e.state t).remotes.lookup
      (cluster, (e.state t).plotterKey i.settings) = some blueprint) →
    e.Recurs (.blueprint cluster)

section Run

variable {e : Run (Step i)} (hfair : Fair e) {t₀ : ℕ} (h₀ : Standing i blueprintsMap (e.state t₀))
include hfair h₀

/-- The controller of plotters puts the blueprints in place. -/
theorem lasts_inPlace : e.Lasts (InPlace i blueprintsMap) := by
  have hstanding : e.Lasts (Standing i blueprintsMap) :=
    Run.lasts_of_invariant h₀ fun _ _ _ hstep h => h.step hstep
  exact hstanding.next hfair.plotter (fun _ _ _ hstep _ _ h => h.step hstep)
    fun _ _ hstep h _ => h.inPlace hstep

theorem recurs_blueprint (hd : d ∈ blueprintsMap.pairs) : e.Recurs (.blueprint d.1) := by
  refine hfair.blueprint d.1 (Filter.Eventually.frequently ?_)
  refine (lasts_inPlace hfair h₀).mono fun t h => ?_
  obtain ⟨remote, hremote, -⟩ := h.at hd
  exact ⟨remote, hremote⟩

/-- The controllers in the clusters deploy the releases. -/
theorem lasts_deployed : e.Lasts fun s => InPlace i blueprintsMap s ∧
    ∀ d ∈ blueprintsMap.pairs, s.At i d.1 (Deployed (i.blueprintReconciler d.1)) := by
  have hinPlace := lasts_inPlace hfair h₀
  refine hinPlace.and (hinPlace.next_all (fun d hd => recurs_blueprint hfair h₀ hd)
    (fun d hd a s s' hstep h _ hat => ?_) fun d hd s s' hstep h _ => ?_)
  · exact hat.step h.standing h.rolledOut hd hstep fun bs calls hdeleted hnone hsucceeds _ =>
      deployed_reconcileRequest hdeleted hsucceeds hnone
  · exact (h.at hd).reconcileBlueprint h.standing hstep fun bs calls hdeleted hnone hsucceeds _ =>
      deployed_reconcileRequest hdeleted hsucceeds hnone

/-- At their next call they find them in place. -/
theorem lasts_settled : e.Lasts fun s => InPlace i blueprintsMap s ∧
    ∀ d ∈ blueprintsMap.pairs, s.At i d.1 (i.blueprintReconciler d.1).Settled := by
  refine (lasts_inPlace hfair h₀).and ((lasts_deployed hfair h₀).next_all
    (fun d hd => recurs_blueprint hfair h₀ hd) (fun d hd a s s' hstep h _ hat => ?_)
    fun d hd s s' hstep h _ => ?_)
  · exact hat.step h.1.standing h.1.rolledOut hd hstep
      fun bs calls hdeleted _ hsucceeds hsettled =>
        Deployed.settled hdeleted hsucceeds ⟨hsettled.observed, hsettled.deployed⟩
  · exact (h.2 d hd).reconcileBlueprint h.1.standing hstep
      fun bs calls hdeleted _ hsucceeds hdeployed => hdeployed.settled hdeleted hsucceeds

/-- The controller of plotters finds all blueprints ready. -/
theorem lasts_plotterReady : e.Lasts fun s => InPlace i blueprintsMap s ∧
    s.resource.observedState = ⟨true, ""⟩ := by
  have hready : ∀ s s', Step i .plotter s s' → InPlace i blueprintsMap s →
      (∀ d ∈ blueprintsMap.pairs, s.At i d.1 (i.blueprintReconciler d.1).Settled) →
      s'.resource.observedState = ⟨true, ""⟩ := by
    intro s s' hstep h hsettled
    cases h.standing.moved hstep with
    | plotter r hsucceeds hres =>
      refine h.rolledOut.ready_reconcileRequest h.standing.asks hsucceeds hres
        fun d hd remote hremote => ?_
      obtain ⟨remote', hremote', hsettled⟩ := hsettled d hd
      rw [h.standing.key] at hremote
      obtain rfl := Option.some.inj (hremote'.symm.trans hremote)
      exact hsettled.state
  refine (lasts_inPlace hfair h₀).and ((lasts_settled hfair h₀).next hfair.plotter
    (fun a s s' hstep h _ hstate => ?_) fun s s' hstep h _ => hready s s' hstep h.1 h.2)
  cases h.1.standing.moved hstep with
  | polled => exact hstate
  | plotter => exact hready s _ hstep h.1 h.2
  | blueprint => exact hstate
  | noBlueprint => exact hstate

/-- The controller of applications finds the plotter ready. -/
theorem lasts_served : e.Lasts fun s => s.toWorld.Served := by
  refine (lasts_plotterReady hfair h₀).next hfair.application
    (fun a s s' hstep h _ hserved => ?_) fun s s' hstep h _ => ?_
  · cases h.1.standing.moved hstep with
    | polled hpolled => exact hpolled.served hserved
    | plotter => exact ⟨hserved.ready, hserved.conditions⟩
    | blueprint => exact hserved
    | noBlueprint => exact hserved
  · cases h.1.standing.moved hstep with
    | polled hpolled =>
      rw [h.2] at hpolled
      exact hpolled.served_of_serving ⟨rfl, rfl⟩

theorem lasts_up_of_standing : e.Lasts (Up i blueprintsMap) := by
  have hall := (lasts_served hfair h₀).and
    ((lasts_plotterReady hfair h₀).and (lasts_settled hfair h₀))
  refine Filter.Eventually.mono hall fun t h => ?_
  obtain ⟨hserved, ⟨hinPlace, hready⟩, -, hsettled⟩ := h
  refine ⟨hserved, ⟨_, hinPlace.standing.stored, hready, hinPlace.standing.asks.wanted⟩,
    fun d hd => ?_⟩
  obtain ⟨remote, hremote, hspec⟩ := hinPlace.at hd
  obtain ⟨remote', hremote', hstate⟩ := hsettled d hd
  obtain rfl := Option.some.inj (hremote.symm.trans hremote')
  exact ⟨remote, hremote, hspec, hstate⟩

end Run

/-- An installation in which charts without a pull secret can be fetched. -/
def notebookInstallation : Installation :=
  ⟨default, default, [], fun _ => BlueprintReconciler.readerReconciler⟩

/-- The notebook has been created. -/
def notebookPlane : ControlPlane :=
  { notebookWorld with resource := default, remotes := ∅, helm := fun _ => default }

/-- A controller is called and all its calls succeed. -/
def act (s : ControlPlane) : Controller → ControlPlane
  | .application => s.reconcileApplication notebookInstallation notebookReconciler
  | .plotter => ((PlotterReconciler.plotterReconciler
      (PlotterReconciler.clustersOf s.remotes)).reconcileRequest ⟨s.resource, s.remotes⟩).elim s
      fun res => s.storeSite notebookInstallation res.1
  | .blueprint cluster => (s.remotes.lookup (cluster, s.plotterKey default)).elim s
      (s.reconcileBlueprint notebookInstallation BlueprintReconciler.callsSucceed cluster)

/-- The answers the controller gets are true: it can generate the plotter, the recorded
blueprints are in the clusters, and the charts can be fetched. -/
def able (s : ControlPlane) : Controller → Bool
  | .application => (!(notebookReconciler.submitted s.toWorld).isSome ||
      notebookReconciler.deploys s.toWorld) &&
      ((notebookReconciler.reconcileRequest s.toWorld).1.plotters.lookup
        (s.plotterKey default)).all fun plotter => (getBlueprintsMap default [] plotter).isSome
  | .plotter => decide (s.plotters.lookup (s.plotterKey default) = some s.resource.toPlotter) &&
      ((PlotterReconciler.plotterReconciler (PlotterReconciler.clustersOf s.remotes)).reconcileRequest
        ⟨s.resource, s.remotes⟩).isSome &&
      s.resource.blueprints.pairs.all fun cb => (s.remotes.lookup (cb.1, cb.2.key)).isSome
  | .blueprint cluster => (s.remotes.lookup (cluster, s.plotterKey default)).all fun blueprint =>
      blueprint.spec.modules.pairs.all fun im => decide
        (BlueprintReconciler.readerReconciler.fetchChart BlueprintReconciler.instanceSucceeds
          im.2.chart = .ok ())

theorem notebookReconciler_succeeds (application : FybrikApplication) :
    notebookReconciler.Succeeds default application :=
  ⟨rfl, notebookReconciler_apiSucceeds, fun _ _ => rfl⟩

theorem step_act (h : s.able a = true) : Step notebookInstallation a s (s.act a) := by
  cases a with
  | application =>
    simp only [able, Bool.and_eq_true, Bool.or_eq_true, Bool.not_eq_true'] at h
    refine .application notebookReconciler (notebookReconciler_succeeds _) (fun hsome => ?_)
      fun plotter hplotter => ?_
    · exact h.1.resolve_left (by rw [hsome]; simp)
    · have hall := h.2
      have hplotter' : (notebookReconciler.reconcileRequest s.toWorld).1.plotters.lookup
          (s.plotterKey default) = some plotter := hplotter
      rw [hplotter'] at hall
      exact hall
  | plotter =>
    simp only [able, Bool.and_eq_true, decide_eq_true_eq, List.all_eq_true] at h
    obtain ⟨⟨hstored, hsome⟩, hrecorded⟩ := h
    obtain ⟨⟨site', err⟩, hres⟩ := Option.isSome_iff_exists.1 hsome
    simp only [act, hres, Option.elim_some]
    refine .plotter _ hstored ⟨PlotterReconciler.faithful_clustersOf s.remotes, ?_, rfl⟩ hres
    refine ⟨rfl, fun cluster blueprint hlookup => ?_, fun _ _ => rfl, fun _ _ => rfl,
      fun _ _ => rfl, rfl⟩
    obtain ⟨remote, hremote⟩ := Option.isSome_iff_exists.1
      (hrecorded _ (GoMap.mem_pairs.2 hlookup))
    exact ⟨remote, PlotterReconciler.getBlueprint_clustersOf.2 hremote⟩
  | blueprint cluster =>
    cases hlookup : s.remotes.lookup (cluster, s.plotterKey default) with
    | none =>
      simp only [act, hlookup, Option.elim_none]
      exact .noBlueprint hlookup
    | some blueprint =>
      simp only [able, hlookup, Option.all_some, List.all_eq_true, decide_eq_true_eq] at h
      simp only [act, hlookup, Option.elim_some]
      refine .blueprint _ hlookup ⟨fun im him => ⟨rfl, h im him, rfl, rfl, ?_⟩, fun _ => rfl, rfl,
        rfl⟩
      change (BlueprintReconciler.readerReconciler.checkReleaseStatus
        BlueprintReconciler.instanceSucceeds).1 = _
      decide +kernel

/-- The turns of the controllers: at first as they are needed, then in a circle. -/
def turn : ℕ → Controller
  | 0 => .application
  | 1 => .plotter
  | 2 => .blueprint "hobbiton"
  | 3 => .blueprint "hobbiton"
  | 4 => .plotter
  | t + 5 =>
    if t % 3 = 0 then .application else if t % 3 = 1 then .plotter else .blueprint "hobbiton"

/-- The run of the notebook. -/
def notebookState : ℕ → ControlPlane
  | 0 => notebookPlane
  | t + 1 => (notebookState t).act (turn t)

/-- Each controller only changes Helm in its own cluster. -/
theorem helm_act {cluster : String} (h : a ≠ .blueprint cluster) :
    (s.act a).helm cluster = s.helm cluster := by
  cases a with
  | application =>
    simp only [act, reconcileApplication]
    split <;> rfl
  | plotter =>
    simp only [act]
    cases ((PlotterReconciler.plotterReconciler
      (PlotterReconciler.clustersOf s.remotes)).reconcileRequest ⟨s.resource, s.remotes⟩) <;> rfl
  | blueprint cluster' =>
    simp only [act]
    cases s.remotes.lookup (cluster', s.plotterKey default) with
    | none => rfl
    | some blueprint => exact Function.update_of_ne (fun heq => h (by rw [heq])) _ _

/-- After six steps nothing changes any more. -/
theorem act_notebookState_six : ∀ a ∈ [Controller.application, .plotter, .blueprint "hobbiton"],
    (notebookState 6).able a = true ∧ (notebookState 6).act a = notebookState 6 := by
  have hdecided : ∀ a ∈ [Controller.application, .plotter, .blueprint "hobbiton"],
      (notebookState 6).able a = true ∧
        ((notebookState 6).act a).toWorld = (notebookState 6).toWorld ∧
        ((notebookState 6).act a).resource = (notebookState 6).resource ∧
        ((notebookState 6).act a).remotes = (notebookState 6).remotes ∧
        ((notebookState 6).act a).helm "hobbiton" = (notebookState 6).helm "hobbiton" := by
    decide +kernel
  intro a ha
  obtain ⟨hable, hworld, hresource, hremotes, hhelm⟩ := hdecided a ha
  refine ⟨hable, ControlPlane.ext (congrArg World.application hworld)
    (congrArg World.plotters hworld) hresource hremotes (funext fun cluster => ?_)⟩
  by_cases hcluster : cluster = "hobbiton"
  · rw [hcluster, hhelm]
  · refine helm_act fun heq => ?_
    subst heq
    simp [hcluster] at ha

theorem turn_mem (t : ℕ) : turn t ∈ [Controller.application, .plotter, .blueprint "hobbiton"] := by
  unfold turn
  split
  · simp
  · simp
  · simp
  · simp
  · simp
  · split
    · simp
    · split <;> simp

theorem notebookState_eq {t : ℕ} (ht : 6 ≤ t) : notebookState t = notebookState 6 := by
  induction t, ht using Nat.le_induction with
  | base => rfl
  | succ t _ ih =>
    rw [notebookState, ih]
    exact (act_notebookState_six _ (turn_mem t)).2

/-- The controllers take turns. -/
def notebookRun : Run (Step notebookInstallation) where
  state := notebookState
  actor := turn
  steps := by
    intro t
    refine step_act ?_
    by_cases ht : t < 6
    · have hfirst : ∀ t < 6, (notebookState t).able (turn t) = true := by decide +kernel
      exact hfirst t ht
    · rw [notebookState_eq (Nat.le_of_not_lt ht)]
      exact (act_notebookState_six _ (turn_mem t)).1

theorem notebookRun_fair : Fair notebookRun := by
  have hturn : ∀ j t, turn (3 * t + j + 5) =
      if j % 3 = 0 then .application else if j % 3 = 1 then .plotter
        else .blueprint "hobbiton" := by
    intro j t
    rw [turn, Nat.mul_add_mod]
  have hrecurs : ∀ j, notebookRun.Recurs (if j % 3 = 0 then .application else
      if j % 3 = 1 then .plotter else .blueprint "hobbiton") := by
    intro j
    exact Filter.frequently_atTop.2 fun t => ⟨3 * t + j + 5, by omega, hturn j t⟩
  refine ⟨hrecurs 0, hrecurs 1, fun cluster hthere => ?_⟩
  obtain ⟨t, ht, blueprint, hblueprint⟩ := Filter.frequently_atTop.1 hthere 6
  have hstate : notebookRun.state t = notebookState 6 := notebookState_eq ht
  rw [hstate] at hblueprint
  have hkeys : (notebookState 6).remotes.pairs.map Prod.fst
      = [("hobbiton", (notebookState 6).plotterKey default)] := by decide +kernel
  have hmem := List.mem_map_of_mem (f := Prod.fst) (GoMap.mem_pairs.2 hblueprint)
  rw [hkeys, List.mem_singleton] at hmem
  rw [(Prod.mk.inj hmem).1]
  exact hrecurs 2

theorem notebookPlane_awaiting : Awaiting notebookInstallation notebookPlane := by
  refine ⟨⟨⟨rfl, ?_, ?_, ?_⟩, rfl, rfl⟩, fun _ => rfl, fun k blueprint h => ?_,
    fun _ release => ?_⟩
  · decide
  · decide
  · decide
  · exact absurd h (by simp [notebookPlane])
  · have hnone : (default : Helm).releases.lookup release = none := rfl
    change (default : Helm).releases.lookup release ≠ _
    rw [hnone]
    simp

end ControlPlane

end Fybrik
