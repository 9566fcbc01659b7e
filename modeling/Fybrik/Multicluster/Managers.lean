import Fybrik.Lib.Removal
import Fybrik.Plotter.Controller

/-!
# Cluster managers

How the two cluster managers delete a blueprint (`pkg/multicluster/local`,
`pkg/multicluster/razee`).

* `LocalClusterManager.deleteBlueprint` — in the local cluster, where the blueprint is
  an object of the API server.
* `Razee` — the channels of an organisation, with unique names and identifiers;
  `RazeeClusterManager.deleteBlueprint` — the channel of a blueprint is deleted with its
  subscriptions and versions.
* `localRemover`, `razeeRemover` — if nothing else goes wrong, both succeed for a
  blueprint that is there, and fail for one that is gone.
-/

namespace Fybrik

/-! ## The local cluster -/

/-- The answers the manager of the local cluster gets from the API server; a call for
an object that does not exist fails in any case. -/
structure LocalClusterManager where
  getClusters : Except String (List Cluster)
  get : NamespacedName → Option String
  delete : NamespacedName → Option String

namespace LocalClusterManager

variable (cm : LocalClusterManager)

/-- `GetLocalClusterName`. -/
def getLocalClusterName : Except String String :=
  match cm.getClusters with
  | .error err => .error err
  | .ok [cluster] => .ok cluster.name
  | .ok _ => .error "cluster configuration does not support the requirements"

/-- `GetBlueprint`. -/
def getBlueprint (blueprints : GoMap NamespacedName Blueprint) (cluster : String)
    (key : NamespacedName) : Except String Blueprint :=
  if cm.getLocalClusterName.toOption ≠ some cluster then .error ("unregistered cluster: " ++ cluster)
  else
    match cm.get key, blueprints.lookup key with
    | some err, _ => .error err
    | none, none => .error ("blueprints.app.fybrik.io \"" ++ key.name ++ "\" not found")
    | none, some blueprint => .ok blueprint

/-- `DeleteBlueprint`. -/
def deleteBlueprint (blueprints : GoMap NamespacedName Blueprint)
    (k : String × NamespacedName) : GoMap NamespacedName Blueprint × Option String :=
  match cm.getBlueprint blueprints k.1 k.2 with
  | .error err => (blueprints, some err)
  | .ok _ =>
    match cm.delete k.2 with
    | some err => (blueprints, some err)
    | none => (blueprints.delete k.2, none)

/-- No call fails because of the API server. -/
structure Undisturbed : Prop where
  get : ∀ key, cm.get key = none
  delete : ∀ key, cm.delete key = none

variable {cm}

theorem getBlueprint_undisturbed (h : cm.Undisturbed) (blueprints : GoMap NamespacedName Blueprint)
    (cluster : String) (key : NamespacedName) :
    (∃ blueprint, cm.getBlueprint blueprints cluster key = .ok blueprint) ↔
      cm.getLocalClusterName.toOption = some cluster ∧ (blueprints.lookup key).isSome = true := by
  unfold getBlueprint
  rw [h.get key]
  split
  · rename_i hcluster
    simp [hcluster]
  · rename_i hcluster
    rw [not_not.1 hcluster]
    cases blueprints.lookup key <;> simp

/-- Deleting blueprints in the local cluster. -/
def localRemover (cm : LocalClusterManager) (h : cm.Undisturbed) :
    Removal.Remover (GoMap NamespacedName Blueprint) (String × NamespacedName)
      (String × NamespacedName) String where
  remove := cm.deleteBlueprint
  target := id
  holds blueprints k :=
    cm.getLocalClusterName.toOption = some k.1 ∧ (blueprints.lookup k.2).isSome = true
  succeeds blueprints k hk := by
    obtain ⟨blueprint, hget⟩ := (getBlueprint_undisturbed h blueprints k.1 k.2).2 hk
    simp only [deleteBlueprint, hget, h.delete]
  removes blueprints k hk k' := by
    obtain ⟨blueprint, hget⟩ := (getBlueprint_undisturbed h blueprints k.1 k.2).2 hk
    simp only [deleteBlueprint, hget, h.delete, id_eq, GoMap.isSome_lookup_delete]
    constructor
    · rintro ⟨hcluster, hsome, hkey⟩
      exact ⟨⟨hcluster, hsome⟩, fun heq => hkey (congrArg Prod.snd heq)⟩
    · rintro ⟨⟨hcluster, hsome⟩, hne⟩
      refine ⟨hcluster, hsome, fun hkey => hne ?_⟩
      exact Prod.ext (Option.some.inj (hcluster.symm.trans hk.1)) hkey
  fails blueprints k hk := by
    unfold deleteBlueprint
    cases hget : cm.getBlueprint blueprints k.1 k.2 with
    | error err => simp
    | ok blueprint =>
      exact absurd ((getBlueprint_undisturbed h blueprints k.1 k.2).1 ⟨blueprint, hget⟩) hk

end LocalClusterManager

/-! ## Razee -/

/-- A subscription to a version of a channel. -/
structure Subscription where
  uuid : String
  versionUUID : String
  deriving DecidableEq

/-- A version of a channel: its name is a number, its content a blueprint. -/
structure ChannelVersion where
  uuid : String
  name : String
  content : String
  deriving DecidableEq

/-- A channel of Razee. -/
structure Channel where
  uuid : String
  name : String
  subscriptions : List Subscription
  versions : List ChannelVersion
  deriving DecidableEq

/-- The channels of an organisation. -/
structure Razee where
  channels : List Channel
  names_nodup : (channels.map Channel.name).Nodup
  uuids_nodup : (channels.map Channel.uuid).Nodup

namespace Razee

/-- Every channel is changed in a way that keeps its name and identifier. -/
def modify (z : Razee) (f : Channel → Channel) (hname : ∀ c, (f c).name = c.name)
    (huuid : ∀ c, (f c).uuid = c.uuid) : Razee where
  channels := z.channels.map f
  names_nodup := by
    have heq : Channel.name ∘ f = Channel.name := funext hname
    rw [List.map_map, heq]
    exact z.names_nodup
  uuids_nodup := by
    have heq : Channel.uuid ∘ f = Channel.uuid := funext huuid
    rw [List.map_map, heq]
    exact z.uuids_nodup

/-- `RemoveSubscription`. -/
def removeSubscription (z : Razee) (uuid : String) : Razee :=
  z.modify (fun c => { c with subscriptions := c.subscriptions.filter fun s => s.uuid != uuid })
    (fun _ => rfl) fun _ => rfl

/-- `RemoveChannelVersion`. -/
def removeChannelVersion (z : Razee) (uuid : String) : Razee :=
  z.modify (fun c => { c with versions := c.versions.filter fun v => v.uuid != uuid })
    (fun _ => rfl) fun _ => rfl

/-- `RemoveChannel`. -/
def removeChannel (z : Razee) (uuid : String) : Razee where
  channels := z.channels.filter fun c => c.uuid != uuid
  names_nodup := z.names_nodup.sublist (List.filter_sublist.map _)
  uuids_nodup := z.uuids_nodup.sublist (List.filter_sublist.map _)

/-- Which channels there are. -/
def index (z : Razee) : List (String × String) := z.channels.map fun c => (c.uuid, c.name)

variable {z : Razee}

theorem index_modify (f : Channel → Channel) (hname : ∀ c, (f c).name = c.name)
    (huuid : ∀ c, (f c).uuid = c.uuid) : (z.modify f hname huuid).index = z.index := by
  unfold index modify
  rw [List.map_map]
  exact List.map_congr_left fun c _ => Prod.ext (huuid c) (hname c)

theorem index_removeSubscription (z : Razee) (uuid : String) :
    (z.removeSubscription uuid).index = z.index := index_modify _ _ _

theorem index_removeChannelVersion (z : Razee) (uuid : String) :
    (z.removeChannelVersion uuid).index = z.index := index_modify _ _ _

theorem mem_index_removeChannel {uuid : String} {entry : String × String} :
    entry ∈ (z.removeChannel uuid).index ↔ entry ∈ z.index ∧ entry.1 ≠ uuid := by
  unfold index removeChannel
  simp only [List.mem_map, List.mem_filter, bne_iff_ne]
  constructor
  · rintro ⟨c, ⟨hc, hne⟩, rfl⟩
    exact ⟨⟨c, hc, rfl⟩, hne⟩
  · rintro ⟨⟨c, hc, rfl⟩, hne⟩
    exact ⟨c, ⟨hc, hne⟩, rfl⟩

/-- Names and identifiers determine each other. -/
theorem fst_eq_iff {entry entry' : String × String} (h : entry ∈ z.index) (h' : entry' ∈ z.index) :
    entry.1 = entry'.1 ↔ entry.2 = entry'.2 := by
  obtain ⟨c, hc, rfl⟩ := List.mem_map.1 h
  obtain ⟨c', hc', rfl⟩ := List.mem_map.1 h'
  constructor
  · intro heq
    rw [List.inj_on_of_nodup_map z.uuids_nodup hc hc' heq]
  · intro heq
    rw [List.inj_on_of_nodup_map z.names_nodup hc hc' heq]

end Razee

/-- The answers of Razee while a blueprint is deleted: each call may fail. -/
structure RazeeClusterManager where
  channelByName : String → Option String
  removeSubscription : String → Option String
  removeChannelVersion : String → Option String
  removeChannel : String → Option String

/-- `channelName`. -/
def channelName (cluster name : String) : String := "fybrik.io-" ++ cluster ++ "-" ++ name

namespace RazeeClusterManager

variable (rm : RazeeClusterManager)

/-- A call that either fails or changes the channels. -/
def call (err : Option String) (z z' : Razee) : Razee × Option String :=
  match err with
  | some err => (z, some err)
  | none => (z', none)

/-- `ChannelByName`. -/
def findChannel (z : Razee) (name : String) : Except String Channel :=
  match rm.channelByName name with
  | some err => .error err
  | none =>
    match z.channels.find? fun c => c.name == name with
    | none => .error (PlotterReconciler.channelNotFound ++ " " ++ name)
    | some channel => .ok channel

/-- The loop of `DeleteBlueprint` over the subscriptions. -/
def removeSubscriptions (z : Razee) (subscriptions : List Subscription) : Razee × Option String :=
  Removal.removeUntilError (fun z s =>
    call (rm.removeSubscription s.uuid) z (z.removeSubscription s.uuid)) z subscriptions

/-- The loop of `DeleteBlueprint` over the versions. -/
def removeChannelVersions (z : Razee) (versions : List ChannelVersion) : Razee × Option String :=
  Removal.removeUntilError (fun z v =>
    call (rm.removeChannelVersion v.uuid) z (z.removeChannelVersion v.uuid)) z versions

/-- `DeleteBlueprint`. -/
def deleteBlueprint (z : Razee) (k : String × NamespacedName) : Razee × Option String :=
  match rm.findChannel z (channelName k.1 k.2.name) with
  | .error err => (z, some err)
  | .ok channel =>
    match rm.removeSubscriptions z channel.subscriptions with
    | (z, some err) => (z, some err)
    | (z, none) =>
      match rm.removeChannelVersions z channel.versions with
      | (z, some err) => (z, some err)
      | (z, none) => call (rm.removeChannel channel.uuid) z (z.removeChannel channel.uuid)

/-- No channel disappears with its subscriptions and versions. -/
theorem index_removeSubscriptions (z : Razee) (subscriptions : List Subscription) :
    (rm.removeSubscriptions z subscriptions).1.index = z.index := by
  refine Removal.removeUntilError_untouched Razee.index (fun z s => ?_) z subscriptions
  cases rm.removeSubscription s.uuid with
  | none => exact z.index_removeSubscription s.uuid
  | some err => rfl

theorem index_removeChannelVersions (z : Razee) (versions : List ChannelVersion) :
    (rm.removeChannelVersions z versions).1.index = z.index := by
  refine Removal.removeUntilError_untouched Razee.index (fun z v => ?_) z versions
  cases rm.removeChannelVersion v.uuid with
  | none => exact z.index_removeChannelVersion v.uuid
  | some err => rfl

/-- Razee executes every call. -/
def undisturbed : RazeeClusterManager := ⟨fun _ => none, fun _ => none, fun _ => none, fun _ => none⟩

theorem findChannel_undisturbed {z : Razee} {name : String}
    (h : name ∈ z.index.map Prod.snd) :
    ∃ channel, undisturbed.findChannel z name = .ok channel ∧
      (channel.uuid, name) ∈ z.index := by
  have hsome : (z.channels.find? fun c => c.name == name).isSome = true := by
    rw [List.find?_isSome]
    obtain ⟨entry, hentry, rfl⟩ := List.mem_map.1 h
    obtain ⟨c, hc, rfl⟩ := List.mem_map.1 hentry
    exact ⟨c, hc, by simp⟩
  obtain ⟨channel, hchannel⟩ := Option.isSome_iff_exists.1 hsome
  have hname : channel.name = name := by simpa using List.find?_some hchannel
  refine ⟨channel, by simp only [findChannel, undisturbed, hchannel], ?_⟩
  rw [← hname]
  exact List.mem_map_of_mem (List.mem_of_find?_eq_some hchannel)

theorem findChannel_of_not_mem {z : Razee} {name : String} (h : name ∉ z.index.map Prod.snd) :
    ∃ err, undisturbed.findChannel z name = .error err := by
  have hnone : (z.channels.find? fun c => c.name == name) = none := by
    rw [List.find?_eq_none]
    intro c hc heq
    refine h (List.mem_map.2 ⟨(c.uuid, c.name), List.mem_map_of_mem hc, ?_⟩)
    simpa using heq
  refine ⟨PlotterReconciler.channelNotFound ++ " " ++ name, ?_⟩
  simp only [findChannel, undisturbed, hnone]

/-- What is left of the channels if Razee executes every call. -/
theorem deleteBlueprint_undisturbed {z : Razee} {k : String × NamespacedName}
    (h : channelName k.1 k.2.name ∈ z.index.map Prod.snd) :
    (undisturbed.deleteBlueprint z k).2 = none ∧
      ∃ uuid, (uuid, channelName k.1 k.2.name) ∈ z.index ∧
        ∀ entry, entry ∈ (undisturbed.deleteBlueprint z k).1.index ↔
          entry ∈ z.index ∧ entry.1 ≠ uuid := by
  obtain ⟨channel, hchannel, hmem⟩ := findChannel_undisturbed h
  have hindex₁ := undisturbed.index_removeSubscriptions z channel.subscriptions
  have hnone₁ : (undisturbed.removeSubscriptions z channel.subscriptions).2 = none :=
    Removal.removeUntilError_of_forall (fun _ _ => rfl) _ _
  unfold deleteBlueprint
  rw [hchannel]
  dsimp only
  cases hz₁ : undisturbed.removeSubscriptions z channel.subscriptions with
  | mk z₁ err₁ =>
    rw [hz₁] at hindex₁ hnone₁
    obtain rfl := hnone₁
    have hindex₂ := undisturbed.index_removeChannelVersions z₁ channel.versions
    have hnone₂ : (undisturbed.removeChannelVersions z₁ channel.versions).2 = none :=
      Removal.removeUntilError_of_forall (fun _ _ => rfl) _ _
    dsimp only
    cases hz₂ : undisturbed.removeChannelVersions z₁ channel.versions with
    | mk z₂ err₂ =>
      rw [hz₂] at hindex₂ hnone₂
      obtain rfl := hnone₂
      refine ⟨rfl, channel.uuid, hmem, fun entry => ?_⟩
      rw [← hindex₁, ← hindex₂]
      exact Razee.mem_index_removeChannel

/-- Deleting blueprints with Razee. -/
def razeeRemover : Removal.Remover Razee (String × NamespacedName) String String where
  remove := undisturbed.deleteBlueprint
  target k := channelName k.1 k.2.name
  holds z name := name ∈ z.index.map Prod.snd
  succeeds z k hk := (deleteBlueprint_undisturbed hk).1
  removes z k hk name := by
    obtain ⟨-, uuid, huuid, hleft⟩ := deleteBlueprint_undisturbed hk
    simp only [List.mem_map, hleft]
    constructor
    · rintro ⟨entry, ⟨hentry, hne⟩, rfl⟩
      exact ⟨⟨entry, hentry, rfl⟩, fun heq => hne ((Razee.fst_eq_iff hentry huuid).2 heq)⟩
    · rintro ⟨⟨entry, hentry, rfl⟩, hne⟩
      exact ⟨entry, ⟨hentry, fun heq => hne ((Razee.fst_eq_iff hentry huuid).1 heq)⟩, rfl⟩
  fails z k hk := by
    obtain ⟨err, herr⟩ := findChannel_of_not_mem hk
    unfold deleteBlueprint
    rw [herr]
    exact Option.some_ne_none err

end RazeeClusterManager

end Fybrik
