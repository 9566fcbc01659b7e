import Fybrik.Lib.Decimal
import Fybrik.Lib.Loops
import Fybrik.Multicluster.Managers
import Mathlib.Algebra.Order.BigOperators.Group.List

/-!
# Blueprints in Razee channels

How the cluster manager for Razee creates and updates a blueprint
(`pkg/multicluster/razee/razee_cluster_manager.go`).  A blueprint has a channel; each state of it
is a version of the channel, and the subscription of the channel says which version is delivered.
Every request to the service may fail, also those that should undo the earlier ones.

* `Razee.addChannel`, `addChannelVersion`, `addSubscription`, `setSubscription` — the service.
* `RazeeAnswers` — which of the requests of a call fail.
* `RazeeOrganisation.createBlueprint`, `updateBlueprint` — the calls.
* `Effect` — what a call can do to the channel of its blueprint; `step_effect` says that this is
  all, and what follows is proved from it.
* `run_delivers` — versions have distinct names, and after a call without an error the channel
  delivers the blueprint of that call.
-/

namespace Fybrik

/-! ## The service -/

namespace Razee

/-- The channel of this name. -/
def channelNamed (z : Razee) (name : String) : Option Channel :=
  z.channels.find? fun c => c.name == name

/-- The identifiers of everything in a channel. -/
def channelUUIDs (c : Channel) : List String :=
  c.uuid :: (c.versions.map ChannelVersion.uuid ++ c.subscriptions.map Subscription.uuid)

/-- The identifiers that are in use. -/
def uuids (z : Razee) : List String := z.channels.flatMap channelUUIDs

/-- `ChannelByName`; the call fails if there is no such channel. -/
def channelByName (z : Razee) (err : Option String) (name : String) : Except String Channel :=
  match err with
  | some err => .error err
  | none =>
    match z.channelNamed name with
    | none => .error (PlotterReconciler.channelNotFound ++ " " ++ name)
    | some channel => .ok channel

variable {z : Razee} {name : String} {c : Channel}

theorem name_of_channelNamed (h : z.channelNamed name = some c) : c.name = name := by
  simpa using List.find?_some h

theorem mem_of_channelNamed (h : z.channelNamed name = some c) :
    c ∈ z.channels := List.mem_of_find?_eq_some h

theorem channelNamed_of_channelByName {err : Option String} (h : z.channelByName err name = .ok c) :
    z.channelNamed name = some c := by
  unfold channelByName at h
  cases err with
  | some err => cases h
  | none =>
    cases hnamed : z.channelNamed name with
    | none =>
      rw [hnamed] at h
      cases h
    | some c' =>
      rw [hnamed] at h
      rw [Except.ok.inj h]

theorem channelNamed_eq_none : z.channelNamed name = none ↔ ∀ c ∈ z.channels, c.name ≠ name := by
  simp [channelNamed, List.find?_eq_none]

/-- `AddChannel`, for a name and an identifier that are not in use. -/
def addChannel (z : Razee) (uuid name : String) (hname : z.channelNamed name = none)
    (huuid : uuid ∉ z.uuids) : Razee where
  channels := z.channels ++ [⟨uuid, name, [], []⟩]
  names_nodup := by
    rw [List.map_append, List.nodup_append_comm]
    refine List.nodup_cons.2 ⟨fun hmem => ?_, z.names_nodup⟩
    obtain ⟨c, hc, heq⟩ := List.mem_map.1 hmem
    exact channelNamed_eq_none.1 hname c hc heq
  uuids_nodup := by
    rw [List.map_append, List.nodup_append_comm]
    refine List.nodup_cons.2 ⟨fun hmem => huuid ?_, z.uuids_nodup⟩
    obtain ⟨c, hc, heq⟩ := List.mem_map.1 hmem
    have huuid : c.uuid = uuid := heq
    exact List.mem_flatMap.2 ⟨c, hc, huuid ▸ List.mem_cons_self⟩

/-- `AddChannelVersion`. -/
def addChannelVersion (z : Razee) (channelUUID : String) (version : ChannelVersion) : Razee :=
  z.modify
    (fun c => { c with
      versions := if c.uuid = channelUUID then c.versions ++ [version] else c.versions })
    (fun _ => rfl) fun _ => rfl

/-- `AddSubscription`. -/
def addSubscription (z : Razee) (channelUUID : String) (subscription : Subscription) : Razee :=
  z.modify
    (fun c => { c with
      subscriptions :=
        if c.uuid = channelUUID then c.subscriptions ++ [subscription] else c.subscriptions })
    (fun _ => rfl) fun _ => rfl

/-- `SetSubscription`. -/
def setSubscription (z : Razee) (uuid versionUUID : String) : Razee :=
  z.modify
    (fun c => { c with
      subscriptions := c.subscriptions.map fun s =>
        if s.uuid = uuid then { s with versionUUID := versionUUID } else s })
    (fun _ => rfl) fun _ => rfl

/-! What the operations do to the channel of a name. -/

theorem channelNamed_modify (z : Razee) (f : Channel → Channel)
    (hname : ∀ c, (f c).name = c.name) (huuid : ∀ c, (f c).uuid = c.uuid) (name : String) :
    (z.modify f hname huuid).channelNamed name = (z.channelNamed name).map f := by
  have hcomp : (fun c : Channel => c.name == name) ∘ f = fun c => c.name == name := by
    funext c
    simp only [Function.comp, hname]
  rw [channelNamed, modify, List.find?_map, hcomp, channelNamed]

theorem channelNamed_addChannel {uuid : String} (hname : z.channelNamed name = none)
    (huuid : uuid ∉ z.uuids) :
    (z.addChannel uuid name hname huuid).channelNamed name = some ⟨uuid, name, [], []⟩ := by
  rw [channelNamed] at hname
  rw [channelNamed, addChannel, List.find?_append, hname]
  simp

theorem channelNamed_addChannelVersion (h : z.channelNamed name = some c)
    (version : ChannelVersion) :
    (z.addChannelVersion c.uuid version).channelNamed name
      = some { c with versions := c.versions ++ [version] } := by
  rw [addChannelVersion, channelNamed_modify, h, Option.map_some, if_pos rfl]

theorem channelNamed_addSubscription (h : z.channelNamed name = some c)
    (subscription : Subscription) :
    (z.addSubscription c.uuid subscription).channelNamed name
      = some { c with subscriptions := c.subscriptions ++ [subscription] } := by
  rw [addSubscription, channelNamed_modify, h, Option.map_some, if_pos rfl]

theorem channelNamed_setSubscription (h : z.channelNamed name = some c) {s : Subscription}
    (hs : c.subscriptions = [s]) (versionUUID : String) :
    (z.setSubscription s.uuid versionUUID).channelNamed name
      = some { c with subscriptions := [{ s with versionUUID := versionUUID }] } := by
  rw [setSubscription, channelNamed_modify, h, Option.map_some, hs, List.map_singleton,
    if_pos rfl]

theorem channelNamed_removeChannel (h : z.channelNamed name = some c) :
    (z.removeChannel c.uuid).channelNamed name = none := by
  rw [channelNamed_eq_none]
  intro c' hc' hname
  obtain ⟨hmem, hne⟩ := List.mem_filter.1 hc'
  have heq : c' = c := List.inj_on_of_nodup_map z.names_nodup hmem (mem_of_channelNamed h)
    (hname.trans (name_of_channelNamed h).symm)
  simp [heq] at hne

/-- A new identifier differs from those of the versions of a channel. -/
theorem not_mem_versions {uuid : String} (h : z.channelNamed name = some c)
    (huuid : uuid ∉ z.uuids) : uuid ∉ c.versions.map ChannelVersion.uuid := fun hmem =>
  huuid (List.mem_flatMap.2 ⟨c, mem_of_channelNamed h,
    List.mem_cons_of_mem _ (List.mem_append_left _ hmem)⟩)

end Razee

/-! ## The calls -/

/-- What Razee answers to the requests of one call: the text of an error, if the request fails.
Clusters and groups are answered by their identifiers, if there are such. -/
structure RazeeAnswers where
  clusterByName : Except String (Option String)
  groupByName : Except String (Option String)
  addGroup : Except String String
  groupClusters : Option String
  channelByName : Option String
  addChannel : Option String
  addChannelVersion : Option String
  addSubscription : Option String
  removeChannelVersion : Option String
  removeChannel : Option String
  /-- `ChannelByName` in `UpdateBlueprint`, which asks again. -/
  channelInfo : Option String
  setSubscription : Option String

namespace RazeeAnswers

/-- The text of the error for a group that does not exist. -/
def groupNotFound : String :=
  "Cannot destructure property 'req_id' of 'context' as it is undefined."

/-- The group of the cluster is found, or added. -/
def groupUUID (a : RazeeAnswers) : Except String String :=
  match a.groupByName with
  | .error err => if err = groupNotFound then a.addGroup else .error err
  | .ok none => a.addGroup
  | .ok (some uuid) => .ok uuid

/-- The cluster is put into its group. -/
def groupCluster (a : RazeeAnswers) (orgID cluster : String) : Option String :=
  match a.clusterByName with
  | .error err => some ("error while fetching cluster by name: " ++ err)
  | .ok none =>
    some ("no cluster found for orgID " ++ orgID ++ " and cluster name " ++ cluster)
  | .ok (some _) =>
    match a.groupUUID with
    | .error err => some err
    | .ok _ => a.groupClusters

end RazeeAnswers

/-- An organisation in Razee: its identifier, how blueprints are written, the identifiers the
service gives to new objects, and how it refuses a second channel of the same name. -/
structure RazeeOrganisation where
  orgID : String
  marshal : Blueprint → Except String String
  newUUID : List String → String
  newUUID_not_mem : ∀ used, newUUID used ∉ used
  duplicateChannel : String → String

namespace RazeeOrganisation

/-- Errors of `ChannelByName` that begin like this are taken for a missing channel. -/
def queryError : String := "Query channelByName error."

/-- A request of a roll-back; an error is only logged. -/
def attempt (err : Option String) (z z' : Razee) : Razee := (RazeeClusterManager.call err z z').1

/-- One turn of the loop over the versions of a channel. -/
def maxStep (max : ℤ) (version : ChannelVersion) : Except String ℤ :=
  match Decimal.atoi version.name with
  | none => .error ("cannot parse version name " ++ version.name)
  | some v => .ok (if max < v then v else max)

/-- The loop: the greatest number of a version, but at least 0. -/
def maxVersion (versions : List ChannelVersion) : Except String ℤ := versions.foldlM maxStep 0

variable (r : RazeeOrganisation)

/-- The last part of `UpdateBlueprint`: a version is added, and subscribed. -/
def addAndSubscribe (a : RazeeAnswers) (z : Razee) (channelUUID subscriptionUUID nextVersion : String)
    (content : String) : Razee × Option String :=
  match a.addChannelVersion with
  | some err => (z, some err)
  | none =>
    let versionUUID := r.newUUID z.uuids
    let z := z.addChannelVersion channelUUID ⟨versionUUID, nextVersion, content⟩
    RazeeClusterManager.call a.setSubscription z (z.setSubscription subscriptionUUID versionUUID)

/-- `UpdateBlueprint`. -/
def updateBlueprint (a : RazeeAnswers) (z : Razee) (cluster : String) (blueprint : Blueprint) :
    Razee × Option String :=
  match r.marshal blueprint with
  | .error err => (z, some err)
  | .ok content =>
    match z.channelByName a.channelInfo (channelName cluster blueprint.name) with
    | .error _ =>
      (z, some ("cannot fetch channel info for channel '" ++ channelName cluster blueprint.name
        ++ "'"))
    | .ok channelInfo =>
      match maxVersion channelInfo.versions with
      | .error err => (z, some err)
      | .ok max =>
        match channelInfo.subscriptions with
        | [subscription] =>
          r.addAndSubscribe a z channelInfo.uuid subscription.uuid
            (Decimal.itoa (Decimal.wrap (max + 1))) content
        | _ => (z, some "found more or less than one subscription")

/-- The last part of `CreateBlueprint`: the new channel gets its first version and a
subscription.  If this fails, what was done is taken back, as far as possible. -/
def fillChannel (a : RazeeAnswers) (z : Razee) (channelUUID content : String) :
    Razee × Option String :=
  match a.addChannelVersion with
  | some err => (attempt a.removeChannel z (z.removeChannel channelUUID), some err)
  | none =>
    let versionUUID := r.newUUID z.uuids
    let z := z.addChannelVersion channelUUID ⟨versionUUID, "0", content⟩
    match a.addSubscription with
    | some err =>
      let z := attempt a.removeChannelVersion z (z.removeChannelVersion versionUUID)
      (attempt a.removeChannel z (z.removeChannel channelUUID), some err)
    | none => (z.addSubscription channelUUID ⟨r.newUUID z.uuids, versionUUID⟩, none)

/-- The part of `CreateBlueprint` that adds a channel; the service refuses a second one of the
same name. -/
def createChannel (a : RazeeAnswers) (z : Razee) (name content : String) :
    Razee × Option String :=
  match a.addChannel with
  | some err => (z, some err)
  | none =>
    if hname : z.channelNamed name = none then
      r.fillChannel a (z.addChannel (r.newUUID z.uuids) name hname (r.newUUID_not_mem _))
        (r.newUUID z.uuids) content
    else (z, some (r.duplicateChannel name))

/-- `CreateBlueprint`. -/
def createBlueprint (a : RazeeAnswers) (z : Razee) (cluster : String) (blueprint : Blueprint) :
    Razee × Option String :=
  match r.marshal blueprint with
  | .error err => (z, some err)
  | .ok content =>
    match a.groupCluster r.orgID cluster with
    | some err => (z, some err)
    | none =>
      match z.channelByName a.channelByName (channelName cluster blueprint.name) with
      | .ok _ => r.updateBlueprint a z cluster blueprint
      | .error err =>
        if queryError.toList.isPrefixOf err.toList then
          r.createChannel a z (channelName cluster blueprint.name) content
        else (z, some err)

end RazeeOrganisation

/-! ## What a call can do -/

/-- The channel has one subscription, and it points to a version with this content. -/
def Channel.Delivers (c : Channel) (content : String) : Prop :=
  ∃ s, ∃ version ∈ c.versions, c.subscriptions = [s] ∧ version.content = content ∧
    ∀ v ∈ c.versions, v.uuid = s.versionUUID ↔ v = version

/-- The versions of the channel have distinct names. -/
def Channel.Distinct (c : Channel) : Prop := (c.versions.map ChannelVersion.name).Nodup

/-- Distinct names, and they are numbers up to a bound. -/
structure Channel.Numbered (n : ℕ) (c : Channel) : Prop where
  distinct : c.Distinct
  bounded : ∀ version ∈ c.versions, ∃ v : ℤ, version.name = Decimal.itoa v ∧ v ≤ n

/-- The name is one more than the greatest number of a version, in the machine's integers. -/
def Channel.Next (c : Channel) (name : String) : Prop :=
  ∃ max, RazeeOrganisation.maxVersion c.versions = .ok max ∧
    name = Decimal.itoa (Decimal.wrap (max + 1))

/-- What a call does to the channel of its blueprint, if there is one, and the error it
returns. -/
inductive Effect (content : Except String String) :
    Option Channel → Option Channel → Option String → Prop
  | refused (before : Option Channel) (err : String) : Effect content before before (some err)
  /-- The first subscription failed, and the channel was not removed. -/
  | stranded {c : Channel} (err : String) : c.subscriptions = [] → c.Numbered 0 →
      Effect content none (some c) (some err)
  | created {c : Channel} {text : String} : content = .ok text → c.Numbered 0 → c.Delivers text →
      Effect content none (some c) none
  /-- A version was added, but it is not subscribed. -/
  | added {c : Channel} {s : Subscription} (version : ChannelVersion) (err : String) :
      c.subscriptions = [s] → c.Next version.name →
      Effect content (some c) (some { c with versions := c.versions ++ [version] }) (some err)
  | updated {c : Channel} {s : Subscription} (version : ChannelVersion) :
      c.subscriptions = [s] → c.Next version.name →
      version.uuid ∉ c.versions.map ChannelVersion.uuid → content = .ok version.content →
      Effect content (some c)
        (some { c with
          versions := c.versions ++ [version]
          subscriptions := [{ s with versionUUID := version.uuid }] }) none

namespace RazeeOrganisation

/-- What the loop knows of the versions it has read. -/
structure Greatest (versions : List ChannelVersion) (max : ℤ) : Prop where
  nonneg : 0 ≤ max
  bounds : ∀ version ∈ versions, ∃ v, Decimal.atoi version.name = some v ∧ v ≤ max
  attained : max = 0 ∨ ∃ version ∈ versions, Decimal.atoi version.name = some max

theorem greatest_maxStep (versions : List ChannelVersion) (max : ℤ) (version : ChannelVersion)
    (h : Greatest versions max) :
    Loops.Ends (Greatest (versions ++ [version])) (fun _ => True) (maxStep max version) := by
  unfold maxStep
  cases hv : Decimal.atoi version.name with
  | none => trivial
  | some v =>
    have hnonneg := h.nonneg
    refine ⟨?_, fun version' hmem => ?_, ?_⟩
    · split <;> omega
    · rcases List.mem_append.1 hmem with hold | hnew
      · obtain ⟨v', hv', hle⟩ := h.bounds version' hold
        refine ⟨v', hv', ?_⟩
        split <;> omega
      · rw [List.mem_singleton.1 hnew]
        refine ⟨v, hv, ?_⟩
        split <;> omega
    · split
      · exact Or.inr ⟨version, List.mem_append_right _ (List.mem_singleton_self version), hv⟩
      · refine h.attained.imp_right ?_
        rintro ⟨version', hold, hmax⟩
        exact ⟨version', List.mem_append_left _ hold, hmax⟩

theorem greatest_maxVersion {versions : List ChannelVersion} {max : ℤ}
    (h : maxVersion versions = .ok max) : Greatest versions max := by
  have hstart : Greatest [] 0 := ⟨le_rfl, by simp, Or.inl rfl⟩
  have hends := Loops.foldlM_ends greatest_maxStep [] versions hstart
  rwa [← maxVersion, h] at hends

end RazeeOrganisation

namespace Channel

variable {c : Channel} {n : ℕ}

theorem Numbered.mono {m : ℕ} (h : c.Numbered m) (hle : m ≤ n) : c.Numbered n := by
  refine ⟨h.distinct, fun version hversion => ?_⟩
  obtain ⟨v, hv, hbound⟩ := h.bounded version hversion
  exact ⟨v, hv, by omega⟩

/-- The greatest number of a version is within the bound. -/
theorem Numbered.max_le (h : c.Numbered n) {max : ℤ}
    (hmax : RazeeOrganisation.maxVersion c.versions = .ok max) : max ≤ n := by
  rcases (RazeeOrganisation.greatest_maxVersion hmax).attained with hzero | ⟨version, hmem, hv⟩
  · omega
  · obtain ⟨v, hname, hle⟩ := h.bounded version hmem
    rw [hname] at hv
    rwa [Decimal.eq_of_atoi_itoa hv]

/-- The next version has a new name, as long as the numbers do not wrap around. -/
theorem Numbered.append (h : c.Numbered n) (hn : n + 1 < 2 ^ 63) {version : ChannelVersion}
    (hnext : c.Next version.name) (subscriptions : List Subscription) :
    { c with versions := c.versions ++ [version], subscriptions := subscriptions }.Numbered
      (n + 1) := by
  obtain ⟨max, hmax, hname⟩ := hnext
  have hgreatest := RazeeOrganisation.greatest_maxVersion hmax
  have hle := h.max_le hmax
  have hnonneg := hgreatest.nonneg
  rw [Decimal.wrap_of_lt (by omega) (by omega)] at hname
  constructor
  · have hnew : version.name ∉ c.versions.map ChannelVersion.name := by
      intro hmem
      obtain ⟨old, hold, heq⟩ := List.mem_map.1 hmem
      obtain ⟨v, hv, hbound⟩ := hgreatest.bounds old hold
      rw [heq, hname] at hv
      have hvalue := Decimal.eq_of_atoi_itoa hv
      omega
    rw [Distinct, List.map_append, List.nodup_append_comm]
    exact List.nodup_cons.2 ⟨hnew, h.distinct⟩
  · intro version' hmem
    rcases List.mem_append.1 hmem with hold | hnew
    · exact (h.mono (Nat.le_succ n)).bounded version' hold
    · rw [List.mem_singleton.1 hnew]
      exact ⟨max + 1, hname, by push_cast; omega⟩

end Channel

namespace Effect

variable {content : Except String String} {before after : Option Channel} {err : Option String}

theorem numbered (h : Effect content before after err) {n : ℕ} (hn : n + 1 < 2 ^ 63)
    (hbefore : ∀ c ∈ before, c.Numbered n) : ∀ c ∈ after, c.Numbered (n + 1) := by
  cases h with
  | refused _ err => exact fun c hc => (hbefore c hc).mono (Nat.le_succ n)
  | stranded err hnone hnumbered =>
    rintro _ ⟨⟩
    exact hnumbered.mono (Nat.zero_le _)
  | created hcontent hnumbered hdelivers =>
    rintro _ ⟨⟩
    exact hnumbered.mono (Nat.zero_le _)
  | added version err hs hnext =>
    rintro _ ⟨⟩
    exact (hbefore _ rfl).append hn hnext _
  | updated version hs hnext huuid hcontent =>
    rintro _ ⟨⟩
    exact (hbefore _ rfl).append hn hnext _

theorem delivers (h : Effect content before after none) :
    ∃ c ∈ after, ∃ text, content = .ok text ∧ c.Delivers text := by
  cases h with
  | created hcontent hdistinct hdelivers => exact ⟨_, rfl, _, hcontent, hdelivers⟩
  | updated version hs hversion huuid hcontent =>
    refine ⟨_, rfl, version.content, hcontent, _, version, ?_, rfl, rfl, fun v hv => ?_⟩
    · exact List.mem_append_right _ (List.mem_singleton_self version)
    · constructor
      · intro heq
        rcases List.mem_append.1 hv with hold | hnew
        · have hv' : v.uuid = version.uuid := heq
          exact absurd (hv' ▸ List.mem_map_of_mem hold) huuid
        · exact List.mem_singleton.1 hnew
      · rintro rfl
        rfl

end Effect

namespace RazeeOrganisation

variable (r : RazeeOrganisation) (a : RazeeAnswers) {z : Razee} {name content : String}

theorem addAndSubscribe_effect {c : Channel} (h : z.channelNamed name = some c)
    {s : Subscription} (hs : c.subscriptions = [s]) {nextVersion : String}
    (hnext : c.Next nextVersion) :
    Effect (.ok content) (some c)
      ((r.addAndSubscribe a z c.uuid s.uuid nextVersion content).1.channelNamed name)
      (r.addAndSubscribe a z c.uuid s.uuid nextVersion content).2 := by
  have hadded := Razee.channelNamed_addChannelVersion h ⟨r.newUUID z.uuids, nextVersion, content⟩
  unfold addAndSubscribe
  cases a.addChannelVersion with
  | some err =>
    rw [h]
    exact .refused _ err
  | none =>
    cases a.setSubscription with
    | some err =>
      dsimp only [RazeeClusterManager.call]
      rw [hadded]
      exact .added ⟨_, nextVersion, content⟩ err hs hnext
    | none =>
      dsimp only [RazeeClusterManager.call]
      rw [Razee.channelNamed_setSubscription hadded hs]
      have huuid := Razee.not_mem_versions h (r.newUUID_not_mem z.uuids)
      exact .updated ⟨_, nextVersion, content⟩ hs hnext huuid rfl

theorem updateBlueprint_effect (z : Razee) (cluster : String) (blueprint : Blueprint) :
    Effect (r.marshal blueprint) (z.channelNamed (channelName cluster blueprint.name))
      ((r.updateBlueprint a z cluster blueprint).1.channelNamed
        (channelName cluster blueprint.name))
      (r.updateBlueprint a z cluster blueprint).2 := by
  unfold updateBlueprint
  cases r.marshal blueprint with
  | error err => exact .refused _ err
  | ok content =>
    cases hchannel : z.channelByName a.channelInfo (channelName cluster blueprint.name) with
    | error err => exact .refused _ _
    | ok channelInfo =>
      have hnamed := Razee.channelNamed_of_channelByName hchannel
      dsimp only
      cases hmax : maxVersion channelInfo.versions with
      | error err => exact .refused _ err
      | ok max =>
        dsimp only
        split
        · rename_i subscription hsubscription
          rw [hnamed]
          exact r.addAndSubscribe_effect a hnamed hsubscription ⟨max, hmax, rfl⟩
        · exact .refused _ _

/-- A channel without subscriptions is removed, or stays. -/
theorem attempt_removeChannel_effect {c : Channel} (h : z.channelNamed name = some c)
    (hs : c.subscriptions = []) (hnumbered : c.Numbered 0) (err : String) :
    Effect (.ok content) none
      ((attempt a.removeChannel z (z.removeChannel c.uuid)).channelNamed name) (some err) := by
  unfold attempt
  cases a.removeChannel with
  | none =>
    rw [RazeeClusterManager.call, Razee.channelNamed_removeChannel h]
    exact .refused none err
  | some _ =>
    rw [RazeeClusterManager.call, h]
    exact .stranded err hs hnumbered

/-- The new version is removed, or stays. -/
theorem channelNamed_attempt_removeChannelVersion {c : Channel}
    (h : z.channelNamed name = some c) (hnumbered : c.Numbered 0) (versionUUID : String) :
    ∃ versions, (attempt a.removeChannelVersion z (z.removeChannelVersion versionUUID)).channelNamed
        name = some { c with versions := versions } ∧
      Channel.Numbered 0 { c with versions := versions } := by
  unfold attempt
  cases a.removeChannelVersion with
  | none =>
    refine ⟨c.versions.filter fun v => v.uuid != versionUUID, ?_,
      hnumbered.distinct.sublist (List.filter_sublist.map _),
      fun version hmem => hnumbered.bounded version (List.mem_of_mem_filter hmem)⟩
    rw [RazeeClusterManager.call, Razee.removeChannelVersion, Razee.channelNamed_modify, h,
      Option.map_some]
  | some _ => exact ⟨c.versions, h, hnumbered⟩

/-- A channel with its first version only. -/
theorem numbered_first (uuid name versionUUID content : String)
    (subscriptions : List Subscription) :
    Channel.Numbered 0 ⟨uuid, name, subscriptions, [⟨versionUUID, "0", content⟩]⟩ := by
  have hzero : "0" = Decimal.itoa 0 := by decide +kernel
  refine ⟨List.nodup_singleton _, fun version hmem => ⟨0, ?_, le_rfl⟩⟩
  rw [List.mem_singleton.1 hmem]
  exact hzero

theorem fillChannel_effect {uuid : String} (h : z.channelNamed name = some ⟨uuid, name, [], []⟩) :
    Effect (.ok content) none ((r.fillChannel a z uuid content).1.channelNamed name)
      (r.fillChannel a z uuid content).2 := by
  have hadded := Razee.channelNamed_addChannelVersion h ⟨r.newUUID z.uuids, "0", content⟩
  unfold fillChannel
  cases a.addChannelVersion with
  | some err =>
    exact attempt_removeChannel_effect a h rfl ⟨List.nodup_nil, fun _ hmem => nomatch hmem⟩ err
  | none =>
    cases a.addSubscription with
    | some err =>
      obtain ⟨versions, hkept, hnumbered⟩ :=
        channelNamed_attempt_removeChannelVersion a hadded (numbered_first ..) (r.newUUID z.uuids)
      exact attempt_removeChannel_effect a hkept rfl hnumbered err
    | none =>
      rw [Razee.channelNamed_addSubscription hadded]
      refine .created rfl (numbered_first ..) ⟨_, _, List.mem_singleton_self _, rfl, rfl, ?_⟩
      simp

theorem createChannel_effect (z : Razee) (name content : String) :
    Effect (.ok content) (z.channelNamed name) ((r.createChannel a z name content).1.channelNamed name)
      (r.createChannel a z name content).2 := by
  unfold createChannel
  cases a.addChannel with
  | some err => exact .refused _ err
  | none =>
    dsimp only
    split
    · rename_i hname
      rw [hname]
      exact r.fillChannel_effect a (Razee.channelNamed_addChannel hname _)
    · exact .refused _ _

theorem createBlueprint_effect (z : Razee) (cluster : String) (blueprint : Blueprint) :
    Effect (r.marshal blueprint) (z.channelNamed (channelName cluster blueprint.name))
      ((r.createBlueprint a z cluster blueprint).1.channelNamed
        (channelName cluster blueprint.name))
      (r.createBlueprint a z cluster blueprint).2 := by
  have hupdate := r.updateBlueprint_effect a z cluster blueprint
  unfold createBlueprint
  cases hmarshal : r.marshal blueprint with
  | error err => exact .refused _ err
  | ok content =>
    rw [hmarshal] at hupdate
    cases a.groupCluster r.orgID cluster with
    | some err => exact .refused _ err
    | none =>
      cases z.channelByName a.channelByName (channelName cluster blueprint.name) with
      | ok channel => exact hupdate
      | error err =>
        dsimp only
        split
        · exact r.createChannel_effect a z _ content
        · exact .refused _ err

end RazeeOrganisation

/-! ## Runs -/

/-- The two calls that deliver a blueprint. -/
inductive RazeeOperation where
  | create
  | update
  deriving DecidableEq, Repr

/-- A call of the cluster manager, and how its requests are answered. -/
structure RazeeCall where
  operation : RazeeOperation
  cluster : String
  blueprint : Blueprint
  answers : RazeeAnswers

/-- The name of the channel for the blueprint of a call. -/
def RazeeCall.channel (call : RazeeCall) : String := channelName call.cluster call.blueprint.name

namespace RazeeOrganisation

variable (r : RazeeOrganisation)

/-- One call. -/
def step (z : Razee) (call : RazeeCall) : Razee × Option String :=
  match call.operation with
  | .create => r.createBlueprint call.answers z call.cluster call.blueprint
  | .update => r.updateBlueprint call.answers z call.cluster call.blueprint

/-- One call after the other, whatever they return. -/
def run (z : Razee) (calls : List RazeeCall) : Razee :=
  calls.foldl (fun z call => (r.step z call).1) z

theorem step_effect (z : Razee) (call : RazeeCall) :
    Effect (r.marshal call.blueprint) (z.channelNamed call.channel)
      ((r.step z call).1.channelNamed call.channel) (r.step z call).2 := by
  unfold step
  cases call.operation with
  | create => exact r.createBlueprint_effect call.answers z call.cluster call.blueprint
  | update => exact r.updateBlueprint_effect call.answers z call.cluster call.blueprint

theorem run_numbered {name : String} {calls : List RazeeCall}
    (hcalls : ∀ call ∈ calls, call.channel = name) {z : Razee} {n : ℕ}
    (hn : n + calls.length < 2 ^ 63) (h : ∀ c ∈ z.channelNamed name, c.Numbered n) :
    ∀ c ∈ (r.run z calls).channelNamed name, c.Numbered (n + calls.length) := by
  induction calls generalizing z n with
  | nil => exact h
  | cons call calls ih =>
    have heffect := r.step_effect z call
    rw [hcalls call List.mem_cons_self] at heffect
    rw [List.length_cons] at hn
    rw [List.length_cons, ← Nat.add_assoc, Nat.add_right_comm]
    exact ih (fun call' hcall' => hcalls call' (List.mem_cons_of_mem call hcall')) (by omega)
      (heffect.numbered (by omega) h)

/-- **Channels deliver the last blueprint that was accepted.**  Whatever requests have failed in
the calls for a channel, which did not exist at first: its versions have distinct names, and if
the last call returns no error, the channel has one subscription, to a version with the blueprint
of that call.  There are fewer calls than the type `int` has numbers from 0. -/
theorem run_delivers {z : Razee} {name : String} (hstart : z.channelNamed name = none)
    {calls : List RazeeCall} (hcalls : ∀ call ∈ calls, call.channel = name) {call : RazeeCall}
    (hcall : call.channel = name) (hbound : calls.length + 1 < 2 ^ 63) :
    (∀ c ∈ (r.step (r.run z calls) call).1.channelNamed name, c.Distinct) ∧
      ((r.step (r.run z calls) call).2 = none →
        ∃ c ∈ (r.step (r.run z calls) call).1.channelNamed name, ∃ content,
          r.marshal call.blueprint = .ok content ∧ c.Delivers content) := by
  have heffect := r.step_effect (r.run z calls) call
  rw [hcall] at heffect
  have hrun : ∀ c ∈ (r.run z calls).channelNamed name, c.Numbered (0 + calls.length) := by
    refine r.run_numbered hcalls (by omega) fun c hc => ?_
    rw [hstart] at hc
    exact absurd hc (Option.not_mem_none c)
  refine ⟨fun c hc => (heffect.numbered (by omega) hrun c hc).distinct, fun hnone => ?_⟩
  rw [hnone] at heffect
  exact heffect.delivers

end RazeeOrganisation

/-- An identifier that is longer than all others. -/
def longerUUID (used : List String) : String :=
  String.ofList (List.replicate ((used.map String.length).sum + 1) 'u')

theorem longerUUID_not_mem (used : List String) : longerUUID used ∉ used := by
  intro hmem
  have hle := List.le_sum_of_mem (List.mem_map_of_mem (f := String.length) hmem)
  rw [longerUUID, String.length_ofList, List.length_replicate] at hle
  omega

/-- An organisation in which a blueprint is written as its generation. -/
def fellowship : RazeeOrganisation where
  orgID := "fellowship"
  marshal blueprint := .ok (Decimal.itoa blueprint.generation)
  newUUID := longerUUID
  newUUID_not_mem := longerUUID_not_mem
  duplicateChannel name := "The channel name " ++ name ++ " already exists."

/-- No channels. -/
def noChannels : Razee := ⟨[], List.nodup_nil, List.nodup_nil⟩

/-- Every request is carried out; the group of the cluster does not exist yet. -/
def allCarriedOut : RazeeAnswers where
  clusterByName := .ok (some "bree-id")
  groupByName := .error RazeeAnswers.groupNotFound
  addGroup := .ok "bree-group"
  groupClusters := none
  channelByName := none
  addChannel := none
  addChannelVersion := none
  addSubscription := none
  removeChannelVersion := none
  removeChannel := none
  channelInfo := none
  setSubscription := none

/-- A call for the blueprint of a notebook. -/
def notebookCall (operation : RazeeOperation) (generation : ℕ) (answers : RazeeAnswers) :
    RazeeCall where
  operation := operation
  cluster := "bree"
  blueprint := { (default : Blueprint) with name := "notebook", generation := generation }
  answers := answers

/-- The channel is created, but an update does not get to its subscription. -/
def notebookCalls : List RazeeCall :=
  [notebookCall .create 1 allCarriedOut,
    notebookCall .update 2 { allCarriedOut with setSubscription := some "timeout" }]

/-- Then the blueprint is created again. -/
def notebookRun : Razee × Option String :=
  fellowship.step (fellowship.run noChannels notebookCalls) (notebookCall .create 3 allCarriedOut)

theorem notebookRun_delivers :
    ∃ c ∈ notebookRun.1.channelNamed "fybrik.io-bree-notebook",
      c.versions.map ChannelVersion.name = ["0", "1", "2"] ∧ c.Distinct ∧ c.Delivers "3" := by
  have hstart : noChannels.channelNamed "fybrik.io-bree-notebook" = none := rfl
  have hcalls : ∀ call ∈ notebookCalls, call.channel = "fybrik.io-bree-notebook" := by
    decide +kernel
  have hcall : (notebookCall .create 3 allCarriedOut).channel = "fybrik.io-bree-notebook" := by
    decide +kernel
  have hnames : ∀ c ∈ notebookRun.1.channelNamed "fybrik.io-bree-notebook",
      c.versions.map ChannelVersion.name = ["0", "1", "2"] := by decide +kernel
  obtain ⟨hdistinct, hdelivers⟩ := fellowship.run_delivers hstart hcalls hcall (by decide)
  obtain ⟨c, hc, content, hcontent, hdelivers⟩ := hdelivers (by decide +kernel)
  have hthree : content = "3" := (Except.ok.inj hcontent).symm.trans (by decide +kernel)
  exact ⟨c, hc, hnames c hc, hdistinct c hc, hthree ▸ hdelivers⟩

end Fybrik
