import Fybrik.Multicluster.Channels

/-!
# Creating a blueprint again

If a blueprint cannot be created in Razee, the cluster manager tries again later.  What the
failed calls have left behind decides whether this can succeed.

* `RazeeAnswers.CarriedOut` — every request of a call succeeds.
* `Strands` — a failed call that leaves a channel without a subscription.
* `recovers_iff` — after failed calls, a call that could succeed does so if and only if none of
  them was such a call.  A channel without a subscription is never repaired
  (`run_unsubscribed`).
-/

namespace Fybrik

/-- Every request succeeds that is made when a blueprint is created.  A group may be missing, and
is added then. -/
structure RazeeAnswers.CarriedOut (a : RazeeAnswers) : Prop where
  clusterByName : ∃ id, a.clusterByName = .ok (some id)
  groupByName : (∃ group, a.groupByName = .ok group) ∨ a.groupByName = .error groupNotFound
  addGroup : ∃ uuid, a.addGroup = .ok uuid
  groupClusters : a.groupClusters = none
  channelByName : a.channelByName = none
  addChannel : a.addChannel = none
  addChannelVersion : a.addChannelVersion = none
  addSubscription : a.addSubscription = none
  channelInfo : a.channelInfo = none
  setSubscription : a.setSubscription = none

theorem RazeeAnswers.CarriedOut.groupCluster {a : RazeeAnswers} (h : a.CarriedOut)
    (orgID cluster : String) : a.groupCluster orgID cluster = none := by
  obtain ⟨id, hid⟩ := h.clusterByName
  obtain ⟨uuid, huuid⟩ := h.addGroup
  have hgroup : ∃ uuid, a.groupUUID = .ok uuid := by
    rw [groupUUID]
    rcases h.groupByName with ⟨group, hgroup⟩ | hmissing
    · rw [hgroup]
      cases group with
      | none => exact ⟨uuid, huuid⟩
      | some uuid => exact ⟨uuid, rfl⟩
    · rw [hmissing]
      exact ⟨uuid, (if_pos rfl).trans huuid⟩
  obtain ⟨uuid, huuid⟩ := hgroup
  rw [RazeeAnswers.groupCluster, hid]
  rw [huuid]
  exact h.groupClusters

namespace Effect

variable {content : Except String String} {after : Option Channel} {err : Option String}

/-- Nothing happens to a channel without a subscription, and the call fails. -/
theorem of_unsubscribed {c : Channel} (h : Effect content (some c) after err)
    (hc : c.subscriptions = []) : after = some c ∧ err ≠ none := by
  cases h with
  | refused _ err => exact ⟨rfl, Option.some_ne_none err⟩
  | added version err hs => exact absurd (hc.symm.trans hs) (List.cons_ne_nil _ _).symm
  | updated version hs => exact absurd (hc.symm.trans hs) (List.cons_ne_nil _ _).symm

/-- A call that fails leaves no channel, or one without a subscription. -/
theorem of_absent (h : Effect content none after err) (herr : err ≠ none) :
    after = none ∨ ∃ c, after = some c ∧ c.subscriptions = [] := by
  cases h with
  | refused _ err => exact Or.inl rfl
  | stranded err hc hnumbered => exact Or.inr ⟨_, rfl, hc⟩
  | created hcontent hnumbered hdelivers => exact absurd rfl herr

end Effect

namespace RazeeOrganisation

variable (r : RazeeOrganisation)

/-! ## What a failed call leaves behind -/

/-- The call gets as far as adding the channel, if there is none yet. -/
structure AddsChannel (call : RazeeCall) (content : String) : Prop where
  marshal : r.marshal call.blueprint = .ok content
  groupCluster : call.answers.groupCluster r.orgID call.cluster = none
  channelByName : ∀ err ∈ call.answers.channelByName,
    queryError.toList.isPrefixOf err.toList = true
  addChannel : call.answers.addChannel = none

/-- The call adds the channel, but not its first version or the subscription, and then the channel
cannot be removed. -/
def Strands (call : RazeeCall) : Prop :=
  (∃ content, r.AddsChannel call content) ∧
    (call.answers.addChannelVersion ≠ none ∨ call.answers.addSubscription ≠ none) ∧
      call.answers.removeChannel ≠ none

variable {z : Razee}

theorem isPrefixOf_channelNotFound (name : String) :
    queryError.toList.isPrefixOf (PlotterReconciler.channelNotFound ++ " " ++ name).toList
      = true := by
  have hsplit : PlotterReconciler.channelNotFound
      = queryError ++ " Could not find the channel with name" := by decide +kernel
  rw [hsplit, String.toList_append, String.toList_append, String.toList_append,
    List.append_assoc, List.append_assoc]
  exact List.isPrefixOf_iff_prefix.2 (List.prefix_append _ _)

variable {name : String}

/-- How the lookup of a channel that does not exist is understood. -/
theorem channelByName_of_absent (h : z.channelNamed name = none) (lookup : Option String) :
    ∃ err, z.channelByName lookup name = .error err ∧
      (queryError.toList.isPrefixOf err.toList = true ↔
        ∀ text ∈ lookup, queryError.toList.isPrefixOf text.toList = true) := by
  unfold Razee.channelByName
  cases lookup with
  | some err => exact ⟨err, rfl, by simp⟩
  | none =>
    rw [h]
    exact ⟨_, rfl, iff_of_true (isPrefixOf_channelNotFound name) (by simp)⟩

/-- Creating a blueprint whose channel does not exist. -/
theorem createBlueprint_of_absent {call : RazeeCall} (h : z.channelNamed call.channel = none) :
    (∃ content, r.AddsChannel call content ∧
      r.createBlueprint call.answers z call.cluster call.blueprint
        = r.fillChannel call.answers
            (z.addChannel (r.newUUID z.uuids) call.channel h (r.newUUID_not_mem _))
            (r.newUUID z.uuids) content) ∨
      (¬ ∃ content, r.AddsChannel call content) ∧
        ∃ err, r.createBlueprint call.answers z call.cluster call.blueprint = (z, some err) := by
  obtain ⟨lookupErr, hlookup, hquery⟩ := channelByName_of_absent h call.answers.channelByName
  rw [RazeeCall.channel] at hlookup
  unfold createBlueprint
  cases hmarshal : r.marshal call.blueprint with
  | error err =>
    refine Or.inr ⟨fun ⟨content, hadds⟩ => ?_, err, rfl⟩
    cases hmarshal.symm.trans hadds.marshal
  | ok content =>
    cases hgroup : call.answers.groupCluster r.orgID call.cluster with
    | some err =>
      refine Or.inr ⟨fun ⟨content, hadds⟩ => ?_, err, rfl⟩
      cases hgroup.symm.trans hadds.groupCluster
    | none =>
      rw [hlookup]
      dsimp only
      split
      · rename_i hprefix
        unfold createChannel
        cases hadd : call.answers.addChannel with
        | some err =>
          refine Or.inr ⟨fun ⟨content, hadds⟩ => ?_, err, rfl⟩
          cases hadd.symm.trans hadds.addChannel
        | none =>
          refine Or.inl ⟨content, ⟨hmarshal, hgroup, hquery.1 hprefix, hadd⟩, ?_⟩
          exact dif_pos h
      · rename_i hother
        exact Or.inr ⟨fun ⟨content, hadds⟩ => hother (hquery.2 hadds.channelByName), _, rfl⟩

/-- After a roll-back the channel is gone if it could be removed. -/
theorem channelNamed_attempt_removeChannel {c : Channel} (h : z.channelNamed name = some c)
    (err : Option String) :
    (attempt err z (z.removeChannel c.uuid)).channelNamed name = none ↔ err = none := by
  unfold attempt
  cases err with
  | none => simp [RazeeClusterManager.call, Razee.channelNamed_removeChannel h]
  | some err => simp [RazeeClusterManager.call, h]

/-- The new channel is filled unless one of two requests fails, and then it is gone if it could be
removed. -/
theorem fillChannel_leaves (a : RazeeAnswers) {uuid : String}
    (h : z.channelNamed name = some ⟨uuid, name, [], []⟩) (content : String) :
    ((r.fillChannel a z uuid content).2 = none ↔
      a.addChannelVersion = none ∧ a.addSubscription = none) ∧
    ((r.fillChannel a z uuid content).2 ≠ none →
      ((r.fillChannel a z uuid content).1.channelNamed name = none ↔ a.removeChannel = none)) := by
  have hadded := Razee.channelNamed_addChannelVersion h ⟨r.newUUID z.uuids, "0", content⟩
  unfold fillChannel
  cases a.addChannelVersion with
  | some err => exact ⟨by simp, fun _ => channelNamed_attempt_removeChannel h _⟩
  | none =>
    cases a.addSubscription with
    | some err =>
      obtain ⟨versions, hkept, -⟩ :=
        channelNamed_attempt_removeChannelVersion a hadded (numbered_first ..) (r.newUUID z.uuids)
      exact ⟨by simp, fun _ => channelNamed_attempt_removeChannel hkept _⟩
    | none => exact ⟨by simp, fun hne => absurd rfl hne⟩

/-- A failed call leaves a channel exactly if it strands it. -/
theorem strands_iff {call : RazeeCall} (hcreate : call.operation = .create)
    (h : z.channelNamed call.channel = none) (hfails : (r.step z call).2 ≠ none) :
    (r.step z call).1.channelNamed call.channel ≠ none ↔ r.Strands call := by
  rw [step, hcreate] at hfails ⊢
  rcases r.createBlueprint_of_absent h with ⟨content, hadds, heq⟩ | ⟨hnot, err, heq⟩
  · have hnew := Razee.channelNamed_addChannel h (r.newUUID_not_mem z.uuids)
    obtain ⟨hnone, hgone⟩ := r.fillChannel_leaves call.answers hnew content
    rw [heq] at hfails ⊢
    rw [Ne, hgone hfails, Strands]
    rw [Ne, hnone, not_and_or] at hfails
    exact ⟨fun hkept => ⟨⟨content, hadds⟩, hfails, hkept⟩, fun hstrands => hstrands.2.2⟩
  · rw [heq]
    exact iff_of_false (fun hne => hne h) fun hstrands => hnot hstrands.1

/-! ## Histories -/

/-- Every call returns an error. -/
def Fails : Razee → List RazeeCall → Prop
  | _, [] => True
  | z, call :: calls => (r.step z call).2 ≠ none ∧ Fails (r.step z call).1 calls

/-- A channel without a subscription stays as it is, whatever is called. -/
theorem run_unsubscribed {c : Channel} (hc : c.subscriptions = []) {calls : List RazeeCall}
    (hcalls : ∀ call ∈ calls, call.channel = name) (h : z.channelNamed name = some c) :
    (r.run z calls).channelNamed name = some c := by
  induction calls generalizing z with
  | nil => exact h
  | cons call calls ih =>
    have heffect := r.step_effect z call
    rw [hcalls call List.mem_cons_self, h] at heffect
    exact ih (fun call' hcall' => hcalls call' (List.mem_cons_of_mem call hcall'))
      (heffect.of_unsubscribed hc).1

/-- After failed calls, there is no channel or one without a subscription; the latter if one of
the calls has stranded it. -/
theorem run_fails {history : List RazeeCall}
    (hhistory : ∀ call ∈ history, call.operation = .create ∧ call.channel = name)
    (hfails : r.Fails z history) (h : z.channelNamed name = none) :
    ((r.run z history).channelNamed name = none ∧ ∀ call ∈ history, ¬ r.Strands call) ∨
      (∃ c, (r.run z history).channelNamed name = some c ∧ c.subscriptions = []) ∧
        ∃ call ∈ history, r.Strands call := by
  induction history generalizing z with
  | nil => exact Or.inl ⟨h, by simp⟩
  | cons call history ih =>
    obtain ⟨hcreate, hchannel⟩ := hhistory call List.mem_cons_self
    have hrest : ∀ call' ∈ history, call'.operation = .create ∧ call'.channel = name :=
      fun call' hcall' => hhistory call' (List.mem_cons_of_mem call hcall')
    subst hchannel
    have hstrands := r.strands_iff hcreate h hfails.1
    have heffect := r.step_effect z call
    rw [h] at heffect
    rcases heffect.of_absent hfails.1 with hgone | ⟨c, hc, hsubscriptions⟩
    · have hnot : ¬ r.Strands call := fun hcall => hstrands.2 hcall hgone
      rcases ih hrest hfails.2 hgone with ⟨hnone, hall⟩ | ⟨hleft, call', hmem, hcall'⟩
      · exact Or.inl ⟨hnone, List.forall_mem_cons.2 ⟨hnot, hall⟩⟩
      · exact Or.inr ⟨hleft, call', List.mem_cons_of_mem call hmem, hcall'⟩
    · have hcall : r.Strands call := hstrands.1 (by simp [hc])
      have hrun := r.run_unsubscribed hsubscriptions (fun call' hmem => (hrest call' hmem).2) hc
      exact Or.inr ⟨⟨c, hrun, hsubscriptions⟩, call, List.mem_cons_self, hcall⟩

/-- The call returns no error, and its channel delivers the blueprint. -/
def Recovers (z : Razee) (call : RazeeCall) : Prop :=
  (r.step z call).2 = none ∧
    ∃ c ∈ (r.step z call).1.channelNamed call.channel, ∃ content,
      r.marshal call.blueprint = .ok content ∧ c.Delivers content

/-- A call can be repeated if nothing is left behind. -/
theorem recovers_of_absent {call : RazeeCall} (hcreate : call.operation = .create)
    (hcarried : call.answers.CarriedOut) (h : z.channelNamed call.channel = none) :
    r.Recovers z call ↔ ∃ content, r.marshal call.blueprint = .ok content := by
  constructor
  · rintro ⟨-, -, -, content, hcontent, -⟩
    exact ⟨content, hcontent⟩
  · rintro ⟨content, hcontent⟩
    have hadds : r.AddsChannel call content :=
      ⟨hcontent, hcarried.groupCluster _ _, by simp [hcarried.channelByName], hcarried.addChannel⟩
    have hnone : (r.step z call).2 = none := by
      rw [step, hcreate]
      rcases r.createBlueprint_of_absent h with ⟨text, -, heq⟩ | ⟨hnot, -⟩
      · have hnew := Razee.channelNamed_addChannel h (r.newUUID_not_mem z.uuids)
        rw [heq, (r.fillChannel_leaves call.answers hnew text).1]
        exact ⟨hcarried.addChannelVersion, hcarried.addSubscription⟩
      · exact absurd ⟨content, hadds⟩ hnot
    have heffect := r.step_effect z call
    rw [hnone] at heffect
    exact ⟨hnone, heffect.delivers⟩

/-- **Creating a blueprint can be repeated, unless a channel is stranded.**  After calls that have
failed for a channel, which did not exist at first, a call in which every request succeeds creates
the blueprint if and only if none of them has left a channel that could not be removed. -/
theorem recovers_iff {call : RazeeCall} (hcreate : call.operation = .create)
    (hcarried : call.answers.CarriedOut) (hstart : z.channelNamed call.channel = none)
    {history : List RazeeCall}
    (hhistory : ∀ failed ∈ history, failed.operation = .create ∧ failed.channel = call.channel)
    (hfails : r.Fails z history) :
    r.Recovers (r.run z history) call ↔
      (∃ content, r.marshal call.blueprint = .ok content) ∧
        ∀ failed ∈ history, ¬ r.Strands failed := by
  rcases r.run_fails hhistory hfails hstart with ⟨hnone, hall⟩ | ⟨⟨c, hc, hsub⟩, failed, hmem, hs⟩
  · rw [r.recovers_of_absent hcreate hcarried hnone]
    exact ⟨fun hcontent => ⟨hcontent, hall⟩, And.left⟩
  · have heffect := r.step_effect (r.run z history) call
    rw [hc] at heffect
    refine iff_of_false (fun hrecovers => ?_) fun hall => hall.2 failed hmem hs
    exact (heffect.of_unsubscribed hsub).2 hrecovers.1

end RazeeOrganisation

/-- The subscription fails, and then what was done is taken back. -/
def subscriptionLost : RazeeAnswers := { allCarriedOut with addSubscription := some "timeout" }

theorem allCarriedOut_carriedOut : allCarriedOut.CarriedOut :=
  ⟨⟨_, rfl⟩, Or.inr rfl, ⟨_, rfl⟩, rfl, rfl, rfl, rfl, rfl, rfl, rfl⟩

theorem subscriptionLost_recovers :
    fellowship.Recovers (fellowship.run noChannels [notebookCall .create 1 subscriptionLost])
      (notebookCall .create 1 allCarriedOut) := by
  have hhistory : ∀ failed ∈ [notebookCall .create 1 subscriptionLost],
      failed.operation = .create ∧
        failed.channel = (notebookCall .create 1 allCarriedOut).channel := by decide +kernel
  have hfails : fellowship.Fails noChannels [notebookCall .create 1 subscriptionLost] :=
    ⟨by decide +kernel, trivial⟩
  refine (fellowship.recovers_iff rfl allCarriedOut_carriedOut rfl hhistory hfails).2 ⟨⟨_, rfl⟩, ?_⟩
  rintro failed hmem ⟨-, -, hkept⟩
  rw [List.mem_singleton.1 hmem] at hkept
  exact hkept rfl

/-- The subscription fails, and the channel cannot be removed. -/
def channelLeft : RazeeAnswers := { subscriptionLost with removeChannel := some "timeout" }

/-- From then on the blueprint cannot be created, although every request succeeds. -/
theorem channelLeft_not_recovers :
    fellowship.Fails noChannels [notebookCall .create 1 channelLeft] ∧
      allCarriedOut.CarriedOut ∧
      (fellowship.step (fellowship.run noChannels [notebookCall .create 1 channelLeft])
        (notebookCall .create 1 allCarriedOut)).2
          = some "found more or less than one subscription" ∧
      ¬ fellowship.Recovers (fellowship.run noChannels [notebookCall .create 1 channelLeft])
        (notebookCall .create 1 allCarriedOut) := by
  have herr : (fellowship.step (fellowship.run noChannels [notebookCall .create 1 channelLeft])
      (notebookCall .create 1 allCarriedOut)).2
        = some "found more or less than one subscription" := by decide +kernel
  refine ⟨⟨by decide +kernel, trivial⟩, allCarriedOut_carriedOut, herr, fun hrecovers => ?_⟩
  exact absurd (herr.symm.trans hrecovers.1) (Option.some_ne_none _)

end Fybrik
