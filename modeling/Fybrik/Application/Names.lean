import Fybrik.Application.Reconcile
import Fybrik.Multicluster.Managers

/-!
# Names derived for an application

What is generated for an application has a name made of the name and the namespace of
the application: its plotter, the buckets for copies, the Helm releases of its modules.
All of them live in namespaces that applications share.  The Razee channel of a blueprint
is named after the cluster and the blueprint.

* `NamesDiffer` — the names derived for two applications differ.
* `Mistakable` — two applications whose names and namespaces, joined by a hyphen and with
  dots replaced, read the same.
* `namesDiffer_iff` — exactly such applications share names, apart from those that
  shortening cannot tell apart.
* `salesApplications_share_names` — two applications with valid names that share all of
  them.
-/

namespace Fybrik

/-! ## Valid names -/

/-- A letter or a digit, as Kubernetes allows them in names. -/
def isNameChar (c : Char) : Bool := ('a' ≤ c && c ≤ 'z') || ('0' ≤ c && c ≤ '9')

/-- Letters, digits and hyphens, with no hyphen at either end. -/
def isLabelText (l : List Char) : Bool :=
  l.head?.any isNameChar && l.getLast?.any isNameChar && l.all fun c => isNameChar c || c == '-'

/-- What Kubernetes accepts as a namespace. -/
def isNamespaceName (s : String) : Bool := isLabelText s.toList && s.length ≤ 63

/-- What Kubernetes accepts as the name of most objects. -/
def isObjectName (s : String) : Bool :=
  (s.toList.splitOn '.').all isLabelText && s.length ≤ 253

/-! ## The texts behind names -/

theorem bucketText_eq_iff {sha : Sha512} {a b : NamespacedName} {datasetID : String} :
    bucketText sha a datasetID = bucketText sha b datasetID ↔
      replaceDots a.name ++ "-" ++ replaceDots a.namespace
        = replaceDots b.name ++ "-" ++ replaceDots b.namespace := by
  rw [bucketText, bucketText, replaceDots_append, replaceDots_append (b.name ++ "-" ++ b.namespace),
    append_eq_append_iff_of_length rfl, and_iff_left rfl]
  simp only [replaceDots_append, replaceDots_hyphen]

/-- The text that the name of a release is made from. -/
def releaseText (owner : NamespacedName) (instanceName : String) : String :=
  owner.name ++ "-" ++ owner.namespace ++ "-" ++ instanceName

theorem releaseText_eq_iff {a b : NamespacedName} {instanceName : String} :
    releaseText a instanceName = releaseText b instanceName ↔
      a.name ++ "-" ++ a.namespace = b.name ++ "-" ++ b.namespace := by
  rw [releaseText, releaseText, append_eq_append_iff_of_length rfl, and_iff_left rfl,
    append_eq_append_iff_of_length rfl, and_iff_left rfl]

/-! ## Two applications -/

/-- Where an application is. -/
def FybrikApplication.key (a : FybrikApplication) : NamespacedName := ⟨a.name, a.namespace⟩

/-- Two applications whose names and namespaces, with dots replaced, are the same or are
joined to the same text. -/
def Mistakable (a b : NamespacedName) : Prop :=
  (replaceDots a.name = replaceDots b.name ∧ replaceDots a.namespace = replaceDots b.namespace) ∨
  Shifted (replaceDots a.name) (replaceDots a.namespace)
    (replaceDots b.name) (replaceDots b.namespace) ∨
  Shifted (replaceDots b.name) (replaceDots b.namespace)
    (replaceDots a.name) (replaceDots a.namespace)

/-- The names derived for two applications differ: those of their plotters, of their
buckets for a dataset, and of their releases for a module instance. -/
structure NamesDiffer (settings : Settings) (sha : Sha512) (a b : FybrikApplication)
    (datasetID instanceName : String) : Prop where
  plotters : ∀ kind version kind' version',
    (createResourceReference settings ⟨a.name, a.namespace, kind, version⟩).namespacedName ≠
      (createResourceReference settings ⟨b.name, b.namespace, kind', version'⟩).namespacedName
  buckets : generateBucketName sha a.key datasetID ≠ generateBucketName sha b.key datasetID
  releases : getReleaseName sha a.name a.namespace instanceName ≠
    getReleaseName sha b.name b.namespace instanceName

section

variable {settings : Settings} {sha : Sha512} {a b : FybrikApplication}

theorem joined_replaceDots_of_joined {x y x' y' : String}
    (h : x ++ "-" ++ y = x' ++ "-" ++ y') :
    replaceDots x ++ "-" ++ replaceDots y = replaceDots x' ++ "-" ++ replaceDots y' := by
  have hdots := congrArg replaceDots h
  simpa only [replaceDots_append, replaceDots_hyphen] using hdots

theorem generateBucketName_eq_iff {datasetID : String} :
    generateBucketName sha a.key datasetID = generateBucketName sha b.key datasetID ↔
      Mistakable a.key b.key ∨
        Collide sha 63 5 (bucketText sha a.key datasetID) (bucketText sha b.key datasetID) := by
  rw [generateBucketName_eq, generateBucketName_eq, k8sConformName, k8sConformName,
    shortenedName_eq_iff (by decide), bucketText_eq_iff, joined_eq_iff]
  rfl

theorem releaseNames_eq_iff {instanceName : String} :
    getReleaseName sha a.name a.namespace instanceName
        = getReleaseName sha b.name b.namespace instanceName ↔
      a.name ++ "-" ++ a.namespace = b.name ++ "-" ++ b.namespace ∨
        Collide sha 53 5 (releaseText a.key instanceName) (releaseText b.key instanceName) := by
  change helmConformName sha (releaseText a.key instanceName)
    = helmConformName sha (releaseText b.key instanceName) ↔ _
  rw [helmConformName, helmConformName, shortenedName_eq_iff (by decide), releaseText_eq_iff]
  rfl

end

theorem channelName_eq_iff {cluster name cluster' name' : String} :
    channelName cluster name = channelName cluster' name' ↔
      cluster ++ "-" ++ name = cluster' ++ "-" ++ name' := by
  constructor
  · intro h
    have hchars := congrArg String.toList h
    simp only [channelName, String.toList_append, List.append_assoc,
      List.append_cancel_left_eq] at hchars
    refine String.toList_injective ?_
    simpa only [String.toList_append, List.append_assoc] using hchars
  · intro h
    simp only [channelName, String.append_assoc] at h ⊢
    rw [h]

/-- When the names derived for two applications differ, and when two channels have
different names.  Applications share names if their names and namespaces can be mistaken
for each other, or if shortening confuses the texts of their buckets or releases.
Channels share a name if cluster and blueprint are joined to the same text. -/
theorem namesDiffer_iff (settings : Settings) (sha : Sha512) (a b : FybrikApplication)
    (datasetID instanceName : String) :
    (NamesDiffer settings sha a b datasetID instanceName ↔ ¬ Mistakable a.key b.key ∧
      ¬ Collide sha 63 5 (bucketText sha a.key datasetID) (bucketText sha b.key datasetID) ∧
      ¬ Collide sha 53 5 (releaseText a.key instanceName) (releaseText b.key instanceName)) ∧
    ∀ cluster name cluster' name' : String,
      channelName cluster name ≠ channelName cluster' name' ↔
        ¬ (cluster = cluster' ∧ name = name') ∧ ¬ Shifted cluster name cluster' name' ∧
          ¬ Shifted cluster' name' cluster name := by
  constructor
  · -- names that are joined to the same text can be mistaken for each other
    have hjoined : a.name ++ "-" ++ a.namespace = b.name ++ "-" ++ b.namespace →
        Mistakable a.key b.key := fun h => joined_eq_iff.1 (joined_replaceDots_of_joined h)
    constructor
    · intro h
      have hbuckets := not_or.1 (mt generateBucketName_eq_iff.2 h.buckets)
      have hreleases := not_or.1 (mt releaseNames_eq_iff.2 h.releases)
      exact ⟨hbuckets.1, hbuckets.2, hreleases.2⟩
    · rintro ⟨hmistakable, hbuckets, hreleases⟩
      refine ⟨fun kind version kind' version' heq => ?_, fun heq => ?_, fun heq => ?_⟩
      · exact hmistakable (hjoined (congrArg NamespacedName.name heq))
      · exact (generateBucketName_eq_iff.1 heq).elim hmistakable hbuckets
      · exact (releaseNames_eq_iff.1 heq).elim (fun h => hmistakable (hjoined h)) hreleases
  · intro cluster name cluster' name'
    rw [ne_eq, channelName_eq_iff, joined_eq_iff, not_or, not_or]

/-! ## Two applications that share everything -/

/-- An application for sales in Europe. -/
def salesEurope : FybrikApplication :=
  { (default : FybrikApplication) with name := "sales-europe", «namespace» := "prod" }

/-- An application for sales in the namespace for Europe. -/
def salesProd : FybrikApplication :=
  { (default : FybrikApplication) with name := "sales", «namespace» := "europe-prod" }

/-- Both have valid names, but the same plotter, the same bucket for each dataset and the
same release for each module instance; and there are two clusters whose blueprints
would share a channel. -/
theorem salesApplications_share_names :
    (isObjectName salesEurope.name = true ∧ isNamespaceName salesEurope.namespace = true ∧
      isObjectName salesProd.name = true ∧ isNamespaceName salesProd.namespace = true ∧
      salesEurope.key ≠ salesProd.key) ∧
    (∀ (settings : Settings) (sha : Sha512) (datasetID instanceName kind : String) (version : ℕ),
      createResourceReference settings ⟨salesEurope.name, salesEurope.namespace, kind, version⟩
          = createResourceReference settings ⟨salesProd.name, salesProd.namespace, kind, version⟩ ∧
        generateBucketName sha salesEurope.key datasetID
          = generateBucketName sha salesProd.key datasetID ∧
        getReleaseName sha salesEurope.name salesEurope.namespace instanceName
          = getReleaseName sha salesProd.name salesProd.namespace instanceName) ∧
    channelName "bree-east" "notebook-default" = channelName "bree" "east-notebook-default" := by
  have hjoined : salesEurope.name ++ "-" ++ salesEurope.namespace
      = salesProd.name ++ "-" ++ salesProd.namespace := by decide
  refine ⟨by decide, fun settings sha datasetID instanceName kind version => ⟨?_, ?_, ?_⟩, by decide⟩
  · rw [createResourceReference, createResourceReference, hjoined]
  · exact generateBucketName_eq_iff.2
      (Or.inl (joined_eq_iff.1 (joined_replaceDots_of_joined hjoined)))
  · exact releaseNames_eq_iff.2 (Or.inl hjoined)

end Fybrik
