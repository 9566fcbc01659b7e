import Fybrik.Api.Services

/-!
# Derived names

The functions of `controllers/utils` that derive the names of steps, releases
and buckets.  Names that get too long are cut and continued with a hash of what
was cut off.  All names involved are ASCII, so the length of a name in bytes is
its number of characters.

* `hash`, `shortenedName`, `createStepName`, `getReleaseName` — as in the source.
* `createStepName_eq_iff` — a step name determines the module and the hash of the
  asset.
* `shortenedName_eq_iff` — which names are shortened to the same text.
* `bucketText` — the text behind the name of a bucket.
* `joined_eq_iff` — which pairs of names are joined to the same text.
-/

namespace Fybrik

/-- `s[:n]`. -/
def takeChars (s : String) (n : ℕ) : String := String.ofList (s.toList.take n)

/-- `s[n:]`. -/
def dropChars (s : String) (n : ℕ) : String := String.ofList (s.toList.drop n)

section

variable (sha : Sha512)

/-- `Hash`. -/
def hash (value : String) (hashLength : ℕ) : String := takeChars (sha.hexDigest value) hashLength

/-- `ShortenedName`. -/
def shortenedName (name : String) (maxLength hashLength : ℕ) : String :=
  if maxLength < name.length then
    let cutOffIndex := maxLength - hashLength - 1
    takeChars name cutOffIndex ++ "-" ++ hash sha (dropChars name cutOffIndex) hashLength
  else name

/-- `K8sConformName`. -/
def k8sConformName (name : String) : String := shortenedName sha name 63 5

/-- `HelmConformName`. -/
def helmConformName (name : String) : String := shortenedName sha name 53 5

/-- `CreateStepName`. -/
def createStepName (moduleName assetID : String) : String :=
  moduleName ++ "-" ++ hash sha assetID 10

/-- `GetReleaseNameByStepName`. -/
def getReleaseNameByStepName (applicationName «namespace» moduleInstanceName : String) : String :=
  helmConformName sha (applicationName ++ "-" ++ «namespace» ++ "-" ++ moduleInstanceName)

/-- `GetReleaseName`. -/
def getReleaseName (applicationName «namespace» instanceName : String) : String :=
  getReleaseNameByStepName sha applicationName «namespace» instanceName

/-- `generateBucketName`. -/
def generateBucketName (owner : NamespacedName) (id : String) : String :=
  let name := owner.name ++ "-" ++ owner.namespace ++ hash sha id 10
  k8sConformName sha (String.ofList (name.toList.map fun c => if c = '.' then '-' else c))

/-- `CreateResourceReference` of the plotter interface. -/
def createResourceReference (settings : Settings) (owner : ResourceReference) :
    ResourceReference :=
  { name := owner.name ++ "-" ++ owner.namespace
    «namespace» := settings.systemNamespace
    kind := "Plotter"
    appVersion := owner.appVersion }

end

/-! ## Hashes and cuts -/

theorem length_takeChars (s : String) (n : ℕ) : (takeChars s n).length = min n s.length := by
  rw [takeChars, String.length_ofList, List.length_take, String.length_toList]

variable {sha : Sha512}

theorem length_hash {value : String} {n : ℕ} (hn : n ≤ 128) : (hash sha value n).length = n := by
  rw [hash, length_takeChars, sha.length_hexDigest, Nat.min_eq_left hn]

/-- Two texts that end in parts of the same length agree part by part. -/
theorem append_eq_append_iff_of_length {a b c d : String} (h : b.length = d.length) :
    a ++ b = c ++ d ↔ a = c ∧ b = d := by
  constructor
  · intro heq
    have hlist : a.toList ++ b.toList = c.toList ++ d.toList := by
      rw [← String.toList_append, heq, String.toList_append]
    have hlength : b.toList.length = d.toList.length := by
      rw [String.length_toList, String.length_toList, h]
    have hac := List.append_inj_left' hlist hlength
    have hbd := List.append_inj_right' hlist hlength
    exact ⟨String.toList_injective hac, String.toList_injective hbd⟩
  · rintro ⟨rfl, rfl⟩
    rfl

/-- A step name determines the module and the hash of the asset. -/
theorem createStepName_eq_iff {m m' a a' : String} :
    createStepName sha m a = createStepName sha m' a' ↔ m = m' ∧ hash sha a 10 = hash sha a' 10 := by
  rw [createStepName, createStepName, append_eq_append_iff_of_length
    (by rw [length_hash (by decide), length_hash (by decide)]),
    append_eq_append_iff_of_length rfl]
  simp only [and_true]

/-- The long name `x` is shortened to the name `y`, which is short itself. -/
def ShortensTo (sha : Sha512) (maxLength hashLength : ℕ) (x y : String) : Prop :=
  maxLength < x.length ∧ y.length ≤ maxLength ∧ y = takeChars x (maxLength - hashLength - 1) ++
    "-" ++ hash sha (dropChars x (maxLength - hashLength - 1)) hashLength

/-- Two names that shortening cannot tell apart although it cuts at least one of
them: the parts that are cut off have the same hash, or one is what the other is
shortened to. -/
def Collide (sha : Sha512) (maxLength hashLength : ℕ) (x y : String) : Prop :=
  (maxLength < x.length ∧ maxLength < y.length ∧
    takeChars x (maxLength - hashLength - 1) = takeChars y (maxLength - hashLength - 1) ∧
    hash sha (dropChars x (maxLength - hashLength - 1)) hashLength
      = hash sha (dropChars y (maxLength - hashLength - 1)) hashLength) ∨
  ShortensTo sha maxLength hashLength x y ∨ ShortensTo sha maxLength hashLength y x

/-- Which names are shortened to the same text. -/
theorem shortenedName_eq_iff {maxLength hashLength : ℕ} (hlen : hashLength ≤ 128) {x y : String} :
    shortenedName sha x maxLength hashLength = shortenedName sha y maxLength hashLength ↔
      x = y ∨ Collide sha maxLength hashLength x y := by
  unfold shortenedName Collide ShortensTo
  by_cases hx : maxLength < x.length
  · by_cases hy : maxLength < y.length
    · -- both are cut: compare the parts
      rw [if_pos hx, if_pos hy, append_eq_append_iff_of_length
        (by rw [length_hash hlen, length_hash hlen]), append_eq_append_iff_of_length rfl]
      constructor
      · rintro ⟨⟨htake, -⟩, hhash⟩
        exact Or.inr (Or.inl ⟨hx, hy, htake, hhash⟩)
      · rintro (rfl | ⟨-, -, htake, hhash⟩ | ⟨-, hle, -⟩ | ⟨-, hle, -⟩)
        · exact ⟨⟨rfl, rfl⟩, rfl⟩
        · exact ⟨⟨htake, rfl⟩, hhash⟩
        · exact absurd hy (Nat.not_lt.2 hle)
        · exact absurd hx (Nat.not_lt.2 hle)
    · rw [if_pos hx, if_neg hy]
      constructor
      · intro h
        exact Or.inr (Or.inr (Or.inl ⟨hx, Nat.not_lt.1 hy, h.symm⟩))
      · rintro (rfl | ⟨-, hlt, -⟩ | ⟨-, -, h⟩ | ⟨hlt, -⟩)
        · exact absurd hx hy
        · exact absurd hlt hy
        · exact h.symm
        · exact absurd hlt hy
  · by_cases hy : maxLength < y.length
    · rw [if_neg hx, if_pos hy]
      constructor
      · intro h
        exact Or.inr (Or.inr (Or.inr ⟨hy, Nat.not_lt.1 hx, h⟩))
      · rintro (rfl | ⟨hlt, -⟩ | ⟨hlt, -⟩ | ⟨-, -, h⟩)
        · exact absurd hy hx
        · exact absurd hlt hx
        · exact absurd hlt hx
        · exact h
    · rw [if_neg hx, if_neg hy]
      constructor
      · exact Or.inl
      · rintro (h | ⟨hlt, -⟩ | ⟨hlt, -⟩ | ⟨hlt, -⟩)
        · exact h
        · exact absurd hlt hx
        · exact absurd hlt hx
        · exact absurd hlt hy

/-- Which instances of one application get the same release. -/
theorem getReleaseName_eq_iff {applicationName ns x y : String} :
    getReleaseName sha applicationName ns x = getReleaseName sha applicationName ns y ↔
      x = y ∨ Collide sha 53 5 (applicationName ++ "-" ++ ns ++ "-" ++ x)
        (applicationName ++ "-" ++ ns ++ "-" ++ y) := by
  rw [getReleaseName, getReleaseName, getReleaseNameByStepName, getReleaseNameByStepName,
    helmConformName, helmConformName, shortenedName_eq_iff (by decide)]
  refine or_congr_left ⟨fun h => ?_, fun h => by rw [h]⟩
  have hlist := congrArg String.toList h
  simp only [String.toList_append, List.append_cancel_left_eq] at hlist
  exact String.toList_injective hlist

/-! ## Names of buckets -/

/-- `strings.ReplaceAll(s, ".", "-")`. -/
def replaceDots (s : String) : String :=
  String.ofList (s.toList.map fun c => if c = '.' then '-' else c)

theorem replaceDots_append (s t : String) :
    replaceDots (s ++ t) = replaceDots s ++ replaceDots t := by
  simp [replaceDots]

theorem replaceDots_hyphen : replaceDots "-" = "-" := by decide

theorem replaceDots_of_not_mem {s : String} (h : '.' ∉ s.toList) : replaceDots s = s := by
  have hmap : (s.toList.map fun c => if c = '.' then '-' else c) = s.toList := by
    conv_rhs => rw [← List.map_id s.toList]
    refine List.map_congr_left fun c hc => ?_
    have hne : c ≠ '.' := by
      rintro rfl
      exact h hc
    rw [if_neg hne, id]
  rw [replaceDots, hmap, String.ofList_toList]

/-- The text that the name of a bucket is made from. -/
def bucketText (sha : Sha512) (owner : NamespacedName) (datasetID : String) : String :=
  replaceDots (owner.name ++ "-" ++ owner.namespace ++ hash sha datasetID 10)

theorem generateBucketName_eq (owner : NamespacedName) (datasetID : String) :
    generateBucketName sha owner datasetID = k8sConformName sha (bucketText sha owner datasetID) :=
  rfl

/-! ## Joined names -/

/-- The pair `x'`, `y'` makes the same text as `x`, `y`, with a part of the second name
moved to the first. -/
def Shifted (x y x' y' : String) : Prop := ∃ t, x' = x ++ "-" ++ t ∧ y = t ++ "-" ++ y'

theorem joined_eq_of_shifted {x y x' y' : String} (h : Shifted x y x' y') :
    x ++ "-" ++ y = x' ++ "-" ++ y' := by
  obtain ⟨t, rfl, rfl⟩ := h
  simp only [String.append_assoc]

/-- Which pairs of names are joined to the same text: a text with several hyphens can be
cut at each of them. -/
theorem joined_eq_iff {x y x' y' : String} :
    x ++ "-" ++ y = x' ++ "-" ++ y' ↔
      (x = x' ∧ y = y') ∨ Shifted x y x' y' ∨ Shifted x' y' x y := by
  constructor
  · intro h
    have hlist : x.toList ++ '-' :: y.toList = x'.toList ++ '-' :: y'.toList := by
      have hchars := congrArg String.toList h
      simpa using hchars
    -- the longer of the first names goes on after the hyphen
    have hshifted : ∀ {x y x' y' : String} {l : List Char}, x'.toList = x.toList ++ '-' :: l →
        '-' :: y.toList = '-' :: (l ++ '-' :: y'.toList) → Shifted x y x' y' := by
      intro x y x' y' l hx hy
      refine ⟨String.ofList l, String.toList_injective ?_, String.toList_injective ?_⟩
      · simpa using hx
      · simpa using hy
    rcases List.append_eq_append_iff.1 hlist with ⟨l, hx, hy⟩ | ⟨l, hx, hy⟩
    · cases l with
      | nil =>
        rw [List.append_nil] at hx
        exact Or.inl ⟨String.toList_injective hx.symm,
          String.toList_injective (List.cons.inj hy).2⟩
      | cons c l =>
        obtain ⟨rfl, -⟩ := List.cons.inj hy
        exact Or.inr (Or.inl (hshifted hx hy))
    · cases l with
      | nil =>
        rw [List.append_nil] at hx
        exact Or.inl ⟨String.toList_injective hx,
          (String.toList_injective (List.cons.inj hy).2).symm⟩
      | cons c l =>
        obtain ⟨rfl, -⟩ := List.cons.inj hy
        exact Or.inr (Or.inr (hshifted hx hy))
  · rintro (⟨rfl, rfl⟩ | h | h)
    · rfl
    · exact joined_eq_of_shifted h
    · exact (joined_eq_of_shifted h).symm

/-! ## Digests of sample assets -/

/-- The digests of two asset IDs, cut into halves. -/
def sampleDigest (value : String) : String :=
  if value = "xxx" then
    "9057ff1aa9509b2a0af624d687461d2bbeb07e2f37d953b1ce4a9dc921a7f19c" ++
    "45dc35d7c5363b373792add57d0d7dc41596e1c585d6ef7844cdf8ae87af443f"
  else if value = "xxx-copy" then
    "30b42bf07d993cb706d3d9d2980f9e3bb7b6394e19877d1d86b0cc900b6c8f60" ++
    "9d52280917204b9fc94b4c207a9511a942e236ac2646ff51e268af1488b2ecc7"
  else
    "0000000000000000000000000000000000000000000000000000000000000000" ++
    "0000000000000000000000000000000000000000000000000000000000000000"

/-- SHA-512 on two asset IDs; every other text has the digest zero. -/
def sampleSha512 : Sha512 where
  hexDigest := sampleDigest
  length_hexDigest value := by
    unfold sampleDigest
    split_ifs
    · decide +kernel
    · decide +kernel
    · decide +kernel

end Fybrik
