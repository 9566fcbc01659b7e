import Fybrik.Api.Services
import Fybrik.Lib.MapLoops

/-!
# The data catalog over gRPC

`datacatalog_grpc.go`: the client asks the connector of a data catalog for an asset, and converts
the message that comes back.  Parts of a message may be unset.  The conversion uses accessors
that can handle this for some of them, and reads fields of others directly, which makes the
program crash.

* `convertDataCatalogGrpcRespToOpenAPIResp`, `getAssetInfo` — as in the source; a crash is
  `none`.
* `Carries` — the response says what the message says.
* `Surfaces` — what is wanted of the client.
* `getAssetInfo_surfaces_iff` — this holds if and only if the message is complete, or the call
  fails with the one status code that is looked at.
-/

namespace Fybrik.Catalog

/-! ## Messages -/

/-- `DataStoreType`, an open enumeration. -/
inductive DataStoreType where
  | unknown
  | localStore
  | s3
  | db2
  | kafka
  | other (number : ℤ)
  deriving DecidableEq, Inhabited, Repr

/-- `Db2DataStore`. -/
structure Db2DataStore where
  url : String
  database : String
  table : String
  port : String
  ssl : String
  deriving DecidableEq, Inhabited, Repr

/-- `S3DataStore`. -/
structure S3DataStore where
  endpoint : String
  bucket : String
  objectKey : String
  region : String
  deriving DecidableEq, Inhabited, Repr

/-- `KafkaDataStore`. -/
structure KafkaDataStore where
  topicName : String
  bootstrapServers : String
  schemaRegistry : String
  keyDeserializer : String
  valueDeserializer : String
  securityProtocol : String
  saslMechanism : String
  sslTruststore : String
  sslTruststorePassword : String
  deriving DecidableEq, Inhabited, Repr

/-- `DataStore`; its name is not read. -/
structure DataStore where
  type : DataStoreType
  db2 : Option Db2DataStore
  s3 : Option S3DataStore
  kafka : Option KafkaDataStore
  deriving DecidableEq, Inhabited, Repr

/-- `DataComponentMetadata`, of which only the tags are read. -/
structure DataComponentMetadata where
  tags : List String
  deriving DecidableEq, Inhabited, Repr

/-- `DatasetMetadata`. -/
structure DatasetMetadata where
  datasetTags : List String
  componentsMetadata : GoMap String (Option DataComponentMetadata)
  deriving DecidableEq, Inhabited

/-- `CredentialsInfo`. -/
structure CredentialsInfo where
  vaultSecretPath : String
  deriving DecidableEq, Inhabited, Repr

/-- `DatasetDetails`. -/
structure DatasetDetails where
  name : String
  dataOwner : String
  dataStore : Option DataStore
  dataFormat : String
  geo : String
  metadata : Option DatasetMetadata
  credentialsInfo : Option CredentialsInfo
  deriving DecidableEq, Inhabited

/-- `CatalogDatasetInfo`; the identifier is not read. -/
structure CatalogDatasetInfo where
  details : Option DatasetDetails
  deriving DecidableEq, Inhabited

/-- `CatalogDatasetRequest`. -/
structure CatalogDatasetRequest where
  credentialPath : String
  datasetId : String
  deriving DecidableEq, Inhabited, Repr

/-! ## Calls -/

/-- The status codes of gRPC. -/
inductive StatusCode where
  | ok
  | canceled
  | unknown
  | invalidArgument
  | deadlineExceeded
  | notFound
  | alreadyExists
  | permissionDenied
  | resourceExhausted
  | failedPrecondition
  | aborted
  | outOfRange
  | unimplemented
  | internal
  | unavailable
  | dataLoss
  | unauthenticated
  | other (number : ℕ)
  deriving DecidableEq, Inhabited, Repr

/-- The error of a call: one with a status, or any other. -/
inductive CallError where
  | status (code : StatusCode) (message : String)
  | plain (message : String)
  deriving DecidableEq, Inhabited, Repr

/-- The code that `status.FromError` finds. -/
def CallError.code : CallError → StatusCode
  | .status code _ => code
  | .plain _ => .unknown

/-- `grpcDataCatalog`, by what the connector answers.  A failed call returns no message. -/
structure GrpcDataCatalog where
  getDatasetInfo : CatalogDatasetRequest → Except CallError CatalogDatasetInfo

/-! ## The conversion -/

/-- The fields of a message, by their names in JSON. -/
def Db2DataStore.fields (s : Db2DataStore) : List (String × String) :=
  [("url", s.url), ("database", s.database), ("table", s.table), ("port", s.port), ("ssl", s.ssl)]

@[inherit_doc Db2DataStore.fields]
def S3DataStore.fields (s : S3DataStore) : List (String × String) :=
  [("endpoint", s.endpoint), ("bucket", s.bucket), ("object_key", s.objectKey),
    ("region", s.region)]

@[inherit_doc Db2DataStore.fields]
def KafkaDataStore.fields (s : KafkaDataStore) : List (String × String) :=
  [("topic_name", s.topicName), ("bootstrap_servers", s.bootstrapServers),
    ("schema_registry", s.schemaRegistry), ("key_deserializer", s.keyDeserializer),
    ("value_deserializer", s.valueDeserializer), ("security_protocol", s.securityProtocol),
    ("sasl_mechanism", s.saslMechanism), ("ssl_truststore", s.sslTruststore),
    ("ssl_truststore_password", s.sslTruststorePassword)]

/-- The JSON form of a message with these fields, or of one that is unset.  Empty fields are
omitted. -/
def marshalFields : Option (List (String × String)) → Json
  | none => .null
  | some fields => .obj ((fields.filter fun field => field.2 ≠ "").map fun field =>
      (field.1, .str field.2))

variable (connectionName : String) (fields : Option (List (String × String)))

/-- The connection for one of the known types of data stores. -/
def storeConnection :
    Connection where
  name := connectionName
  additionalProperties := GoMap.set ∅ connectionName (marshalFields fields)

variable (store : DataStore)

/-- The connection to a data store. -/
def DataStore.connection : Connection :=
  match store.type with
  | .s3 => storeConnection "s3" (store.s3.map S3DataStore.fields)
  | .kafka => storeConnection "kafka" (store.kafka.map KafkaDataStore.fields)
  | .db2 => storeConnection "db2" (store.db2.map Db2DataStore.fields)
  | _ => ⟨"local", ∅⟩

variable (tags : List String)

/-- The tags of an asset or of a column, each with the value `true`. -/
def tagItems : GoMap String Json :=
  GoMap.setAll ∅ (tags.map fun tag => (tag, .bool true))

/-- The column for a component, unless it is unset. -/
def columnOf (component : String × Option DataComponentMetadata) : Option ResourceColumn :=
  component.2.map fun compMetaData =>
    { name := component.1, tags := some (tagItems compMetaData.tags) }

/-- The loop over the components. -/
def DatasetMetadata.columns (metadata : DatasetMetadata) : List ResourceColumn :=
  metadata.componentsMetadata.pairs.filterMap columnOf

/-- `ConvertDataCatalogGrpcRespToOpenAPIResp`.  The program crashes on details, metadata, a data
store or credentials that are unset.  The conversions to JSON and back never fail. -/
def convertDataCatalogGrpcRespToOpenAPIResp (result : Option CatalogDatasetInfo) :
    Option GetAssetResponse :=
  (result.bind CatalogDatasetInfo.details).bind fun details =>
    details.metadata.bind fun metadata =>
      details.dataStore.bind fun store =>
        details.credentialsInfo.map fun credentialsInfo =>
          { resourceMetadata :=
              { name := details.name
                owner := details.dataOwner
                geography := details.geo
                tags := some (tagItems metadata.datasetTags)
                columns := metadata.columns }
            details :=
              { connection := store.connection
                dataFormat := details.dataFormat }
            credentials := credentialsInfo.vaultSecretPath }

/-- `ConvertDataCatalogOpenAPIReqToGrpcReq`. -/
def convertDataCatalogOpenAPIReqToGrpcReq (request : GetAssetRequest) (creds : String) :
    CatalogDatasetRequest where
  credentialPath := creds
  datasetId := request.assetID

/-- `GetAssetInfo`.  Of the errors of the call only those with the code for an invalid argument
are looked at. -/
def GrpcDataCatalog.getAssetInfo (client : GrpcDataCatalog) (request : GetAssetRequest)
    (creds : String) : Option (Except String GetAssetResponse) :=
  match client.getDatasetInfo (convertDataCatalogOpenAPIReqToGrpcReq request creds) with
  | .ok info => (convertDataCatalogGrpcRespToOpenAPIResp (some info)).map .ok
  | .error err =>
    if err.code = .invalidArgument then some (.error invalidAssetID)
    else (convertDataCatalogGrpcRespToOpenAPIResp none).map .ok

/-! ## What the client should return -/

/-- The items are these tags. -/
def TagsOf (items : Option (GoMap String Json)) : Prop :=
  ∃ m, items = some m ∧ ∀ tag value, m.lookup tag = some value ↔ tag ∈ tags ∧ value = .bool true

/-- The connection has this type, and holds what is set of the fields. -/
def CarriesFields (connection : Connection) : Prop :=
  connection.name = connectionName ∧ ∀ l, fields = some l →
    ∃ members, connection.additionalProperties.lookup connectionName = some (.obj members) ∧
      ∀ field value, (field, value) ∈ members ↔
        ∃ text, (field, text) ∈ l ∧ text ≠ "" ∧ value = .str text

/-- The connection is the one to this data store, if its type is known. -/
def DataStore.CarriedBy (connection : Connection) : Prop :=
  match store.type with
  | .s3 => CarriesFields "s3" (store.s3.map S3DataStore.fields) connection
  | .kafka => CarriesFields "kafka" (store.kafka.map KafkaDataStore.fields) connection
  | .db2 => CarriesFields "db2" (store.db2.map Db2DataStore.fields) connection
  | .localStore => connection.name = "local"
  | .unknown => True
  | .other _ => True

/-- The columns are the components that are set, each with its tags. -/
structure ColumnsOf (components : GoMap String (Option DataComponentMetadata))
    (columns : List ResourceColumn) : Prop where
  nodup : (columns.map ResourceColumn.name).Nodup
  component : ∀ column ∈ columns, ∃ component,
    components.lookup column.name = some (some component) ∧ TagsOf component.tags column.tags
  column : ∀ name component, components.lookup name = some (some component) →
    ∃ column ∈ columns, column.name = name

/-- The response says what is set in the message. -/
structure Carries (details : DatasetDetails) (response : GetAssetResponse) : Prop where
  name : response.resourceMetadata.name = details.name
  owner : response.resourceMetadata.owner = details.dataOwner
  geography : response.resourceMetadata.geography = details.geo
  dataFormat : response.details.dataFormat = details.dataFormat
  tags : ∀ metadata ∈ details.metadata, TagsOf metadata.datasetTags response.resourceMetadata.tags
  columns : ∀ metadata ∈ details.metadata,
    ColumnsOf metadata.componentsMetadata response.resourceMetadata.columns
  connection : ∀ store ∈ details.dataStore, store.CarriedBy response.details.connection
  credentials : ∀ info ∈ details.credentialsInfo, response.credentials = info.vaultSecretPath

/-- The client does not crash, an error of the call comes back as an error, and a response says
what the message says. -/
def Surfaces (outcome : Except CallError CatalogDatasetInfo)
    (result : Option (Except String GetAssetResponse)) : Prop :=
  match outcome, result with
  | _, none => False
  | _, some (.error _) => True
  | .error _, some (.ok _) => False
  | .ok info, some (.ok response) => ∀ details ∈ info.details, Carries details response

/-- The call fails with the code for an invalid argument, or returns a message with details,
metadata, a data store and credentials. -/
def Complete : Except CallError CatalogDatasetInfo → Prop
  | .error err => err.code = .invalidArgument
  | .ok info => ∃ details ∈ info.details, details.metadata.isSome = true ∧
      details.dataStore.isSome = true ∧ details.credentialsInfo.isSome = true

/-! ## What it does return -/

theorem tagsOf_tagItems : TagsOf tags (some (tagItems tags)) := by
  refine ⟨_, rfl, fun tag value => ?_⟩
  rw [tagItems, GoMap.lookup_setAll_const]
  by_cases hmem : tag ∈ tags
  · simp [hmem, eq_comm]
  · simp [hmem]

theorem columnsOf_columns (metadata : DatasetMetadata) :
    ColumnsOf metadata.componentsMetadata metadata.columns where
  nodup := by
    have hsublist : ∀ l : List (String × Option DataComponentMetadata),
        ((l.filterMap columnOf).map ResourceColumn.name).Sublist (l.map Prod.fst) := by
      intro l
      induction l with
      | nil => exact .slnil
      | cons component l ih =>
        obtain ⟨name, compMetaData⟩ := component
        cases compMetaData with
        | none => exact ih.cons _
        | some compMetaData => exact ih.cons_cons _
    exact (hsublist _).nodup (GoMap.nodup_keys_pairs _)
  component := by
    intro column hcolumn
    obtain ⟨⟨name, component⟩, hpair, heq⟩ := List.mem_filterMap.1 hcolumn
    obtain ⟨component, rfl, rfl⟩ := Option.map_eq_some_iff.1 heq
    exact ⟨component, GoMap.mem_pairs.1 hpair, tagsOf_tagItems _⟩
  column := by
    intro name component hlookup
    exact ⟨_, List.mem_filterMap.2 ⟨(name, some component), GoMap.mem_pairs.2 hlookup, rfl⟩, rfl⟩

theorem carriesFields_storeConnection :
    CarriesFields connectionName fields (storeConnection connectionName fields) := by
  refine ⟨rfl, fun l hl => ?_⟩
  subst hl
  refine ⟨_, AList.lookup_insert _, fun field value => ?_⟩
  simp only [List.mem_map, List.mem_filter]
  constructor
  · rintro ⟨⟨name, text⟩, ⟨hmem, htext⟩, heq⟩
    obtain ⟨rfl, rfl⟩ := Prod.mk.inj heq
    exact ⟨text, hmem, of_decide_eq_true htext, rfl⟩
  · rintro ⟨text, hmem, htext, rfl⟩
    exact ⟨(field, text), ⟨hmem, decide_eq_true htext⟩, rfl⟩

theorem DataStore.carriedBy_connection : store.CarriedBy store.connection := by
  obtain ⟨type, db2, s3, kafka⟩ := store
  cases type with
  | unknown => trivial
  | localStore => rfl
  | s3 => exact carriesFields_storeConnection _ _
  | db2 => exact carriesFields_storeConnection _ _
  | kafka => exact carriesFields_storeConnection _ _
  | other number => trivial

/-- The conversion does not crash if and only if everything is set, and then nothing is lost. -/
theorem convert_spec (info : CatalogDatasetInfo) :
    (Complete (.ok info) ∧ ∃ response,
      convertDataCatalogGrpcRespToOpenAPIResp (some info) = some response ∧
        ∀ details ∈ info.details, Carries details response) ∨
      ¬ Complete (.ok info) ∧ convertDataCatalogGrpcRespToOpenAPIResp (some info) = none := by
  obtain ⟨details⟩ := info
  cases details with
  | none => exact Or.inr ⟨by simp [Complete], rfl⟩
  | some details =>
    obtain ⟨name, dataOwner, dataStore, dataFormat, geo, metadata, credentialsInfo⟩ := details
    cases metadata with
    | none => exact Or.inr ⟨by simp [Complete], rfl⟩
    | some metadata =>
      cases dataStore with
      | none => exact Or.inr ⟨by simp [Complete], rfl⟩
      | some store =>
        cases credentialsInfo with
        | none => exact Or.inr ⟨by simp [Complete], rfl⟩
        | some credentials =>
          refine Or.inl ⟨by simp [Complete], _, rfl, ?_⟩
          rintro _ ⟨⟩
          refine ⟨rfl, rfl, rfl, rfl, ?_, ?_, ?_, ?_⟩
          · rintro _ ⟨⟩
            exact tagsOf_tagItems _
          · rintro _ ⟨⟩
            exact columnsOf_columns metadata
          · rintro _ ⟨⟩
            exact store.carriedBy_connection
          · rintro _ ⟨⟩
            rfl

/-- **Failures of the catalog surface only in part.**  The client does what is wanted if and only
if the message is complete, or the call fails with the code for an invalid argument. -/
theorem getAssetInfo_surfaces_iff (client : GrpcDataCatalog) (request : GetAssetRequest)
    (creds : String) :
    Surfaces (client.getDatasetInfo (convertDataCatalogOpenAPIReqToGrpcReq request creds))
        (client.getAssetInfo request creds) ↔
      Complete (client.getDatasetInfo (convertDataCatalogOpenAPIReqToGrpcReq request creds)) := by
  rw [GrpcDataCatalog.getAssetInfo]
  cases hcall : client.getDatasetInfo (convertDataCatalogOpenAPIReqToGrpcReq request creds) with
  | error err =>
    by_cases hcode : err.code = .invalidArgument
    · simp [Surfaces, Complete, hcode]
    · simp [Surfaces, Complete, hcode, convertDataCatalogGrpcRespToOpenAPIResp]
  | ok info =>
    dsimp only
    rcases convert_spec info with ⟨hcomplete, response, hresponse, hcarries⟩ | ⟨hnot, hcrash⟩
    · rw [hresponse]
      exact iff_of_true hcarries hcomplete
    · rw [hcrash]
      exact iff_of_false id hnot

/-- A catalog that cannot be reached. -/
def unreachableCatalog : GrpcDataCatalog where
  getDatasetInfo _ := .error (.status .unavailable "connection refused")

/-- A catalog that knows everything about its asset but the credentials. -/
def openCatalog : GrpcDataCatalog where
  getDatasetInfo _ := .ok ⟨some
    { name := "paysim"
      dataOwner := "bank"
      dataStore := some ⟨.s3, none, some ⟨"http://s3", "bucket", "paysim.csv", ""⟩, none⟩
      dataFormat := "csv"
      geo := "theshire"
      metadata := some ⟨["finance"], ∅⟩
      credentialsInfo := none }⟩

/-- The client crashes on both of them. -/
theorem unreachableCatalog_crashes :
    unreachableCatalog.getAssetInfo ⟨"paysim", "read"⟩ "" = none ∧
      openCatalog.getAssetInfo ⟨"paysim", "read"⟩ "" = none :=
  ⟨rfl, rfl⟩

end Fybrik.Catalog
