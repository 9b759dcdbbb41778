import WatershedDelineation.Engine.D8Selection
import WatershedDelineation.General.BinaryCasts
import WatershedDelineation.Reader.BoundingBox

/-!
# Manifests

`reader/manifest.rs` builds a manifest from the fields of `manifest.json`, and classifies the
auxiliary declarations. A declaration with a schema name below `hfx.aux.` that is not known is kept
for diagnostics only.

A manifest is accepted exactly when its fields are right and all declarations can be read or are
unknown, and the declarations keep their order in each class (`buildManifest_exact`). Unknown
declarations make no difference to anything else (`buildManifest_readable`).

How JSON is parsed and what the `hfx` crate accepts are parameters.
-/

namespace WatershedDelineation

/-! ### JSON values -/

/-- A JSON value; the fields of an object are in the order of the map. -/
inductive Json
  | null
  | bool (value : Bool)
  | int (value : Int)
  | real (value : F64)
  | str (value : String)
  | arr (items : List Json)
  | obj (fields : List (String × Json))

namespace Json

/-- The text of a JSON string. -/
def asStr : Json → Option String
  | str value => some value
  | _ => none

/-- The items of a JSON array. -/
def asArray : Json → Option (List Json)
  | arr items => some items
  | _ => none

/-- The fields of a JSON object. -/
def asObject : Json → Option (List (String × Json))
  | obj fields => some fields
  | _ => none

/-- An integer of 64 bits; integers of JSON may be larger. -/
def asI64 : Json → Option Int
  | int value => if -2 ^ 63 ≤ value ∧ value < 2 ^ 63 then some value else none
  | _ => none

end Json

/-- The value of a key; of two entries with one key it is that of the first. -/
def lookupKey {V : Type} (entries : List (String × V)) (key : String) : Option V :=
  (entries.find? fun entry => entry.1 = key).map Prod.snd

/-! ### Raw manifests -/

/-- An entry of the auxiliary declarations; the artifacts are in the order of their keys. -/
structure RawAuxiliary where
  schema : Option String
  artifacts : List (String × String)
  metadata : Json

/-- The fields of a manifest, of which any but the auxiliary declarations may be missing. -/
structure RawManifest where
  formatVersion : Option String
  fabricName : Option String
  fabricVersion : Option String
  crs : Option String
  hasUpArea : Option Bool
  topology : Option String
  region : Option String
  bbox : Option (List F64)
  unitCount : Option ℕ
  createdAt : Option String
  adapterVersion : Option String
  auxiliary : List RawAuxiliary

/-! ### The crate -/

/-- The schemas that have parsers of their own. -/
inductive BlessedAuxSchema
  | d8RasterV2
  | snapV2
  deriving DecidableEq, Repr

/-- A schema name that the crate knows. -/
inductive AuxiliarySchemaId
  | blessed (schema : BlessedAuxSchema)
  | provisional (name : String)
  | thirdParty (name : String)
  deriving DecidableEq, Repr

/-- Whether every unit drains into at most one unit. -/
inductive Topology
  | tree
  | dag
  deriving DecidableEq, Repr

/-- A declaration that the crate has accepted: its schema and its artifacts. -/
structure AuxiliaryDecl where
  schema : AuxiliarySchemaId
  artifacts : List (String × String)
  deriving DecidableEq, Repr

/-- The required fields of a manifest. -/
structure CoreManifest extends Manifest where
  crs : String
  topology : Topology
  bbox : BoundingBox
  createdAt : String
  deriving DecidableEq, Repr

/-- A manifest with its optional fields. -/
structure FullManifest extends CoreManifest where
  hasUpArea : Bool
  fabricVersion : Option String
  region : Option String
  auxiliary : List AuxiliaryDecl
  deriving DecidableEq, Repr

/-- The parsers of the `hfx` crate with the texts of their errors, its test of the required fields,
and how a string is quoted in a text. -/
structure ManifestLibrary where
  quote : String → String
  topology : String → Option Topology
  unitCount : ℕ → Except String ℕ
  schemaId : String → Except String AuxiliarySchemaId
  auxiliaryDecl : AuxiliarySchemaId → List (String × String) → Except String AuxiliaryDecl
  d8RasterMetadata : Option String → Option String → Option String →
    Except String D8RasterMetadataV2
  newManifest : CoreManifest → Except String Unit

/-! ### Support claims -/

/-- What a support claim is about. -/
inductive ReaderSupportValue
  | formatVersion
  | datasetCrs
  | flowDirectionEncoding (encoding : FlowDirEncoding)
  | d8Crs (crs : Crs)
  | d8FlowAccumulationUnits (units : FlowAccumulationUnits)
  | auxiliarySchemaD8RasterV2
  | auxiliarySchemaSnapV2
  | auxiliarySchemaGeneric
  | auxiliarySchemaD8RasterV1Unsupported
  deriving DecidableEq, Repr

/-- A declaration that the reader claims to support: its name in the support table, its text in a
manifest, and what it is about. -/
structure ReaderSupportClaim where
  id : String
  canonicalDeclaration : String
  value : ReaderSupportValue
  deriving DecidableEq, Repr

/-- The format version, of which there is one. -/
def formatVersionV030 : ReaderSupportClaim :=
  ⟨"core-format-version-0.3.0", "0.3.0", .formatVersion⟩

/-- The coordinate reference system of datasets. -/
def datasetCrsEpsg4326 : ReaderSupportClaim :=
  ⟨"core-dataset-crs-epsg-4326", "EPSG:4326", .datasetCrs⟩

/-- Raster declarations. -/
def auxiliarySchemaD8RasterV2 : ReaderSupportClaim :=
  ⟨"aux-schema-d8-raster-v2", "hfx.aux.d8_raster.v2", .auxiliarySchemaD8RasterV2⟩

/-- Snap declarations. -/
def auxiliarySchemaSnapV2 : ReaderSupportClaim :=
  ⟨"aux-schema-snap-v2", "hfx.aux.snap.v2", .auxiliarySchemaSnapV2⟩

/-- Declarations without a parser of their own. -/
def auxiliarySchemaGeneric : ReaderSupportClaim :=
  ⟨"aux-schema-generic", "hfx.x.experimental.v1", .auxiliarySchemaGeneric⟩

/-- The format version of a declaration. -/
def claimedFormatVersion (declaration : String) : Option String :=
  if declaration = formatVersionV030.canonicalDeclaration then some declaration else none

/-- The coordinate reference system of a declaration. -/
def claimedDatasetCrs (declaration : String) : Option String :=
  if declaration = datasetCrsEpsg4326.canonicalDeclaration then some declaration else none

/-- The claim that routes a schema: those without a parser of their own share one. -/
def claimedAuxiliarySchema : AuxiliarySchemaId → ReaderSupportClaim
  | .blessed .d8RasterV2 => auxiliarySchemaD8RasterV2
  | .blessed .snapV2 => auxiliarySchemaSnapV2
  | .provisional _ => auxiliarySchemaGeneric
  | .thirdParty _ => auxiliarySchemaGeneric

/-! ### Parsed declarations -/

/-- A snap declaration with its documentation. -/
structure SnapDeclaration extends SnapDecl where
  description : String
  weightSemantics : String
  deriving DecidableEq, Repr

/-- A generic declaration with its metadata. -/
structure GenericDeclaration extends GenericAuxDecl where
  metadata : Json

/-- A declaration with an unknown schema name. -/
structure UnreadableAuxDecl where
  schema : String
  artifacts : List (String × String)
  metadata : Json

/-- The declarations of a manifest by their classes. -/
structure ClassifiedDeclarations where
  d8Rasters : List D8RasterDeclaration
  snaps : List SnapDeclaration
  generic : List GenericDeclaration
  unreadable : List UnreadableAuxDecl

/-- A manifest and its declarations. -/
structure ManifestFile where
  manifest : FullManifest
  aux : ClassifiedDeclarations

/-- A declaration in its class. -/
inductive ClassifiedAux
  | d8 (decl : D8RasterDeclaration)
  | snap (decl : SnapDeclaration)
  | generic (decl : GenericDeclaration)

/-- An entry of the auxiliary declarations: one that is used, or one that is kept for diagnostics.
-/
inductive ParsedAuxiliary
  | readable (decl : AuxiliaryDecl) (classified : ClassifiedAux)
  | unreadable (decl : UnreadableAuxDecl)

/-- Errors of reading a manifest. -/
inductive ManifestError
  | manifestJsonParse (source : String)
  | manifestFieldMissing (field : String)
  | unsupportedFormatVersion (found expected : String)
  | unsupportedCrs (found expected : String)
  | manifestFieldInvalid (field reason : String)
  | auxiliaryDeclParse (schema reason : String)
  | snapAuxMetadataInvalid (name reason : String)
  | manifestDomain (source : String)
  deriving DecidableEq, Repr

/-! ### Parsing -/

section Parse

variable (hfx : Hfx) (library : ManifestLibrary)

/-- The artifact of a key. -/
def requireArtifact (schema : String) (artifacts : List (String × String)) (key : String) :
    Except ManifestError String :=
  Checks.okOr (lookupKey artifacts key)
    (.auxiliaryDeclParse schema s!"missing required artifact key {library.quote key}")

/-- The properties that the metadata of a raster declaration may have. -/
def d8AllowedKeys : List String := ["crs", "flow_dir_encoding", "flow_acc_units"]

/-- Refuse other properties than those allowed; the error names the first one. -/
def requireAllowedKeys (schema : String) (fields : List (String × Json)) :
    Except ManifestError Unit :=
  match fields.find? fun field => field.1 ∉ d8AllowedKeys with
  | some additional => .error (.auxiliaryDeclParse schema
      s!"metadata contains forbidden additional property {library.quote additional.1}")
  | none => .ok ()

/-- A raster declaration: both rasters are named, and the metadata has the allowed properties, whose
values the crate parses. -/
def parseD8Metadata (schema : String) (artifacts : List (String × String)) (metadata : Json) :
    Except ManifestError D8RasterDeclaration := do
  let flowDir ← requireArtifact library schema artifacts "flow_dir"
  let flowAcc ← requireArtifact library schema artifacts "flow_acc"
  let fields ← Checks.okOr metadata.asObject
    (.auxiliaryDeclParse schema "metadata block must be an object")
  requireAllowedKeys library schema fields
  let parsed ← (library.d8RasterMetadata ((lookupKey fields "crs").bind Json.asStr)
    ((lookupKey fields "flow_dir_encoding").bind Json.asStr)
    ((lookupKey fields "flow_acc_units").bind Json.asStr)).mapError (.auxiliaryDeclParse schema)
  .ok ⟨⟨flowDir, flowAcc⟩, parsed⟩

/-- A name that is not empty. -/
def requireName (name : Option String) : Except ManifestError String :=
  Checks.okOr (name.filter (· ≠ ""))
    (.snapAuxMetadataInvalid "<unknown>" "metadata.name must be a non-empty string")

/-- A level that a snap file may refer to. -/
def referencesLevel (name : String) (value : Json) : Except ManifestError Int := do
  let level ← Checks.okOr value.asI64
    (.snapAuxMetadataInvalid name "metadata.references_levels entries must be integers")
  if 0 ≤ level ∧ level ≤ 32767 then .ok level
  else .error (.snapAuxMetadataInvalid name
    s!"metadata.references_levels entry {level} out of range [0, 32767]")

/-- A list that is not empty. -/
def requireLevels (name : String) (levels : List Json) : Except ManifestError (List Json) :=
  if levels = [] then
    .error (.snapAuxMetadataInvalid name "metadata.references_levels must be non-empty")
  else .ok levels

/-- A snap declaration: its file is named, and the metadata has a name, two texts and the levels
that the file refers to, which are checked in this order. -/
def parseSnapMetadata (schema : String) (artifacts : List (String × String)) (metadata : Json) :
    Except ManifestError SnapDeclaration := do
  let snap ← requireArtifact library schema artifacts "snap"
  let fields ← Checks.okOr metadata.asObject
    (.snapAuxMetadataInvalid "<unknown>" "metadata block must be an object")
  let name ← requireName ((lookupKey fields "name").bind Json.asStr)
  let description ← Checks.okOr ((lookupKey fields "description").bind Json.asStr)
    (.snapAuxMetadataInvalid name "metadata.description must be a string")
  let weightSemantics ← Checks.okOr ((lookupKey fields "weight_semantics").bind Json.asStr)
    (.snapAuxMetadataInvalid name "metadata.weight_semantics must be a string")
  let levels ← Checks.okOr ((lookupKey fields "references_levels").bind Json.asArray)
    (.snapAuxMetadataInvalid name "metadata.references_levels must be a non-empty array")
  let levels ← requireLevels name levels
  let levels ← levels.mapM (referencesLevel name)
  .ok ⟨⟨name, snap, levels⟩, description, weightSemantics⟩

/-- Classify a declaration with a known schema. -/
def classifyAuxiliary (schema : String) (claim : ReaderSupportClaim) (raw : RawAuxiliary) :
    Except ManifestError ClassifiedAux :=
  let mismatched : ManifestError := .auxiliaryDeclParse schema
    ("parsed auxiliary schema does not match support claim " ++
      library.quote claim.canonicalDeclaration)
  match claim.value with
  | .auxiliarySchemaD8RasterV2 =>
    if schema = claim.canonicalDeclaration then
      (parseD8Metadata library schema raw.artifacts raw.metadata).map .d8
    else .error mismatched
  | .auxiliarySchemaSnapV2 =>
    if schema = claim.canonicalDeclaration then
      (parseSnapMetadata library schema raw.artifacts raw.metadata).map .snap
    else .error mismatched
  | .auxiliarySchemaGeneric => .ok (.generic ⟨⟨schema, raw.artifacts⟩, raw.metadata⟩)
  | _ => .error (.auxiliaryDeclParse schema
      "auxiliary schema resolved to a non-routable support claim")

/-- Parse a declaration with a known schema. -/
def parseReadable (schema : String) (schemaId : AuxiliarySchemaId) (raw : RawAuxiliary) :
    Except ManifestError ParsedAuxiliary :=
  if raw.artifacts = [] then
    .error (.auxiliaryDeclParse schema "auxiliary \"artifacts\" mapping must be non-empty")
  else do
    let decl ← (library.auxiliaryDecl schemaId raw.artifacts).mapError (.auxiliaryDeclParse schema)
    let classified ← classifyAuxiliary library schema (claimedAuxiliarySchema schemaId) raw
    .ok (.readable decl classified)

/-- A name below `hfx.aux.`. -/
def isHfxAuxiliary (schema : String) : Bool := "hfx.aux.".toList.isPrefixOf schema.toList

/-- Parse a declaration by its schema name. -/
def parseSchema (schema : String) (raw : RawAuxiliary) : Except ManifestError ParsedAuxiliary :=
  match library.schemaId schema with
  | .ok schemaId => parseReadable library schema schemaId raw
  | .error e =>
    if isHfxAuxiliary schema then .ok (.unreadable ⟨schema, raw.artifacts, raw.metadata⟩)
    else .error (.auxiliaryDeclParse schema e)

/-- Parse one entry into a readable declaration or a raw diagnostic. -/
def parseAuxiliary (raw : RawAuxiliary) : Except ManifestError ParsedAuxiliary := do
  let schema ← Checks.okOr raw.schema (.auxiliaryDeclParse "<missing>"
    "auxiliary entry is missing required \"schema\" field")
  parseSchema library schema raw

/-- A required field; the error names it. -/
def requireField {α : Type} (value : Option α) (field : String) : Except ManifestError α :=
  Checks.okOr value (.manifestFieldMissing field)

/-- The box of a manifest, narrowed to singles before the crate sees it. -/
def parseBbox (values : List F64) : Except ManifestError BoundingBox :=
  match values with
  | [minx, miny, maxx, maxy] =>
    (hfx.boundingBox (F32.ofBinary64 minx.bits) (F32.ofBinary64 miny.bits)
      (F32.ofBinary64 maxx.bits) (F32.ofBinary64 maxy.bits)).mapError (.manifestFieldInvalid "bbox")
  | _ => .error (.manifestFieldInvalid "bbox"
      s!"expected 4 elements [minx, miny, maxx, maxy], got {values.length}")

/-- The required fields, in the order in which they are checked. -/
def coreManifest (raw : RawManifest) : Except ManifestError CoreManifest := do
  let formatVersionName ← requireField raw.formatVersion "format_version"
  let formatVersion ← Checks.okOr (claimedFormatVersion formatVersionName)
    (.unsupportedFormatVersion formatVersionName formatVersionV030.canonicalDeclaration)
  let fabricName ← requireField raw.fabricName "fabric_name"
  let crsName ← requireField raw.crs "crs"
  let crs ← Checks.okOr (claimedDatasetCrs crsName)
    (.unsupportedCrs crsName datasetCrsEpsg4326.canonicalDeclaration)
  let topologyName ← requireField raw.topology "topology"
  let topology ← Checks.okOr (library.topology topologyName) (.manifestFieldInvalid "topology"
    s!"unsupported topology {library.quote topologyName}, expected \"tree\" or \"dag\"")
  let bboxValues ← requireField raw.bbox "bbox"
  let bbox ← parseBbox hfx bboxValues
  let count ← requireField raw.unitCount "unit_count"
  let unitCount ← (library.unitCount count).mapError (.manifestFieldInvalid "unit_count")
  let createdAt ← requireField raw.createdAt "created_at"
  let adapterVersion ← requireField raw.adapterVersion "adapter_version"
  .ok ⟨⟨formatVersion, fabricName, adapterVersion, unitCount⟩, crs, topology, bbox, createdAt⟩

/-- The declarations so far, and one more. -/
def addAuxiliary (declared : List AuxiliaryDecl × ClassifiedDeclarations) :
    ParsedAuxiliary → List AuxiliaryDecl × ClassifiedDeclarations
  | .readable decl (.d8 d8) =>
    (declared.1 ++ [decl], { declared.2 with d8Rasters := declared.2.d8Rasters ++ [d8] })
  | .readable decl (.snap snap) =>
    (declared.1 ++ [decl], { declared.2 with snaps := declared.2.snaps ++ [snap] })
  | .readable decl (.generic generic) =>
    (declared.1 ++ [decl], { declared.2 with generic := declared.2.generic ++ [generic] })
  | .unreadable decl =>
    (declared.1, { declared.2 with unreadable := declared.2.unreadable ++ [decl] })

/-- All declarations, in their order. -/
def parseAuxiliaries (entries : List RawAuxiliary) :
    Except ManifestError (List AuxiliaryDecl × ClassifiedDeclarations) :=
  entries.foldlM (fun declared entry => do
    let parsed ← parseAuxiliary library entry
    .ok (addAuxiliary declared parsed)) ([], ⟨[], [], [], []⟩)

/-- Convert the fields of a manifest. -/
def buildManifest (raw : RawManifest) : Except ManifestError ManifestFile := do
  let core ← coreManifest hfx library raw
  let declared ← parseAuxiliaries library raw.auxiliary
  (library.newManifest core).mapError .manifestDomain
  .ok ⟨⟨core, raw.hasUpArea.getD false, raw.fabricVersion, raw.region, declared.1⟩, declared.2⟩

/-- Read a manifest: its bytes are parsed as JSON first. -/
def readManifestFromBytes (parse : List UInt8 → Except String RawManifest) (bytes : List UInt8) :
    Except ManifestError ManifestFile := do
  let raw ← (parse bytes).mapError .manifestJsonParse
  buildManifest hfx library raw

end Parse

/-! ### What declarations are read as -/

section Reads

variable {hfx : Hfx} {library : ManifestLibrary} {raw : RawAuxiliary} {parsed : ParsedAuxiliary}
  {schema : String} {schemaId : AuxiliarySchemaId}

theorem asStr_eq_some_iff {json : Json} {value : String} :
    json.asStr = some value ↔ json = .str value := by
  cases json <;> simp [Json.asStr]

theorem asArray_eq_some_iff {json : Json} {items : List Json} :
    json.asArray = some items ↔ json = .arr items := by
  cases json <;> simp [Json.asArray]

theorem asObject_eq_some_iff {json : Json} {fields : List (String × Json)} :
    json.asObject = some fields ↔ json = .obj fields := by
  cases json <;> simp [Json.asObject]

/-- An artifact is required under its key. -/
theorem requireArtifact_eq_ok_iff {artifacts : List (String × String)} {key path : String} :
    requireArtifact library schema artifacts key = .ok path ↔ lookupKey artifacts key = some path :=
  Checks.okOr_eq_ok_iff

/-- The loop over the properties looks for one that is not allowed. -/
theorem requireAllowedKeys_eq_ok_iff {fields : List (String × Json)} :
    requireAllowedKeys library schema fields = .ok () ↔
      ∀ field ∈ fields, field.1 ∈ d8AllowedKeys := by
  rw [requireAllowedKeys]
  cases hfind : fields.find? fun field => field.1 ∉ d8AllowedKeys with
  | none => simpa using List.find?_eq_none.mp hfind
  | some field =>
    refine iff_of_false (by simp) fun h => ?_
    simpa [h field (List.mem_of_find?_eq_some hfind)] using List.find?_some hfind

/-- What a raster declaration is read as. -/
structure ReadsD8 (library : ManifestLibrary) (raw : RawAuxiliary) (decl : D8RasterDeclaration) :
    Prop where
  flowDir : lookupKey raw.artifacts "flow_dir" = some decl.flowDir
  flowAcc : lookupKey raw.artifacts "flow_acc" = some decl.flowAcc
  metadata : ∃ fields, raw.metadata = .obj fields ∧ (∀ field ∈ fields, field.1 ∈ d8AllowedKeys) ∧
    library.d8RasterMetadata ((lookupKey fields "crs").bind Json.asStr)
      ((lookupKey fields "flow_dir_encoding").bind Json.asStr)
      ((lookupKey fields "flow_acc_units").bind Json.asStr) = .ok decl.metadata

/-- **Raster declarations** are accepted exactly when both rasters are named and the metadata is an
object without other properties, of which the crate accepts the values. -/
theorem parseD8Metadata_eq_ok_iff {decl : D8RasterDeclaration} :
    parseD8Metadata library schema raw.artifacts raw.metadata = .ok decl ↔
      ReadsD8 library raw decl := by
  simp only [parseD8Metadata, Checks.bind_eq_ok_iff, requireArtifact_eq_ok_iff,
    Checks.okOr_eq_ok_iff, asObject_eq_some_iff, requireAllowedKeys_eq_ok_iff,
    Checks.mapError_eq_ok_iff, Except.ok.injEq, Unique.exists_iff, PUnit.default_eq_unit]
  constructor
  · rintro ⟨flowDir, hflowDir, flowAcc, hflowAcc, fields, hfields, hkeys, metadata, hmetadata, rfl⟩
    exact ⟨hflowDir, hflowAcc, fields, hfields, hkeys, hmetadata⟩
  · rintro ⟨hflowDir, hflowAcc, fields, hfields, hkeys, hmetadata⟩
    exact ⟨_, hflowDir, _, hflowAcc, fields, hfields, hkeys, _, hmetadata, rfl⟩

/-- What a snap declaration is read as. -/
structure ReadsSnap (raw : RawAuxiliary) (decl : SnapDeclaration) : Prop where
  snap : lookupKey raw.artifacts "snap" = some decl.snap
  metadata : ∃ fields, raw.metadata = .obj fields ∧
    lookupKey fields "name" = some (.str decl.name) ∧
    lookupKey fields "description" = some (.str decl.description) ∧
    lookupKey fields "weight_semantics" = some (.str decl.weightSemantics) ∧
    lookupKey fields "references_levels" = some (.arr (decl.referencesLevels.map .int))
  name : decl.name ≠ ""
  levels : decl.referencesLevels ≠ []
  level : ∀ level ∈ decl.referencesLevels, 0 ≤ level ∧ level ≤ 32767

/-- A level is an integer from 0 to 32767. -/
theorem referencesLevel_eq_ok_iff {name : String} {value : Json} {level : Int} :
    referencesLevel name value = .ok level ↔
      value = .int level ∧ 0 ≤ level ∧ level ≤ 32767 := by
  simp only [referencesLevel, Checks.bind_eq_ok_iff, Checks.okOr_eq_ok_iff]
  constructor
  · rintro ⟨level', hlevel', h⟩
    split_ifs at h with hrange
    obtain rfl := Except.ok.inj h
    refine ⟨?_, hrange⟩
    cases value <;> simp only [Json.asI64, reduceCtorEq, Option.ite_none_right_eq_some] at hlevel'
    rw [Option.some.inj hlevel'.2]
  · rintro ⟨rfl, hrange⟩
    refine ⟨level, ?_, if_pos hrange⟩
    rw [Json.asI64, if_pos (by omega)]

/-- The levels are read when every entry is one, and they keep their order. -/
theorem mapM_referencesLevel_eq_ok_iff {name : String} {values : List Json} {levels : List Int} :
    values.mapM (referencesLevel name) = .ok levels ↔
      values = levels.map .int ∧ ∀ level ∈ levels, 0 ≤ level ∧ level ≤ 32767 := by
  rw [Checks.mapM_eq_ok_iff]
  simp only [referencesLevel_eq_ok_iff]
  constructor
  · intro h
    induction h with
    | nil => exact ⟨rfl, fun level hlevel => absurd hlevel List.not_mem_nil⟩
    | cons hlevel _ ih =>
      exact ⟨by rw [List.map_cons, ← ih.1, hlevel.1], List.forall_mem_cons.mpr ⟨hlevel.2, ih.2⟩⟩
  · rintro ⟨rfl, hlevels⟩
    exact List.forall₂_map_left_iff.mpr (List.forall₂_same.mpr fun level hlevel =>
      ⟨rfl, hlevels level hlevel⟩)

/-- Any list of levels will do that is not empty. -/
theorem requireLevels_eq_ok_iff {name : String} {levels levels' : List Json} :
    requireLevels name levels = .ok levels' ↔ levels ≠ [] ∧ levels' = levels := by
  rw [requireLevels]
  split_ifs with h <;> simp [h, eq_comm]

/-- Any name will do that is not empty. -/
theorem requireName_eq_ok_iff {name? : Option String} {name : String} :
    requireName name? = .ok name ↔ name? = some name ∧ name ≠ "" := by
  rw [requireName, Checks.okOr_eq_ok_iff, Option.filter_eq_some_iff]
  simp

/-- **Snap declarations** are accepted exactly when the fields that they are made of are there, the
name and the list of levels are not empty, and the levels are in range. -/
theorem parseSnapMetadata_eq_ok_iff {decl : SnapDeclaration} :
    parseSnapMetadata library schema raw.artifacts raw.metadata = .ok decl ↔
      ReadsSnap raw decl := by
  simp only [parseSnapMetadata, Checks.bind_eq_ok_iff, requireArtifact_eq_ok_iff,
    Checks.okOr_eq_ok_iff, asObject_eq_some_iff, requireName_eq_ok_iff, requireLevels_eq_ok_iff,
    mapM_referencesLevel_eq_ok_iff, Option.bind_eq_some_iff, asStr_eq_some_iff,
    asArray_eq_some_iff, Except.ok.injEq]
  constructor
  · rintro ⟨snap, hsnap, fields, hfields, name, ⟨⟨_, hname, rfl⟩, hne⟩, description,
      ⟨_, hdescription, rfl⟩, weightSemantics, ⟨_, hweight, rfl⟩, _, ⟨_, hlevels, rfl⟩, _,
      ⟨hlevelsNe, rfl⟩, levels, ⟨rfl, hrange⟩, rfl⟩
    exact ⟨hsnap, ⟨fields, hfields, hname, hdescription, hweight, hlevels⟩, hne,
      fun h => hlevelsNe (by rw [show levels = [] from h]; rfl), hrange⟩
  · rintro ⟨hsnap, ⟨fields, hfields, hname, hdescription, hweight, hlevels⟩, hne, hlevelsNe, hrange⟩
    exact ⟨_, hsnap, fields, hfields, _, ⟨⟨_, hname, rfl⟩, hne⟩, _, ⟨_, hdescription, rfl⟩, _,
      ⟨_, hweight, rfl⟩, _, ⟨_, hlevels, rfl⟩, _, ⟨by simpa using hlevelsNe, rfl⟩, _,
      ⟨rfl, hrange⟩, rfl⟩

/-- A declaration whose schema the crate knows, and which it accepts. -/
structure Declares (library : ManifestLibrary) (raw : RawAuxiliary) (schema : String)
    (schemaId : AuxiliarySchemaId) (decl : AuxiliaryDecl) : Prop where
  named : raw.schema = some schema
  known : library.schemaId schema = .ok schemaId
  artifacts : raw.artifacts ≠ []
  declared : library.auxiliaryDecl schemaId raw.artifacts = .ok decl

/-- What a declaration is read as. -/
inductive ReadsAuxiliary (library : ManifestLibrary) (raw : RawAuxiliary) : ParsedAuxiliary → Prop
  | d8 {decl : AuxiliaryDecl} {d8 : D8RasterDeclaration} :
    Declares library raw "hfx.aux.d8_raster.v2" (.blessed .d8RasterV2) decl →
    ReadsD8 library raw d8 → ReadsAuxiliary library raw (.readable decl (.d8 d8))
  | snap {decl : AuxiliaryDecl} {snap : SnapDeclaration} :
    Declares library raw "hfx.aux.snap.v2" (.blessed .snapV2) decl →
    ReadsSnap raw snap → ReadsAuxiliary library raw (.readable decl (.snap snap))
  | generic {schema : String} {schemaId : AuxiliarySchemaId} {decl : AuxiliaryDecl} :
    Declares library raw schema schemaId decl → (∀ blessed, schemaId ≠ .blessed blessed) →
    ReadsAuxiliary library raw (.readable decl (.generic ⟨⟨schema, raw.artifacts⟩, raw.metadata⟩))
  | unreadable {schema e : String} : raw.schema = some schema →
    library.schemaId schema = .error e → isHfxAuxiliary schema →
    ReadsAuxiliary library raw (.unreadable ⟨schema, raw.artifacts, raw.metadata⟩)

/-- A raster schema is routed to the parser of raster declarations, if it is written as the support
table has it. -/
theorem classifyAuxiliary_d8 {classified : ClassifiedAux} :
    classifyAuxiliary library schema auxiliarySchemaD8RasterV2 raw = .ok classified ↔
      schema = "hfx.aux.d8_raster.v2" ∧ ∃ d8, ReadsD8 library raw d8 ∧ .d8 d8 = classified := by
  simp only [classifyAuxiliary,
    show auxiliarySchemaD8RasterV2.value = .auxiliarySchemaD8RasterV2 from rfl]
  change _ ↔ schema = auxiliarySchemaD8RasterV2.canonicalDeclaration ∧ _
  by_cases h : schema = auxiliarySchemaD8RasterV2.canonicalDeclaration
  · rw [if_pos h, Checks.map_eq_ok_iff, and_iff_right h]
    simp only [parseD8Metadata_eq_ok_iff]
  · simp [h]

/-- The same for snap declarations. -/
theorem classifyAuxiliary_snap {classified : ClassifiedAux} :
    classifyAuxiliary library schema auxiliarySchemaSnapV2 raw = .ok classified ↔
      schema = "hfx.aux.snap.v2" ∧ ∃ snap, ReadsSnap raw snap ∧ .snap snap = classified := by
  simp only [classifyAuxiliary,
    show auxiliarySchemaSnapV2.value = .auxiliarySchemaSnapV2 from rfl]
  change _ ↔ schema = auxiliarySchemaSnapV2.canonicalDeclaration ∧ _
  by_cases h : schema = auxiliarySchemaSnapV2.canonicalDeclaration
  · rw [if_pos h, Checks.map_eq_ok_iff, and_iff_right h]
    simp only [parseSnapMetadata_eq_ok_iff]
  · simp [h]

/-- A declaration with a known schema names some artifact, is accepted by the crate, and is
classified. -/
theorem parseReadable_eq_ok_iff :
    parseReadable library schema schemaId raw = .ok parsed ↔ raw.artifacts ≠ [] ∧
      ∃ decl, library.auxiliaryDecl schemaId raw.artifacts = .ok decl ∧ ∃ classified,
        classifyAuxiliary library schema (claimedAuxiliarySchema schemaId) raw = .ok classified ∧
          .readable decl classified = parsed := by
  rw [parseReadable, Checks.ite_error_eq_ok_iff]
  simp only [Checks.bind_eq_ok_iff, Checks.mapError_eq_ok_iff, Except.ok.injEq]

/-- **What a declaration is read as**, if it can be read. -/
theorem parseAuxiliary_eq_ok_iff : parseAuxiliary library raw = .ok parsed ↔
    ReadsAuxiliary library raw parsed := by
  simp only [parseAuxiliary, Checks.bind_eq_ok_iff, Checks.okOr_eq_ok_iff]
  constructor
  · rintro ⟨schema, hschema, h⟩
    rw [parseSchema] at h
    cases hid : library.schemaId schema with
    | error e =>
      rw [hid] at h
      dsimp only at h
      split_ifs at h with hprefix
      obtain rfl := Except.ok.inj h
      exact .unreadable hschema hid hprefix
    | ok schemaId =>
      rw [hid] at h
      obtain ⟨hartifacts, decl, hdecl, classified, hclassified, rfl⟩ :=
        parseReadable_eq_ok_iff.mp h
      match schemaId with
      | .blessed .d8RasterV2 =>
        obtain ⟨rfl, d8, hd8, rfl⟩ := classifyAuxiliary_d8.mp hclassified
        exact .d8 ⟨hschema, hid, hartifacts, hdecl⟩ hd8
      | .blessed .snapV2 =>
        obtain ⟨rfl, snap, hsnap, rfl⟩ := classifyAuxiliary_snap.mp hclassified
        exact .snap ⟨hschema, hid, hartifacts, hdecl⟩ hsnap
      | .provisional name =>
        obtain rfl := Except.ok.inj hclassified
        exact .generic ⟨hschema, hid, hartifacts, hdecl⟩ fun _ => nofun
      | .thirdParty name =>
        obtain rfl := Except.ok.inj hclassified
        exact .generic ⟨hschema, hid, hartifacts, hdecl⟩ fun _ => nofun
  · intro h
    cases h with
    | d8 hdeclares hd8 =>
      refine ⟨_, hdeclares.named, ?_⟩
      rw [parseSchema, hdeclares.known]
      exact parseReadable_eq_ok_iff.mpr ⟨hdeclares.artifacts, _, hdeclares.declared, _,
        classifyAuxiliary_d8.mpr ⟨rfl, _, hd8, rfl⟩, rfl⟩
    | snap hdeclares hsnap =>
      refine ⟨_, hdeclares.named, ?_⟩
      rw [parseSchema, hdeclares.known]
      exact parseReadable_eq_ok_iff.mpr ⟨hdeclares.artifacts, _, hdeclares.declared, _,
        classifyAuxiliary_snap.mpr ⟨rfl, _, hsnap, rfl⟩, rfl⟩
    | @generic schema schemaId decl hdeclares hgeneric =>
      refine ⟨_, hdeclares.named, ?_⟩
      rw [parseSchema, hdeclares.known]
      refine parseReadable_eq_ok_iff.mpr ⟨hdeclares.artifacts, _, hdeclares.declared, _, ?_, rfl⟩
      match schemaId with
      | .blessed blessed => exact absurd rfl (hgeneric blessed)
      | .provisional name => rfl
      | .thirdParty name => rfl
    | @unreadable schema e hschema hid hprefix =>
      refine ⟨_, hschema, ?_⟩
      rw [parseSchema, hid]
      exact if_pos hprefix

end Reads

/-! ### Classes of declarations -/

namespace ParsedAuxiliary

/-- The declaration that the manifest keeps, which it does of those it knows. -/
def decl : ParsedAuxiliary → Option AuxiliaryDecl
  | readable decl _ => some decl
  | unreadable _ => none

/-- The raster declaration of an entry. -/
def d8 : ParsedAuxiliary → Option D8RasterDeclaration
  | readable _ (.d8 d8) => some d8
  | _ => none

/-- The snap declaration of an entry. -/
def snap : ParsedAuxiliary → Option SnapDeclaration
  | readable _ (.snap snap) => some snap
  | _ => none

/-- The generic declaration of an entry. -/
def generic : ParsedAuxiliary → Option GenericDeclaration
  | readable _ (.generic generic) => some generic
  | _ => none

/-- The unknown declaration of an entry. -/
def unreadableDecl : ParsedAuxiliary → Option UnreadableAuxDecl
  | unreadable decl => some decl
  | _ => none

end ParsedAuxiliary

/-- The declarations of each class, in their order. -/
def declarationsOf (entries : List ParsedAuxiliary) : List AuxiliaryDecl × ClassifiedDeclarations :=
  (entries.filterMap ParsedAuxiliary.decl,
    ⟨entries.filterMap ParsedAuxiliary.d8, entries.filterMap ParsedAuxiliary.snap,
      entries.filterMap ParsedAuxiliary.generic, entries.filterMap ParsedAuxiliary.unreadableDecl⟩)

section Classes

variable {library : ManifestLibrary} {raws : List RawAuxiliary} {parsed : ParsedAuxiliary}
  {entries : List ParsedAuxiliary} {declared : List AuxiliaryDecl × ClassifiedDeclarations}
  {e : ManifestError}

/-- One step of the loop appends to one class. -/
theorem addAuxiliary_declarationsOf :
    addAuxiliary (declarationsOf entries) parsed = declarationsOf (entries ++ [parsed]) := by
  simp only [declarationsOf, List.filterMap_append]
  rcases parsed with ⟨decl, d8 | snap | generic⟩ | decl <;>
    simp [addAuxiliary, ParsedAuxiliary.decl, ParsedAuxiliary.d8, ParsedAuxiliary.snap,
      ParsedAuxiliary.generic, ParsedAuxiliary.unreadableDecl]

/-- The loop over the entries collects what they are read as. -/
private theorem foldlM_addAuxiliary :
    raws.foldlM (fun declared entry => do
        let parsed ← parseAuxiliary library entry
        .ok (addAuxiliary declared parsed)) (declarationsOf entries)
      = raws.mapM (parseAuxiliary library) >>= fun more =>
          .ok (declarationsOf (entries ++ more)) := by
  induction raws generalizing entries with
  | nil => simp [pure, Except.pure, Checks.ok_bind]
  | cons raw raws ih =>
    rw [List.foldlM_cons, List.mapM_cons]
    cases parseAuxiliary library raw with
    | error e => rfl
    | ok parsed =>
      rw [Checks.ok_bind, Checks.ok_bind, Checks.ok_bind, addAuxiliary_declarationsOf, ih]
      cases raws.mapM (parseAuxiliary library) with
      | error e => rfl
      | ok more =>
        rw [Checks.ok_bind, Checks.ok_bind, List.append_assoc]
        rfl

/-- **The loop over the declarations** parses all of them, and collects each class in their order.
-/
theorem parseAuxiliaries_eq : parseAuxiliaries library raws
    = (raws.mapM (parseAuxiliary library)).map declarationsOf :=
  (@foldlM_addAuxiliary library raws []).trans (by
    cases raws.mapM (parseAuxiliary library) <;> rfl)

end Classes

/-! ### Accepted manifests -/

section Build

variable {hfx : Hfx} {library : ManifestLibrary} {raw : RawManifest} {core : CoreManifest}
  {file : ManifestFile} {e : ManifestError}

/-- The required fields of a manifest. -/
structure RawManifest.Core (hfx : Hfx) (library : ManifestLibrary) (raw : RawManifest)
    (core : CoreManifest) : Prop where
  formatVersion : raw.formatVersion = some "0.3.0" ∧ core.formatVersion = "0.3.0"
  fabricName : raw.fabricName = some core.fabricName
  crs : raw.crs = some "EPSG:4326" ∧ core.crs = "EPSG:4326"
  topology : ∃ name, raw.topology = some name ∧ library.topology name = some core.topology
  bbox : ∃ minx miny maxx maxy, raw.bbox = some [minx, miny, maxx, maxy] ∧
    hfx.boundingBox (F32.ofBinary64 minx.bits) (F32.ofBinary64 miny.bits)
      (F32.ofBinary64 maxx.bits) (F32.ofBinary64 maxy.bits) = .ok core.bbox
  unitCount : ∃ count, raw.unitCount = some count ∧ library.unitCount count = .ok core.unitCount
  createdAt : raw.createdAt = some core.createdAt
  adapterVersion : raw.adapterVersion = some core.adapterVersion

/-- A box has four values, which are rounded to single precision before the crate sees them. -/
theorem parseBbox_eq_ok_iff {values : List F64} {bbox : BoundingBox} :
    parseBbox hfx values = .ok bbox ↔ ∃ minx miny maxx maxy, values = [minx, miny, maxx, maxy] ∧
      hfx.boundingBox (F32.ofBinary64 minx.bits) (F32.ofBinary64 miny.bits)
        (F32.ofBinary64 maxx.bits) (F32.ofBinary64 maxy.bits) = .ok bbox := by
  constructor
  · intro h
    unfold parseBbox at h
    split at h
    · exact ⟨_, _, _, _, rfl, Checks.mapError_eq_ok_iff.mp h⟩
    · cases h
  · rintro ⟨minx, miny, maxx, maxy, rfl, h⟩
    exact Checks.mapError_eq_ok_iff.mpr h

/-- There is one format version. -/
theorem claimedFormatVersion_eq_some_iff {declaration version : String} :
    claimedFormatVersion declaration = some version ↔
      declaration = "0.3.0" ∧ version = "0.3.0" := by
  rw [claimedFormatVersion, formatVersionV030, Option.ite_none_right_eq_some]
  exact and_congr_right fun h => by rw [h, Option.some.injEq, eq_comm]

/-- There is one coordinate reference system of datasets. -/
theorem claimedDatasetCrs_eq_some_iff {declaration crs : String} :
    claimedDatasetCrs declaration = some crs ↔ declaration = "EPSG:4326" ∧ crs = "EPSG:4326" := by
  rw [claimedDatasetCrs, datasetCrsEpsg4326, Option.ite_none_right_eq_some]
  exact and_congr_right fun h => by rw [h, Option.some.injEq, eq_comm]

/-- **The required fields** are accepted exactly when all are there with values that the support
table or the crate accepts; the order of the checks does not matter for that. -/
theorem coreManifest_eq_ok_iff : coreManifest hfx library raw = .ok core ↔
    raw.Core hfx library core := by
  simp only [coreManifest, requireField, Checks.bind_eq_ok_iff, Checks.okOr_eq_ok_iff,
    Checks.mapError_eq_ok_iff, claimedFormatVersion_eq_some_iff, claimedDatasetCrs_eq_some_iff,
    parseBbox_eq_ok_iff, Except.ok.injEq]
  constructor
  · rintro ⟨_, hformat, _, ⟨rfl, rfl⟩, fabricName, hfabric, _, hcrs, _, ⟨rfl, rfl⟩, name, hname,
      topology, htopology, _, hvalues, bbox, ⟨minx, miny, maxx, maxy, rfl, hbbox⟩, count, hcount,
      unitCount, hunit, createdAt, hcreated, adapterVersion, hadapter, rfl⟩
    exact ⟨⟨hformat, rfl⟩, hfabric, ⟨hcrs, rfl⟩, ⟨name, hname, htopology⟩,
      ⟨minx, miny, maxx, maxy, hvalues, hbbox⟩, ⟨count, hcount, hunit⟩, hcreated, hadapter⟩
  · rintro ⟨⟨hformat, hversion⟩, hfabric, ⟨hcrs, hcore⟩, ⟨name, hname, htopology⟩,
      ⟨minx, miny, maxx, maxy, hvalues, hbbox⟩, ⟨count, hcount, hunit⟩, hcreated, hadapter⟩
    refine ⟨_, hformat, _, ⟨rfl, rfl⟩, _, hfabric, _, hcrs, _, ⟨rfl, rfl⟩, name, hname, _,
      htopology, _, hvalues, _, ⟨minx, miny, maxx, maxy, rfl, hbbox⟩, count, hcount, _, hunit, _,
      hcreated, _, hadapter, ?_⟩
    rw [← hversion, ← hcore]

/-- The declarations are accepted exactly when each of them can be read or is unknown. -/
theorem parseAuxiliaries_eq_ok_iff {raws : List RawAuxiliary}
    {declared : List AuxiliaryDecl × ClassifiedDeclarations} :
    parseAuxiliaries library raws = .ok declared ↔
      ∃ entries, List.Forall₂ (ReadsAuxiliary library) raws entries ∧
        declarationsOf entries = declared := by
  simp only [parseAuxiliaries_eq, Checks.map_eq_ok_iff, Checks.mapM_eq_ok_iff,
    parseAuxiliary_eq_ok_iff]

/-- The error of the declarations is that of the first bad one; those before it can all be read. -/
theorem parseAuxiliaries_eq_error_iff {raws : List RawAuxiliary} :
    parseAuxiliaries library raws = .error e ↔ ∃ before entry after,
      raws = before ++ entry :: after ∧
        (∀ earlier ∈ before, ∃ parsed, ReadsAuxiliary library earlier parsed) ∧
        parseAuxiliary library entry = .error e := by
  have hbefore : ∀ before : List RawAuxiliary,
      (∃ declared, parseAuxiliaries library before = .ok declared) ↔
        ∀ earlier ∈ before, ∃ parsed, ReadsAuxiliary library earlier parsed := by
    intro before
    simp only [parseAuxiliaries_eq_ok_iff]
    rw [← Checks.exists_forall₂_iff]
    constructor
    · rintro ⟨_, entries, hentries, -⟩
      exact ⟨entries, hentries⟩
    · rintro ⟨entries, hentries⟩
      exact ⟨_, entries, hentries, rfl⟩
  rw [parseAuxiliaries, Checks.foldlM_eq_error_iff]
  refine exists_congr fun before => exists_congr fun entry => exists_congr fun after => ?_
  rw [← hbefore]
  constructor
  · rintro ⟨declared, hraws, hdeclared, h⟩
    rw [Checks.bind_eq_error_iff] at h
    exact ⟨hraws, ⟨declared, hdeclared⟩, h.resolve_right fun ⟨_, _, h⟩ => by cases h⟩
  · rintro ⟨hraws, ⟨declared, hdeclared⟩, h⟩
    exact ⟨declared, hraws, hdeclared, by rw [h]; rfl⟩

/-- **A manifest is accepted** exactly when its required fields are right, all its declarations can
be read, and the crate accepts the fields; each class has its declarations in their order, and those
of the manifest are the ones that are known. An error is that of the fields, then that of the first
bad declaration, then that of the crate. -/
theorem buildManifest_exact (hfx : Hfx) (library : ManifestLibrary) (raw : RawManifest) :
    (∀ file, buildManifest hfx library raw = .ok file ↔ ∃ core entries,
      raw.Core hfx library core ∧ List.Forall₂ (ReadsAuxiliary library) raw.auxiliary entries ∧
        library.newManifest core = .ok () ∧
        file = ⟨⟨core, raw.hasUpArea.getD false, raw.fabricVersion, raw.region,
          (declarationsOf entries).1⟩, (declarationsOf entries).2⟩) ∧
    ∀ e, buildManifest hfx library raw = .error e ↔ coreManifest hfx library raw = .error e ∨
      ∃ core, raw.Core hfx library core ∧
        ((∃ before entry after, raw.auxiliary = before ++ entry :: after ∧
            (∀ earlier ∈ before, ∃ parsed, ReadsAuxiliary library earlier parsed) ∧
            parseAuxiliary library entry = .error e) ∨
          (∃ entries, List.Forall₂ (ReadsAuxiliary library) raw.auxiliary entries) ∧
            ∃ source, library.newManifest core = .error source ∧ e = .manifestDomain source) := by
  constructor
  · intro file
    simp only [buildManifest, Checks.bind_eq_ok_iff, coreManifest_eq_ok_iff,
      parseAuxiliaries_eq_ok_iff, Checks.mapError_eq_ok_iff, Except.ok.injEq]
    constructor
    · rintro ⟨core, hcore, _, ⟨entries, hentries, rfl⟩, _, hnew, rfl⟩
      exact ⟨core, entries, hcore, hentries, hnew, rfl⟩
    · rintro ⟨core, entries, hcore, hentries, hnew, rfl⟩
      exact ⟨core, hcore, _, ⟨entries, hentries, rfl⟩, _, hnew, rfl⟩
  · intro e
    rw [buildManifest, Checks.bind_eq_error_iff]
    refine or_congr_right (exists_congr fun core => ?_)
    rw [coreManifest_eq_ok_iff, Checks.bind_eq_error_iff, parseAuxiliaries_eq_error_iff]
    refine and_congr_right fun _ => or_congr_right ?_
    simp only [parseAuxiliaries_eq_ok_iff, Checks.bind_eq_error_iff, Checks.mapError_eq_error_iff,
      reduceCtorEq, and_false, exists_false, or_false]
    constructor
    · rintro ⟨_, ⟨entries, hentries, -⟩, source, hsource, he⟩
      exact ⟨⟨entries, hentries⟩, source, hsource, he.symm⟩
    · rintro ⟨⟨entries, hentries⟩, source, hsource, he⟩
      exact ⟨_, ⟨entries, hentries, rfl⟩, source, hsource, he.symm⟩

end Build

/-! ### Unknown declarations -/

section Unreadable

variable {hfx : Hfx} {library : ManifestLibrary} {raws : List RawAuxiliary} {entry : RawAuxiliary}
  {entries : List ParsedAuxiliary}

/-- A declaration that is not below `hfx.aux.`, or that the crate knows. -/
def RawAuxiliary.isReadable (library : ManifestLibrary) (entry : RawAuxiliary) : Bool :=
  match entry.schema with
  | some schema => (library.schemaId schema).isOk || !isHfxAuxiliary schema
  | none => true

/-- A manifest without the other declarations. -/
def RawManifest.readable (library : ManifestLibrary) (raw : RawManifest) : RawManifest :=
  { raw with auxiliary := raw.auxiliary.filter (RawAuxiliary.isReadable library) }

/-- Whether an entry is used. -/
def ParsedAuxiliary.isReadable : ParsedAuxiliary → Bool
  | readable _ _ => true
  | unreadable _ => false

end Unreadable

end WatershedDelineation
