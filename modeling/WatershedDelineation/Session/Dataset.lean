import WatershedDelineation.Drainage.Graph

/-!
# Datasets and their errors

The parts of a parsed manifest that opening a dataset reads, its auxiliary declarations, and the
errors of opening and validating.
-/

namespace WatershedDelineation

/-- The manifest fields that opening a dataset reads. -/
structure Manifest where
  formatVersion : String
  fabricName : String
  adapterVersion : String
  unitCount : ℕ
  deriving DecidableEq, Repr

/-- A blessed snap declaration: the snap file's path and the levels it may reference. -/
structure SnapDecl where
  name : String
  snap : String
  referencesLevels : List Int
  deriving DecidableEq, Repr

/-- A blessed D8 raster declaration: the paths of its two rasters. -/
structure D8RasterDecl where
  flowDir : String
  flowAcc : String
  deriving DecidableEq, Repr

/-- A declaration retained as a raw handle: the schema, and a path for every artifact. -/
structure GenericAuxDecl where
  schema : String
  artifacts : List (String × String)
  deriving DecidableEq, Repr

/-- Auxiliary declarations of a manifest. -/
structure AuxDeclarations where
  d8Rasters : List D8RasterDecl
  snaps : List SnapDecl
  generic : List GenericAuxDecl
  deriving DecidableEq, Repr

/-- A parsed manifest plus its classified auxiliary declarations. -/
structure ParsedManifest where
  manifest : Manifest
  aux : AuxDeclarations
  deriving DecidableEq, Repr

/-- Errors from opening and validating a dataset. -/
inductive SessionError
  /-- The catchment row count differs from the manifest's unit count. -/
  | unitCountMismatch (manifestCount actualCount : ℕ)
  /-- The graph and the catchments contradict each other. -/
  | graphReferentialIntegrity (reason : String)
  /-- A snap target references a missing unit or an undeclared level. -/
  | snapReferentialIntegrity (snapId unitId : Int) (reason : String)
  /-- The catchments file repeats an id. -/
  | integrityViolation (detail : String)
  /-- The snap membership columns were not read at open time. -/
  | snapRefsNotLoaded (artifact mode : String)
  /-- A remote artifact could not be read. -/
  | remoteArtifactRead (artifact path : String)
  /-- An artifact could not be parsed. -/
  | artifactParse (artifact : String)
  /-- A cache file could not be read or written. -/
  | cacheIo (operation path : String)
  /-- A cache file could not be turned into JSON. -/
  | cacheJson (operation path : String)
  /-- A declared auxiliary path leaves the dataset root. -/
  | auxiliaryPathEscape (schema artifact path : String)
  /-- A Parquet artifact lacks a column. -/
  | parquetSchema (artifact reason : String)
  /-- A row of an artifact fails validation. -/
  | invalidRow (artifact : String) (row : ℕ) (detail : String)
  /-- A snap row has an unknown stem role. -/
  | invalidStemRole (row : ℕ) (value : String)
  /-- The geometry of a snap row cannot be used. -/
  | snapGeometryInvalid (row : ℕ) (reason : String)
  deriving DecidableEq, Repr

end WatershedDelineation
