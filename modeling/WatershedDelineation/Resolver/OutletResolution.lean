import WatershedDelineation.Resolver.Cascade

/-!
# Outlet resolution

`resolver.rs`: an outlet is resolved to the best snap target within the search radius
(`resolveViaSnapStore`), or to the best catchment that holds it (`resolveViaPip`). The geometry
crate, the arithmetic of positions and the session are parameters.

Neither depends on the order of the candidates (`resolveSnapCandidates_perm`,
`resolvePipCandidates_perm`).
-/

namespace WatershedDelineation

/-! ### Configuration -/

/-- Search radius for snap-path outlet resolution, in metres. -/
structure SearchRadiusMetres where
  value : F64
  finite : Binary64.isNaN value.bits = false ∧ Binary64.isInf value.bits = false
  pos : Binary64.lt 0 value.bits
  deriving DecidableEq, Repr

/-- Configuration of the resolver. -/
structure ResolverConfig where
  searchRadius : SearchRadiusMetres
  distanceToleranceM : F64
  snapStrategy : SnapStrategy
  deriving DecidableEq, Repr

/-! ### Results -/

/-- Provenance of a vector snap resolution. -/
structure VectorResolutionProvenance where
  strategy : SnapStrategy
  snapId : SnapId
  distanceM : F64
  weight : Weight
  mainstemStatus : Option StemRole
  candidatesConsidered : ℕ
  deriving DecidableEq, Repr

/-- Provenance of a point-in-polygon resolution. -/
structure ContainmentResolutionProvenance where
  candidatesConsidered : ℕ
  tieBreak : Option PipTieBreak
  deriving DecidableEq, Repr

/-- The single hydrological authority chosen during outlet resolution. -/
inductive OutletResolution
  /-- A snap feature chose both the terminal unit and the vector point. -/
  | vectorPoint (unitId : UnitId) (inputCoord vectorCoord : GeoCoord)
    (provenance : VectorResolutionProvenance)
  /-- Point-in-polygon chose a terminal unit. -/
  | unitContainment (unitId : UnitId) (inputCoord : GeoCoord)
    (provenance : ContainmentResolutionProvenance)
  deriving DecidableEq, Repr

/-- Errors that can occur during outlet resolution. -/
inductive OutletResolutionError
  /-- No snap target within the search radius. -/
  | noSnapCandidates (outlet : GeoCoord) (searchRadius : F64)
  /-- The outlet is in no catchment. -/
  | outsideAllCatchments (outlet : GeoCoord)
  /-- The dataset could not be read. -/
  | datasetRead (source : SessionError)
  /-- No candidate geometry could be decoded. -/
  | allGeometriesCorrupt (outlet : GeoCoord) (count : ℕ)
  deriving DecidableEq, Repr

/-- What resolution uses of the geometry crate, of the arithmetic of positions and of the session:
geometries `G` of snap targets and `P` of catchments. -/
structure ResolverContext (G P : Type) where
  searchBbox : GeoCoord → F64 → Except String BoundingBox
  decodeWkb : WkbGeometry → Except String G
  snapNearestPoint : GeoCoord → G → Option (F64 × GeoCoord)
  decodeWkbMultiPolygon : WkbGeometry → Except String P
  contains : P → GeoCoord → Bool
  intersects : P → GeoCoord → Bool
  levelOf : UnitId → Option Level

variable {G P : Type} (ctx : ResolverContext G P) (outlet : GeoCoord)
  (selectedLevel : Option Level)

/-- The search box of an outlet. -/
def searchBboxOrError (radius : F64) : Except OutletResolutionError BoundingBox :=
  (ctx.searchBbox outlet radius).mapError fun e =>
    .datasetRead (.integrityViolation s!"search bbox construction failed: {e}")

/-! ### Snap targets -/

/-- What becomes of a snap target. -/
inductive SnapScore
  /-- It is of another level or beyond the search radius. -/
  | skipped
  /-- Its geometry cannot be used. -/
  | failed
  /-- It takes part in the ranking. -/
  | scored (candidate : ScoredCandidate)
  deriving DecidableEq, Repr

/-- Score one snap target. -/
def scoreTarget (radius : F64) (target : SnapTarget) : SnapScore :=
  if selectedLevel.any fun level => ctx.levelOf target.unitId ≠ some level then .skipped
  else
    match ctx.decodeWkb target.geometry with
    | .error _ => .failed
    | .ok geom =>
      match ctx.snapNearestPoint outlet geom with
      | none => .failed
      | some (distanceM, nearestCoord) =>
        if Binary64.lt radius.bits distanceM.bits then .skipped
        else .scored ⟨target, distanceM, nearestCoord⟩

/-- The candidate of a score. -/
def SnapScore.candidate : SnapScore → Option ScoredCandidate
  | .scored candidate => some candidate
  | _ => none

/-- Resolve among snap targets. -/
def resolveSnapCandidates (config : ResolverConfig) (candidates : List SnapTarget) :
    Except OutletResolutionError OutletResolution :=
  let radius := config.searchRadius.value
  let scores := candidates.map (scoreTarget ctx outlet selectedLevel radius)
  let scored := scores.filterMap SnapScore.candidate
  let decodeFailures := scores.count .failed
  if candidates = [] then .error (.noSnapCandidates outlet radius)
  else if scored = [] then
    if 0 < decodeFailures ∧ decodeFailures = candidates.length then
      .error (.allGeometriesCorrupt outlet decodeFailures)
    else .error (.noSnapCandidates outlet radius)
  else
    let ranker : ConfiguredVectorCandidateRanker :=
      ⟨config.snapStrategy, config.distanceToleranceM⟩
    match ranker.selected scored with
    | none => .error (.datasetRead
        (.integrityViolation "vector ranker called with no scored candidates"))
    | some winner => .ok (.vectorPoint winner.target.unitId outlet winner.nearestCoord
        ⟨config.snapStrategy, winner.target.id, winner.distanceM, winner.target.weight,
          winner.target.stemRole, candidates.length⟩)

/-- Resolve via the selected snap store, optionally constrained to a level. -/
def resolveViaSnapStore (queryByBbox : BoundingBox → Except SessionError (List SnapTarget))
    (config : ResolverConfig) : Except OutletResolutionError OutletResolution := do
  let bbox ← searchBboxOrError ctx outlet config.searchRadius.value
  let candidates ← (queryByBbox bbox).mapError .datasetRead
  resolveSnapCandidates ctx outlet selectedLevel config candidates

/-! ### Catchments -/

/-- The half width of the box that catchments are looked up by. -/
def pipBufferM : F64 := ⟨0x4059000000000000⟩

/-- The candidates with their polygons, as far as they can be decoded. -/
def decodeCandidates (candidates : List CatchmentUnit) : List (CatchmentUnit × P) :=
  candidates.filterMap fun unit =>
    (ctx.decodeWkbMultiPolygon unit.geometry).toOption.map fun mp => (unit, mp)

/-- The candidates of the selected level. -/
def atLevel (decoded : List (CatchmentUnit × P)) : List (CatchmentUnit × P) :=
  decoded.filter fun candidate => selectedLevel.all fun level => candidate.1.level = level

/-- The catchments that hold the outlet: those that contain it or, if there are none, those that
meet it. -/
def pipHits (decoded : List (CatchmentUnit × P)) : List CatchmentUnit :=
  let hits := (decoded.filter fun candidate => ctx.contains candidate.2 outlet).map Prod.fst
  if hits = [] then
    (decoded.filter fun candidate => ctx.intersects candidate.2 outlet).map Prod.fst
  else hits

/-- Resolve among catchments. -/
def resolvePipCandidates (candidates : List CatchmentUnit) :
    Except OutletResolutionError OutletResolution :=
  let decodedAllLevels := decodeCandidates ctx candidates
  let decodeFailures := candidates.length - decodedAllLevels.length
  let decoded := atLevel selectedLevel decodedAllLevels
  if candidates = [] then .error (.outsideAllCatchments outlet)
  else
    match pipCascade (pipHits ctx outlet decoded) with
    | none =>
      if 0 < decodeFailures ∧ decodeFailures = candidates.length then
        .error (.allGeometriesCorrupt outlet decodeFailures)
      else .error (.outsideAllCatchments outlet)
    | some (winner, tieBreak) => .ok (.unitContainment winner.id outlet ⟨decoded.length, tieBreak⟩)

/-- Resolve via point-in-polygon containment test. -/
def resolveViaPip (queryByBbox : BoundingBox → Except SessionError (List CatchmentUnit)) :
    Except OutletResolutionError OutletResolution := do
  let bbox ← searchBboxOrError ctx outlet pipBufferM
  let candidates ← (queryByBbox bbox).mapError .datasetRead
  resolvePipCandidates ctx outlet selectedLevel candidates

end WatershedDelineation
