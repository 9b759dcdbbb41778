import WatershedDelineation.Cog.Chunk
import WatershedDelineation.General.Binary64Rounding
import WatershedDelineation.Raster.Refine
import WatershedDelineation.Session.RemoteOpen

/-!
# Selecting a raster pair for a terminal

`select_d8_raster_for_terminal` of `session.rs`: of the declared raster pairs, the first one of
which both rasters cover the bounding box of the projected terminal. The headers of all rasters
that may matter are read before, so that a raster that cannot be read is an error, wherever it
lies.

What is selected is the first covering declaration (`selectD8RasterForTerminal_exact`). The edges of
the rasters are computed in double precision from their headers, so that they are rounded and may be
infinite or NaN; coordinates of terminals are numbers. The Equal Earth projection and the reading of
headers are parameters.
-/

namespace WatershedDelineation

/-! ### Rectangles -/

/-- A rectangle with its boundary. -/
structure Rect where
  min : NativeCoord
  max : NativeCoord
  deriving DecidableEq, Repr

/-- The point is in the rectangle. -/
def Rect.Holds (rect : Rect) (p : NativeCoord) : Prop :=
  (rect.min.x ≤ p.x ∧ p.x ≤ rect.max.x) ∧ rect.min.y ≤ p.y ∧ p.y ≤ rect.max.y

instance (rect : Rect) (p : NativeCoord) : Decidable (rect.Holds p) :=
  inferInstanceAs (Decidable ((rect.min.x ≤ p.x ∧ p.x ≤ rect.max.x) ∧ _))

/-- The extent of a raster: the doubles between which its coordinates lie. No axis is reversed. -/
structure CogExtent where
  minX : BitVec 64
  minY : BitVec 64
  maxX : BitVec 64
  maxY : BitVec 64
  ordered_x : Binary64.lt maxX minX = false
  ordered_y : Binary64.lt maxY minY = false
  deriving DecidableEq, Repr

theorem not_lt_of_lt {x y : BitVec 64} (h : Binary64.lt x y) : Binary64.lt y x = false := by
  simp only [Binary64.lt, Bool.and_eq_true, Bool.not_eq_true', decide_eq_true_eq] at h
  simp only [Binary64.lt, Bool.and_eq_false_iff, decide_eq_false_iff_not]
  exact .inr h.2.not_gt

/-- An interval, with the smaller end first. -/
def intervalOf (a b : BitVec 64) : {ends : BitVec 64 × BitVec 64 //
    Binary64.lt ends.2 ends.1 = false} :=
  if h : Binary64.lt a b then ⟨(a, b), not_lt_of_lt h⟩ else ⟨(b, a), Bool.eq_false_iff.mpr h⟩

/-- The rectangle with two opposite corners. -/
def CogExtent.new (x y x' y' : BitVec 64) : CogExtent where
  minX := (intervalOf x x').1.1
  minY := (intervalOf y y').1.1
  maxX := (intervalOf x x').1.2
  maxY := (intervalOf y y').1.2
  ordered_x := (intervalOf x x').2
  ordered_y := (intervalOf y y').2

/-- The point is in the extent. -/
def CogExtent.Holds (extent : CogExtent) (p : NativeCoord) : Prop :=
  (Binary64.leRat extent.minX p.x ∧ Binary64.ratLe p.x extent.maxX) ∧
    Binary64.leRat extent.minY p.y ∧ Binary64.ratLe p.y extent.maxY

instance (extent : CogExtent) (p : NativeCoord) : Decidable (extent.Holds p) :=
  inferInstanceAs (Decidable ((_ ∧ _) ∧ _ ∧ _))

def rectContainsInclusive (container : CogExtent) (candidate : Rect) : Bool :=
  Binary64.leRat container.minX candidate.min.x ∧ Binary64.leRat container.minY candidate.min.y ∧
    Binary64.ratLe candidate.max.x container.maxX ∧ Binary64.ratLe candidate.max.y container.maxY

def rectsIntersectInclusive (a : CogExtent) (b : Rect) : Bool :=
  Binary64.leRat a.minX b.max.x ∧ Binary64.ratLe b.min.x a.maxX ∧
    Binary64.leRat a.minY b.max.y ∧ Binary64.ratLe b.min.y a.maxY

/-- The smallest rectangle with one point more. -/
def Rect.include (rect : Rect) (p : NativeCoord) : Rect :=
  ⟨⟨rect.min.x ⊓ p.x, rect.min.y ⊓ p.y⟩, ⟨rect.max.x ⊔ p.x, rect.max.y ⊔ p.y⟩⟩

/-- The vertices of the exterior rings. -/
def exteriorVertices (polygons : MultiPolygon) : List NativeCoord :=
  polygons.flatMap Polygon.exterior

/-- The bounding rectangle of polygons, if they have vertices. -/
def boundingRect (polygons : MultiPolygon) : Option Rect :=
  match exteriorVertices polygons with
  | [] => none
  | p :: ps => some (ps.foldl Rect.include ⟨p, p⟩)

/-! ### Projection -/

/-- The stage of an inverse projection that did not converge. -/
inductive InverseStage
  | theta
  | geodeticLatitude
  deriving DecidableEq, Repr

/-- Errors of inverse projection. -/
inductive ProjectionError
  | unsupportedCrs (epsg : ℕ)
  | nonConvergence (stage : InverseStage)
  | outOfDomain (x y : ℚ)
  deriving DecidableEq, Repr

/-- The Equal Earth projection and its inverse, on coordinates in degrees and in metres. -/
structure EqualEarth where
  forward : NativeCoord → NativeCoord
  inverse : NativeCoord → Except ProjectionError NativeCoord

/-- Project a geographic coordinate. -/
def EqualEarth.forwardTo (equalEarth : EqualEarth) (crs : Crs) (p : NativeCoord) : NativeCoord :=
  match crs with
  | .epsg4326 => p
  | .epsg8857 => equalEarth.forward p

/-- Project a coordinate back. -/
def EqualEarth.inverseFrom (equalEarth : EqualEarth) (crs : Crs) (p : NativeCoord) :
    Except ProjectionError NativeCoord :=
  match crs with
  | .epsg4326 => .ok p
  | .epsg8857 => equalEarth.inverse p

/-- Project a terminal, ring by ring. -/
def projectTerminal (equalEarth : EqualEarth) (terminal : MultiPolygon) (crs : Crs) :
    MultiPolygon :=
  terminal.map fun polygon => .new (polygon.exterior.map (equalEarth.forwardTo crs))
    (polygon.interiors.map (List.map (equalEarth.forwardTo crs)))

/-! ### Declarations -/

/-- The metadata of a raster pair. -/
structure D8RasterMetadataV2 where
  crs : String
  flowDirEncoding : FlowDirEncoding
  flowAccUnits : FlowAccumulationUnits
  deriving DecidableEq, Repr

/-- A declared raster pair with its metadata. -/
structure D8RasterDeclaration extends D8RasterDecl where
  metadata : D8RasterMetadataV2
  deriving DecidableEq, Repr

/-- The box of a terminal in the coordinates of a declaration. -/
structure D8NativeCoverageCandidate where
  declarationIndex : ℕ
  epsg : ℕ
  bbox : Rect
  deriving DecidableEq, Repr

/-- The errors of a session about declared rasters. -/
inductive D8SessionError
  | missingRequiredD8Aux
  | d8CrsIdentifierOutOfRange (declaredCrs : String)
  | unsupportedD8Crs (declaredCrs : String) (source : ProjectionError)
  | cogExtentHeaderRead (declarationIndex : ℕ) (kind : RasterKind) (path : String)
    (source : CacheError)
  | terminalSpansD8Tiles (declarationIndices : List ℕ)
    (candidates : List D8NativeCoverageCandidate)
  | noCoveringD8Tile (candidates : List D8NativeCoverageCandidate)
  | cache (source : CacheError)
  | integrityViolation (detail : String)
  deriving DecidableEq, Repr

/-- What selects a raster pair: the declaration, the locations of the two rasters, and what is
known of their coordinates. -/
structure D8RasterHandle where
  declarationIndex : ℕ
  flowDirUri : String
  flowAccUri : String
  remoteFlowDirPath : Option String
  remoteFlowAccPath : Option String
  metadata : D8RasterMetadataV2
  projectionCrs : Crs
  epsg : ℕ
  deriving DecidableEq, Repr

/-- The built-in coordinate reference system of a declaration, and its number. -/
def d8Crs (declaredCrs : String) : Except D8SessionError (Crs × ℕ) := do
  let identifier := if "EPSG:".toList <+: declaredCrs.toList then
      String.ofList (declaredCrs.toList.drop 5) else declaredCrs
  let epsg ← Checks.okOr ((parseInt 0 (2 ^ 32 - 1) identifier).map Int.toNat)
    (.d8CrsIdentifierOutOfRange declaredCrs)
  let crs ← Checks.okOr (claimedD8Crs declaredCrs)
    (.unsupportedD8Crs declaredCrs (.unsupportedCrs epsg))
  .ok (crs, epsg)

/-! ### Extents -/

/-- The georeferencing of a raster. -/
structure RasterHeader where
  width : ℕ
  height : ℕ
  scale : List (BitVec 64)
  tiepoint : List (BitVec 64)
  deriving DecidableEq, Repr

/-- What places a raster: the sizes of a pixel, and a pixel position with its coordinates. -/
structure Placement where
  scaleX : BitVec 64
  scaleY : BitVec 64
  pixelX : BitVec 64
  pixelY : BitVec 64
  x : BitVec 64
  y : BitVec 64

/-- The tags have two sizes and a tie point. -/
def RasterHeader.placement (header : RasterHeader) : Option Placement :=
  match header.scale, header.tiepoint with
  | sx :: sy :: _, px :: py :: _ :: x :: y :: _ :: _ => some ⟨sx, sy, px, py, x, y⟩
  | _, _ => none

section Extent

open Binary64

/-- The extent of a raster. -/
def readExtent (header : RasterHeader) (path : String) : Except CacheError CogExtent := do
  let tags ← Checks.okOr header.placement
    (.unsupportedCog path "missing GeoTIFF model scale or tiepoint values")
  let originX := sub tags.x (mul tags.pixelX tags.scaleX)
  let originY := add tags.y (mul tags.pixelY tags.scaleY)
  let pixelWidth := tags.scaleX
  let pixelHeight := neg tags.scaleY
  if le pixelWidth 0 ∨ le 0 pixelHeight then
    .error (.unsupportedCog path
      "only north-up rasters with positive x and negative y pixels are supported")
  else
    let minX := originX
    let maxX := add originX (mul (ofRat header.width) pixelWidth)
    let maxY := originY
    let minY := add originY (mul (ofRat header.height) pixelHeight)
    .ok (.new minX minY maxX maxY)

end Extent

/-- A session as the selection sees it: where it is rooted, its declarations, and the headers of
the rasters. -/
structure D8Session where
  root : String
  remoteRoot : Option String
  d8Rasters : List D8RasterDeclaration
  header : String → Except CacheError RasterHeader

namespace D8Session

variable (session : D8Session)

/-- A path below the root of a local dataset. -/
def joinRoot (path : String) : String :=
  if path.toList.head? = some '/' then path
  else if session.root.toList.getLast? = some '/' then session.root ++ path
  else session.root ++ "/" ++ path

/-- The URL of an artifact of a remote dataset. -/
def remoteArtifactUrlStringFromRoot (artifact : String) : String :=
  String.ofList (session.root.toList.reverse.dropWhile (· = '/')).reverse ++ "/" ++ artifact

/-- Where the header of a raster is read. -/
def extentPath (declPath : String) : String :=
  match session.remoteRoot with
  | some root => remoteArtifactPath root declPath
  | none => session.joinRoot declPath

/-- The extent of a declared raster. -/
def d8Extent (declarationIndex : ℕ) (kind : RasterKind) (declPath : String) :
    Except D8SessionError CogExtent :=
  let path := session.extentPath declPath
  let shown := if session.remoteRoot.isSome then declPath else path
  (do readExtent (← session.header path) path).mapError
    (.cogExtentHeaderRead declarationIndex kind shown)

/-- The handle of a declaration. -/
def d8Handle (declarationIndex : ℕ) (decl : D8RasterDeclaration) (crs : Crs) (epsg : ℕ) :
    D8RasterHandle :=
  match session.remoteRoot with
  | some root =>
    ⟨declarationIndex, session.remoteArtifactUrlStringFromRoot decl.flowDir,
      session.remoteArtifactUrlStringFromRoot decl.flowAcc,
      some (remoteArtifactPath root decl.flowDir), some (remoteArtifactPath root decl.flowAcc),
      decl.metadata, crs, epsg⟩
  | none =>
    ⟨declarationIndex, session.joinRoot decl.flowDir, session.joinRoot decl.flowAcc, none, none,
      decl.metadata, crs, epsg⟩

/-! ### The search -/

/-- What the search finds out about a declaration. -/
structure Coverage where
  candidate : D8NativeCoverageCandidate
  intersecting : Bool
  covering : Option (D8RasterHandle × MultiPolygon)

variable (equalEarth : EqualEarth) (terminal : MultiPolygon)

/-- Look at a declaration; a terminal without bounds is taken by the first one. -/
def examine (decl : D8RasterDeclaration) (index : ℕ) :
    Except D8SessionError ((D8RasterHandle × MultiPolygon) ⊕ Coverage) := do
  let (crs, epsg) ← d8Crs decl.metadata.crs
  let nativeTerminal := projectTerminal equalEarth terminal crs
  match boundingRect nativeTerminal with
  | none => .ok (.inl (session.d8Handle index decl crs epsg, nativeTerminal))
  | some bbox => do
    let candidate : D8NativeCoverageCandidate := ⟨index, epsg, bbox⟩
    let flowDirExtent ← session.d8Extent index .flowDir decl.flowDir
    if !rectsIntersectInclusive flowDirExtent bbox then .ok (.inr ⟨candidate, false, none⟩)
    else do
      let flowAccExtent ← session.d8Extent index .flowAcc decl.flowAcc
      .ok (.inr ⟨candidate, rectsIntersectInclusive flowAccExtent bbox,
        if rectContainsInclusive flowDirExtent bbox ∧ rectContainsInclusive flowAccExtent bbox then
          some (session.d8Handle index decl crs epsg, nativeTerminal) else none⟩)

/-- Look at the declarations, one after the other. -/
def search : List (D8RasterDeclaration × ℕ) →
    Except D8SessionError ((D8RasterHandle × MultiPolygon) ⊕ List Coverage)
  | [] => .ok (.inr [])
  | (decl, index) :: decls => do
    match ← session.examine equalEarth terminal decl index with
    | .inl found => .ok (.inl found)
    | .inr coverage =>
      match ← search decls with
      | .inl found => .ok (.inl found)
      | .inr coverages => .ok (.inr (coverage :: coverages))

/-- Choose among the covering declarations. -/
def chooseD8Raster (coverages : List Coverage) :
    Except D8SessionError (D8RasterHandle × MultiPolygon) :=
  match coverages.filterMap Coverage.covering with
  | [selected] => .ok selected
  | selected :: _ =>
    if (boundingRect selected.2).isSome then .ok selected
    else .error (.integrityViolation "terminal geometry has no bounds")
  | [] =>
    let intersecting := (coverages.filter Coverage.intersecting).map Coverage.candidate
    if 1 < intersecting.length then
      .error (.terminalSpansD8Tiles
        (intersecting.map D8NativeCoverageCandidate.declarationIndex) intersecting)
    else .error (.noCoveringD8Tile (coverages.map Coverage.candidate))

/-- Select the first declaration whose rasters cover a terminal. -/
def selectD8RasterForTerminal : Except D8SessionError (D8RasterHandle × MultiPolygon) :=
  if session.d8Rasters = [] then .error .missingRequiredD8Aux
  else do
    match ← session.search equalEarth terminal session.d8Rasters.zipIdx with
    | .inl selected => .ok selected
    | .inr coverages => chooseD8Raster coverages

end D8Session

/-! ### Rectangles cover points -/

section Rectangles

variable {container : CogExtent} {rect : Rect} {p : NativeCoord} {polygons : MultiPolygon}
  {crs : Crs} {equalEarth : EqualEarth} {terminal : MultiPolygon}

private theorem rectContainsInclusive_include :
    rectContainsInclusive container (rect.include p) ↔
      rectContainsInclusive container rect ∧ container.Holds p := by
  simp only [rectContainsInclusive, Rect.include, CogExtent.Holds, decide_eq_true_eq,
    Binary64.leRat_inf, Binary64.ratLe_sup]
  tauto

private theorem rectContainsInclusive_foldl (ps : List NativeCoord) :
    rectContainsInclusive container (ps.foldl Rect.include rect) ↔
      rectContainsInclusive container rect ∧ ∀ p ∈ ps, container.Holds p := by
  induction ps generalizing rect with
  | nil => simp
  | cons p ps ih =>
    rw [List.foldl_cons, ih, rectContainsInclusive_include, and_assoc, List.forall_mem_cons]

theorem boundingRect_eq_none_iff :
    boundingRect polygons = none ↔ exteriorVertices polygons = [] := by
  rw [boundingRect]
  split <;> simp_all

/-- An extent contains a bounding rectangle if it holds all vertices. -/
theorem rectContainsInclusive_boundingRect (h : boundingRect polygons = some rect) :
    rectContainsInclusive container rect ↔ ∀ p ∈ exteriorVertices polygons, container.Holds p := by
  rw [boundingRect] at h
  split at h
  · cases h
  · next p ps hvertices =>
    obtain rfl := Option.some.inj h
    rw [rectContainsInclusive_foldl, hvertices, List.forall_mem_cons]
    refine and_congr_left fun _ => ?_
    simp only [rectContainsInclusive, CogExtent.Holds, decide_eq_true_eq]
    tauto

theorem Rect.holds_include : (rect.include p).Holds p :=
  ⟨⟨inf_le_right, le_sup_right⟩, inf_le_right, le_sup_right⟩

theorem Rect.Holds.include {q : NativeCoord} (h : rect.Holds q) : (rect.include p).Holds q :=
  ⟨⟨inf_le_left.trans h.1.1, h.1.2.trans le_sup_left⟩, inf_le_left.trans h.2.1,
    h.2.2.trans le_sup_left⟩

private theorem holds_foldl (ps : List NativeCoord) :
    (∀ q, rect.Holds q → (ps.foldl Rect.include rect).Holds q) ∧
      ∀ q ∈ ps, (ps.foldl Rect.include rect).Holds q := by
  induction ps generalizing rect with
  | nil => exact ⟨fun _ h => h, fun _ h => absurd h List.not_mem_nil⟩
  | cons p ps ih =>
    obtain ⟨hkept, hmem⟩ := @ih (rect.include p)
    exact ⟨fun q hq => hkept q hq.include,
      List.forall_mem_cons.mpr ⟨hkept p Rect.holds_include, hmem⟩⟩

/-- A bounding rectangle holds the vertices. -/
theorem holds_of_boundingRect (h : boundingRect polygons = some rect) :
    ∀ p ∈ exteriorVertices polygons, rect.Holds p := by
  rw [boundingRect] at h
  split at h
  · cases h
  · next p ps hvertices =>
    obtain rfl := Option.some.inj h
    rw [hvertices, List.forall_mem_cons]
    exact ⟨(holds_foldl ps).1 p ⟨⟨le_rfl, le_rfl⟩, le_rfl, le_rfl⟩, (holds_foldl ps).2⟩

/-- An extent and a rectangle that has points intersect where they have a common one. -/
theorem rectsIntersectInclusive_iff (hp : rect.Holds p) :
    rectsIntersectInclusive container rect ↔ ∃ q, container.Holds q ∧ rect.Holds q := by
  simp only [rectsIntersectInclusive, decide_eq_true_eq]
  constructor
  · rintro ⟨hminX, hmaxX, hminY, hmaxY⟩
    obtain ⟨x, hx, hx'⟩ := Binary64.exists_between container.ordered_x (hp.1.1.trans hp.1.2) hminX
      hmaxX
    obtain ⟨y, hy, hy'⟩ := Binary64.exists_between container.ordered_y (hp.2.1.trans hp.2.2) hminY
      hmaxY
    exact ⟨⟨x, y⟩, ⟨hx', hy'⟩, hx, hy⟩
  · rintro ⟨q, ⟨⟨hminX, hmaxX⟩, hminY, hmaxY⟩, ⟨hlowX, hhighX⟩, hlowY, hhighY⟩
    exact ⟨Binary64.leRat_mono hhighX hminX, Binary64.ratLe_anti hlowX hmaxX,
      Binary64.leRat_mono hhighY hminY, Binary64.ratLe_anti hlowY hmaxY⟩

/-- The vertices of a projected terminal. -/
theorem exteriorVertices_projectTerminal :
    exteriorVertices (projectTerminal equalEarth terminal crs)
      = (exteriorVertices terminal).map (equalEarth.forwardTo crs) := by
  rw [exteriorVertices, exteriorVertices, projectTerminal, List.flatMap_map, List.map_flatMap]
  refine congrArg (List.flatMap · terminal) (funext fun polygon => ?_)
  exact LineString.close_eq (polygon.closed_exterior.map _)

/-- The rings of a polygon are closed already. -/
theorem Polygon.new_eq (polygon : Polygon) : Polygon.new polygon.exterior polygon.interiors
    = polygon := by
  obtain ⟨exterior, interiors, hexterior, hinteriors⟩ := polygon
  rw [Polygon.new, Polygon.mk.injEq]
  refine ⟨LineString.close_eq hexterior, ?_⟩
  exact (List.map_congr_left fun ring hring => LineString.close_eq (hinteriors ring hring)).trans
    (List.map_id interiors)

/-- Geographic coordinates stay. -/
theorem projectTerminal_epsg4326 : projectTerminal equalEarth terminal .epsg4326 = terminal := by
  rw [projectTerminal]
  refine (List.map_congr_left fun polygon _ => ?_).trans (List.map_id terminal)
  have hforward : equalEarth.forwardTo .epsg4326 = id := rfl
  rw [hforward, List.map_id, List.map_id_fun, List.map_id]
  exact polygon.new_eq

end Rectangles

/-! ### What is selected -/

namespace D8Session

variable (session : D8Session) (equalEarth : EqualEarth) (terminal : MultiPolygon)

/-- The extent of a declared raster, if its header can be read. -/
def rasterRect (declPath : String) : Option CogExtent :=
  let path := session.extentPath declPath
  (do readExtent (← session.header path) path).toOption

/-- All that the selection reads of a declaration can be read. -/
def Readable (decl : D8RasterDeclaration) : Prop :=
  ∃ crs epsg box dir, d8Crs decl.metadata.crs = .ok (crs, epsg) ∧
    boundingRect (projectTerminal equalEarth terminal crs) = some box ∧
    session.rasterRect decl.flowDir = some dir ∧
    ((∃ p, dir.Holds p ∧ box.Holds p) → (session.rasterRect decl.flowAcc).isSome)

/-- Both rasters of a declaration meet the box of the terminal. -/
def Meets (decl : D8RasterDeclaration) : Prop :=
  ∃ crs epsg box dir acc, d8Crs decl.metadata.crs = .ok (crs, epsg) ∧
    boundingRect (projectTerminal equalEarth terminal crs) = some box ∧
    session.rasterRect decl.flowDir = some dir ∧ session.rasterRect decl.flowAcc = some acc ∧
    (∃ p, dir.Holds p ∧ box.Holds p) ∧ ∃ p, acc.Holds p ∧ box.Holds p

/-- Both rasters of a declaration hold all vertices of the projected terminal. -/
def Covers (decl : D8RasterDeclaration) : Prop :=
  ∃ crs epsg dir acc, d8Crs decl.metadata.crs = .ok (crs, epsg) ∧
    session.rasterRect decl.flowDir = some dir ∧ session.rasterRect decl.flowAcc = some acc ∧
    ∀ v ∈ exteriorVertices terminal,
      dir.Holds (equalEarth.forwardTo crs v) ∧ acc.Holds (equalEarth.forwardTo crs v)

/-- The handle of a declaration and the terminal in its coordinates. -/
def Selects (decl : D8RasterDeclaration) (index : ℕ) (selected : D8RasterHandle × MultiPolygon) :
    Prop :=
  ∃ crs epsg, d8Crs decl.metadata.crs = .ok (crs, epsg) ∧
    selected = (session.d8Handle index decl crs epsg, projectTerminal equalEarth terminal crs)

/-- What the search notes down of a declaration. -/
structure Coverage.Describes (coverage : Coverage) (session : D8Session) (equalEarth : EqualEarth)
    (terminal : MultiPolygon) (decl : D8RasterDeclaration) (index : ℕ) : Prop where
  index_eq : coverage.candidate.declarationIndex = index
  intersecting_iff : coverage.intersecting ↔ session.Meets equalEarth terminal decl
  covering_iff : ∀ selected, coverage.covering = some selected ↔
    session.Covers equalEarth terminal decl ∧
      session.Selects equalEarth terminal decl index selected

/-- The error of reading a declaration: it names the declared system, or the declaration and the
raster. -/
def NamesUnreadable (session : D8Session) (decl : D8RasterDeclaration) (index : ℕ) :
    D8SessionError → Prop
  | .d8CrsIdentifierOutOfRange declaredCrs => declaredCrs = decl.metadata.crs
  | .unsupportedD8Crs declaredCrs _ => declaredCrs = decl.metadata.crs
  | .cogExtentHeaderRead declarationIndex kind path _ =>
    declarationIndex = index ∧ ∃ declared ∈ [(RasterKind.flowDir, decl.flowDir),
      (RasterKind.flowAcc, decl.flowAcc)], kind = declared.1 ∧
        path = if session.remoteRoot.isSome then declared.2 else session.joinRoot declared.2
  | _ => False

variable {session : D8Session} {equalEarth : EqualEarth} {terminal : MultiPolygon}
  {decl : D8RasterDeclaration} {index : ℕ} {declPath : String}

theorem d8Extent_eq_ok_iff {kind : RasterKind} {extent : CogExtent} :
    session.d8Extent index kind declPath = .ok extent ↔
      session.rasterRect declPath = some extent := by
  rw [d8Extent, Checks.mapError_eq_ok_iff, rasterRect, Checks.toOption_eq_some_iff]

/-- The terminal has a box in every coordinate system. -/
theorem exists_boundingRect (hvertices : exteriorVertices terminal ≠ []) (crs : Crs) :
    ∃ box, boundingRect (projectTerminal equalEarth terminal crs) = some box ∧
      (∀ v ∈ exteriorVertices terminal, box.Holds (equalEarth.forwardTo crs v)) ∧
      ∀ extent, rectContainsInclusive extent box ↔
        ∀ v ∈ exteriorVertices terminal, extent.Holds (equalEarth.forwardTo crs v) := by
  obtain ⟨box, hbox⟩ :
      ∃ box, boundingRect (projectTerminal equalEarth terminal crs) = some box := by
    rw [← Option.ne_none_iff_exists', ne_eq, boundingRect_eq_none_iff,
      exteriorVertices_projectTerminal, List.map_eq_nil_iff]
    exact hvertices
  have hholds := holds_of_boundingRect hbox
  rw [exteriorVertices_projectTerminal, List.forall_mem_map] at hholds
  refine ⟨box, hbox, hholds, fun extent => ?_⟩
  rw [rectContainsInclusive_boundingRect hbox, exteriorVertices_projectTerminal,
    List.forall_mem_map]

/-- **One declaration.** If it is readable, the search knows whether its rasters meet the box, and
whether they cover the terminal. -/
theorem examine_of_readable (hvertices : exteriorVertices terminal ≠ []) (index : ℕ)
    (hreadable : session.Readable equalEarth terminal decl) :
    ∃ coverage, session.examine equalEarth terminal decl index = .ok (.inr coverage) ∧
      coverage.Describes session equalEarth terminal decl index := by
  obtain ⟨crs, epsg, box, dir, hcrs, hbox, hdir, hacc⟩ := hreadable
  obtain ⟨box', hbox', hholds, hcontains⟩ := @exists_boundingRect equalEarth terminal hvertices crs
  obtain rfl := Option.some.inj (hbox.symm.trans hbox')
  obtain ⟨v, hv⟩ := List.exists_mem_of_ne_nil _ hvertices
  have hmeets := @rectsIntersectInclusive_iff dir box _ (hholds v hv)
  have hstep : session.examine equalEarth terminal decl index =
      if !rectsIntersectInclusive dir box then .ok (.inr ⟨⟨index, epsg, box⟩, false, none⟩)
      else session.d8Extent index .flowAcc decl.flowAcc >>= fun acc =>
        .ok (.inr ⟨⟨index, epsg, box⟩, rectsIntersectInclusive acc box,
          if rectContainsInclusive dir box ∧ rectContainsInclusive acc box then
            some (session.d8Handle index decl crs epsg, projectTerminal equalEarth terminal crs)
          else none⟩) := by
    rw [examine, hcrs, Checks.ok_bind]
    dsimp only
    rw [hbox]
    dsimp only
    rw [d8Extent_eq_ok_iff.mpr hdir, Checks.ok_bind]
  rw [hstep]
  by_cases hfar : rectsIntersectInclusive dir box
  · obtain ⟨acc, hacc⟩ := Option.isSome_iff_exists.mp (hacc (hmeets.mp hfar))
    rw [hfar, d8Extent_eq_ok_iff.mpr hacc, Checks.ok_bind]
    refine ⟨_, rfl, rfl, ?_, fun selected => ?_⟩
    · rw [rectsIntersectInclusive_iff (hholds v hv)]
      constructor
      · exact fun h => ⟨crs, epsg, box, dir, acc, hcrs, hbox, hdir, hacc, hmeets.mp hfar, h⟩
      · rintro ⟨crs', epsg', box', dir', acc', hcrs', hbox', hdir', hacc', -, h⟩
        obtain ⟨rfl, rfl⟩ := Prod.mk.inj (Except.ok.inj (hcrs.symm.trans hcrs'))
        obtain rfl := Option.some.inj (hbox.symm.trans hbox')
        obtain rfl := Option.some.inj (hacc.symm.trans hacc')
        exact h
    · rw [Option.ite_none_right_eq_some, hcontains, hcontains, ← forall₂_and, Option.some.injEq]
      constructor
      · rintro ⟨h, rfl⟩
        exact ⟨⟨crs, epsg, dir, acc, hcrs, hdir, hacc, h⟩, crs, epsg, hcrs, rfl⟩
      · rintro ⟨⟨crs', epsg', dir', acc', hcrs', hdir', hacc', h⟩, crs'', epsg'', hcrs'', rfl⟩
        obtain ⟨rfl, rfl⟩ := Prod.mk.inj (Except.ok.inj (hcrs.symm.trans hcrs'))
        obtain ⟨rfl, rfl⟩ := Prod.mk.inj (Except.ok.inj (hcrs.symm.trans hcrs''))
        obtain rfl := Option.some.inj (hdir.symm.trans hdir')
        obtain rfl := Option.some.inj (hacc.symm.trans hacc')
        exact ⟨h, rfl⟩
  · -- the second header is not read
    have hnone : ¬∃ x, dir.Holds x ∧ box.Holds x := fun h => hfar (hmeets.mpr h)
    rw [Bool.not_eq_true] at hfar
    rw [hfar]
    refine ⟨_, rfl, rfl, ?_, fun selected => ?_⟩
    · refine iff_of_false (by simp) ?_
      rintro ⟨crs', epsg', box', dir', acc', hcrs', hbox', hdir', -, h, -⟩
      obtain ⟨rfl, rfl⟩ := Prod.mk.inj (Except.ok.inj (hcrs.symm.trans hcrs'))
      obtain rfl := Option.some.inj (hbox.symm.trans hbox')
      obtain rfl := Option.some.inj (hdir.symm.trans hdir')
      exact hnone h
    · refine iff_of_false (by simp) ?_
      rintro ⟨⟨crs', epsg', dir', acc', hcrs', hdir', -, h⟩, -⟩
      obtain ⟨rfl, rfl⟩ := Prod.mk.inj (Except.ok.inj (hcrs.symm.trans hcrs'))
      obtain rfl := Option.some.inj (hdir.symm.trans hdir')
      exact hnone ⟨_, (h v hv).1, hholds v hv⟩

theorem readable_of_examine (hvertices : exteriorVertices terminal ≠ [])
    {found : (D8RasterHandle × MultiPolygon) ⊕ Coverage}
    (h : session.examine equalEarth terminal decl index = .ok found) :
    session.Readable equalEarth terminal decl := by
  obtain ⟨⟨crs, epsg⟩, hcrs, h⟩ := Checks.bind_eq_ok_iff.mp h
  obtain ⟨box, hbox, hholds, -⟩ := @exists_boundingRect equalEarth terminal hvertices crs
  dsimp only at h
  rw [hbox] at h
  obtain ⟨dir, hdir, h⟩ := Checks.bind_eq_ok_iff.mp h
  rw [d8Extent_eq_ok_iff] at hdir
  refine ⟨crs, epsg, box, dir, hcrs, hbox, hdir, fun hmeets => ?_⟩
  obtain ⟨v, hv⟩ := List.exists_mem_of_ne_nil _ hvertices
  rw [(rectsIntersectInclusive_iff (hholds v hv)).mpr hmeets] at h
  obtain ⟨acc, hacc, -⟩ := Checks.bind_eq_ok_iff.mp h
  exact Option.isSome_iff_exists.mpr ⟨acc, d8Extent_eq_ok_iff.mp hacc⟩

theorem namesUnreadable_of_d8Crs {e : D8SessionError} (h : d8Crs decl.metadata.crs = .error e) :
    NamesUnreadable session decl index e := by
  rw [d8Crs, Checks.bind_eq_error_iff] at h
  obtain h | ⟨epsg, -, h⟩ := h
  · obtain ⟨-, rfl⟩ := Checks.okOr_eq_error_iff.mp h
    rfl
  · obtain h | ⟨crs, -, h⟩ := Checks.bind_eq_error_iff.mp h
    · obtain ⟨-, rfl⟩ := Checks.okOr_eq_error_iff.mp h
      rfl
    · cases h

theorem namesUnreadable_of_d8Extent {kind : RasterKind} {e : D8SessionError}
    (hkind : (kind, declPath) ∈ [(RasterKind.flowDir, decl.flowDir), (.flowAcc, decl.flowAcc)])
    (h : session.d8Extent index kind declPath = .error e) :
    NamesUnreadable session decl index e := by
  rw [d8Extent, Checks.mapError_eq_error_iff] at h
  obtain ⟨source, -, rfl⟩ := h
  refine ⟨rfl, (kind, declPath), hkind, rfl, ?_⟩
  rw [extentPath]
  cases session.remoteRoot <;> rfl

/-- An error of the search names what cannot be read. -/
theorem namesUnreadable_of_examine {e : D8SessionError}
    (h : session.examine equalEarth terminal decl index = .error e) :
    NamesUnreadable session decl index e := by
  obtain h | ⟨⟨crs, epsg⟩, -, h⟩ := Checks.bind_eq_error_iff.mp h
  · exact namesUnreadable_of_d8Crs h
  · dsimp only at h
    split at h
    · cases h
    · obtain h | ⟨dir, -, h⟩ := Checks.bind_eq_error_iff.mp h
      · exact namesUnreadable_of_d8Extent (by simp) h
      · split at h
        · cases h
        · obtain h | ⟨acc, -, h⟩ := Checks.bind_eq_error_iff.mp h
          · exact namesUnreadable_of_d8Extent (by simp) h
          · cases h

/-- The search over readable declarations. -/
theorem search_of_readable (hvertices : exteriorVertices terminal ≠ [])
    (decls : List (D8RasterDeclaration × ℕ))
    (hreadable : ∀ decl ∈ decls, session.Readable equalEarth terminal decl.1) :
    ∃ coverages, session.search equalEarth terminal decls = .ok (.inr coverages) ∧
      List.Forall₂ (fun decl coverage =>
        coverage.Describes session equalEarth terminal decl.1 decl.2) decls coverages := by
  induction decls with
  | nil => exact ⟨[], rfl, .nil⟩
  | cons decl decls ih =>
    obtain ⟨decl, index⟩ := decl
    obtain ⟨hdecl, hdecls⟩ := List.forall_mem_cons.mp hreadable
    obtain ⟨coverage, hcoverage, hdescribes⟩ := examine_of_readable hvertices index hdecl
    obtain ⟨coverages, hcoverages, hrest⟩ := ih hdecls
    refine ⟨coverage :: coverages, ?_, .cons hdescribes hrest⟩
    rw [search, hcoverage, Checks.ok_bind]
    dsimp only
    rw [hcoverages]
    rfl

/-- The search stops at the first declaration that cannot be read. -/
theorem search_of_not_readable (hvertices : exteriorVertices terminal ≠ [])
    {before after : List (D8RasterDeclaration × ℕ)}
    (hbefore : ∀ decl ∈ before, session.Readable equalEarth terminal decl.1)
    (hdecl : ¬session.Readable equalEarth terminal decl) :
    ∃ e, NamesUnreadable session decl index e ∧
      session.search equalEarth terminal (before ++ (decl, index) :: after) = .error e := by
  induction before with
  | nil =>
    cases h : session.examine equalEarth terminal decl index with
    | ok found => exact absurd (readable_of_examine hvertices h) hdecl
    | error e =>
      refine ⟨e, namesUnreadable_of_examine h, ?_⟩
      rw [List.nil_append, search, h]
      rfl
  | cons first before ih =>
    obtain ⟨hfirst, hrest⟩ := List.forall_mem_cons.mp hbefore
    obtain ⟨coverage, hcoverage, -⟩ := examine_of_readable hvertices first.2 hfirst
    obtain ⟨e, hnames, he⟩ := ih hrest
    refine ⟨e, hnames, ?_⟩
    rw [List.cons_append, search, hcoverage, Checks.ok_bind]
    dsimp only
    rw [he]
    rfl

/-- The first covering declaration is the first one with a handle. -/
theorem findSome?_covering {decls : List D8RasterDeclaration} {n : ℕ} {coverages : List Coverage}
    (h : List.Forall₂ (fun decl coverage =>
      coverage.Describes session equalEarth terminal decl.1 decl.2) (decls.zipIdx n) coverages)
    (selected : D8RasterHandle × MultiPolygon) :
    coverages.findSome? Coverage.covering = some selected ↔
      ∃ before decl after, decls = before ++ decl :: after ∧
        (∀ d ∈ before, ¬session.Covers equalEarth terminal d) ∧
        session.Covers equalEarth terminal decl ∧
        session.Selects equalEarth terminal decl (n + before.length) selected := by
  induction decls generalizing n coverages with
  | nil =>
    obtain rfl := List.forall₂_nil_left_iff.mp h
    simp
  | cons decl decls ih =>
    obtain ⟨coverage, coverages, hdecl, hdecls, rfl⟩ := List.forall₂_cons_left_iff.mp h
    specialize ih hdecls
    by_cases hcovers : session.Covers equalEarth terminal decl
    · have ⟨crs, epsg, _, _, hcrs, _⟩ := hcovers
      have hselects : session.Selects equalEarth terminal decl n
        (session.d8Handle n decl crs epsg, projectTerminal equalEarth terminal crs) :=
        ⟨crs, epsg, hcrs, rfl⟩
      rw [List.findSome?_cons, (hdecl.covering_iff _).mpr ⟨hcovers, hselects⟩]
      dsimp only
      constructor
      · rintro h
        obtain rfl := Option.some.inj h
        exact ⟨[], decl, decls, rfl, by simp, hcovers, hselects⟩
      · rintro ⟨before, d, after, hsplit, hbefore, -, hselected⟩
        cases before with
        | nil =>
          obtain ⟨rfl, rfl⟩ := List.cons.inj hsplit
          obtain ⟨crs', epsg', hcrs', rfl⟩ := hselected
          obtain ⟨rfl, rfl⟩ := Prod.mk.inj (Except.ok.inj (hcrs.symm.trans hcrs'))
          rfl
        | cons d' before =>
          obtain ⟨rfl, -⟩ := List.cons.inj hsplit
          exact absurd hcovers (hbefore _ (by simp))
    · have hnone : coverage.covering = none :=
        Option.eq_none_iff_forall_ne_some.mpr fun found hfound =>
          hcovers ((hdecl.covering_iff found).mp hfound).1
      rw [List.findSome?_cons, hnone, ih]
      constructor
      · rintro ⟨before, d, after, rfl, hbefore, hd, hselected⟩
        refine ⟨decl :: before, d, after, rfl, List.forall_mem_cons.mpr ⟨hcovers, hbefore⟩, hd, ?_⟩
        rwa [List.length_cons, Nat.add_comm before.length, ← Nat.add_assoc]
      · rintro ⟨before, d, after, hsplit, hbefore, hd, hselected⟩
        cases before with
        | nil =>
          obtain ⟨rfl, rfl⟩ := List.cons.inj hsplit
          exact absurd hd hcovers
        | cons d' before =>
          obtain ⟨rfl, rfl⟩ := List.cons.inj hsplit
          refine ⟨before, d, after, rfl, fun x hx => hbefore x (.tail _ hx), hd, ?_⟩
          rwa [List.length_cons, Nat.add_comm before.length, ← Nat.add_assoc] at hselected

/-- The meeting declarations, in their order. -/
theorem indices_intersecting {decls : List D8RasterDeclaration} {n : ℕ} {coverages : List Coverage}
    (h : List.Forall₂ (fun decl coverage =>
      coverage.Describes session equalEarth terminal decl.1 decl.2) (decls.zipIdx n) coverages) :
    (((coverages.filter Coverage.intersecting).map Coverage.candidate).map
        D8NativeCoverageCandidate.declarationIndex).Pairwise (· < ·) ∧
      ∀ i, i ∈ ((coverages.filter Coverage.intersecting).map Coverage.candidate).map
          D8NativeCoverageCandidate.declarationIndex ↔
        ∃ decl, (decl, i) ∈ decls.zipIdx n ∧ session.Meets equalEarth terminal decl := by
  induction decls generalizing n coverages with
  | nil =>
    obtain rfl := List.forall₂_nil_left_iff.mp h
    simp
  | cons decl decls ih =>
    obtain ⟨coverage, coverages, hdecl, hdecls, rfl⟩ := List.forall₂_cons_left_iff.mp h
    obtain ⟨hpairwise, hmem⟩ := ih hdecls
    have hzip : ∀ i, (∃ d, (d, i) ∈ (decl :: decls).zipIdx n ∧
        session.Meets equalEarth terminal d) ↔
          (i = n ∧ session.Meets equalEarth terminal decl) ∨
            ∃ d, (d, i) ∈ decls.zipIdx (n + 1) ∧ session.Meets equalEarth terminal d := by
      intro i
      simp only [List.zipIdx_cons, List.mem_cons, Prod.mk.injEq, or_and_right, exists_or]
      refine or_congr_left ⟨?_, fun ⟨hi, hmeets⟩ => ⟨decl, ⟨rfl, hi⟩, hmeets⟩⟩
      rintro ⟨d, ⟨rfl, hi⟩, hmeets⟩
      exact ⟨hi, hmeets⟩
    by_cases hmeets : session.Meets equalEarth terminal decl
    · rw [List.filter_cons_of_pos (hdecl.intersecting_iff.mpr hmeets), List.map_cons,
        List.map_cons, hdecl.index_eq]
      refine ⟨List.pairwise_cons.mpr ⟨fun i hi => ?_, hpairwise⟩, fun i => ?_⟩
      · obtain ⟨d, hd, -⟩ := (hmem i).mp hi
        exact (List.mem_zipIdx hd).1
      · rw [List.mem_cons, hmem, hzip, and_iff_left hmeets]
    · rw [List.filter_cons_of_neg (mt hdecl.intersecting_iff.mp hmeets)]
      refine ⟨hpairwise, fun i => ?_⟩
      rw [hmem, hzip, or_iff_right fun h => hmeets h.2]

theorem chooseD8Raster_eq_ok_iff {coverages : List Coverage}
    (hbounds : ∀ coverage ∈ coverages, ∀ selected, coverage.covering = some selected →
      (boundingRect selected.2).isSome) (selected : D8RasterHandle × MultiPolygon) :
    chooseD8Raster coverages = .ok selected ↔
      coverages.findSome? Coverage.covering = some selected := by
  rw [← List.head?_filterMap, chooseD8Raster]
  split
  · next found h => rw [h, List.head?_cons, Except.ok.injEq, Option.some.injEq]
  · next found rest _ h =>
    have hmem : found ∈ coverages.filterMap Coverage.covering := h ▸ List.mem_cons_self
    obtain ⟨coverage, hcoverage, hfound⟩ := List.mem_filterMap.mp hmem
    rw [h, List.head?_cons, Option.some.injEq, if_pos (hbounds coverage hcoverage found hfound),
      Except.ok.injEq]
  · next h =>
    rw [h, List.head?_nil]
    refine iff_of_false ?_ (by simp)
    dsimp only
    split_ifs <;> simp

theorem selectD8RasterForTerminal_of_not_readable (hvertices : exteriorVertices terminal ≠ [])
    {before after : List D8RasterDeclaration} (hsplit : session.d8Rasters = before ++ decl :: after)
    (hbefore : ∀ d ∈ before, session.Readable equalEarth terminal d)
    (hdecl : ¬session.Readable equalEarth terminal decl) :
    ∃ e, NamesUnreadable session decl before.length e ∧
      session.selectD8RasterForTerminal equalEarth terminal = .error e := by
  obtain ⟨e, hnames, he⟩ := @search_of_not_readable session equalEarth terminal decl before.length
    hvertices before.zipIdx (after.zipIdx (before.length + 1))
    (fun d hd => hbefore d.1 (List.fst_mem_of_mem_zipIdx hd)) hdecl
  refine ⟨e, hnames, ?_⟩
  have hdecls : session.d8Rasters ≠ [] := by simp [hsplit]
  rw [selectD8RasterForTerminal, if_neg hdecls, hsplit, List.zipIdx_append, List.zipIdx_cons,
    Nat.zero_add, he]
  rfl

/-- Where all declarations can be read, the choice is among all of them. -/
theorem selectD8RasterForTerminal_of_readable (hvertices : exteriorVertices terminal ≠ [])
    (hdecls : session.d8Rasters ≠ [])
    (hreadable : ∀ decl ∈ session.d8Rasters, session.Readable equalEarth terminal decl) :
    ∃ coverages, session.selectD8RasterForTerminal equalEarth terminal = chooseD8Raster coverages ∧
      List.Forall₂ (fun decl coverage =>
        coverage.Describes session equalEarth terminal decl.1 decl.2)
        session.d8Rasters.zipIdx coverages := by
  obtain ⟨coverages, hsearch, hdescribes⟩ := search_of_readable hvertices session.d8Rasters.zipIdx
    fun d hd => hreadable d.1 (List.fst_mem_of_mem_zipIdx hd)
  refine ⟨coverages, ?_, hdescribes⟩
  rw [selectD8RasterForTerminal, if_neg hdecls, hsearch]
  rfl

theorem selectD8RasterForTerminal_eq_ok_iff (hvertices : exteriorVertices terminal ≠ [])
    {selected : D8RasterHandle × MultiPolygon} :
    session.selectD8RasterForTerminal equalEarth terminal = .ok selected ↔
      (∀ decl ∈ session.d8Rasters, session.Readable equalEarth terminal decl) ∧
        ∃ before decl after, session.d8Rasters = before ++ decl :: after ∧
          (∀ d ∈ before, ¬session.Covers equalEarth terminal d) ∧
          session.Covers equalEarth terminal decl ∧
          session.Selects equalEarth terminal decl before.length selected := by
  by_cases hdecls : session.d8Rasters = []
  · rw [selectD8RasterForTerminal, if_pos hdecls]
    simp [hdecls]
  by_cases hreadable : ∀ decl ∈ session.d8Rasters, session.Readable equalEarth terminal decl
  · obtain ⟨coverages, hchoose, hdescribes⟩ :=
      selectD8RasterForTerminal_of_readable hvertices hdecls hreadable
    rw [and_iff_right hreadable, hchoose, chooseD8Raster_eq_ok_iff, findSome?_covering hdescribes]
    · simp only [Nat.zero_add]
    · intro coverage hcoverage found hfound
      obtain ⟨d, -, hd⟩ := Checks.exists_of_mem_forall₂ hdescribes hcoverage
      obtain ⟨-, crs, epsg, -, rfl⟩ := (hd.covering_iff found).mp hfound
      obtain ⟨box, hbox, -⟩ := @exists_boundingRect equalEarth terminal hvertices crs
      rw [hbox, Option.isSome_some]
  · obtain ⟨before, decl, after, hsplit, hbefore, hdecl⟩ := Checks.exists_first_not hreadable
    obtain ⟨e, -, he⟩ :=
      selectD8RasterForTerminal_of_not_readable hvertices hsplit hbefore hdecl
    rw [he]
    exact iff_of_false (by simp) fun h => hreadable h.1

theorem selectD8RasterForTerminal_of_not_covers (hvertices : exteriorVertices terminal ≠ [])
    (hdecls : session.d8Rasters ≠ [])
    (hnone : ∀ decl ∈ session.d8Rasters, session.Readable equalEarth terminal decl ∧
      ¬session.Covers equalEarth terminal decl) :
    ∃ (indices : List ℕ) (candidates : List D8NativeCoverageCandidate),
      indices.Pairwise (· < ·) ∧
      (∀ i, i ∈ indices ↔
        ∃ decl, session.d8Rasters[i]? = some decl ∧ session.Meets equalEarth terminal decl) ∧
      session.selectD8RasterForTerminal equalEarth terminal
        = .error (if 1 < indices.length then .terminalSpansD8Tiles indices candidates
          else .noCoveringD8Tile candidates) := by
  obtain ⟨coverages, hchoose, hdescribes⟩ := selectD8RasterForTerminal_of_readable hvertices hdecls
    fun decl hdecl => (hnone decl hdecl).1
  obtain ⟨hpairwise, hmem⟩ := indices_intersecting hdescribes
  have hempty : coverages.filterMap Coverage.covering = [] := by
    refine List.filterMap_eq_nil_iff.mpr fun coverage hcoverage => ?_
    obtain ⟨d, hd, hdescribes⟩ := Checks.exists_of_mem_forall₂ hdescribes hcoverage
    refine Option.eq_none_iff_forall_ne_some.mpr fun found hfound => ?_
    exact (hnone d.1 (List.fst_mem_of_mem_zipIdx hd)).2
      ((hdescribes.covering_iff found).mp hfound).1
  rw [hchoose, chooseD8Raster, hempty]
  dsimp only
  generalize (coverages.filter Coverage.intersecting).map Coverage.candidate = intersecting
    at hpairwise hmem ⊢
  have hindices : ∀ i, i ∈ intersecting.map D8NativeCoverageCandidate.declarationIndex ↔
      ∃ decl, session.d8Rasters[i]? = some decl ∧ session.Meets equalEarth terminal decl := by
    simpa only [List.mem_zipIdx_iff_getElem?] using hmem
  by_cases hmany : 1 < intersecting.length
  · refine ⟨_, intersecting, hpairwise, hindices, ?_⟩
    rw [List.length_map, if_pos hmany, if_pos hmany]
  · refine ⟨_, coverages.map Coverage.candidate, hpairwise, hindices, ?_⟩
    rw [List.length_map, if_neg hmany, if_neg hmany]

/-- **The choice is exact.** For a terminal with vertices, what is selected is the first declaration
that covers it, with the terminal in its coordinates, and only if all declarations can be read.
Where none covers it, the error lists the declarations it meets, if these are several. Else, the
error names the first declaration that cannot be read. -/
theorem selectD8RasterForTerminal_exact (hvertices : exteriorVertices terminal ≠ [])
    (hdecls : session.d8Rasters ≠ []) :
    (∀ selected, session.selectD8RasterForTerminal equalEarth terminal = .ok selected ↔
      (∀ decl ∈ session.d8Rasters, session.Readable equalEarth terminal decl) ∧
        ∃ before decl after, session.d8Rasters = before ++ decl :: after ∧
          (∀ d ∈ before, ¬session.Covers equalEarth terminal d) ∧
          session.Covers equalEarth terminal decl ∧
          session.Selects equalEarth terminal decl before.length selected) ∧
    ((∀ decl ∈ session.d8Rasters, session.Readable equalEarth terminal decl ∧
        ¬session.Covers equalEarth terminal decl) →
      ∃ (indices : List ℕ) (candidates : List D8NativeCoverageCandidate),
        indices.Pairwise (· < ·) ∧
        (∀ i, i ∈ indices ↔
          ∃ decl, session.d8Rasters[i]? = some decl ∧ session.Meets equalEarth terminal decl) ∧
        session.selectD8RasterForTerminal equalEarth terminal
          = .error (if 1 < indices.length then .terminalSpansD8Tiles indices candidates
            else .noCoveringD8Tile candidates)) ∧
    (∀ before decl after, session.d8Rasters = before ++ decl :: after →
      (∀ d ∈ before, session.Readable equalEarth terminal d) →
      ¬session.Readable equalEarth terminal decl →
        ∃ e, NamesUnreadable session decl before.length e ∧
          session.selectD8RasterForTerminal equalEarth terminal = .error e) :=
  ⟨fun _ => selectD8RasterForTerminal_eq_ok_iff hvertices,
    selectD8RasterForTerminal_of_not_covers hvertices hdecls,
    fun _ _ _ => selectD8RasterForTerminal_of_not_readable hvertices⟩

/-- Two raster pairs: the first meets a terminal, the second covers it. -/
def twoTiles : D8Session where
  root := "/data"
  remoteRoot := none
  d8Rasters := [⟨⟨"a/dir.tif", "a/acc.tif"⟩, ⟨"EPSG:4326", .esri, .cells⟩⟩,
    ⟨⟨"b/dir.tif", "b/acc.tif"⟩, ⟨"EPSG:4326", .esri, .cells⟩⟩]
  header path := .ok ⟨4, 4, [0x3ff0000000000000, 0x3ff0000000000000, 0],
    [0, 0, 0, if path.toList.contains 'b' then 0 else 0x4000000000000000, 0x4010000000000000, 0]⟩

/-- A terminal in the second tile. -/
def westernTerminal : MultiPolygon :=
  [.new [⟨1, 1⟩, ⟨3, 1⟩, ⟨3, 3⟩] []]

/-- The first tile does not cover the terminal. -/
theorem selectD8RasterForTerminal_twoTiles : ∃ selected before decl after,
    twoTiles.selectD8RasterForTerminal ⟨id, .ok⟩ westernTerminal = .ok selected ∧
    twoTiles.d8Rasters = before ++ decl :: after ∧ before.length = 1 ∧
    (∀ d ∈ before, ¬twoTiles.Covers ⟨id, .ok⟩ westernTerminal d) ∧
    twoTiles.Covers ⟨id, .ok⟩ westernTerminal decl := by
  have hindex : (twoTiles.selectD8RasterForTerminal ⟨id, .ok⟩ westernTerminal).toOption.map
      (·.1.declarationIndex) = some 1 := by decide +kernel
  obtain ⟨selected, hselected, hindex⟩ := Option.map_eq_some_iff.mp hindex
  rw [Checks.toOption_eq_some_iff] at hselected
  obtain ⟨-, before, decl, after, hdecls, hbefore, hcovers, _, _, -, rfl⟩ :=
    ((@selectD8RasterForTerminal_exact twoTiles ⟨id, .ok⟩ westernTerminal (by decide)
      (by decide)).1 selected).mp hselected
  exact ⟨_, before, decl, after, hselected, hdecls, hindex, hbefore, hcovers⟩

end D8Session

end WatershedDelineation
