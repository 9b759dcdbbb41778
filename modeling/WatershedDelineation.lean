import WatershedDelineation.Assembly.CleanTopology
import WatershedDelineation.Assembly.Dissolve
import WatershedDelineation.Assembly.FinalAssembly
import WatershedDelineation.Assembly.FloatGeometry
import WatershedDelineation.Assembly.StagedAssembly
import WatershedDelineation.Assembly.WatershedAssembly
import WatershedDelineation.Cog.BboxWindow
import WatershedDelineation.Cog.Chunk
import WatershedDelineation.Cog.ChunkSpec
import WatershedDelineation.Cog.Predictors
import WatershedDelineation.Cog.RasterCache
import WatershedDelineation.Cog.RasterCacheKey
import WatershedDelineation.Cog.RemoteSafety
import WatershedDelineation.Cog.RemoteTiff
import WatershedDelineation.Cog.RemoteTileIndex
import WatershedDelineation.Cog.RemoteWindow
import WatershedDelineation.Cog.ResolveTilePlan
import WatershedDelineation.Cog.Stitching
import WatershedDelineation.Cog.TilePlan
import WatershedDelineation.Cog.Window
import WatershedDelineation.Cog.WindowSpec
import WatershedDelineation.Drainage.Delineation
import WatershedDelineation.Drainage.DrainageTree
import WatershedDelineation.Drainage.Graph
import WatershedDelineation.Drainage.Strahler
import WatershedDelineation.Drainage.TerminalReach
import WatershedDelineation.Drainage.Upstream
import WatershedDelineation.Drainage.UpstreamReaches
import WatershedDelineation.Engine.D8Selection
import WatershedDelineation.Engine.D8Strategy
import WatershedDelineation.Engine.Delineate
import WatershedDelineation.Engine.ManifestEngine
import WatershedDelineation.Engine.RefinementMode
import WatershedDelineation.Engine.ValidatedRun
import WatershedDelineation.Export.ExportedFile
import WatershedDelineation.Export.HilbertIndex
import WatershedDelineation.Export.Identity
import WatershedDelineation.Export.OutwardBbox
import WatershedDelineation.Export.RowGroupPlan
import WatershedDelineation.Export.Spatial
import WatershedDelineation.Export.UnitWriter
import WatershedDelineation.Export.Writer
import WatershedDelineation.General.BalancedParts
import WatershedDelineation.General.Binary32
import WatershedDelineation.General.Binary64
import WatershedDelineation.General.Binary64Arith
import WatershedDelineation.General.Binary64Rounding
import WatershedDelineation.General.BinaryCasts
import WatershedDelineation.General.BinaryFormat
import WatershedDelineation.General.BreadthFirst
import WatershedDelineation.General.Checked
import WatershedDelineation.General.Checks
import WatershedDelineation.General.Chunks
import WatershedDelineation.General.ClosedWalk
import WatershedDelineation.General.Comparison
import WatershedDelineation.General.ConflictChecks
import WatershedDelineation.General.ConsecutiveRanges
import WatershedDelineation.General.Crc
import WatershedDelineation.General.EdgeCrossing
import WatershedDelineation.General.EvenOdd
import WatershedDelineation.General.Faulty
import WatershedDelineation.General.FuelLoop
import WatershedDelineation.General.HilbertCurve
import WatershedDelineation.General.Interleaving
import WatershedDelineation.General.LatticeRing
import WatershedDelineation.General.LeastRotation
import WatershedDelineation.General.LinkTree
import WatershedDelineation.General.LittleEndian
import WatershedDelineation.General.Logged
import WatershedDelineation.General.MidCosine
import WatershedDelineation.General.MinBy
import WatershedDelineation.General.OrderedBuffer
import WatershedDelineation.General.OrderedMap
import WatershedDelineation.General.Painting
import WatershedDelineation.General.Polyline
import WatershedDelineation.General.PostOrder
import WatershedDelineation.General.RingNesting
import WatershedDelineation.General.RingWinding
import WatershedDelineation.General.RowGroupScan
import WatershedDelineation.General.RowGroups
import WatershedDelineation.General.RowMajor
import WatershedDelineation.General.Scatter
import WatershedDelineation.General.SingleFlight
import WatershedDelineation.General.SortedMultimap
import WatershedDelineation.General.StrahlerNumber
import WatershedDelineation.General.Tiling
import WatershedDelineation.General.Utf8
import WatershedDelineation.General.Worklist
import WatershedDelineation.Raster.BoundaryRings
import WatershedDelineation.Raster.CanonicalForm
import WatershedDelineation.Raster.CanonicalWkb
import WatershedDelineation.Raster.EvenOddLaw
import WatershedDelineation.Raster.FlowDir
import WatershedDelineation.Raster.Grid
import WatershedDelineation.Raster.Nesting
import WatershedDelineation.Raster.Orientation
import WatershedDelineation.Raster.Plane
import WatershedDelineation.Raster.PlanePolygonize
import WatershedDelineation.Raster.PlaneRaster
import WatershedDelineation.Raster.PointInRing
import WatershedDelineation.Raster.Polygonize
import WatershedDelineation.Raster.PolygonizeSpec
import WatershedDelineation.Raster.Rasterize
import WatershedDelineation.Raster.Refine
import WatershedDelineation.Raster.RefineSpec
import WatershedDelineation.Raster.RingAreas
import WatershedDelineation.Raster.RingAssembly
import WatershedDelineation.Raster.RoundTrip
import WatershedDelineation.Raster.Snap
import WatershedDelineation.Raster.Tiles
import WatershedDelineation.Raster.Trace
import WatershedDelineation.Raster.WindowIndependence
import WatershedDelineation.Raster.WkbEncode
import WatershedDelineation.Reader.BoundingBox
import WatershedDelineation.Reader.CatchmentQueries
import WatershedDelineation.Reader.CatchmentTable
import WatershedDelineation.Reader.ConcurrentQueries
import WatershedDelineation.Reader.ConcurrentScans
import WatershedDelineation.Reader.GraphFile
import WatershedDelineation.Reader.IdIndexFile
import WatershedDelineation.Reader.IdIndexFrame
import WatershedDelineation.Reader.IdIndexRoundTrip
import WatershedDelineation.Reader.ParquetCache
import WatershedDelineation.Reader.SnapBbox
import WatershedDelineation.Reader.SnapMembership
import WatershedDelineation.Reader.SnapQueries
import WatershedDelineation.Resolver.CandidateOrder
import WatershedDelineation.Resolver.Cascade
import WatershedDelineation.Resolver.OutletResolution
import WatershedDelineation.Resolver.Ranking
import WatershedDelineation.Resolver.SearchBox
import WatershedDelineation.Session.ArtifactCache
import WatershedDelineation.Session.ArtifactCacheRuns
import WatershedDelineation.Session.CatchmentIndex
import WatershedDelineation.Session.Dataset
import WatershedDelineation.Session.GraphCatchments
import WatershedDelineation.Session.LocalOpen
import WatershedDelineation.Session.ManifestFile
import WatershedDelineation.Session.RemoteOpen
import WatershedDelineation.Session.RemoteRead
import WatershedDelineation.Session.Reopen
import WatershedDelineation.Session.SnapRefs
import WatershedDelineation.Session.StoredIndex
import WatershedDelineation.Session.ValidationTokens
