import NullFlow.Archive.Writer
import NullFlow.Opcode
import NullFlow.Nullity
import NullFlow.Frame
import NullFlow.Offset
import NullFlow.Json.Printer
import NullFlow.Metadata.Decoder
import NullFlow.Contracts
import NullFlow.Report
import NullFlow.Scan
import NullFlow.Main
import NullFlow.Proofs.LiveFrame
import NullFlow.Proofs.StepRelation
import NullFlow.Proofs.Worklist
import NullFlow.Proofs.WorklistBound
import NullFlow.Proofs.Blocks
import NullFlow.Proofs.GraphEdges
import NullFlow.Proofs.MethodFlow
import NullFlow.Proofs.Convergence
import NullFlow.Proofs.Termination
import NullFlow.Proofs.StepEffect
import NullFlow.Proofs.PathSoundness
import NullFlow.Proofs.HandlerCoverage
import NullFlow.Proofs.Schedule
import NullFlow.Proofs.FrameView
import NullFlow.Proofs.Enclosure
import NullFlow.Proofs.OrderIndependence
import NullFlow.Proofs.ContractIndependence
import NullFlow.Proofs.ControlFlow
import NullFlow.Proofs.HandlerEdges
import NullFlow.Proofs.Reachability
import NullFlow.Proofs.KeyedSort
import NullFlow.Proofs.Deduplication
import NullFlow.Proofs.Reporting
import NullFlow.Proofs.StackTests
import NullFlow.Proofs.ArgumentContracts
import NullFlow.Proofs.LiveCode
import NullFlow.Proofs.HandlerStack
import NullFlow.Proofs.UnwrittenSlots
import NullFlow.Proofs.TypeTree
import NullFlow.Proofs.MethodChecks
import NullFlow.Proofs.ArtifactChain
import NullFlow.Proofs.FailureContainment
import NullFlow.Proofs.ResultOrder
import NullFlow.Proofs.ListingOrder
import NullFlow.Proofs.DocumentOrder
import NullFlow.Proofs.ScannedInputs
import NullFlow.Proofs.StepOrder
import NullFlow.Proofs.CallStack
import NullFlow.Proofs.ContractLists
import NullFlow.Proofs.FirstDocument
import NullFlow.Proofs.DanglingReferences
import NullFlow.Proofs.WellFormedGraph
import NullFlow.Proofs.MarkedMembers
import NullFlow.Proofs.StraightLine
import NullFlow.Proofs.FrameLattice
import NullFlow.Proofs.SignatureNames
import NullFlow.Proofs.FileWrites
import NullFlow.Proofs.RegionMarkers
import NullFlow.Proofs.DrawnGraphs
import NullFlow.Proofs.FrameOperations
import NullFlow.Proofs.LoopStages
import NullFlow.Proofs.FrameShapes
import NullFlow.Proofs.FrameText
