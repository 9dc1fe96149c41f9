import BufferSync.Console.Sink
import BufferSync.Main
import BufferSync.Scene
import BufferSync.Proofs.Layouts
import BufferSync.Proofs.Runs
import BufferSync.Proofs.HostRuns
import BufferSync.Proofs.DeviceRuns
import BufferSync.Proofs.ListView
import BufferSync.Proofs.SyncRuns
import BufferSync.Proofs.HostReports
import BufferSync.Proofs.ElementCalls
import BufferSync.Proofs.Creation
import BufferSync.Proofs.Holdings
import BufferSync.Proofs.Marking
import BufferSync.Proofs.SceneMirror
import BufferSync.Proofs.Accounting
import BufferSync.Proofs.Retirement
import BufferSync.Proofs.Settling
import BufferSync.Proofs.Retries
import BufferSync.Proofs.FlushTrace
import BufferSync.Proofs.Dependability
import BufferSync.Proofs.Interruptions
import BufferSync.Proofs.Imprints
import BufferSync.Proofs.Noninterference
import BufferSync.Proofs.Sessions
import BufferSync.Proofs.Upkeep
import BufferSync.Proofs.Breakdowns
import BufferSync.Proofs.Confinement
import BufferSync.Proofs.Candor
import BufferSync.Proofs.Encoding
import BufferSync.Proofs.Disposal
import BufferSync.Proofs.Frames
import BufferSync.Proofs.MergeLaw
import BufferSync.Proofs.Counts
import BufferSync.Proofs.Touches
import BufferSync.Proofs.Binding
import BufferSync.Proofs.Contents
import BufferSync.Proofs.ActiveAllocation
import BufferSync.Proofs.PartialWrites
import BufferSync.Proofs.Growth
import BufferSync.Proofs.WordSpans
import BufferSync.Proofs.Arguments
import BufferSync.Proofs.Wardens
import BufferSync.Proofs.Teardown
