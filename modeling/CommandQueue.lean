import CommandQueue.Allocator
import CommandQueue.Command
import CommandQueue.CommandList
import CommandQueue.Demo.Arguments
import CommandQueue.Demo.LogFilter
import CommandQueue.Demo.Particle
import CommandQueue.Demo.Simulation
import CommandQueue.Demo.Transcript
import CommandQueue.DescriptorHeap
import CommandQueue.DescriptorRange
import CommandQueue.Device
import CommandQueue.Error
import CommandQueue.Event
import CommandQueue.Fence
import CommandQueue.FenceValue
import CommandQueue.Grid
import CommandQueue.Identity
import CommandQueue.Kernel
import CommandQueue.Kernel.Catalogue
import CommandQueue.Library
import CommandQueue.Main
import CommandQueue.Memory
import CommandQueue.Memory.Bytes
import CommandQueue.Memory.Element
import CommandQueue.Outcome
import CommandQueue.Pattern
import CommandQueue.Pattern.Beginning
import CommandQueue.Pattern.Bracket
import CommandQueue.Pattern.Cursor
import CommandQueue.Pattern.Escape
import CommandQueue.Pattern.Expression
import CommandQueue.Pattern.Group
import CommandQueue.Pattern.Meaning
import CommandQueue.Pattern.Nesting
import CommandQueue.Pattern.Place
import CommandQueue.Pattern.Problem
import CommandQueue.Pattern.Reading
import CommandQueue.Pattern.Repetition
import CommandQueue.Pattern.Report
import CommandQueue.Pattern.Size
import CommandQueue.Pattern.Term
import CommandQueue.Pattern.Trie
import CommandQueue.Pool
import CommandQueue.Queue
import CommandQueue.Queue.Execution
import CommandQueue.Queue.Gpu
import CommandQueue.Queue.Manual
import CommandQueue.Queue.Soft
import CommandQueue.Script.Backend
import CommandQueue.Script.BufferSteps
import CommandQueue.Script.DebugSteps
import CommandQueue.Script.Demonstration
import CommandQueue.Script.DeviceSteps
import CommandQueue.Script.HeapSteps
import CommandQueue.Script.Inquiry
import CommandQueue.Script.ListSteps
import CommandQueue.Script.ManualSteps
import CommandQueue.Script.PipelineSteps
import CommandQueue.Script.PoolSteps
import CommandQueue.Script.Request
import CommandQueue.Script.Run
import CommandQueue.Script.Session
import CommandQueue.Script.Value
import CommandQueue.Text.Blank
import CommandQueue.Text.ByteRange
import CommandQueue.Text.CharacterSet
import CommandQueue.Text.Decimal
import CommandQueue.Text.Duration
import CommandQueue.Text.Fixed
import CommandQueue.Text.Letters
import CommandQueue.Text.Lines
import CommandQueue.Text.Similarity
import CommandQueue.Text.Structural
import CommandQueue.Text.TerminalControl
import CommandQueue.Text.Unprinted
import CommandQueue.Word
import CommandQueue.Proofs.Conduct
import CommandQueue.Proofs.Lending
import CommandQueue.Proofs.FirstFit
import CommandQueue.Proofs.World
import CommandQueue.Proofs.Effect
import CommandQueue.Proofs.Conservation
import CommandQueue.Proofs.Timeline
import CommandQueue.Proofs.Openings
import CommandQueue.Proofs.Fidelity
import CommandQueue.Proofs.Stamps
import CommandQueue.Proofs.Recordings
import CommandQueue.Proofs.Batches
import CommandQueue.Proofs.Replay
import CommandQueue.Proofs.Safety
import CommandQueue.Proofs.Descriptors
import CommandQueue.Proofs.Publication
import CommandQueue.Proofs.BindGroups
import CommandQueue.Proofs.Turns
import CommandQueue.Proofs.Footprints
import CommandQueue.Proofs.Atomicity
import CommandQueue.Proofs.Actions
import CommandQueue.Proofs.Faults
import CommandQueue.Proofs.Lifecycle
import CommandQueue.Proofs.Resolution
import CommandQueue.Proofs.Demand
import CommandQueue.Proofs.Particles
import CommandQueue.Proofs.Interleavings
import CommandQueue.Proofs.Frames
import CommandQueue.Proofs.Copying
import CommandQueue.Proofs.Recasting
import CommandQueue.Proofs.Agreement
import CommandQueue.Proofs.Sweeps
import CommandQueue.Proofs.Overlaps
import CommandQueue.Proofs.TypedAccess
