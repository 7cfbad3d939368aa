import Segmentation.Bench
import Segmentation.Descriptor.Limit
import Segmentation.Kernel.Command
import Segmentation.Machine.Trace
import Segmentation.Proofs.ActiveSegments
import Segmentation.Proofs.Descriptor
import Segmentation.Proofs.Descriptor.Debug
import Segmentation.Proofs.Descriptor.EffectiveLimit
import Segmentation.Proofs.Descriptor.Fields
import Segmentation.Proofs.Descriptor.Layout
import Segmentation.Proofs.Descriptor.Text
import Segmentation.Proofs.Flags
import Segmentation.Proofs.Kernel.Boot
import Segmentation.Proofs.Kernel.Console
import Segmentation.Proofs.Kernel.History
import Segmentation.Proofs.Kernel.Order
import Segmentation.Proofs.Kernel.Output
import Segmentation.Proofs.Loader.Remembers
import Segmentation.Proofs.Loader.Tapped
import Segmentation.Proofs.Machine
import Segmentation.Proofs.Message
import Segmentation.Proofs.Record
import Segmentation.Proofs.Selector
import Segmentation.Proofs.Serial
import Segmentation.Proofs.Serial.Pacing
import Segmentation.Proofs.Table.Accept
import Segmentation.Proofs.Table.Action
import Segmentation.Proofs.Table.Bulk
import Segmentation.Proofs.Table.Decision
import Segmentation.Proofs.Table.Extent
import Segmentation.Proofs.Table.Filling
import Segmentation.Proofs.Table.Invariant
import Segmentation.Proofs.Table.KernelMade
import Segmentation.Proofs.Table.KernelSegments
import Segmentation.Proofs.Table.LastWrite
import Segmentation.Proofs.Table.LifeCycle
import Segmentation.Proofs.Table.Mixing
import Segmentation.Proofs.Table.Moment
import Segmentation.Proofs.Table.Pushed
import Segmentation.Proofs.Table.Reachable
import Segmentation.Proofs.Table.ReadBack
import Segmentation.Proofs.Table.Refusal
import Segmentation.Proofs.Table.Registers
import Segmentation.Proofs.Table.Replay
import Segmentation.Proofs.Table.Selectable
import Segmentation.Proofs.Table.Sharing
import Segmentation.Proofs.Table.Sparing
import Segmentation.Proofs.Table.Text
import Segmentation.Proofs.Table.WellFormed
import Segmentation.Proofs.Text.Numeral
import Segmentation.Proofs.Workspace.Loads
import Segmentation.Proofs.Workspace.Step
import Segmentation.Workspace
