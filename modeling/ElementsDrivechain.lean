import ElementsDrivechain.Anchors.Completeness
import ElementsDrivechain.Anchors.Consistency
import ElementsDrivechain.Anchors.PassSafety
import ElementsDrivechain.Anchors.WorkKept
import ElementsDrivechain.Bmm.Connect
import ElementsDrivechain.Bmm.Retarget
import ElementsDrivechain.Deterministic.Conservation
import ElementsDrivechain.Ecx.Binding
import ElementsDrivechain.Ecx.Envelope
import ElementsDrivechain.Ecx.BondTemplate
import ElementsDrivechain.Ecx.Undo
import ElementsDrivechain.Native.Identity
import ElementsDrivechain.Native.Legacy
import ElementsDrivechain.Parent.Ctip
import ElementsDrivechain.Relay.Peer
import ElementsDrivechain.Replay.History
import ElementsDrivechain.Usdd.Checkpoint
