import DebugBridge.Address
import DebugBridge.Frame.Decoder
import DebugBridge.Proofs.Dispatch.Journal
import DebugBridge.Proofs.Dispatch.Parking
import DebugBridge.Setup
import DebugBridge.Proofs.Wire.Framing
import DebugBridge.Proofs.Wire.Buffering
import DebugBridge.Proofs.Wire.Output
import DebugBridge.Proofs.Session.Output
import DebugBridge.Proofs.Wire.Input
import DebugBridge.Proofs.Dispatch.Upcoming
import DebugBridge.Proofs.Session.Reading
import DebugBridge.Proofs.Dispatch.Liveness
import DebugBridge.Proofs.Dispatch.Ending
import DebugBridge.Proofs.Dispatch.Independence
import DebugBridge.Proofs.Session.Spilling
import DebugBridge.Proofs.Session.Settling
import DebugBridge.Proofs.Wire.Requests
import DebugBridge.Proofs.Wire.Pieces
import DebugBridge.Proofs.Handshake
import DebugBridge.Proofs.Session.Acts
import DebugBridge.Proofs.Session.Deeds
import DebugBridge.Proofs.Session.Teardown
import DebugBridge.Proofs.Session.Cutting
import DebugBridge.Proofs.Wire.Conserving
import DebugBridge.Proofs.Dispatch.Registered
import DebugBridge.Proofs.Session.Registration
import DebugBridge.Proofs.Session.Incidents
import DebugBridge.Proofs.Session.Speaking
import DebugBridge.Proofs.Session.Afterwards
import DebugBridge.Proofs.Key.Numerals
import DebugBridge.Proofs.Key.Signing
import DebugBridge.Proofs.Session.Packets
import DebugBridge.Proofs.Key.Montgomery
import DebugBridge.Proofs.Dispatch.Arriving
import DebugBridge.Proofs.Session.Accepting
import DebugBridge.Proofs.Session.Opening
import DebugBridge.Proofs.Session.Handover
import DebugBridge.Proofs.Wire.Decoding
import DebugBridge.Proofs.Text.Utf8
import DebugBridge.Proofs.Text.Parts
import DebugBridge.Proofs.Encoding.Base64
import DebugBridge.Proofs.Key.Files
import DebugBridge.Proofs.Banner
import DebugBridge.Proofs.Session.Supplying
import DebugBridge.Proofs.Path
import DebugBridge.Proofs.Key.Paths
import DebugBridge.Proofs.Client
import DebugBridge.Proofs.Dispatch.Patience
import DebugBridge.Proofs.Session.Patience
import DebugBridge.Proofs.Session.Resuming
import DebugBridge.Proofs.Session.Bounds
