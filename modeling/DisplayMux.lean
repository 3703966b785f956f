import DisplayMux.Tv.Ownership
import DisplayMux.Tv.Restore
import DisplayMux.Tv.Session
import DisplayMux.Tv.Multiview
import DisplayMux.Tv.Fencing
import DisplayMux.Clipboard.Stream
import DisplayMux.LanMouse.Handoff
import DisplayMux.Clipboard.Confirmation
import DisplayMux.Clipboard.Interference
import DisplayMux.Clipboard.Sessions
import DisplayMux.Clipboard.Cancellation
import DisplayMux.Clipboard.Mirror
import DisplayMux.Clipboard.Bound
import DisplayMux.Clipboard.PeerRegistry
import DisplayMux.Clipboard.Inbound
import DisplayMux.LanMouse.FailClosed
import DisplayMux.Tv.Handout
import DisplayMux.Tv.Handshake
import DisplayMux.Tv.RouteFree
import DisplayMux.Tv.Running
import DisplayMux.Ssap.Response
import DisplayMux.Ssap.Backoff
import DisplayMux.Ssap.Containment
import DisplayMux.LanMouse.Readiness
import DisplayMux.LanMouse.Superseded
import DisplayMux.LanMouse.Datagram
import DisplayMux.Clipboard.Atomic
import DisplayMux.LanMouse.Gate
import DisplayMux.LanMouse.InputEmulation
import DisplayMux.LanMouse.Sides
import DisplayMux.LanMouse.HeldKeys
import DisplayMux.LanMouse.CaptureStream
import DisplayMux.LanMouse.HookThread
import DisplayMux.LanMouse.PointerLock
