import VirtualTouchpad.Control.Client
import VirtualTouchpad.Control.Identity
import VirtualTouchpad.Main
import VirtualTouchpad.Proofs.Sink.Effect
import VirtualTouchpad.Proofs.Touchpad.Trace
import VirtualTouchpad.Proofs.Touchpad.Holding
import VirtualTouchpad.Proofs.Touchpad.Contacts
import VirtualTouchpad.Proofs.Host.Events
import VirtualTouchpad.Proofs.Host.Lifecycle
import VirtualTouchpad.Proofs.Sink.Calls
import VirtualTouchpad.Proofs.Sink.Lifecycle
import VirtualTouchpad.Proofs.Touchpad.Lifecycle
import VirtualTouchpad.Proofs.Sink.Frames
import VirtualTouchpad.Proofs.Sink.Mirror
import VirtualTouchpad.Proofs.Touchpad.Mirror
import VirtualTouchpad.Proofs.Input.Reading
import VirtualTouchpad.Proofs.Sink.Slots
import VirtualTouchpad.Proofs.Sink.Offers
import VirtualTouchpad.Proofs.Touchpad.Steps
import VirtualTouchpad.Proofs.Touchpad.History
import VirtualTouchpad.Proofs.Touchpad.Position
import VirtualTouchpad.Proofs.Touchpad.Buttons
import VirtualTouchpad.Proofs.Touchpad.Frames
import VirtualTouchpad.Proofs.Touchpad.Independence
import VirtualTouchpad.Proofs.Control.Lines
import VirtualTouchpad.Proofs.Service.Stream
import VirtualTouchpad.Proofs.Control.RoundTrip
import VirtualTouchpad.Proofs.Service.Remote
import VirtualTouchpad.Proofs.Service.Interleaving
import VirtualTouchpad.Proofs.Service.Turns
import VirtualTouchpad.Proofs.Service.Shutdown
import VirtualTouchpad.Proofs.Json.Skipping
import VirtualTouchpad.Proofs.Json.Extents
import VirtualTouchpad.Proofs.Service.Identities
import VirtualTouchpad.Proofs.Host.Files
import VirtualTouchpad.Proofs.Host.Locks
import VirtualTouchpad.Proofs.Service.Claims
import VirtualTouchpad.Proofs.Control.Conversation
import VirtualTouchpad.Proofs.Host.Names
import VirtualTouchpad.Proofs.Service.Sockets
import VirtualTouchpad.Proofs.Host.Directories
import VirtualTouchpad.Proofs.Service.Processes
import VirtualTouchpad.Proofs.Service.Exclusion
import VirtualTouchpad.Proofs.Host.Renumbering
import VirtualTouchpad.Proofs.Sink.Renumbering
import VirtualTouchpad.Proofs.Touchpad.Renumbering
import VirtualTouchpad.Proofs.Touchpad.Renewal
import VirtualTouchpad.Proofs.Numeric.Ranges
import VirtualTouchpad.Proofs.Touchpad.Outcomes
import VirtualTouchpad.Proofs.Touchpad.Attaching
import VirtualTouchpad.Proofs.Sink.Unlatched
import VirtualTouchpad.Proofs.Touchpad.Reattaching
import VirtualTouchpad.Proofs.Sink.Refusals
import VirtualTouchpad.Proofs.Sink.Errors
import VirtualTouchpad.Proofs.Sink.Declarations
import VirtualTouchpad.Proofs.Host.Writes
import VirtualTouchpad.Proofs.Sink.Deliveries
import VirtualTouchpad.Proofs.Numeric.Coordinates
import VirtualTouchpad.Proofs.Touchpad.Surface
import VirtualTouchpad.Proofs.Numeric.Detents
import VirtualTouchpad.Proofs.Touchpad.Scrolling
import VirtualTouchpad.Proofs.Touchpad.Naming
import VirtualTouchpad.Proofs.Json.Grammar
import VirtualTouchpad.Proofs.Json.Phrases
import VirtualTouchpad.Proofs.Json.Layouts
import VirtualTouchpad.Proofs.Json.Repetitions
import VirtualTouchpad.Proofs.Touchpad.Configuring
import VirtualTouchpad.Proofs.Control.Fields
import VirtualTouchpad.Proofs.Control.Phrasing
import VirtualTouchpad.Proofs.Service.Phrasing
import VirtualTouchpad.Proofs.Sink.Representation
