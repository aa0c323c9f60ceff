import WindowRelay.AppKit.TextClient
import WindowRelay.Codec.Bits
import WindowRelay.Codec.Event
import WindowRelay.Codec.Window
import WindowRelay.Dispatcher.Keeper
import WindowRelay.Gtk.Window
import WindowRelay.Json.Printer
import WindowRelay.Json.Reader
import WindowRelay.Text.GridLayout
import WindowRelay.Timer.Queue
import WindowRelay.UiThread
import WindowRelay.Win32.Window
import WindowRelay.Proofs.AppKit.Deliveries
import WindowRelay.Proofs.AppKit.Flattened
import WindowRelay.Proofs.Dispatcher.Custody
import WindowRelay.Proofs.Gesture.Tokens
import WindowRelay.Proofs.Gesture.Velocities
import WindowRelay.Proofs.Cancelling
import WindowRelay.Proofs.Relay.ButtonRange
import WindowRelay.Proofs.Relay.Closing
import WindowRelay.Proofs.Relay.ScrollSessions
import WindowRelay.Proofs.Text.Legality
import WindowRelay.Proofs.Text.Relative
import WindowRelay.Proofs.Text.Replacing
import WindowRelay.Proofs.Text.Reporting
import WindowRelay.Proofs.Text.Scanning
import WindowRelay.Proofs.Timer.Waking
import WindowRelay.Proofs.Toolkits
import WindowRelay.Proofs.Wheels
import WindowRelay.Proofs.Win32.Buttons
import WindowRelay.Proofs.Win32.Compositions
import WindowRelay.Proofs.Win32.Coordinates
