/-!
# Warnings and faults — what can go wrong

The relay is total: misuse and native noise are tolerated, and reported as warnings.  A `Warning`
is the cause; `Warning.message` is its wording.

A `Fault` is the reason why an operation had to be abandoned half-way.  After one the state it
worked on is not to be relied on.  Arithmetic follows a build that checks for overflow: where an
input can make a result leave its machine type, the operation ends in a fault.  The one exception is
the bit of a `MouseButton`, of which `WindowRelay.Pointer` says more; the serial numbers of timers
start over by their own rule.
-/

namespace WindowRelay

/-! ## Warnings -/

inductive Warning
  | invalidLineHeight
  | lostDoubleClick
  | capabilityDropped
  | closedWithOpenCapabilities
  | invocationDropped
  | timerQueueFull
  | controlCharacterRefused
  | compositionOverridden
  | boundsOutsideRange
  | unknownMouseButton
  | missingButtonNumber
  | unknownExtendedButton
  | zeroDpi
  /-- A text request of the native toolkit, named by it, that found no text to work on. -/
  | noTextContext (request : String)
  deriving DecidableEq, Repr

def Warning.message : Warning → String
  | .invalidLineHeight =>
      "ignoring invalid line height"
  | .lostDoubleClick =>
      "double click reported without a preceding press; the click is lost"
  | .capabilityDropped =>
      "capability dropped without release or cancel"
  | .closedWithOpenCapabilities =>
      "window closed with capabilities still outstanding"
  | .invocationDropped =>
      "invocation dropped without firing or cancelling"
  | .timerQueueFull =>
      "timer queue is full"
  | .controlCharacterRefused =>
      "rejecting inserted text containing a control character"
  | .compositionOverridden =>
      "inserting at an explicit range while composing; dropping the composition"
  | .boundsOutsideRange =>
      "slice_bounds returned an end outside the range"
  | .unknownMouseButton =>
      "ignoring unknown mouse button"
  | .missingButtonNumber =>
      "ignoring button event without a button number"
  | .unknownExtendedButton =>
      "ignoring unknown extended button"
  | .zeroDpi =>
      "ignoring zero DPI"
  | .noTextContext request =>
      "received `" ++ request ++ "` without a text input context"

/-! ## Faults -/

inductive Fault
  /-- An offset is past the end or inside a character, or two offsets are out of order. -/
  | offBoundary
  /-- A difference of offsets is below zero. -/
  | negativeOffset
  /-- A distance in pixels does not fit a signed 32-bit number. -/
  | pixelOverflow
  /-- The clock has no instant that late. -/
  | clockOverflow
  deriving DecidableEq, Repr

end WindowRelay
