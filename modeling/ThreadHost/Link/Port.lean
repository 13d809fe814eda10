import ThreadHost.Streams
/-!
# Boards on a serial port

The port is both streams at once.
-/

namespace ThreadHost.Port

/-- Discard what has already been received. -/
def discardInput (port : Port) : Act Wire Unit := do
  Wire.call .discardInput
  Wire.raise port.discardFailure
  modify fun wire => { wire with streams := wire.streams.discard port.stale }

/-- Close the port, unless it is closed. -/
def close (port : Port) : Act Wire Unit := do
  if port.isOpen then
    Wire.call .closePort
    Wire.setLink (.port { port with isOpen := false })
    Wire.closeInput
    Wire.closeOutput
    Wire.raise port.closeFailure

end ThreadHost.Port
