import ThreadHost.Streams
/-!
# Simulated devices

A simulated device is a child process; its standard input and output are the streams. Closing the
link ends the child: it is asked to terminate, and killed when it does not.
-/

namespace ThreadHost.Process

/-- Whether a failure belongs to the operating system. -/
def isSystemFailure : Failure → Bool
  | .plain fault => fault.isSystem
  | _ => false

/-- End the child unless it has ended: the process that remains, and the calls this takes. A child
that ignores the request is killed after the grace period. -/
def stop (process : Process) : Process × List Call :=
  match process.returnCode with
  | some _ => (process, [.poll])
  | none =>
    let request := [.poll, .terminate, .wait (some process.terminateTimeout)]
    if process.ignoresTerminate then
      ({ process with returnCode := some (-9) }, request ++ [.kill, .wait none])
    else ({ process with returnCode := some (-15) }, request)

/-- Stop the child and release its pipes. A system fault while closing the input means that the
child has closed it already and is passed over; any other failure leaves the child alone. -/
def close (process : Process) : Act Wire Unit := do
  Wire.call .closeInput
  Wire.closeInput
  match process.inputCloseFailure with
  | some failure => unless isSystemFailure failure do throw failure
  | none => pure ()
  let (process, calls) := process.stop
  calls.forM Wire.call
  Wire.setLink (.process process)
  Wire.call .closeOutput
  Wire.closeOutput
  Wire.raise process.outputCloseFailure

end ThreadHost.Process
