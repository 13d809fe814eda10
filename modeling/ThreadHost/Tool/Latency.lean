import ThreadHost.Decimal.Fixed
import ThreadHost.Statistics.Sample
import ThreadHost.Tool.Basic
/-!
# Measuring answer times

The role of the device is asked for again and again; the time that each answer took, in
milliseconds, goes into the figures printed at the end.
-/

namespace ThreadHost.Tool.Latency

/-- The command line. -/
def form : CommandLine.Form := ⟨deviceOptions ++ [⟨"--count", .whole⟩], false⟩

/-- Errors of the device, failed assertions and rejected values are complained about alike. -/
def complain (failure : Failure) : Option Complaint :=
  if failure.isLink || failure.isAssertion || failure.isRejection then some (complaint failure)
  else none

/-- Ask for the role once: how long it took, in milliseconds. -/
def measureOnce : Act Work Float := do
  let start := (← get).session.host.clock
  discard (onSession Session.getState)
  pure (((← get).session.host.clock - start) * 1000)

/-- Measure until a number of answers is reached, latest time first. Every tenth is reported. -/
def measure (count : Int) : Nat → List Float → Act Work (List Float)
  | 0, times => pure times
  | left + 1, times => do
    let times := (← measureOnce) :: times
    if times.length % 10 = 0 then print s!"  {times.length}/{count} completed..."
    measure count left times

/-- A figure in milliseconds. -/
def figure (name : String) (value : Float) : String :=
  "  " ++ name ++ ": " ++ Decimal.fixed 3 value ++ " ms"

/-- The counters of a session. -/
def counters (stats : Stats) : String :=
  let pair := fun (name : String) (count : Nat) => "'" ++ name ++ "': " ++ toString count
  "\x7b" ++ ", ".intercalate [
    pair "commands_tx" stats.commandsSent,
    pair "lines_rx" stats.linesReceived,
    pair "prompt_lines" stats.promptLines,
    pair "protocol_errors" stats.deviceErrors] ++ "\x7d"

/-- The figures of a sample that need no deviation. -/
def figures (times ascending : List Float) : List String := [
  figure "Mean RTT" (Statistics.mean times),
  figure "Median RTT" (Statistics.median ascending),
  figure "Min RTT" (Statistics.least times),
  figure "Max RTT" (Statistics.greatest times)]

/-- The deviation of a sample. Of times without bound there is no square root to be taken, and the
root may be above all doubles. -/
def deviation (times : List Float) : Except Fault Float :=
  match Statistics.deviation? times with
  | none => .error (.misuse (.lacks Datum.Kind.real.name "numerator"))
  | some deviation =>
    if deviation.isInf then .error (.misuse .quotientAboveDoubles) else .ok deviation

/-- Print the figures of a sample. Without a member there is no mean, and the deviation needs two. -/
def printFigures (times : List Float) : Act Work Unit := do
  if times = [] then Act.refuse .noSamples
  let ascending := Statistics.sorted times
  (figures times ascending).forM print
  if 1 < times.length then
    print (figure "Std Dev" (← Act.ofFault (deviation times)))
  print (figure "P95" (Statistics.percentile 0.95 ascending))

/-- How many steps are made for a count; there are no steps for what is no whole number. -/
def stepsOf (count : Setting Int) : Except Fault Int :=
  count.require fun datum => .misuse (.notCounted datum.kind)

/-- Measure and print the figures. -/
def work (count : Setting Int) : Act Work Conclusion := do
  print ("Benchmarking " ++ count.shown ++ " state queries...")
  let count ← Act.ofFault (stepsOf count)
  let times := (← measure count count.toNat []).reverse
  print ""
  print "Results:"
  printFigures times
  print ("  Stats: " ++ counters (← get).session.stats)
  pure {}

/-- How often the role is asked for, unless told otherwise. -/
def defaultCount : Int := 100

/-- Run the tool. -/
def run (texts : List String) (device : Device) (platform : Platform := {}) : Run :=
  onDevice form complain
    (fun arguments => work (arguments.whole "--count" defaultCount)) texts device platform

end ThreadHost.Tool.Latency
