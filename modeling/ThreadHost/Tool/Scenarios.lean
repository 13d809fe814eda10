import ThreadHost.Config.Location
import ThreadHost.Log.Level
import ThreadHost.Scenario.Catalogue
import ThreadHost.Scenario.Printed
import ThreadHost.Tool.Basic
/-!
# Running the network scenarios

All scenarios run on the device of the settings; the reports are printed after the device was
closed.
-/

namespace ThreadHost.Tool.Scenarios

/-- The command line. -/
def form : CommandLine.Form := ⟨[⟨"--config", .text⟩, ⟨"--verbose", .nothing⟩], false⟩

/-- Failures of the link and rejected values are complained about. -/
def complain (failure : Failure) : Option Complaint :=
  if failure.isLink || failure.isRejection then some (complaint failure) else none

/-- Whether a scenario ended well. -/
def isGood (report : Report) : Bool :=
  report.verdict = .passed || report.verdict = .skipped

/-- The conclusion from the reports. -/
def conclude (reports : List Report) : Conclusion where
  code := if reports.all isGood then 0 else 1
  lines := reports.flatMap Report.lines ++ Summary.lines reports

/-- Run all scenarios with the network of the settings. -/
def work (config : Config) : Act Work Conclusion := do
  let dataset ← onSession (Session.ofDataset config.dataset)
  let reports ← onSession (Scenario.runEvery dataset config.timeout)
  pure (conclude reports)

/-- The log level. -/
def level (config : Config) (verbose : Bool) : Log.Level :=
  if verbose then Log.debugLevel else Log.level config.logging.level.shown

/-- The settings at the path that the command line names, or else at the default one. -/
def settings (files : Files) (fallback : FilePath) (arguments : CommandLine.Arguments) :
    Except Config.LoadError Config := do
  let path ← (arguments.text "--config" fallback.text).require fun datum =>
    Config.LoadError.misuse (.lacks datum.kind.name "exists")
  Config.loadAt files (FilePath.ofText path)

/-- Run the tool. -/
def run (files : Files) (fallback : FilePath) (texts : List String) (device : Device)
    (platform : Platform := {}) : Run :=
  match CommandLine.Arguments.read form texts with
  | .error refusal => { ending := .refused refusal }
  | .ok arguments =>
    match settings files fallback arguments with
    | .error error => { ending := .unreadable error }
    | .ok config =>
      { conduct complain (config.openSession device { platform }) (work config) with
        level := some (level config (arguments.given "--verbose")) }

end ThreadHost.Tool.Scenarios
