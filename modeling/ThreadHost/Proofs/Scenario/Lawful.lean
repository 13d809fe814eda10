import ThreadHost.Proofs.Scenario.Run
import ThreadHost.Proofs.Session.Lawful
/-!
# What scenarios obey

A law of what operations consist of is a law of all scenarios, if it does not look at how acts end:
the failure that ends the body of a scenario goes into the report.
-/

namespace ThreadHost.Scenario

open Act (Law)

variable {law : Law Session}

/-- What the operations of a session obey, scenarios obey. -/
theorem acting_of_asking (asking : Session.Asking law) (resets : law.Obeyed Session.factoryReset)
    {dataset : Dataset} (joins : law.Obeyed (Session.join dataset))
    (timeout : Except Fault Float) : Acting (law.ofPart Underway.state) dataset timeout where
  resets := obeyed_onState resets
  joins := obeyed_onState joins
  asks := obeyed_onState asking.getState
  looksUp := obeyed_onState (asking.getOffMeshAddress _)
  stops := obeyed_onState (asking.executeAll _)
  waits roles := (Law.obeyed_ofFault fun fault _ underway => asking.plain fault underway.state).bind
    fun _ => obeyed_onState (asking.waitForState roles _)
  notes _ _ := obeyed_report _

/-- And so does a run of all of them. -/
theorem obeyed_runEvery (blind : law.Blind) (asking : Session.Asking law)
    (resets : law.Obeyed Session.factoryReset) {dataset : Dataset}
    (joins : law.Obeyed (Session.join dataset)) (timeout : Except Fault Float) :
    law.Obeyed (runEvery dataset timeout) := by
  refine Law.obeyed_mapM _ fun scenario listed session => ?_
  have course := (acting_of_asking asking resets joins timeout).body (fun _ => obeyed_report _)
    (obeyed_report _) listed (scenario.fresh session)
  exact blind _ course

end ThreadHost.Scenario
