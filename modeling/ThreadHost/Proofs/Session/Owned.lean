import ThreadHost.Proofs.Scenario.Lawful
import ThreadHost.Proofs.Session.Opening
/-!
# Sessions keep their links

Whatever is done with a session short of closing it, the link that it owns stays the same
(`asking_owning`, `runEvery_owning`).
-/

namespace ThreadHost.Session

open Act (Law)

/-- The link stays the same. -/
def owning : Law Session := Law.keeping fun session => session.link

/-- No access to the streams changes the link, nor does it open or close a stream. -/
theorem exchanging_openness : Exchanging (Law.keeping fun session => session.openness) where
  write command data session := by
    rw [perform_writeFor]
    split
    · rfl
    · split <;> rfl
  read command session := by
    have tried : session.tried.openness = session.openness := by
      unfold Session.tried Wire.tried
      split <;> rfl
    rw [perform_readRaw]
    split <;> exact tried
  notify := obeyed_notify (fun _ _ _ _ => rfl) fun _ _ => rfl
  count _ _ _ := rfl
  truncated _ _ := rfl
  deviceError _ _ _ := rfl
  severalLines _ _ := rfl

/-- Nor does an operation that only asks. -/
theorem asking_openness : Asking (Law.keeping fun session => session.openness) :=
  exchanging_openness.asking (fun _ _ => rfl) (fun _ _ _ => rfl) (fun _ => rfl) fun _ _ => rfl

/-- In particular the link stays the same. -/
theorem exchanging_owning : Exchanging owning where
  write command data session := congrArg Prod.fst (exchanging_openness.write command data session)
  read command session := congrArg Prod.fst (exchanging_openness.read command session)
  notify direction line session :=
    congrArg Prod.fst (exchanging_openness.notify direction line session)
  count _ _ _ := rfl
  truncated _ _ := rfl
  deviceError _ _ _ := rfl
  severalLines _ _ := rfl

theorem asking_owning : Asking owning :=
  exchanging_owning.asking (fun _ _ => rfl) (fun _ _ _ => rfl) (fun _ => rfl) fun _ _ => rfl

/-- Nor does anything that scenarios do. -/
theorem runEvery_owning (dataset : Dataset) (timeout : Except Fault Float) :
    owning.Obeyed (Scenario.runEvery dataset timeout) :=
  Scenario.obeyed_runEvery (fun _ kept => kept) asking_owning
    (exchanging_owning.factoryReset fun _ _ => rfl) (asking_owning.join dataset fun _ => rfl)
    timeout

end ThreadHost.Session
