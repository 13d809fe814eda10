import ThreadHost.Session.Basic
/-!
# Opening a session

A session is made on streams that somebody else owns, or on a link that is opened for it. A link
on which no session can be made is closed again; one that nobody was told of, or that is to be
replaced by a link of the caller, stays open.
-/

namespace ThreadHost.Session

/-- What can be chosen for a session. -/
structure Options where
  pollInterval : Setting Seconds := .proper (.real Waiting.defaultInterval)
  padding : Setting Int := .proper 1000

/-- The pause between two checks; what has no number cannot be compared with the time left. -/
def intervalOf (setting : Setting Seconds) : Except Fault Float :=
  match setting.datum.number? with
  | some seconds => .ok seconds.toFloat
  | none => .error (.misuse (.unordered .real setting.datum.kind))

/-- The least number of blank lines behind a factory reset. -/
def leastPadding : Nat := 1000

/-- The number of lines that can be counted. -/
def mostLines : Nat := Nat.pow 2 63

/-- So many blank lines, if they can be written. -/
def writable (platform : Platform) (count : Nat) : Except Fault Nat :=
  if mostLines ≤ count then .error (.misuse .aboveLengths)
  else if !platform.holds count then .error (.misuse .aboveMemory)
  else .ok count

/-- Lines that can be written are as many as were asked for. -/
theorem of_writable_ok {platform : Platform} {count lines : Nat}
    (taken : writable platform count = .ok lines) : lines = count := by
  unfold writable at taken
  split at taken
  · cases taken
  · split at taken
    · cases taken
    · exact (Except.ok.inj taken).symm

/-- How many blank lines follow a factory reset. The outer error is that of a number that a session
does not take; the inner one shows when the lines are to be written. -/
def paddingOf (platform : Platform) (setting : Setting Int) : Except Fault (Except Fault Nat) :=
  let refusal :=
    if setting.isShowable then .paddingCount leastPadding setting.shown else .tooManyDigits
  match setting with
  | .proper count =>
    if count < leastPadding then .error refusal else .ok (writable platform count.toNat)
  | .stray (.truth _) => .error refusal
  | .stray (.real value) =>
    if value < Float.ofNat leastPadding then .error refusal
    else .ok (.error (.misuse (.notRepeated .real)))
  | .stray datum => .error (.misuse (.unordered datum.kind .whole))

/-- A session on a wire, if the options are acceptable. -/
def make (wire : Wire) (options : Options) : Except Fault Session := do
  let padding ← paddingOf wire.host.platform options.padding
  pure { wire with pollInterval := intervalOf options.pollInterval, padding }

/-- A session that is made is new, and on the wire that it is made on. -/
theorem of_make_ok {wire : Wire} {options : Options} {session : Session}
    (made : make wire options = .ok session) :
    ∃ padding, paddingOf wire.host.platform options.padding = .ok padding ∧
      session = { wire with pollInterval := intervalOf options.pollInterval, padding } := by
  unfold make at made
  cases accepted : paddingOf wire.host.platform options.padding with
  | error fault =>
    rw [accepted] at made
    cases made
  | ok padding =>
    rw [accepted] at made
    cases made
    exact ⟨padding, rfl, rfl⟩

/-- A session on streams that somebody else owns. -/
def onStreams (streams : Streams) (options : Options) (host : Host := {}) : Except Fault Session :=
  make { host, streams } options

/-- The names of the options. -/
def optionNames : List String := ["poll_interval_s", "reset_padding_lines"]

/-- The name of the link that a session owns. The opening brings it itself. -/
def linkName : String := "link"

/-- The names of the values that a session has been given by their places. -/
def placedNames : List String := ["self", "reader", "writer"]

/-- What an opening is given for the session: its options, and the names of any further values. -/
structure Given where
  options : Options := {}
  others : List String := []
  further : ∀ name ∈ others, name ∉ optionNames := by decide

/-- What is wrong with a value of a name that a session does not know. -/
def misnamed (name : String) : Misuse :=
  if placedNames.contains name then .givenTwice "Session.__init__" name
  else .notTaken "Session.__init__" name

/-- A session on a wire, if nothing but acceptable options is given. A name shows before the
options are looked at. -/
def makeGiven (wire : Wire) (given : Given) : Except Fault Session :=
  match given.others with
  | [] => make wire given.options
  | name :: _ => .error (.misuse (misnamed name))

/-- Make a session on a link that has just been opened: input that a serial port has received
before is discarded. A second link is refused before anything is there to close the first. -/
def prepare (given : Given) : Act Wire Session := do
  Wire.discardInput.onFailure Wire.close
  if linkName ∈ given.others then Act.refuse (.misuse (.givenTwice "Session._from_link" linkName))
  else
    let wire ← get
    match makeGiven wire given with
    | .ok session => pure session
    | .error fault => (Act.refuse fault : Act Wire Session).onFailure Wire.close

/-- What comes of opening a session. -/
inductive Opening where
  | opened (session : Session)
  /-- No device was asked for. -/
  | refused (failure : Failure)
  /-- The device did not open. -/
  | failed (failure : Failure) (host : Host)
  /-- The device opened, and there is no session on it. -/
  | abandoned (failure : Failure) (wire : Wire)

/-- The operation that opens a session at a place. -/
def opener : Place → String
  | .simulation .. => "Session.open_simulation"
  | .serial .. => "Session.open_serial"

/-- The names of the values that this operation takes itself. -/
def openerNames : Place → List String
  | .simulation .. => ["cls", "node_id", "binary"]
  | .serial .. => ["cls", "port", "baud"]

/-- Open a session on a device at a place, with whatever is given for it. -/
def openGiven (place : Place) (given : Given) (device : Device) (host : Host) : Opening :=
  match given.others.find? (openerNames place).contains with
  | some name => .refused (.plain (.misuse (.givenTwice (opener place) name)))
  | none =>
    match place.openDevice device host with
    | .refused fault => .refused (.plain fault)
    | .failed failure host => .failed failure host
    | .unfinished failure wire => .abandoned failure wire
    | .opened wire =>
      match (prepare given).perform wire with
      | (.ok session, _) => .opened session
      | (.error failure, wire) => .abandoned failure wire

/-- Open a session on a device at a place. -/
def openAt (place : Place) (options : Options) (device : Device) (host : Host) : Opening :=
  openGiven place { options } device host

/-- The place of a simulated device. -/
def simulation (node : Setting Int) (program : Setting String) : Place := .simulation node program 2

/-- The place of a board on a serial port. -/
def serial (port : Setting String) (baud : Setting Int) : Place := .serial port baud none

end ThreadHost.Session
