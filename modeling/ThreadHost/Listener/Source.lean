import ThreadHost.Host
import ThreadHost.Listener.Basic
/-!
# Event sources

A source numbers every receiver that asks to be attached and hands each event to the receivers
attached at that moment, in the order in which they came. Attaching and detaching may fail; the
source is then as it was, except that a refused receiver has its number nevertheless. An event may
also be handed to any receiver there ever was, even in the course of attaching or detaching one.
-/

namespace ThreadHost

/-- What the callback of a listener does after it took note of an event. -/
inductive Response where
  | nothing
  | fail
  /-- Stop the listener that was called. -/
  | stop
  /-- Stop the listener that was called and start it again. -/
  | restart
  deriving Repr, DecidableEq

/-- An event that reached the callback of a listener. -/
structure Delivery where
  tag : String
  event : String
  deriving Repr, DecidableEq

/-- An event that is handed to the receiver of a number. -/
structure Handout where
  number : Nat
  event : String
  deriving Repr, DecidableEq

/-- What is handed out in the course of attaching or detaching a receiver: ahead of it, and behind
it. -/
structure Meanwhile where
  ahead : List Handout := []
  behind : List Handout := []
  deriving Repr, DecidableEq

/-- How a source and the callbacks behave. -/
structure Source.Behaviour where
  /-- Whether attaching the receiver of this number fails. -/
  attachFails : Nat → Bool := fun _ => false
  /-- Whether detaching fails when it was tried this often before. -/
  detachFails : Nat → Bool := fun _ => false
  /-- What is handed out in the course of attaching the receiver of this number. -/
  whileAttaching : Nat → Meanwhile := fun _ => {}
  /-- What is handed out in the course of detaching when it was tried this often before. -/
  whileDetaching : Nat → Meanwhile := fun _ => {}
  /-- Whether it is refused to detach a receiver that is not attached, rather than passed over. -/
  refusesMissing : Bool := true
  /-- What the callbacks do about an event. -/
  response : String → Response := fun _ => .nothing

/-- A source of events and the listeners that use it. -/
structure Source extends Source.Behaviour where
  /-- The listeners, each tag once. -/
  listeners : List Listener
  /-- Every receiver that asked to be attached, by number. -/
  receivers : List Receiver := []
  /-- The numbers of the attached receivers, in the order in which they came. -/
  attached : List Nat := []
  /-- How often a receiver was to be detached. -/
  detachments : Nat := 0
  /-- What reached the callbacks, oldest first. -/
  deliveries : List Delivery := []

namespace Source

/-- The listener of a tag. -/
def listener? (source : Source) (tag : String) : Option Listener :=
  source.listeners.find? (·.tag = tag)

/-- The source with a listener in the place of the one with its tag. -/
def setListener (source : Source) (listener : Listener) : Source :=
  { source with
    listeners := source.listeners.map fun other =>
      if other.tag = listener.tag then listener else other }

/-- The receiver of a number is this one. -/
def isReceiver (source : Source) (receiver : Receiver) (number : Nat) : Bool :=
  source.receivers[number]? = some receiver

/-- The attached receivers with their numbers, by number. -/
def live (source : Source) : List (Nat × Receiver) :=
  (source.receivers.zipIdx.filter fun entry => source.attached.contains entry.2).map Prod.swap

/-- Whether a receiver is the current one of its listener, so that events which reach it go on to
the callback. -/
def passesOn (source : Source) (receiver : Receiver) : Bool :=
  (source.listener? receiver.tag).any (·.forwards receiver)

/-- The source when the callback of a receiver has taken note of an event. -/
def noted (source : Source) (receiver : Receiver) (event : String) : Source :=
  { source with deliveries := source.deliveries ++ [⟨receiver.tag, event⟩] }

/-- Hand an event to the receiver of a number. A callback does no more than take note of it: one
start or stop is over before the next begins. -/
def hand (source : Source) (handout : Handout) : Source :=
  match source.receivers[handout.number]? with
  | none => source
  | some receiver =>
    if source.passesOn receiver then source.noted receiver handout.event else source

/-- Hand out events, one after another. -/
def handOut (source : Source) (handouts : List Handout) : Source := handouts.foldl hand source

/-- The source when a receiver has got its number. -/
def numbered (source : Source) (receiver : Receiver) : Source :=
  { source with receivers := source.receivers ++ [receiver] }

/-- The source when a receiver was to be detached once more. -/
def tried (source : Source) : Source := { source with detachments := source.detachments + 1 }

/-- The source with other receivers attached. -/
def setAttached (source : Source) (attached : List Nat) : Source := { source with attached }

/-- Give a receiver its number and attach it. -/
def attach (receiver : Receiver) : Act Source Unit := do
  let source ← get
  let number := source.receivers.length
  let course := source.whileAttaching number
  set ((source.numbered receiver).handOut course.ahead)
  if source.attachFails number then Act.refuse (.runtime "register failed")
  modify fun source =>
    (source.setAttached (source.attached ++ [number])).handOut course.behind

/-- Detach a receiver. -/
def detach (receiver : Receiver) : Act Source Unit := do
  let source ← get
  let course := source.whileDetaching source.detachments
  set (source.tried.handOut course.ahead)
  if source.detachFails source.detachments then Act.refuse (.runtime "unregister failed")
  match source.attached.find? (source.isReceiver receiver) with
  | none =>
    if source.refusesMissing then Act.refuse (.runtime "not registered")
    else modify fun source => source.handOut course.behind
  | some number =>
    modify fun source =>
      (source.setAttached (source.attached.erase number)).handOut course.behind

/-- Start the listener of a tag. It counts as listening even when attaching its receiver fails. -/
def start (tag : String) : Act Source Unit := do
  match (← get).listener? tag |>.bind Listener.start? with
  | none => pure ()
  | some (receiver, listener) =>
    modify (·.setListener listener)
    attach receiver

/-- Stop the listener of a tag. Its receiver is invalid from the start, and forgotten only when
it was detached. -/
def stop (tag : String) : Act Source Unit := do
  match (← get).listener? tag |>.bind Listener.stop? with
  | none => pure ()
  | some (receiver, listener) =>
    modify (·.setListener listener)
    detach receiver
    modify (·.setListener listener.release)

/-- What a callback does about an event. -/
def respond (tag event : String) : Response → Act Source Unit
  | .nothing => pure ()
  | .fail => Act.refuse (.runtime s!"callback failed on {event}")
  | .stop => stop tag
  | .restart => do stop tag; start tag

/-- Hand an event to a receiver, which passes it on only while it is the current one of its
listener. -/
def deliver (event : String) (receiver : Receiver) : Act Source Unit := do
  let source ← get
  if source.passesOn receiver then
    set (source.noted receiver event)
    respond receiver.tag event (source.response event)

/-- Hand an event to the receiver of a number, attached or not. -/
def emitTo (number : Nat) (event : String) : Act Source Unit := do
  match (← get).receivers[number]? with
  | none => Act.refuse (.runtime "no such receiver")
  | some receiver => deliver event receiver

/-- Hand an event to everybody who is attached now. The first failure ends it. -/
def emit (event : String) : Act Source Unit := do
  (← get).attached.forM fun number => emitTo number event

/-- What happens between a source and its listeners, as data. -/
inductive Occurrence where
  | start (tag : String)
  | stop (tag : String)
  /-- An event reaches the receiver of a number. -/
  | deliver (number : Nat) (event : String)
  deriving Repr, DecidableEq

/-- Let something happen. -/
def perform : Occurrence → Act Source Unit
  | .start tag => start tag
  | .stop tag => stop tag
  | .deliver number event => emitTo number event

end Source

end ThreadHost
