import AlertLedger.Failure
import AlertLedger.Notice.Event

/-!
# Channels

A notifier tells an event to each of its enabled channels, in the order in which they were
registered; a channel that fails does not keep the event from the next one. Announcing an alert
succeeds when every enabled channel delivers, and names those that do not otherwise. A notifier
that is switched off tells nobody anything, and that is no failure.

The telling is given twice. Where each channel answers for itself, `Notifier.announce` says at once
what comes of it. Where the answer may hang on all that has been handed out before (`Reception`),
the event is handed to one channel after the other, and each step adds to this history
(`Notifier.dispatch`).
-/

namespace AlertLedger

/-! ## 1. Channels that answer for themselves -/

/-- A way to tell someone about an event. -/
structure Channel where
  name : String
  isEnabled : Bool
  /-- What comes of sending an event. -/
  send : Event → Except ChannelError Unit

/-- The channels that events go to. -/
inductive Notifier where
  | off
  | over (channels : List Channel)

/-- What came of telling one channel. -/
structure Delivery where
  channel : String
  result : Except ChannelError Unit

/-- A delivery that failed, as a text. -/
def Delivery.failure? (d : Delivery) : Option String :=
  match d.result with
  | .ok () => none
  | .error e => some (d.channel ++ ": " ++ e.message)

namespace Notifier

/-- The channels that get events, in order of registration. -/
def enabled : Notifier → List Channel
  | .off => []
  | .over channels => channels.filter (·.isEnabled)

/-- Whether anyone gets events. -/
def hasChannels (n : Notifier) : Bool := n.enabled ≠ []

/-- How many channels get events. -/
def channelCount (n : Notifier) : Nat := n.enabled.length

/-- What comes of telling an event to everyone, channel by channel. -/
def tell (n : Notifier) (e : Event) : List Delivery :=
  n.enabled.map fun c => ⟨c.name, c.send e⟩

/-- What deliveries come to together. -/
def verdict (ds : List Delivery) : Except NotifyError Unit :=
  match ds.filterMap Delivery.failure? with
  | [] => .ok ()
  | failures => .error (.delivery failures)

/-- What comes of announcing an alert. -/
def announce (n : Notifier) (a : Alert) : Except NotifyError Unit :=
  verdict (n.tell (.ofAlert a))

@[simp] theorem enabled_off : enabled .off = [] := rfl

@[simp] theorem announce_off (a : Alert) : announce .off a = .ok () := rfl

@[simp] theorem length_tell (n : Notifier) (e : Event) : (n.tell e).length = n.channelCount := by
  simp [tell, channelCount]

end Notifier

/-! ## 2. The telling, step by step -/

/-- An event handed to a channel. -/
structure Sending where
  channel : Channel
  event : Event

/-- What comes of the last of all sendings so far. -/
abbrev Reception := List Sending → Except ChannelError Unit

/-- Hands an event to a channel. -/
def Channel.hand (w : Reception) (c : Channel) (e : Event) :
    StateM (List Sending) (Except ChannelError Unit) := do
  modify (· ++ [⟨c, e⟩])
  return w (← get)

namespace Notifier

/-- Hands an event to one channel after the other, the disabled ones left out. -/
def deliver (w : Reception) (e : Event) : List Channel → StateM (List Sending) (List Delivery)
  | [] => return []
  | c :: cs => do
    if c.isEnabled then
      let result ← c.hand w e
      let later ← deliver w e cs
      return ⟨c.name, result⟩ :: later
    else deliver w e cs

/-- Tells an event to everyone, if there is anyone. -/
def tellAll (w : Reception) (n : Notifier) (e : Event) : StateM (List Sending) (List Delivery) :=
  match n with
  | .off => return []
  | .over channels => if n.hasChannels then deliver w e channels else return []

/-- Announces an alert, if there is anyone to be told, and puts the failures together. -/
def dispatch (w : Reception) (n : Notifier) (a : Alert) :
    StateM (List Sending) (Except NotifyError Unit) := do
  if n.hasChannels then
    let deliveries ← n.tellAll w (.ofAlert a)
    return verdict deliveries
  else return .ok ()

end Notifier

end AlertLedger
