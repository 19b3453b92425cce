/-
Module: ClassOrder.Message
Purpose: Messages about source text, how a message is put together before it is delivered, and a
  plain inbox that keeps what it receives.
Main exports: Message, Message.begin, Message.write, Message.sameHeader, Message.adoptHeader,
  Message.deliver, Inbox
-/
import ClassOrder.Location
import ClassOrder.Severity

namespace ClassOrder

/-- A text with a severity, about some place. -/
structure Message where
  severity : Severity
  location : Location := .nowhere
  text : String
deriving Inhabited, DecidableEq

namespace Message

/-- An error that is about no particular place. -/
def error (text : String) : Message :=
  { severity := .error, text := text }

/-- A progress note that is about no particular place. -/
def status (text : String) : Message :=
  { severity := .status, text := text }

/-! ### Messages under construction

The severity and the location of a message are its header. A message starts with a header and no
text, collects text, and is delivered when the scope that opened it ends. -/

/-- Open a message with no text yet. -/
def begin (severity : Severity) (location : Location) : Message :=
  { severity := severity, location := location, text := "" }

/-- Add text at the end. -/
def write (message : Message) (text : String) : Message :=
  { message with text := message.text ++ text }

/-- Open another message with the same header. Text already written is not copied. -/
def sameHeader (message : Message) : Message :=
  begin message.severity message.location

/-- Take over the header of another message and keep the text written so far. -/
def adoptHeader (message other : Message) : Message :=
  { message with severity := other.severity, location := other.location }

/-- Messages are delivered when their scopes end, so the one opened last comes first. -/
def deliver (opened : List Message) : List Message :=
  opened.reverse

end Message

/-! ### A plain inbox -/

/-- A receiver that keeps every message and counts no errors. -/
structure Inbox where
  received : List Message := []
deriving Inhabited, DecidableEq

namespace Inbox

/-- Take a message. -/
def receive (inbox : Inbox) (message : Message) : Inbox :=
  { received := inbox.received ++ [message] }

/-- An inbox counts no errors, whatever it received. -/
def errors (_ : Inbox) : Nat := 0

/-- There are no counts to clear, and the messages stay. -/
def reset (inbox : Inbox) : Inbox := inbox

end Inbox

end ClassOrder
