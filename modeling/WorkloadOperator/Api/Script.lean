import WorkloadOperator.Api.Publisher
import WorkloadOperator.Pass.Basic

/-!
# Scripts

A script stands for a cluster whose answers are written down beforehand.  It
answers the messages in turn, and keeps them for those who want to see what was
sent.  A script that has come to its end fails every further message.
-/

namespace WorkloadOperator

namespace Api

/-- One answer of a script. -/
inductive Line where
  /-- This answer. -/
  | fixed (answer : Response)
  /-- The body of the message, with a status. -/
  | echo (status : Nat)

/-- A script, with what has happened so far. -/
structure Script where
  /-- The answers that are left. -/
  rest : List Line := []
  /-- The messages in order. -/
  sent : List Message := []
  /-- Who publishes events. -/
  publisher : Publisher

namespace Script

/-- The octets of a text. -/
def octets (text : String) : List UInt8 := text.toUTF8.toList

/-- The answer after the end of a script. -/
def exhausted : Response := .answered 500 (octets "no scripted response")

/-- The answer that a line gives to a message with this body. -/
def speak (body : Option Json) : Line → Response
  | .fixed answer => answer
  | .echo status => .answered status (octets ((body.map bodyText).getD ""))

/-- The answer to a message whose body reads like this, and the script after it. -/
def sendAs (body : Option Json) (m : Message) (s : Script) : Response × Script :=
  match s.rest with
  | [] => (exhausted, { s with sent := s.sent ++ [m] })
  | l :: rest => (speak body l, { s with rest, sent := s.sent ++ [m] })

/-- The answer to a message, and the script after it. -/
def send (m : Message) : Script → Response × Script := sendAs (m.body.map Prod.snd) m

/-- The answer to a message with the object of an event, and the script after it.
By then the times in it are known. -/
def sendEvent (m : Message) : Script → Response × Script :=
  sendAs (m.body.map fun b => Publisher.dated b.2) m

/-- Publish an event. -/
def publish (e : Event) (s : Script) : Script :=
  let (publisher, s) := s.publisher.publish sendEvent e s
  { s with publisher }

/-- What a pass runs against if a script stands for the cluster. -/
def surroundings (c : Client) : Pass.Surroundings Script where
  serve := c.serve send
  isCancelled _ := false
  publish := publish

end Script

end Api

end WorkloadOperator
