import ContractRollout.Config.Settings

/-!
# Sessions with a chain

A session is the list of everything exchanged with the outside: requests to the LCD
endpoint, commands of the node, pauses and printed lines. What the outside answers is
given as a function of how often it was asked before, so every sequence of answers is
covered and a session is determined by them.

The HTTP library, the command runner and the clock are parameters. Of the first two only
the outcomes are known, those of `Reply` and `CommandOutcome`, and the clock always waits.
-/

namespace ContractRollout

/-- What comes of a request. -/
inductive Reply where
  /-- There was no answer, for the reason given. -/
  | failed (reason : String)
  /-- A status and the text of a body. Which text the bytes of a body stand for is left to
  the HTTP library, so any text may come; bytes that stand for none count as a text that
  spells no value. -/
  | answered (status : Int) (body : String)
  deriving DecidableEq, Repr

/-- What comes of a command. These are all the outcomes that the command runner has: it
takes any arguments, also such as no system would pass on to a program, and what a program
prints is text. -/
inductive CommandOutcome where
  | succeeded (output : String)
  /-- The command ended in failure; either of its outputs may be missing. -/
  | exited (complaint output : Option String)
  | notFound
  | denied
  deriving DecidableEq, Repr

/-- Something that happens in a session. -/
inductive Event where
  | request (url : String) (reply : Reply)
  | command (arguments : List Json) (outcome : CommandOutcome)
  | pause (length : Number)
  | line (text : String)

/-- How the outside behaves. Both functions are arbitrary, so what is proved for all
surroundings holds whatever the endpoint and the command runner do. -/
structure Surroundings where
  /-- The reply to a request for a URL after a number of earlier ones for it. -/
  lcd : String → Nat → Reply
  /-- The outcome of a command after a number of earlier ones. -/
  cli : Nat → CommandOutcome

/-- A session so far. -/
structure Session where
  /-- The chain id, once it is known. -/
  chainId : Option Json := none
  events : List Event := []

/-- A part of a session. -/
abbrev ChainAction := EStateM Fault Session

namespace Event

def isRequestFor (url : String) : Event → Bool
  | request asked _ => asked = url
  | _ => false

def isCommand : Event → Bool
  | command .. => true
  | _ => false

def url? : Event → Option String
  | request url _ => some url
  | _ => none

def arguments? : Event → Option (List Json)
  | command arguments _ => some arguments
  | _ => none

def pause? : Event → Option Number
  | pause length => some length
  | _ => none

/-- The text of a printed line. -/
def line? : Event → Option String
  | line text => some text
  | _ => none

end Event

namespace Session

def add (session : Session) (event : Event) : Session :=
  { session with events := session.events ++ [event] }

end Session

def sendRequest (surroundings : Surroundings) (url : String) : ChainAction Reply := do
  let earlier := (← get).events.countP (·.isRequestFor url)
  let reply := surroundings.lcd url earlier
  modify (·.add (.request url reply))
  return reply

/-- Give arguments to the command runner. Its outcome is one of those of `CommandOutcome`
whatever the arguments are. -/
def runCommand (surroundings : Surroundings) (arguments : List Json) :
    ChainAction CommandOutcome := do
  let earlier := (← get).events.countP (·.isCommand)
  let outcome := surroundings.cli earlier
  modify (·.add (.command arguments outcome))
  return outcome

/-- Wait before going on. The clock that waits is a parameter which never fails, so all
there is to know of a pause is its length. -/
def pause (length : Number) : ChainAction Unit := modify (·.add (.pause length))

def printLine (text : String) : ChainAction Unit := modify (·.add (.line text))

/-- A session whose output goes on by a line. -/
def Session.print (text : String) (session : Session) : Session := session.add (.line text)

end ContractRollout
