import GpuI2c.Engine.Session

/-!
# Engine scripts

What a user may do with an engine, one step after another. At most one session is open at a time:
a step that would open a second one, or that needs a session where none is open, is refused and
reaches no register.
-/

namespace GpuI2c.Engine

open Bus (BusError ChannelStatus Payload Request)

/-- A step of a user of the engine. -/
inductive Step where
  | openSession
  | closeSession
  /-- Give the session up without closing it first. -/
  | dropSession
  | submit (request : Except BusError Request)
  | poll
  | readReply (count : Nat)
  | transact (request : Except BusError Request)
  | log (line : LogLine)
  /-- Read a register of the engine's device, in a session or not. -/
  | peek (register : UInt32)
  /-- Write a register of the engine's device, in a session or not. -/
  | poke (register value : UInt32)

/-- Why a step was refused. -/
inductive Refusal where
  | alreadyOpen
  | notOpen
  deriving DecidableEq

/-- What a step that was not refused answers. -/
inductive Answer where
  | done
  | submitted (result : Except BusError Unit)
  | polled (status : ChannelStatus)
  | received (bytes : List UInt8)
  /-- How a transaction ended, and its payload unless the request was refused when it was made. -/
  | transacted (result : Except BusError Unit) (payload : Option Payload)
  | value (raw : UInt32)

/-- Carry out a step while `session` is open. Returns the session that is open afterwards as well;
closing a session or giving it up uses it up. -/
def performOpen (engine : Engine) (session : Session) :
    Step → Program (Except Refusal Answer × Option Session)
  | .openSession => return (.error .alreadyOpen, some session)
  | .closeSession => do
    engine.closeSession session
    return (.ok .done, none)
  | .dropSession => do
    engine.dropSession session
    return (.ok .done, none)
  | .submit (.error error) => return (.ok (.submitted (.error error)), some session)
  | .submit (.ok request) => do
    let result ← engine.submit request
    return (.ok (.submitted result), some session)
  | .poll => do
    let status ← engine.poll
    return (.ok (.polled status), some session)
  | .readReply count => do
    let bytes ← engine.readReply count
    return (.ok (.received bytes), some session)
  | .transact request => do
    let (result, payload) ← engine.transact? request
    return (.ok (.transacted result payload), some session)
  | .log line => do
    Program.give (.log line)
    return (.ok .done, some session)
  | .peek register => do
    let raw ← Register.read register
    return (.ok (.value raw), some session)
  | .poke register value => do
    Register.write register value
    return (.ok .done, some session)

/-- Carry out a step while no session is open. Returns the session that is open afterwards as
well. -/
def performIdle (engine : Engine) : Step → Program (Except Refusal Answer × Option Session)
  | .openSession => do
    let session ← engine.openSession
    return (.ok .done, some session)
  | .log line => do
    logIdle line.level line.text
    return (.ok .done, none)
  | .peek register => do
    let raw ← Register.read register
    return (.ok (.value raw), none)
  | .poke register value => do
    Register.write register value
    return (.ok .done, none)
  | .closeSession | .dropSession | .submit _ | .poll | .readReply _ | .transact _ =>
    return (.error .notOpen, none)

/-- Carry out a step, given the session that is open. -/
def perform (engine : Engine) :
    Option Session → Step → Program (Except Refusal Answer × Option Session)
  | some session, step => engine.performOpen session step
  | none, step => engine.performIdle step

/-- Carry out steps in order; a session that is still open after the last one stays open. -/
def performAll (engine : Engine) (opened : Option Session) :
    List Step → Program (List (Except Refusal Answer) × Option Session)
  | [] => return ([], opened)
  | step :: rest => do
    let (answer, opened) ← engine.perform opened step
    let (answers, opened) ← engine.performAll opened rest
    return (answer :: answers, opened)

end GpuI2c.Engine
