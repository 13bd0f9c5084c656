import GpuI2c.Engine.Session

/-!
# Exchanges in a session

What adapters do with the engine: one write or one read, each a transaction of its own, and the
session that goes around all the exchanges of a transfer. A transfer that fails in the course of its
exchanges closes its session; one that finds a request refused is left on the spot, and its session
is given up.
-/

namespace GpuI2c.Engine

open Bus (BusError Message Payload Request)

/-! ## Single exchanges -/

/-- Write bytes to a device in one transaction. -/
def exchangeWrite (engine : Engine) (address : UInt8) (data : List UInt8) (more : Bool) :
    Program (Except BusError Unit) := do
  let (result, _) ← engine.transact? (Request.write address data more)
  return result

/-- Read from a device in one transaction. Returns the buffer as well, filled if the transaction
succeeded and as it was otherwise. -/
def exchangeRead (engine : Engine) (address : UInt8) (buffer : List UInt8) (more : Bool) :
    Program (Except BusError Unit × List UInt8) := do
  match ← engine.transact? (Request.read address buffer more) with
  | (result, some (.read filled)) => return (result, filled)
  | (result, _) => return (result, buffer)

/-- Do the request of a message. Returns the message as well, its buffer filled if it is a read that
succeeded. -/
def exchange (engine : Engine) (message : Message) (request : Request) :
    Program (Except BusError Unit × Message) := do
  let (result, payload) ← engine.transact request
  return (result, message.withPayload payload)

/-! ## Whole sessions -/

/-- How what is done in a session ends early. -/
inductive Stop where
  /-- It is left on the spot. -/
  | left (error : BusError)
  /-- It has failed. -/
  | failed (error : BusError)
  deriving DecidableEq

/-- The error behind an early end. -/
def Stop.error : Stop → BusError
  | .left error | .failed error => error

/-- End a session: it is closed, or given up if what was done in it was left on the spot. -/
def endSession (engine : Engine) (session : Session) : Except Stop Unit → Program Unit
  | .error (.left _) => engine.dropSession session
  | .error (.failed _) | .ok () => engine.closeSession session

/-- Open a session, carry out `body` in it, and end it. -/
def inSession {α : Type} (engine : Engine) (body : Program (Except Stop Unit × α)) :
    Program (Except BusError Unit × α) := do
  let session ← engine.openSession
  let (result, value) ← body
  engine.endSession session result
  return (result.mapError Stop.error, value)

end GpuI2c.Engine
