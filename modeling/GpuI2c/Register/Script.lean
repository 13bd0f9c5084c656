import GpuI2c.Register.Access

/-!
# Register scripts

What a user may ask of the register access layer, one call after another.
-/

namespace GpuI2c.Register

/-- A call of the register access layer. -/
inductive Call where
  | read (register : UInt32)
  | write (register value : UInt32)
  | update (register : UInt32) (fields : List Field)
  | set (register initial : UInt32) (fields : List Field)
  | get (register : UInt32) (fields : List Field)
  | wait (register : UInt32) (field : Field) (attempts micros : Nat)

/-- What a call answers. -/
inductive Reply where
  | done
  | value (raw : UInt32)
  | fields (raw : UInt32) (found : List Field)
  | awaited (result : Except WaitTimeout UInt32)

namespace Call

/-- The register that a call is about. -/
def register : Call → UInt32
  | .read register | .write register _ | .update register _ | .set register _ _
  | .get register _ | .wait register _ _ _ => register

/-- Make a call. -/
def perform : Call → Program Reply
  | .read register => do
    let raw ← Register.read register
    return .value raw
  | .write register value => do
    Register.write register value
    return .done
  | .update register fields => do
    let written ← Register.update register fields
    return .value written
  | .set register initial fields => do
    let written ← Register.set register initial fields
    return .value written
  | .get register fields => do
    let (raw, found) ← Register.get register fields
    return .fields raw found
  | .wait register field attempts micros => do
    let result ← Register.wait register field attempts micros
    return .awaited result

/-- Make calls in order. -/
def performAll : List Call → Program (List Reply)
  | [] => return []
  | call :: rest => do
    let reply ← call.perform
    let replies ← performAll rest
    return reply :: replies

end Call

end GpuI2c.Register
