import GpuI2c.Adapter.Exchange
import GpuI2c.Chip.Family

/-!
# Direct adapters

A direct adapter does each message as one transaction of the engine, all but the last marked as
continued. The first failure ends the transfer; messages after it are not done. A message that
does not fit one transaction is refused before any register is reached.
-/

namespace GpuI2c

open Bus (BusError Message maxTransactionLength)

/-- An adapter that does every message as one transaction. -/
structure DirectAdapter where
  engine : Engine
  profile : Chip.Profile
  deriving DecidableEq

namespace DirectAdapter

/-- Do the messages from `index` on, of `count` in all, inside an open session. Returns the
messages with the buffers that were filled. A message whose request is refused ends it without a
log line. -/
def exchangeAll (adapter : DirectAdapter) (count index : Nat) :
    List Message → Program (Except Engine.Stop Unit × List Message)
  | [] => return (.ok (), [])
  | message :: rest =>
    match message.request (!rest.isEmpty) with
    | .error error => return (.error (.left error), message :: rest)
    | .ok request => do
      let (result, message) ← adapter.engine.exchange message request
      match result with
      | .error error =>
        Program.log .debug
          ("message " ++ toString index ++ " of " ++ toString count ++ " failed: " ++ error.message)
        return (.error (.failed error), message :: rest)
      | .ok () =>
        let (result, rest) ← adapter.exchangeAll count (index + 1) rest
        return (result, message :: rest)

/-- Run messages as one bus transfer. Returns the number of messages, or why the transfer failed,
and the messages with the buffers that were filled. -/
def transfer (adapter : DirectAdapter) (messages : List Message) :
    Program (Except BusError Nat × List Message) :=
  if messages.any fun message => message.length > maxTransactionLength then
    return (.error .invalidInput, messages)
  else do
    let (result, filled) ←
      adapter.engine.inSession (adapter.exchangeAll messages.length 0 messages)
    return (result.map fun () => messages.length, filled)

end DirectAdapter

end GpuI2c
