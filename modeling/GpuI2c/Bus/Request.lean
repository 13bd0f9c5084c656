import GpuI2c.Bus.Error

/-!
# Messages and transaction requests

A bus transfer is a list of messages, each to one device address. A read message carries the
buffer that the transfer fills.

A transaction is an address byte and up to fifteen data bytes in one direction. Its action says
the direction and whether the transfer goes on with another transaction.
-/

namespace GpuI2c.Bus

/-! ## Messages -/

/-- One message of a bus transfer. -/
inductive Message where
  | write (address : UInt8) (data : List UInt8)
  | read (address : UInt8) (buffer : List UInt8)
  deriving DecidableEq

namespace Message

/-- The device that a message is for. -/
def address : Message → UInt8
  | .write address _ => address
  | .read address _ => address

/-- The bytes written, or the buffer to read into. -/
def bytes : Message → List UInt8
  | .write _ data => data
  | .read _ buffer => buffer

/-- The number of bytes of a message. -/
def length (message : Message) : Nat :=
  message.bytes.length

/-- A message without bytes. -/
def isEmpty (message : Message) : Bool :=
  message.length == 0

def isRead : Message → Bool
  | .write .. => false
  | .read .. => true

/-- A read message with other bytes in its buffer; a write message stays as it is. -/
def withBuffer (message : Message) (buffer : List UInt8) : Message :=
  match message with
  | .write .. => message
  | .read address _ => .read address buffer

end Message

/-! ## Requests -/

/-- The actions of a transaction. -/
inductive Action where
  | write
  | read
  | statusRequest
  | writeContinued
  | readContinued
  | statusRequestContinued
  | dpWrite
  | dpRead
  deriving DecidableEq

namespace Action

/-- All actions. -/
def all : List Action :=
  [.write, .read, .statusRequest, .writeContinued, .readContinued, .statusRequestContinued,
   .dpWrite, .dpRead]

/-- The name of an action. -/
def name : Action → String
  | .write => "Write"
  | .read => "Read"
  | .statusRequest => "StatusRequest"
  | .writeContinued => "WriteContinued"
  | .readContinued => "ReadContinued"
  | .statusRequestContinued => "StatusRequestContinued"
  | .dpWrite => "DpWrite"
  | .dpRead => "DpRead"

/-- The code of an action. Bit 4 is set for reads, bit 6 where another transaction follows. -/
def code : Action → UInt8
  | .write => 0x00
  | .read => 0x10
  | .statusRequest => 0x20
  | .writeContinued => 0x40
  | .readContinued => 0x50
  | .statusRequestContinued => 0x60
  | .dpWrite => 0x80
  | .dpRead => 0x90

/-- The action for a direction, followed by another transaction or not. -/
def ofDirection (read more : Bool) : Action :=
  match read, more with
  | false, false => .write
  | false, true => .writeContinued
  | true, false => .read
  | true, true => .readContinued

def isRead (action : Action) : Bool :=
  action.code &&& 0x10 != 0

def isContinued (action : Action) : Bool :=
  action.code &&& 0x40 != 0

end Action

/-- The data of a transaction. -/
inductive Payload where
  | empty
  | write (data : List UInt8)
  /-- The buffer that a read fills. -/
  | read (buffer : List UInt8)
  deriving DecidableEq

/-- The number of data bytes. -/
def Payload.length : Payload → Nat
  | .empty => 0
  | .write data => data.length
  | .read buffer => buffer.length

/-- The most data bytes that one transaction can carry. -/
def maxTransactionLength : Nat := 15

/-- One transaction to be done by the engine. -/
structure Request where
  action : Action
  address : UInt8
  payload : Payload
  deriving DecidableEq

namespace Request

/-- A request to write; refused if the data does not fit one transaction. -/
def write (address : UInt8) (data : List UInt8) (more : Bool) : Except BusError Request :=
  if data.length > maxTransactionLength then .error .invalidInput
  else .ok ⟨.ofDirection false more, address, .write data⟩

/-- A request to read; refused if the buffer does not fit one transaction. -/
def read (address : UInt8) (buffer : List UInt8) (more : Bool) : Except BusError Request :=
  if buffer.length > maxTransactionLength then .error .invalidInput
  else .ok ⟨.ofDirection true more, address, .read buffer⟩

/-- A write of the address alone, to find out whether a device answers. -/
def probe (address : UInt8) : Request :=
  ⟨.write, address, .empty⟩

/-- The request with another payload. The action stays, and no length is checked. -/
def withPayload (request : Request) (payload : Payload) : Request :=
  { request with payload }

/-- The address byte on the wire: the address in the upper seven bits, the direction in bit 0. -/
def addressByte (request : Request) : UInt8 :=
  (request.address <<< 1) ||| (if request.action.isRead then 1 else 0)

/-- The number of data bytes. -/
def length (request : Request) : Nat :=
  request.payload.length

/-- A request without data. -/
def isEmpty (request : Request) : Bool :=
  request.length == 0

end Request

/-! ## Messages as requests -/

/-- The request that does a message; refused if the message does not fit one transaction. -/
def Message.request (message : Message) (more : Bool) : Except BusError Request :=
  match message with
  | .write address data => Request.write address data more
  | .read address buffer => Request.read address buffer more

/-- A message whose request came back with a payload: the buffer of a read is that of the
payload. -/
def Message.withPayload (message : Message) : Payload → Message
  | .read buffer => message.withBuffer buffer
  | .empty | .write _ => message

end GpuI2c.Bus
