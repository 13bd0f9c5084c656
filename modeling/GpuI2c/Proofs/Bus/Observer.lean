import GpuI2c.Chip.Family
import GpuI2c.Proofs.Engine.Acts
import GpuI2c.Proofs.Register.Batch

/-!
# The bus behind the registers

An observer who sees only register accesses can tell which transactions the engine was made to do.
Each write of GO starts one. Its direction and byte count are those of the transaction register, its
address byte is the one in slot 0 of the buffer, and its data are the bytes put into the slots after
it. The status values and data words read from then on belong to it.

What one act tells the observer is stated for every kind of act on the registers of a known block.
These are pairwise different, so each act is told apart from the others by its register.
-/

namespace GpuI2c

open Register (Batch Field)
open Bus (Request)

namespace Bus

/-! ## Transactions -/

/-- What the engine is to put on the wire: the address byte, the direction, the number of data
bytes, and the bytes sent. -/
structure Wire where
  address : UInt8
  isRead : Bool
  count : Nat
  bytes : List UInt8
  deriving DecidableEq

/-- A transaction that was started, with the status values and data words read after its start. -/
structure Transaction extends Wire where
  statuses : List UInt32 := []
  words : List UInt32 := []
  deriving DecidableEq

/-- How a transaction ended. -/
def Transaction.status (transaction : Transaction) : ChannelStatus :=
  .settled transaction.statuses

/-- The bytes in the data words that were read. -/
def Transaction.reply (transaction : Transaction) : List UInt8 :=
  transaction.words.map fun word => (Chip.data.extract word).toUInt8

/-- What a request asks for. -/
def Request.wire (request : Request) : Wire where
  address := request.addressByte
  isRead := request.action.isRead
  count := request.length
  bytes := request.payload.outgoing

/-! ## The observer -/

/-- What an observer of the registers knows. -/
structure Observer where
  /-- The last word written to the transaction register. -/
  setup : UInt32 := 0
  /-- The byte last put into slot 0. -/
  address : UInt8 := 0
  /-- The bytes put into slots since then, the last one first. -/
  slots : List (UInt32 × UInt8) := []
  /-- The transactions started so far, the last one first. -/
  started : List Transaction := []

namespace Observer

/-- The transaction that GO would start now. -/
def wire (observer : Observer) : Wire where
  address := observer.address
  isRead := Chip.readWrite.extract observer.setup == 1
  count := (Chip.count.extract observer.setup).toNat
  bytes := (List.range (Chip.count.extract observer.setup).toNat).filterMap fun place =>
    observer.slots.lookup (UInt32.ofNat (place + 1))

/-- A word written to the data register: the byte of slot 0 begins a new buffer. -/
def fill (observer : Observer) (word : UInt32) : Observer :=
  let slot := Chip.index.extract word
  let byte := (Chip.data.extract word).toUInt8
  if slot = 0 ∧ Chip.indexWrite.extract word = 1 then
    { observer with address := byte, slots := [] }
  else { observer with slots := (slot, byte) :: observer.slots }

/-- Change the transaction that was started last. -/
def amend (observer : Observer) (change : Transaction → Transaction) : Observer :=
  match observer.started with
  | [] => observer
  | last :: earlier => { observer with started := change last :: earlier }

/-- What one act tells the observer. -/
def step (block : Chip.RegisterBlock) (observer : Observer) : Act → Observer
  | .write register word =>
    if register = block.transaction then { observer with setup := word }
    else if register = block.data then observer.fill word
    else if register = block.control ∧ Chip.go.extract word = 1 then
      { observer with started := { toWire := observer.wire } :: observer.started }
    else observer
  | .read register word =>
    if register = block.status then
      observer.amend fun last => { last with statuses := last.statuses ++ [word] }
    else if register = block.data then
      observer.amend fun last => { last with words := last.words ++ [word] }
    else observer
  | .pause _ => observer

/-- What acts tell the observer, one after the other. -/
def observe (block : Chip.RegisterBlock) (observer : Observer) (acts : List Act) : Observer :=
  acts.foldl (step block) observer

@[simp] theorem observe_nil (block : Chip.RegisterBlock) (observer : Observer) :
    observer.observe block [] = observer := rfl

@[simp] theorem observe_cons (block : Chip.RegisterBlock) (observer : Observer) (act : Act)
    (acts : List Act) :
    observer.observe block (act :: acts) = (observer.step block act).observe block acts := rfl

@[simp] theorem observe_append (block : Chip.RegisterBlock) (observer : Observer)
    (as bs : List Act) :
    observer.observe block (as ++ bs) = (observer.observe block as).observe block bs :=
  List.foldl_append

end Observer

end Bus

/-- The transactions that the events of a run show, in order. -/
def transactionsOf (block : Chip.RegisterBlock) (events : List Event) : List Bus.Transaction :=
  (({} : Bus.Observer).observe block (actsOf events)).started.reverse

/-- GO never read as set. -/
def GoReadsClear (block : Chip.RegisterBlock) (acts : List Act) : Prop :=
  ∀ raw ∈ valuesRead block.control acts, Chip.go.extract raw = 0

instance (block : Chip.RegisterBlock) (acts : List Act) : Decidable (GoReadsClear block acts) :=
  List.decidableBAll (fun raw => Chip.go.extract raw = 0) (valuesRead block.control acts)

theorem goReadsClear_append {block : Chip.RegisterBlock} {as bs : List Act} :
    GoReadsClear block (as ++ bs) ↔ GoReadsClear block as ∧ GoReadsClear block bs := by
  rw [GoReadsClear, valuesRead_append, List.forall_mem_append]
  rfl

namespace Bus.Observer

/-! ## Single acts -/

variable {block : Chip.RegisterBlock} {observer : Observer}

theorem step_write_transaction (word : UInt32) :
    observer.step block (.write block.transaction word) = { observer with setup := word } := by
  simp [step]

theorem step_write_data (hblock : block.Known) (word : UInt32) :
    observer.step block (.write block.data word) = observer.fill word := by
  have hne := hblock.nodup
  grind [step]

theorem step_write_go (hblock : block.Known) {word : UInt32} (h : Chip.go.extract word = 1) :
    observer.step block (.write block.control word) =
      { observer with started := { toWire := observer.wire } :: observer.started } := by
  have hne := hblock.nodup
  grind [step]

theorem step_write_control (hblock : block.Known) {word : UInt32} (h : Chip.go.extract word = 0) :
    observer.step block (.write block.control word) = observer := by
  have hne := hblock.nodup
  grind [step]

/-- Writes of the other registers tell the observer nothing. -/
theorem step_write_other (hblock : block.Known) {register : UInt32} (word : UInt32)
    (h : register = block.interruptControl ∨ register = block.speed ∨
      register = block.pinSelection) :
    observer.step block (.write register word) = observer := by
  have hne := hblock.nodup
  grind [step]

theorem step_read_status (raw : UInt32) :
    observer.step block (.read block.status raw) =
      observer.amend fun last => { last with statuses := last.statuses ++ [raw] } := by
  simp [step]

theorem step_read_data (hblock : block.Known) (raw : UInt32) :
    observer.step block (.read block.data raw) =
      observer.amend fun last => { last with words := last.words ++ [raw] } := by
  have hne := hblock.nodup
  grind [step]

/-- Reads of the other registers tell the observer nothing. -/
theorem step_read_other (hblock : block.Known) {register : UInt32} (raw : UInt32)
    (h : register = block.control ∨ register = block.interruptControl ∨ register = block.speed ∨
      register = block.transaction ∨ register = block.pinSelection) :
    observer.step block (.read register raw) = observer := by
  have hne := hblock.nodup
  grind [step]

end Bus.Observer

end GpuI2c
