import GpuI2c.Register.Field

/-!
# The fields of the I2C engine

The layout of the eight registers of the I2C engine. It is the same on every chip family; only
the place of the registers differs. Each field is listed with the value zero; `Field.holding`
gives it another one.
-/

namespace GpuI2c.Chip

open GpuI2c.Register (Field)

/-! ## Control -/

def go : Field := ⟨0x00000001, 0, 0⟩
def softReset : Field := ⟨0x00000002, 1, 0⟩
def sendReset : Field := ⟨0x00000004, 2, 0⟩
def enable : Field := ⟨0x00000008, 3, 0⟩

/-! ## Interrupt control -/

def doneInterrupt : Field := ⟨0x00000001, 0, 0⟩
def doneAck : Field := ⟨0x00000002, 1, 0⟩
def doneMask : Field := ⟨0x00000004, 2, 0⟩

/-! ## Status -/

def status : Field := ⟨0x0000000F, 0, 0⟩
def done : Field := ⟨0x00000010, 4, 0⟩
def aborted : Field := ⟨0x00000020, 5, 0⟩
def timeout : Field := ⟨0x00000040, 6, 0⟩
def stoppedOnNack : Field := ⟨0x00000200, 9, 0⟩
def nack : Field := ⟨0x00000400, 10, 0⟩

/-! ## Speed -/

def threshold : Field := ⟨0x00000003, 0, 0⟩
def disableFilterDuringStall : Field := ⟨0x00000010, 4, 0⟩
def startStopTiming : Field := ⟨0x00000300, 8, 0⟩
def prescale : Field := ⟨0xFFFF0000, 16, 0⟩

/-! ## Setup -/

def dataDriveEnable : Field := ⟨0x00000001, 0, 0⟩
def dataDriveSelect : Field := ⟨0x00000002, 1, 0⟩
def clockDriveEnable : Field := ⟨0x00000080, 7, 0⟩
def intraByteDelay : Field := ⟨0x0000FF00, 8, 0⟩
def timeLimit : Field := ⟨0xFF000000, 24, 0⟩

/-! ## Transaction -/

def readWrite : Field := ⟨0x00000001, 0, 0⟩
def stopOnNack : Field := ⟨0x00000100, 8, 0⟩
def ackOnRead : Field := ⟨0x00000200, 9, 0⟩
def start : Field := ⟨0x00001000, 12, 0⟩
def stop : Field := ⟨0x00002000, 13, 0⟩
def count : Field := ⟨0x000F0000, 16, 0⟩

/-! ## Data -/

def dataReadWrite : Field := ⟨0x00000001, 0, 0⟩
def data : Field := ⟨0x0000FF00, 8, 0⟩
def index : Field := ⟨0x000F0000, 16, 0⟩
def indexWrite : Field := ⟨0x80000000, 31, 0⟩

/-! ## Pin selection -/

def clockPin : Field := ⟨0x0000007F, 0, 0⟩
def dataPin : Field := ⟨0x00007F00, 8, 0⟩

/-! ## All of them -/

/-- All fields, under their names in register descriptions. -/
def fields : List (String × Field) :=
  [("go", go), ("soft_reset", softReset), ("send_reset", sendReset), ("enable", enable),
   ("done_int", doneInterrupt), ("done_ack", doneAck), ("done_mask", doneMask),
   ("status", status), ("done", done), ("aborted", aborted), ("timeout", timeout),
   ("stopped_on_nack", stoppedOnNack), ("nack", nack),
   ("threshold", threshold), ("disable_filter_during_stall", disableFilterDuringStall),
   ("start_stop_timing_cntl", startStopTiming), ("prescale", prescale),
   ("data_drive_en", dataDriveEnable), ("data_drive_sel", dataDriveSelect),
   ("clk_drive_en", clockDriveEnable), ("intra_byte_delay", intraByteDelay),
   ("time_limit", timeLimit),
   ("rw", readWrite), ("stop_on_nack", stopOnNack), ("ack_on_read", ackOnRead),
   ("start", start), ("stop", stop), ("count", count),
   ("data_rw", dataReadWrite), ("data", data), ("index", index), ("index_write", indexWrite),
   ("scl_pin_sel", clockPin), ("sda_pin_sel", dataPin)]

end GpuI2c.Chip
