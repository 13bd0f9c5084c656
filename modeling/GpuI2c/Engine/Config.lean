/-!
# Engine configuration

How the engine is polled, which pins it is routed to, and how fast its bus runs. The bus speed is
set by dividing the reference clock; without a known reference clock it is left alone.
-/

namespace GpuI2c.Engine

/-- The settings of an engine. -/
structure Config where
  /-- Microseconds between two polls of the status register. -/
  pollDelay : Nat := 1000
  /-- Polls before a transaction counts as timed out. -/
  pollLimit : Nat := 10
  clockPin : UInt8 := 0x29
  dataPin : UInt8 := 0x28
  /-- Bus speed in kHz. -/
  speed : Nat := 50
  /-- Reference clock of the engine in kHz. -/
  referenceClock : Option Nat := none
  deriving DecidableEq

namespace Config

/-- The settings of the lighting bus, its reference clock unknown. -/
def default : Config := {}

/-- Other microseconds between polls. -/
def withPollDelay (config : Config) (micros : Nat) : Config :=
  { config with pollDelay := micros }

/-- Another limit of polls; the status is read at least once. -/
def withPollLimit (config : Config) (polls : Nat) : Config :=
  { config with pollLimit := max polls 1 }

/-- Other pins. -/
def withPins (config : Config) (clock data : UInt8) : Config :=
  { config with clockPin := clock, dataPin := data }

/-- Another bus speed, in kHz. -/
def withSpeed (config : Config) (speed : Nat) : Config :=
  { config with speed }

/-- A known reference clock, in kHz. -/
def withReferenceClock (config : Config) (clock : Nat) : Config :=
  { config with referenceClock := some clock }

/-- The clock divider for the bus speed, if the reference clock is known and the divider is not
zero and fits 16 bits. -/
def prescale (config : Config) : Option UInt16 := do
  let reference ← config.referenceClock
  if config.speed = 0 then none
  else
    let divider := reference / config.speed
    if divider = 0 ∨ divider > 0xFFFF then none else some (UInt16.ofNat divider)

end Config

end GpuI2c.Engine
