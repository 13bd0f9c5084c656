import GpuI2c.Text
import GpuI2c.Device.Memory
import GpuI2c.Device.RegisterFile
import GpuI2c.Register.Access
import GpuI2c.Chip.Fields
import GpuI2c.Board
import GpuI2c.Bus.Request
import GpuI2c.Bus.Status
import GpuI2c.Engine.Config
import GpuI2c.Firmware.Layout.Objects
import GpuI2c.Firmware.Layout.Gpio
import GpuI2c.Firmware.Layout.Clocks
import GpuI2c.Firmware.Records
import GpuI2c.Firmware.Clock
import GpuI2c.Firmware.Listing
import GpuI2c.Engine.Script
import GpuI2c.Adapter.Create
import GpuI2c.Proofs.Engine.Acts
import GpuI2c.Proofs.Register.Batch
import GpuI2c.Proofs.Bus.Observer
import GpuI2c.Proofs.Engine.Words
import GpuI2c.Proofs.Engine.Observed
import GpuI2c.Proofs.Adapter.Exchange
import GpuI2c.Proofs.Adapter.Direct
import GpuI2c.Proofs.Adapter.Framed
import GpuI2c.Proofs.Adapter.Closing
import GpuI2c.Proofs.Firmware.Fetches
import GpuI2c.Proofs.Firmware.Grammar
import GpuI2c.Proofs.Adapter.Window
import GpuI2c.Proofs.Device.Contents
import GpuI2c.Proofs.Engine.Lock
import GpuI2c.Proofs.Engine.Safety
import GpuI2c.Proofs.Firmware.Accepted
import GpuI2c.Proofs.Firmware.Declared
import GpuI2c.Proofs.Firmware.Lookup
import GpuI2c.Proofs.Engine.Frame
import GpuI2c.Proofs.Adapter.Addressing
import GpuI2c.Proofs.Firmware.Discovery
import GpuI2c.Proofs.Firmware.Wiring
import GpuI2c.Proofs.Adapter.Creation
import GpuI2c.Proofs.Engine.Speed
import GpuI2c.Proofs.Firmware.Clock
import GpuI2c.Proofs.Adapter.Speed
import GpuI2c.Proofs.Engine.Lengths
import GpuI2c.Proofs.Firmware.Errors
import GpuI2c.Proofs.Engine.Polling
import GpuI2c.Proofs.Adapter.Polling
import GpuI2c.Proofs.Firmware.MissingTables
import GpuI2c.Proofs.Firmware.Walk
import GpuI2c.Proofs.Firmware.Gpio
import GpuI2c.Proofs.Register.Updates
import GpuI2c.Proofs.Firmware.Reopening
import GpuI2c.Proofs.Firmware.Revisions
import GpuI2c.Proofs.Device.Memory
import GpuI2c.Proofs.Register.Waiting
import GpuI2c.Proofs.Text.Utf8
import GpuI2c.Proofs.Firmware.PartNumber
import GpuI2c.Proofs.Firmware.Bounds
