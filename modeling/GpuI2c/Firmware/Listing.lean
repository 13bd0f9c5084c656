import GpuI2c.Firmware.Layout.Clocks
import GpuI2c.Firmware.Layout.Gpio
import GpuI2c.Firmware.Layout.Objects

/-!
# Table listings

The fields of a firmware table under the names they have in descriptions of the tables, each with
its number or numbers. Tools that show tables to people work on listings.
-/

namespace GpuI2c.Firmware

/-- What a field of a table holds. -/
inductive FieldValue where
  | number (value : Nat)
  | numbers (values : List Nat)
  deriving DecidableEq

/-- The fields of a table, in order. -/
abbrev Listing := List (String × FieldValue)

/-- A type of tables that can be listed. -/
class Listed (α : Type) where
  listing : α → Listing

namespace FieldValue

/-- A field of one byte. -/
def byte (value : UInt8) : FieldValue := .number value.toNat

/-- A field of a 16-bit integer. -/
def word (value : UInt16) : FieldValue := .number value.toNat

/-- A field of a 32-bit integer. -/
def dword (value : UInt32) : FieldValue := .number value.toNat

/-- A field of several bytes. -/
def bytes (values : List UInt8) : FieldValue := .numbers (values.map UInt8.toNat)

/-- A table header. -/
def header (value : TableHeader) : FieldValue :=
  .numbers
    [value.structureSize.toNat, value.formatRevision.toNat, value.contentRevision.toNat]

/-- A revision. -/
def revision (value : Revision) : FieldValue :=
  .numbers [value.major.toNat, value.minor.toNat]

end FieldValue

open FieldValue

/-! ## ROM header and master lists -/

instance : Listed TableHeader where
  listing table := [("header", header table), ("revision", .revision table.revision)]

instance : Listed RomHeader where
  listing table :=
    [("header", header table.header),
     ("atom_signature", bytes table.atomSignature),
     ("bios_segment_address", word table.biosSegmentAddress),
     ("protected_mode_offset", word table.protectedModeOffset),
     ("config_filename_offset", word table.configFilenameOffset),
     ("crc_block_offset", word table.crcBlockOffset),
     ("bootup_message_offset", word table.bootupMessageOffset),
     ("int10_offset", word table.int10Offset),
     ("pci_bus_dev_init_code", word table.pciBusDevInitCode),
     ("io_base_address", word table.ioBaseAddress),
     ("subsystem_vendor_id", word table.subsystemVendorId),
     ("subsystem_id", word table.subsystemId),
     ("pci_info_offset", word table.pciInfoOffset),
     ("master_command_table_offset", word table.masterCommandTableOffset),
     ("master_data_table_offset", word table.masterDataTableOffset),
     ("reserved", word table.reserved),
     ("psp_dir_table_offset", dword table.pspDirTableOffset)]

instance : Listed LegacyMasterList where
  listing table :=
    [("header", header table.header),
     ("utility_pipeline", word table.utilityPipeline),
     ("firmware_info", word table.firmwareInfo),
     ("gpio_i2c_info", word table.gpioI2cInfo),
     ("vram_usage_by_firmware", word table.vramUsageByFirmware),
     ("gpio_pin_lut", word table.gpioPinLut),
     ("object_header", word table.objectHeader)]

instance : Listed DisplayMasterList where
  listing table :=
    [("header", header table.header),
     ("utility_pipeline", word table.utilityPipeline),
     ("firmware_info", word table.firmwareInfo),
     ("gpio_pin_lut", word table.gpioPinLut),
     ("display_object_info", word table.displayObjectInfo),
     ("dce_info", word table.dceInfo)]

/-! ## Objects -/

instance : Listed ObjectHeader where
  listing table :=
    [("header", header table.header),
     ("device_support", word table.deviceSupport),
     ("connector_table", word table.connectorTable),
     ("router_table", word table.routerTable),
     ("encoder_table", word table.encoderTable),
     ("protection_table", word table.protectionTable),
     ("display_path_table", word table.displayPathTable)]

instance : Listed ObjectHeaderWithMisc where
  listing table :=
    Listed.listing table.toObjectHeader ++ [("misc_table", word table.miscTable)]

instance : Listed DisplayObjectInfo where
  listing table :=
    [("header", header table.header),
     ("supported_devices", word table.supportedDevices),
     ("number_of_path", byte table.numberOfPath),
     ("reserved", byte table.reserved)]

instance : Listed DisplayPath where
  listing table :=
    [("display_objid", word table.displayObject),
     ("disp_record_offset", word table.displayRecordOffset),
     ("encoder_objid", word table.encoderObject),
     ("ext_encoder_objid", word table.extEncoderObject),
     ("encoder_record_offset", word table.encoderRecordOffset),
     ("ext_encoder_record_offset", word table.extEncoderRecordOffset),
     ("device_tag", word table.deviceTag),
     ("priority_id", byte table.priorityId),
     ("reserved", byte table.reserved)]

instance : Listed ObjectTableHeader where
  listing table := [("count", byte table.count), ("padding", bytes table.padding)]

instance : Listed ObjectEntry where
  listing table :=
    [("object_id", word table.objectId),
     ("src_dst_table_offset", word table.srcDstTableOffset),
     ("record_offset", word table.recordOffset),
     ("reserved", word table.reserved)]

instance : Listed RecordHeader where
  listing table :=
    [("record_type", byte table.recordType), ("record_size", byte table.recordSize)]

instance : Listed I2cRecord where
  listing table :=
    Listed.listing table.header ++
      [("i2c_id", byte table.i2cId), ("slave_address", byte table.slaveAddress)]

/-! ## GPIO -/

instance : Listed GpioAssignment where
  listing table :=
    [("clk_mask_register", word table.clkMaskRegister),
     ("clk_en_register", word table.clkEnRegister),
     ("clk_y_register", word table.clkYRegister),
     ("clk_a_register", word table.clkARegister),
     ("data_mask_register", word table.dataMaskRegister),
     ("data_en_register", word table.dataEnRegister),
     ("data_y_register", word table.dataYRegister),
     ("data_a_register", word table.dataARegister),
     ("i2c_id", byte table.i2cId),
     ("clk_mask_shift", byte table.clkMaskShift),
     ("clk_en_shift", byte table.clkEnShift),
     ("clk_y_shift", byte table.clkYShift),
     ("clk_a_shift", byte table.clkAShift),
     ("data_mask_shift", byte table.dataMaskShift),
     ("data_en_shift", byte table.dataEnShift),
     ("data_y_shift", byte table.dataYShift),
     ("data_a_shift", byte table.dataAShift),
     ("reserved", bytes table.reserved)]

instance : Listed PinAssignment where
  listing table :=
    [("data_a_reg_index", dword table.dataARegIndex),
     ("gpio_bitshift", byte table.gpioBitshift),
     ("gpio_mask_bitshift", byte table.gpioMaskBitshift),
     ("gpio_id", byte table.gpioId),
     ("reserved", byte table.reserved)]

/-! ## Clocks -/

instance : Listed FirmwareInfo1 where
  listing table :=
    [("header", header table.header),
     ("firmware_revision", dword table.firmwareRevision),
     ("reference_clock", word table.referenceClock)]

instance : Listed FirmwareInfo2 where
  listing table :=
    [("header", header table.header),
     ("firmware_revision", dword table.firmwareRevision),
     ("core_reference_clock", word table.coreReferenceClock),
     ("memory_reference_clock", word table.memoryReferenceClock)]

instance : Listed FirmwareInfo21 where
  listing table := Listed.listing table.toFirmwareInfo2

instance : Listed FirmwareInfo22 where
  listing table := Listed.listing table.toFirmwareInfo2

instance : Listed DisplayControllerInfo where
  listing table :=
    [("header", header table.header),
     ("display_caps", dword table.displayCaps),
     ("bootup_dispclk_10khz", dword table.bootupDispclk10khz),
     ("dce_refclk_10khz", word table.dceRefclk10khz),
     ("i2c_engine_refclk_10khz", word table.i2cEngineRefclk10khz)]

end GpuI2c.Firmware
