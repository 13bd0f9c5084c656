import Mathlib.Data.List.Nodup
import Mathlib.Tactic.IntervalCases
import GpuI2c.Firmware.ObjectId

/-!
# Telling object ids apart

Decoding a firmware object id loses nothing where the id within its type has a driver number:
encoding gives the firmware id back (`toFirmware?_of_ofFirmware?`). So firmware ids that decode to
the same object id, with a driver number, are the same (`eq_of_ofFirmware?`). All that have none
decode to zero, and are told apart by type and instance only.
-/

namespace GpuI2c.Firmware

/-! ## Numbering -/

/-- A numbering in which no driver id occurs twice leads back from driver ids. -/
theorem firmwareId?_driverId {numbering : List (UInt8 × UInt8)}
    (hnodup : (numbering.map Prod.snd).Nodup) {firmwareId : UInt8}
    (h : driverId numbering firmwareId ≠ 0) :
    firmwareId? numbering (driverId numbering firmwareId) = some firmwareId := by
  unfold driverId at h ⊢
  cases hfind : numbering.find? fun entry => entry.1 = firmwareId with
  | none =>
    rw [hfind] at h
    exact (h rfl).elim
  | some entry =>
    have hfirst : entry.1 = firmwareId := by simpa using List.find?_some hfind
    have hmem := List.mem_of_find?_eq_some hfind
    dsimp only
    rw [firmwareId?]
    cases hback : numbering.find? fun other => other.2 = entry.2 with
    | none =>
      have hnot := List.find?_eq_none.mp hback entry hmem
      simp at hnot
    | some other =>
      have hsecond : other.2 = entry.2 := by simpa using List.find?_some hback
      obtain rfl := List.inj_on_of_nodup_map hnodup (List.mem_of_find?_eq_some hback) hmem hsecond
      rw [Option.map_some, hfirst]

theorem nodup_encoderIds : (encoderIds.map Prod.snd).Nodup := by decide

theorem nodup_connectorIds : (connectorIds.map Prod.snd).Nodup := by decide

theorem nodup_genericIds : (genericIds.map Prod.snd).Nodup := by decide

/-! ## Ids -/

/-- The type nibble of a known type is the one that it was decoded from. -/
theorem nibble?_ofFirmware {raw : UInt16} (h : ObjectType.ofFirmware raw ≠ .unknown) :
    (ObjectType.ofFirmware raw).nibble? = some ((raw &&& 0xF000) >>> 12) := by
  unfold ObjectType.ofFirmware at h ⊢
  generalize (raw &&& 0xF000) >>> 12 = nibble at h ⊢
  split at h
  all_goals first | rfl | exact (h rfl).elim

/-- A firmware id is put together from its type nibble, its instance and its lower byte. -/
theorem or_parts (raw : UInt16) :
    ((raw &&& 0xF000) >>> 12) <<< 12 ||| ((raw &&& 0x0F00) >>> 8).toUInt8.toUInt16 <<< 8 |||
      (raw &&& 0x00FF).toUInt8.toUInt16 = raw := by
  apply UInt16.toBitVec_inj.1
  apply BitVec.eq_of_getElem_eq
  intro i hi
  interval_cases i <;> simp [-UInt16.toUInt16_toUInt8]

namespace ObjectId

/-- **Encoding undoes decoding** of a firmware id with a driver number. -/
theorem toFirmware?_of_ofFirmware? {raw : UInt16} {object : ObjectId}
    (h : ofFirmware? raw = some object) (hid : object.id ≠ 0) : object.toFirmware? = some raw := by
  unfold ofFirmware? at h
  by_cases hunknown : ObjectType.ofFirmware raw = .unknown
  · rw [if_pos hunknown] at h
    cases h
  · have hnibble := nibble?_ofFirmware hunknown
    have hparts := or_parts raw
    rw [if_neg hunknown] at h
    generalize ((raw &&& 0x0F00) >>> 8).toUInt8 = enumId at h hparts
    generalize (raw &&& 0x00FF).toUInt8 = firmwareId at h hparts
    generalize ObjectType.ofFirmware raw = objectType at h hunknown hnibble
    by_cases hinstance : isInstance enumId
    · dsimp only at h
      rw [if_pos hinstance] at h
      obtain rfl := Option.some.inj h
      simp only [toFirmware?, hnibble, hinstance, Option.bind_eq_bind, Option.bind_some, if_true]
      cases objectType with
      | gpu => simpa using hparts
      | encoder => simpa [firmwareId?_driverId nodup_encoderIds hid] using hparts
      | connector => simpa [firmwareId?_driverId nodup_connectorIds hid] using hparts
      | generic => simpa [firmwareId?_driverId nodup_genericIds hid] using hparts
      | router => exact (hid rfl).elim
      | unknown => exact (hunknown rfl).elim
    · dsimp only at h
      rw [if_neg hinstance] at h
      cases h

/-- Firmware ids that decode to the same object id, with a driver number, are the same. -/
theorem eq_of_ofFirmware? {raw other : UInt16} {object : ObjectId}
    (h : ofFirmware? raw = some object) (hother : ofFirmware? other = some object)
    (hid : object.id ≠ 0) : raw = other := by
  have hback := toFirmware?_of_ofFirmware? h hid
  rw [toFirmware?_of_ofFirmware? hother hid] at hback
  exact (Option.some.inj hback).symm

end ObjectId

end GpuI2c.Firmware
