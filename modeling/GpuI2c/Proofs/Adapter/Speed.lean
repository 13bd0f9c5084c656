import GpuI2c.Proofs.Adapter.Creation
import GpuI2c.Proofs.Engine.Speed
import GpuI2c.Proofs.Firmware.Clock

/-!
# From the clock of an image to the bus speed

A framed adapter runs its bus at the speed that the clock in its image allows for. The main
statement is `clock_reaches_speed`: on the way from two bytes of the image to sixteen bits of the
speed register nothing is lost, and where the image gives no clock, or one too slow to divide, the
register is left alone.
-/

namespace GpuI2c

open Firmware (clock clockError)
open Register (SameOutside)

/-- The divider of an adapter is a fifth of the clock in its image, if there is one of at least
50 kHz. -/
theorem Adapter.prescale_configFor {image : Array UInt8} {firmware : Firmware.Context}
    (h : Firmware.Context.ofBytes image = .ok firmware) :
    (configFor firmware).prescale =
      if clockError image = none ∧ 5 ≤ clock image then some (UInt16.ofNat (clock image / 5))
      else none := by
  obtain ⟨haccepted, rfl⟩ := Firmware.ofBytes_eq_ok_iff.mp h
  rw [configFor, Firmware.crystalFrequency_eq haccepted.fits]
  cases clockError image with
  | some error => rfl
  | none =>
    have hclock : clock image < 0x10000 := Firmware.u16_lt image _
    dsimp only
    rw [Engine.Config.prescale_withReferenceClock hclock]
    simp

/-- A framed adapter is that of the firmware in its image. -/
theorem Adapter.framed_of_creates {device : PciDevice} {image : Array UInt8}
    {adapter : FramedAdapter} (h : Creates device image (.ok (.framed adapter))) :
    adapter.engine.block.Known ∧ adapter.engine.config = configFor adapter.firmware ∧
      Firmware.Context.ofBytes image = .ok adapter.firmware := by
  cases h with
  | framed _ _ hblock _ himage => exact ⟨⟨_, hblock⟩, rfl, himage⟩

/-- **The clock in the image sets the bus speed.** If building the adapter of a board gives a framed
one, its firmware has the clock that the image says, in kHz. Whenever a session of its engine opens,
the speed register is read and written once if that clock is at least 50 kHz: the divider is a fifth
of the clock in units of 10 kHz, rounded down, so that the bus runs at 50 kHz or more and below
100 kHz; the threshold is two, and all other bits are as read. Otherwise the register is not
accessed when a session opens, nor by anything else that is done by way of one. -/
theorem FramedAdapter.clock_reaches_speed {σ τ : Type} (board : PciDevice) (image : Array UInt8)
    (adapter : FramedAdapter) (hardware : Device σ) (start : World σ)
    (h : ((Adapter.create board image).run hardware start).value = .ok (.framed adapter))
    (device : Device τ) (world : World τ) :
    let engine := adapter.engine
    let speed := engine.block.speed
    let opening := accessesTo speed (actsOf (engine.openSession.run device world).events)
    adapter.firmware.crystalFrequency =
        (match clockError image with
          | some error => .error error
          | none => .ok (10 * clock image)) ∧
      (clockError image = none ∧ 5 ≤ clock image → ∃ raw word divider,
        opening = [.read speed raw, .write speed word] ∧
          (Chip.prescale.extract word).toNat = divider ∧ divider = clock image / 5 ∧
          50 * divider ≤ 10 * clock image ∧ 10 * clock image < 100 * divider ∧
          Chip.threshold.extract word = 2 ∧ SameOutside 0xFFFF0003 word raw) ∧
      (¬ (clockError image = none ∧ 5 ≤ clock image) →
        opening = [] ∧ ∀ opened steps, (∀ step ∈ steps, step.OfSession) →
          accessesTo speed (actsOf ((engine.performAll opened steps).run device world).events) =
            []) := by
  intro engine speed opening
  have hmade : Adapter.made board image = .ok (.framed adapter) := by
    rw [← ((Adapter.reports_create board image).run hardware start).1]
    exact h
  obtain ⟨hblock, hconfig, hparse⟩ := Adapter.framed_of_creates (Adapter.made_eq_iff.mp hmade)
  have hprescale : engine.config.prescale = _ :=
    (congrArg Engine.Config.prescale hconfig).trans (Adapter.prescale_configFor hparse)
  have hopening : engine.setSpeed.Performs opening () :=
    Engine.accessesTo_speed_openSession hblock
      (performs_actsOf device hblock Engine.keeps_openSession world)
  rw [Engine.performs_setSpeed_iff, hprescale] at hopening
  refine ⟨?_, fun hclock => ?_, fun hclock => ?_⟩
  · obtain ⟨haccepted, hfirmware⟩ := Firmware.ofBytes_eq_ok_iff.mp hparse
    rw [← hfirmware]
    exact Firmware.crystalFrequency_eq haccepted.fits
  · rw [if_pos hclock] at hopening
    obtain ⟨raw, hacts⟩ := hopening
    have hlimit : clock image < 0x10000 := Firmware.u16_lt image _
    have hdivider : (UInt16.ofNat (clock image / 5)).toNat = clock image / 5 :=
      UInt16.toNat_ofNat_of_lt' (show clock image / 5 < 65536 by omega)
    obtain ⟨-, hslow⟩ := hclock
    refine ⟨raw, _, clock image / 5, hacts, ?_, rfl, by omega, by omega,
      Engine.threshold_speedWord _ raw, Engine.sameOutside_speedWord _ raw⟩
    rw [Engine.prescale_speedWord, hdivider]
  · rw [if_neg hclock] at hopening hprescale
    exact ⟨hopening, fun opened steps hsteps =>
      Engine.avoids_speed_performAll hblock hprescale device opened hsteps world⟩

/-- A legacy image with a firmware info of revision 1.1, whose clock is 27 MHz. -/
def clockedImage : Array UInt8 :=
  Firmware.imageWith 1
    [(0xBC, [0x80, 1]), (0x100, [0x10, 0, 1, 1]), (0x180, [89, 0, 1, 1]), (0x1D2, [0x8C, 0x0A])]

/-- On a Polaris board with a clock of 27 MHz, opening a session sets the divider to 540. -/
theorem FramedAdapter.clock_reaches_speed_polaris :
    let board : PciDevice := ⟨0x1002, 0x67df, 0x1043, 0x0517⟩
    ∃ adapter : FramedAdapter,
      ((Adapter.create board clockedImage).run (.steady 0) ⟨(), false⟩).value =
          .ok (.framed adapter) ∧
        adapter.firmware.crystalFrequency = .ok 27000 ∧
        ∃ raw word,
          accessesTo adapter.engine.block.speed
              (actsOf (adapter.engine.openSession.run (.steady 0x110) ⟨(), false⟩).events) =
            [.read adapter.engine.block.speed raw, .write adapter.engine.block.speed word] ∧
          (Chip.prescale.extract word).toNat = 540 ∧ SameOutside 0xFFFF0003 word raw := by
  intro board
  have haccepted : Firmware.Accepted clockedImage := by decide +kernel
  have hclock : clockError clockedImage = none ∧ clock clockedImage = 2700 := by decide +kernel
  have hboard : (⟨board, .polaris10, "ROG STRIX RX 580"⟩ : Board) ∈ Board.table :=
    List.mem_cons_self
  have hcreates := Adapter.Creates.framed hboard rfl rfl rfl
    (Firmware.ofBytes_eq_ok_iff.mpr ⟨haccepted, rfl⟩)
  have hrun := ((Adapter.reports_create board clockedImage).run (.steady 0) ⟨(), false⟩).1.trans
    (Adapter.made_eq_iff.mpr hcreates)
  obtain ⟨hfrequency, hopening, -⟩ := clock_reaches_speed board clockedImage _ (.steady 0)
    ⟨(), false⟩ hrun (.steady 0x110) ⟨(), false⟩
  obtain ⟨raw, word, divider, hacts, hword, hdivider, -, -, -, hsame⟩ :=
    hopening ⟨hclock.1, by rw [hclock.2]; decide⟩
  refine ⟨_, hrun, ?_, raw, word, hacts, ?_, hsame⟩
  · rw [hfrequency, hclock.1, hclock.2]
  · rw [hword, hdivider, hclock.2]

end GpuI2c
