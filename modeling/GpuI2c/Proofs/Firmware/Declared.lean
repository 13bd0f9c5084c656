import GpuI2c.Firmware.Clock
import GpuI2c.Firmware.Records
import GpuI2c.Proofs.Firmware.Accepted

/-!
# The declared part of an image

The signatures are looked for in all mapped bytes, and everything else in the declared part of them
only. Yet the bytes behind the declared part decide nothing: where parsing finds something, the ROM
header lies inside the declared part, and with it the signatures (`bearsSignatures_congr`).
-/

namespace GpuI2c.Firmware

variable {a b : Array UInt8} {declared : Nat}

/-! ## Bytes that begin alike -/

/-- Bytes that agree on their first places begin alike. -/
theorem beginning_eq (ha : declared ≤ a.size) (hb : declared ≤ b.size)
    (h : ∀ place < declared, a[place]? = b[place]?) :
    beginning a declared = beginning b declared := by
  have hextract : a.extract 0 declared = b.extract 0 declared := by
    refine Array.ext_getElem? fun place => ?_
    rw [Array.getElem?_extract, Array.getElem?_extract, Nat.min_eq_left ha, Nat.min_eq_left hb,
      Nat.zero_add, Nat.sub_zero]
    by_cases hplace : place < declared
    · rw [if_pos hplace, if_pos hplace, h place hplace]
    · rw [if_neg hplace, if_neg hplace]
  rw [beginning, beginning, hextract]

/-- Numbers inside bytes that begin alike are the same. -/
theorem u16_congr (h : beginning a declared = beginning b declared) {place : Nat}
    (hplace : place + 1 < declared) : u16 a place = u16 b place := by
  rw [← u16_beginning hplace, h, u16_beginning hplace]

/-- Bytes inside bytes that begin alike are the same. -/
theorem extract_congr (h : beginning a declared = beginning b declared) {start stop : Nat}
    (hstop : stop ≤ declared) : a.extract start stop = b.extract start stop := by
  rw [← extract_beginning hstop, h, extract_beginning hstop]

/-- The signatures of an image are in its declared part if the last of them, the one in the ROM
header, is. -/
theorem bearsSignatures_congr (h : beginning a declared = beginning b declared)
    (hsize : declared ≤ b.size) (hdeclared : 512 ≤ declared)
    (hrom : romPlace a + 8 < declared) (hsigned : BearsSignatures a) : BearsSignatures b := by
  have hplace : romPlace a = romPlace b := u16_congr h (by omega)
  obtain ⟨⟨-, hmagic⟩, ⟨-, hvendor⟩, -, -, hatom⟩ := hsigned
  refine ⟨⟨by omega, ?_⟩, ⟨by omega, ?_⟩, by omega, by omega, ?_⟩
  · rw [← u16_congr h (by omega), hmagic]
  · rw [← extract_congr h (by omega), hvendor]
  · rw [← hplace, ← extract_congr h (by omega), hatom]

/-- A declared size is made of units of 512 bytes. -/
theorem le_declaredSize {bytes : Array UInt8} (h : declaredSize bytes ≠ 0) :
    512 ≤ declaredSize bytes := by
  rw [declaredSize] at h ⊢
  omega

/-! ## Parsing -/

/-- What parses with some bytes behind the declared part parses with any others. -/
theorem ofBytes_congr (hdeclared : declaredSize a = declaredSize b)
    (h : beginning a (declaredSize a) = beginning b (declaredSize a))
    (hsize : declaredSize a ≤ b.size) {firmware : Context}
    (hparse : Context.ofBytes a = .ok firmware) : Context.ofBytes b = .ok firmware := by
  obtain ⟨haccepted, -⟩ := ofBytes_eq_ok_iff.mp hparse
  have hrom : romPlace a + 8 < declaredSize a := by
    have hheader := haccepted.rom_lt
    omega
  have hsigned : BearsSignatures b :=
    bearsSignatures_congr h hsize (le_declaredSize haccepted.nonempty) hrom haccepted.signed
  have himage : Image.ofBytes a = Image.ofBytes b := by
    rw [image_ofBytes_eq, image_ofBytes_eq, if_pos haccepted.signed, if_pos hsigned,
      if_neg (Nat.not_lt.mpr haccepted.fits), if_neg (by omega)]
    show Except.ok (Image.mk (beginning a _) (beginning a _).partNumber) =
      Except.ok (Image.mk (beginning b _) (beginning b _).partNumber)
    rw [← hdeclared, h]
  rw [Context.ofBytes, ← himage]
  exact hparse

/-- **Only the declared part of an image matters.** Of two runs of bytes that declare the same size,
have it, and agree on that many bytes, one parses if the other does, and then every query has the
same answer on both. -/
theorem declared_part_decides (hdeclared : declaredSize a = declaredSize b)
    (ha : declaredSize a ≤ a.size) (hb : declaredSize a ≤ b.size)
    (hagree : ∀ place < declaredSize a, a[place]? = b[place]?) :
    ((∃ firmware, Context.ofBytes a = .ok firmware) ↔
        ∃ firmware, Context.ofBytes b = .ok firmware) ∧
      ∀ first second, Context.ofBytes a = .ok first → Context.ofBytes b = .ok second →
        first.name = second.name ∧ first.revision = second.revision ∧
          first.objectRevision = second.objectRevision ∧
          first.connectorCount = second.connectorCount ∧
          (∀ index, first.connectorId? index = second.connectorId? index) ∧
          (∀ id, first.i2cInfo id = second.i2cInfo id) ∧
          (∀ line, first.gpioInfo line = second.gpioInfo line) ∧
          first.crystalFrequency = second.crystalFrequency := by
  have hbegin : beginning a (declaredSize a) = beginning b (declaredSize a) :=
    beginning_eq ha hb hagree
  have hthere {firmware : Context} : Context.ofBytes a = .ok firmware →
      Context.ofBytes b = .ok firmware := ofBytes_congr hdeclared hbegin hb
  have hback {firmware : Context} : Context.ofBytes b = .ok firmware →
      Context.ofBytes a = .ok firmware :=
    ofBytes_congr hdeclared.symm (by rw [← hdeclared, hbegin]) (by rwa [← hdeclared])
  refine ⟨⟨fun ⟨firmware, h⟩ => ⟨firmware, hthere h⟩, fun ⟨firmware, h⟩ => ⟨firmware, hback h⟩⟩,
    fun first second hfirst hsecond => ?_⟩
  obtain rfl : first = second := Except.ok.inj ((hthere hfirst).symm.trans hsecond)
  exact ⟨rfl, rfl, rfl, rfl, fun _ => rfl, fun _ => rfl, fun _ => rfl, rfl⟩

/-- An image that parses, alone and with two more bytes behind it. -/
theorem declared_part_decides_oneConnector :
    let mapped := oneConnector ++ #[0x12, 0x34]
    (∃ firmware, Context.ofBytes mapped = .ok firmware) ∧
      ∀ first second, Context.ofBytes oneConnector = .ok first →
        Context.ofBytes mapped = .ok second →
        first.name = second.name ∧ first.connectorCount = second.connectorCount ∧
          ∀ id, first.i2cInfo id = second.i2cInfo id := by
  intro mapped
  have hagree : ∀ place < declaredSize oneConnector, oneConnector[place]? = mapped[place]? := by
    intro place hplace
    rw [Array.getElem?_append_left (by rwa [← whole_oneConnector.declaredSize_eq])]
  have hsame : declaredSize oneConnector = declaredSize mapped := by
    decide +kernel
  obtain ⟨hparse, hqueries⟩ := declared_part_decides hsame
    (Nat.le_of_eq whole_oneConnector.declaredSize_eq) (by decide +kernel) hagree
  refine ⟨hparse.mp ⟨_, whole_oneConnector.parses⟩, fun first second hfirst hsecond => ?_⟩
  obtain ⟨hname, -, -, hcount, -, hinfo, -⟩ := hqueries first second hfirst hsecond
  exact ⟨hname, hcount, hinfo⟩

end GpuI2c.Firmware
