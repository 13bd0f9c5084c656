import Mathlib.Algebra.Group.Nat.Defs
import GpuI2c.Device

/-!
# What programs do

A program is judged by what it does to its surroundings, whatever these answer. An act is a read
of a register together with the value it gave, a write, or a pause. `Program.Performs` relates a
program to the acts it may do and the value it may end with; it is closed under sequencing
(`performs_bind`).

A device sees byte offsets, and an access outside its window as a pair of accesses. `actsFrom`
undoes this: it reads the acts back from the events of a run. **Runs perform their acts**
(`performs_run`): on every device, with every window, a run of a program does what `Performs`
allows, as long as the program keeps off the index and data registers themselves.
-/

namespace GpuI2c

/-! ## Acts -/

/-- Something done to the surroundings, log lines and the lock aside. -/
inductive Act where
  /-- A register was read and gave a value. -/
  | read (register value : UInt32)
  | write (register value : UInt32)
  | pause (length : Pause)
  deriving DecidableEq

/-- The acts of a command. -/
def Command.acts : Command → List Act
  | .write register value => [.write register value]
  | .pause length => [.pause length]
  | .log _ | .lock | .unlock => []

/-- The registers and values of the writes among some acts, in order. -/
def writesOf (acts : List Act) : List (UInt32 × UInt32) :=
  acts.filterMap fun
    | .write register value => some (register, value)
    | _ => none

/-- The values that reads of `register` gave, in order. -/
def valuesRead (register : UInt32) (acts : List Act) : List UInt32 :=
  acts.filterMap fun
    | .read other value => if other = register then some value else none
    | _ => none

@[simp] theorem writesOf_nil : writesOf [] = [] := rfl

@[simp] theorem writesOf_append (as bs : List Act) :
    writesOf (as ++ bs) = writesOf as ++ writesOf bs := List.filterMap_append

@[simp] theorem writesOf_read (register value : UInt32) (acts : List Act) :
    writesOf (.read register value :: acts) = writesOf acts := rfl

@[simp] theorem writesOf_write (register value : UInt32) (acts : List Act) :
    writesOf (.write register value :: acts) = (register, value) :: writesOf acts := rfl

@[simp] theorem writesOf_pause (length : Pause) (acts : List Act) :
    writesOf (.pause length :: acts) = writesOf acts := rfl

@[simp] theorem valuesRead_append (register : UInt32) (as bs : List Act) :
    valuesRead register (as ++ bs) = valuesRead register as ++ valuesRead register bs :=
  List.filterMap_append

@[simp] theorem valuesRead_same (register value : UInt32) (acts : List Act) :
    valuesRead register (.read register value :: acts) = value :: valuesRead register acts := by
  simp [valuesRead]

namespace Program

variable {α β : Type}

/-- `p.Performs acts value`: when reads are answered as `acts` says, `p` does exactly `acts` and
ends with `value`. -/
def Performs : Program α → List Act → α → Prop
  | .done result, acts, value => acts = [] ∧ value = result
  | .read register next, acts, value =>
    ∃ answer rest, acts = .read register answer :: rest ∧ (next answer).Performs rest value
  | .command what next, acts, value => ∃ rest, acts = what.acts ++ rest ∧ next.Performs rest value

@[simp] theorem performs_done {result value : α} {acts : List Act} :
    (done result).Performs acts value ↔ acts = [] ∧ value = result := Iff.rfl

@[simp] theorem performs_read {register : UInt32} {next : UInt32 → Program α} {value : α}
    {acts : List Act} : (Program.read register next).Performs acts value ↔
      ∃ answer rest, acts = .read register answer :: rest ∧ (next answer).Performs rest value :=
  Iff.rfl

@[simp] theorem performs_command {what : Command} {next : Program α} {value : α}
    {acts : List Act} : (command what next).Performs acts value ↔
      ∃ rest, acts = what.acts ++ rest ∧ next.Performs rest value := Iff.rfl

/-- A sequence does what its first program does, then what the second does from its value. -/
theorem performs_bind {p : Program α} {f : α → Program β} {acts : List Act} {result : β} :
    (p.bind f).Performs acts result ↔
      ∃ value before after, acts = before ++ after ∧ p.Performs before value ∧
        (f value).Performs after result := by
  induction p generalizing acts with
  | done value =>
    constructor
    · intro h
      exact ⟨value, [], acts, rfl, ⟨rfl, rfl⟩, h⟩
    · rintro ⟨_, _, after, rfl, ⟨rfl, rfl⟩, hf⟩
      exact hf
  | read register next ih =>
    simp only [read_bind, performs_read, ih]
    constructor
    · rintro ⟨answer, rest, rfl, value, before, after, rfl, hp, hf⟩
      exact ⟨value, .read register answer :: before, after, rfl, ⟨answer, before, rfl, hp⟩, hf⟩
    · rintro ⟨value, _, after, rfl, ⟨answer, before, rfl, hp⟩, hf⟩
      exact ⟨answer, before ++ after, rfl, value, before, after, rfl, hp, hf⟩
  | command what next ih =>
    simp only [command_bind, performs_command, ih]
    constructor
    · rintro ⟨rest, rfl, value, before, after, rfl, hp, hf⟩
      exact ⟨value, what.acts ++ before, after, by simp, ⟨before, rfl, hp⟩, hf⟩
    · rintro ⟨value, _, after, rfl, ⟨before, rfl, hp⟩, hf⟩
      exact ⟨before ++ after, by simp, value, before, after, rfl, hp, hf⟩

/-! ## Programs that keep to some acts -/

/-- Whatever reads answer, every act of `p` satisfies `P`. -/
def Keeps (P : Act → Prop) : Program α → Prop
  | .done _ => True
  | .read register next => ∀ answer, P (.read register answer) ∧ (next answer).Keeps P
  | .command what next => (∀ act ∈ what.acts, P act) ∧ next.Keeps P

theorem Keeps.bind {P : Act → Prop} {p : Program α} {f : α → Program β} (hp : p.Keeps P)
    (hf : ∀ value, (f value).Keeps P) : (p.bind f).Keeps P := by
  induction p with
  | done value => exact hf value
  | read register next ih => exact fun answer => ⟨(hp answer).1, ih answer (hp answer).2⟩
  | command what next ih => exact ⟨hp.1, ih hp.2⟩

theorem Keeps.mono {P Q : Act → Prop} (h : ∀ act, P act → Q act) {p : Program α}
    (hp : p.Keeps P) : p.Keeps Q := by
  induction p with
  | done value => trivial
  | read register next ih => exact fun answer => ⟨h _ (hp answer).1, ih answer (hp answer).2⟩
  | command what next ih => exact ⟨fun act mem => h act (hp.1 act mem), ih hp.2⟩

theorem Keeps.forall_mem {P : Act → Prop} {p : Program α} (h : p.Keeps P) {acts : List Act}
    {value : α} (hperforms : p.Performs acts value) : ∀ act ∈ acts, P act := by
  induction p generalizing acts with
  | done result =>
    obtain ⟨rfl, -⟩ := hperforms
    exact List.forall_mem_nil P
  | read register next ih =>
    obtain ⟨answer, rest, rfl, hrest⟩ := hperforms
    exact List.forall_mem_cons.mpr ⟨(h answer).1, ih answer (h answer).2 hrest⟩
  | command what next ih =>
    obtain ⟨rest, rfl, hrest⟩ := hperforms
    exact List.forall_mem_append.mpr ⟨h.1, ih h.2 hrest⟩

/-! ## Programs that end with some values -/

/-- Whatever reads answer, `p` ends with a value that satisfies `P`. -/
def Yields (P : α → Prop) : Program α → Prop
  | .done value => P value
  | .read _ next => ∀ answer, (next answer).Yields P
  | .command _ next => next.Yields P

namespace Yields

variable {P : α → Prop} {Q : β → Prop} {p : Program α} {f : α → Program β}

theorem bind (hp : p.Yields P) (hf : ∀ value, P value → (f value).Yields Q) :
    (p.bind f).Yields Q := by
  induction p with
  | done value => exact hf value hp
  | read register next ih => exact fun answer => ih answer (hp answer)
  | command what next ih => exact ih hp

theorem of_forall (h : ∀ value, P value) : p.Yields P := by
  induction p with
  | done value => exact h value
  | read register next ih => exact ih
  | command what next ih => exact ih

/-- What a sequence ends with is up to its second program. -/
theorem bind_of_forall (hf : ∀ value, (f value).Yields Q) : (p.bind f).Yields Q :=
  bind (P := fun _ => True) (of_forall fun _ => trivial) fun value _ => hf value

theorem run {σ : Type} (h : p.Yields P) (device : Device σ) (world : World σ) :
    P (p.run device world).value := by
  induction p generalizing world with
  | done value => exact h
  | read register next ih => exact ih _ (h _) _
  | command what next ih => exact ih h _

end Yields

/-! ## Programs that only report -/

/-- `p.Reports value`: `p` does nothing but log lines, and ends with `value`. -/
inductive Reports : Program α → α → Prop where
  | done (value : α) : Reports (.done value) value
  | log (line : LogLine) {next : Program α} {value : α} (h : Reports next value) :
    Reports (.command (.log line) next) value

namespace Reports

theorem bind {p : Program α} {value : α} {f : α → Program β} {result : β} (hp : p.Reports value)
    (hf : (f value).Reports result) : (p.bind f).Reports result := by
  induction hp with
  | done value => exact hf
  | log line _ ih => exact .log line (ih hf)

/-- A program that only reports ends with its value on every device, leaves the world as it is,
and shows nothing but log lines. -/
theorem run {σ : Type} {p : Program α} {value : α} (h : p.Reports value) (device : Device σ)
    (world : World σ) : (p.run device world).value = value ∧ (p.run device world).world = world ∧
      ∀ event ∈ (p.run device world).events, ∃ line, event = .log line := by
  induction h with
  | done value => exact ⟨rfl, rfl, List.forall_mem_nil _⟩
  | log line _ ih =>
    obtain ⟨hvalue, hworld, hevents⟩ := ih
    exact ⟨hvalue, hworld, List.forall_mem_cons.mpr ⟨⟨line, rfl⟩, hevents⟩⟩

end Reports

end Program

/-- A device whose registers all read the same. -/
def Device.steady (word : UInt32) : Device Unit where
  window := 0x10000
  read _ _ := (word, ())
  write _ _ _ := ()

/-! ## Acts behind the events of a run -/

/-- The register that an access at a byte offset reaches while the index register holds
`selected`. -/
def registerAt (selected : UInt32) (offset : Nat) : UInt32 :=
  if offset = Device.dataRegister.toNat * 4 then selected / 4 else UInt32.ofNat (offset / 4)

/-- The acts behind the events of a run: accesses to the data register are accesses to the register
that was selected last. -/
def actsFrom (selected : UInt32) : List Event → List Act
  | [] => []
  | .read offset value :: rest =>
    .read (registerAt selected offset) value :: actsFrom selected rest
  | .write offset value :: rest =>
    if offset = Device.indexRegister.toNat * 4 then actsFrom value rest
    else .write (registerAt selected offset) value :: actsFrom selected rest
  | .pause length :: rest => .pause length :: actsFrom selected rest
  | .log _ :: rest => actsFrom selected rest

/-- The acts behind the events of a whole run. -/
def actsOf (events : List Event) : List Act :=
  actsFrom 0 events

/-- A register other than the index and data registers, whose byte offset fits 32 bits. -/
abbrev Plain (register : UInt32) : Prop :=
  2 ≤ register.toNat ∧ register.toNat < 2 ^ 30

/-- An act on a plain register, or a pause. -/
def Act.IsPlain : Act → Prop
  | .read register _ | .write register _ => Plain register
  | .pause _ => True

theorem registerAt_direct {register : UInt32} (h : Plain register) (selected : UInt32) :
    registerAt selected (register.toNat * 4) = register := by
  obtain ⟨hlow, -⟩ := h
  have hdata : register.toNat * 4 ≠ Device.dataRegister.toNat * 4 := by
    simp only [Device.dataRegister, UInt32.reduceToNat]
    omega
  rw [registerAt, if_neg hdata, Nat.mul_div_cancel _ (by decide), UInt32.ofNat_toNat]

theorem registerAt_selected {register : UInt32} (h : Plain register) :
    registerAt (register * 4) (Device.dataRegister.toNat * 4) = register := by
  obtain ⟨-, hhigh⟩ := h
  rw [registerAt, if_pos rfl, ← UInt32.toNat_inj]
  simp only [UInt32.toNat_div, UInt32.toNat_mul, UInt32.reduceToNat]
  omega

theorem actsFrom_load {σ : Type} (device : Device σ) {register : UInt32} (h : Plain register)
    (state : σ) (selected : UInt32) : ∃ selected', ∀ rest,
      actsFrom selected ((device.load register state).2.2 ++ rest) =
        .read register (device.load register state).1 :: actsFrom selected' rest := by
  unfold Device.load Device.offset?
  by_cases hin : register.toNat * 4 < device.window
  · refine ⟨selected, fun rest => ?_⟩
    simp only [if_pos hin, List.cons_append, List.nil_append, actsFrom, registerAt_direct h]
  · refine ⟨register * 4, fun rest => ?_⟩
    simp only [if_neg hin, Device.select, List.cons_append, List.nil_append, actsFrom, if_true,
      registerAt_selected h]

theorem actsFrom_store {σ : Type} (device : Device σ) {register : UInt32} (h : Plain register)
    (value : UInt32) (state : σ) (selected : UInt32) : ∃ selected', ∀ rest,
      actsFrom selected ((device.store register value state).2 ++ rest) =
        .write register value :: actsFrom selected' rest := by
  have hindex : register.toNat * 4 ≠ Device.indexRegister.toNat * 4 := by
    have := h.1
    simp only [Device.indexRegister, UInt32.reduceToNat]
    omega
  have hdata : Device.dataRegister.toNat * 4 ≠ Device.indexRegister.toNat * 4 := by decide
  unfold Device.store Device.offset?
  by_cases hin : register.toNat * 4 < device.window
  · refine ⟨selected, fun rest => ?_⟩
    simp only [if_pos hin, List.cons_append, List.nil_append, actsFrom, if_neg hindex,
      registerAt_direct h]
  · refine ⟨register * 4, fun rest => ?_⟩
    simp only [if_neg hin, Device.select, List.cons_append, List.nil_append, actsFrom, if_true,
      if_neg hdata, registerAt_selected h]

theorem actsFrom_command {σ : Type} (device : Device σ) {what : Command}
    (h : ∀ act ∈ what.acts, act.IsPlain) (world : World σ) (selected : UInt32) :
    ∃ selected', ∀ rest, actsFrom selected ((what.run device world).2 ++ rest) =
      what.acts ++ actsFrom selected' rest := by
  cases what with
  | write register value =>
    exact actsFrom_store device (h (.write register value) List.mem_cons_self) value world.device
      selected
  | pause length => exact ⟨selected, fun rest => rfl⟩
  | log line => exact ⟨selected, fun rest => rfl⟩
  | lock => exact ⟨selected, fun rest => rfl⟩
  | unlock => exact ⟨selected, fun rest => rfl⟩

/-- **Runs perform their acts.** On every device, a run of a program that keeps to plain registers
does what the program may do, and its events show just these acts. -/
theorem Program.performs_run {σ α : Type} (device : Device σ) {p : Program α}
    (h : p.Keeps Act.IsPlain) (world : World σ) (selected : UInt32) :
    p.Performs (actsFrom selected (p.run device world).events) (p.run device world).value := by
  induction p generalizing world selected with
  | done value => exact ⟨rfl, rfl⟩
  | read register next ih =>
    obtain ⟨selected', hacts⟩ :=
      actsFrom_load device (h (device.load register world.device).1).1 world.device selected
    exact ⟨_, _, hacts _, ih _ (h _).2 _ selected'⟩
  | command what next ih =>
    obtain ⟨selected', hacts⟩ := actsFrom_command device h.1 world selected
    exact ⟨_, hacts _, ih h.2 _ selected'⟩

end GpuI2c
