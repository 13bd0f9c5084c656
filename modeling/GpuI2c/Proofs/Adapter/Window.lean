import GpuI2c.Proofs.Adapter.Closing
import GpuI2c.Proofs.Device.Window
import GpuI2c.Register.Script

/-!
# Drivers do not see the window

Every call of the register access layer, every step of an engine script and every transfer keeps to
plain registers, as long as it is given plain registers only. So none of them can tell how large the
window is (`window_transparent`).
-/

namespace GpuI2c

/-! ## Calls on registers -/

namespace Register

deriving instance DecidableEq for Reply

theorem keeps_waitFrom {register : UInt32} (h : Plain register) (field : Field)
    (micros attempts : Nat) (last : UInt32) :
    (waitFrom register field micros attempts last).Keeps Act.IsPlain := by
  induction attempts generalizing last with
  | zero => trivial
  | succ attempts ih =>
    intro raw
    refine ⟨h, ?_⟩
    show Program.Keeps _ (if field.extract raw = field.value then _ else _)
    split
    · trivial
    · split
      · exact ⟨List.forall_mem_singleton.mpr trivial, ih raw⟩
      · exact ih raw

theorem Call.keeps_perform {call : Call} (h : Plain call.register) :
    call.perform.Keeps Act.IsPlain := by
  cases call with
  | read register => exact fun _ => ⟨h, trivial⟩
  | write register value => exact ⟨List.forall_mem_singleton.mpr h, trivial⟩
  | update register fields => exact fun _ => ⟨h, List.forall_mem_singleton.mpr h, trivial⟩
  | set register initial fields => exact ⟨List.forall_mem_singleton.mpr h, trivial⟩
  | get register fields => exact fun _ => ⟨h, trivial⟩
  | wait register field attempts micros =>
    exact Program.Keeps.bind (keeps_waitFrom h field micros attempts 0) fun _ => trivial

theorem Call.keeps_performAll {calls : List Call} (h : ∀ call ∈ calls, Plain call.register) :
    (performAll calls).Keeps Act.IsPlain := by
  induction calls with
  | nil => trivial
  | cons call calls ih =>
    obtain ⟨hcall, hcalls⟩ := List.forall_mem_cons.mp h
    refine Program.Keeps.bind (keeps_perform hcall) fun _ => ?_
    exact Program.Keeps.bind (ih hcalls) fun _ => trivial

end Register

/-! ## Sessions and transfers -/

/-- A block whose registers, as far as the engine uses them, are plain. -/
def Chip.RegisterBlock.IsPlain (block : RegisterBlock) : Prop :=
  ∀ register, register = block.status ∨ block.Programs register → Plain register

theorem Chip.RegisterBlock.Known.isPlain {block : RegisterBlock} (h : block.Known) :
    block.IsPlain :=
  fun register hregister => OnBlock.isPlain h (show OnBlock block (.read register 0) from hregister)

theorem OnBlock.isPlain_of_plain {block : Chip.RegisterBlock} (hblock : block.IsPlain) {act : Act}
    (h : OnBlock block act) : act.IsPlain := by
  cases act with
  | read register value => exact hblock register h
  | write register value => exact hblock register (.inr h)
  | pause length => trivial

namespace Engine

variable {engine : Engine}

/-- A step that reaches plain registers, or only those of the engine. -/
def Step.IsPlain : Step → Prop
  | .peek register | .poke register _ => Plain register
  | _ => True

theorem keeps_perform_of_plain (hblock : engine.block.IsPlain) (opened : Option Session)
    {step : Step} (h : step.IsPlain) : (engine.perform opened step).Keeps Act.IsPlain := by
  have hsession (hstep : step.OfSession) : (engine.perform opened step).Keeps Act.IsPlain :=
    (keeps_perform opened hstep).mono fun _ => OnBlock.isPlain_of_plain hblock
  cases step with
  | peek register =>
    cases opened with
    | none | some _ => exact fun _ => ⟨h, trivial⟩
  | poke register value =>
    cases opened with
    | none | some _ => exact ⟨List.forall_mem_singleton.mpr h, trivial⟩
  | openSession | closeSession | dropSession | submit _ | poll | readReply _ | transact _ | log _ =>
    exact hsession trivial

theorem keeps_performAll_of_plain (hblock : engine.block.IsPlain) (opened : Option Session)
    {steps : List Step} (h : ∀ step ∈ steps, step.IsPlain) :
    (engine.performAll opened steps).Keeps Act.IsPlain := by
  induction steps generalizing opened with
  | nil => trivial
  | cons step steps ih =>
    obtain ⟨hstep, hsteps⟩ := List.forall_mem_cons.mp h
    refine Program.Keeps.bind (keeps_perform_of_plain hblock opened hstep) fun _ => ?_
    exact Program.Keeps.bind (ih _ hsteps) fun _ => trivial

end Engine

theorem Adapter.keeps_transfer_of_plain {adapter : Adapter} (hblock : adapter.engine.block.IsPlain)
    (messages : List Bus.Message) : (adapter.transfer messages).Keeps Act.IsPlain := by
  cases adapter with
  | framed adapter =>
    have hplain : (adapter.transfer messages).Keeps Act.IsPlain :=
      (FramedAdapter.keeps_transfer messages).mono fun _ => OnBlock.isPlain_of_plain hblock
    exact hplain.bind fun _ => trivial
  | direct adapter =>
    have hplain : (adapter.transfer messages).Keeps Act.IsPlain :=
      (DirectAdapter.keeps_transfer messages).mono fun _ => OnBlock.isPlain_of_plain hblock
    exact hplain.bind fun _ => trivial

/-- **The size of the window is transparent.** On register files with indirect access that are
alike, whatever the two windows, a sequence of calls on plain registers runs the same: the same
answers, the same pauses and log lines, and files that are alike again. So does a script of the
engine, with a session open at first or not, and so does a transfer through either adapter. -/
theorem window_transparent (v w : Nat) {x y : World RegisterFile}
    (hvalues : ∀ offset, offset ≠ 0 → x.device.value offset = y.device.value offset)
    (hqueues : ∀ offset, x.device.queue offset = y.device.queue offset)
    (hlocked : x.locked = y.locked) :
    (∀ calls : List Register.Call, (∀ call ∈ calls, Plain call.register) →
      SameRun ((Register.Call.performAll calls).run (RegisterFile.device v true) x)
        ((Register.Call.performAll calls).run (RegisterFile.device w true) y)) ∧
    (∀ (engine : Engine) (opened : Option Engine.Session) (steps : List Engine.Step),
      engine.block.IsPlain → (∀ step ∈ steps, step.IsPlain) →
      SameRun ((engine.performAll opened steps).run (RegisterFile.device v true) x)
        ((engine.performAll opened steps).run (RegisterFile.device w true) y)) ∧
    ∀ (adapter : Adapter) (messages : List Bus.Message), adapter.engine.block.IsPlain →
      SameRun ((adapter.transfer messages).run (RegisterFile.device v true) x)
        ((adapter.transfer messages).run (RegisterFile.device w true) y) := by
  have hfiles : RegisterFile.Alike x.device y.device := ⟨hvalues, hqueues⟩
  refine ⟨fun calls hcalls => ?_, fun engine opened steps hblock hsteps => ?_,
    fun adapter messages hblock => ?_⟩
  · exact Program.run_alike v w (Register.Call.keeps_performAll hcalls) hfiles hlocked
  · exact Program.run_alike v w (Engine.keeps_performAll_of_plain hblock opened hsteps) hfiles
      hlocked
  · exact Program.run_alike v w (Adapter.keeps_transfer_of_plain hblock messages) hfiles hlocked

/-- No window and one of 64 KiB, the former with an old byte offset in its index register, where the
status register answers 0 and then 0x10. -/
theorem window_transparent_polaris :
    let queues : OffsetMap (List UInt32) := OffsetMap.empty.set 0x5bd8 [0, 0x10]
    let x : World RegisterFile := ⟨⟨OffsetMap.empty.set 0 0x40, queues⟩, false⟩
    let y : World RegisterFile := ⟨⟨OffsetMap.empty, queues⟩, false⟩
    let calls : List Register.Call :=
      [.write 0x16f9 7, .update 0x16f9 [Chip.start.holding 1],
       .wait 0x16f6 (Chip.done.holding 1) 3 20]
    let engine : Engine := ⟨.polaris, .default⟩
    let adapter : Adapter := .direct ⟨engine, Chip.Family.polaris10.profile⟩
    x.device.value 0 ≠ y.device.value 0 ∧
      ((Register.Call.performAll calls).run (RegisterFile.device 0 true) x).value =
        [.done, .value 0x1007, .awaited (.ok 0x10)] ∧
      SameRun ((Register.Call.performAll calls).run (RegisterFile.device 0 true) x)
        ((Register.Call.performAll calls).run (RegisterFile.device 0x10000 true) y) ∧
      SameRun ((engine.performAll none [.openSession, .poll]).run (RegisterFile.device 0 true) x)
        ((engine.performAll none [.openSession, .poll]).run (RegisterFile.device 0x10000 true) y) ∧
      SameRun ((adapter.transfer [.write 0x50 [1, 2]]).run (RegisterFile.device 0 true) x)
        ((adapter.transfer [.write 0x50 [1, 2]]).run (RegisterFile.device 0x10000 true) y) := by
  intro queues x y calls engine adapter
  have hvalues : ∀ offset, offset ≠ 0 → x.device.value offset = y.device.value offset := by
    intro offset hoffset
    simp [x, y, RegisterFile.value, hoffset]
  have hblock : engine.block.IsPlain := Chip.RegisterBlock.Known.isPlain ⟨.polaris10, rfl⟩
  have hcalls : ∀ call ∈ calls, Plain call.register := by
    decide
  have hsteps : ∀ step ∈ [Engine.Step.openSession, .poll], step.IsPlain :=
    List.forall_mem_cons.mpr ⟨trivial, List.forall_mem_singleton.mpr trivial⟩
  obtain ⟨hregister, hengine, hadapter⟩ :=
    window_transparent 0 0x10000 (x := x) (y := y) hvalues (fun _ => rfl) rfl
  have hreplies : ((Register.Call.performAll calls).run (RegisterFile.device 0 true) x).value =
      [.done, .value 0x1007, .awaited (.ok 0x10)] := by
    decide +kernel
  exact ⟨by decide, hreplies, hregister calls hcalls, hengine engine none _ hblock hsteps,
    hadapter adapter _ hblock⟩

end GpuI2c
