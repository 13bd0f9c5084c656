import GpuI2c.Log

/-!
# Driver programs

A driver program is a tree of requests to its surroundings: it reads and writes 32-bit registers,
pauses, logs, and takes or releases the engine lock. The tree says what is asked and in which
order, for every value a register may return; who answers is left open. So a statement about all
devices is a statement about the tree, proved by induction on it.

Only a read has an answer. Every other request is a `Command`.
-/

namespace GpuI2c

/-- A request to the delay provider. -/
inductive Pause where
  | micros (count : Nat)
  | millis (count : Nat)
  deriving DecidableEq

/-- The microseconds a pause lasts. -/
def Pause.inMicros : Pause → Nat
  | .micros count => count
  | .millis count => 1000 * count

/-- A request that has no answer. -/
inductive Command where
  /-- Write a register, given by its dword index. -/
  | write (register value : UInt32)
  | pause (length : Pause)
  | log (line : LogLine)
  /-- Take the engine lock. -/
  | lock
  /-- Release the engine lock. -/
  | unlock
  deriving DecidableEq

/-- A driver program with a result in `α`. -/
inductive Program (α : Type) where
  /-- The program has ended with a value. -/
  | done (value : α)
  /-- Read a register, given by its dword index, and go on with its value. -/
  | read (register : UInt32) (next : UInt32 → Program α)
  /-- Give a command and go on. -/
  | command (what : Command) (next : Program α)

namespace Program

variable {α β γ : Type}

/-- Run `p`, then the program that `f` makes of its value. -/
def bind : Program α → (α → Program β) → Program β
  | .done value, f => f value
  | .read register next, f => .read register fun value => (next value).bind f
  | .command what next, f => .command what (next.bind f)

instance : Monad Program where
  pure := .done
  bind := Program.bind

/-- The program that gives one command. -/
def give (what : Command) : Program Unit :=
  .command what (.done ())

/-- Log one line. -/
def log (level : LogLevel) (text : String) : Program Unit :=
  give (.log ⟨level, text⟩)

/-- Pause. -/
def pause (length : Pause) : Program Unit :=
  give (.pause length)

/-! ## Sequencing -/

@[simp] theorem pure_eq_done (value : α) : (pure value : Program α) = .done value := rfl

@[simp] theorem bind_eq (p : Program α) (f : α → Program β) : (p >>= f) = p.bind f := rfl

@[simp] theorem done_bind (value : α) (f : α → Program β) :
    (Program.done value).bind f = f value := rfl

@[simp] theorem read_bind (register : UInt32) (next : UInt32 → Program α) (f : α → Program β) :
    (Program.read register next).bind f = .read register fun value => (next value).bind f := rfl

@[simp] theorem command_bind (what : Command) (next : Program α) (f : α → Program β) :
    (Program.command what next).bind f = .command what (next.bind f) := rfl

@[simp] theorem bind_done (p : Program α) : p.bind .done = p := by
  induction p with
  | done value => rfl
  | read register next ih => simp [ih]
  | command what next ih => simp [ih]

theorem bind_assoc (p : Program α) (f : α → Program β) (g : β → Program γ) :
    (p.bind f).bind g = p.bind fun value => (f value).bind g := by
  induction p with
  | done value => rfl
  | read register next ih => simp [ih]
  | command what next ih => simp [ih]

end Program

end GpuI2c
