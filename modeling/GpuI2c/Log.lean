/-!
# Log lines

The driver reports what it does as lines with a severity. It does not decide where they go: a
sink discards them, records them, or hands them to the process-wide log under one target name.
-/

namespace GpuI2c

/-- The severity of a log line. -/
inductive LogLevel where
  | debug
  | info
  | warn
  | error
  deriving DecidableEq

/-- All severities, the least one first. -/
def LogLevel.all : List LogLevel :=
  [.debug, .info, .warn, .error]

/-- The lower-case name of a severity. -/
def LogLevel.name : LogLevel → String
  | .debug => "debug"
  | .info => "info"
  | .warn => "warn"
  | .error => "error"

/-- One line of diagnostics. -/
structure LogLine where
  level : LogLevel
  text : String
  deriving DecidableEq

/-- A line of the register trace: it reports one access of an open session. -/
def LogLine.isRegisterTrace (line : LogLine) : Bool :=
  line.text.startsWith "reg "

/-- Where log lines go. -/
inductive LogSink where
  /-- Lines are dropped. -/
  | discard
  /-- Lines go to the process-wide log. -/
  | shared
  /-- Lines are kept by the sink itself. -/
  | recorder
  deriving DecidableEq

/-- The target under which lines reach the process-wide log. -/
def LogSink.target : String := "aura_gpu"

/-- What became of a list of lines: those that reached the process-wide log, with their target,
and those that the sink recorded. -/
structure Delivery where
  shared : List (String × LogLine)
  recorded : List LogLine
  deriving DecidableEq

/-- Sends `lines` to a sink, in order. -/
def LogSink.deliver : LogSink → List LogLine → Delivery
  | .discard, _ => ⟨[], []⟩
  | .shared, lines => ⟨lines.map fun line => (target, line), []⟩
  | .recorder, lines => ⟨[], lines⟩

end GpuI2c
