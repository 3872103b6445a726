import Playstation.Event.Text
import Playstation.Invocation
import Playstation.Settings

/-!
# Sessions

A session is one run of the program: it settles what to do from arguments and
settings, reads the boot ROM, and runs the machine from reset until a number of
instructions is done or a host fault ends it. What it has to tell goes to a log.
Files, settings and the log are those of a host, whose effects can be in any monad.
To run without a number, the monad must be one in which an action can go on forever.
-/

namespace Playstation

/-- A monad in which something can be done again and again. -/
class MonadRepeat (m : Type → Type) [Monad m] where
  /-- Do something from a state, and again from each state it leaves, until it
  gives a result. -/
  repeatUntil {σ α : Type} [Nonempty α] (body : σ → m (σ ⊕ α)) : σ → m α
  /-- The first time is as any other. -/
  repeatUntil_eq {σ α : Type} [Nonempty α] (body : σ → m (σ ⊕ α)) (state : σ) :
    repeatUntil body state = body state >>= Sum.elim (repeatUntil body) pure

/-- What the program runs on. -/
structure Host (m : Type → Type) where
  /-- The files. -/
  files : FileSystem m
  /-- The settings which a text says, or a report of what is wrong with it. -/
  parseSettings : String → Except String Settings
  /-- Where the user usually keeps settings. -/
  settingsPath : Option String
  /-- Write some text for the user. -/
  write : String → m Unit
  /-- Open the log with the text of a filter. -/
  openLog : (filter : String) → m (Logger m)

instance : Nonempty Cpu := ⟨.powerOn ⟨.filled biosSize 0, "", ""⟩⟩

/-- A machine about to run. -/
structure Session (m : Type → Type) where
  /-- Where messages go. -/
  logger : Logger m
  /-- How many instructions to run, if there is a limit. -/
  steps : Option Nat
  /-- The machine. -/
  cpu : Cpu

/-- How the program ends. -/
inductive Ending where
  /-- All instructions were run. -/
  | success
  /-- The machine could not be run, or not to the end. -/
  | failure
  deriving DecidableEq

/-- The code by which the program reports its end. -/
def Ending.code : Ending → Nat
  | success => 0
  | failure => 1

namespace Session

variable {m : Type → Type} [Monad m]

/-- The name under which the program itself logs. -/
def target : String := "psxemu"

/-- Write a message if it is wanted. -/
@[inline] def log (logger : Logger m) (level : Level) (target text : String) : m Unit :=
  if logger.wants level target then logger.write level target text else pure ()

/-- Write a line which is no message. -/
def say (host : Host m) (line : String) : m Unit := host.write (line ++ "\n")

/-- The text of the log filter: that of the settings, or else progress and all that
is more severe. -/
def filterText (settings : Except SettingsFault Settings) : String :=
  match settings with
  | .ok { log := some text, .. } => text
  | _ => "info"

/-- Read the boot ROM at a path and make a machine of it. Without a boot ROM there
is no session. -/
def boot (host : Host m) (logger : Logger m) (bios : Option String) (steps : Option Nat) :
    m (Option (Session m)) := do
  match bios with
  | none =>
    log logger .error target "no BIOS given"
    say host Invocation.usage
    return none
  | some path =>
    match Bios.ofFile path (← host.files.read path) with
    | .error fault =>
      log logger .error target fault.message
      return none
    | .ok bios =>
      log logger .info target s!"running BIOS '{bios.name}'"
      return some ⟨logger, steps, Cpu.powerOn bios⟩

/-- Settle what to do and make the machine. Settings that cannot be loaded count
as none. -/
def start (host : Host m) (arguments : List String) : m (Option (Session m)) := do
  match Invocation.parse? arguments with
  | none =>
    say host Invocation.usage
    return none
  | some invocation =>
    let loaded ←
      Settings.load host.files host.parseSettings invocation.settings host.settingsPath
    let logger ← host.openLog (filterText loaded)
    let settings ←
      match loaded with
      | .ok settings => pure settings
      | .error fault =>
        log logger .warn target s!"{fault.message}, using default settings"
        pure {}
    boot host logger (invocation.bios <|> settings.bios) settings.steps

/-- Write what the next instruction reports. -/
def report (logger : Logger m) (cpu : Cpu) : m Unit :=
  let wanted (event : Event) := logger.wants event.level event.component.target
  (cpu.stepEvents wanted).forM fun event =>
    log logger event.level event.component.target event.text

/-- Run a number of instructions, or until a host fault, and write what they
report. -/
@[specialize] def advance (logger : Logger m) : (steps : Nat) → Cpu → m (Cpu × Option HostFault)
  | 0, cpu => pure (cpu, none)
  | steps + 1, cpu => do
    report logger cpu
    match cpu.step with
    | (cpu, none) => advance logger steps cpu
    | (cpu, some fault) => pure (cpu, some fault)

/-- Run a number of instructions and tell whether to go on from there, which is
so unless a host fault has ended them. -/
@[specialize] def turn (chunk : Nat) (logger : Logger m) (cpu : Cpu) :
    m (Cpu ⊕ Cpu × Option HostFault) := do
  match ← advance logger chunk cpu with
  | (cpu, none) => return .inl cpu
  | stopped => return .inr stopped

/-- Run instructions until a host fault, some number of them at a time, and write
what they report. -/
@[specialize] def runUntilFault [MonadRepeat m] (chunk : Nat) (logger : Logger m) :
    Cpu → m (Cpu × Option HostFault) :=
  MonadRepeat.repeatUntil (turn chunk logger)

/-- Write how the machine stopped. -/
def finish (logger : Logger m) : Cpu × Option HostFault → m Ending
  | (cpu, none) => do
    log logger .info target s!"stopped at pc {hex 8 cpu.pc.toNat}"
    return .success
  | (_, some fault) => do
    log logger .error target fault.message
    return .failure

/-- A whole run of the program. How to run instructions without a limit is
left open, because nothing but a host fault ends it. -/
@[inline] def run (host : Host m) (unlimited : Logger m → Cpu → m (Cpu × Option HostFault))
    (arguments : List String) : m Ending := do
  match ← start host arguments with
  | none => return .failure
  | some ⟨logger, some steps, cpu⟩ => finish logger (← advance logger steps cpu)
  | some ⟨logger, none, cpu⟩ => finish logger (← unlimited logger cpu)

end Session

end Playstation
