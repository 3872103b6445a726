import Playstation.Cpu.Step
import Playstation.Event.Device

/-!
# What the processor reports

The processor reports every instruction it executes, every exception, and
stores which go nowhere. Like the reports of devices these are computed from
the state before a step, and only those are kept which are wanted.
-/

namespace Playstation

/-- A report of the processor or of something on its bus. -/
inductive Event where
  /-- An instruction is executed. -/
  | instruction (pc : UInt32) (word : InstructionWord)
  /-- A word that is no instruction is executed. -/
  | illegal (word pc : UInt32)
  /-- An exception is raised. -/
  | exception (exception : Exception) (pc : UInt32)
  /-- A system call with its first argument. -/
  | syscall (argument : UInt32)
  /-- A store is dropped because the cache is isolated. -/
  | isolatedStore (value address : UInt32)
  /-- A write to a register of the system coprocessor is ignored. -/
  | ignoredWrite (value : UInt32) (register : Nat)
  /-- Something on the bus reports. -/
  | device (event : DeviceEvent)
  deriving DecidableEq

namespace Cpu

/-- What is reported about storing a value. -/
def storeValueEvents (wanted : Event → Bool) (cpu : Cpu) (w : Width) (address value : UInt32) :
    Array Event :=
  if cpu.cop0.cacheIsolated then #[.isolatedStore value address]
  else (cpu.bus.storeEvents (fun event => wanted (.device event)) w address value).map .device

/-- What is reported about storing a register. -/
def performStoreEvents (wanted : Event → Bool) (cpu : Cpu) (op : StoreOp) (rt base : Register)
    (offset : UInt32) : Array Event :=
  let address := cpu.memoryAddress base offset
  let value := cpu.register rt
  let place := op.place address
  if op.merges then
    let reading := (Bus.loadEvents .word place).map Event.device
    match cpu.bus.peek .word place with
    | .ok old =>
      reading ++ cpu.storeValueEvents wanted op.width place (op.combine address old value)
    | .error _ => reading
  else cpu.storeValueEvents wanted op.width place (op.combine address 0 value)

/-- What is reported about an instruction which raises no exception. -/
def performEvents (wanted : Event → Bool) (cpu : Cpu) (instruction : Instruction) :
    Array Event :=
  match instruction with
  | .load op _ base offset =>
    (Bus.loadEvents op.width (op.place (cpu.memoryAddress base offset))).map .device
  | .store op rt base offset => cpu.performStoreEvents wanted op rt base offset
  | .mtc0 rt register =>
    if Cop0.ignores register then #[.ignoredWrite (cpu.register rt) register] else #[]
  | _ => #[]

/-- What is reported about an instruction word ahead of its exception. -/
def announceEvents (cpu : Cpu) (word : InstructionWord) : Array Event :=
  match word.decode with
  | .syscall => #[.syscall (cpu.register .a0)]
  | .illegal => #[.illegal word.value cpu.currentPc]
  | _ => #[]

/-- What is reported about executing an instruction word. -/
def executeEvents (wanted : Event → Bool) (cpu : Cpu) (word : InstructionWord) :
    Array Event :=
  match cpu.exception? word.decode with
  | some exception => cpu.announceEvents word |>.push (.exception exception cpu.currentPc)
  | none => cpu.performEvents wanted word.decode

/-- What is reported about the next step, as far as it is wanted. -/
def stepEvents (wanted : Event → Bool) (cpu : Cpu) : Array Event :=
  let cpu := cpu.begin
  let events :=
    if Width.word.aligns cpu.pc then
      let fetching := (Bus.loadEvents .word cpu.pc).map Event.device
      match cpu.fetch with
      | (cpu, .ok word) =>
        let cpu := cpu.advance
        fetching.push (.instruction cpu.currentPc word) ++ cpu.executeEvents wanted word
      | (_, .error _) => fetching
    else #[.exception (.addressLoadError cpu.pc) cpu.pc]
  events.filter wanted

end Cpu

end Playstation
