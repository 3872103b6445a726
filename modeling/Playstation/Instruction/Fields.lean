import Playstation.Bits

/-!
# Fields of an instruction word

An instruction is a word of 32 bits in one of three layouts, which share the
operation field at the top. The fields overlap; which of them mean something
depends on the operation.
-/

namespace Playstation

/-- One of the 32 general purpose registers. -/
abbrev Register : Type := Fin 32

namespace Register

/-- The names of the registers by convention. -/
def names : Vector String 32 :=
  #v["zero", "at", "v0", "v1", "a0", "a1", "a2", "a3", "t0", "t1", "t2", "t3", "t4", "t5", "t6",
    "t7", "s0", "s1", "s2", "s3", "s4", "s5", "s6", "s7", "t8", "t9", "k0", "k1", "gp", "sp",
    "fp", "ra"]

/-- The name of a register in assembly text. -/
def text (register : Register) : String := "$" ++ names.get register

/-- The register with a number, of which only the five low bits count. -/
def ofNat (number : Nat) : Register := ⟨number % 32, Nat.mod_lt _ (by omega)⟩

/-- The register which is always zero. -/
def zero : Register := 0

/-- First argument of a call. -/
def a0 : Register := 4

/-- Return address. -/
def ra : Register := 31

end Register

/-- A word read as an instruction. -/
structure InstructionWord where
  /-- The bits. -/
  value : UInt32
  deriving DecidableEq

namespace InstructionWord

/-- Operation. -/
def op (word : InstructionWord) : UInt32 := bits word.value 26 31

/-- Function within the first operation. -/
def function (word : InstructionWord) : UInt32 := bits word.value 0 5

/-- Operation of a coprocessor, in the place of the source register. -/
def copOp (word : InstructionWord) : UInt32 := bits word.value 21 25

/-- Immediate value. -/
def imm (word : InstructionWord) : UInt32 := bits word.value 0 15

/-- Immediate value with its sign extended. -/
def signedImm (word : InstructionWord) : UInt32 :=
  (bits word.value 0 15).toUInt16.toInt16.toInt32.toUInt32

/-- Target of a jump, in words. -/
def target (word : InstructionWord) : UInt32 := bits word.value 0 25

/-- Amount of a shift. -/
def shift (word : InstructionWord) : UInt32 := bits word.value 6 10

/-- Destination register. -/
def rd (word : InstructionWord) : Register := .ofNat (bits word.value 11 15).toNat

/-- Target register. -/
def rt (word : InstructionWord) : Register := .ofNat (bits word.value 16 20).toNat

/-- Source register. -/
def rs (word : InstructionWord) : Register := .ofNat (bits word.value 21 25).toNat

/-- Coprocessor register, in the place of the destination register. -/
def copRegister (word : InstructionWord) : Nat := (bits word.value 11 15).toNat

/-- Whether a comparison with zero asks for greater or equal, not for less. -/
def greaterOrEqual (word : InstructionWord) : Bool := bit word.value 16

/-- Whether a comparison with zero also writes the return address. -/
def links (word : InstructionWord) : Bool := bits word.value 17 20 == 8

end InstructionWord

end Playstation
