import Playstation.Cop0

/-!
# Sequences of operations on the system coprocessor

The system coprocessor is only ever asked to enter an exception, to return from
one, or to take a value for one of its registers. Whatever a program does, what
the coprocessor holds is what some sequence of these has left.
-/

namespace Playstation

namespace Cop0

/-- What can be done with the system coprocessor. -/
inductive Operation where
  /-- Enter an exception. -/
  | enter (exception : Exception) (pc : UInt32) (inDelaySlot : Bool)
  /-- Return from an exception. -/
  | leave
  /-- Write a register. -/
  | write (register : Nat) (value : UInt32)
  deriving DecidableEq

namespace Operation

/-- Whether an exception is entered. -/
def isEntry : Operation → Bool
  | enter _ _ _ => true
  | _ => false

/-- Whether an exception is returned from. -/
def isReturn : Operation → Bool
  | leave => true
  | _ => false

/-- Whether the status register is written. -/
def writesStatus : Operation → Bool
  | write register _ => register == 12
  | _ => false

end Operation

/-- The coprocessor after an operation. -/
def perform (cop0 : Cop0) : Operation → Cop0
  | .enter exception pc inDelaySlot => cop0.enter exception pc inDelaySlot
  | .leave => cop0.leave
  | .write register value => cop0.write register value

/-- The coprocessor after a sequence of operations. -/
def performAll (cop0 : Cop0) (operations : List Operation) : Cop0 := operations.foldl perform cop0

/-- The last operation of a sequence finds what the others leave. -/
theorem performAll_concat (cop0 : Cop0) (operations : List Operation) (operation : Operation) :
    cop0.performAll (operations ++ [operation]) =
      (cop0.performAll operations).perform operation := by
  rw [performAll, List.foldl_append]
  rfl

end Cop0

end Playstation
