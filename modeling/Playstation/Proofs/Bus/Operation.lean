import Playstation.Proofs.Bus.Access

/-!
# Sequences of bus operations

The bus is used by loads, peeks and stores, one after the other. A refused
operation ends nothing; the next one goes on with the bus which it left. The
accesses of a sequence are its operations, each with the bus it has found, so
that what holds after the sequence can be told from what has happened in it.
-/

namespace Playstation

namespace Bus

/-- What can be done with the bus. -/
inductive Operation where
  /-- Load a value. -/
  | load (w : Width) (address : UInt32)
  /-- Load a value without the devices noticing. -/
  | peek (w : Width) (address : UInt32)
  /-- Store a value. -/
  | store (w : Width) (address value : UInt32)
  deriving DecidableEq

/-- The bus after an operation, and why that was refused, if it was. -/
def perform (bus : Bus) (operation : Operation) : Bus × Option BusFault :=
  match operation with
  | .load w address =>
    match bus.load w address with
    | (bus, .ok _) => (bus, none)
    | (bus, .error fault) => (bus, some fault)
  | .peek w address =>
    match bus.peek w address with
    | .ok _ => (bus, none)
    | .error fault => (bus, some fault)
  | .store w address value => bus.store w address value

/-- An operation together with the bus it finds. -/
structure Access where
  /-- The bus before the operation. -/
  bus : Bus
  /-- The operation. -/
  operation : Operation

namespace Access

/-- The bus after the operation. -/
def after (access : Access) : Bus := (access.bus.perform access.operation).1

/-- Why the operation is refused, if it is. -/
def fault? (access : Access) : Option BusFault := (access.bus.perform access.operation).2

end Access

/-- The bus after a sequence of operations, refused ones included. -/
def performAll (bus : Bus) (operations : List Operation) : Bus :=
  operations.foldl (fun bus operation => (bus.perform operation).1) bus

/-- The accesses of a sequence of operations in order. -/
def accesses (bus : Bus) : List Operation → List Access
  | [] => []
  | operation :: operations =>
    ⟨bus, operation⟩ :: accesses (bus.perform operation).1 operations

/-- The last operation of a sequence finds what the others leave. -/
theorem performAll_concat (bus : Bus) (operations : List Operation) (operation : Operation) :
    bus.performAll (operations ++ [operation]) =
      Access.after ⟨bus.performAll operations, operation⟩ := by
  rw [performAll, List.foldl_append]
  rfl

/-- The last operation of a sequence is its last access. -/
theorem accesses_concat (bus : Bus) (operations : List Operation) (operation : Operation) :
    bus.accesses (operations ++ [operation]) =
      bus.accesses operations ++ [⟨bus.performAll operations, operation⟩] := by
  induction operations generalizing bus with
  | nil => rfl
  | cons first operations ih =>
    rw [List.cons_append, accesses, accesses, ih, List.cons_append]
    rfl

/-- The accesses of a part of a sequence from its start are accesses of the
whole. -/
theorem accesses_mono (bus : Bus) {done operations : List Operation} (h : done <+: operations) :
    bus.accesses done <+: bus.accesses operations := by
  obtain ⟨rest, rfl⟩ := h
  induction done generalizing bus with
  | nil => exact List.nil_prefix
  | cons first done ih =>
    rw [List.cons_append, accesses, accesses]
    exact (List.prefix_cons_inj _).mpr (ih _)

/-- The graphics processor is all of the bus that a load can change. -/
theorem perform_load (bus : Bus) (w : Width) (address : UInt32) :
    (bus.perform (.load w address)).1 = { bus with gpu := (bus.notice w address).gpu } := by
  have hload : bus.load w address =
      (bus.notice w address, (bus.notice w address).peek w address) := rfl
  rw [← notice_eq_withGpu, perform]
  simp only [hload]
  split <;> next heq => exact (Prod.mk.inj heq).1.symm

/-- A peek changes nothing. -/
theorem perform_peek (bus : Bus) (w : Width) (address : UInt32) :
    (bus.perform (.peek w address)).1 = bus := by
  rw [perform]
  split <;> rfl

end Bus

end Playstation
