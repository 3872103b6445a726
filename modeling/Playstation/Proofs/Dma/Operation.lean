import Mathlib.Data.List.Induction
import Playstation.Proofs.Dma.Store

/-!
# Sequences of operations of the DMA controller

The controller by itself takes stores to its registers, and is told the end of a
transfer. Whatever is done with the bus, its controller goes through a sequence of
these, with one store for each that reaches a register, in the same order. So what
holds after every sequence holds of the controller on the bus.
-/

namespace Playstation

namespace Dma

/-- What can be done with the controller. -/
inductive Operation where
  /-- Store to the register at an offset. -/
  | store (offset value : UInt32)
  /-- End the transfer on a port. -/
  | complete (port : Port)
  deriving DecidableEq

/-- The register which an operation stores to, if it does. -/
def Operation.register? : Operation → Option DmaRegister
  | store offset _ => DmaRegister.ofOffset? offset
  | complete _ => none

/-- The controller after an operation. A store which is refused leaves it. -/
def perform (dma : Dma) (operation : Operation) : Dma :=
  match operation with
  | .store offset value =>
    match dma.store offset value with
    | .ok (after, _) => after
    | .error _ => dma
  | .complete port => dma.complete port

/-- The controller after a sequence of operations. -/
def performAll (dma : Dma) (operations : List Operation) : Dma := operations.foldl perform dma

/-- One sequence after another. -/
theorem performAll_append (dma : Dma) (operations others : List Operation) :
    dma.performAll (operations ++ others) = (dma.performAll operations).performAll others :=
  List.foldl_append

/-- A store has no register or is refused, or the register is written. -/
theorem perform_store_cases (dma : Dma) (offset value : UInt32) :
    (dma.perform (.store offset value) = dma ∧
        ∀ register ∈ DmaRegister.ofOffset? offset,
          ∃ fault, dma.write register value = .error fault) ∨
      ∃ register, DmaRegister.ofOffset? offset = some register ∧
        dma.write register value = .ok (dma.perform (.store offset value)) := by
  rw [perform, store]
  cases hregister : DmaRegister.ofOffset? offset with
  | none =>
    refine .inl ⟨rfl, ?_⟩
    rintro register ⟨⟩
  | some register =>
    cases hwrite : dma.write register value with
    | error fault =>
      refine .inl ⟨by simp only [hwrite], ?_⟩
      rintro _ ⟨⟩
      exact ⟨fault, hwrite⟩
    | ok after => exact .inr ⟨register, rfl, by simp only [hwrite]⟩

end Dma

namespace Bus

variable {bus : Bus} {w : Width} {offset value : UInt32} {register : DmaRegister}

/-- A store to a register is one for the controller, which may be told the end of a
transfer then. -/
theorem exists_performAll_storeDma
    (h : DmaRegister.ofOffset? (offset &&& 0xfffffffc) = some register) :
    ∃ operations : List Dma.Operation,
      (bus.storeDma w offset value).1.dma = bus.dma.performAll operations ∧
        operations.filterMap Dma.Operation.register? = [register] := by
  obtain ⟨word, hword⟩ := @exists_dmaStoreValue bus w offset value register h
  have hstored : [Dma.Operation.store (offset &&& 0xfffffffc) word].filterMap
      Dma.Operation.register? = [register] := by
    simp [Dma.Operation.register?, h]
  have hperform : bus.dma.performAll [.store (offset &&& 0xfffffffc) word] =
      bus.dma.perform (.store (offset &&& 0xfffffffc) word) := rfl
  simp only [storeDma, hword]
  cases hstore : bus.dma.store (offset &&& 0xfffffffc) word with
  | error fault =>
    refine ⟨_, ?_, hstored⟩
    rw [hperform, Dma.perform]
    simp only [hstore]
  | ok result =>
    obtain ⟨dma, ready?⟩ := result
    have hdma : bus.dma.performAll [.store (offset &&& 0xfffffffc) word] = dma := by
      rw [hperform, Dma.perform]
      simp only [hstore]
    cases ready? with
    | none => exact ⟨_, hdma.symm, hstored⟩
    | some port =>
      rcases transfer_cases { bus with dma } port with ⟨-, hdone⟩ | ⟨fault, -, -, hfailed⟩
      · refine ⟨[.store (offset &&& 0xfffffffc) word] ++ [.complete port], ?_, ?_⟩
        · rw [Dma.performAll_append, hdma]
          exact hdone
        · rw [List.filterMap_append, hstored]
          rfl
      · exact ⟨_, hfailed.trans hdma.symm, hstored⟩

/-- An operation on the bus. -/
theorem Access.exists_performAll_dma (access : Access) :
    ∃ operations : List Dma.Operation,
      access.after.dma = access.bus.dma.performAll operations ∧
        operations.filterMap Dma.Operation.register? = access.operation.register?.toList := by
  cases hregister : access.operation.register? with
  | none => exact ⟨[], access.after_dma hregister, rfl⟩
  | some register =>
    obtain ⟨w, offset, value, hoffset, hafter, -⟩ := access.stores_of_register hregister
    rw [hafter]
    exact exists_performAll_storeDma hoffset

/-- A sequence of operations on the bus is a sequence of operations for the
controller, with stores to the same registers. -/
theorem exists_performAll_dma (bus : Bus) (operations : List Operation) :
    ∃ done : List Dma.Operation,
      (bus.performAll operations).dma = bus.dma.performAll done ∧
        done.filterMap Dma.Operation.register? = operations.filterMap Operation.register? := by
  induction operations using List.reverseRecOn with
  | nil => exact ⟨[], rfl, rfl⟩
  | append_singleton operations operation ih =>
    obtain ⟨done, hdma, hdone⟩ := ih
    obtain ⟨last, hlast, hregister⟩ :=
      Access.exists_performAll_dma ⟨bus.performAll operations, operation⟩
    refine ⟨done ++ last, ?_, ?_⟩
    · rw [performAll_concat, Dma.performAll_append, ← hdma]
      exact hlast
    · rw [List.filterMap_append, List.filterMap_append, hdone, hregister]
      cases hsingle : operation.register? with
      | none => simp [hsingle]
      | some register => simp [hsingle]

end Bus

end Playstation
