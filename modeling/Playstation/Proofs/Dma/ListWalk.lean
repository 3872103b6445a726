import Mathlib.Data.Finset.Card
import Mathlib.Data.Nat.Find
import Playstation.Bus.Transfer
import Playstation.Proofs.Checked.Word
import Playstation.Proofs.Field

/-!
# Linked lists in main memory

A list is described without a limit, as the infinite chain of nodes which its
headers name. The walk with a limit passes exactly the words of the nodes up
to the first last one, and because main memory has as many words as the limit
has nodes, a chain which has a last node at all reaches it within the limit.
-/

namespace Playstation

/-- The word an address falls on is numbered by nineteen bits of it. -/
theorem toNat_wordOffset (address : UInt32) :
    (wordOffset address).toNat = address.toNat / 4 % 524288 * 4 :=
  @toNat_and_field address 0x1ffffc 19 2 rfl

/-- Falling on a word changes nothing the second time. -/
@[simp] theorem wordOffset_wordOffset (address : UInt32) :
    wordOffset (wordOffset address) = wordOffset address := by
  apply UInt32.toNat_inj.mp
  rw [toNat_wordOffset, toNat_wordOffset]
  omega

/-- Words are counted from the word an address falls on. -/
theorem wordOffset_add (address : UInt32) (count : Nat) :
    wordOffset (wordOffset address + 4 * UInt32.ofNat count) =
      wordOffset (address + 4 * UInt32.ofNat count) := by
  have hfour : (4 : UInt32).toNat = 4 := rfl
  apply UInt32.toNat_inj.mp
  simp only [toNat_wordOffset, UInt32.toNat_add, UInt32.toNat_mul, UInt32.toNat_ofNat', hfour]
  omega

namespace Ram

/-- A word is found from every address which falls on it. -/
@[simp] theorem word_wordOffset (ram : Ram) (address : UInt32) :
    ram.word (wordOffset address) = ram.word address := by
  rw [word, word, wordOffset_wordOffset]

/-- Where node number `i` of the chain is that starts at the word `base` falls
on. Each header names the next node. The chain never ends: it goes on behind a
last node. -/
def nodeAddress (ram : Ram) (base : UInt32) : (i : Nat) → UInt32
  | 0 => base &&& 0x1ffffc
  | i + 1 => ram.load .word (ram.nodeAddress base i).toNat &&& 0x1ffffc

/-- The header of node number `i` of the chain from `base`. -/
def nodeHeader (ram : Ram) (base : UInt32) (i : Nat) : UInt32 :=
  ram.load .word (ram.nodeAddress base i).toNat

/-- The command words of the node with a header at an address: as many as the
top byte of the header says. They wrap around at the end of main memory. -/
def nodeWords (ram : Ram) (address header : UInt32) : List UInt32 :=
  (List.range (header >>> 24).toNat).map fun j =>
    ram.load .word ((address + 4 * UInt32.ofNat (j + 1)) &&& 0x1ffffc).toNat

/-- The command words of the first `count` nodes of the chain from `base`, in
order. -/
def chainWords (ram : Ram) (base : UInt32) (count : Nat) : List UInt32 :=
  (List.range count).flatMap fun i =>
    ram.nodeWords (ram.nodeAddress base i) (ram.nodeHeader base i)

/-- Whether node number `k` is the first of the chain from `base` whose header
has the mark of a last node. -/
def EndsAt (ram : Ram) (base : UInt32) (k : Nat) : Prop :=
  bit (ram.nodeHeader base k) 23 = true ∧ ∀ i < k, bit (ram.nodeHeader base i) 23 = false

/-- Every address on a chain is that of a word. -/
theorem wordOffset_nodeAddress (ram : Ram) (base : UInt32) (i : Nat) :
    wordOffset (ram.nodeAddress base i) = ram.nodeAddress base i := by
  cases i <;> exact wordOffset_wordOffset _

/-- So the header of a node is the word at its address. -/
theorem word_nodeAddress (ram : Ram) (base : UInt32) (i : Nat) :
    ram.word (ram.nodeAddress base i) = ram.nodeHeader base i := by
  rw [word, wordOffset_nodeAddress, nodeHeader]

/-- The chain goes on from where it starts or where a header points. -/
theorem nodeAddress_add (ram : Ram) (base : UInt32) (i j : Nat) :
    ram.nodeAddress base (i + 1 + j) = ram.nodeAddress (ram.nodeHeader base i) j := by
  induction j with
  | zero => rfl
  | succ j ih =>
    rw [← Nat.add_assoc, nodeAddress, nodeAddress, ih]

/-- The rest of a chain is the chain from where its first header points. -/
theorem nodeHeader_succ (ram : Ram) (base : UInt32) (i : Nat) :
    ram.nodeHeader base (i + 1) = ram.nodeHeader (ram.nodeHeader base 0) i := by
  rw [nodeHeader, nodeHeader, Nat.add_comm, ← nodeAddress_add]

/-- The first node gives its words before those of the rest of the chain. -/
theorem chainWords_succ (ram : Ram) (base : UInt32) (count : Nat) :
    ram.chainWords base (count + 1) =
      ram.nodeWords (wordOffset base) (ram.nodeHeader base 0) ++
        ram.chainWords (ram.nodeHeader base 0) count := by
  have haddress (i : Nat) :
      ram.nodeAddress base (i + 1) = ram.nodeAddress (ram.nodeHeader base 0) i := by
    rw [Nat.add_comm, ← nodeAddress_add]
  rw [chainWords, chainWords, List.range_succ_eq_map, List.flatMap_cons, List.flatMap_map]
  simp only [Nat.succ_eq_add_one, haddress, nodeHeader_succ]
  rfl

/-- A chain with a last node after its first ends one node later than its
rest. -/
theorem EndsAt.rest {ram : Ram} {base : UInt32} {k : Nat} (h : ram.EndsAt base (k + 1)) :
    bit (ram.nodeHeader base 0) 23 = false ∧ ram.EndsAt (ram.nodeHeader base 0) k := by
  refine ⟨h.2 0 (by omega), ?_, ?_⟩
  · rw [← nodeHeader_succ]
    exact h.1
  · intro i hi
    rw [← nodeHeader_succ]
    exact h.2 (i + 1) (by omega)

/-- A chain which has a last node has a first one. -/
theorem exists_endsAt {ram : Ram} {base : UInt32}
    (h : ∃ i, bit (ram.nodeHeader base i) 23 = true) : ∃ k, ram.EndsAt base k := by
  classical
  refine ⟨Nat.find h, Nat.find_spec h, ?_⟩
  intro i hi
  exact Bool.eq_false_of_not_eq_true (Nat.find_min h hi)

/-- Among more nodes than main memory has words two are the same. -/
theorem exists_nodeAddress_eq (ram : Ram) (base : UInt32) :
    ∃ i j, i < j ∧ j ≤ maxListNodes ∧ ram.nodeAddress base i = ram.nodeAddress base j := by
  have hmaps : Set.MapsTo (fun i => (ram.nodeAddress base i).toNat / 4)
      (Finset.range (maxListNodes + 1) : Set Nat) (Finset.range maxListNodes : Set Nat) := by
    intro i _
    have hword := toNat_wordOffset (ram.nodeAddress base i)
    rw [wordOffset_nodeAddress] at hword
    simp only [Finset.coe_range, Set.mem_Iio]
    unfold maxListNodes ramSize
    omega
  have hcard : (Finset.range maxListNodes).card < (Finset.range (maxListNodes + 1)).card := by
    rw [Finset.card_range, Finset.card_range]
    omega
  obtain ⟨i, hi, j, hj, hne, heq⟩ := Finset.exists_ne_map_eq_of_card_lt_of_maps_to hcard hmaps
  have hsame : ram.nodeAddress base i = ram.nodeAddress base j := by
    have hi4 := toNat_wordOffset (ram.nodeAddress base i)
    have hj4 := toNat_wordOffset (ram.nodeAddress base j)
    rw [wordOffset_nodeAddress] at hi4 hj4
    apply UInt32.toNat_inj.mp
    omega
  rw [Finset.mem_range] at hi hj
  rcases Nat.lt_or_gt_of_ne hne with h | h
  · exact ⟨i, j, h, by omega, hsame⟩
  · exact ⟨j, i, h, by omega, hsame.symm⟩

/-- Where a chain comes back to a node, it goes on as it did from there. -/
theorem nodeAddress_add_congr {ram : Ram} {base : UInt32} {i j : Nat}
    (h : ram.nodeAddress base i = ram.nodeAddress base j) (count : Nat) :
    ram.nodeAddress base (i + count) = ram.nodeAddress base (j + count) := by
  induction count with
  | zero => exact h
  | succ count ih => rw [← Nat.add_assoc, ← Nat.add_assoc, nodeAddress, nodeAddress, ih]

/-- The first last node of a chain is among as many nodes as main memory has
words. -/
theorem EndsAt.lt_maxListNodes {ram : Ram} {base : UInt32} {k : Nat} (h : ram.EndsAt base k) :
    k < maxListNodes := by
  by_contra hk
  obtain ⟨i, j, hij, hj, heq⟩ := ram.exists_nodeAddress_eq base
  -- The chain repeats from `j` on what it had from `i` on, so the last node was there before.
  have hearlier : ram.nodeAddress base (i + (k - j)) = ram.nodeAddress base k := by
    rw [nodeAddress_add_congr heq (k - j), Nat.add_sub_cancel' (by omega)]
  have hnot := h.2 (i + (k - j)) (by omega)
  rw [nodeHeader, hearlier, ← nodeHeader, h.1] at hnot
  exact Bool.noConfusion hnot

end Ram

section Walk

variable {σ : Type} (receive : σ → UInt32 → σ) (ram : Ram)

/-- The words after an address arrive one by one. -/
theorem foldNode_eq (count : Nat) (address : UInt32) (state : σ) :
    foldNode receive ram count address state =
      ((List.range count).map fun j => ram.word (address + 4 * UInt32.ofNat (j + 1))).foldl
        receive state := by
  induction count generalizing address state with
  | zero => rfl
  | succ count ih =>
    have hword (j : Nat) : ram.word (wordOffset (address + 4) + 4 * UInt32.ofNat (j + 1)) =
        ram.word (address + 4 * UInt32.ofNat (j + 1 + 1)) := by
      rw [Ram.word, wordOffset_add, UInt32.ofNat_add (j + 1) 1, Ram.word]
      congr 3
      rw [UInt32.mul_add, UInt32.add_assoc, UInt32.add_comm 4]
      rfl
    rw [foldNode, ih, List.range_succ_eq_map, List.map_cons, List.map_map, List.foldl_cons,
      Ram.word_wordOffset]
    simp only [hword]
    rfl

/-- The header of the first node is the word at the start. -/
theorem word_eq_nodeHeader (base : UInt32) : ram.word (wordOffset base) = ram.nodeHeader base 0 :=
  ram.word_nodeAddress base 0

/-- The length of a node is the top byte of its header. -/
theorem nodeLength_eq (header : UInt32) : nodeLength header = (header >>> 24).toNat := by
  have hplaces : (24 : UInt32).toNat % 32 = 24 := rfl
  have hheader := header.toNat_lt
  rw [nodeLength, toNat_bits _ (by decide) (by decide), UInt32.toNat_shiftRight, hplaces,
    Nat.shiftRight_eq_div_pow]
  omega

/-- The command words of a node arrive one by one. -/
theorem foldNode_nodeLength (header address : UInt32) (state : σ) :
    foldNode receive ram (nodeLength header) address state =
      (ram.nodeWords address header).foldl receive state := by
  rw [foldNode_eq, nodeLength_eq]
  rfl

/-- A walk whose limit covers the first last node passes the words of the
chain up to and including that node, and says that it ended. -/
theorem foldList_of_endsAt {base : UInt32} {k limit : Nat} (state : σ) (h : ram.EndsAt base k)
    (hk : k < limit) :
    foldList receive ram limit (wordOffset base) state =
      ((ram.chainWords base (k + 1)).foldl receive state, true) := by
  induction k generalizing base limit state with
  | zero =>
    obtain ⟨limit, rfl⟩ : ∃ n, limit = n + 1 := ⟨limit - 1, by omega⟩
    have hlast : isLastNode (ram.nodeHeader base 0) = true := h.1
    rw [foldList, word_eq_nodeHeader, foldNode_nodeLength, if_pos hlast, Ram.chainWords_succ,
      List.foldl_append]
    rfl
  | succ k ih =>
    obtain ⟨limit, rfl⟩ : ∃ n, limit = n + 1 := ⟨limit - 1, by omega⟩
    obtain ⟨hfirst, hrest⟩ := h.rest
    have hmore : ¬isLastNode (ram.nodeHeader base 0) = true := by
      rw [isLastNode, hfirst]
      exact Bool.false_ne_true
    rw [foldList, word_eq_nodeHeader, foldNode_nodeLength, if_neg hmore, ih _ hrest (by omega),
      Ram.chainWords_succ ram base (k + 1), List.foldl_append]

/-- A walk along a chain without last node does not end. -/
theorem foldList_of_endless {base : UInt32} (limit : Nat) (state : σ)
    (h : ∀ i, bit (ram.nodeHeader base i) 23 = false) :
    (foldList receive ram limit (wordOffset base) state).2 = false := by
  induction limit generalizing base state with
  | zero => rfl
  | succ limit ih =>
    have hmore : ¬isLastNode (ram.nodeHeader base 0) = true := by
      rw [isLastNode, h 0]
      exact Bool.false_ne_true
    rw [foldList, word_eq_nodeHeader, if_neg hmore]
    apply ih
    intro i
    rw [← Ram.nodeHeader_succ]
    exact h (i + 1)

end Walk

end Playstation
