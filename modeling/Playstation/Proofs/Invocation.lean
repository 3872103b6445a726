import Playstation.Invocation
import Mathlib.Data.List.Basic

/-!
# Reading the arguments

Arguments are read from the left. Each option takes the argument behind it, whatever that
is, and all others are left over. A program is invoked if nothing is missing behind an
option and no more than one argument is left over.
-/

namespace Playstation

namespace Invocation

/-- Arguments are read as options with the paths behind them, and others. -/
inductive Reads : (arguments given others : List String) → Prop
  /-- Nothing is left. -/
  | nil : Reads [] [] []
  /-- An option takes the argument behind it. -/
  | option {arguments given others : List String} (path : String)
      (h : Reads arguments given others) :
      Reads ("--config" :: path :: arguments) (path :: given) others
  /-- Any other argument is left over. -/
  | other {arguments given others : List String} {argument : String}
      (hother : argument ≠ "--config") (h : Reads arguments given others) :
      Reads (argument :: arguments) given (argument :: others)

variable {arguments given others : List String} {argument : String} {before : Invocation}

/-- The first argument that is no option is left over, and there must be no other one. -/
theorem extend?_of_ne (h : argument ≠ "--config") (before : Invocation) (arguments : List String) :
    before.extend? (argument :: arguments) =
      if before.bios.isSome then none
      else { before with bios := some argument }.extend? arguments := by
  rw [extend?]
  · simp only [h, false_or]
  · exact fun _ _ hoption => absurd hoption h

/-- What the arguments ask for, after what has been asked for before. -/
theorem Reads.extend? (h : Reads arguments given others) (before : Invocation) :
    before.extend? arguments =
      if (before.bios.toList ++ others).length ≤ 1 then
        some ⟨given.getLast?.or before.settings, (before.bios.toList ++ others).head?⟩
      else none := by
  induction h generalizing before with
  | nil =>
    obtain ⟨settings, bios⟩ := before
    cases bios <;> rfl
  | option path _ ih =>
    rw [Invocation.extend?, ih, List.getLast?_cons, Option.or_some, Option.some_or]
  | @other _ _ _ argument hother _ ih =>
    rw [extend?_of_ne hother]
    cases hbios : before.bios with
    | none => exact ih { before with bios := some argument }
    | some path =>
      rw [if_neg (by simp : ¬((some path).toList ++ argument :: _).length ≤ 1)]
      rfl

/-- Arguments which ask for something can be read. -/
theorem reads_of_extend? (h : (before.extend? arguments).isSome) :
    ∃ given others, Reads arguments given others := by
  fun_induction extend? before arguments with
  | case1 => exact ⟨[], [], .nil⟩
  | case2 before path rest ih =>
    obtain ⟨given, others, hreads⟩ := ih h
    exact ⟨_, _, .option path hreads⟩
  | case3 => cases h
  | case4 before argument rest _ hother ih =>
    obtain ⟨given, others, hreads⟩ := ih h
    exact ⟨_, _, .other (fun hoption => hother (.inl hoption)) hreads⟩

/-- The arguments ask for something if they can be read and no more than one is left over:
for the last settings and for the boot ROM that is left over. -/
theorem parse?_eq_some_iff {invocation : Invocation} :
    parse? arguments = some invocation ↔
      ∃ given others, Reads arguments given others ∧ others.length ≤ 1 ∧
        invocation = ⟨given.getLast?, others.head?⟩ := by
  rw [parse?]
  constructor
  · intro h
    obtain ⟨given, others, hreads⟩ := reads_of_extend? (Option.isSome_of_eq_some h)
    rw [hreads.extend?, Option.or_none] at h
    split at h
    · next hone => exact ⟨given, others, hreads, hone, (Option.some.inj h).symm⟩
    · cases h
  · rintro ⟨given, others, hreads, hone, rfl⟩
    rw [hreads.extend?, Option.or_none]
    exact if_pos hone

end Invocation

end Playstation
