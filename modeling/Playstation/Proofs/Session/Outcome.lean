import Playstation.Proofs.Cpu.Fault
import Playstation.Proofs.Session.Start

/-!
# How a session ends

With a number of steps a session ends, as a success if none of them fails. Without one it
ends with the first step that fails, or goes on forever if there is none.
-/

namespace Playstation

open Written

/-- All that happens when the program is run. -/
noncomputable def Outside.run (outside : Outside) (chunk : Nat) (arguments : List String) :
    Option (Ending × String) :=
  Session.run outside.host (Session.runUntilFault chunk) arguments ""

namespace Session

variable {outside : Outside} {arguments : List String} {cpu : Cpu} {fault : HostFault}
  {chunk steps : Nat}

/-- A run without a limit ends with the first fault. -/
theorem tells_runUntilFault (recorder : Recorder) (hchunk : 0 < chunk)
    (h : cpu.FailsFirst steps fault) :
    Tells (runUntilFault chunk recorder.logger cpu) (cpu.later (steps + 1), some fault) := by
  rw [runUntilFault_eq_advance hchunk h.isSome_run, ← h.run (Nat.lt_succ_self steps)]
  exact tells_advance recorder (steps + 1) cpu

/-- A run without a limit goes on forever if no step fails. -/
theorem runUntilFault_eq_none (recorder : Recorder) (chunk : Nat)
    (h : ∀ k, (cpu.later k).step.2 = none) (text : String) :
    runUntilFault chunk recorder.logger cpu text = none := by
  rw [Option.eq_none_iff_forall_ne_some]
  intro outcome houtcome
  obtain ⟨steps, hsteps⟩ := isSome_of_runUntilFault recorder houtcome
  rw [Cpu.run_eq_none_iff.mpr fun k _ => h k] at hsteps
  cases hsteps

/-- A run without a limit does not depend on the size of its chunks. -/
theorem runUntilFault_congr (recorder : Recorder) {other : Nat}
    (hchunk : 0 < chunk) (hother : 0 < other) (cpu : Cpu) :
    runUntilFault chunk recorder.logger cpu = runUntilFault other recorder.logger cpu := by
  by_cases hforever : ∀ k, (cpu.later k).step.2 = none
  · funext text
    rw [runUntilFault_eq_none recorder _ hforever,
      runUntilFault_eq_none recorder _ hforever]
  · obtain ⟨k, fault, hfails⟩ := Cpu.exists_failsFirst hforever
    rw [runUntilFault_eq_advance hchunk hfails.isSome_run,
      runUntilFault_eq_advance hother hfails.isSome_run]

/-- Where nothing is settled, the program fails. -/
theorem tells_run_of_none (h : outside.boot? arguments = none)
    (unlimited : Logger Written → Cpu → Written (Cpu × Option HostFault)) :
    Tells (run outside.host unlimited arguments) .failure := by
  obtain ⟨filter, hstart⟩ := tells_start outside arguments
  rw [h] at hstart
  exact hstart.bind (tells_pure Ending.failure)

/-- With a number of steps, the program ends as a run of them does. -/
theorem tells_run_of_count {bios : Bios} {count : Nat}
    (h : outside.boot? arguments = some (bios, some count))
    (unlimited : Logger Written → Cpu → Written (Cpu × Option HostFault)) :
    Tells (run outside.host unlimited arguments)
      (if ((Cpu.powerOn bios).run count).2 = none then .success else .failure) := by
  obtain ⟨filter, hstart⟩ := tells_start outside arguments
  rw [h] at hstart
  exact hstart.bind ((tells_advance _ count (.powerOn bios)).bind
    (tells_finish _ _))

/-- Without a number of steps, the program goes on until a fault. -/
theorem run_of_unlimited {bios : Bios} (h : outside.boot? arguments = some (bios, none)) :
    ∃ filter written,
      start outside.host arguments "" =
        some (some ⟨outside.logger filter, none, .powerOn bios⟩, written) ∧
      ∀ chunk, outside.run chunk arguments =
        (runUntilFault chunk (outside.logger filter) (.powerOn bios) >>=
          finish (outside.logger filter)) written := by
  obtain ⟨filter, hstart⟩ := tells_start outside arguments
  obtain ⟨written, hwritten⟩ := hstart ""
  rw [h] at hwritten
  exact ⟨filter, _, hwritten, fun chunk => congrArg (Option.bind · _) hwritten⟩

end Session

namespace Outside

open Session

variable {outside : Outside} {arguments : List String} {bios : Bios} {fault : HostFault}
  {chunk k : Nat}

/-- A run which goes on until a fault ends with the first one, as one that makes just as many
steps. -/
theorem run_of_failsFirst (hchunk : 0 < chunk) (h : outside.boot? arguments = some (bios, none))
    (hfails : (Cpu.powerOn bios).FailsFirst k fault) : ∃ filter before written,
      start outside.host arguments "" =
        some (some ⟨outside.logger filter, none, .powerOn bios⟩, before) ∧
      runUntilFault chunk (outside.logger filter) (.powerOn bios) =
        advance (outside.logger filter) (k + 1) (.powerOn bios) ∧
      runUntilFault chunk (outside.logger filter) (.powerOn bios) before =
        some (((Cpu.powerOn bios).later (k + 1), some fault), written) ∧
      outside.run chunk arguments =
        finish (outside.logger filter) ((Cpu.powerOn bios).later (k + 1), some fault) written := by
  obtain ⟨filter, before, hstart, hrun⟩ := run_of_unlimited h
  obtain ⟨more, hmore⟩ := tells_runUntilFault (outside.recorder filter) hchunk hfails before
  have hadvance : runUntilFault chunk (outside.logger filter) (.powerOn bios) =
      advance (outside.logger filter) (k + 1) (.powerOn bios) :=
    runUntilFault_eq_advance hchunk hfails.isSome_run
  refine ⟨filter, before, before ++ more, hstart, hadvance, hmore, ?_⟩
  rw [hrun chunk]
  exact congrArg (Option.bind · _) hmore

/-- A program which a fault has ended fails. -/
theorem ending_of_failsFirst (hchunk : 0 < chunk) (h : outside.boot? arguments = some (bios, none))
    (hfails : (Cpu.powerOn bios).FailsFirst k fault) :
    (outside.run chunk arguments).map Prod.fst = some .failure := by
  obtain ⟨filter, before, written, -, -, -, hrun⟩ := run_of_failsFirst hchunk h hfails
  rw [hrun]
  exact (tells_finish _ _).map_fst written

/-- A run which goes on until a fault goes on forever if there is none. -/
theorem run_of_forever (chunk : Nat) (h : outside.boot? arguments = some (bios, none))
    (hforever : ∀ k, ((Cpu.powerOn bios).later k).step.2 = none) :
    outside.run chunk arguments = none := by
  obtain ⟨filter, before, hstart, hrun⟩ := run_of_unlimited h
  rw [hrun chunk]
  exact congrArg (Option.bind · _) (runUntilFault_eq_none _ chunk hforever before)

/-- How many instructions are run at a time makes no difference. -/
theorem run_congr (outside : Outside) (arguments : List String) {other : Nat} (hchunk : 0 < chunk)
    (hother : 0 < other) : outside.run other arguments = outside.run chunk arguments := by
  obtain ⟨filter, hstart⟩ := tells_start outside arguments
  obtain ⟨written, hwritten⟩ := hstart ""
  have hrun (chunk : Nat) : outside.run chunk arguments =
      (start outside.host arguments "").bind _ := rfl
  rw [hrun, hrun, hwritten]
  cases outside.boot? arguments with
  | none => rfl
  | some boot =>
    obtain ⟨bios, _ | count⟩ := boot
    · have hsame := runUntilFault_congr (outside.recorder filter) hother hchunk (.powerOn bios)
      exact congrArg (fun unlimited => (unlimited >>= finish (outside.logger filter)) _) hsame
    · rfl

open Classical in
/-- What is settled decides how the program ends, and whether it does. -/
theorem ending_eq (outside : Outside) (arguments : List String) (hchunk : 0 < chunk) :
    (outside.run chunk arguments).map Prod.fst =
      match outside.boot? arguments with
      | none => some .failure
      | some (bios, some count) =>
        some (if ((Cpu.powerOn bios).run count).2 = none then .success else .failure)
      | some (bios, none) =>
        if ∀ k, ((Cpu.powerOn bios).later k).step.2 = none then none else some .failure := by
  cases hboot : outside.boot? arguments with
  | none => exact (tells_run_of_none hboot _).map_fst ""
  | some boot =>
    obtain ⟨bios, _ | count⟩ := boot
    · by_cases hforever : ∀ k, ((Cpu.powerOn bios).later k).step.2 = none
      · rw [run_of_forever chunk hboot hforever]
        exact (if_pos hforever).symm
      · obtain ⟨k, fault, hfails⟩ := Cpu.exists_failsFirst hforever
        rw [ending_of_failsFirst hchunk hboot hfails]
        exact (if_neg hforever).symm
    · exact (tells_run_of_count hboot _).map_fst ""

/-- The program ends with success where a number of steps is settled and all of them succeed. -/
theorem ending_eq_success_iff (outside : Outside) (arguments : List String) (hchunk : 0 < chunk) :
    (outside.run chunk arguments).map Prod.fst = some .success ↔
      ∃ bios count, outside.boot? arguments = some (bios, some count) ∧
        (Cpu.powerOn bios).Succeeds count := by
  rw [ending_eq outside arguments hchunk]
  cases outside.boot? arguments with
  | none => simp
  | some boot =>
    obtain ⟨bios, _ | count⟩ := boot
    · simp
    · simp [Cpu.run_eq_none_iff]

/-- The program never ends where a boot ROM is settled and no number of steps, and no step
fails. -/
theorem run_eq_none_iff (outside : Outside) (arguments : List String) (hchunk : 0 < chunk) :
    outside.run chunk arguments = none ↔
      ∃ bios, outside.boot? arguments = some (bios, none) ∧
        ∀ k, ((Cpu.powerOn bios).later k).step.2 = none := by
  rw [← Option.map_eq_none_iff, ending_eq outside arguments hchunk]
  cases outside.boot? arguments with
  | none => simp
  | some boot =>
    obtain ⟨bios, _ | count⟩ := boot
    · simp
    · simp

/-- The arguments are understood if each option has an argument behind it and no more than one
other argument is left. The program then ends with success if they and the settings lead to
a boot ROM and a number of steps, all of which succeed. It never ends if they lead to a boot
ROM and no number of steps, and no step fails. If one fails, the first of these ends the
program, with the machine as it has left it and its fault, however many instructions are run
at a time. -/
theorem run_outcome (outside : Outside) (arguments : List String) {chunk : Nat}
    (hchunk : 0 < chunk) :
    (∀ invocation, Invocation.parse? arguments = some invocation ↔
      ∃ given others, Invocation.Reads arguments given others ∧ others.length ≤ 1 ∧
        invocation = ⟨given.getLast?, others.head?⟩) ∧
    ((outside.run chunk arguments).map Prod.fst = some .success ↔
      ∃ bios count, outside.Settles arguments bios (some count) ∧
        (Cpu.powerOn bios).Succeeds count) ∧
    (outside.run chunk arguments = none ↔
      ∃ bios, outside.Settles arguments bios none ∧
        ∀ k, ((Cpu.powerOn bios).later k).step.2 = none) ∧
    (∀ bios k fault, outside.Settles arguments bios none →
      (Cpu.powerOn bios).FailsFirst k fault → ∃ filter before written,
        start outside.host arguments "" =
          some (some ⟨outside.logger filter, none, .powerOn bios⟩, before) ∧
        runUntilFault chunk (outside.logger filter) (.powerOn bios) =
          advance (outside.logger filter) (k + 1) (.powerOn bios) ∧
        runUntilFault chunk (outside.logger filter) (.powerOn bios) before =
          some (((Cpu.powerOn bios).later (k + 1), some fault), written) ∧
        outside.run chunk arguments =
          finish (outside.logger filter) ((Cpu.powerOn bios).later (k + 1), some fault) written) ∧
    ∀ other, 0 < other → outside.run other arguments = outside.run chunk arguments := by
  refine ⟨fun _ => Invocation.parse?_eq_some_iff, ?success, ?forever, ?fails, ?chunks⟩
  case success =>
    simpa only [boot?_eq_some_iff] using ending_eq_success_iff outside arguments hchunk
  case forever => simpa only [boot?_eq_some_iff] using run_eq_none_iff outside arguments hchunk
  case fails => exact fun bios k fault hsettles hfails =>
    run_of_failsFirst hchunk (boot?_eq_some_iff.mpr hsettles) hfails
  case chunks => exact fun other hother => run_congr outside arguments hchunk hother

/-- A system with the image of a boot ROM and a file of settings, which say where the image is.
Its log keeps what the program tells of its progress. -/
def withRom (image : Bytes biosSize) : Outside where
  read path :=
    if path = "rom" then .ok ⟨image.cells.toArray⟩
    else if path = "settings" then .ok "bios = 'rom'".toUTF8
    else .error .notFound
  holds path := path = "rom" ∨ path = "settings"
  parse text := if text = "bios = 'rom'" then .ok { bios := some "rom" } else .error "no settings"
  settingsPath := none
  recorder _ := {
    opening := ""
    wants := fun level _ => level.keptBy (some .info)
    record := fun level target text => "[" ++ level.label ++ " " ++ target ++ "] " ++ text ++ "\n" }

/-- The boot ROM is settled by the settings. -/
theorem settles_withRom (image : Bytes biosSize) :
    (withRom image).Settles ["--config", "settings"] ⟨image, "rom", Path.fileName "rom"⟩ none := by
  have hreads : Invocation.Reads ["--config", "settings"] ["settings"] [] := .option _ .nil
  have htext : String.fromUTF8? "bios = 'rom'".toByteArray = some "bios = 'rom'" :=
    dif_pos (String.isValidUTF8 _)
  have hsettings : (withRom image).settings (some "settings") = { bios := some "rom" } := by
    simp [settings, settingsIn, withRom, htext, Except.toOption]
  have hread : (withRom image).read "rom" = .ok ⟨image.cells.toArray⟩ := by simp [withRom]
  have hsettled := Settles.settled hreads (by decide)
    (by rw [List.getLast?_singleton, hsettings]; rfl) hread image.cells.size_toArray
  rw [List.getLast?_singleton, hsettings] at hsettled
  exact hsettled

/-- A boot ROM that begins with an instruction of the geometry coprocessor. -/
def geometryBios : Bios := ⟨(Bios.ofWord 0x48000000).image, "rom", Path.fileName "rom"⟩

/-- With the boot ROM of the settings and no number of steps, the first step is the one that
fails. -/
theorem run_outcome_geometry :
    0 < 1000000 ∧ (withRom geometryBios.image).Settles ["--config", "settings"] geometryBios none ∧
      (Cpu.powerOn geometryBios).FailsFirst 0 (.unimplementedGte 0xbfc00000 0x48000000) ∧
      ((withRom geometryBios.image).run 1000000 ["--config", "settings"]).map Prod.fst =
        some .failure := by
  have hsettles : (withRom geometryBios.image).Settles ["--config", "settings"] geometryBios none :=
    settles_withRom _
  have hfetch := Cpu.fetches_powerOn geometryBios
  have hword : geometryBios.image.load .word 0 = 0x48000000 :=
    Bytes.load_store_word _ _ (by decide)
  rw [hword] at hfetch
  have hfails : (Cpu.powerOn geometryBios).FailsFirst 0
      (.unimplementedGte 0xbfc00000 0x48000000) :=
    ⟨fun _ hk => absurd hk (Nat.not_lt_zero _),
      Cpu.step_fault_iff.mpr (.gte hfetch (.inl (by decide)))⟩
  obtain ⟨filter, _, written, -, -, -, hrun⟩ := (run_outcome (withRom geometryBios.image)
    ["--config", "settings"] (by decide : 0 < 1000000)).2.2.2.1 _ _ _ hsettles hfails
  refine ⟨by decide, hsettles, hfails, ?_⟩
  rw [hrun]
  exact (tells_finish _ _).map_fst written

end Outside

end Playstation
