import Playstation.Proofs.Invocation
import Playstation.Proofs.Session.Written

/-!
# What a session starts with

Arguments, settings and files settle the boot ROM and the number of steps. The path of the
boot ROM is an argument or a setting, and the settings are in the file that is given last, or
in the usual one. A file of settings that cannot be read, or is no such file, settles nothing.
-/

namespace Playstation

open Written

/-- A file is a boot ROM if it can be read and has the right size. -/
theorem Bios.ofFile_eq_ok_iff {path : String} {contents : Except FileFault ByteArray}
    {bios : Bios} :
    Bios.ofFile path contents = .ok bios ↔
      ∃ data, ∃ hsize : data.size = 524288, contents = .ok data ∧
        bios = ⟨⟨⟨data.data, hsize⟩⟩, path, Path.fileName path⟩ := by
  cases contents with
  | error fault => simp [Bios.ofFile]
  | ok data =>
    rw [Bios.ofFile, Bios.ofBytes]
    split
    · next hsize =>
      refine ⟨fun h => ⟨data, hsize, rfl, (Except.ok.inj h).symm⟩, ?_⟩
      rintro ⟨_, _, hdata, rfl⟩
      cases hdata
      rfl
    · next hsize =>
      refine ⟨nofun, ?_⟩
      rintro ⟨_, hother, hdata, -⟩
      cases hdata
      exact absurd hother hsize

namespace Outside

variable (outside : Outside) (arguments : List String)

/-- The settings in a file. If it cannot be read, is no text or has no settings in it, nothing
is settled. -/
def settingsIn (path : String) : Settings :=
  match outside.read path with
  | .ok data =>
    match String.fromUTF8? data with
    | some text => (outside.parse text).toOption.getD {}
    | none => {}
  | .error _ => {}

/-- The settings in a file that is given, or else in the usual file if there is one. -/
def settings (given : Option String) : Settings :=
  match given, outside.settingsPath with
  | some path, _ => outside.settingsIn path
  | none, some path => if outside.holds path then outside.settingsIn path else {}
  | none, none => {}

/-- Arguments settle a boot ROM and a number of steps: the path of the boot ROM is the one
that is left over, or else that of the last settings, and there is a file of the right size. -/
inductive Settles : Bios → Option Nat → Prop
  /-- All of this is there. -/
  | settled {given others : List String} {path : String} {data : ByteArray}
      (hreads : Invocation.Reads arguments given others) (hone : others.length ≤ 1)
      (hpath : (others.head? <|> (outside.settings given.getLast?).bios) = some path)
      (hread : outside.read path = .ok data) (hsize : data.size = 524288) :
      Settles ⟨⟨⟨data.data, hsize⟩⟩, path, Path.fileName path⟩
        (outside.settings given.getLast?).steps

/-- The boot ROM and the number of steps that are settled, if there is a boot ROM. -/
def boot? : Option (Bios × Option Nat) :=
  (Invocation.parse? arguments).bind fun invocation =>
    let settings := outside.settings invocation.settings
    (invocation.bios <|> settings.bios).bind fun path =>
      (Bios.ofFile path (outside.read path)).toOption.map (·, settings.steps)

variable {outside arguments}

/-- What is settled can be computed. -/
theorem boot?_eq_some_iff {bios : Bios} {steps : Option Nat} :
    outside.boot? arguments = some (bios, steps) ↔ outside.Settles arguments bios steps := by
  rw [boot?]
  simp only [Option.bind_eq_some_iff, Option.map_eq_some_iff, Prod.mk.injEq]
  constructor
  · rintro ⟨invocation, hparse, path, hpath, _, hbios, rfl, rfl⟩
    obtain ⟨given, others, hreads, hone, rfl⟩ := Invocation.parse?_eq_some_iff.mp hparse
    cases hfile : Bios.ofFile path (outside.read path) with
    | error fault =>
      rw [hfile] at hbios
      cases hbios
    | ok bios =>
      rw [hfile] at hbios
      cases hbios
      obtain ⟨data, hsize, hread, rfl⟩ := Bios.ofFile_eq_ok_iff.mp hfile
      exact .settled hreads hone hpath hread hsize
  · rintro ⟨hreads, hone, hpath, hread, hsize⟩
    refine ⟨_, Invocation.parse?_eq_some_iff.mpr ⟨_, _, hreads, hone, rfl⟩, _, hpath, _, ?_,
      rfl, rfl⟩
    rw [Bios.ofFile_eq_ok_iff.mpr ⟨_, hsize, hread, rfl⟩]
    rfl

/-- The settings in a file are those which are loaded, if there are any. -/
theorem getD_ofFile (outside : Outside) (path : String) :
    (Settings.ofFile outside.parse path (outside.read path)).toOption.getD {} =
      outside.settingsIn path := by
  unfold Settings.ofFile settingsIn
  cases outside.read path with
  | error fault => rfl
  | ok data =>
    cases htext : String.fromUTF8? data with
    | none =>
      simp only [htext]
      rfl
    | some text =>
      simp only [htext]
      cases outside.parse text <;> rfl

end Outside

namespace Session

/-- Settings are loaded or there is a complaint. -/
theorem tells_load (outside : Outside) (given : Option String) :
    ∃ loaded : Except SettingsFault Settings,
      loaded.toOption.getD {} = outside.settings given ∧
        Tells (Settings.load outside.host.files outside.host.parseSettings given
          outside.host.settingsPath) loaded := by
  obtain ⟨usual, husual⟩ : ∃ usual, outside.settingsPath = usual := ⟨_, rfl⟩
  have hhost : outside.host.settingsPath = usual := husual
  unfold Outside.settings
  rw [hhost, husual]
  cases given with
  | some path => exact ⟨_, outside.getD_ofFile path, tells_pure _⟩
  | none =>
    cases usual with
    | none => exact ⟨.error .noDirectory, rfl, tells_pure _⟩
    | some path =>
      cases hholds : outside.holds path with
      | true =>
        refine ⟨_, (outside.getD_ofFile path).trans (if_pos hholds).symm,
          (tells_pure (outside.holds path)).bind ?_⟩
        rw [hholds, if_pos rfl]
        exact (tells_pure (outside.read path)).bind (tells_pure _)
      | false =>
        refine ⟨.ok {}, (if_neg (hholds.trans_ne Bool.false_ne_true)).symm,
          (tells_pure (outside.holds path)).bind ?_⟩
        rw [hholds, if_neg Bool.false_ne_true]
        exact tells_pure _

/-- A machine is made of the boot ROM, if there is one. -/
theorem tells_boot (outside : Outside) (recorder : Recorder) (path? : Option String)
    (steps : Option Nat) :
    Tells (boot outside.host recorder.logger path? steps)
      (path?.bind fun path => (Bios.ofFile path (outside.read path)).toOption.map fun bios =>
        ⟨recorder.logger, steps, .powerOn bios⟩) := by
  cases path? with
  | none =>
    rw [boot]
    exact (tells_log recorder _ _ _).bind ((tells_write _).bind (tells_pure none))
  | some path =>
    rw [boot, Option.bind_some]
    refine (tells_pure (outside.read path)).bind ?_
    cases Bios.ofFile path (outside.read path) with
    | error fault => exact (tells_log recorder _ _ _).bind (tells_pure none)
    | ok bios => exact (tells_log recorder _ _ _).bind (tells_pure _)

/-- A session starts if something is settled. -/
theorem tells_start (outside : Outside) (arguments : List String) :
    ∃ filter : String, Tells (start outside.host arguments)
      ((outside.boot? arguments).map fun boot =>
        ⟨outside.logger filter, boot.2, .powerOn boot.1⟩) := by
  rw [start, Outside.boot?]
  cases hparse : Invocation.parse? arguments with
  | none => exact ⟨"", (tells_write _).bind (tells_pure none)⟩
  | some invocation =>
    obtain ⟨loaded, hloaded, hload⟩ := tells_load outside invocation.settings
    have hopen : Tells (outside.host.openLog (filterText loaded))
        (outside.logger (filterText loaded)) := (tells_write _).bind (tells_pure _)
    refine ⟨filterText loaded, hload.bind (hopen.bind ?_)⟩
    simp only [Option.bind_some, ← hloaded, Option.map_bind, Option.map_map, Function.comp_def]
    cases loaded with
    | ok settings => exact (tells_pure settings).bind (tells_boot outside _ _ _)
    | error fault =>
      refine (tells_log _ _ _ _).bind ?_
      exact (tells_pure ({} : Settings)).bind (tells_boot outside _ _ _)

end Session

end Playstation
