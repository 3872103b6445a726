import Mathlib.Data.List.DropRight
import Playstation.Proofs.Field
import Playstation.Proofs.Gpu.ReadPort

/-!
# Answers to questions about the settings

Four settings of the drawing port can be asked for at the control port: the texture
window, the two corners of the drawing area and the drawing offset. A word which makes
such a setting is taken apart, and put together again when the setting is asked for. The
main statement is that after every sequence of operations the answer is what the setting
keeps of the last word that made it since the last reset, and that a question changes
nothing but the latch.
-/

namespace Playstation

open MachineWord

namespace DrawSettings

/-- A field of eleven bits as a bit vector. -/
theorem toNat_bits_extract (word : UInt32) {low : Nat} (hlow : low + 10 < 32) :
    (bits word low (low + 10)).toNat = ((toBits word).extractLsb' low 11).toNat := by
  have hlength : low + 10 - low + 1 = 11 := by omega
  rw [toNat_bits word (Nat.le_add_right _ _) hlow, hlength, BitVec.extractLsb'_toNat,
    Nat.shiftRight_eq_div_pow]
  rfl

/-- A field stands for a number in two's complement. -/
theorem signedField_bits (word : UInt32) (low : Nat) (hlow : low + 10 < 32) :
    signedField (bits word low (low + 10)) = ((toBits word).extractLsb' low 11).toInt := by
  have hpow : 2048 = 2 ^ 11 := by norm_num
  rw [BitVec.toInt_eq_toNat_bmod, ← toNat_bits_extract word hlow]
  exact congrArg (Int.bmod _) hpow

/-- The number is packed into the field which it comes from. -/
theorem fieldOf_signedField (word : UInt32) (low : Nat) (hlow : low + 10 < 32) :
    fieldOf (signedField (bits word low (low + 10))) = bits word low (low + 10) := by
  have hlength : low + 10 - low + 1 = 11 := by omega
  have hlt := @toNat_bits_lt word low _ (Nat.le_add_right low 10) hlow
  rw [hlength] at hlt
  have hmod : signedField (bits word low (low + 10)) % 2048 =
      ((bits word low (low + 10)).toNat : Int) :=
    Int.bmod_emod.trans (Int.emod_eq_of_lt (Int.natCast_nonneg _) (Int.ofNat_lt.mpr hlt))
  rw [fieldOf, hmod, Int.toNat_natCast]
  exact UInt32.ofNat_toNat

/-- A corner is packed into the low bits of the word which it comes from. -/
theorem packedCorner_cornerOf (word : UInt32) : packedCorner (cornerOf word) = bits word 0 18 :=
  bits_or_bits rfl (by decide) (by decide)

end DrawSettings

/-- The settings of the drawing port which can be asked for. -/
inductive AskedSetting where
  /-- The texture window. -/
  | window
  /-- Top left corner of the drawing area. -/
  | topLeft
  /-- Bottom right corner of the drawing area. -/
  | bottomRight
  /-- The drawing offset. -/
  | offset
  deriving DecidableEq

namespace AskedSetting

/-- The top byte of a word which makes the setting. -/
def code : AskedSetting → UInt32
  | window => 0xe2
  | topLeft => 0xe3
  | bottomRight => 0xe4
  | offset => 0xe5

/-- What such a word starts. -/
def command : AskedSetting → Gp0Start
  | window => .textureWindow
  | topLeft => .areaTopLeft
  | bottomRight => .areaBottomRight
  | offset => .drawOffset

/-- The bits of such a word which the setting keeps: twenty of the texture window, nineteen
of a corner and twenty-two of the offset. -/
def mask : AskedSetting → UInt32
  | window => 0xfffff
  | topLeft | bottomRight => 0x7ffff
  | offset => 0x3fffff

/-- The number of the question for the setting. -/
def number : AskedSetting → UInt32
  | window => 2
  | topLeft => 3
  | bottomRight => 4
  | offset => 5

/-- The answer to the question for the setting. -/
def answer (settings : DrawSettings) : AskedSetting → UInt32
  | window => settings.packedWindow
  | topLeft => DrawSettings.packedCorner settings.topLeft
  | bottomRight => DrawSettings.packedCorner settings.bottomRight
  | offset => settings.packedOffset

/-- Whether a word has made the setting. -/
def Holds (settings : DrawSettings) (word : UInt32) : AskedSetting → Prop
  | window => settings.window = ⟨bits word 0 4, bits word 5 9, bits word 10 14, bits word 15 19⟩
  | topLeft => settings.topLeft = DrawSettings.cornerOf word
  | bottomRight => settings.bottomRight = DrawSettings.cornerOf word
  | offset =>
    settings.offsetX = DrawSettings.signedField (bits word 0 10) ∧
      settings.offsetY = DrawSettings.signedField (bits word 11 21)

variable {setting : AskedSetting} {settings : DrawSettings} {word : UInt32}

/-- The answer is what the setting keeps of the word that has made it. -/
theorem answer_of_holds (h : setting.Holds settings word) :
    setting.answer settings = word &&& setting.mask := by
  cases setting with
  | window =>
    have htwo : bits word 0 4 ||| bits word 5 9 <<< 5 = bits word 0 9 :=
      bits_or_bits rfl (by decide) (by decide)
    have hthree : bits word 0 9 ||| bits word 10 14 <<< 10 = bits word 0 14 :=
      bits_or_bits rfl (by decide) (by decide)
    have hfour : bits word 0 14 ||| bits word 15 19 <<< 15 = bits word 0 19 :=
      bits_or_bits rfl (by decide) (by decide)
    have hwindow : settings.window = _ := h
    rw [answer, DrawSettings.packedWindow, hwindow]
    dsimp only
    rw [htwo, hthree, hfour]
    exact bits_zero word 19
  | topLeft =>
    have hcorner : settings.topLeft = _ := h
    rw [answer, hcorner, DrawSettings.packedCorner_cornerOf]
    exact bits_zero word 18
  | bottomRight =>
    have hcorner : settings.bottomRight = _ := h
    rw [answer, hcorner, DrawSettings.packedCorner_cornerOf]
    exact bits_zero word 18
  | offset =>
    obtain ⟨hx, hy⟩ := h
    have hfields : bits word 0 10 ||| bits word 11 21 <<< 11 = bits word 0 21 :=
      bits_or_bits rfl (by decide) (by decide)
    rw [answer, DrawSettings.packedOffset, hx, hy,
      DrawSettings.fieldOf_signedField word 0 (by decide),
      DrawSettings.fieldOf_signedField word 11 (by decide), hfields]
    exact bits_zero word 21

/-- A word with the code makes the setting. -/
theorem ofWord_of_code (h : topByte word = setting.code) :
    Gp0Start.ofWord word = setting.command := by
  rw [Gp0Start.ofWord, h]
  cases setting <;> rfl

/-- No other word does. -/
theorem code_of_ofWord (h : Gp0Start.ofWord word = setting.command) :
    topByte word = setting.code := by
  rw [Gp0Start.ofWord] at h
  cases setting <;> (repeat' split at h) <;>
    first | contradiction | exact UInt32.toNat_inj.mp ‹_›

/-- At power on the settings are those which zero makes. -/
theorem holds_powerOn (setting : AskedSetting) : setting.Holds .powerOn 0 := by
  cases setting with
  | offset => exact ⟨by decide, by decide⟩
  | window | topLeft | bottomRight => rfl

end AskedSetting

namespace Gpu

namespace Operation

/-- Whether an operation is a reset. -/
def isReset : Operation → Bool
  | gp1 word => topByte word = 0
  | gp0 _ | read => false

/-- The word of an operation which makes a setting, if it does. -/
def settingWord? (setting : AskedSetting) : Operation → Option UInt32
  | gp0 word => if topByte word = setting.code then some word else none
  | gp1 _ | read => none

/-- The last word for a setting after one more command, by the last one before: a reset
takes it back. -/
def lastWord (setting : AskedSetting) (before : UInt32) (command : Operation) : UInt32 :=
  if command.isReset then 0 else (command.settingWord? setting).getD before

end Operation

/-- Whether an operation executes a command: a word at the drawing port starts one only if
it finds the port waiting. -/
def executes (gpu : Gpu) : Operation → Bool
  | .gp0 _ => gpu.isIdle
  | .gp1 _ => true
  | .read => false

/-- The operations of a sequence which execute commands, in order. -/
def executed (gpu : Gpu) : List Operation → List Operation
  | [] => []
  | operation :: operations =>
    (if gpu.executes operation then [operation] else []) ++
      (gpu.perform operation).executed operations

/-- The last word for a setting in a list of commands since the last reset, where zero
stands for a word that is missing. -/
def lastSetting (setting : AskedSetting) (commands : List Operation) : UInt32 :=
  ((commands.rtakeWhile fun command => !command.isReset).filterMap
    (Operation.settingWord? setting)).getLast?.getD 0

variable {gpu : Gpu} {setting : AskedSetting} {before : UInt32}

/-- The last operation of a sequence is the last one to execute a command. -/
theorem executed_concat (gpu : Gpu) (operations : List Operation) (operation : Operation) :
    gpu.executed (operations ++ [operation]) =
      gpu.executed operations ++
        if (gpu.performAll operations).executes operation then [operation] else [] := by
  induction operations generalizing gpu with
  | nil => exact List.append_nil _
  | cons first operations ih =>
    rw [List.cons_append, executed, ih, executed, List.append_assoc]
    rfl

/-- One more command makes the setting, or takes it back, or leaves it. -/
theorem lastSetting_concat (setting : AskedSetting) (commands : List Operation)
    (command : Operation) :
    lastSetting setting (commands ++ [command]) =
      command.lastWord setting (lastSetting setting commands) := by
  rw [lastSetting, List.rtakeWhile_concat, Operation.lastWord]
  cases hreset : command.isReset with
  | true => rfl
  | false =>
    rw [if_pos Bool.not_false, if_neg Bool.false_ne_true, getLast?_filterMap_concat,
      Option.getD_or]
    rfl

/-- The word which starts a command makes its own setting and leaves the others. -/
theorem holds_start (h : setting.Holds gpu.draw before) (word : UInt32) :
    setting.Holds (gpu.start word).draw (Operation.lastWord setting before (.gp0 word)) := by
  have hlast : Operation.lastWord setting before (.gp0 word) =
      if topByte word = setting.code then word else before := apply_ite (Option.getD · before) _ _ _
  rw [hlast, start]
  by_cases hcode : topByte word = setting.code
  · rw [if_pos hcode, AskedSetting.ofWord_of_code hcode]
    cases setting with
    | offset =>
      simp only [AskedSetting.command, AskedSetting.Holds, DrawSettings.setOffset, and_self]
    | window | topLeft | bottomRight => rfl
  · have hother : Gp0Start.ofWord word ≠ setting.command :=
      fun hword => hcode (AskedSetting.code_of_ofWord hword)
    rw [if_neg hcode]
    -- Twelve commands and four settings: the one which makes the setting is ruled out.
    cases hstart : Gp0Start.ofWord word <;> cases setting <;>
      first
      | exact absurd hstart hother
      | simp only [AskedSetting.Holds, DrawSettings.setOffset]; exact h

/-- Of the words at the control port only a reset makes a difference to a setting. -/
theorem holds_gp1 (h : setting.Holds gpu.draw before) (word : UInt32) :
    setting.Holds (gpu.gp1 word).draw (Operation.lastWord setting before (.gp1 word)) := by
  have hask (question : UInt32) : (gpu.ask question).draw = gpu.draw := by
    rw [ask]
    split <;> rfl
  have hlast : Operation.lastWord setting before (.gp1 word) =
      if (topByte word).toNat = 0 then 0 else before :=
    if_congr (decide_eq_true_iff.trans UInt32.toNat_inj.symm) rfl rfl
  rw [hlast, gp1]
  generalize (topByte word).toNat = opcode
  split
  case h_1 => exact setting.holds_powerOn
  case h_10 hreset _ _ _ _ _ _ _ _ =>
    rw [if_neg hreset]
    split
    · rw [hask]
      exact h
    · exact h
  all_goals exact h

/-- An operation which executes a command does to a setting what the command says, and
every other one leaves it. -/
theorem holds_perform (h : setting.Holds gpu.draw before) (operation : Operation) :
    setting.Holds (gpu.perform operation).draw
      (if gpu.executes operation then operation.lastWord setting before else before) := by
  cases operation with
  | gp0 word =>
    cases hidle : gpu.isIdle with
    | true =>
      rw [perform, gp0_of_isIdle hidle, executes, if_pos hidle]
      exact holds_start h word
    | false =>
      rw [perform, (settings_gp0 hidle word).1, executes, hidle]
      exact h
  | gp1 word => exact holds_gp1 h word
  | read =>
    have hread : gpu.read.draw = gpu.draw := by
      rw [read]
      split <;> rfl
    rw [perform, hread]
    exact h

/-- After every sequence of operations from power on a setting is the one which the last
word for it has made. -/
theorem holds_performAll (setting : AskedSetting) (operations : List Operation) :
    setting.Holds (powerOn.performAll operations).draw
      (lastSetting setting (powerOn.executed operations)) := by
  induction operations using List.reverseRecOn with
  | nil => exact setting.holds_powerOn
  | append_singleton operations operation ih =>
    have hstep := holds_perform ih operation
    rw [performAll_concat, executed_concat]
    cases hexecutes : (powerOn.performAll operations).executes operation with
    | true =>
      rw [hexecutes] at hstep
      rw [if_pos rfl, lastSetting_concat]
      exact hstep
    | false =>
      rw [hexecutes] at hstep
      rw [if_neg Bool.false_ne_true, List.append_nil]
      exact hstep

/-- The question for a setting is answered by the setting. -/
theorem info?_number (gpu : Gpu) (setting : AskedSetting) :
    gpu.info? setting.number = some (setting.answer gpu.draw) := by
  cases setting <;> rfl

/-- One more question has an answer, and no other. -/
theorem info?_eq_none {question : UInt32} (hsettings : ∀ setting : AskedSetting,
    question ≠ setting.number) (hversion : question ≠ 7) : gpu.info? question = none := by
  have hother {number : UInt32} (hne : question ≠ number) : question.toNat ≠ number.toNat :=
    fun hsame => hne (UInt32.toNat_inj.mp hsame)
  rw [info?]
  split
  case h_1 hnumber => exact absurd hnumber (hother (hsettings .window))
  case h_2 hnumber => exact absurd hnumber (hother (hsettings .topLeft))
  case h_3 hnumber => exact absurd hnumber (hother (hsettings .bottomRight))
  case h_4 hnumber => exact absurd hnumber (hother (hsettings .offset))
  case h_5 hnumber => exact absurd hnumber (hother hversion)
  case h_6 => rfl

/-- A question latches its answer, if there is one, and does nothing else. -/
theorem ask_eq (gpu : Gpu) (question : UInt32) :
    gpu.ask question = { gpu with latch := (gpu.info? question).getD gpu.latch } := by
  rw [ask]
  cases gpu.info? question <;> rfl

/-- A word with one of sixteen top bytes is a question. -/
theorem gp1_of_question {word : UInt32} (hlow : 0x10 ≤ topByte word) (hhigh : topByte word ≤ 0x1f) :
    gpu.gp1 word = gpu.ask (word &&& 0xf) := by
  have hquestion : bits word 0 3 = word &&& 0xf := bits_zero word 3
  have hlow' : 0x10 ≤ (topByte word).toNat := UInt32.le_iff_toNat_le.mp hlow
  have hhigh' : (topByte word).toNat ≤ 0x1f := UInt32.le_iff_toNat_le.mp hhigh
  rw [gp1]
  split
  case h_10 =>
    rw [if_pos ⟨hlow', hhigh'⟩, hquestion]
  all_goals omega

/-- After every sequence of operations from power on a question for a setting is answered
by what the setting keeps of the last word that has been executed for it since the last
reset, or by zero if there is none; the drawing offset is stored with its sign. One more
question is answered by two, and the others keep the latch. A question changes nothing but
the latch, and a read returns the answer unless an image is on its way. -/
theorem answer_latest (operations : List Operation) {word : UInt32}
    (hlow : 0x10 ≤ topByte word) (hhigh : topByte word ≤ 0x1f) :
    let gpu := powerOn.performAll operations
    let last (setting : AskedSetting) := lastSetting setting (powerOn.executed operations)
    let question := word &&& 0xf
    let after := gpu.gp1 word
    (∀ setting : AskedSetting, question = setting.number →
      after.latch = last setting &&& setting.mask) ∧
    (question = 7 → after.latch = 2) ∧
    ((∀ setting : AskedSetting, question ≠ setting.number) → question ≠ 7 →
      after.latch = gpu.latch) ∧
    (gpu.draw.offsetX = ((toBits (last .offset)).extractLsb' 0 11).toInt ∧
      gpu.draw.offsetY = ((toBits (last .offset)).extractLsb' 11 11).toInt) ∧
    after = { gpu with latch := after.latch } ∧
    (gpu.isLoading = false → after.readings [.read] = [after.latch] ∧ after.read = after) := by
  intro gpu last question after
  have hholds (setting : AskedSetting) : setting.Holds gpu.draw (last setting) :=
    holds_performAll setting operations
  have hafter : after = { gpu with latch := (gpu.info? question).getD gpu.latch } :=
    (gp1_of_question hlow hhigh).trans (ask_eq gpu question)
  obtain ⟨hx, hy⟩ := hholds .offset
  refine ⟨?_, ?_, ?_, ⟨?_, ?_⟩, ?_, ?_⟩
  · intro setting hsetting
    rw [hafter, hsetting, info?_number]
    exact AskedSetting.answer_of_holds (hholds setting)
  · intro hversion
    rw [hafter, hversion]
    rfl
  · intro hsettings hversion
    rw [hafter, info?_eq_none hsettings hversion]
    rfl
  · exact hx.trans (DrawSettings.signedField_bits _ 0 (by decide))
  · exact hy.trans (DrawSettings.signedField_bits _ 11 (by decide))
  · rw [hafter]
  · intro hloading
    have hstill : after.isLoading = false := by
      rw [hafter]
      exact hloading
    have hread := read_of_not_loading hstill
    refine ⟨?_, hread⟩
    change [after.read.latch] = _
    rw [hread]

/-- The offset points eight columns to the left. The parameter of a polygon looks like
another setting of it and is none, so the answer is the word before. -/
theorem answer_latest_negative :
    let operations : List Operation := [.gp0 0xe50087f8, .gp0 0x30000000, .gp0 0xe5000001]
    let gpu := powerOn.performAll operations
    let after := gpu.gp1 0x10000005
    0x10 ≤ topByte 0x10000005 ∧ topByte 0x10000005 ≤ 0x1f ∧
      lastSetting .offset (powerOn.executed operations) = 0xe50087f8 ∧ after.latch = 0x87f8 ∧
      (gpu.draw.offsetX = -8 ∧ gpu.draw.offsetY = 16) ∧ gpu.isLoading = false ∧
      after.readings [.read] = [0x87f8] := by
  intro operations gpu after
  have hlow : 0x10 ≤ topByte 0x10000005 := by decide
  have hhigh : topByte 0x10000005 ≤ 0x1f := by decide
  have hlast : lastSetting .offset (powerOn.executed operations) = 0xe50087f8 := by decide
  have hloading : gpu.isLoading = false := by decide
  obtain ⟨hlatch, -, -, ⟨hx, hy⟩, -, hread⟩ := answer_latest operations hlow hhigh
  have hanswer : after.latch = 0x87f8 := (hlatch .offset (by decide)).trans (by decide)
  have hreturned : after.readings [.read] = [after.latch] := (hread hloading).1
  rw [hanswer] at hreturned
  exact ⟨hlow, hhigh, hlast, hanswer, ⟨hx.trans (by decide), hy.trans (by decide)⟩, hloading,
    hreturned⟩

end Gpu

end Playstation
