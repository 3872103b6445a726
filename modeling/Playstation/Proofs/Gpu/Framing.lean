import Playstation.Proofs.Gpu.Operation

/-!
# Words of a command

A command starts with the word that finds the drawing port waiting, and the
words which follow belong to it until the port waits again. The main statement
is that a phase in which the port does not wait is told by these words alone:
by the command which the first of them selects, by how many there are, and by
no other word. So a parameter, a vertex or a pixel is never taken for a
command, the command buffer does not overflow, and a command that is executed
looks at words which have arrived.
-/

namespace Playstation

namespace Gp0Command

/-- How many words, from the command word on, the effect of a command can
depend on. -/
def wordsRead : Gp0Command → Nat
  | polygon | line | rect => 1
  | fillRect | cpuToVram | vramToCpu => 3
  | vramToVram => 4

end Gp0Command

namespace Gp0Start

variable {word : UInt32} {command : Gp0Command} {length : Nat}

/-- A command receives the words on which its effect depends. -/
theorem wordsRead_le (h : ofWord word = .collect command length) : command.wordsRead ≤ length := by
  have hlength := (length_bounds h).1
  have hwords := ofWord_eq_collect_iff.mp h
  cases command with
  | polygon | line | rect => exact Nat.le_of_succ_le hlength
  | fillRect => exact Nat.le_of_eq hwords.2.symm
  | vramToVram | cpuToVram | vramToCpu => exact Nat.le_of_eq hwords.2.2.symm

end Gp0Start

/-- Whether a command of which the given words have arrived, the first of which
has found the drawing port waiting, leaves it in a phase in which it does not
wait. -/
def Gp0Phase.Frames (phase : Gp0Phase) (words : List UInt32) : Prop :=
  match phase with
  | collecting command buffer remaining =>
    ∃ word later, words = word :: later ∧ buffer.toList = words ∧
      Gp0Start.ofWord word = .collect command (buffer.size + remaining)
  | polyLine =>
    ∃ word vertices, words = word :: vertices ∧ Gp0Start.ofWord word = .polyLine ∧
      ∀ vertex ∈ vertices, endsPolyLine vertex = false
  | storing image done =>
    ∃ word position size pixels, words = word :: position :: size :: pixels ∧
      Gp0Start.ofWord word = .collect .cpuToVram 3 ∧
      image = Rect.ofImageWords position size ∧ done = 2 * pixels.length
  | idle | loading _ _ => False

namespace Gpu

variable {gpu : Gpu} {word : UInt32} {words : List UInt32}

/-- Words which a command does not look at make no difference to it. -/
theorem execute_append {command : Gp0Command} {buffer : Array UInt32}
    (h : command.wordsRead ≤ buffer.size) (stale : Array UInt32) :
    gpu.execute command (buffer ++ stale) = gpu.execute command buffer := by
  have hword (k : Nat) (hk : k < command.wordsRead) :
      (buffer ++ stale).getD k 0 = buffer.getD k 0 := by
    rw [Array.getD_eq_getD_getElem?, Array.getD_eq_getD_getElem?,
      Array.getElem?_append_left (by omega)]
  cases command with
  | polygon | line | rect => rfl
  | fillRect =>
    simp only [execute, hword 0 (by decide), hword 1 (by decide), hword 2 (by decide)]
  | vramToVram =>
    simp only [execute, hword 1 (by decide), hword 2 (by decide), hword 3 (by decide)]
  | cpuToVram | vramToCpu => simp only [execute, hword 1 (by decide), hword 2 (by decide)]

/-- A word which starts a command and leaves the port not waiting is the first
one of that command. -/
theorem frames_start (h : (gpu.start word).isIdle = false) :
    (gpu.start word).phase.Frames [word] := by
  rw [start] at h ⊢
  cases hstart : Gp0Start.ofWord word with
  | collect command length =>
    have hlength := (Gp0Start.length_bounds hstart).1
    have hsum : (#[word] : Array UInt32).size + (length - 1) = length := by
      change 1 + (length - 1) = length
      omega
    refine ⟨word, [], rfl, rfl, ?_⟩
    rw [hstart, hsum]
  | polyLine => exact ⟨word, [], rfl, hstart, List.forall_mem_nil _⟩
  | _ =>
    rw [hstart] at h
    cases h

/-- A parameter belongs to the command that is collected. If it is the last one,
only an image for video memory goes on to wait for words. -/
theorem frames_collecting {command : Gp0Command} {buffer : Array UInt32} {remaining : Nat}
    (hphase : gpu.phase = .collecting command buffer remaining) (hremaining : 0 < remaining)
    (h : (Gp0Phase.collecting command buffer remaining).Frames words)
    (hbusy : (gpu.gp0 word).isIdle = false) : (gpu.gp0 word).phase.Frames (words ++ [word]) := by
  obtain ⟨first, later, rfl, hbuffer, hfirst⟩ := h
  rw [gp0, hphase] at hbusy ⊢
  simp only at hbusy ⊢
  by_cases hmore : 1 < remaining
  · have hsum : (buffer.push word).size + (remaining - 1) = buffer.size + remaining := by
      rw [Array.size_push]
      omega
    rw [if_pos hmore]
    refine ⟨first, later ++ [word], List.cons_append, ?_, ?_⟩
    · rw [Array.toList_push, hbuffer]
    · rw [hfirst, hsum]
  · rw [if_neg hmore] at hbusy ⊢
    cases command with
    | cpuToVram =>
      -- The buffer holds the command word and the position; this word is the size.
      have hlength : buffer.size + remaining = 3 := (Gp0Start.ofWord_eq_collect_iff.mp hfirst).2.2
      have hsize : later.length = 1 := by
        have hlist := congrArg List.length hbuffer
        rw [Array.length_toList, List.length_cons] at hlist
        omega
      obtain ⟨position, rfl⟩ := List.length_eq_one_iff.mp hsize
      have harray : buffer = #[first, position] := Array.toList_inj.mp hbuffer
      rw [hlength] at hfirst
      subst harray
      exact ⟨first, position, word, [], rfl, hfirst, rfl, rfl⟩
    | _ => cases hbusy

/-- A word which does not end a poly-line is a vertex of it. -/
theorem frames_polyLine (hphase : gpu.phase = .polyLine) (h : Gp0Phase.polyLine.Frames words)
    (hbusy : (gpu.gp0 word).isIdle = false) : (gpu.gp0 word).phase.Frames (words ++ [word]) := by
  obtain ⟨first, vertices, rfl, hfirst, hvertices⟩ := h
  rw [gp0, hphase] at hbusy ⊢
  simp only at hbusy ⊢
  by_cases hends : endsPolyLine word = true
  · rw [if_pos hends] at hbusy
    cases hbusy
  · rw [if_neg hends, hphase]
    refine ⟨first, vertices ++ [word], List.cons_append, hfirst, ?_⟩
    intro vertex hvertex
    rcases List.mem_append.mp hvertex with hbefore | hlast
    · exact hvertices vertex hbefore
    · rw [List.mem_singleton.mp hlast]
      exact Bool.eq_false_iff.mpr hends

/-- A word for an image which is not complete after it holds two pixels. -/
theorem frames_storing {image : Rect} {done : Nat} (hphase : gpu.phase = .storing image done)
    (h : (Gp0Phase.storing image done).Frames words) (hbusy : (gpu.gp0 word).isIdle = false) :
    (gpu.gp0 word).phase.Frames (words ++ [word]) := by
  obtain ⟨first, position, size, pixels, rfl, hfirst, himage, hdone⟩ := h
  rw [gp0, hphase] at hbusy ⊢
  simp only at hbusy ⊢
  by_cases hleft : done + 2 < image.area
  · rw [if_pos hleft]
    refine ⟨first, position, size, pixels ++ [word], rfl, hfirst, himage, ?_⟩
    rw [List.length_append, List.length_singleton, hdone, Nat.mul_add]
  · simp only [hleft, if_false] at hbusy
    cases hbusy

/-- A word which finds the port not waiting belongs to the command there is. -/
theorem frames_gp0 (hvalid : gpu.phase.Valid) (h : gpu.phase.Frames words)
    (hbusy : (gpu.gp0 word).isIdle = false) : (gpu.gp0 word).phase.Frames (words ++ [word]) := by
  cases hphase : gpu.phase with
  | idle | loading =>
    rw [hphase] at h
    exact h.elim
  | collecting command buffer remaining =>
    rw [hphase] at h hvalid
    exact frames_collecting hphase hvalid.2.1 h hbusy
  | polyLine =>
    rw [hphase] at h
    exact frames_polyLine hphase h hbusy
  | storing image done =>
    rw [hphase] at h
    exact frames_storing hphase h hbusy

/-- The words are those which a sequence of operations from power on has
written to the drawing port since it was last found waiting, from the word that
found it so. -/
def Receives (operations : List Operation) (words : List UInt32) : Prop :=
  ∃ before word after, operations = before ++ .gp0 word :: after ∧
    words = word :: after.filterMap Operation.drawWord? ∧
    (powerOn.performAll before).isIdle = true ∧
    ∀ part, part <+: after →
      (powerOn.performAll (before ++ .gp0 word :: part)).isIdle = false

variable {operations : List Operation}

/-- The words of a command start with the one that finds the port waiting. -/
theorem receives_start (hidle : (powerOn.performAll operations).isIdle = true)
    (hbusy : (powerOn.performAll (operations ++ [.gp0 word])).isIdle = false) :
    Receives (operations ++ [.gp0 word]) [word] := by
  refine ⟨operations, word, [], rfl, rfl, hidle, ?_⟩
  intro part hpart
  rw [List.prefix_nil.mp hpart]
  exact hbusy

/-- While the port does not wait, the words written to it belong to one
command. -/
theorem Receives.concat {operation : Operation} (h : Receives operations words)
    (hbusy : (powerOn.performAll (operations ++ [operation])).isIdle = false) :
    Receives (operations ++ [operation]) (words ++ operation.drawWord?.toList) := by
  obtain ⟨before, word, after, rfl, rfl, hidle, hparts⟩ := h
  have hsplit : before ++ .gp0 word :: after ++ [operation] =
      before ++ .gp0 word :: (after ++ [operation]) := by
    rw [List.append_assoc, List.cons_append]
  have hwords : (after ++ [operation]).filterMap Operation.drawWord? =
      after.filterMap Operation.drawWord? ++ operation.drawWord?.toList := by
    rw [List.filterMap_append]
    cases operation <;> rfl
  refine ⟨before, word, after ++ [operation], hsplit, ?_, hidle, ?_⟩
  · rw [hwords, List.cons_append]
  · intro part hpart
    rcases List.prefix_concat_iff.mp hpart with rfl | hshorter
    · rw [← hsplit]
      exact hbusy
    · exact hparts part hshorter

/-- The phase in which the port does not wait is told by the words of the
command. -/
theorem frames_performAll (operations : List Operation)
    (hbusy : (powerOn.performAll operations).isIdle = false) :
    ∃ words, Receives operations words ∧ (powerOn.performAll operations).phase.Frames words := by
  induction operations using List.reverseRecOn with
  | nil => cases hbusy
  | append_singleton operations operation ih =>
    have hafter := hbusy
    rw [performAll_concat] at hafter ⊢
    cases hidle : (powerOn.performAll operations).isIdle with
    | true =>
      cases operation with
      | gp0 word =>
        have hstart : (powerOn.performAll operations).perform (.gp0 word) =
            (powerOn.performAll operations).start word := gp0_of_isIdle hidle word
        rw [hstart] at hafter ⊢
        exact ⟨[word], receives_start hidle hbusy, frames_start hafter⟩
      | gp1 word =>
        rw [perform, isIdle_congr (phase_gp1_of_busy hafter), hidle] at hafter
        cases hafter
      | read =>
        rw [perform, isIdle_read, hidle] at hafter
        cases hafter
    | false =>
      obtain ⟨words, hreceives, hframes⟩ := ih hidle
      refine ⟨_, hreceives.concat hbusy, ?_⟩
      cases operation with
      | gp0 word => exact frames_gp0 (valid_performAll operations) hframes hafter
      | gp1 word =>
        rw [perform, phase_gp1_of_busy hafter, Operation.drawWord?, Option.toList_none,
          List.append_nil]
        exact hframes
      | read =>
        rw [perform, read_of_busy hidle, Operation.drawWord?, Option.toList_none,
          List.append_nil]
        exact hframes

/-- A word which finds the port not waiting is no setting: it leaves the
settings, the interrupt and the latch. -/
theorem settings_gp0 (hbusy : gpu.isIdle = false) (word : UInt32) :
    (gpu.gp0 word).draw = gpu.draw ∧ (gpu.gp0 word).display = gpu.display ∧
      (gpu.gp0 word).interrupt = gpu.interrupt ∧ (gpu.gp0 word).latch = gpu.latch := by
  rw [isIdle] at hbusy
  rw [gp0]
  cases hphase : gpu.phase with
  | idle | loading =>
    rw [hphase] at hbusy
    cases hbusy
  | collecting command buffer remaining =>
    simp only
    split
    · exact ⟨rfl, rfl, rfl, rfl⟩
    · cases command <;> exact ⟨rfl, rfl, rfl, rfl⟩
  | polyLine =>
    simp only
    split <;> exact ⟨rfl, rfl, rfl, rfl⟩
  | storing image done => exact ⟨rfl, rfl, rfl, rfl⟩

/-- After every sequence of operations from power on, a command which is being
collected has been selected by the word that found the port waiting; the buffer
holds that word and those written since, and as many are still to come as the
command word says, in a buffer that has room for them; `Gp0Start.ofWord_eq_collect_iff`
gives this number by the bits of the top byte. The last of them
executes the command, which looks at no other words. The next pixel of an image
is within the image. As long as the port does not wait, all words written to it
belong to the command that the first of them has selected: the next one changes
no setting, and if the port does not wait after it, belongs to the same
command. When the port waits, a command is executed once it has been written in
full. -/
theorem gp0_framing (operations : List Operation) :
    let gpu := powerOn.performAll operations
    (∀ command buffer remaining, gpu.phase = .collecting command buffer remaining →
      (∃ word later, Receives operations (word :: later) ∧ buffer.toList = word :: later ∧
        Gp0Start.ofWord word = .collect command (buffer.size + remaining)) ∧
      1 ≤ remaining ∧ buffer.size + remaining ≤ commandBufferSize ∧
      ∀ parameter, pushParameter buffer parameter = buffer.push parameter ∧
        (remaining = 1 → ∀ stale : Array UInt32,
          gpu.execute command (buffer.push parameter ++ stale) =
            gpu.execute command (buffer.push parameter))) ∧
    (∀ image done, gpu.phase = .storing image done ∨ gpu.phase = .loading image done →
      image.left ≤ image.column done ∧ image.column done < image.left + image.width ∧
      image.row done < image.top + image.height ∧ 1 ≤ image.width ∧ image.width ≤ 1024) ∧
    (gpu.isIdle = false →
      ∃ words, Receives operations words ∧ gpu.phase.Frames words ∧
        ∀ word, ((gpu.gp0 word).draw = gpu.draw ∧ (gpu.gp0 word).display = gpu.display ∧
          (gpu.gp0 word).interrupt = gpu.interrupt ∧ (gpu.gp0 word).latch = gpu.latch) ∧
          ((gpu.gp0 word).isIdle = false →
            Receives (operations ++ [.gp0 word]) (words ++ [word]) ∧
              (gpu.gp0 word).phase.Frames (words ++ [word]))) ∧
    (gpu.isIdle = true → ∀ word parameters command,
      Gp0Start.ofWord word = .collect command (List.length parameters + 1) →
        (word :: parameters).foldl gp0 gpu =
          gpu.execute command (word :: parameters).toArray) := by
  intro gpu
  have hvalid : gpu.phase.Valid := valid_performAll operations
  refine ⟨?_, ?_, ?_, ?_⟩
  · intro command buffer remaining hphase
    have hbusy : gpu.isIdle = false := by rw [isIdle, hphase]
    obtain ⟨words, hreceives, hframes⟩ := frames_performAll operations hbusy
    rw [hphase] at hvalid
    obtain ⟨-, hremaining, hsize⟩ := hvalid
    have hcollects : (Gp0Phase.collecting command buffer remaining).Frames words := hphase ▸ hframes
    obtain ⟨word, later, rfl, hbuffer, hword⟩ := hcollects
    refine ⟨⟨word, later, hreceives, hbuffer, hword⟩, hremaining, hsize, ?_⟩
    intro parameter
    refine ⟨pushParameter_eq (by omega) parameter, ?_⟩
    intro hlast stale
    have hread := Gp0Start.wordsRead_le hword
    exact execute_append (by rw [Array.size_push]; omega) stale
  · intro image done hphase
    obtain ⟨hbounded, hdone⟩ : image.Bounded ∧ done < image.area := by
      rcases hphase with hstoring | hloading
      · rw [hstoring] at hvalid
        exact hvalid
      · rw [hloading] at hvalid
        exact hvalid
    have hrow : image.row done < image.top + image.height :=
      Nat.lt_of_not_le fun hend => Nat.not_le_of_lt hdone (hbounded.bottom_le_row_iff.mp hend)
    exact ⟨Nat.le_add_right _ _, hbounded.column_lt, hrow, hbounded.width⟩
  · intro hbusy
    obtain ⟨words, hreceives, hframes⟩ := frames_performAll operations hbusy
    refine ⟨words, hreceives, hframes, ?_⟩
    intro word
    refine ⟨settings_gp0 hbusy word, ?_⟩
    intro hstill
    have hafter : (powerOn.performAll (operations ++ [.gp0 word])).isIdle = false := by
      rw [performAll_concat]
      exact hstill
    exact ⟨hreceives.concat hafter, frames_gp0 hvalid hframes hstill⟩
  · intro hidle word parameters command hword
    exact foldl_gp0_command hidle hword

/-- A shaded and textured quadrilateral is the longest command. Its third word
is not taken for an interrupt request. -/
example :
    (powerOn.performAll
      [.gp0 0x3c000000, .gp0 1, .gp1 0x03000001, .read, .gp0 0x1f000000]).phase =
        .collecting .polygon #[0x3c000000, 1, 0x1f000000] 9 := by
  rfl

end Gpu

end Playstation
