import Playstation.Proofs.Session.Advance

/-!
# Sessions without a system

A session can run on a host which has no effects but to add to a text. Its actions have a
result for every text before them, with the exception of those which go on forever: these
have none. So it is a fact about the session whether it ends.
-/

namespace Playstation

/-- An action which can add to a text. Without a result it goes on forever. -/
abbrev Written := StateT String Option

namespace Written

variable {σ α β : Type}

/-- Do something from a state until it gives a result, but only so many times. -/
def repeatFor (body : σ → Written (σ ⊕ α)) : (turns : Nat) → σ → Written α
  | 0, _ => fun _ => none
  | turns + 1, state => body state >>= Sum.elim (repeatFor body turns) pure

section Repeat

variable {body : σ → Written (σ ⊕ α)} {state : σ} {text : String} {outcome : α × String}
  {turns : Nat}

/-- A turn gives a result, or what follows it does. -/
theorem turn_eq_some_iff {follow : σ → Written α} :
    (body state >>= Sum.elim follow pure) text = some outcome ↔
      body state text = some (.inr outcome.1, outcome.2) ∨
      ∃ next more, body state text = some (.inl next, more) ∧ follow next more = some outcome := by
  change ((body state text).bind fun turn => Sum.elim follow pure turn.1 turn.2) = some outcome ↔ _
  rw [Option.bind_eq_some_iff]
  constructor
  · rintro ⟨⟨next | result, more⟩, hbody, hrest⟩
    · exact .inr ⟨next, more, hbody, hrest⟩
    · cases hrest
      exact .inl hbody
  · rintro (hbody | ⟨next, more, hbody, hrest⟩)
    · exact ⟨_, hbody, rfl⟩
    · exact ⟨_, hbody, hrest⟩

/-- The first of some turns gives a result, or the others do. -/
theorem repeatFor_succ_eq_some_iff :
    repeatFor body (turns + 1) state text = some outcome ↔
      body state text = some (.inr outcome.1, outcome.2) ∨
      ∃ next more, body state text = some (.inl next, more) ∧
        repeatFor body turns next more = some outcome :=
  turn_eq_some_iff

/-- A result stays with more turns. -/
theorem repeatFor_succ (h : repeatFor body turns state text = some outcome) :
    repeatFor body (turns + 1) state text = some outcome := by
  induction turns generalizing state text with
  | zero => cases h
  | succ turns ih =>
    rw [repeatFor_succ_eq_some_iff] at h ⊢
    exact h.imp_right fun ⟨next, more, hbody, hrest⟩ => ⟨next, more, hbody, ih hrest⟩

/-- There is one result at most. -/
theorem repeatFor_unique {other : α × String} {turns' : Nat}
    (h : repeatFor body turns state text = some outcome)
    (hother : repeatFor body turns' state text = some other) : outcome = other := by
  have hmono {least most : Nat} (hle : least ≤ most) {outcome : α × String}
      (h : repeatFor body least state text = some outcome) :
      repeatFor body most state text = some outcome :=
    Nat.le_induction h (fun _ _ => repeatFor_succ) most hle
  have hfirst := hmono (Nat.le_max_left turns turns') h
  have hsecond := hmono (Nat.le_max_right turns turns') hother
  exact Option.some.inj (hfirst.symm.trans hsecond)

end Repeat

open Classical in
/-- Do something from a state until it gives a result, which need not happen. -/
noncomputable def repeatUntil (body : σ → Written (σ ⊕ α)) (state : σ) : Written α := fun text =>
  if h : ∃ outcome turns, repeatFor body turns state text = some outcome then some h.choose
  else none

/-- There is a result if some number of turns gives it. -/
theorem repeatUntil_eq_some_iff {body : σ → Written (σ ⊕ α)} {state : σ} {text : String}
    {outcome : α × String} :
    repeatUntil body state text = some outcome ↔
      ∃ turns, repeatFor body turns state text = some outcome := by
  rw [repeatUntil]
  constructor
  · intro h
    split at h
    · next hexists =>
      cases h
      exact hexists.choose_spec
    · cases h
  · rintro ⟨turns, hturns⟩
    have hexists : ∃ outcome turns, repeatFor body turns state text = some outcome :=
      ⟨outcome, turns, hturns⟩
    obtain ⟨_, hchosen⟩ := hexists.choose_spec
    rw [dif_pos hexists, repeatFor_unique hchosen hturns]

noncomputable instance : MonadRepeat Written where
  repeatUntil := repeatUntil
  repeatUntil_eq body state := by
    funext text
    apply Option.ext
    intro outcome
    rw [repeatUntil_eq_some_iff, turn_eq_some_iff]
    constructor
    · rintro ⟨_ | turns, hturns⟩
      · cases hturns
      · exact (repeatFor_succ_eq_some_iff.mp hturns).imp_right
          fun ⟨next, more, hbody, hrest⟩ =>
            ⟨next, more, hbody, repeatUntil_eq_some_iff.mpr ⟨turns, hrest⟩⟩
    · rintro (hbody | ⟨next, more, hbody, hrest⟩)
      · exact ⟨1, repeatFor_succ_eq_some_iff.mpr (.inl hbody)⟩
      · obtain ⟨turns, hturns⟩ := repeatUntil_eq_some_iff.mp hrest
        exact ⟨turns + 1, repeatFor_succ_eq_some_iff.mpr (.inr ⟨next, more, hbody, hturns⟩)⟩

/-- An action has a result, whatever has been written before it, and adds to that. -/
def Tells (action : Written α) (result : α) : Prop :=
  ∀ text, ∃ more, action text = some (result, text ++ more)

variable {action : Written α} {result : α}

/-- A result can be had without any text. -/
theorem tells_pure (result : α) : Tells (pure result) result :=
  fun text => ⟨"", by rw [String.append_empty]; rfl⟩

/-- There is no other result. -/
theorem Tells.eq {other : α} {text more : String} (h : Tells action result)
    (haction : action text = some (other, more)) : other = result := by
  obtain ⟨_, hresult⟩ := h text
  exact congrArg Prod.fst (Option.some.inj (haction.symm.trans hresult))

/-- The result alone. -/
theorem Tells.map_fst (h : Tells action result) (text : String) :
    (action text).map Prod.fst = some result := by
  obtain ⟨more, haction⟩ := h text
  rw [haction, Option.map_some]

/-- One action after another adds one text after another. -/
theorem Tells.bind {next : α → Written β} {last : β} (h : Tells action result)
    (hnext : Tells (next result) last) : Tells (action >>= next) last := by
  intro text
  obtain ⟨more, haction⟩ := h text
  obtain ⟨rest, hrest⟩ := hnext (text ++ more)
  refine ⟨more ++ rest, ?_⟩
  rw [← String.append_assoc, ← hrest]
  exact congrArg (Option.bind · _) haction

/-- A sequence of actions adds all of their texts. -/
theorem tells_forM {next : α → Written Unit} (h : ∀ element, Tells (next element) ())
    (elements : List α) : Tells (forM elements next) () := by
  induction elements with
  | nil => exact tells_pure ()
  | cons element elements ih =>
    rw [List.forM_cons]
    exact (h element).bind ih

end Written

open Written

/-- What a log makes of messages. -/
structure Recorder where
  /-- What is written when the log is opened. -/
  opening : String
  /-- Whether messages of a level from a target are wanted. -/
  wants : Level → (target : String) → Bool
  /-- What is written for a message. -/
  record : Level → (target text : String) → String

/-- All that a session finds outside of itself. -/
structure Outside where
  /-- What reading a file gives. -/
  read : String → Except FileFault ByteArray
  /-- Whether there is anything at a path. -/
  holds : String → Bool
  /-- The settings which a text says, or what is wrong with it. -/
  parse : String → Except String Settings
  /-- Where settings usually are. -/
  settingsPath : Option String
  /-- The log with a filter. -/
  recorder : (filter : String) → Recorder

/-- Add to the text. -/
def Written.write (more : String) : Written Unit := fun text => some ((), text ++ more)

/-- Whatever is written is added to the text. -/
theorem Written.tells_write (more : String) : Tells (write more) () := fun _ => ⟨more, rfl⟩

/-- A log whose messages are added to the text. -/
def Recorder.logger (recorder : Recorder) : Logger Written where
  wants := recorder.wants
  write level target text := Written.write (recorder.record level target text)

/-- The log with a filter, added to the text. -/
abbrev Outside.logger (outside : Outside) (filter : String) : Logger Written :=
  (outside.recorder filter).logger

/-- A host on which all this is found, and where a text is written. -/
def Outside.host (outside : Outside) : Host Written where
  files := ⟨fun path => pure (outside.read path), fun path => pure (outside.holds path)⟩
  parseSettings := outside.parse
  settingsPath := outside.settingsPath
  write := Written.write
  openLog filter := do
    Written.write (outside.recorder filter).opening
    return outside.logger filter

namespace Session

variable (recorder : Recorder) {cpu : Cpu} {chunk : Nat}

/-- A message is written or not. -/
theorem tells_log (level : Level) (target text : String) :
    Tells (log recorder.logger level target text) () := by
  rw [log]
  split
  · exact tells_write _
  · exact tells_pure ()

/-- What a step reports is written. -/
theorem tells_report (cpu : Cpu) : Tells (report recorder.logger cpu) () := by
  rw [report]
  generalize cpu.stepEvents _ = events
  obtain ⟨events⟩ := events
  rw [List.forM_toArray' _ _ rfl]
  exact tells_forM (fun event => tells_log recorder _ _ _) events

/-- An advance ends, with the result of a run. -/
theorem tells_advance (steps : Nat) (cpu : Cpu) :
    Tells (advance recorder.logger steps cpu) (cpu.run steps) := by
  induction steps generalizing cpu with
  | zero => exact tells_pure _
  | succ steps ih =>
    cases hstep : cpu.step.2 with
    | none =>
      rw [advance_succ_of_none hstep, Cpu.run_succ_of_none hstep]
      exact (tells_report recorder cpu).bind (ih cpu.step.1)
    | some fault =>
      rw [advance_succ_of_some hstep, Cpu.run_succ_of_some hstep]
      exact (tells_report recorder cpu).bind (tells_pure _)

/-- The end of a session is a success unless a fault has stopped the machine. -/
theorem tells_finish (stopped : Cpu × Option HostFault) :
    Tells (finish recorder.logger stopped)
      (if stopped.2 = none then .success else .failure) := by
  obtain ⟨cpu, _ | fault⟩ := stopped
  · exact (tells_log recorder _ _ _).bind (tells_pure _)
  · exact (tells_log recorder _ _ _).bind (tells_pure _)

/-- A turn of a run without a limit ends, with another one to be made or with a fault. -/
theorem tells_turn (chunk : Nat) (cpu : Cpu) :
    Tells (turn chunk recorder.logger cpu)
      (if (cpu.run chunk).2 = none then .inl (cpu.run chunk).1 else .inr (cpu.run chunk)) := by
  rw [turn]
  refine (tells_advance recorder chunk cpu).bind ?_
  obtain ⟨next, _ | fault⟩ := cpu.run chunk
  · exact tells_pure _
  · exact tells_pure _

/-- A run without a limit ends only if some number of steps meets a fault. -/
theorem isSome_of_runUntilFault {text : String} {outcome : (Cpu × Option HostFault) × String}
    (h : runUntilFault chunk recorder.logger cpu text = some outcome) :
    ∃ steps, (cpu.run steps).2.isSome := by
  obtain ⟨turns, hturns⟩ := repeatUntil_eq_some_iff.mp h
  clear h
  induction turns generalizing cpu text with
  | zero => cases hturns
  | succ turns ih =>
    cases hrun : (cpu.run chunk).2 with
    | some fault => exact ⟨chunk, Option.isSome_of_eq_some hrun⟩
    | none =>
      have hturn := tells_turn recorder chunk cpu
      rw [if_pos hrun] at hturn
      obtain hlast | ⟨next, more, hnext, hrest⟩ := repeatFor_succ_eq_some_iff.mp hturns
      · cases hturn.eq hlast
      · obtain rfl := Sum.inl.inj (hturn.eq hnext)
        obtain ⟨steps, hsteps⟩ := ih hrest
        exact ⟨chunk + steps, (Cpu.run_add_of_none hrun steps).symm ▸ hsteps⟩

end Session

end Playstation
