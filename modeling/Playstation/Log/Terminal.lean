/-!
# What a terminal shows

The log is written for readers of plain text. The characters which would steer
a terminal instead of being shown are left out of it: control characters, and
the sequences which begin with the escape character. White space among the
control characters stays, also where it interrupts a sequence. The strings
inside of sequences end with a bell or a terminator, which is a single byte and
is found wherever the text has this byte.
-/

namespace Playstation

/-- The sequences which white space can interrupt. -/
inductive Sequence where
  /-- Only the escape character so far. -/
  | escape
  /-- The escape character and at least one intermediate character. -/
  | intermediate
  /-- A control sequence. -/
  | control
  deriving DecidableEq

/-- How far the opening of a device control string has come. -/
inductive DeviceOpening where
  /-- Nothing of it has come. -/
  | empty
  /-- Parameters. -/
  | parameters
  /-- An intermediate character. -/
  | intermediate
  deriving DecidableEq

/-- What a terminal makes of the next character. -/
inductive TerminalState where
  /-- It is part of the text. -/
  | text
  /-- It continues a sequence. -/
  | within (sequence : Sequence)
  /-- White space has interrupted a sequence, and characters are shown until the
  next control character. -/
  | paused (sequence : Sequence)
  /-- It continues the opening of a device control string. -/
  | opening (part : DeviceOpening)
  /-- It is part of a string which a terminator ends. -/
  | string
  /-- It is part of an operating system command, which a bell ends. -/
  | command
  deriving DecidableEq

/-- The character which begins a sequence. -/
def escapeCharacter : Char := Char.ofNat 0x1b

/-- The character which ends an operating system command. -/
def bell : Char := Char.ofNat 0x07

/-- Whether a character breaks off any sequence. -/
def cancels (c : Char) : Bool := c.toNat = 0x18 || c.toNat = 0x1a

/-- Whether a control character is white space and shown. -/
def isSpacing (c : Char) : Bool := c = '\t' || c = '\n' || c.toNat = 0x0c || c = '\r'

/-- Whether a character is shown where it is part of the text. -/
def isShown (c : Char) : Bool := isSpacing c || (0x20 ≤ c.toNat && c.toNat ≠ 0x7f)

/-- Whether a character is beyond those which can be part of a sequence. -/
def isBeyondAscii (c : Char) : Bool := 0x80 ≤ c.toNat

/-- Whether a character is an intermediate one of sequences. -/
def isIntermediate (c : Char) : Bool := 0x20 ≤ c.toNat && c.toNat ≤ 0x2f

/-- Whether a character is a parameter of sequences. -/
def isParameter (c : Char) : Bool := 0x30 ≤ c.toNat && c.toNat ≤ 0x3f

/-- Whether a character ends a control sequence. -/
def isFinal (c : Char) : Bool := 0x40 ≤ c.toNat && c.toNat ≤ 0x7e

/-- Whether a character has the terminator of strings among its bytes. -/
def hasTerminator (c : Char) : Bool := (String.utf8EncodeChar c).any (· = 0x9c)

/-- Continue a sequence. Characters without a meaning in it are skipped. -/
def Sequence.next (c : Char) : Sequence → TerminalState
  | .escape =>
    if isIntermediate c then .within .intermediate
    else if c = '[' then .within .control
    else if c = ']' then .command
    else if c = 'P' then .opening .empty
    else if c = 'X' ∨ c = '^' ∨ c = '_' then .string
    else if isParameter c ∨ isFinal c then .text
    else .within .escape
  | .intermediate => if isParameter c ∨ isFinal c then .text else .within .intermediate
  | .control => if isFinal c then .text else .within .control

/-- Continue the opening of a device control string. The string begins with a
final character, or with a parameter in the wrong place. -/
def DeviceOpening.next (c : Char) (part : DeviceOpening) : TerminalState :=
  if isIntermediate c then .opening .intermediate
  else if isFinal c then .string
  else if isParameter c then
    match part with
    | .empty => .opening .parameters
    | .parameters => if c.toNat < 0x3c then .opening .parameters else .string
    | .intermediate => .string
  else .opening part

namespace TerminalState

/-- The state after a character, and whether the character is shown. -/
def next (c : Char) (state : TerminalState) : TerminalState × Bool :=
  if c = escapeCharacter then (.within .escape, false)
  else if cancels c then (.text, false)
  else
    match state with
    | .text => (.text, isShown c)
    | .within sequence =>
      if isSpacing c then (.paused sequence, true) else (sequence.next c, false)
    | .paused sequence =>
      if isBeyondAscii c then (.text, true)
      else if isShown c then (.paused sequence, true)
      else (.within sequence, false)
    | .opening part => (part.next c, false)
    | .string => (if hasTerminator c then .text else .string, false)
    | .command => (if c = bell then .text else .command, false)

/-- The characters which are shown. -/
def shown : TerminalState → List Char → List Char
  | _, [] => []
  | state, c :: rest =>
    match state.next c with
    | (state, true) => c :: shown state rest
    | (state, false) => shown state rest

end TerminalState

/-- What a terminal shows of a text. -/
def visible (text : String) : String := String.ofList (TerminalState.text.shown text.toList)

end Playstation
