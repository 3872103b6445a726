import Playstation.Pattern.Normal
import Playstation.Pattern.Term

/-!
# Meaning of terms

A term means a pattern, given the flags which are on at its start. Only a part
of what can be written is known: classes with a letter, other cases of letters
and properties are not known for all scripts, and where only characters below
128 count, nothing can match others.
-/

namespace Playstation.Pattern

/-- The end of an attempt to find a meaning. -/
def noMeaning {α : Type} (mistake : Mistake) (span : Span) : Except Fault α :=
  .error ⟨mistake, span, none⟩

/-- The characters of a class. It is closed if it has the other cases of all its
letters, as far as can be told from how the class is made. -/
structure Members where
  /-- The characters. -/
  set : CharacterSet
  /-- Whether the class is closed. -/
  closed : Bool

namespace Members

/-- The class without characters. -/
def empty : Members := ⟨[], true⟩

/-- The characters of two classes. -/
def union (first second : Members) : Members :=
  ⟨first.set.union second.set, first.closed && second.closed⟩

/-- The class with the other cases of its letters, if case does not count. -/
def inCase (flags : Flags) (span : Span) (members : Members) : Except Fault Members :=
  if !flags .caseless || members.closed then .ok members
  else if flags .unicode then noMeaning .caseUnknown span
  else .ok ⟨members.set.inBothCases, true⟩

/-- The opposite of a class, if that is asked for. Where only characters below
128 count, it would have parts of others. -/
def opposite (flags : Flags) (negative : Bool) (span : Span) (members : Members) :
    Except Fault Members :=
  if !negative then .ok members
  else if flags .unicode then .ok ⟨members.set.complement, members.closed || members.set.isEmpty⟩
  else noMeaning .bytes span

/-- A class as a whole: first with other cases, then its opposite. -/
def finish (flags : Flags) (negative : Bool) (span : Span) (members : Members) :
    Except Fault Members := do
  opposite flags negative span (← inCase flags span members)

end Members

/-- Whether a character can be a member of a class. -/
def Literal.checkMember (flags : Flags) (literal : Literal) : Except Fault Unit :=
  if flags .unicode || literal.char.toNat < 0x80 then .ok ()
  else noMeaning (if literal.coded then .bytes else .unicode) literal.span

/-- The characters of a class with a letter. -/
def letterMembers (flags : Flags) (letter : LetterClass) (negative : Bool) (span : Span) :
    Except Fault Members :=
  if flags .unicode then noMeaning .letterClassUnknown span
  else Members.opposite flags negative span ⟨letter.plain, true⟩

/-- The name of a property as it is looked up. Case, blanks, hyphens, low lines,
characters from 128 on and an `is` in front do not count. -/
def propertyName (name : List Char) : List Char :=
  let isMarked := (name.take 2).map Char.toLower == ['i', 's']
  let counted := (if isMarked then name.drop 2 else name).filter fun c =>
    c.toNat < 0x80 && c ≠ ' ' && c ≠ '-' && c ≠ '_'
  counted.map Char.toLower

/-- The names which are those of kinds of characters, although they are short for
other properties too. -/
def kindNames : List (List Char) := [['c', 'f'], ['s', 'c'], ['l', 'c']]

/-- The characters with a property. None is known. -/
def propertyMembers (flags : Flags) (name : List Char) (span : Span) : Except Fault Members :=
  if !flags .unicode then noMeaning .unicode span
  else if kindNames.contains (propertyName name) then noMeaning .kindUnknown span
  else noMeaning .propertyUnknown span

/-- The characters of a primitive in a class. There are no places in classes. -/
def Primitive.members (flags : Flags) : Primitive → Except Fault Members
  | literal written => do
    written.checkMember flags
    return ⟨.single written.char, false⟩
  | letter kind negative span => letterMembers flags kind negative span
  | property name _ span => propertyMembers flags name span
  | place _ span => noMeaning .classEscape span

mutual

/-- The characters of a class between brackets. -/
def ClassTerm.members (flags : Flags) : ClassTerm → Except Fault Members
  | .empty _ => .ok .empty
  | .primitive item => item.members flags
  | .range low high => do
    low.checkMember flags
    high.checkMember flags
    return ⟨[(low.char.toNat, high.char.toNat)], false⟩
  | .named set negative span => Members.finish flags negative span ⟨set, false⟩
  | .nested body negative span => do
    Members.finish flags negative span (← body.members flags)
  | .union items _ => ClassTerm.allMembers flags .empty items
  | .combined combination left right _ => do
    let first ← left.members flags
    let second ← right.members flags
    let second ← second.inCase flags right.span
    let first ← first.inCase flags left.span
    return ⟨combination.apply first.set second.set, first.closed && second.closed⟩

/-- The characters of several items, and of those before them. -/
def ClassTerm.allMembers (flags : Flags) (before : Members) :
    List ClassTerm → Except Fault Members
  | [] => .ok before
  | item :: rest => do
    ClassTerm.allMembers flags (before.union (← item.members flags)) rest

end

/-- What a character means. If case does not count, letters have two. -/
def Literal.meaning (flags : Flags) (literal : Literal) : Except Fault Pattern :=
  let plain := literal.char.toNat < 0x80
  if !flags .unicode && literal.coded && !plain then noMeaning .bytes literal.span
  else if !flags .caseless then .ok (.literal [literal.char])
  else if flags .unicode then noMeaning .caseUnknown literal.span
  else .ok (character (CharacterSet.inBothCases (.single literal.char)))

/-- What a place means. -/
def PlaceTerm.meaning (flags : Flags) : PlaceTerm → Place
  | lineStart => if flags .lines then .lineStart (flags .carriage) else .textStart
  | lineEnd => if flags .lines then .lineEnd (flags .carriage) else .textEnd
  | textStart => .textStart
  | textEnd => .textEnd
  | edge kind => if flags .unicode then .scriptEdge kind else .edge kind

/-- What a primitive means. -/
def Primitive.meaning (flags : Flags) : Primitive → Except Fault Pattern
  | literal written => written.meaning flags
  | letter kind negative span => do
    return character (← letterMembers flags kind negative span).set
  | property name _ span => do return character (← propertyMembers flags name span).set
  | place kind _ => .ok (.place (kind.meaning flags))

/-- What a dot means. -/
def dotMeaning (flags : Flags) (span : Span) : Except Fault Pattern :=
  if !flags .unicode then noMeaning .bytes span
  else if flags .wholeDot then .ok (.oneOf .everything)
  else
    let ends := if flags .carriage then [(0x0a, 0x0a), (0x0d, 0x0d)] else [(0x0a, 0x0a)]
    .ok (.oneOf (CharacterSet.complement ends))

/-- A meaning which depends on the flags and can set them for what follows. -/
abbrev Meaning : Type → Type := StateT Flags (Except Fault)

/-- A meaning with changes of the flags that hold for it only. -/
def Meaning.within {α : Type} (changes : Changes) (inside : Meaning α) : Meaning α := do
  let flags ← get
  set (flags.change changes)
  let result ← inside
  set flags
  return result

mutual

/-- What a term means. -/
def Term.meaning : Term → Meaning Pattern
  | .empty _ => pure .empty
  | .setting changes _ => do
    modify fun flags => flags.change changes
    return .empty
  | .primitive item => do item.meaning (← get)
  | .dot span => do dotMeaning (← get) span
  | .bracket body negative span => do
    let flags ← get
    return character (← Members.finish flags negative span (← body.members flags)).set
  | .repeated least most body _ => do return times least most (← body.meaning)
  | .captured number body _ => do return .captured number (← Meaning.within [] body.meaning)
  | .group changes body _ => Meaning.within changes body.meaning
  | .sequence items _ => do return inOrder (← Term.meanings items)
  | .choice options _ => do return anyOf (← Term.meanings options)

/-- What several terms mean. -/
def Term.meanings : List Term → Meaning (List Pattern)
  | [] => pure []
  | term :: rest => do
    let meaning ← term.meaning
    return meaning :: (← Term.meanings rest)

end

end Playstation.Pattern
