import Playstation.Pattern.Term

/-!
# Depth of terms

Groups, classes, rows, choices and repetitions may only be inside of each other
up to a limit. The first part which is too deep is the one that counts, where a
part comes before those inside of it.
-/

namespace Playstation.Pattern

mutual

/-- The first part of a class which is deeper than some more levels. -/
def ClassTerm.tooDeep? : (levels : Nat) → ClassTerm → Option Span
  | _, .empty _ | _, .primitive _ | _, .range _ _ | _, .named _ _ _ => none
  | 0, .nested _ _ span | 0, .union _ span | 0, .combined _ _ _ span => some span
  | levels + 1, .nested body _ _ => body.tooDeep? levels
  | levels + 1, .union items _ => ClassTerm.firstTooDeep? levels items
  | levels + 1, .combined _ left right _ => left.tooDeep? levels <|> right.tooDeep? levels

/-- The first part of some items of a class which is deeper than some more
levels. -/
def ClassTerm.firstTooDeep? (levels : Nat) : List ClassTerm → Option Span
  | [] => none
  | item :: rest => item.tooDeep? levels <|> ClassTerm.firstTooDeep? levels rest

end

mutual

/-- The first part of a term which is deeper than some more levels. -/
def Term.tooDeep? : (levels : Nat) → Term → Option Span
  | _, .empty _ | _, .setting _ _ | _, .primitive _ | _, .dot _ => none
  | 0, .bracket _ _ span | 0, .repeated _ _ _ span | 0, .captured _ _ span | 0, .group _ _ span
  | 0, .sequence _ span | 0, .choice _ span => some span
  | levels + 1, .bracket body _ _ => body.tooDeep? levels
  | levels + 1, .repeated _ _ body _ | levels + 1, .captured _ body _
  | levels + 1, .group _ body _ => body.tooDeep? levels
  | levels + 1, .sequence items _ | levels + 1, .choice items _ =>
    Term.firstTooDeep? levels items

/-- The first part of some terms which is deeper than some more levels. -/
def Term.firstTooDeep? (levels : Nat) : List Term → Option Span
  | [] => none
  | item :: rest => item.tooDeep? levels <|> Term.firstTooDeep? levels rest

end

/-- How deep the parts of a pattern can be. -/
def depthLimit : Nat := 250

/-- A term whose parts are not too deep. -/
def Term.checkDepth (term : Term) : Except Fault Unit :=
  match term.tooDeep? depthLimit with
  | some span => .error ⟨.tooDeep depthLimit, span, none⟩
  | none => .ok ()

end Playstation.Pattern
