import Playstation.Log.Blank
import Playstation.Log.Level
import Playstation.Pattern.Parse

/-!
# Log filters

A filter is a list of directives separated by commas. A directive limits the
messages of the targets that begin with its text, or of all targets if it is
only a level, and the most specific directive which matches a target decides.
A filter without directives keeps errors only. After the directives there can
be a slash and a pattern which is found in every message that is kept.
-/

namespace Playstation

/-- One part of a filter. -/
structure Directive where
  /-- What the targets begin with, or nothing for all targets. -/
  target : Option String
  /-- The limit for these targets. -/
  limit : Option Level
  deriving DecidableEq

/-- A filter, its directives in the order in which they were written. -/
structure Filter where
  /-- The directives. -/
  directives : List Directive
  /-- What is found in the messages, if anything is asked for. -/
  pattern : Option Pattern

namespace Directive

/-- The directive written in a piece of text, or why it is none. A target
without a level is not limited. -/
def parse (text : String) : Except String Directive :=
  match text.splitOn "=" with
  | [whole] =>
    match Level.limitOfName? whole with
    | some limit => .ok ⟨none, limit⟩
    | none => .ok ⟨some whole, some .trace⟩
  | [target, level] =>
    let level := trimmed level
    if level = "" then .ok ⟨some target, some .trace⟩
    else
      match Level.limitOfName? level with
      | some limit => .ok ⟨some target, limit⟩
      | none => .error s!"invalid logging spec '{level}'"
  | _ => .error s!"invalid logging spec '{text}'"

/-- How specific a directive is. -/
def specificity (directive : Directive) : Nat :=
  match directive.target with
  | some target => target.utf8ByteSize
  | none => 0

/-- Whether a directive speaks of a target. -/
def applies (directive : Directive) (target : String) : Bool :=
  match directive.target with
  | some start => start.isPrefixOf target
  | none => true

end Directive

namespace Filter

/-- Add a directive, in the place of one for the same targets if there is
one. -/
def insert : List Directive → Directive → List Directive
  | [], directive => [directive]
  | other :: rest, directive =>
    if other.target = directive.target then directive :: rest else other :: insert rest directive

/-- The directives written in a text, and the complaints about those of its
parts which are no directives. -/
def parseDirectives (text : String) : List Directive × List String :=
  let parts := (text.splitOn ",").map trimmed
  let outcomes := (parts.filter (· ≠ "")).map Directive.parse
  let directives := outcomes.foldl
    (fun directives outcome =>
      match outcome with
      | .ok directive => insert directives directive
      | .error _ => directives) []
  let complaints := outcomes.filterMap fun outcome =>
    match outcome with
    | .ok _ => none
    | .error complaint => some complaint
  (directives, complaints)

/-- The filter with some directives, or the usual one if there are none. -/
def ofDirectives (directives : List Directive) (pattern : Option Pattern) : Filter :=
  ⟨if directives.isEmpty then [⟨none, some .error⟩] else directives, pattern⟩

/-- The filter written in a text, and the complaints about the parts of it which
cannot be understood. Nothing of a text with two slashes can. -/
def parse (text : String) : Filter × List String :=
  match text.splitOn "/" with
  | [whole] =>
    let (directives, complaints) := parseDirectives whole
    (ofDirectives directives none, complaints)
  | [whole, written] =>
    let (directives, complaints) := parseDirectives whole
    match Pattern.parse written with
    | .ok pattern => (ofDirectives directives (some pattern), complaints)
    | .error refusal =>
      let complaint := "invalid regex filter - " ++ refusal.message written
      (ofDirectives directives none, complaints ++ [complaint])
  | _ => (ofDirectives [] none, [s!"invalid logging spec '{text}' (too many '/'s)"])

/-- The limit for a target. Of two directives which are equally specific the
later one decides. -/
def limitFor (filter : Filter) (target : String) : Option Level :=
  let applying := filter.directives.filter fun directive => directive.applies target
  let best := applying.foldl
    (fun best directive =>
      match best with
      | none => some directive
      | some other =>
        if directive.specificity < other.specificity then some other else some directive)
    (none : Option Directive)
  best.bind Directive.limit

/-- Whether the filter keeps messages of a level from a target. -/
def keeps (filter : Filter) (level : Level) (target : String) : Bool :=
  level.keptBy (filter.limitFor target)

/-- Whether a message has what the filter asks for. -/
def finds (filter : Filter) (text : String) : Bool :=
  filter.pattern.all fun pattern => pattern.foundIn text

end Filter

end Playstation
