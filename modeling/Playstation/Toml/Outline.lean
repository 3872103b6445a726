/-!
# Outlines of keys

A key is a list of names. The outline of many keys is a tree of names in which
each name has a mark and, below it, the names which follow it in some key. It
is what a new key is checked against, and walking it takes one step for each
name of the key.
-/

namespace Playstation.Toml

/-- A name's mark and the names below it. -/
inductive Outline (α : Type) where
  /-- A mark, and names with what is below them. -/
  | node (mark : α) (below : List (String × Outline α))

/-- The names next to each other in an outline. -/
abbrev Names (α : Type) : Type := List (String × Outline α)

/-- Put an outline under a name, in the place of what was there. -/
def Names.put {α : Type} (name : String) (outline : Outline α) : Names α → Names α
  | [] => [(name, outline)]
  | other :: rest =>
    if other.1 = name then (name, outline) :: rest else other :: Names.put name outline rest

/-! ## Keys of entries -/

/-- What a name of a key stands for. -/
inductive KeyMark where
  /-- A value. -/
  | value
  /-- A table, because another name follows. -/
  | table
  deriving DecidableEq

/-- Add the key of an entry, unless a name before its last one already stands
for a value. What a name stands for is settled by the first key which has it;
the last name may be known. -/
def Names.enter? (names : Names KeyMark) : List String → Option (Names KeyMark)
  | [] => some names
  | [name] =>
    if (names.lookup name).isSome then some names else some (names.put name (.node .value []))
  | name :: rest =>
    match (names.lookup name).getD (.node .table []) with
    | .node .value _ => none
    | .node .table below =>
      (Names.enter? below rest).map fun below => names.put name (.node .table below)

/-! ## Keys of headers -/

/-- What a key is to headers. -/
inductive Role where
  /-- Only tables below it have headers. -/
  | implied
  /-- A table with a header. -/
  | table
  /-- A list of tables. -/
  | list
  deriving DecidableEq

/-- What a header makes of the last name of its key, unless the name has another
role. The next table of a list starts with no tables below it. -/
def Role.define? (listed : Bool) : Option (Outline Role) → Option (Outline Role)
  | none => some (.node (if listed then .list else .table) [])
  | some (.node .implied below) => if listed then none else some (.node .table below)
  | some (.node .list _) => if listed then some (.node .list []) else none
  | some (.node .table _) => none

/-- Add the key of a header, unless it has another role. -/
def Names.define? (listed : Bool) (names : Names Role) : List String → Option (Names Role)
  | [] => some names
  | [name] => (Role.define? listed (names.lookup name)).map fun outline => names.put name outline
  | name :: rest =>
    match (names.lookup name).getD (.node .implied []) with
    | .node role below =>
      (Names.define? listed below rest).map fun below => names.put name (.node role below)

end Playstation.Toml
