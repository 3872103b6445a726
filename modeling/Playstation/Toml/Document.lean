import Playstation.Toml.Value

/-!
# Settings documents

A document has entries at its top, and tables with entries of their own, each
under a header. A header has a key in single brackets, or in double brackets
if the table is the next one of a list. A table has one header; it may have
tables below it before it has its own. A list has only headers in double
brackets, and each of them starts with no tables below it.
-/

namespace Playstation.Toml

/-- The header of a table. -/
structure Header where
  /-- The parts of its key. -/
  key : List String
  /-- Whether the table is one of a list. -/
  listed : Bool
  deriving DecidableEq

/-- A document. -/
structure Document where
  /-- The entries at the top. -/
  top : Entries
  /-- The tables with headers. -/
  tables : List (Header × Entries)

namespace Reader

/-- Take a header and the end of its line. -/
def header : Reader Header := do
  expect .openBracket
  let listed ← accept .openBracket
  let key ← key
  expect .closeBracket
  if listed then expect .closeBracket
  lineEnd
  pure ⟨key, listed⟩

/-- Take a key, its value of a limited size, and the end of their line. -/
def entry (limit : Nat) (draft : Draft) : Reader Draft := do
  let key ← key
  expect .equals
  blanks
  let draft ← draft.append? key (← valueWithin limit)
  lineEnd
  pure draft

/-- Take the entries in front of the next header, each with a value of a limited
size, as long as their number is not exceeded. -/
def entriesUpTo (limit : Nat) : (count : Nat) → Draft → Reader Draft
  | 0, draft => pure draft
  | count + 1, draft => do
    gaps
    match (← get).head? with
    | none | some .openBracket => pure draft
    | _ => entriesUpTo limit count (← entry limit draft)

/-- Take tables, as long as there are any and their number is not exceeded. The
tables before them are given in reverse. -/
def tablesUpTo (limit : Nat) :
    (count : Nat) → Names Role → List (Header × Entries) → Reader (List (Header × Entries))
  | 0, _, tables => pure tables.reverse
  | count + 1, names, tables => do
    if (← get).isEmpty then pure tables.reverse
    else
      let header ← header
      let names ← names.define? header.listed header.key
      let draft ← entriesUpTo limit limit .empty
      tablesUpTo limit count names ((header, draft.entries) :: tables)

/-- Take a document. None of its parts has more entries than there are tokens,
and each token lets the reading of a value go at most two steps deeper. -/
def document : Reader Document := do
  let limit := 2 * (← get).length + 2
  let top ← entriesUpTo limit limit .empty
  let tables ← tablesUpTo limit limit [] []
  pure ⟨top.entries, tables⟩

end Reader

namespace Document

/-- The document which a text is. -/
def ofText? (text : String) : Option Document :=
  match Token.ofText? text with
  | some tokens =>
    match Reader.document tokens with
    | some (document, []) => some document
    | _ => none
  | none => none

/-- The value of a name at the top of a document, or nothing if there is none.
A name which has several values, or stands in front of a dot or in a header,
has no single value. -/
def valueOf? (document : Document) (name : String) : Option (Option Value) :=
  let inHeader := document.tables.any fun table => table.1.key.head? = some name
  match document.top.filter fun entry => entry.1.head? = some name with
  | [] => if inHeader then none else some none
  | [([_], value)] => if inHeader then none else some (some value)
  | _ => none

end Document

end Playstation.Toml
