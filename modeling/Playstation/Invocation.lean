/-!
# Invocations

The arguments of the program: the path of a settings file after `--config`,
and the path of a boot ROM. Both may be missing. The last settings file counts,
while a second boot ROM is refused.
-/

namespace Playstation

/-- What the program is asked to do. -/
structure Invocation where
  /-- The path of a settings file. -/
  settings : Option String := none
  /-- The path of a boot ROM. -/
  bios : Option String := none
  deriving DecidableEq

namespace Invocation

/-- How the program is used. -/
def usage : String := "usage: psxemu [--config <file>] [bios]"

/-- Add arguments to what was asked before. -/
def extend? (invocation : Invocation) : List String → Option Invocation
  | [] => some invocation
  | "--config" :: path :: rest => extend? { invocation with settings := some path } rest
  | argument :: rest =>
    if argument = "--config" ∨ invocation.bios.isSome then none
    else extend? { invocation with bios := some argument } rest

/-- What the arguments ask for, if they make sense. -/
def parse? (arguments : List String) : Option Invocation := extend? {} arguments

end Invocation

end Playstation
