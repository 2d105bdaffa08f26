import CqlSchema.Settings.Port
/-!
# Invocations

What a run of the command line is asked to do. Every command takes a keyspace and a format,
whether it needs them or not.
-/

namespace CqlSchema.CommandLine

/-- Formats of an output. -/
inductive Format where
  | text
  | json
  deriving Repr, DecidableEq

/-- Format that a word names. -/
def Format.ofWord? (word : String) : Option Format :=
  if word = "text" then some .text else if word = "json" then some .json else none

/-- Commands. -/
inductive Command where
  | setContext (files : List String)
  | showContext
  | clearContext
  | setConnection (program host : Option String) (port : Option Nat)
  | showConnection
  | render (files : List String) (out : Option String)
  | check (files : List String)
  | apply (files : List String) (isDry : Bool)
  deriving Repr, DecidableEq

/-- A command with what every command takes. -/
structure Invocation where
  keyspace : Option String
  format : Format
  command : Command
  deriving Repr, DecidableEq

/-- Things that arguments ask for. -/
inductive Request where
  | version
  | help
  | invoke (invocation : Invocation)
  deriving Repr, DecidableEq

end CqlSchema.CommandLine
