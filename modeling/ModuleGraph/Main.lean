/-
This file is the command line.
-/

import ModuleGraph.Command

namespace ModuleGraph

/-- The arguments of a call. -/
structure Arguments where
  project : String
  json : Bool
  web : Bool
  emitCode : Bool
  importer : Option String
  words : List String

namespace Arguments

def default : Arguments :=
  ⟨"esresolve.json", false, false, false, none, []⟩

/-- Whether a word asks for more log output, of which there is none. -/
def isVerbose (word : String) : Bool :=
  match word.toList with
  | '-' :: 'v' :: letters => letters.all (· == 'v')
  | _ => word == "--verbose"

/-- Reads options and words in any order; after a double dash there are words only. -/
def read : Arguments → List String → Except String Arguments
  | arguments, [] => .ok { arguments with words := arguments.words.reverse }
  | arguments, "--" :: rest => .ok { arguments with words := arguments.words.reverse ++ rest }
  | arguments, "--project" :: path :: rest => read { arguments with project := path } rest
  | arguments, "--from" :: path :: rest => read { arguments with importer := some path } rest
  | arguments, "--json" :: rest => read { arguments with json := true } rest
  | arguments, "--http" :: rest => read { arguments with web := true } rest
  | arguments, "--emit-code" :: rest => read { arguments with emitCode := true } rest
  | arguments, word :: rest =>
      match Text.dropStart? word "--project=", Text.dropStart? word "--from=" with
      | some path, _ => read { arguments with project := path } rest
      | none, some path => read { arguments with importer := some path } rest
      | none, none =>
          if isVerbose word then read arguments rest
          else if Text.startsWith word "-" then .error s!"unexpected argument {word}"
          else read { arguments with words := word :: arguments.words } rest

def command (arguments : Arguments) : Except String Command :=
  match arguments.words with
  | ["resolve", specifier] => .ok (.resolve specifier arguments.importer)
  | "build" :: entries => .ok (.build entries arguments.emitCode)
  | _ => .error "expected: resolve SPECIFIER [--from PATH], or build [ENTRY...] [--emit-code]"

end Arguments

/-- More modules than any project has. -/
def moduleLimit : Nat :=
  1000000

def readManifest (path : String) : IO (Option ByteArray) := do
  try
    return some (← IO.FS.readBinFile path)
  catch _ =>
    return none

def present (arguments : Arguments) (outcome : Outcome) (elapsed : Nat) : IO UInt32 := do
  if arguments.json then
    IO.println (outcome.toJson (some elapsed)).print
  else
    let lines := outcome.toLines (some elapsed)
    for line in lines.err do
      IO.eprintln line
    for line in lines.out do
      IO.println line
  return UInt32.ofNat outcome.exitCode

def runCommand (written : List String) : IO UInt32 := do
  let parsed := do
    let arguments ← Arguments.read Arguments.default written
    return (arguments, ← arguments.command)
  match parsed with
  | .error message =>
      IO.eprintln message
      return 2
  | .ok (arguments, command) =>
      let started ← IO.monoMsNow
      let manifest ← readManifest arguments.project
      let web := if arguments.web then some Hook.Remote.offline else none
      match command.run arguments.project manifest web moduleLimit with
      | none =>
          IO.eprintln "the build was given up: there are too many modules"
          return 1
      | some outcome => present arguments outcome ((← IO.monoMsNow) - started)

end ModuleGraph

def main (arguments : List String) : IO UInt32 :=
  ModuleGraph.runCommand arguments
