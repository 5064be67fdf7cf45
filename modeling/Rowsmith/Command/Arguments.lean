/-
# Arguments

The arguments of the command, one after the other. An option with a value takes the argument that
follows, or what follows the equals sign in its own; of several values the last one counts.
-/

import Rowsmith.Statement.Dialect

namespace Rowsmith.Command

/-- What the arguments of a run set. -/
structure Arguments where
  config : Option String := none
  source : Option String := none
  output : Option String := none
  /-- Whether emitted functions take a context. -/
  context : Bool := false
  dialect : Option Dialect := none
  dryRun : Bool := false
  check : Bool := false
  deriving DecidableEq, Repr

/-- What the arguments ask for. -/
inductive Request where
  | help
  | generate (a : Arguments)
  deriving DecidableEq, Repr

/-- What is wrong with arguments. -/
inductive ArgumentError where
  /-- An option comes last without its value. -/
  | noValue (option : String)
  | dialect (e : UnknownDialect)
  | unknown (argument : String)
  deriving DecidableEq, Repr

/-- The wording of an error. -/
def ArgumentError.message : ArgumentError → String
  | noValue option => s!"{option} requires a value"
  | dialect e => s!"--dialect: {e.message}"
  | unknown argument => s!"unknown argument: {argument}"

/-- An option with a value. -/
inductive ValueOption where
  | config
  | source
  | output
  | dialect
  deriving DecidableEq, Repr

namespace ValueOption

/-- All options with a value. -/
def all : List ValueOption :=
  [config, source, output, dialect]

/-- The name of an option. -/
def name : ValueOption → String
  | config => "--config"
  | source => "--src"
  | output => "--out"
  | dialect => "--dialect"

/-- The option that an argument names, if its value follows in the next one. -/
def named? (argument : String) : Option ValueOption :=
  if argument = "-o" then some output else all.find? fun o => o.name == argument

/-- `cs` without `start` at its start, as often as it stands there; at most `n` times. -/
def dropStarts (start : List Char) : (n : Nat) → List Char → List Char
  | 0, cs => cs
  | n + 1, cs => if start.isPrefixOf cs then dropStarts start n (cs.drop start.length) else cs

/-- The option that an argument names together with its value. The name and the equals sign may be
repeated. -/
def joined? (argument : String) : Option (ValueOption × String) :=
  let cs := argument.toList
  all.findSome? fun o =>
    let start := (o.name ++ "=").toList
    if start.isPrefixOf cs then some (o, String.ofList (dropStarts start cs.length cs)) else none

/-- The arguments with a value for the option. -/
def set (o : ValueOption) (a : Arguments) (value : String) : Except ArgumentError Arguments :=
  match o with
  | config => .ok { a with config := some value }
  | source => .ok { a with source := some value }
  | output => .ok { a with output := some value }
  | dialect =>
    match Dialect.ofText value with
    | .ok d => .ok { a with dialect := some d }
    | .error e => .error (.dialect e)

end ValueOption

namespace Arguments

/-- The arguments with an option that has no value, if the argument names one. -/
def setFlag? (a : Arguments) : String → Option Arguments
  | "--context" => some { a with context := true }
  | "--dry-run" => some { a with dryRun := true }
  | "--check" => some { a with check := true }
  | _ => none

/-- Reads arguments after those that have set `a`. -/
def parseAfter (a : Arguments) : List String → Except ArgumentError Request
  | [] => .ok (.generate a)
  | token :: rest =>
    if token = "-h" || token = "--help" then .ok .help
    else
      match ValueOption.named? token, rest with
      | some _, [] => .error (.noValue token)
      | some o, value :: rest => do parseAfter (← o.set a value) rest
      | none, rest =>
        match ValueOption.joined? token with
        | some (o, value) => do parseAfter (← o.set a value) rest
        | none =>
          match a.setFlag? token with
          | some a => parseAfter a rest
          | none => .error (.unknown token)

/-- Reads the arguments of a run. -/
def parse (arguments : List String) : Except ArgumentError Request :=
  parseAfter {} arguments

end Arguments

/-- The text that describes the arguments. -/
def helpText : String :=
  "dbcrud-gen - compile Rust entity structs into SQL schemas and CRUD code\n\n" ++
  "USAGE:\n" ++
  "  dbcrud-gen [OPTIONS]\n\n" ++
  "OPTIONS:\n" ++
  "  --config <FILE>       Config file path (default: dbcrud.toml, if present)\n" ++
  "  --src <DIR>           Source directory to scan (overrides input.src)\n" ++
  "  -o, --out <DIR>       Output directory (overrides output.out)\n" ++
  "  --context             Generate functions that take a DbContext\n" ++
  "  --dialect <NAME>      postgres | mysql (overrides output.dialect)\n" ++
  "  --dry-run             Print files to create, update or remove\n" ++
  "  --check               Exit non-zero if output would change\n" ++
  "  -h, --help            Print help\n\n" ++
  "Set RUST_LOG=debug to trace each compiled entity.\n"

end Rowsmith.Command
