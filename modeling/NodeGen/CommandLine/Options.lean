/-
The options of the command line.
-/
import NodeGen.Confirmation.Strategy
import NodeGen.Generator.Basic
import NodeGen.Text.Plain

namespace NodeGen

/-- The options that take a value. -/
inductive ValueOption where
  | family
  | outDir
  | package
  deriving DecidableEq, Repr

inductive Flag where
  | yes
  | noFormat
  | print
  | verbose
  | quiet
  | help
  | version
  deriving DecidableEq, Repr

inductive OptionName where
  | value (o : ValueOption)
  | flag (f : Flag)
  deriving DecidableEq, Repr

def ValueOption.long : ValueOption → String
  | family => "family"
  | outDir => "out-dir"
  | package => "package"

/-- The option as a usage message names it. -/
def ValueOption.usage : ValueOption → String
  | family => "--family <FAMILIES>"
  | outDir => "--out-dir <OUT_DIR>"
  | package => "--package <PACKAGE>"

def Flag.long : Flag → String
  | yes => "yes"
  | noFormat => "no-format"
  | print => "print"
  | verbose => "verbose"
  | quiet => "quiet"
  | help => "help"
  | version => "version"

def Flag.usage (f : Flag) : String := "--" ++ f.long

namespace OptionName

def all : List OptionName := [
  .value .family, .value .outDir, .value .package, .flag .yes, .flag .noFormat, .flag .print,
  .flag .verbose, .flag .quiet, .flag .help, .flag .version
  ]

def long : OptionName → String
  | value o => o.long
  | flag f => f.long

def short? : OptionName → Option Char
  | value .family => some 'f'
  | flag .yes => some 'y'
  | flag .verbose => some 'v'
  | flag .quiet => some 'q'
  | flag .help => some 'h'
  | flag .version => some 'V'
  | _ => none

def usage : OptionName → String
  | value o => o.usage
  | flag f => f.usage

def ofLong? (name : String) : Option OptionName := all.find? (·.long = name)

def ofShort? (c : Char) : Option OptionName := all.find? (·.short? = some c)

end OptionName

/-! ## Results -/

structure Options where
  families : List String
  outDir : Option String
  package : String
  yes : Bool
  noFormat : Bool
  print : Bool
  verbose : Bool
  quiet : Bool
  deriving DecidableEq, Repr

def Options.default : Options :=
  ⟨[], none, defaultPackage, false, false, false, false, false⟩

namespace Options

def withValue (o : Options) : ValueOption → String → Options
  | .family, value => { o with families := o.families ++ [value] }
  | .outDir, value => { o with outDir := some value }
  | .package, value => { o with package := value }

def withFlag (o : Options) : Flag → Options
  | .yes => { o with yes := true }
  | .noFormat => { o with noFormat := true }
  | .print => { o with print := true }
  | .verbose => { o with verbose := true }
  | .quiet => { o with quiet := true }
  | .help => o
  | .version => o

/-- The least severe level that is logged. -/
def level (o : Options) : Level :=
  if o.verbose then .debug else if o.quiet then .warn else .info

def confirmFlags (o : Options) : ConfirmFlags := ⟨o.yes, o.noFormat⟩

def config (o : Options) (projectRoot : String) : Config :=
  let default := Config.default projectRoot
  { default with package := o.package, outDir := o.outDir.getD default.outDir }

end Options

/-- Why the arguments give no options. -/
inductive UsageError where
  | unknownArgument (argument : String)
  /-- A flag that was given a value. -/
  | unexpectedValue (f : Flag) (value : String)
  | missingValue (o : ValueOption)
  | repeated (o : OptionName)
  | conflict (given other : Flag)
  | help
  | version
  deriving DecidableEq, Repr

namespace UsageError

/-- The start of the message, with the argument as plain text.  A request for help
or for the version is answered on its own. -/
def message? (medium : Text.Medium) : UsageError → Option String
  | unknownArgument a => some ("error: unexpected argument '" ++ Text.plain medium a ++ "' found")
  | unexpectedValue f v =>
    some ("error: unexpected value '" ++ Text.plain medium v ++ "' for '" ++ f.usage
      ++ "' found; no more were expected")
  | missingValue o =>
    some ("error: a value is required for '" ++ o.usage ++ "' but none was supplied")
  | repeated o =>
    some ("error: the argument '" ++ o.usage ++ "' cannot be used multiple times")
  | conflict g o =>
    some ("error: the argument '" ++ g.usage ++ "' cannot be used with '" ++ o.usage ++ "'")
  | help => none
  | version => none

/-- What a message shows of itself when only its first line is kept. -/
def firstLine (message : String) : String :=
  let line := message.toList.takeWhile (· ≠ '\n')
  let ended := message.toList.any (· == '\n')
  String.ofList (if ended && line.getLast? == some '\r' then line.dropLast else line)

end UsageError
end NodeGen
