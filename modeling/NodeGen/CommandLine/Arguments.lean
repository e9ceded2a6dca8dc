/-
Reading the arguments of the command line.

An argument is a long option, a cluster of short ones, or a word.  A word is
only accepted as the value of the option before it.  A value takes effect when
the next option or the end of the arguments is reached, so an argument that is
unknown is reported ahead of a value that does not fit.  After `--` there is no
option any more.
-/
import NodeGen.CommandLine.Options

namespace NodeGen

/-- Arguments read so far. -/
structure Reading where
  options : Options
  /-- The options given, in order. -/
  given : List OptionName
  /-- The option whose value has not taken effect, with the value if there is
  one. -/
  pending : Option (ValueOption × Option String)
  deriving DecidableEq, Repr

namespace Reading

def start : Reading := ⟨Options.default, [], none⟩

/-- Only families can be given more than once, and only a directory has to have
a name. -/
def takeValue (r : Reading) (o : ValueOption) (value : String) : Except UsageError Reading :=
  if o ≠ .family && r.given.contains (.value o) then .error (.repeated (.value o))
  else if o = .outDir && value = "" then .error (.missingValue o)
  else
    .ok { r with options := r.options.withValue o value, given := r.given ++ [.value o] }

/-- Lets a pending value take effect. -/
def settle (r : Reading) : Except UsageError Reading :=
  match r.pending with
  | none => .ok r
  | some (o, none) => .error (.missingValue o)
  | some (o, some value) => { r with pending := none }.takeValue o value

def takeFlag (r : Reading) (f : Flag) : Except UsageError Reading := do
  let r ← r.settle
  match f with
  | .help => .error .help
  | .version => .error .version
  | _ =>
    if r.given.contains (.flag f) then .error (.repeated (.flag f))
    else .ok { r with options := r.options.withFlag f, given := r.given ++ [.flag f] }

/-- An option whose value comes next. -/
def await (r : Reading) (o : ValueOption) : Except UsageError Reading := do
  let r ← r.settle
  .ok { r with pending := some (o, none) }

/-- An option along with its value. -/
def takeBoth (r : Reading) (o : ValueOption) (value : String) : Except UsageError Reading := do
  let r ← r.settle
  r.takeValue o value

/-! ## The forms of an argument -/

/-- `--name` or `--name=value`, without the dashes. -/
def readLong (r : Reading) (body : List Char) : Except UsageError Reading :=
  let name := String.ofList (body.takeWhile (· ≠ '='))
  let value? := match body.dropWhile (· ≠ '=') with
    | [] => none
    | _ :: value => some (String.ofList value)
  match OptionName.ofLong? name, value? with
  | none, _ => .error (.unknownArgument ("--" ++ name))
  | some (.flag f), none => r.takeFlag f
  | some (.flag f), some value => .error (.unexpectedValue f value)
  | some (.value o), none => r.await o
  | some (.value o), some value => r.takeBoth o value

/-- Short options, without the dash.  What follows an option with a value in
its cluster is the value, perhaps after an equals sign. -/
def readCluster (r : Reading) : List Char → Except UsageError Reading
  | [] => .ok r
  | c :: rest =>
    match OptionName.ofShort? c with
    | none => .error (.unknownArgument (String.ofList ['-', c]))
    | some (.flag f) => do
      let r ← r.takeFlag f
      r.readCluster rest
    | some (.value o) =>
      match rest with
      | [] => r.await o
      | '=' :: value => r.takeBoth o (String.ofList value)
      | value => r.takeBoth o (String.ofList value)

def readWord (r : Reading) (word : String) : Except UsageError Reading :=
  match r.pending with
  | some (o, none) => .ok { r with pending := some (o, some word) }
  | _ => .error (.unknownArgument word)

/-- Reads the arguments up to their end, or up to the one after `--`. -/
def readAll (r : Reading) : List String → Except UsageError Reading
  | [] => r.settle
  | argument :: rest =>
    match argument.toList with
    | ['-', '-'] =>
      match rest with
      | [] => r.settle
      | word :: _ => .error (.unknownArgument word)
    | '-' :: '-' :: body => do
      let r ← r.readLong body
      r.readAll rest
    | '-' :: c :: cluster => do
      let r ← r.readCluster (c :: cluster)
      r.readAll rest
    | _ => do
      let r ← r.readWord argument
      r.readAll rest

/-- Verbose and quiet exclude each other. -/
def checked (r : Reading) : Except UsageError Options :=
  match r.given.filterMap (fun o =>
      match o with
      | .flag .verbose => some Flag.verbose
      | .flag .quiet => some Flag.quiet
      | _ => none) with
  | first :: second :: _ => .error (.conflict first second)
  | _ => .ok r.options

end Reading

/-- The options that the arguments of the command line ask for. -/
def Options.ofArguments (arguments : List String) : Except UsageError Options := do
  let r ← Reading.start.readAll arguments
  r.checked

end NodeGen
