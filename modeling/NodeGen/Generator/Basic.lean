/-
The generator.

A family becomes one Go file under a preamble.  Families are chosen by name, in
the order given and each at most once.
-/
import NodeGen.Files.Path
import NodeGen.Generator.Node

namespace NodeGen

open GoSource

/-- The name that generated files give as their generator. -/
def generatorName : String := "glox-build"

/-- The package of generated files, and the name of the directory they go to. -/
def defaultPackage : String := "glox"

structure Config where
  package : String
  outDir : String
  generator : String
  deriving DecidableEq, Repr

/-- The configuration for a project with the given root. -/
def Config.default (projectRoot : String) : Config where
  package := defaultPackage
  outDir := Path.join projectRoot defaultPackage
  generator := generatorName

/-- One family, ready for the output gate. -/
structure GeneratedFile where
  family : String
  path : String
  text : String
  deriving DecidableEq, Repr

/-- The families without those whose name came before. -/
def distinctFamilies : List Family → List Family
  | [] => []
  | f :: rest => f :: (distinctFamilies rest).filter (·.name ≠ f.name)

/-- The built-in families of the names.  The first unknown name is reported. -/
def familiesOf : List String → Except GenerateError (List Family)
  | [] => .ok []
  | name :: rest =>
    match Family.builtin? name with
    | none => .error (.unknownFamily name)
    | some f =>
      match familiesOf rest with
      | .error e => .error e
      | .ok fs => .ok (f :: fs)

namespace Generation

/-- The text of the file of a family. -/
def familyText (f : Family) (config : Config) : Generation String := do
  let declarations ← family f
  pure (withPreamble config.generator config.package (renderAll declarations))

def file (f : Family) (config : Config) : Generation GeneratedFile := do
  let text ← familyText f config
  pure ⟨f.name, Path.join config.outDir f.fileName, text⟩

def files (config : Config) : List Family → Generation (List GeneratedFile)
  | [] => pure []
  | f :: rest => do
    let here ← file f config
    let others ← files config rest
    pure (here :: others)

/-- The files of all built-in families. -/
def all (config : Config) : Generation (List GeneratedFile) :=
  files config builtinFamilies

/-- The files of the families of the names. -/
def named (names : List String) (config : Config) : Generation (List GeneratedFile) :=
  match familiesOf names with
  | .error e => fail e
  | .ok fs => files config (distinctFamilies fs)

end Generation
end NodeGen
