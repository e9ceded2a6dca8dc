/-
Formatters.

A formatter runs over a file that has just been written.  It has a command line
to show to the operator, and may change the disk.
-/
import NodeGen.Files.Disk

namespace NodeGen

structure FormatError where
  command : String
  message : String
  deriving DecidableEq, Repr

def FormatError.text (e : FormatError) : String :=
  "could not run `" ++ e.command ++ "`: " ++ e.message

class Formatter (τ : Type) where
  command : τ → String → String
  format : τ → String → Disk → Except FormatError Unit × τ × Disk

/-! ## The recorder -/

/-- A formatter that changes no file, notes the paths it is given, and fails as
it is told to. -/
structure Recorder where
  /-- What the next calls fail with.  Later ones succeed. -/
  failures : List (Option String)
  formatted : List String
  deriving DecidableEq, Repr

namespace Recorder

def command (path : String) : String := "fmt " ++ path

instance : Formatter Recorder where
  command _ path := command path
  format r path disk :=
    (match r.failures.head?.join with
      | some message => .error ⟨command path, message⟩
      | none => .ok (),
      ⟨r.failures.tail, r.formatted ++ [path]⟩, disk)

end Recorder
end NodeGen
