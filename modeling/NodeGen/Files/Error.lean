/-
The ways an input or output operation can fail.
-/

namespace NodeGen

/-- The errors of the operating system that files and programs meet. -/
inductive SystemError where
  | notFound
  | argumentTooLong
  | permissionDenied
  | busy
  | alreadyExists
  | notDirectory
  | isDirectory
  | nameTooLong
  | tooManyLinks
  deriving DecidableEq, Repr

def SystemError.number : SystemError → Nat
  | notFound => 2
  | argumentTooLong => 7
  | permissionDenied => 13
  | busy => 16
  | alreadyExists => 17
  | notDirectory => 20
  | isDirectory => 21
  | nameTooLong => 36
  | tooManyLinks => 40

def SystemError.text : SystemError → String
  | notFound => "No such file or directory"
  | argumentTooLong => "Argument list too long"
  | permissionDenied => "Permission denied"
  | busy => "Device or resource busy"
  | alreadyExists => "File exists"
  | notDirectory => "Not a directory"
  | isDirectory => "Is a directory"
  | nameTooLong => "File name too long"
  | tooManyLinks => "Too many levels of symbolic links"

inductive IoError where
  | system (e : SystemError)
  /-- A path that holds the character that ends a path. -/
  | nulInPath
  /-- A program argument that holds it. -/
  | nulInArgument
  /-- A sink that takes no more. -/
  | sinkFull
  | flushFailed
  | invalidText
  | other (text : String)
  deriving DecidableEq, Repr

def IoError.message : IoError → String
  | system e => e.text ++ " (os error " ++ toString e.number ++ ")"
  | nulInPath => "file name contained an unexpected NUL byte"
  | nulInArgument => "nul byte found in provided data"
  | sinkFull => "failed to write whole buffer"
  | flushFailed => "flush failed"
  | invalidText => "stream did not contain valid UTF-8"
  | other text => text

end NodeGen
