/-!
What a file system, a program loader or a report sink answers when it cannot do what it is asked.
-/
namespace LoweringAudit

inductive Fault where
  | notFound
  | permissionDenied
  | notDirectory
  | isDirectory
  | nameTooLong
  | noDevice
  | noSpace
  | tooManyArguments
  | nulInPath
  | nulInArgument
  | notUtf8
  | sinkFull
  /-- Any other answer of the operating system, in its own words. -/
  | other (message : String)
  deriving DecidableEq, Repr

/-- The words for a fault, and its number if it comes from the operating system. -/
def Fault.reason : Fault → String × Option Nat
  | notFound => ("No such file or directory", some 2)
  | permissionDenied => ("Permission denied", some 13)
  | notDirectory => ("Not a directory", some 20)
  | isDirectory => ("Is a directory", some 21)
  | nameTooLong => ("File name too long", some 36)
  | noDevice => ("No such device or address", some 6)
  | noSpace => ("No space left on device", some 28)
  | tooManyArguments => ("Argument list too long", some 7)
  | nulInPath => ("file name contained an unexpected NUL byte", none)
  | nulInArgument => ("nul byte found in provided data", none)
  | notUtf8 => ("stream did not contain valid UTF-8", none)
  | sinkFull => ("sink full", none)
  | other message => (message, none)

def Fault.message (f : Fault) : String :=
  match f.reason with
  | (words, some n) => words ++ " (os error " ++ toString n ++ ")"
  | (words, none) => words

end LoweringAudit
