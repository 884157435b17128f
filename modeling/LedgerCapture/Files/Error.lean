/-!
What the operating system answers when a file cannot be used or a program cannot be started.
-/
namespace LedgerCapture

inductive SystemError where
  | notFound
  | permissionDenied
  | present
  | notDirectory
  | isDirectory
  | nameTooLong
  | tooManyLinks
  /-- The file holds bytes that are no text. -/
  | notText
  /-- A zero byte in the name of a file. -/
  | zeroByteInPath
  /-- A zero byte in the name of a program or in one of its arguments. -/
  | zeroByteInArgument
  deriving DecidableEq, Repr

def SystemError.message : SystemError → String
  | notFound => "No such file or directory (os error 2)"
  | permissionDenied => "Permission denied (os error 13)"
  | present => "File exists (os error 17)"
  | notDirectory => "Not a directory (os error 20)"
  | isDirectory => "Is a directory (os error 21)"
  | nameTooLong => "File name too long (os error 36)"
  | tooManyLinks => "Too many levels of symbolic links (os error 40)"
  | notText => "stream did not contain valid UTF-8"
  | zeroByteInPath => "file name contained an unexpected NUL byte"
  | zeroByteInArgument => "nul byte found in provided data"

end LedgerCapture
