/-!
# Failures of the host

Why a file could not be read or a stream could not be written, with the wording of each cause.
-/

namespace ClassInspect

inductive HostFailure where
  | notFound
  | notDirectory
  | isDirectory
  | nameTooLong
  /-- A path that holds a NUL character is refused before any file is looked for. -/
  | nulInPath
  /-- The bytes of a text file are not UTF-8. -/
  | notText
  /-- A stream took none of the bytes that it was offered. -/
  | nothingWritten
  /-- Any other cause, in the host's own words. -/
  | other (text : String)
deriving Repr, DecidableEq

namespace HostFailure

def message : HostFailure → String
  | notFound => "No such file or directory (os error 2)"
  | notDirectory => "Not a directory (os error 20)"
  | isDirectory => "Is a directory (os error 21)"
  | nameTooLong => "File name too long (os error 36)"
  | nulInPath => "file name contained an unexpected NUL byte"
  | notText => "stream did not contain valid UTF-8"
  | nothingWritten => "failed to write whole buffer"
  | other text => text

end HostFailure

end ClassInspect
