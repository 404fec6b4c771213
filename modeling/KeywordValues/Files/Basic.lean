/-!
# Files as a program sees them

What a path leads to, as far as loading documents depends on it: a regular file with the size that
is reported for it and the bytes that are read from it, which may differ, or something else. A
`FileSystem` answers for each path.
-/

namespace KeywordValues

/-- Why the operating system does not open or read a file. -/
inductive FileFault where
  | notFound
  | permissionDenied
  | notPermitted
  | notADirectory
  | nameTooLong
  | tooManyLinks
  | nulInPath
  | notUtf8
  | other (message : String)
deriving DecidableEq, Repr

namespace FileFault

/-- The wording of the fault. -/
def message : FileFault → String
  | .notFound => "No such file or directory (os error 2)"
  | .permissionDenied => "Permission denied (os error 13)"
  | .notPermitted => "Operation not permitted (os error 1)"
  | .notADirectory => "Not a directory (os error 20)"
  | .nameTooLong => "File name too long (os error 36)"
  | .tooManyLinks => "Too many levels of symbolic links (os error 40)"
  | .nulInPath => "file name contained an unexpected NUL byte"
  | .notUtf8 => "stream did not contain valid UTF-8"
  | .other message => message

end FileFault

/-- A regular file: the size reported for it, and what is read from it. -/
structure RegularFile where
  size : Nat
  content : ByteArray

/-- What a path leads to, behind all symbolic links. -/
inductive Target where
  | regular (file : RegularFile)
  /-- A directory, a device or the like. -/
  | special

/-- Answers about paths. -/
structure FileSystem where
  /-- Whether a path itself names a symbolic link. -/
  isLink : String → Except FileFault Bool
  /-- What a path leads to. -/
  target : String → Except FileFault Target

end KeywordValues
