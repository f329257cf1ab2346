/-! # Files as a value

Reading is a lookup: a file system says what each path holds at the moment of the call. A file tree
is one that holds the files of a single directory.
-/
namespace CodeHighlight

inductive ReadFailure where
  | notFound
  | isDirectory
  | notDirectory
  | notText
  | nameTooLong
  | nullInPath
  | other (reason : String)
deriving DecidableEq, Repr

def ReadFailure.message : ReadFailure → String
  | notFound => "No such file or directory (os error 2)"
  | isDirectory => "Is a directory (os error 21)"
  | notDirectory => "Not a directory (os error 20)"
  | notText => "stream did not contain valid UTF-8"
  | nameTooLong => "File name too long (os error 36)"
  | nullInPath => "file name contained an unexpected NUL byte"
  | other reason => reason

structure FileSystem where
  read : String → Except ReadFailure String
  /-- The names in a directory, in no particular order. -/
  list : String → Option (List String)

def FileSystem.empty : FileSystem := ⟨fun _ => .error .notFound, fun _ => none⟩

end CodeHighlight
