import CloudAuth.Codec.Bytes
import CloudAuth.Path
import CloudAuth.Text.Encoding
import CloudAuth.Text.Printable

/-!
# File systems

What reading a file gives: its bytes, or an error of the operating system. Files are named by bytes, so the
path of a file has to be encoded before the system is asked, and a name ends where a zero byte stands.
Nothing else is said about a file system: any name may lead to any bytes or to any error.
-/

namespace CloudAuth

/-- Why a file could not be read: an error of the operating system. -/
structure ReadFailure where
  /-- The number of the error. -/
  number : Nat
  /-- What the system says about errors of this number. -/
  wording : Text.Wording
  /-- Whether the error tells the name of the file, which it does if the file could not be opened. -/
  namesFile : Bool
  deriving DecidableEq, Repr

namespace ReadFailure

/-- The kind of the error, by its number. -/
def kindName (failure : ReadFailure) : String :=
  match failure.number with
  | 1 | 13 => "PermissionError"
  | 2 => "FileNotFoundError"
  | 3 => "ProcessLookupError"
  | 4 => "InterruptedError"
  | 10 => "ChildProcessError"
  | 11 | 114 | 115 => "BlockingIOError"
  | 17 => "FileExistsError"
  | 20 => "NotADirectoryError"
  | 21 => "IsADirectoryError"
  | 32 | 108 => "BrokenPipeError"
  | 103 => "ConnectionAbortedError"
  | 104 => "ConnectionResetError"
  | 110 => "TimeoutError"
  | 111 => "ConnectionRefusedError"
  | _ => "OSError"

/-- The message of the error at a path. -/
def message (failure : ReadFailure) (path : Text) : String :=
  "[Errno " ++ Decimal.intText failure.number ++ "] " ++ failure.wording.words ++
    if failure.namesFile then ": " ++ Text.quoted path else ""

end ReadFailure

/-- A file system: what reading the file of a name gives. -/
abbrev FileSystem := Bytes → Except ReadFailure Bytes

/-- Why a path names no file. -/
inductive NameProblem where
  /-- It cannot be encoded. -/
  | unencodable (e : EncodeError)
  /-- Its encoded form has a zero byte. -/
  | nul
  deriving DecidableEq, Repr

namespace Path

/-- The name of the file at a path. -/
def fileName (path : Path) : Except NameProblem Bytes :=
  match path.text.encodeName with
  | .error e => .error (.unencodable e)
  | .ok name => if name.contains 0 then .error .nul else .ok name

end Path

end CloudAuth
