import AccessGrants.Settings.Basic
import AccessGrants.Text.Reading

/-!
What a path leads to from a working directory that holds nothing but files. Of
the machine around the directory no more is known than what every machine has:
some directories at its root, and a device that is always empty.
-/

namespace AccessGrants.Settings

structure Directory where
  files : List (String × ByteArray)

namespace Directory

def commonDirectories : List String :=
  ["/", "/dev", "/etc", "/proc", "/tmp", "/usr", "/var"]

/-- The number of bytes that a path stays below. -/
def pathLimit : Nat := 4096

/-- The number of bytes that a name does not exceed. -/
def nameLimit : Nat := 255

/-- Follows the steps of a path; `isInside` says that it has not led out of the
directory so far. Behind a file no step leads any further, not even an empty
one. -/
def follow (directory : Directory) (isInside : Bool) :
    List String → Except FileError ByteArray
  | [] => .error .isDirectory
  | step :: rest =>
    if step = "" || step = "." then directory.follow isInside rest
    else if step = ".." then directory.follow false rest
    else if nameLimit < step.utf8ByteSize then .error .nameTooLong
    else if !isInside then .error .absent
    else
      match directory.files.lookup step with
      | none => .error .absent
      | some bytes => if rest.isEmpty then .ok bytes else .error .notDirectory

def read (directory : Directory) (path : String) : Except FileError ByteArray :=
  if path = "" then .error .absent
  else if pathLimit ≤ path.utf8ByteSize then .error .nameTooLong
  else if path = "/dev/null" then .ok .empty
  else if path ∈ commonDirectories then .error .isDirectory
  else if path.toList.head? = some '/' then .error .absent
  else directory.follow true ((Text.parts '/' path.toList).map String.ofList)

end Directory

end AccessGrants.Settings
