import RoundTrip.Console

/-! # Library directories

The directory in which libraries are looked for, written so that a file name can follow it: empty
for the default search path, or ending in a slash. The name, its slash and a terminator fit 128
bytes.
-/
namespace RoundTrip

/-- The room for a directory name with its slash and a terminator, in bytes. -/
def maxDirectoryName : Nat := 128

structure LibraryDir where
  path : String
  deriving DecidableEq

namespace LibraryDir

/-- The default search path. -/
def searchPath : LibraryDir := ⟨""⟩

def endsInSlash (name : String) : Bool := name.toList.getLast? == some '/'

/-- The name with a slash after it, unless it is empty or has one. -/
def withSlash (name : String) : String :=
  if name.isEmpty || endsInSlash name then name else name ++ "/"

/-- The directory of that name, if it fits. -/
def ofName (name : String) : EStateM Fault Console LibraryDir := fun console =>
  let length := name.utf8ByteSize
  if maxDirectoryName - 1 < length then
    .error (.libraryDirTooLong length maxDirectoryName)
      (console.say (.directoryTooLong maxDirectoryName))
  else if length = maxDirectoryName - 1 ∧ ¬ endsInSlash name then
    .error (.libraryDirTooLong length maxDirectoryName)
      (console.say (.directoryWithSlashTooLong maxDirectoryName))
  else .ok ⟨withSlash name⟩ console

/-- The path of a file in the directory. -/
def join (dir : LibraryDir) (file : String) : String := dir.path ++ file

end LibraryDir
end RoundTrip
