/-!
Files as a program sees them: texts that can be read and replaced under a path, in some monad.
-/

namespace GoDto

inductive FileError where
  | notFound
  | notADirectory
  | isADirectory
  | nameTooLong
  /-- The path holds the character that ends a path. -/
  | brokenName
  | notText
  | other (reason : String)
  deriving DecidableEq, Repr

def FileError.text : FileError → String
  | notFound => "No such file or directory (os error 2)"
  | notADirectory => "Not a directory (os error 20)"
  | isADirectory => "Is a directory (os error 21)"
  | nameTooLong => "File name too long (os error 36)"
  | brokenName => "file name contained an unexpected NUL byte"
  | notText => "stream did not contain valid UTF-8"
  | other reason => reason

/-- The most bytes that a path may have. -/
def pathLimit : Nat := 4095

/-- The most bytes that a name within a path may have. -/
def nameLimit : Nat := 255

/-- The fault of a path that is not looked up at all. -/
def pathFault? (path : String) : Option FileError :=
  if path.toList.contains '\x00' then some .brokenName
  else if pathLimit < path.utf8ByteSize then some .nameTooLong
  else none

structure FileAccess (m : Type → Type) where
  /-- The whole text of a file. -/
  read : String → m (Except FileError String)
  /-- Makes the text the whole content of a file, which may be new. -/
  replace : String → String → m (Except FileError Unit)

end GoDto
