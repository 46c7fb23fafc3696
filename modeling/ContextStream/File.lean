import ContextStream.Text.Utf8

/-!
# Files and directories

What stands under a path, and what can be done with it: a text is read, or a
directory is made.
-/

namespace ContextStream

/-- What stands under a path. -/
inductive File where
  | absent
  | directory
  | content (bytes : List UInt8)
  /-- The path leads through something that is no directory. -/
  | blocked
  deriving DecidableEq, Repr

/-- Why a file gives no text, or a path no directory. -/
inductive FileFault where
  | absent
  | exists
  | blocked
  | directory
  | notText
  deriving DecidableEq, Repr

/-- The wording of a fault. -/
def FileFault.message : FileFault → String
  | .absent => "No such file or directory (os error 2)"
  | .exists => "File exists (os error 17)"
  | .blocked => "Not a directory (os error 20)"
  | .directory => "Is a directory (os error 21)"
  | .notText => "stream did not contain valid UTF-8"

namespace File

/-- The text of a file. -/
def read : File → Except FileFault String
  | absent => .error .absent
  | blocked => .error .blocked
  | directory => .error .directory
  | content bytes =>
      match Text.Utf8.decode? bytes with
      | some chars => .ok (String.ofList chars)
      | none => .error .notText

/-- Why no directory can be made under a path. One that is there already is kept. -/
def directoryFault? : File → Option FileFault
  | absent | directory => none
  | blocked => some .blocked
  | content _ => some .exists

end File

end ContextStream
