/-
  CrudQueries.Files.Trouble — what can go wrong with files, and how messages say it.

  Most troubles have a cause with a number and a path. Replacing a file can also fail on the way
  from its temporary name, and a linked directory is never removed as a tree. Two troubles are
  not the file system's own (`Trouble.isSystem`): a null character in a path, and links that
  lead back to themselves while a path is being resolved.
-/

import CrudQueries.Text.Shown

namespace CrudQueries.Files

/-- The causes that the file system names. -/
inductive Cause where
  | noEntry
  | busy
  | taken
  | notDirectory
  | isDirectory
  | nameTooLong
  | tooManyLinks
  deriving DecidableEq, Repr

namespace Cause

/-- The number of a cause. -/
def number : Cause → Nat
  | noEntry => 2
  | busy => 16
  | taken => 17
  | notDirectory => 20
  | isDirectory => 21
  | nameTooLong => 36
  | tooManyLinks => 40

def text : Cause → String
  | noEntry => "No such file or directory"
  | busy => "Device or resource busy"
  | taken => "File exists"
  | notDirectory => "Not a directory"
  | isDirectory => "Is a directory"
  | nameTooLong => "File name too long"
  | tooManyLinks => "Too many levels of symbolic links"

/-- The name of the kind of error that a cause makes. -/
def kind : Cause → String
  | noEntry => "FileNotFoundError"
  | taken => "FileExistsError"
  | notDirectory => "NotADirectoryError"
  | isDirectory => "IsADirectoryError"
  | busy | nameTooLong | tooManyLinks => "OSError"

/-- Does the cause say that there is nothing at a path? -/
def isAbsence : Cause → Bool
  | noEntry | notDirectory | tooManyLinks => true
  | _ => false

end Cause

inductive Trouble where
  | onPath (cause : Cause) (path : String)
  | moving (cause : Cause) (source target : String)
  | linkedTree
  | nullCharacter
  | linkLoop (path : String)
  deriving DecidableEq, Repr

namespace Trouble

/-- The name of the kind of a trouble. -/
def kind : Trouble → String
  | onPath cause _ | moving cause _ _ => cause.kind
  | linkedTree => "OSError"
  | nullCharacter => "ValueError"
  | linkLoop _ => "RuntimeError"

def message : Trouble → String
  | onPath cause path => "[Errno " ++ toString cause.number ++ "] " ++ cause.text ++ ": " ++ Text.shown path
  | moving cause source target =>
    "[Errno " ++ toString cause.number ++ "] " ++ cause.text ++ ": " ++ Text.shown source ++ " -> "
      ++ Text.shown target
  | linkedTree => "Cannot call rmtree on a symbolic link"
  | nullCharacter => "embedded null byte"
  | linkLoop path => "Symlink loop from " ++ Text.shown path

/-- Kind and message of a trouble. -/
def text (t : Trouble) : String := t.kind ++ ": " ++ t.message

/-- Is the trouble one of the file system's own? -/
def isSystem : Trouble → Bool
  | onPath _ _ | moving _ _ _ | linkedTree => true
  | nullCharacter | linkLoop _ => false

/-- Does the trouble say that there is no file at a path? -/
def isNoEntry : Trouble → Bool
  | onPath .noEntry _ | moving .noEntry _ _ => true
  | _ => false

end Trouble

end CrudQueries.Files
