import ContestJudge.Path.Basic
import ContestJudge.Text.Quoted

/-!
# What can go wrong with files

An `IoFault` is the answer of the system. A `FileFault` says what was being done, and to which path.
-/

namespace ContestJudge

/-- Why the system refuses. -/
inductive IoFault where
  | notFound
  | permissionDenied
  | alreadyExists
  | notDirectory
  | isDirectory
  | invalidArgument
  | nameTooLong
  | tooManyLinks
  | notEmpty
  /-- A path with a NUL in it. -/
  | nulInPath
  /-- An argument with a NUL in it. -/
  | nulInArgument
  /-- Bytes that were to be read as text and are not. -/
  | notText
  /-- A copy of what has no content. -/
  | nothingToCopy
  /-- A directory none of whose parents can be created. -/
  | noParent
  /-- A question to a user who is not there. -/
  | notTerminal
  /-- Any other answer. -/
  | other (message : String)
  deriving DecidableEq, Repr, Inhabited

/-- The wording of the system. -/
def IoFault.message : IoFault → String
  | notFound => "No such file or directory (os error 2)"
  | permissionDenied => "Permission denied (os error 13)"
  | alreadyExists => "File exists (os error 17)"
  | notDirectory => "Not a directory (os error 20)"
  | isDirectory => "Is a directory (os error 21)"
  | invalidArgument => "Invalid argument (os error 22)"
  | nameTooLong => "File name too long (os error 36)"
  | tooManyLinks => "Too many levels of symbolic links (os error 40)"
  | notEmpty => "Directory not empty (os error 39)"
  | nulInPath => "file name contained an unexpected NUL byte"
  | nulInArgument => "nul byte found in provided data"
  | notText => "stream did not contain valid UTF-8"
  | nothingToCopy => "the source path is neither a regular file nor a symlink to a regular file"
  | noParent => "failed to create whole tree"
  | notTerminal => "Not a terminal"
  | other message => message

/-- A path as messages show it. -/
def Path.quoted (p : Path) : String := Text.quoted p.text

/-- What was being done to one path. -/
inductive FileAction where
  | createDirectory
  | writeFile
  | readFile
  | replaceLink
  deriving DecidableEq, Repr

/-- How a failed action is described. -/
def FileAction.message : FileAction → String
  | createDirectory => "Cannot create dir"
  | writeFile => "Cannot write file"
  | readFile => "Cannot read file"
  | replaceLink => "Cannot create symlink: failed to remove existing symlink"

/-- Stands for the text of a document fault, which is not kept. -/
def documentFaultText : String := "<toml error>"

/-- What went wrong with a file. -/
inductive FileFault where
  /-- An action on one path failed. -/
  | action (action : FileAction) (path : Path) (cause : IoFault)
  /-- A copy failed. -/
  | copy (source destination : Path) (cause : IoFault)
  /-- A link could not be created. -/
  | link (target place : Path) (cause : IoFault)
  /-- A path could not be freed of links. -/
  | canonical (path : Path) (cause : IoFault)
  /-- A path that was to stay inside a directory does not. -/
  | escaping (path : Path)
  /-- A file does not hold the document it should. -/
  | document (path : Path)
  deriving DecidableEq, Repr, Inhabited

namespace FileFault

/-- The cause of a fault, if another one caused it. -/
def cause? : FileFault → Option String
  | action _ _ cause => some cause.message
  | copy _ _ cause => some cause.message
  | link _ _ cause => some cause.message
  | canonical _ cause => some cause.message
  | escaping _ => none
  | document _ => some documentFaultText

/-- The wording of a fault. -/
def message : FileFault → String
  | action a path cause => s!"{a.message} ({path.quoted}): {cause.message}"
  | copy source destination cause =>
    s!"Cannot copy file (from={source.quoted}, to={destination.quoted}): {cause.message}"
  | link target place cause =>
    s!"Cannot create symlink (orig={target.quoted}, link={place.quoted}): {cause.message}"
  | canonical path cause => s!"Failed to canonicalize path {path.quoted}: {cause.message}"
  | escaping path => s!"Path {path.quoted} escapes its base directory"
  | document path => s!"Cannot deserialize from TOML (src={path.quoted}): {documentFaultText}"

/-- The fault and what caused it, outermost first. -/
def chain (f : FileFault) : List String := f.message :: f.cause?.toList

end FileFault

end ContestJudge
