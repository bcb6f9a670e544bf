import ImportPath.Path.Basic

/-!
# File systems, as the resolver sees them

The resolver only looks at a file system: it asks what a path names (a regular file or
a directory, following symbolic links), whether anything is there at all (a dangling
link counts), what a directory holds, and what a file says. A failed access has a cause
with the operating system's message; a path holding a NUL character cannot be handed to
the operating system at all, and fails before any lookup.

## What this module delivers

- `FileKind` and `IoError` with its message.
- `FileSystem`, the read-only view the resolver works against, with the derived tests
  `existsAt`, `isFile` and `isDir`.
-/

namespace ImportPath

/-- What a path names once symbolic links are followed. -/
inductive FileKind where
  | file
  | directory
  deriving DecidableEq, Repr, Inhabited

/-- Why a file system access failed. -/
inductive IoError where
  | notFound
  | notADirectory
  | isADirectory
  | tooManyLinks
  | nameTooLong
  | nulInName
  deriving DecidableEq, Repr, Inhabited

/-- The operating system's message for a failed access. -/
def IoError.message : IoError → String
  | .notFound => "No such file or directory (os error 2)"
  | .notADirectory => "Not a directory (os error 20)"
  | .isADirectory => "Is a directory (os error 21)"
  | .tooManyLinks => "Too many levels of symbolic links (os error 40)"
  | .nameTooLong => "File name too long (os error 36)"
  | .nulInName => "file name contained an unexpected NUL byte"

/-- A read-only view of a file system. Paths are taken as written: a relative path is
relative to a working directory the view does not know, and names nothing. -/
structure FileSystem where
  /-- What a path names, following symbolic links, or why nothing is there. -/
  stat : Path → Except IoError FileKind
  /-- Whether anything is at a path, a final symbolic link not followed. -/
  present : Path → Bool
  /-- The names a directory holds, in no particular order. -/
  list : Path → Except IoError (List String)
  /-- The text of a file. -/
  read : Path → Except IoError String

namespace FileSystem

/-- Whether a path names something, following symbolic links. -/
def existsAt (fs : FileSystem) (p : Path) : Bool :=
  match fs.stat p with
  | .ok _ => true
  | .error _ => false

/-- Whether a path names a regular file, following symbolic links. -/
def isFile (fs : FileSystem) (p : Path) : Bool :=
  match fs.stat p with
  | .ok .file => true
  | _ => false

/-- Whether a path names a directory, following symbolic links. -/
def isDir (fs : FileSystem) (p : Path) : Bool :=
  match fs.stat p with
  | .ok .directory => true
  | _ => false

end FileSystem

end ImportPath
