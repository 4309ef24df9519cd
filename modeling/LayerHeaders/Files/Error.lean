/-!
# Why a file operation fails

The causes that reading and writing of files can meet, with their wording.
-/

namespace LayerHeaders.Files

/-- Why a file operation fails. -/
inductive FileError where
  /-- Nothing has this path. -/
  | notFound
  /-- Something has this path already. -/
  | alreadyExists
  /-- A part of the path that should be a directory is none. -/
  | notDirectory
  /-- The path is that of a directory. -/
  | isDirectory
  /-- The path is in use. -/
  | busy
  /-- A part of the path, or the whole, is too long. -/
  | nameTooLong
  /-- The content is no valid UTF-8. -/
  | invalidText
  /-- Anything else, in the words of the system. -/
  | other (description : String)
deriving DecidableEq, Repr

/-- The wording of a failure. -/
def FileError.message : FileError → String
  | notFound => "No such file or directory (os error 2)"
  | busy => "Device or resource busy (os error 16)"
  | alreadyExists => "File exists (os error 17)"
  | notDirectory => "Not a directory (os error 20)"
  | isDirectory => "Is a directory (os error 21)"
  | nameTooLong => "File name too long (os error 36)"
  | invalidText => "stream did not contain valid UTF-8"
  | other description => description

end LayerHeaders.Files
