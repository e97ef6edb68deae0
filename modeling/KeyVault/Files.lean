import KeyVault.Text.Utf8
/-!
Reading a text file by its path from a folder of files. The path is walked part by part;
above the folder there are only folders, in which nothing is found.
-/

namespace KeyVault.Files

/-- Why a text file cannot be read. -/
inductive Fault where
  | notFound
  | isFolder
  | notFolder
  | nameTooLong
  | nameHoldsNul
  | notText
  deriving DecidableEq, Repr

def Fault.message : Fault → String
  | notFound => "No such file or directory (os error 2)"
  | isFolder => "Is a directory (os error 21)"
  | notFolder => "Not a directory (os error 20)"
  | nameTooLong => "File name too long (os error 36)"
  | nameHoldsNul => "file name contained an unexpected NUL byte"
  | notText => "stream did not contain valid UTF-8"

/-- The files of a folder, by name. -/
abbrev Folder := List (String × List UInt8)

/-- Where a walk stands: in the folder, above it, or at a file. -/
inductive Place where
  | inside
  | above
  | file (content : List UInt8)
  deriving DecidableEq, Repr

/-- The longest name of a file, in bytes. -/
def maxName : Nat :=
  255

/-- The longest path, in bytes. -/
def maxPath : Nat :=
  4095

/-- One part of a path. An empty part and a single dot stay, two dots go up; a file has no
parts.
-/
def walk (folder : Folder) (place : Place) (part : String) : Except Fault Place :=
  match place with
  | .file _ => .error .notFolder
  | .inside =>
    if part = "" ∨ part = "." then .ok .inside
    else if part = ".." then .ok .above
    else if maxName < part.utf8ByteSize then .error .nameTooLong
    else
      match folder.lookup part with
      | some content => .ok (.file content)
      | none => .error .notFound
  | .above =>
    if part = "" ∨ part = "." ∨ part = ".." then .ok .above
    else if maxName < part.utf8ByteSize then .error .nameTooLong
    else .error .notFound

/-- The bytes of the file at a path. A path that starts with a slash is walked from above. -/
def bytesAt (folder : Folder) (path : String) : Except Fault (List UInt8) :=
  if path.contains '\x00' then .error .nameHoldsNul
  else if path = "" then .error .notFound
  else if maxPath < path.utf8ByteSize then .error .nameTooLong
  else do
    let start := if path.startsWith "/" then Place.above else Place.inside
    match ← (path.splitOn "/").foldlM (walk folder) start with
    | .file content => pure content
    | _ => .error .isFolder

/-- The text of the file at a path. -/
def textAt (folder : Folder) (path : String) : Except Fault String := do
  let bytes ← bytesAt folder path
  match String.fromUTF8? bytes.toByteArray with
  | some text => pure text
  | none => .error .notText

end KeyVault.Files
