/-!
# Files

How the bytes at a path are read, and why they may not be. A tree of files in memory stands for a
directory. A path is followed name by name from there; outside of the directory nothing is known but
that there are directories.
-/

namespace GoalSearch

/-! ## Files that cannot be read -/

inductive FileError where
  | notFound
  | notADirectory
  | isDirectory
  /-- The path, or a name in it, is too long. -/
  | nameTooLong
  /-- The path holds a NUL character. -/
  | nulInPath
  | notPermitted
  /-- The bytes are not valid UTF-8. -/
  | notText
  | other (reason : String)
deriving DecidableEq, Repr

def FileError.message : FileError → String
  | .notFound => "No such file or directory (os error 2)"
  | .notADirectory => "Not a directory (os error 20)"
  | .isDirectory => "Is a directory (os error 21)"
  | .nameTooLong => "File name too long (os error 36)"
  | .nulInPath => "file name contained an unexpected NUL byte"
  | .notPermitted => "Permission denied (os error 13)"
  | .notText => "stream did not contain valid UTF-8"
  | .other reason => reason

/-- How the bytes at a path are read. -/
abbrev FileReader := String → Except FileError (List UInt8)

def textOfBytes (bytes : List UInt8) : Except FileError String :=
  match String.fromUTF8? ⟨bytes.toArray⟩ with
  | some text => .ok text
  | none => .error .notText

def FileReader.text (read : FileReader) (path : String) : Except FileError String := do
  textOfBytes (← read path)

/-! ## Files in memory -/

/-- The files of a directory and of the directories inside it. -/
structure FileTree where
  /-- The names on the way to each file, and its bytes. -/
  files : List (List String × List UInt8)

namespace FileTree

/-- Where following a path has led. -/
inductive Place where
  /-- A directory, by the names that lead to it, innermost first. -/
  | directory (names : List String)
  | outside
  | file (bytes : List UInt8)

/-- The names between slashes. -/
def names (path : List Char) : List String :=
  match path with
  | [] => [""]
  | '/' :: rest => "" :: names rest
  | c :: rest =>
    match names rest with
    | [] => [String.singleton c]
    | name :: later => (String.singleton c ++ name) :: later

def ofList (files : List (String × List UInt8)) : FileTree :=
  ⟨files.map fun (path, bytes) => ((names path.toList).filter (· ≠ ""), bytes)⟩

def maxName : Nat := 255

def maxPath : Nat := 4095

/-- The place that a name leads to. An empty name or `.` stays in a directory, `..` leaves it. -/
def step (tree : FileTree) (place : Place) (name : String) : Except FileError Place :=
  match place with
  | .file _ => .error .notADirectory
  | .outside =>
    if name = "" || name = "." || name = ".." then .ok .outside
    else if maxName < name.utf8ByteSize then .error .nameTooLong
    else .error .notFound
  | .directory inner =>
    if name = "" || name = "." then .ok place
    else if name = ".." then
      match inner with
      | [] => .ok .outside
      | _ :: outer => .ok (.directory outer)
    else if maxName < name.utf8ByteSize then .error .nameTooLong
    else
      let path := (name :: inner).reverse
      match tree.files.lookup path with
      | some bytes => .ok (.file bytes)
      | none =>
        if tree.files.any fun f => path.isPrefixOf f.1 then .ok (.directory (name :: inner))
        else .error .notFound

def read (tree : FileTree) : FileReader := fun path =>
  if path = "" then .error .notFound
  else if path.contains '\x00' then .error .nulInPath
  else if maxPath < path.utf8ByteSize then .error .nameTooLong
  else
    let start := if path.startsWith "/" then Place.outside else .directory []
    match (names path.toList).foldlM tree.step start with
    | .error e => .error e
    | .ok (.file bytes) => .ok bytes
    | .ok _ => .error .isDirectory

end FileTree

end GoalSearch
