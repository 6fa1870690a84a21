/-!
# Files

`Files` answers what stands at a path. Each way in which reading a file as text fails is a
`FileFault` with the wording of the system. What is there and what can be read are different
questions: the system may know a file and not open it (`Place.closed`), or it may bar the way to a
path, and then nothing counts as there (`Place.barred`).

`FileTree` holds files and directories at their positions, so that two paths to one position
name one file. It resolves paths step by step: `.` and empty steps stay, `..` goes up, and every
step but the last has to lead to a directory.
-/

namespace SignIn

/-- What stands at a path. -/
inductive Place where
  /-- Nothing. -/
  | missing
  | directory
  /-- A step of the path leads through something that is no directory. -/
  | notADirectory
  /-- The path or a name on it is longer than any can be. -/
  | nameTooLong
  /-- The path holds the character that ends every name. -/
  | nameWithNul
  | file (content : ByteArray)
  /-- Something that the system does not open, or does not read to its end. The number is that of
  the refusal. -/
  | closed (number : Nat)
  /-- The system does not tell what is there, for instance because a directory on the way may not be
  passed. -/
  | barred (number : Nat)

/-- Why a file could not be read as text. -/
inductive FileFault where
  | missing
  | isDirectory
  | notADirectory
  | nameTooLong
  | nameWithNul
  | notUtf8
  /-- The system refuses, for the reason that it has under the given number. -/
  | refused (number : Nat)
  deriving DecidableEq, Repr

/-- The wording of the system for its refusals, by their numbers. These are the ones that one can
meet with who looks for a file, opens it or reads it. -/
def refusalText : Nat → String
  | 1 => "Operation not permitted"
  | 2 => "No such file or directory"
  | 5 => "Input/output error"
  | 6 => "No such device or address"
  | 11 => "Resource temporarily unavailable"
  | 12 => "Cannot allocate memory"
  | 13 => "Permission denied"
  | 16 => "Device or resource busy"
  | 19 => "No such device"
  | 20 => "Not a directory"
  | 21 => "Is a directory"
  | 22 => "Invalid argument"
  | 23 => "Too many open files in system"
  | 24 => "Too many open files"
  | 26 => "Text file busy"
  | 27 => "File too large"
  | 36 => "File name too long"
  | 40 => "Too many levels of symbolic links"
  | 75 => "Value too large for defined data type"
  | 116 => "Stale file handle"
  | number => "Unknown error " ++ Nat.repr number

/-- A refusal of the system with its number. -/
def refusalMessage (number : Nat) : String :=
  refusalText number ++ " (os error " ++ Nat.repr number ++ ")"

/-- The wording of a fault: that of the system where the system refuses. -/
def FileFault.message : FileFault → String
  | .missing => refusalMessage 2
  | .isDirectory => refusalMessage 21
  | .notADirectory => refusalMessage 20
  | .nameTooLong => refusalMessage 36
  | .nameWithNul => "file name contained an unexpected NUL byte"
  | .notUtf8 => "stream did not contain valid UTF-8"
  | .refused number => refusalMessage number

/-- What stands at each path. -/
abbrev Files := String → Place

namespace Place

/-- Whether there is anything at the path, as far as the system tells. It need not be readable. -/
def isThere : Place → Bool
  | .missing | .notADirectory | .nameTooLong | .nameWithNul | .barred _ => false
  | .directory | .file _ | .closed _ => true

/-- The text of a file. -/
def text : Place → Except FileFault String
  | .missing => .error .missing
  | .directory => .error .isDirectory
  | .notADirectory => .error .notADirectory
  | .nameTooLong => .error .nameTooLong
  | .nameWithNul => .error .nameWithNul
  | .file content =>
    match String.fromUTF8? content with
    | some s => .ok s
    | none => .error .notUtf8
  | .closed number | .barred number => .error (.refused number)

/-- What stands at a path that the system has refused to read, by the number of the refusal. Where
the number does not tell, it matters whether the system knows the path at all. -/
def ofRefusal (known : Bool) : (number : Nat) → Place
  | 2 => .missing
  | 20 => .notADirectory
  | 21 => .directory
  | 36 => .nameTooLong
  | number => if known then .closed number else .barred number

/-- Whoever reads what the system has refused is told so in the words of the system. -/
theorem text_ofRefusal (known : Bool) (number : Nat) : ∃ fault : FileFault,
    (ofRefusal known number).text = .error fault ∧ fault.message = refusalMessage number := by
  unfold ofRefusal
  split
  · exact ⟨.missing, rfl, rfl⟩
  · exact ⟨.notADirectory, rfl, rfl⟩
  · exact ⟨.isDirectory, rfl, rfl⟩
  · exact ⟨.nameTooLong, rfl, rfl⟩
  · cases known <;> exact ⟨.refused number, rfl, rfl⟩

end Place

/-- Where a way through directories begins: at the root, or so many directories above the
working directory. -/
inductive Anchor where
  | root
  | above (count : Nat)
  deriving DecidableEq, Repr

/-- A position: where the way begins, and the names that lead down from there. -/
structure FilePosition where
  anchor : Anchor
  down : List String
  deriving DecidableEq, Repr

namespace FilePosition

/-- The directory above a position. The root is above itself. -/
def parent : FilePosition → FilePosition
  | ⟨.root, []⟩ => ⟨.root, []⟩
  | ⟨.above count, []⟩ => ⟨.above (count + 1), []⟩
  | ⟨anchor, down⟩ => ⟨anchor, down.dropLast⟩

/-- The position one step of a path away. -/
def next (p : FilePosition) (step : String) : FilePosition :=
  if step = "" ∨ step = "." then p
  else if step = ".." then p.parent
  else { p with down := p.down ++ [step] }

/-- The position at the end of the steps of a path. -/
def follow (p : FilePosition) (steps : List String) : FilePosition := steps.foldl next p

/-- The positions that the steps of a path pass, its end included. -/
def trail (p : FilePosition) : List String → List FilePosition
  | [] => []
  | step :: rest => p.next step :: (p.next step).trail rest

/-- Where a path begins: at the root if a slash comes first, otherwise in the working
directory. -/
def ofStart (path : String) : FilePosition :=
  ⟨if path.startsWith "/" then .root else .above 0, []⟩

end FilePosition

/-- Files and directories, each at its position. -/
structure FileTree where
  files : List (FilePosition × ByteArray) := []
  directories : List FilePosition := []

namespace FileTree

/-- The steps of a path. -/
def steps (path : String) : List String := path.splitOn "/"

/-- Makes the directories that a path passes. -/
def addDirectory (t : FileTree) (path : String) : FileTree :=
  { t with directories := (FilePosition.ofStart path).trail (steps path) ++ t.directories }

/-- Puts a file at a path, with the directories on the way. It takes the place of an earlier
file. -/
def addFile (t : FileTree) (path : String) (content : ByteArray) : FileTree :=
  { files := ((FilePosition.ofStart path).follow (steps path), content) :: t.files
    directories := (FilePosition.ofStart path).trail (steps path).dropLast ++ t.directories }

/-- A tree of files and directories with the given paths. -/
def ofPaths (files : List (String × ByteArray)) (directories : List String) : FileTree :=
  files.foldl (fun t (path, content) => t.addFile path content)
    (directories.foldl addDirectory {})

/-- What stands at a position. The root, the working directory and those above it are there in
every tree. -/
def place (t : FileTree) (here : FilePosition) : Place :=
  match t.files.find? fun f => f.1 = here with
  | some f => .file f.2
  | none => if here.down.isEmpty || t.directories.contains here then .directory else .missing

/-- The greatest number of bytes in a name. -/
def maxNameBytes : Nat := 255

/-- The greatest number of bytes in a path. -/
def maxPathBytes : Nat := 4095

/-- Follows the steps of a path from a position. -/
def walk (t : FileTree) (here : FilePosition) : List String → Place
  | [] => t.place here
  | step :: rest =>
    match t.place here with
    | .directory =>
      if maxNameBytes < step.utf8ByteSize then .nameTooLong else walk t (here.next step) rest
    | .file _ => .notADirectory
    | other => other

/-- What stands at a path. Nothing stands at the empty one. -/
def toFiles (t : FileTree) : Files := fun path =>
  if path = "" then .missing
  else if path.toList.contains '\x00' then .nameWithNul
  else if maxPathBytes < path.utf8ByteSize then .nameTooLong
  else t.walk (.ofStart path) (steps path)

end FileTree

end SignIn
