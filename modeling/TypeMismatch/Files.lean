import TypeMismatch.Text.Split

/-!
# Files

Configuration is read from files, which are known by what a path leads to: a file with its bytes, a
directory, or nothing. A path is brought into normal form first: points that stand for the directory
itself, and slashes that separate nothing, are dropped; the step to the parent directory is kept,
because what it leads to depends on the directories on the way. Where a file is opened for the log,
that step is taken back with the step before it, whatever this leads to.

Source: the paths that `load_config`, `_config_path` and the handlers of `dictConfig` open.
-/

namespace TypeMismatch

/-- A path in normal form: how many slashes it begins with, none, one or two, and its steps. -/
structure Path where
  root : Nat
  steps : List String
deriving DecidableEq, Repr

namespace Path

/-- The number of slashes that count at the start of a path: two are not one. -/
def rootOf (text : List Char) : Nat :=
  match (text.takeWhile (· == '/')).length with
  | 0 => 0
  | 2 => 2
  | _ => 1

/-- The path that a text names. -/
def ofString (text : String) : Path :=
  ⟨rootOf text.toList,
    ((Text.split '/' text.toList).map String.ofList).filter fun s => s != "" && s != "."⟩

/-- The path in writing. -/
def text (p : Path) : String :=
  let start := String.ofList (List.replicate p.root '/')
  if p.root = 0 && p.steps.isEmpty then "." else start ++ String.intercalate "/" p.steps

/-- The step that leads to the parent directory. -/
def parentStep : String := ".."

/-- The steps of a path, the last one first, with one more taken. Above the root is the root. -/
def push (root : Nat) (taken : List String) (step : String) : List String :=
  if step = parentStep then
    match taken with
    | [] => if root = 0 then [step] else []
    | last :: before => if last = parentStep then step :: taken else before
  else step :: taken

/-- The path without steps to the parent directory, but for those at its start. -/
def collapsed (p : Path) : Path := { p with steps := (p.steps.foldl (push p.root) []).reverse }

/-- The path seen from the root, for one that begins in a directory. -/
def within (directory p : Path) : Path :=
  if p.root = 0 then collapsed { directory with steps := directory.steps ++ p.steps }
  else p.collapsed

end Path

/-- What a path leads to. -/
inductive Located where
  | missing
  /-- A name on the way, or the path, is too long. -/
  | tooLong
  | directory
  | file (bytes : List UInt8)
deriving DecidableEq, Repr

/-- Files, known by what each path leads to, and the directory in which paths without a slash at
their start begin. -/
structure Files where
  locate : Path → Located
  directory : Path

/-- A file that is opened for writing, and whether that empties it. -/
structure OpenedFile where
  path : Path
  isEmptied : Bool
deriving DecidableEq, Repr

/-- The files after one was opened for writing, which makes it if it is missing. -/
def Files.afterOpening (files : Files) (f : OpenedFile) : Files :=
  { files with
    locate := fun p =>
      if p = f.path && (f.isEmptied || files.locate p = .missing) then .file []
      else files.locate p }

/-- No files at all. -/
def Files.none : Files := ⟨fun _ => .missing, ⟨1, []⟩⟩

/-- Why the system does not open a file. -/
inductive OpenError where
  | missing
  | present
  | notDirectory
  | directory
  | tooLong
deriving DecidableEq, Repr

/-- The error in words, with its number. -/
def OpenError.message : OpenError → String
  | missing => "[Errno 2] No such file or directory"
  | present => "[Errno 17] File exists"
  | notDirectory => "[Errno 20] Not a directory"
  | directory => "[Errno 21] Is a directory"
  | tooLong => "[Errno 36] File name too long"

namespace Files

/-- Whether a path goes on behind a file. -/
def runsIntoFile (files : Files) (path : Path) : Bool :=
  (List.range path.steps.length).any fun n =>
    match files.locate { path with steps := path.steps.take n } with
    | .file _ => true
    | _ => false

/-- Why a file is not opened in a mode. -/
def openError? (files : Files) (path : Path) (mode : List Char) : Option OpenError :=
  match files.locate path with
  | .tooLong => some .tooLong
  | .directory => some (if mode.contains 'x' then .present else .directory)
  | .file _ => if mode.contains 'x' then some .present else .none
  | .missing =>
    if files.runsIntoFile path then some .notDirectory
    else if files.locate { path with steps := path.steps.dropLast } = .directory
        && !mode.contains 'r' then .none
    else some .missing

end Files

end TypeMismatch
