import TypeMismatch.Files

/-!
# A tree of files

The files below a directory are given by the steps that lead to them. A step leads from a directory
to what it names there, and from a file nowhere; a name that is too long ends the way. Above the
directory of the files nothing but directories is known. Below the root are the directories that
every system has, and a device that is an empty file.

Source: what `exists`, `read_text` and `open` find under a path.
-/

namespace TypeMismatch

/-- Files by their steps from the directory, with their bytes. -/
abbrev FileTree := List (List String × List UInt8)

namespace FileTree

/-- Whether steps lead to a directory. -/
def isDirectory (tree : FileTree) (steps : List String) : Bool :=
  steps.isEmpty || tree.any fun f => steps.isPrefixOf f.1 && steps.length < f.1.length

/-- The largest number of bytes in a name. -/
def longestName : Nat := 255

/-- The largest number of bytes in a path. -/
def longestPath : Nat := 4095

/-- What a name that is not there leads to. -/
def absent (name : String) : Located :=
  if name.utf8ByteSize ≤ longestName then .missing else .tooLong

/-- What steps lead to from a directory in which nothing is known. -/
def locateAbove : List String → Located
  | [] => .directory
  | step :: steps => if step = ".." then locateAbove steps else absent step

/-- What further steps lead to from a directory; `isTop` says that it has none above it. -/
def locateFrom (tree : FileTree) (isTop : Bool) (place : List String) : List String → Located
  | [] => .directory
  | step :: steps =>
    if step = ".." then
      if place.isEmpty && !isTop then locateAbove steps
      else locateFrom tree isTop place.dropLast steps
    else
      let next := place ++ [step]
      match tree.lookup next with
      | some bytes => if steps.isEmpty then .file bytes else .missing
      | none => if isDirectory tree next then locateFrom tree isTop next steps else absent step

/-- The directories below the root that every system has. -/
def systemDirectories : List (List String) :=
  [["bin"], ["dev"], ["etc"], ["home"], ["lib"], ["proc"], ["root"], ["run"], ["sbin"], ["sys"],
   ["tmp"], ["usr", "bin"], ["usr", "lib"], ["usr", "share"], ["var", "log"], ["var", "tmp"]]

/-- What is known below the root: the directories hold one file each, without a name. -/
def system : FileTree :=
  (["dev", "null"], []) :: systemDirectories.map fun steps => (steps ++ [""], [])

/-- What a path leads to. A zero character is in no path. -/
def locate (tree : FileTree) (p : Path) : Located :=
  if p.text.toList.contains '\x00' then .missing
  else if longestPath < p.text.utf8ByteSize then .tooLong
  else if p.root = 0 then locateFrom tree false [] p.steps
  else locateFrom system true [] p.steps

/-- The files of a tree, which hangs below a directory. -/
def files (tree : FileTree) (directory : Path) : Files := ⟨locate tree, directory⟩

end FileTree
end TypeMismatch
