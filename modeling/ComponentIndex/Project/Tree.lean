/-
**Project trees.**

A project is a tree of directories, files and symbolic links.  Paths are lists of names from the root
of the project.  A link is followed from the directory it lies in; what lies outside of the project
does not exist.

Main definitions:

* `ComponentIndex.Project.Entry` — the trees;
* `ComponentIndex.Project.Entry.at?` — the entry at a path, no link followed;
* `ComponentIndex.Project.Entry.realPath?` — a path with all its links followed;
* `ComponentIndex.Project.Entry.sourceFiles` — the files in directories that are not skipped.
-/

import ComponentIndex.FileName
import ComponentIndex.Text.Order

set_option relaxedAutoImplicit false
set_option autoImplicit false

namespace ComponentIndex.Project

/-- The names from the root of a project to something in it. -/
abbrev Path := List Text

/-- A path as a text. -/
def Path.toText (path : Path) : Text := Text.join "/" path

/-- An entry of a directory. -/
inductive Entry where
  /-- A file with its bytes. -/
  | file (bytes : List UInt8)
  /-- A symbolic link with the path it leads to. -/
  | link (target : Text)
  /-- A directory with its entries by name. -/
  | directory (entries : List (Text × Entry))

namespace Entry

instance : Inhabited Entry := ⟨.directory []⟩

/-! ### Looking up -/

/-- The entries of a directory; other entries have none. -/
def children : Entry → List (Text × Entry)
  | directory entries => entries
  | _ => []

/-- The entry is a directory. -/
def isDirectory : Entry → Bool
  | directory _ => true
  | _ => false

/-- The bytes of a file. -/
def bytes? : Entry → Option (List UInt8)
  | file bytes => some bytes
  | _ => none

/-- The entry at a path; no link is followed. -/
def at? : Path → Entry → Option Entry
  | [], e => some e
  | name :: path, e => (e.children.lookup name).bind (at? path)

/-- The number of links that are followed on the way to a file. -/
def maxLinks : Nat := 40

/-- A path with all links followed, from the directory whose names are given from the innermost one.
At most `links` links are followed, and the project is not left. -/
def realPathFrom? (root : Entry) : Nat → Path → Path → Option Path
  | _, inside, [] => some inside.reverse
  | links, inside, name :: path =>
    if name = [] || name = Text.ofString "." then realPathFrom? root links inside path
    else if name = Text.ofString ".." then
      match inside with
      | [] => none
      | _ :: outer => realPathFrom? root links outer path
    else
      match root.at? (inside.reverse ++ [name]) with
      | some (.link target) =>
        match links with
        | 0 => none
        | links + 1 =>
          if target.head? = some ('/' : CodePoint) then none
          else realPathFrom? root links inside (target.splitOn '/' ++ path)
      | _ => realPathFrom? root links (name :: inside) path
termination_by links _ path => (links, path.length)

/-- A path with all links followed. -/
def realPath? (path : Path) (root : Entry) : Option Path := realPathFrom? root maxLinks [] path

/-- The entry that a path leads to, all links followed. -/
def follow? (path : Path) (root : Entry) : Option Entry :=
  (root.realPath? path).bind fun real => root.at? real

/-- The entry at a path: links on the way are followed, but not the entry itself. -/
def lookup? (path : Path) (root : Entry) : Option Entry :=
  match path.getLast? with
  | none => some root
  | some name => (root.follow? path.dropLast).bind fun e => e.children.lookup name

/-- The bytes of the file that a path leads to. -/
def readFile? (path : Path) (root : Entry) : Option (List UInt8) :=
  (root.follow? path).bind bytes?

/-! ### Making a tree -/

/-- Entries with one of them replaced, or added at the end. -/
def put (name : Text) (e : Entry) : List (Text × Entry) → List (Text × Entry)
  | [] => [(name, e)]
  | (n, old) :: rest => if n = name then (name, e) :: rest else (n, old) :: put name e rest

/-- The tree with an entry put at a path; missing directories are made. -/
def insertAt (e : Entry) : Path → Entry → Entry
  | [], _ => e
  | name :: path, root =>
    .directory (put name (insertAt e path ((root.children.lookup name).getD (.directory [])))
      root.children)

/-- The tree with an entry put at a path whose directories may be reached by links. A directory that
is there already stays as it is. -/
def insert (root : Entry) (path : Path) (e : Entry) : Entry :=
  let parent := (root.realPath? path.dropLast).getD path.dropLast
  let real := parent ++ path.drop (path.length - 1)
  if e.isDirectory && (root.at? real).any isDirectory then root else insertAt e real root

/-! ### Walking through a tree -/

/-- Names of directories that hold dependencies or the products of a build. -/
def skippedDirectories : List Text := ["node_modules", ".git", ".nuxt", ".output"]

/-- An entry of the given name is not entered. -/
def isSkipped (name : Text) (e : Entry) : Bool := e.isDirectory && skippedDirectories.contains name

mutual

/-- The files below an entry that is reached by the given names; links are not followed. -/
def filesBelow (path : Path) : Entry → List (Path × List UInt8)
  | .file bytes => [(path, bytes)]
  | .link _ => []
  | .directory entries => filesAmong path entries

/-- The files below some entries of the directory at a path. -/
def filesAmong (path : Path) : List (Text × Entry) → List (Path × List UInt8)
  | [] => []
  | (name, e) :: entries =>
    (if isSkipped name e then [] else filesBelow (path ++ [name]) e) ++ filesAmong path entries

end

/-- The files of a project in directories that are not skipped. -/
def sourceFiles (root : Entry) : List (Path × List UInt8) := filesAmong [] root.children

end Entry

end ComponentIndex.Project
