/-
**Source files.**

A source file is a script, or a component whose script section stands for it.  The tree of a
component covers its script alone; rows are counted in the file, columns in the script.

Main definitions:

* `ComponentIndex.FileType`, `ComponentIndex.FileType.ofPath` — scripts and components;
* `ComponentIndex.SourceFile`, `ComponentIndex.SourceFile.ofBytes` — a file with its tree;
* `ComponentIndex.SourceFile.lineOf`, `ComponentIndex.SourceFile.colOf` — the position of a node.
-/

import ComponentIndex.FileName
import ComponentIndex.Markup.Section

set_option relaxedAutoImplicit false
set_option autoImplicit false

namespace ComponentIndex

/-- What a source file is. -/
inductive FileType where
  /-- A plain script. -/
  | script
  /-- A component with sections of its own. -/
  | component
deriving DecidableEq

/-- The extensions of component files where nothing else is said. -/
def defaultComponentExtensions : List Text := [".vue"]

namespace FileType

/-- The name of a file type. -/
def label : FileType → Text
  | script => "script"
  | component => "sfc"

/-- The file type with a given name. -/
def ofLabel? (name : Text) : Option FileType :=
  [script, component].find? fun t => t.label = name

/-- The message about a name that is no file type. -/
def unknownMessage (name : Text) : Text := name.quoted ++ Text.ofString " is not a valid FileType"

/-- The type of the file at a path: a component if the path in lower case ends with one of the
extensions of components. -/
def ofPath (path : Text) (componentExtensions : List Text) : FileType :=
  if componentExtensions.any fun ext => ext.isSuffixOf path.lower then component else script

end FileType

/-- A source file with the tree of its script. -/
structure SourceFile where
  /-- The path of the file. -/
  path : Text
  /-- What the file is. -/
  fileType : FileType
  /-- The tree of the script. -/
  tree : Script.Node
  /-- The bytes of the script. -/
  source : List UInt8
  /-- The zero-based row of the file in which the script starts. -/
  lineOffset : Nat

namespace SourceFile

/-- The name of the file. -/
def name (f : SourceFile) : Text := FileName.afterLastSlash f.path

/-- The name of the file without its last extension. -/
def stem (f : SourceFile) : Text := FileName.stem f.path

/-- The file is a component. -/
def isComponent (f : SourceFile) : Bool := f.fileType = .component

/-- The root of the tree. -/
def root (f : SourceFile) : Script.Cursor := Script.Cursor.root f.tree

/-- The row of a node in the file, counted from one. -/
def lineOf (f : SourceFile) (n : Script.Node) : Nat := rowAt f.source n.start + 1 + f.lineOffset

/-- The column of a node in the script, counted from one. -/
def colOf (f : SourceFile) (n : Script.Node) : Nat := columnAt f.source n.start + 1

/-- A script as a source file. -/
def ofScript [Parsers] (path : Text) (bytes : List UInt8) : SourceFile :=
  ⟨path, .script, Parsers.script bytes, bytes, 0⟩

/-- A component with the given script section; without one its script is empty. -/
def ofScriptBlock [Parsers] (path : Text) : Option Markup.ScriptBlock → SourceFile
  | some block => ⟨path, .component, Parsers.script block.source, block.source, block.startRow⟩
  | none => ⟨path, .component, Parsers.script [], [], 0⟩

/-- The source file of the given type that some bytes are. -/
def ofBytes [Parsers] (path : Text) (bytes : List UInt8) : FileType → SourceFile
  | .script => ofScript path bytes
  | .component => ofScriptBlock path (Markup.findScript? bytes)

end SourceFile

end ComponentIndex
