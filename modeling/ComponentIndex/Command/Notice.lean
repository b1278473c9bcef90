/-
**The log.**

Main definitions:

* `ComponentIndex.Notice` — what is logged;
* `ComponentIndex.Notice.line` — the line of a notice;
* `ComponentIndex.Notice.ofFile`, `ComponentIndex.Notice.ofLoops`,
  `ComponentIndex.Notice.ofManifest` — what is logged about files.
-/

import ComponentIndex.Project.Scan

set_option relaxedAutoImplicit false
set_option autoImplicit false

namespace ComponentIndex

/-- Something that is logged. -/
inductive Notice where
  /-- The script of a component claims to be written in another language. -/
  | otherLanguage (lang path : Text)
  /-- A file has been indexed. -/
  | indexed (path : Text) (elements literals : Nat)
  /-- A loop has no keyword. -/
  | unreadableLoop (text path : Text)
  /-- The manifest cannot be read. -/
  | unreadableManifest (path : Text)
  /-- The framework is not active in a project. -/
  | inactive (root : Text)
deriving DecidableEq

namespace Notice

/-- The line of a notice. -/
def line : Notice → Text
  | otherLanguage lang path =>
    Text.ofString "DEBUG parse.source_file: Parsing <script lang=" ++ lang.quoted ++
      Text.ofString "> of " ++ path ++ Text.ofString " as JavaScript"
  | indexed path elements literals =>
    Text.ofString "DEBUG host.walker: Indexed " ++ path ++ Text.ofString ": " ++
      Text.ofNat elements ++ Text.ofString " element(s), " ++ Text.ofNat literals ++
      Text.ofString " stub literal(s)"
  | unreadableLoop text path =>
    Text.ofString "DEBUG host.walker: Unparsable v-for " ++ text.quoted ++ Text.ofString " in " ++
      path
  | unreadableManifest path =>
    Text.ofString "DEBUG scan.framework: Ignoring unreadable " ++ path ++
      Text.ofString ": malformed document"
  | inactive root => Text.ofString "INFO cli: Vue is not active in " ++ root

/-- The languages of scripts that are what they claim to be. -/
def scriptLanguages : List Text := ["js", "javascript", "jsx"]

/-- What is logged about the language of a file: that of a component, unless it claims none or is
what it claims to be. -/
def ofLanguage [Parsers] (path : Text) (bytes : List UInt8) : FileType → List Notice
  | .script => []
  | .component =>
    match (Markup.findScript? bytes).bind Markup.ScriptBlock.lang with
    | none => []
    | some lang =>
      if lang = [] || scriptLanguages.contains lang.lower then [] else [.otherLanguage lang path]

/-- What is logged when a file is indexed. -/
def ofFile [Parsers] (x : ExtensionPoint) (s : Settings) (path : Text) (bytes : List UInt8) :
    List Notice :=
  let type := FileType.ofPath path s.componentExtensions
  let index := FileIndex.ofFile x (SourceFile.ofBytes path bytes type)
  ofLanguage path bytes type ++ [.indexed path index.payload.length index.stubs.length]

/-- What is logged when the loops of a component are typed. -/
def ofLoops [Parsers] (path : Text) (bytes : List UInt8) : List Notice :=
  (Markup.findLoops bytes).filterMap fun d =>
    if (Loop.Expression.ofText? d.value).isNone then some (.unreadableLoop d.value path) else none

/-- What is logged when the manifest of a project is looked at. -/
def ofManifest (rootName : Text) (s : Settings) (root : Project.Entry) : List Notice :=
  match s.enabled, root.readFile? [Project.manifestFile] with
  | none, some bytes =>
    if (Json.ofBytes? bytes).isSome then []
    else [.unreadableManifest (Text.join "/" [rootName, Project.manifestFile])]
  | _, _ => []

end Notice

end ComponentIndex
