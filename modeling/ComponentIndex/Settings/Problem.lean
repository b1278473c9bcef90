/-
**What is wrong with settings.**

Main definitions:

* `ComponentIndex.Settings.Fault`, `ComponentIndex.Settings.Finding` — what is wrong, and where;
* `ComponentIndex.Settings.Problem` — why settings are refused;
* `ComponentIndex.Settings.Problem.message` — the message about that.
-/

import ComponentIndex.Data.Shown

set_option relaxedAutoImplicit false
set_option autoImplicit false

namespace ComponentIndex.Settings

/-- What is wrong with a value. -/
inductive Fault where
  /-- Its key is unknown. -/
  | unknownKey
  /-- It is no list. -/
  | noList
  /-- It is no text. -/
  | noText
  /-- It is no truth value and cannot stand for one. -/
  | noTruth
  /-- It could stand for a truth value, but for neither of the two. -/
  | unknownTruth
  /-- It is no table. -/
  | noTable
  /-- It is a list that holds something that is no extension. -/
  | badExtension (item : Data)

/-- The name of a fault. -/
def Fault.label : Fault → Text
  | unknownKey => "extra_forbidden"
  | noList => "list_type"
  | noText => "string_type"
  | noTruth => "bool_type"
  | unknownTruth => "bool_parsing"
  | noTable => "model_type"
  | badExtension _ => "value_error"

/-- What a fault says beside its name. -/
def Fault.detail? : Fault → Option Text
  | badExtension item => some (Text.ofString "Value error, Invalid extension " ++ item.shown)
  | _ => none

/-- One step on the way to a value. -/
inductive Step where
  /-- A key of a table. -/
  | key (name : Text)
  /-- An index of a list. -/
  | item (index : Nat)

/-- Something wrong, with the way to it. -/
structure Finding where
  /-- The way from the root. -/
  location : List Step
  /-- What is wrong. -/
  fault : Fault

/-- Why settings are refused. -/
inductive Problem where
  /-- The text is no table of settings. -/
  | notReadable
  /-- The value of a list of extensions is something else; nothing further is looked at. -/
  | extensionsNoList
  /-- Some values are wrong. -/
  | invalid (findings : List Finding)

/-- The message about settings that are refused, given the path of their file. -/
def Problem.message (path : Text) : Problem → Text
  | notReadable => Text.ofString "Invalid TOML in " ++ path
  | extensionsNoList =>
    Text.ofString "Invalid config in " ++ path ++
      Text.ofString ": extensions must be a list of strings"
  | invalid _ => Text.ofString "Invalid config in " ++ path

end ComponentIndex.Settings
