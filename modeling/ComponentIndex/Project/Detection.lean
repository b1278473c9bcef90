/-
**Whether the framework is active.**

The settings decide if they say anything.  Else the framework is active if the manifest declares a
dependency on it, or if there is a component among the files.

Main definitions:

* `ComponentIndex.Project.declaresFramework` — a manifest declares a dependency on the framework;
* `ComponentIndex.Project.isActive` — the framework is active.
-/

import ComponentIndex.Json.Reader
import ComponentIndex.Project.Discovery

set_option relaxedAutoImplicit false
set_option autoImplicit false

namespace ComponentIndex.Project

/-- The name of the manifest. -/
def manifestFile : Text := "package.json"

/-- The sections of a manifest that list dependencies. -/
def dependencySections : List Text := ["dependencies", "devDependencies", "peerDependencies"]

/-- The packages of the framework. -/
def frameworkPackages : List Text := ["vue", "nuxt", "@vue/runtime-dom"]

/-- A manifest declares a dependency on a package of the framework. -/
def declaresFramework (manifest : Data) : Bool :=
  dependencySections.any fun section' =>
    (manifest.field? section').any fun dependencies =>
      frameworkPackages.any dependencies.hasField

/-- The manifest of a project can be read and declares a dependency on the framework. -/
def manifestDeclares (root : Entry) : Bool :=
  ((root.readFile? [manifestFile]).bind Json.ofBytes?).any declaresFramework

/-- There is a component among the files of a project. -/
def hasComponents (componentExtensions : List Text) (root : Entry) : Except Failure Bool := do
  let search : Search := { extensions := componentExtensions }
  return !(← search.run root).isEmpty

/-- The framework is active in a project. -/
def isActive (s : Settings) (root : Entry) : Except Failure Bool :=
  match s.enabled with
  | some b => return b
  | none => if manifestDeclares root then return true else hasComponents s.componentExtensions root

end ComponentIndex.Project
