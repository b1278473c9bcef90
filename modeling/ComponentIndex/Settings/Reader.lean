/-
**Reading settings.**

Settings are a table of six keys.  All of its values are looked at, and everything that is wrong is
found, in the order of the keys; keys that are unknown come last, in the order in which they are
written.

Main definitions:

* `ComponentIndex.Settings.readTexts`, `ComponentIndex.Settings.readTruth`,
  `ComponentIndex.Settings.readExtensions` — the values of keys;
* `ComponentIndex.Settings.ofData` — the settings that a value spells;
* `ComponentIndex.Settings.ofBytes` — the settings that a file spells.
-/

import ComponentIndex.Failure
import ComponentIndex.Settings.Basic
import ComponentIndex.Settings.Problem
import ComponentIndex.Toml.Document

set_option relaxedAutoImplicit false
set_option autoImplicit false

namespace ComponentIndex.Settings

/-- A value with what was found wrong on the way to it. -/
structure Checked (α : Type) where
  /-- The value; it counts only if nothing was found. -/
  value : α
  /-- What was found. -/
  findings : List Finding

namespace Checked

variable {α : Type}

/-- A value with nothing wrong. -/
def sound (x : α) : Checked α := ⟨x, []⟩

/-- Something wrong at a place, with a value that stands in. -/
def wrong (x : α) (location : List Step) (fault : Fault) : Checked α := ⟨x, [⟨location, fault⟩]⟩

end Checked

/-! ### Single values -/

/-- What is wrong with the items of a list of texts, the first of which has the given index. -/
def textFindings (location : List Step) : Nat → List Data → List Finding
  | _, [] => []
  | index, .text _ :: items => textFindings location (index + 1) items
  | index, _ :: items =>
    ⟨location ++ [.item index], .noText⟩ :: textFindings location (index + 1) items

/-- The texts among some values. -/
def textsOf (items : List Data) : List Text :=
  items.filterMap fun d =>
    match d with
    | .text t => some t
    | _ => none

/-- A list of texts. -/
def readTexts (location : List Step) : Data → Checked (List Text)
  | .list items => ⟨textsOf items, textFindings location 0 items⟩
  | _ => .wrong [] location .noList

/-- The words that stand for truth values. -/
def truthOfWord? (t : Text) : Option Bool :=
  let word := t.lower
  if (["1", "on", "t", "true", "y", "yes"].map Text.ofString).contains word then some true
  else if (["0", "off", "f", "false", "n", "no"].map Text.ofString).contains word then some false
  else none

/-- A whole number that fits into 64 bits. -/
def fitsWord (n : Int) : Bool := -0x8000000000000000 ≤ n && n < 0x8000000000000000

/-- A truth value, or a word or a number that stands for one. -/
def readTruth (location : List Step) : Data → Checked Bool
  | .bool b => .sound b
  | .int n =>
    if n = 0 then .sound false
    else if n = 1 then .sound true
    else .wrong false location (if fitsWord n then .unknownTruth else .noTruth)
  | .float x =>
    if x.isZero then .sound false
    else if x.isOne then .sound true
    else .wrong false location .noTruth
  | .text t =>
    match truthOfWord? t with
    | some b => .sound b
    | none => .wrong false location .unknownTruth
  | _ => .wrong false location .noTruth

/-- The extensions that some values name; the first value that names none is wrong. -/
def extensionsOf : List Data → Except Data (List Text)
  | [] => .ok []
  | .text t :: items =>
    if namesExtension t then (extensionsOf items).map (normalExtension t :: ·) else .error (.text t)
  | d :: _ => .error d

/-- A list of extensions; null stands for the empty list. -/
def readExtensions (location : List Step) : Data → Except Problem (Checked (List Text))
  | .null => .ok (.sound [])
  | .list items =>
    match extensionsOf items with
    | .ok extensions => .ok (.sound extensions)
    | .error item => .ok (.wrong [] location (.badExtension item))
  | _ => .error .extensionsNoList

/-! ### Tables -/

/-- The keys that do not occur in a list of known ones. -/
def unknownKeys (location : List Step) (known : List Text) (entries : List (Text × Data)) :
    List Finding :=
  (entries.filter fun (key, _) => !known.contains key).map fun (key, _) =>
    ⟨location ++ [.key key], .unknownKey⟩

/-- The value of a key, or what stands there if the key is missing. -/
def readKey {α : Type} (read : List Step → Data → Checked α) (location : List Step) (key : Text)
    (missing : α) (entries : List (Text × Data)) : Checked α :=
  match entries.lookup key with
  | some d => read (location ++ [.key key]) d
  | none => .sound missing

/-- The list of extensions under a key, or what stands there if the key is missing. -/
def readExtensionsKey (key : Text) (missing : List Text) (entries : List (Text × Data)) :
    Except Problem (Checked (List Text)) :=
  match entries.lookup key with
  | some d => readExtensions [.key key] d
  | none => .ok (.sound missing)

/-- Whether the framework is active; null says nothing. -/
def readEnabled (location : List Step) : Data → Checked (Option Bool)
  | .null => .sound none
  | d =>
    let c := readTruth location d
    ⟨some c.value, c.findings⟩

/-- The table about the framework. -/
def readFramework (location : List Step) : Data → Checked (Option Bool)
  | .table entries =>
    let enabled := readKey readEnabled location "enabled" none entries
    ⟨enabled.value, enabled.findings ++ unknownKeys location ["enabled"] entries⟩
  | _ => .wrong none location .noTable

/-- The keys of the settings. -/
def knownKeys : List Text :=
  ["include", "exclude", "nested_gitignore", "script_extensions", "sfc_extensions", "framework"]

/-- The settings that the entries of a table spell. -/
def ofEntries (entries : List (Text × Data)) : Except Problem Settings := do
  let scripts ← readExtensionsKey "script_extensions" defaultScriptExtensions entries
  let components ← readExtensionsKey "sfc_extensions" defaultComponentExtensions entries
  let includes := readKey readTexts [] "include" [] entries
  let excludes := readKey readTexts [] "exclude" [] entries
  let nested := readKey readTruth [] "nested_gitignore" false entries
  let enabled := readKey readFramework [] "framework" none entries
  let findings := includes.findings ++ excludes.findings ++ nested.findings ++ scripts.findings ++
    components.findings ++ enabled.findings ++ unknownKeys [] knownKeys entries
  if findings.isEmpty then
    return { includes := includes.value
             excludes := excludes.value
             nestedIgnore := nested.value
             scriptExtensions := scripts.value
             componentExtensions := components.value
             enabled := enabled.value }
  else throw (.invalid findings)

/-- The settings that a value spells. -/
def ofData : Data → Except Problem Settings
  | .table entries => ofEntries entries
  | _ => .error (.invalid [⟨[], .noTable⟩])

/-- The settings that a text spells. -/
def ofText (t : Text) : Except Problem Settings :=
  match Toml.parse? t with
  | some d => ofData d
  | none => .error .notReadable

/-- The settings that a file spells, which has to be UTF-8. -/
def ofBytes (bytes : List UInt8) : Except Failure (Except Problem Settings) :=
  match Utf8.decode? bytes with
  | some t => .ok (ofText t)
  | none => .error .undecodable

end ComponentIndex.Settings
