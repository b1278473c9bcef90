/-
**Commands in a project with a settings file.**

A settings file that is text is accepted or refused.  If it is accepted, commands run with its settings;
if it is refused, they print nothing, log why, and end with an exit code of their own.  A settings file
that is no text is neither: commands fail.

Main results:

* `ComponentIndex.Project.settingsOf_of_decode?` — the settings of a file that is text;
* `ComponentIndex.Command.run_of_settingsFile` — **what a settings file does to commands**;
* `ComponentIndex.Project.settingsOf_fails` — a settings file that fails.
-/

import ComponentIndex.Proofs.Command.Scan
import ComponentIndex.Proofs.Settings.Validation

set_option relaxedAutoImplicit false
set_option autoImplicit false

namespace ComponentIndex

namespace Project

theorem settingsOf_of_decode? {root : Entry} {bytes : List UInt8} {t : Text}
    (hfile : root.readFile? [settingsFile] = some bytes) (ht : Utf8.decode? bytes = some t) :
    settingsOf root = .ok (Settings.ofText t) := by
  rw [settingsOf, hfile]
  simp only [Settings.ofBytes, ht]

theorem settingsOf_of_not_decode? {root : Entry} {bytes : List UInt8}
    (hfile : root.readFile? [settingsFile] = some bytes) (ht : Utf8.decode? bytes = none) :
    settingsOf root = .error .undecodable := by
  rw [settingsOf, hfile]
  simp only [Settings.ofBytes, ht]

/-- The settings file of a project with nothing else in it. -/
theorem readFile?_settingsFile (bytes : List UInt8) :
    (Entry.directory [(settingsFile, .file bytes)]).readFile? [settingsFile] = some bytes :=
  Entry.readFile?_of_not_link (by decide) (by decide) (by decide) nofun

/-- A settings file that is no text has no settings, and is not refused either. -/
theorem settingsOf_fails :
    ¬∀ bytes, ∃ r, settingsOf (.directory [(settingsFile, .file bytes)]) = .ok r := by
  intro h
  obtain ⟨r, hr⟩ := h [0xFF]
  rw [settingsOf_of_not_decode? (readFile?_settingsFile [0xFF]) (by decide)] at hr
  cases hr

end Project

namespace Command

open Project

/-- A command whose settings are refused prints nothing, logs the reason and ends with exit code 2. -/
def Refuses [Parsers] (site : Site) (verbose : Bool) (c : Command) (p : Settings.Problem) : Prop :=
  c.run site verbose = .ok
    { exitCode := 2
      printed := []
      logged := [Text.ofString "error: " ++ p.message (Text.join "/" [site.name, settingsFile])] }

theorem refuses_of_settingsOf [Parsers] {site : Site} {p : Settings.Problem}
    (h : settingsOf site.entry = .ok (.error p)) (verbose : Bool) (c : Command) :
    c.Refuses site verbose p := by
  rw [Refuses, run, h]
  rfl

theorem run_of_settingsOf_error [Parsers] {site : Site} {e : Failure} (h : settingsOf site.entry = .error e)
    (verbose : Bool) (c : Command) : c.run site verbose = .error e := by
  rw [run, h]
  rfl

/-- **What a settings file does to commands**: a file that is text either spells settings, and all
commands run with them, or is refused, and all commands are; a file that is no text makes all commands
fail. -/
theorem run_of_settingsFile [Parsers] {site : Site} {bytes : List UInt8}
    (hfile : site.entry.readFile? [settingsFile] = some bytes) :
    (∀ t, Utf8.decode? bytes = some t →
        (∃ entries s, Toml.parse? t = some (.table entries) ∧ Settings.Spells entries s ∧
          settingsOf site.entry = .ok (.ok s) ∧
          ∀ verbose (c : Command), c.run site verbose = c.runWith s site verbose) ∨
        ∃ p, Settings.IsRefused t p ∧ settingsOf site.entry = .ok (.error p) ∧
          ∀ verbose (c : Command), c.Refuses site verbose p) ∧
      (Utf8.decode? bytes = none → settingsOf site.entry = .error .undecodable ∧
        ∀ verbose (c : Command), c.run site verbose = .error .undecodable) := by
  constructor
  · intro t ht
    have hsettings := settingsOf_of_decode? hfile ht
    cases htext : Settings.ofText t with
    | ok s =>
        obtain ⟨entries, hparse, hspells⟩ := Settings.ofText_eq_ok_iff.1 htext
        rw [htext] at hsettings
        exact .inl ⟨entries, s, hparse, hspells, hsettings, run_eq_runWith hsettings⟩
    | error p =>
        rw [htext] at hsettings
        exact .inr ⟨p, Settings.isRefused_of_ofText htext, hsettings, refuses_of_settingsOf hsettings⟩
  · intro ht
    have hsettings := settingsOf_of_not_decode? hfile ht
    exact ⟨hsettings, run_of_settingsOf_error hsettings⟩

/-- Settings with a misspelt key. -/
def misspelt : Text := "nested_gitignores = true"

/-- A project with such a settings file. -/
def misspeltSite : Site where
  name := "p"
  entry := .directory [(settingsFile, .file "nested_gitignores = true".toUTF8.toList)]

theorem run_of_settingsFile_misspelt :
    misspeltSite.entry.readFile? [settingsFile] = some "nested_gitignores = true".toUTF8.toList ∧
      ∀ verbose (c : Command), c.run misspeltSite verbose =
        .ok ⟨2, [], ["error: Invalid config in p/vueindex.toml"]⟩ := by
  have hfile : misspeltSite.entry.readFile? [settingsFile] =
      some "nested_gitignores = true".toUTF8.toList := readFile?_settingsFile _
  have ht : Utf8.decode? "nested_gitignores = true".toUTF8.toList = some misspelt := by
    decide +kernel
  have hinvalid : (match Settings.ofText misspelt with
      | .error (.invalid _) => true
      | _ => false) = true := by decide +kernel
  refine ⟨hfile, fun verbose c => ?_⟩
  rcases (run_of_settingsFile hfile).1 misspelt ht with ⟨_, s, -, -, hs, -⟩ | ⟨p, -, hp, hrefuses⟩
  · rw [settingsOf_of_decode? hfile ht] at hs
    rw [Except.ok.inj hs] at hinvalid
    cases hinvalid
  · rw [settingsOf_of_decode? hfile ht] at hp
    rw [Except.ok.inj hp] at hinvalid
    rw [hrefuses verbose c]
    cases p with
    | invalid => rfl
    | _ => cases hinvalid

end Command

end ComponentIndex
