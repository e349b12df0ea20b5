import DmlReport.Document
import DmlReport.Storage.Store
import DmlReport.Text.Blank
import DmlReport.Text.Utf8
import DmlReport.Toml.Reader

/-!
# Settings

What a project can set in its `triage.toml`, all of it in the section `export`:
the name of the generator, the width of a level in the document, and the root of
the documentation.  Settings that are left out have defaults; settings that make
no sense are refused as a whole.
-/

namespace DmlReport

structure Settings where
  generator : String
  indent : Nat
  docRoot : String
deriving DecidableEq, Repr

/-- Why settings are refused. -/
inductive SettingsError where
  | unreadable (path : Path) (cause : Failure)
  /-- The text is no TOML, or a setting has the wrong type. -/
  | unparsable
  | blank (field : String)
  /-- The root of the documentation is not on the web. -/
  | notOnWeb (url : String)
  | tooWide (indent : Nat)
deriving DecidableEq, Repr

namespace Settings

/-- The settings where nothing is set. -/
def defaults : Settings where
  generator := "dmlc-ai-diagnostics"
  indent := 2
  docRoot := Handbook.publishedRoot

/-- The width that a level must not exceed. -/
def maxIndent : Nat := 8

def layout (s : Settings) : Layout := ⟨s.generator, s.indent⟩

def handbook (s : Settings) : Handbook := .under s.docRoot

end Settings

namespace SettingsError

/-- The fixed part of a message, before the detail of a parser. -/
def headline : SettingsError → String
  | .unreadable path cause => s!"failed to read {path.text}: {cause.message}"
  | .unparsable => "failed to parse configuration: "
  | .blank field => s!"export.{field} must not be empty"
  | .notOnWeb url => s!"export.doc_base_url must be an http(s) URL, got '{url}'"
  | .tooWide indent => s!"export.indent must be at most {Settings.maxIndent}, got {indent}"

def message : SettingsError → String
  | .unparsable => headline .unparsable ++ "not a TOML document with such settings"
  | e => e.headline

end SettingsError

namespace Settings

open Toml (Entries)

/-- The text of a setting; an absent one has a default. -/
def textSetting (default : String) : Option Toml.Value → Except SettingsError String
  | none => .ok default
  | some (.string s) => .ok s
  | some _ => .error .unparsable

/-- The number of a setting; an absent one has a default. -/
def numberSetting (default : Nat) : Option Toml.Value → Except SettingsError Nat
  | none => .ok default
  | some (.integer n) => if 0 ≤ n then .ok n.toNat else .error .unparsable
  | some _ => .error .unparsable

/-- Settings from the values of the three fields. -/
def ofFields (generator indent docRoot : Option Toml.Value) : Except SettingsError Settings := do
  return {
    generator := ← textSetting defaults.generator generator
    indent := ← numberSetting defaults.indent indent
    docRoot := ← textSetting defaults.docRoot docRoot }

def ofEntries (entries : Entries) : Except SettingsError Settings :=
  ofFields (entries.lookup "generator") (entries.lookup "indent") (entries.lookup "doc_base_url")

/-- Settings from a section in list form, in the order of the fields.  Values
after the third are ignored. -/
def ofItems (items : List Toml.Value) : Except SettingsError Settings :=
  ofFields items[0]? items[1]? items[2]?

/-- Settings from the value of the section.  A date has no entries of its own,
so it sets nothing. -/
def ofSection : Toml.Value → Except SettingsError Settings
  | .table _ entries => ofEntries entries
  | .array items => ofItems items
  | .tables elements => ofItems (elements.map (.table .header))
  | .dateTime _ => .ok defaults
  | _ => .error .unparsable

/-- The settings that a TOML text gives, before they are checked. -/
def decode (toml : String) : Except SettingsError Settings :=
  match Toml.read? toml with
  | none => .error .unparsable
  | some entries =>
    match entries.lookup "export" with
    | none => .ok defaults
    | some v => ofSection v

def isOnWeb (url : String) : Bool :=
  "https://".toList.isPrefixOf url.toList || "http://".toList.isPrefixOf url.toList

/-- Refuses settings that make no sense. -/
def check (s : Settings) : Except SettingsError Settings :=
  if Text.allBlank s.generator then .error (.blank "generator")
  else if Text.allBlank s.docRoot then .error (.blank "doc_base_url")
  else if !isOnWeb s.docRoot then .error (.notOnWeb s.docRoot)
  else if maxIndent < s.indent then .error (.tooWide s.indent)
  else .ok s

def parse (toml : String) : Except SettingsError Settings := do
  check (← decode toml)

def ofContents (path : Path) : Except Failure (List UInt8) → Except SettingsError Settings
  | .error e => .error (.unreadable path e)
  | .ok bytes =>
    match Text.decode? bytes with
    | none => .error (.unreadable path .notText)
    | some toml => parse toml

/-- The settings in a file, which must be there. -/
def loadFile [Monad m] (store : Store m) (path : Path) : m (Except SettingsError Settings) := do
  return ofContents path (← store.read path)

/-- The name of the file in a project's directory. -/
def fileName : String := "triage.toml"

/-- The settings of a project's directory.  A directory without the file has the
defaults. -/
def loadDirectory [Monad m] (store : Store m) (directory : Path) :
    m (Except SettingsError Settings) := do
  let path := directory.child fileName
  if ← store.isFile path then loadFile store path else return .ok defaults

end Settings

end DmlReport
