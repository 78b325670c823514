import Schemata.FileTree
import Schemata.Settings
import Schemata.Styx.Document

/-!
# Loading settings

Settings are kept in a Styx document, whose entries of the known keys are taken and
whose other entries are ignored.  The file nearest to the working directory decides
alone: a file that cannot be read is an error and never hides behind one farther up.
-/

namespace Schemata.Settings

/-- The value that an entry gives to a setting.  Only plain texts that `read` takes are
values; a key without a value leaves the setting unset. -/
def valueOf {α : Type} (read : String → Option α) :
    Styx.Entry → Except SettingsError (Option α)
  | ({ path := [_], .. }, .absent) => .ok none
  | ({ path := [_], .. }, .text text) =>
    match read text with
    | some value => .ok (some value)
    | none => .error .malformed
  | _ => .error .malformed

/-- The value of a setting in a document: the last one given, if all of them are valid. -/
def lookup {α : Type} (read : String → Option α) (entries : List Styx.Entry) (key : String) :
    Except SettingsError (Option α) :=
  (entries.filter fun entry => entry.1.path.head? = some key).foldlM
    (fun _ entry => valueOf read entry) none

/-- Reads a number up to `bound`. -/
def number? (bound : Nat) (text : String) : Option Nat :=
  Text.Numeral.unsigned? bound text.toList

/-- The settings in a document. -/
def ofEntries (entries : List Styx.Entry) : Except SettingsError Settings := do
  let text := lookup some entries
  let number bound := lookup (number? bound) entries
  return {
    url := ← text "url"
    host := ← text "host"
    port := (← number Text.Numeral.max16 "port").map UInt16.ofNat
    database := ← text "database"
    user := ← text "user"
    password := ← text "password"
    connectTimeoutSecs :=
      (← number Text.Numeral.max64 "connect_timeout_secs").map UInt64.ofNat
    applicationName := ← text "application_name" }

/-- The settings in a file with the given bytes. -/
def ofBytes (bytes : List UInt8) : Except SettingsError Settings :=
  match Text.Utf8.decode bytes with
  | .error _ => .error (.unreadable "stream did not contain valid UTF-8")
  | .ok text =>
    match Styx.parse text with
    | .error _ => .error .malformed
    | .ok entries => ofEntries entries

/-- The settings in a file with the given content. -/
def ofContent : Content → Except SettingsError Settings
  | .ok bytes => ofBytes bytes
  | .error reason => .error (.unreadable reason)

/-- Where settings are kept, seen from the directory they belong to. -/
def fileName : Path := [".config", "pgschema.styx"]

/-- Loads the settings that hold in a directory, with the path of their file. -/
def load (tree : FileTree) (start : Path) : Except SettingsError (Settings × Path) :=
  match tree.nearest? fileName start with
  | none => .error .notFound
  | some file => (ofContent file.content).map fun settings => (settings, file.path)

/-- Loads the settings that hold in a directory; without a file nothing is set. -/
def loadOrDefault (tree : FileTree) (start : Path) :
    Except SettingsError (Settings × Option Path) :=
  match load tree start with
  | .ok (settings, path) => .ok (settings, some path)
  | .error .notFound => .ok ({}, none)
  | .error error => .error error

end Schemata.Settings
