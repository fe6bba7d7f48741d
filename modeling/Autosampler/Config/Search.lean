import Autosampler.Config.Reader

/-!
# Finding the settings

The settings are in the file that was asked for, or in the first of the usual files that has them.

* `Content`, `Files`, `Files.ofList` — what the program sees of the files around it;
* `LoadFault`, `LoadFault.message` — why the settings cannot be loaded;
* `Config.loadFrom` — the settings in a file;
* `Config.usualPaths`, `Config.search` — the usual files, and the settings in the first one that
  has them;
* `Config.load` — the settings and the file that they come from.
-/

namespace Autosampler

/-- What the program sees of a file. -/
inductive Content where
  | absent
  /-- There is something, but it cannot be read as a text. -/
  | unreadable (reason : String)
  | text (s : String)

/-- What the program sees of all files. -/
abbrev Files := String → Content

/-- Files that have been looked at; there are no others. -/
def Files.ofList (contents : List (String × Content)) : Files := fun path =>
  ((contents.find? fun entry => entry.1 == path).map Prod.snd).getD .absent

/-- Why the settings cannot be loaded. -/
inductive LoadFault where
  | unreadable (path reason : String)
  | malformed (path : String)
  | sectionMissing (path : String)
deriving DecidableEq

/-- The wording of a failure to load the settings. -/
def LoadFault.message : LoadFault → String
  | unreadable path reason => "Failed to read config file " ++ path ++ ": " ++ reason
  | malformed path => "Failed to parse config file " ++ path
  | sectionMissing path =>
    "Config file " ++ path ++ " has no [" ++ Config.sectionName ++ "] section"

namespace Config

/-- The settings in a file, if the file has the section. -/
def readFile (files : Files) (path : String) : Except LoadFault (Option Config) :=
  match files path with
  | .absent => .error (.unreadable path "No such file or directory (os error 2)")
  | .unreadable reason => .error (.unreadable path reason)
  | .text s =>
    match lookup sectionName s with
    | .malformed => .error (.malformed path)
    | .missing => .ok none
    | .found config => .ok (some config)

/-- The settings in a file that must have the section. -/
def loadFrom (files : Files) (path : String) : Except LoadFault Config :=
  match readFile files path with
  | .error fault => .error fault
  | .ok none => .error (.sectionMissing path)
  | .ok (some config) => .ok config

/-- The name of the usual files. -/
def fileName : String := "changer-rs.toml"

/-- The usual files: in the working directory, in the user's directory of settings, and in the
machine's. -/
def usualPaths (directory : Option String) : List String :=
  [fileName]
    ++ (directory.map fun d => d ++ "/changer-rs/" ++ fileName).toList
    ++ ["/etc/changer-rs/" ++ fileName]

/-- The settings in the first of several files that has them.  A file that exists must be
readable, even if it has none. -/
def search (files : Files) : List String → Except LoadFault (Config × Option String)
  | [] => .ok ({}, none)
  | path :: paths =>
    match files path with
    | .absent => search files paths
    | _ =>
      match readFile files path with
      | .error fault => .error fault
      | .ok none => search files paths
      | .ok (some config) => .ok (config, some path)

/-- The settings in the file that was asked for, or in the first of the usual files, with the path
of the file. -/
def load (files : Files) (directory asked : Option String) :
    Except LoadFault (Config × Option String) :=
  match asked with
  | some path => (loadFrom files path).map fun config => (config, some path)
  | none => search files (usualPaths directory)

end Config

end Autosampler
