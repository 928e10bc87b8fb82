import ContestJudge.CommandLine.Failure

/-!
# What a command finds around it

The settings of a command come from a file that is named, from the nearest one on the way up from
the current directory, or from the one of the user. The environment may replace some of them.
-/

namespace ContestJudge.CommandLine

/-- What a command finds around it, apart from files. -/
structure Surroundings where
  /-- The current directory, free of links. -/
  directory : Path
  /-- The variables of the environment. -/
  environment : List (String × String)

/-- The home directory of a user who has not said where it is. -/
def standardHome : Path := ⟨"/root"⟩

/-- The name of the program, and of its directory among the settings of a user. -/
def programName : String := "kvalid"

namespace Surroundings

/-- The home directory. An empty value says nothing. -/
def home (s : Surroundings) : Path :=
  match s.environment.lookup "HOME" with
  | some text => if text = "" then standardHome else ⟨text⟩
  | none => standardHome

/-- Where programs keep the settings of the user. A relative path says nothing. -/
def settingsHome (s : Surroundings) : Path :=
  match s.environment.lookup "XDG_CONFIG_HOME" with
  | some text => if Path.isAbsolute ⟨text⟩ then ⟨text⟩ else s.home.join ⟨".config"⟩
  | none => s.home.join ⟨".config"⟩

/-- The settings file of the user. -/
def userSettings (s : Surroundings) : Path :=
  (s.settingsHome.join ⟨programName⟩).join Settings.fileName

/-- A path with the home directory written as a tilde. -/
def tilde (s : Surroundings) (path : Path) : Path :=
  match path.below? s.home with
  | some rest => Path.join ⟨"~"⟩ rest
  | none => path

/-- The settings as they are written down. -/
def writtenSettings (s : Surroundings) (files : FileTree) (named : Option Path) :
    Except Settings.Missing Settings :=
  match named with
  | some path => Settings.load files path
  | none =>
    match Settings.find files s.directory with
    | .error .notFound =>
      if files.isFile s.userSettings then Settings.load files s.userSettings else .error .notFound
    | found => found

/-- The settings. -/
def settings (s : Surroundings) (files : FileTree) (named : Option Path) :
    Except Failure Settings := do
  let settings ← (s.writtenSettings files named).mapError .settings
  (settings.overrideFrom s.environment).mapError .environment

end Surroundings

end ContestJudge.CommandLine
