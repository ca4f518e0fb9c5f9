import StepEngine.Config.Document
import StepEngine.Text.LowerCase

/-!
# Loading: the settings in force

Settings come from a text, from a value that is already built, or from a file. A file is searched under two names in a directory, which is
given, or named by a variable of the process, or the default one. The environment is given or named by variables, in lower case. Files and
variables are octets; they have to be UTF-8, and a variable that is not counts as unset.
-/

namespace StepEngine

/-- The settings in force, for which environment, and the directory they belong to. -/
structure ActiveConfig where
  config : EngineConfig
  environment : String
  directory : String

/-- What there is at a path. -/
inductive FileEntry where
  | file (content : ByteArray)
  | directory

/-- What a process sees of its surroundings: the files by path, and the variables by name. -/
structure Surroundings where
  entry? : String → Option FileEntry
  variableOctets? : String → Option ByteArray

namespace ActiveConfig

/-- The variables that name the environment, the first one that is set first. -/
def environmentVariables : List String := ["FLOWSTATE_ENV", "APP_ENV"]

/-- The variable that names the directory. -/
def directoryVariable : String := "FLOWSTATE_CONFIG_DIR"

/-- The directory that nothing else is said about. -/
def defaultDirectory : String := "config"

/-- The names of the file, the one that is tried first first. -/
def fileNames : List String := ["flowstate-config.yaml", "flowstate-config.yml"]

/-- A file may have this many octets. -/
def sizeLimit : Nat := 1048576

/-- How errors name a text that is no file. -/
def inlineSource : String := "<inline>"

/-- The settings of a text. -/
def ofText (text environment : String) : Except ConfigError ActiveConfig :=
  (EngineConfig.ofText text environment inlineSource).map fun config => ⟨config, environment, defaultDirectory⟩

/-- Settings that are already built, if they are valid. -/
def ofConfig (config : EngineConfig) : Except ConfigError ActiveConfig :=
  config.validate.map fun _ => ⟨config, config.execution.environment, defaultDirectory⟩

/-- The text of a variable. -/
def variableText? (s : Surroundings) (name : String) : Option String := (s.variableOctets? name).bind String.fromUTF8?

/-- The environment that the variables name. A variable that is set to the empty text counts. -/
def detectEnvironment (s : Surroundings) : String :=
  LetterCase.lower ((environmentVariables.findSome? (variableText? s)).getD ExecutionConfig.defaultEnvironment)

/-- The directory that the variable names. -/
def detectDirectory (s : Surroundings) : String := (variableText? s directoryVariable).getD defaultDirectory

/-- The path of a file in a directory. -/
def join (directory name : String) : String :=
  if directory.isEmpty || directory.toList.getLast? == some '/' then directory ++ name else directory ++ "/" ++ name

/-- The file in a directory: the first of its names under which there is anything. -/
def findFile (s : Surroundings) (directory : String) : Except ConfigError (String × FileEntry) :=
  let paths := fileNames.map (join directory)
  match paths.findSome? fun path => (s.entry? path).map (path, ·) with
  | some found => .ok found
  | none => .error (.fileNotFound paths)

/-- The text of a file. -/
def readFile (path : String) : FileEntry → Except ConfigError String
  | .directory =>
    .error (.invalidValue "file_type" "directory or special file" "Configuration path must point to a regular file")
  | .file content =>
    if sizeLimit < content.size then
      .error (.invalidValue "file_size" (toString content.size)
        ("Configuration file exceeds " ++ toString sizeLimit ++ " bytes"))
    else
      match String.fromUTF8? content with
      | some text => .ok text
      | none => .error (.fileRead path "stream did not contain valid UTF-8")

/-- The settings of the file in a directory, for an environment. -/
def loadFor (s : Surroundings) (directory : Option String) (environment : String) : Except ConfigError ActiveConfig := do
  let directory := directory.getD (detectDirectory s)
  let (path, entry) ← findFile s directory
  let text ← readFile path entry
  let config ← EngineConfig.ofText text environment path
  return ⟨config, environment, directory⟩

/-- The settings of the file in a directory, for the environment that the variables name. -/
def loadFrom (s : Surroundings) (directory : Option String) : Except ConfigError ActiveConfig :=
  loadFor s directory (detectEnvironment s)

/-- The settings of the file in the directory and for the environment that the variables name. -/
def load (s : Surroundings) : Except ConfigError ActiveConfig := loadFrom s none

end ActiveConfig

end StepEngine
