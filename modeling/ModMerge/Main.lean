import ModMerge.CommandLine.Run
import ModMerge.Settings.PlainDocument
import Std.Time

/-!
# The program

The outer layer of the program: the files of the machine as a `FileStore`, its clock and its
environment. Files with settings are read as plain documents. Everything else is decided by
`CommandLine.Command.run`.
-/

namespace ModMerge

/-- The fault with a number and a text of the operating system. -/
def FileFault.ofCode (code : UInt32) (text : String) : FileFault :=
  match code.toNat with
  | 2 => .notFound
  | 17 => .exists
  | 20 => .notDirectory
  | 21 => .isDirectory
  | 36 => .nameTooLong
  | code => .other code text

/-- The fault that an operation of the machine has met. -/
def FileFault.ofMachine : IO.Error → FileFault
  | .noFileOrDirectory .. => .notFound
  | .alreadyExists .. => .exists
  | .inappropriateType _ code text => .ofCode code text
  | .invalidArgument _ code text => .ofCode code text
  | .permissionDenied _ code text => .ofCode code text
  | .resourceExhausted _ code text => .ofCode code text
  | .otherError code text => .ofCode code text
  | error => .other 0 error.toString

/-- Do something with a file of the machine. -/
def onMachine {α : Type} (path : FilePath) (target : Option FilePath) (action : IO α) :
    ExceptT FileError IO α := ExceptT.mk do
  let names := path.text ++ (target.map FilePath.text).getD ""
  if names.toList.contains (Char.ofNat 0) then
    return .error { fault := .zeroCharacter, path, target }
  try
    return .ok (← action)
  catch error =>
    return .error { fault := .ofMachine error, path, target }

/-- The machine keeps files. -/
instance : FileStore IO where
  kind path := onMachine path none do
    let metadata ← ((← IO.currentDir) / path.text).metadata
    return if metadata.type == .dir then .directory else .file
  read path := onMachine path none do
    return (← IO.FS.readBinFile path.text).toList
  write path bytes := onMachine path none do
    IO.FS.writeBinFile path.text ⟨bytes.toArray⟩
  makeDirectory path := onMachine path none (IO.FS.createDir path.text)
  rename source target := onMachine source (some target) (IO.FS.rename source.text target.text)
  remove path := onMachine path none (IO.FS.removeFile path.text)
  list path := onMachine path none do
    let entries ← ((← IO.currentDir) / path.text).readDir
    return entries.toList.map (·.fileName)

/-- The clock of the machine. -/
def currentMoment : IO Timestamp := do
  let now ← Std.Time.PlainDateTime.now
  return {
    year := now.date.year.toInt.toNat
    month := now.date.month.val.toNat
    day := now.date.day.val.toNat
    hour := now.time.hour.val.toNat
    minute := now.time.minute.val.toNat
    second := now.time.second.val.toNat }

/-- What is to be known about the machine. -/
def machineSurroundings : IO Surroundings := do
  let home := FilePath.ofText ((← IO.getEnv "HOME").getD "/")
  let environment ← MergeSettings.settingVariables.filterMapM fun (variableName, _) => do
    return (← IO.getEnv variableName).map fun value => (variableName, value)
  return { home, environment, settingsPath := home / .ofText ".dommerger/config.yaml" }

/-- Run a command and print what it has to say. -/
def runCommand (command : CommandLine.Command) : IO UInt32 := do
  let surroundings ← machineSurroundings
  let moment ← currentMoment
  match ← (command.run (m := IO) PlainDocument.reader surroundings moment).run with
  | .ok answer =>
      answer.output.forM IO.println
      answer.complaints.forM IO.eprintln
      return if answer.succeeded then 0 else 1
  | .error fault =>
      IO.eprintln fault.message
      return 1

/-- How the program is used. -/
def usage : String :=
  "usage: dommerger merge <mod.dm|dir>...      merge mods into one file\n" ++
  "       dommerger scan <mod.dm|dir>...       show what each mod defines\n" ++
  "       dommerger conflicts <mod.dm|dir>...  show id collisions\n" ++
  "       dommerger init-config [path]         write a default config file"

/-- Do what the arguments of the program ask for. -/
def program (arguments : List String) : IO UInt32 := do
  match CommandLine.Request.ofArguments arguments with
  | .run command => runCommand command
  | .help => IO.println usage; return 0
  | .version => IO.println CommandLine.versionLine; return 0
  | .misuse => IO.eprintln usage; return 2

end ModMerge

def main (arguments : List String) : IO UInt32 :=
  ModMerge.program arguments
