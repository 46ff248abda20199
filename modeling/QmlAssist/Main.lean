import QmlAssist.Protocol.Frame
import QmlAssist.Startup.Launch

/-!
# The program

Reads the command line, loads the catalog, and serves one editor over standard
input and output.  Everything is decided by `Launch.run` and `Server.handleJson`;
this module only moves bytes.
-/

namespace QmlAssist

/-- The cause of a failure of the system, by its number, which some operations
report with a negative sign. -/
def FileError.ofCode (code : UInt32) (e : IO.Error) : FileError :=
  let number := if code < 0x80000000 then code else 0 - code
  if number = 2 then .notFound
  else if number = 20 then .notADirectory
  else if number = 21 then .isADirectory
  else .other (toString e)

/-- The cause of a failure of the system. -/
def FileError.ofSystem (e : IO.Error) : FileError :=
  match e with
  | .noFileOrDirectory _ code _ => ofCode code e
  | .inappropriateType _ code _ => ofCode code e
  | .resourceVanished code _ => ofCode code e
  | .noSuchThing _ code _ => ofCode code e
  | .otherError code _ => ofCode code e
  | _ => .other (toString e)

/-- Run an action on files and keep its failure as a value. -/
def attempt {α : Type} (action : IO α) : IO (Except FileError α) := do
  match ← action.toBaseIO with
  | .ok value => return .ok value
  | .error e => return .error (.ofSystem e)

/-- Whether what is described is a regular file; links are followed. -/
def isRegularFile (describe : IO IO.FS.Metadata) : IO Bool := do
  match ← attempt describe with
  | .ok metadata =>
      match metadata.type with
      | .file => return true
      | _ => return false
  | .error _ => return false

/-- The operations on the files of the system. -/
def systemFiles : FileAccess IO where
  readText path := do
    match ← attempt (IO.FS.readBinFile path) with
    | .error e => return .error e
    | .ok bytes =>
        match String.fromUTF8? bytes with
        | some text => return .ok text
        | none => return .error .notUtf8
  list path :=
    attempt do
      let dir ← IO.FS.realPath path
      let entries ← dir.readDir
      entries.toList.mapM fun entry => do
        return ⟨entry.fileName, ← isRegularFile entry.path.metadata⟩
  isFile path :=
    isRegularFile do
      let file ← IO.FS.realPath path
      file.metadata

/-- What the environment of the process says. -/
def systemEnvironment : IO Settings.Environment :=
  return {
    home := ← IO.getEnv "HOME"
    configHome := ← IO.getEnv "XDG_CONFIG_HOME"
    logFilter := ← IO.getEnv "QMLANTOM_LOG" }

/-- Read the header of a frame: the length of its body, or nothing at the end of the
input. -/
partial def readHeader (input : IO.FS.Stream) (length : Option Nat) : IO (Option Nat) := do
  let line ← input.getLine
  if line.isEmpty then return none
  else if Frame.endsHeader line then
    match length with
    | some n => return some n
    | none => readHeader input none
  else readHeader input ((Frame.contentLength? line).orElse fun _ => length)

/-- Read the given number of bytes, or as many as there are. -/
partial def readBytes (input : IO.FS.Stream) (count : Nat) (done : ByteArray) : IO ByteArray := do
  if count ≤ done.size then return done
  else
    let bytes ← input.read (count - done.size).toUSize
    if bytes.isEmpty then return done else readBytes input count (done ++ bytes)

/-- Serve until the input or the life of the server ends. -/
partial def serve (input output : IO.FS.Stream) (server : Server) : IO Unit := do
  if server.phase = .ended then return
  match ← readHeader input none with
  | none => return
  | some count =>
      let bytes ← readBytes input count .empty
      let (server, sent) := server.handleJson ((String.fromUTF8? bytes).bind Json.parse?)
      for out in sent do
        output.putStr (Frame.render out)
      output.flush
      serve input output server

/-- What the program says about its use. -/
def usageText : String :=
  "Usage: qmlantom_lsp [--config FILE] [--catalog-dir DIR]... [--no-bundled] [--log-filter FILTER]\n"

end QmlAssist

open QmlAssist in
/-- Start the program, and serve if the start succeeds. -/
def main (args : List String) : IO UInt32 := do
  let launch ← Launch.run systemFiles (← systemEnvironment) args
  match launch with
  | .showVersion => IO.print Launch.versionText
  | .showHelp => IO.print usageText
  | .usageError => IO.eprint usageText
  | .badSettings e => IO.eprintln (Launch.programName ++ ": " ++ e.message)
  | .aborted => pure ()
  | .badCatalog e logged =>
      if logged then
        IO.eprintln
          ("ERROR " ++ Launch.programName ++ ": failed to load symbol catalog: " ++ e.message)
  | .started catalog logged =>
      if logged then
        IO.eprintln (" INFO " ++ Launch.programName ++ ": " ++ Launch.startLine catalog)
      serve (← IO.getStdin) (← IO.getStdout) (Server.start catalog)
  return launch.exitCode.toUInt32
