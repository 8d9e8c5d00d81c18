import OperatorDaemon.Api.Router
import OperatorDaemon.Daemon.Run

/-!
# The program

Runs the daemon with the variables of its environment. Requests to the local interface come in on the
standard input, one on a line: a method, a path with its query, and perhaps a JSON body, between blanks.
The answers go to the standard output, and the log to the error output. The end of the input interrupts
the daemon. There is no way to the service, so that everything that needs it fails, and one look at the
registration status stands for the watch.
-/

namespace OperatorDaemon.Daemon

open Service (Client)

/-- The request that a line stands for. -/
def requestOfLine (line : String) : Api.Request :=
  let cs := trimChars line.toList
  let rest := (cs.dropWhile (!isBlank ·)).dropWhile isBlank
  { method := String.ofList (cs.takeWhile (!isBlank ·))
    target := String.ofList (rest.takeWhile (!isBlank ·))
    headers := [("content-type", "application/json")]
    body := Utf8.encode ((rest.dropWhile (!isBlank ·)).dropWhile isBlank) }

/-- An answer on one line. -/
def answerLine (r : Api.Response) : String :=
  s!"{r.status} " ++ match r.body with
    | .empty => ""
    | .text s => s
    | .json v => v.text

/-- The variables that the daemon looks at. -/
def variableNames : List String :=
  filterVariable :: [Setting.network, .serviceUrl, .timeout, .host, .port, .keyPath, .nodeAddress,
    .checkInterval, .logFormat].map Setting.variableName

/-- The disk with the file at a path, if it can be read. -/
def diskWith (path : String) : IO Disk := do
  try
    let contents ← IO.FS.readBinFile path
    return { files := [(path, contents.toList)] }
  catch
    | .noFileOrDirectory .. => return {}
    | _ => return { directories := [path] }

/-- The machine that the program runs on. -/
def thisMachine : IO Machine := do
  let values ← variableNames.filterMapM fun name => do return (← IO.getEnv name).map (name, ·)
  let vars : Configuration.Variables := fun name => values.lookup name
  let disk ← match Configuration.value? vars .keyPath with
    | some path => diskWith path
    | none => pure {}
  return { vars, disk }

/-- Write log entries, as far as the log shows them. -/
def writeLog (m : Machine) (format : LogFormat) (entries : List Log.Entry) : IO Unit := do
  for e in m.shown entries do
    IO.eprintln (match format with
      | .json => e.toJson.text
      | .pretty => e.text)

/-- Answer requests until the input ends. -/
partial def serve (context : Context) (w : World) (input output : IO.FS.Stream) : IO Unit := do
  let line ← input.getLine
  unless line.isEmpty do
    let freshId := Hex.encode (← IO.getRandomBytes 16).toList
    let (response?, w) := Api.handle freshId (requestOfLine line) context w
    output.putStrLn ((response?.map answerLine).getD "")
    output.flush
    serve context w input output

/-- Run the daemon. -/
def program : IO UInt32 := do
  let m ← thisMachine
  match Configuration.read m.vars with
  | .error e =>
    IO.eprintln (complaint e)
    return 1
  | .ok c =>
    let s := start c m
    writeLog m c.logFormat s.log
    match s.outcome with
    | .error fault =>
      writeLog m c.logFormat [faultEntry fault]
      return 1
    | .ok (client, w) =>
      let context := m.context client
      let (looked?, w) := look c.checkInterval context w
      writeLog m c.logFormat ((looked?.map Prod.snd).getD [])
      match listen c m with
      | .error fault =>
        writeLog m c.logFormat [faultEntry fault]
        return 1
      | .ok own =>
        writeLog m c.logFormat (own.take 1)
        serve context w (← IO.getStdin) (← IO.getStdout)
        writeLog m c.logFormat (own.drop 1)
        return 0

end OperatorDaemon.Daemon

/-- Run the daemon. -/
def main : IO UInt32 := OperatorDaemon.Daemon.program
