import DesiredState.CommandLine.Help
import DesiredState.CommandLine.Run
import DesiredState.Http.Offline
import DesiredState.Json.Print
/-!
The program. It reads a file of parameters, carries out a command and prints what comes of it. It
has no network: no request to a server gets through.
-/

set_option autoImplicit false
set_option relaxedAutoImplicit false

namespace DesiredState.Main

open CommandLine

def readEntry (path : String) : IO FileEntry := do
  try
    return .file (← IO.FS.readBinFile path)
  catch e =>
    match e with
    | .noFileOrDirectory .. => return .missing
    | .inappropriateType .. => return .directory
    | e => return .closed (toString e)

def printNotice (json : Bool) (n : Notice) : IO Unit := do
  let fields := ("message", n.message) :: n.fields
  if json then
    let fields : Json := .obj (fields.map fun f => (f.1, .str f.2))
    IO.println (Json.obj [("level", .str n.level.name), ("fields", fields)]).compact
  else
    let parts := n.fields.map fun f => " " ++ f.1 ++ "=" ++ Text.shown f.2
    IO.println (n.level.name ++ " " ++ n.message ++ String.join parts)

def printRun (json : Bool) (r : Run) : IO Unit := do
  r.log.forM (printNotice json)
  IO.print r.output
  r.failure.forM fun e => IO.eprintln ("Error: " ++ e)

partial def loop (i : Invocation) (p : Parameters) (interval : Nat) : IO Unit := do
  (rounds (.ofUrl i.apiUrl i.token) Http.Transport.offline p 1 ()).forM (printNotice i.logJson)
  IO.sleep (interval * 1000).toUInt32
  loop i p interval

def perform (i : Invocation) : IO UInt32 := do
  let entry ← readEntry i.params
  match i.command, i.interval, Parameters.ofFile i.params entry with
  | .reconcile, some interval, .ok p =>
    printNotice i.logJson (starting i p)
    loop i p interval
    return 0
  | _, _, _ =>
    let r := run i entry Http.Transport.offline 0 ()
    printRun i.logJson r
    return r.exitCode.toUInt32

end DesiredState.Main

def main (args : List String) : IO UInt32 := do
  let env : DesiredState.CommandLine.Environment :=
    ⟨← IO.getEnv "STATELY_API_URL", ← IO.getEnv "STATELY_TOKEN"⟩
  match DesiredState.CommandLine.parse env args with
  | .ok i => DesiredState.Main.perform i
  | .error stop =>
    match stop with
    | .help about => IO.print (DesiredState.CommandLine.help env about)
    | .misuse => IO.eprint (DesiredState.CommandLine.help env none)
    return stop.exitCode.toUInt32
