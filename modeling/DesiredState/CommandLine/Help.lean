import DesiredState.CommandLine.Arguments
/-!
Help on the command line.
-/

set_option autoImplicit false
set_option relaxedAutoImplicit false

namespace DesiredState.CommandLine

structure HelpLine where
  entry : String
  purpose : String

def table (lines : List HelpLine) : String :=
  let width := lines.foldl (fun n l => max n l.entry.length) 0
  let padded (l : HelpLine) : String :=
    l.entry ++ String.ofList (List.replicate (width - l.entry.length) ' ')
  String.join (lines.map fun l => "  " ++ padded l ++ "  " ++ l.purpose ++ "\n")

def setting (name : String) (value : Option String) : String :=
  "[env: " ++ name ++ "=" ++ value.getD "" ++ "]"

def commonSwitches (env : Environment) : List HelpLine :=
  [⟨"    --api-url <API_URL>", "API server URL " ++ setting "STATELY_API_URL" env.apiUrl
      ++ " [default: " ++ defaultApiUrl ++ "]"⟩,
    ⟨"    --token <TOKEN>", "Bearer token for the API server [env: STATELY_TOKEN]"⟩,
    ⟨"    --timeout-secs <TIMEOUT_SECS>", "Deadline for one reconcile cycle, in seconds [default: "
      ++ toString defaultTimeout ++ "]"⟩,
    ⟨"    --log-json", "Emit logs as JSON lines"⟩,
    ⟨"-h, --help", "Print help"⟩]

def Command.name : Command → String
  | .reconcile => "reconcile"
  | .render => "render"

def Command.purpose : Command → String
  | .reconcile => "Bring the StatefulSet described by a parameter file into its desired state"
  | .render =>
    "Print the StatefulSet a parameter file produces, without contacting the API server"

def Command.switches : Command → List HelpLine
  | .reconcile =>
    [⟨"    --params <PARAMS>", "YAML or JSON parameter file"⟩,
      ⟨"    --interval-secs <INTERVAL_SECS>",
        "Keep reconciling at this interval until interrupted"⟩]
  | .render => [⟨"    --params <PARAMS>", "YAML or JSON parameter file"⟩]

def help (env : Environment) : Option Command → String
  | some c =>
    c.purpose ++ "\n\nUsage: stately " ++ c.name ++ " [OPTIONS] --params <PARAMS>\n\nOptions:\n"
      ++ table (c.switches ++ commonSwitches env)
  | none =>
    let commands : List HelpLine :=
      [.reconcile, .render].map (fun c : Command => ⟨c.name, c.purpose⟩)
        ++ [⟨"help", "Print this message or the help of the given subcommand(s)"⟩]
    "Stately database StatefulSet reconciler\n\nUsage: stately [OPTIONS] <COMMAND>\n\nCommands:\n"
      ++ table commands ++ "\nOptions:\n" ++ table (commonSwitches env)

end DesiredState.CommandLine
