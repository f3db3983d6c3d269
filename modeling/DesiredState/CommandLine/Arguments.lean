import DesiredState.Text.Digits
/-!
The command line. Switches of the program may stand before or after the command; one after it
wins, and what is not given comes from the environment or a default. A switch is given at most
once on either side. Arguments are judged from left to right, so that a request for help stands
against all mistakes behind it.
-/

set_option autoImplicit false
set_option relaxedAutoImplicit false

namespace DesiredState.CommandLine

inductive Command where
  | reconcile
  | render
deriving DecidableEq

def Command.ofName? : String → Option Command
  | "reconcile" => some .reconcile
  | "render" => some .render
  | _ => none

inductive Stop where
  | help (about : Option Command)
  | misuse
deriving DecidableEq

inductive Switch where
  | apiUrl
  | token
  | timeout
  | logJson
  | params
  | interval
  | help
deriving DecidableEq

/-- A number of seconds, of 64 bits; a plus sign may stand before it. -/
def seconds? (s : String) : Option Nat :=
  let cs := s.toList
  (Text.natural? (if cs.head? = some '+' then cs.drop 1 else cs)).filter (· < 2 ^ 64)

namespace Switch

def ofName? : String → Option Switch
  | "api-url" => some .apiUrl
  | "token" => some .token
  | "timeout-secs" => some .timeout
  | "log-json" => some .logJson
  | "params" => some .params
  | "interval-secs" => some .interval
  | "help" => some .help
  | _ => none

def takesValue : Switch → Bool
  | .logJson | .help => false
  | _ => true

def follows (command : Option Command) : Switch → Bool
  | .params => command.isSome
  | .interval => command = some .reconcile
  | _ => true

def accepts (s : Switch) (value : String) : Bool :=
  match s with
  | .timeout | .interval => (seconds? value).isSome
  | .params => value ≠ ""
  | _ => true

end Switch

/-- The switches that are given on one side of the command, with their values. -/
abbrev Given := List (Switch × String)

def Given.add (g : Given) (s : Switch) (value : String) : Except Stop Given :=
  if (g.lookup s).isSome || !s.accepts value then .error .misuse else .ok ((s, value) :: g)

/-- What the last switch still lacks: nothing, its value, or a judgement on its value. -/
inductive Pending where
  | nothing
  | wanted (s : Switch)
  | unjudged (s : Switch) (text : String)

def Pending.settle (g : Given) : Pending → Except Stop Given
  | .nothing => .ok g
  | .wanted _ => .error .misuse
  | .unjudged s text => g.add s text

inductive Argument where
  | long (name : String) (value : Option String)
  | short (letter : Char)
  | dashes
  | other

def Argument.ofText (s : String) : Argument :=
  match s.toList with
  | ['-', '-'] => .dashes
  | '-' :: '-' :: cs =>
    let name := cs.takeWhile (· ≠ '=')
    let rest := cs.dropWhile (· ≠ '=')
    .long (String.ofList name)
      (if rest.isEmpty then none else some (String.ofList (rest.drop 1)))
  | '-' :: c :: _ => .short c
  | _ => .other

def helpOn : List String → Stop
  | [] | ["help"] => .help none
  | [name] => (Command.ofName? name).elim .misuse fun c => .help (some c)
  | _ => .misuse

/-- One side of the command: the switches, what the last one lacks, and the command that ends the
side with the arguments behind it. -/
structure Side where
  given : Given
  pending : Pending
  next : Option (Command × List String)

def long (command : Option Command) (name : String) (value : Option String) (g : Given)
    (p : Pending) : Except Stop (Given × Pending) :=
  match (Switch.ofName? name).filter (Switch.follows command) with
  | none => .error .misuse
  | some s => do
    if s.takesValue then
      let g ← p.settle g
      match value with
      | some v => return (← g.add s v, .nothing)
      | none => return (g, .wanted s)
    else if value.isSome then .error .misuse
    else
      let g ← p.settle g
      if s = .help then .error (.help command) else return (← g.add s "", .nothing)

def side (command : Option Command) (g : Given) (p : Pending) :
    List String → Except Stop Side
  | [] => .ok ⟨g, p, none⟩
  | a :: as =>
    let awaits := match p with
      | .wanted s => some s
      | _ => none
    let next := if awaits.isNone && command.isNone then Command.ofName? a else none
    if awaits.isNone && command.isNone && a = "help" then .error (helpOn as)
    else
      match next, Argument.ofText a with
      | some c, _ => .ok ⟨g, p, some (c, as)⟩
      | none, .dashes => if as.isEmpty then .ok ⟨g, p, none⟩ else .error .misuse
      | none, .long name value => do
        let (g, p) ← long command name value g p
        side command g p as
      | none, .short letter => do
        let _ ← p.settle g
        .error (if letter = 'h' then .help command else .misuse)
      | none, .other =>
        match awaits with
        | some s => side command g (.unjudged s a) as
        | none => .error .misuse

structure Environment where
  apiUrl : Option String := none
  token : Option String := none

structure Invocation where
  command : Command
  params : String
  apiUrl : String
  token : Option String
  timeout : Nat
  interval : Option Nat
  logJson : Bool

def defaultApiUrl : String := "http://127.0.0.1:6443"

def defaultTimeout : Nat := 30

def parse (env : Environment) (args : List String) : Except Stop Invocation := do
  let before ← side none [] .nothing args
  match before.next with
  | none => .error .misuse
  | some (command, args) =>
    let after ← side (some command) [] .nothing args
    let ys ← after.pending.settle after.given
    match ys.lookup .params with
    | none => .error .misuse
    | some params =>
      let xs ← before.pending.settle before.given
      let given (s : Switch) : Option String := (ys.lookup s).or (xs.lookup s)
      return {
        command, params
        apiUrl := ((given .apiUrl).or env.apiUrl).getD defaultApiUrl
        token := (given .token).or env.token
        timeout := ((given .timeout).bind seconds?).getD defaultTimeout
        interval := (given .interval).bind seconds?
        logJson := (given .logJson).isSome }

end DesiredState.CommandLine
