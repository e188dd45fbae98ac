import NodeCall.Decimal.Word
import NodeCall.Json.Meaning
import NodeCall.Json.Printer

/-!
# Commands

What the program can be asked to do, how it is asked in the words of a command line, and what is
wrong with words that ask for nothing.  The first word names the command; flags follow in any
order, each with its value in the next word.
-/

namespace NodeCall.CommandLine

def flag? (name : String) : List String → Option String
  | [] => none
  | word :: rest => if word = name then rest.head? else flag? name rest

/-- The values of all occurrences of a flag; a value may be an occurrence itself. -/
def flagValues (name : String) : List String → List String
  | word :: value :: rest =>
    let later := flagValues name (value :: rest)
    if word = name then value :: later else later
  | _ => []

theorem flag?_eq_none {name : String} {words : List String} (h : name ∉ words) :
    flag? name words = none := by
  induction words with
  | nil => rfl
  | cons word rest ih =>
    have hw : word ≠ name := fun e => h (e ▸ List.mem_cons_self)
    simp [flag?, hw, ih fun hr => h (List.mem_cons_of_mem _ hr)]

inductive Command
  | help
  | version
  | test (url : String)
  | call (url method : String) (params : List Json) (fallbacks : List String)
  | subscribe (url kind : String) (count : UInt64)

inductive Misuse
  | noCommand
  | unknown (command : String)
  | missing (flag : String)
  | paramsNotJson (fault : Json.Fault)
  | paramsNotArray (value : Json)
  | countNotNumber (error : Decimal.WordError)
  | notSocket

namespace Misuse

def message : Misuse → String
  | .noCommand => "no command"
  | .unknown command => "Unknown command: " ++ command
  | .missing flag => flag ++ " is required"
  | .paramsNotJson fault => "--params must be JSON: " ++ fault.message
  | .paramsNotArray value => "--params must be a JSON array, got " ++ value.text
  | .countNotNumber error => "--count must be a number: " ++ error.message
  | .notSocket => "subscribe needs a ws:// or wss:// URL"

end Misuse

def isSocket (url : String) : Bool := url.startsWith "ws://" || url.startsWith "wss://"

def required (name : String) (words : List String) : Except Misuse String :=
  match flag? name words with
  | some value => .ok value
  | none => .error (.missing name)

/-- The parameters of a call; none are given without the flag. -/
def params : Option String → Except Misuse (List Json)
  | none => .ok []
  | some text =>
    match Json.ofText text with
    | .ok (.array items) => .ok items
    | .ok other => .error (.paramsNotArray other)
    | .error fault => .error (.paramsNotJson fault)

/-- How many pushes are to be printed; one without the flag. -/
def count : Option String → Except Misuse UInt64
  | none => .ok 1
  | some text => (Decimal.word 10 text.toList).mapError .countNotNumber

namespace Command

def testOf (words : List String) : Except Misuse Command := do
  return .test (← required "--url" words)

def callOf (words : List String) : Except Misuse Command := do
  let url ← required "--url" words
  let method ← required "--method" words
  let params ← params (flag? "--params" words)
  return .call url method params (flagValues "--fallback" words)

def subscribeOf (words : List String) : Except Misuse Command := do
  let url ← required "--url" words
  let kind := (flag? "--kind" words).getD "newHeads"
  let count ← count (flag? "--count" words)
  if isSocket url then return .subscribe url kind count else throw .notSocket

def ofWords : List String → Except Misuse Command
  | [] => .error .noCommand
  | "test" :: words => testOf words
  | "call" :: words => callOf words
  | "subscribe" :: words => subscribeOf words
  | "version" :: _ | "--version" :: _ | "-V" :: _ => .ok .version
  | "help" :: _ | "--help" :: _ | "-h" :: _ => .ok .help
  | other :: _ => .error (.unknown other)

end Command

def versionLine : String := "evmrpc 0.2.0"

def usage : List String := [
  versionLine,
  "Call and inspect Ethereum JSON-RPC endpoints",
  "",
  "USAGE:",
  "    evmrpc <COMMAND> [FLAGS]",
  "",
  "COMMANDS:",
  "    test       Probe an endpoint (latency, block number)",
  "    call       Send one JSON-RPC call",
  "    subscribe  Stream eth_subscribe pushes over WebSocket",
  "    version    Print version",
  "    help       Print this help",
  "",
  "FLAGS:",
  "    --url <URL>        Endpoint URL (http(s):// or ws(s)://)  [required]",
  "    --method <NAME>    Method for `call`                      [required]",
  "    --params <JSON>    JSON array of params for `call`        [default: []]",
  "    --fallback <URL>   Extra endpoint for `call`, repeatable",
  "    --kind <KIND>      Subscription kind for `subscribe`      [default: newHeads]",
  "    --count <N>        Pushes to print before exiting         [default: 1]"]

end NodeCall.CommandLine
