import Attest.Arguments.Reading
import Attest.Path

/-!
# Commands

What the command line can be told to do, and the grammar that tells it. A switch whose value is a
double dash has an empty list for its value: where a switch may be missing it then counts as
missing, and elsewhere the list is what the command gets.
-/

namespace Attest

inductive Command where
  | hash (text file : Option String) (twice json : Bool)
  | merkleRoot (items : List String) (file : Option String) (json : Bool)
  | merkleProve (items : List String) (file : Option String) (index : Value) (out : Option String)
  | merkleVerify (proof : String) (root : Value) (json : Bool)
  | mine (header : String) (bits maxNonce : Option Value) (json : Bool)
  | target (bits : Value) (json : Bool)
  | generate (out : Option String)
  | sign (key : Value) (message : String) (json : Bool)
  | verify (key signature : Value) (message : String) (json : Bool)
  | address (key : Value) (address kind : Option String) (json : Bool)
  | config (create display : Bool) (path : Value)
  | usage (text : String)
  deriving Repr

/-- A command with what holds for all commands: the configuration file and the level of the log. -/
structure Invocation where
  config : Option (Given String)
  logLevel : Option String
  command : Command
  deriving Repr

namespace Command

open Arguments

def programName : String := "kaiblock"

def version : String := "0.1.0"

/-! ## The grammar -/

def json : Switch := .ofFlag "--json"

def file : Switch := .ofValue ["--file", "-f"] .text

def out : Switch := .ofValue ["--out", "-o"] .text

def leaf (path : List String) (switches : List Switch) (operand : Option Operand) : Grammar :=
  .leaf (String.intercalate " " (programName :: path)) (.help :: switches) [] operand

def group (name : String) (subcommands : List (String × Grammar)) : Grammar :=
  .branch s!"{programName} {name}" [.help] s!"{name}_action" subcommands

def merkleGrammar : Grammar :=
  group "merkle" [
    ("root", leaf ["merkle", "root"] [file, json] (some ⟨"items", .many⟩)),
    ("prove", leaf ["merkle", "prove"]
      [file, (Switch.ofValue ["--index", "-i"] .integer).required, out] (some ⟨"items", .many⟩)),
    ("verify", leaf ["merkle", "verify"]
      [(Switch.ofValue ["--root", "-r"] .text).required, json] (some ⟨"proof", .one⟩))]

def powGrammar : Grammar :=
  group "pow" [
    ("mine", leaf ["pow", "mine"]
      [.ofValue ["--bits"] .integer, .ofValue ["--max-nonce"] .integer, json]
      (some ⟨"header", .one⟩)),
    ("target", leaf ["pow", "target"]
      [(Switch.ofValue ["--bits"] .integer).required, json] none)]

def keysGrammar : Grammar :=
  group "keys" [
    ("generate", leaf ["keys", "generate"] [out] none),
    ("sign", leaf ["keys", "sign"]
      [(Switch.ofValue ["--key", "-k"] .text).required, json] (some ⟨"message", .one⟩)),
    ("verify", leaf ["keys", "verify"]
      [(Switch.ofValue ["--pubkey", "-p"] .text).required,
        (Switch.ofValue ["--signature", "-s"] .text).required, json]
      (some ⟨"message", .one⟩))]

/-- The grammar of `address`, which takes either a key or an address. -/
def addressGrammar : Grammar :=
  .leaf s!"{programName} address"
    [.help, .ofValue ["--pubkey", "-p"] .text, .ofValue ["--validate"] .text,
      .ofValue ["--type", "-t"] (.oneOf ["base58", "hex-checksum", "hex"]), json]
    ["--pubkey", "--validate"] none

def grammar : Grammar :=
  .branch programName
    [.help, ⟨["--version"], .version, .text, false⟩, .ofValue ["--config", "-c"] .text,
      .ofValue ["--log-level"] (.oneOf ["DEBUG", "INFO", "WARNING", "ERROR"])]
    "command"
    [("hash", leaf ["hash"] [file, .ofFlag "--double", json] (some ⟨"text", .optional⟩)),
      ("merkle", merkleGrammar),
      ("pow", powGrammar),
      ("keys", keysGrammar),
      ("address", addressGrammar),
      ("config", leaf ["config"]
        [.ofFlag "--init", .ofFlag "--show", .ofValue ["--path"] .text] none)]

/-! ## Commands from arguments -/

def defaultConfigPath : String := "kaiblock.json"

/-- The command of understood arguments. There is none without a subcommand. -/
def ofMatches (m : Matches) : Option Command :=
  let value (key : String) : Value := match m.value? key with
    | none => .null
    | some (.proper s) => .text s
    | some (.other v) => v
  let number (key : String) := (m.number? key).getD .null
  let operand := m.operands.headD ""
  let json := m.has "--json"
  let file := m.text? "--file"
  match m.path with
  | ["hash"] => some (.hash m.operands.head? file (m.has "--double") json)
  | ["merkle", "root"] => some (.merkleRoot m.operands file json)
  | ["merkle", "prove"] =>
    some (.merkleProve m.operands file (number "--index") (m.text? "--out"))
  | ["merkle", "verify"] => some (.merkleVerify operand (value "--root") json)
  | ["pow", "mine"] => some (.mine operand (m.number? "--bits") (m.number? "--max-nonce") json)
  | ["pow", "target"] => some (.target (number "--bits") json)
  | ["keys", "generate"] => some (.generate (m.text? "--out"))
  | ["keys", "sign"] => some (.sign (value "--key") operand json)
  | ["keys", "verify"] => some (.verify (value "--pubkey") (value "--signature") operand json)
  | ["address"] =>
    some (.address (value "--pubkey") (m.text? "--validate") (m.text? "--type") json)
  | ["config"] =>
    let path := if m.has "--path" then value "--path" else .text defaultConfigPath
    some (.config (m.has "--init") (m.has "--show") path)
  | ["merkle"] => some (.usage merkleGrammar.usage)
  | ["pow"] => some (.usage powGrammar.usage)
  | ["keys"] => some (.usage keysGrammar.usage)
  | _ => none

end Command

/-- Reads arguments. There is no invocation without a command. -/
def Invocation.parse (args : List String) : Except Arguments.Stop (Option Invocation) := do
  let m ← Command.grammar.parse args
  return (Command.ofMatches m).map fun command =>
    { config := m.value? "--config", logLevel := m.text? "--log-level", command }

end Attest
