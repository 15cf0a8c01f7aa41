import Attest.Address
import Attest.Command
import Attest.Journal
import Attest.Keys
import Attest.Merkle.Unchecked
import Attest.Miner.Unchecked
import Attest.Preferences

/-!
# Carrying out commands

A command ends with a reply: an exit code and what is written to the two outputs. Code 0 is success,
2 is a check with a negative answer, and 1 is a refusal. Anything else that stops a command is a
failure. Notes go to the log as they are taken, between what else a command writes; their lines are
kept also when it fails.
-/

namespace Attest

/-- How a command ends. -/
structure Reply where
  code : Nat
  out : String
  err : String
  deriving DecidableEq, Repr

namespace Reply

def success (lines : List String) : Reply :=
  { code := 0, out := String.join (lines.map (· ++ "\n")), err := "" }

/-- Success with lines of output of which the first names a path. A path may hold halves of
characters, but the output takes none. -/
def naming (line : String) (rest : List String) : Except Failure Reply := do
  let _ ← Bytes.encode line
  return success (line :: rest)

def verdict (holds : Bool) (lines : List String) : Reply :=
  { success lines with code := if holds then 0 else 2 }

def refusal (message : String) : Reply :=
  { code := 1, out := "", err := s!"Error: {message}\n" }

end Reply

namespace Command

open Journal Merkle

def jsonText (v : Value) : String :=
  Json.write (.spaces 2) v

def word (b : Bool) : String :=
  if b then "true" else "false"

/-- The reply of a result, faults of the library being refusals. -/
def orRefusal {α : Type} (x : Except Fault α) (reply : α → Reply) : Reply :=
  match x with
  | .ok a => reply a
  | .error f => .refusal f.message

/-- A path that is given and not empty, in normal form. -/
def givenPath? (path : Option String) : Option String :=
  (path.filter (!·.isEmpty)).map Path.normalise

/-- The reply of a result: faults of the library are refusals, and what else stops it is a failure.
-/
def orFailure {α : Type} (x : Except Failure α) (reply : α → Reply) : Except Failure Reply :=
  match x with
  | .ok a => .ok (reply a)
  | .error (.fault f) => .ok (.refusal f.message)
  | .error e => .error e

/-- What runs on a host with a log: it may fail, and gathers the lines of its notes in either case.
-/
abbrev Work (m : Type → Type) := ReaderT Log (ExceptT Failure (StateT String m))

section
variable {m : Type → Type} [Monad m] [Host m]

def note (n : Note) : Work m Unit := do
  let line ← ((← read).write n : m String)
  modify (· ++ line)

def onHost {α : Type} (x : ExceptT Failure m α) : Work m α :=
  fun _ => ExceptT.mk (liftM x.run)

/-! ## Hashes -/

def hashReply (label : String) (data : Bytes) (twice json : Bool) : Reply :=
  let digest := if twice then doubleSha256 data else sha256 data
  if json then
    .success [jsonText (.object [("input", .text label),
      ("algorithm", .text (if twice then "double_sha256" else "sha256")),
      ("hash", .text digest.toHex)])]
  else .success [digest.toHex]

def runHash (text file : Option String) (twice json : Bool) : Work m Reply := do
  match givenPath? file, text with
  | some path, _ => return hashReply path (← onHost (Host.readBytes path)) twice json
  | none, some text => return hashReply text (← Bytes.encode text) twice json
  | none, none => return .refusal "provide TEXT or --file PATH"

/-! ## Trees -/

/-- The items in the text of a file: its lines that are not empty. -/
def itemsOfText (s : String) : List Bytes :=
  ((Text.splitLines s).filter (!·.isEmpty)).map Bytes.ofText

def itemsOfArguments (items : List String) : Except Failure (List Bytes) :=
  items.mapM Bytes.encode

/-- The items of a file, or else the ones given. -/
def loadItems (items : List String) (file : Option String) : Work m (List Bytes) := do
  match givenPath? file with
  | some path => return itemsOfText (← onHost (Host.readText path))
  | none => itemsOfArguments items

def treeNote (t : Tree) : Note where
  level := .debug
  writer := "kaiblock.merkle.merkle_tree"
  text := s!"Built Merkle tree: {t.leafCount} leaves, height {t.height}, root {t.root.toHex}"

def buildTree (items : List Bytes) : Work m (Except Fault Tree) := do
  match Tree.ofItems items with
  | .ok t =>
    note (treeNote t)
    return .ok t
  | .error f => return .error f

def rootReply (t : Tree) (json : Bool) : Reply :=
  if json then
    .success [jsonText (.object [("leaf_count", .int t.leafCount), ("height", .int t.height),
      ("root", .text t.root.toHex)])]
  else .success [t.root.toHex]

def runRoot (items : List String) (file : Option String) (json : Bool) : Work m Reply := do
  return orRefusal (← buildTree (← loadItems items file)) fun t => rootReply t json

def writtenNote (p : Proof) (path : String) : Note where
  level := .info
  writer := "kaiblock_cli.commands.merkle"
  text := s!"Wrote proof for leaf {p.index} to {path}"

/-- Makes a proof for an item, and shows or writes it. -/
def runProve (items : List String) (file : Option String) (index : Value) (out : Option String) :
    Work m Reply := do
  match ← buildTree (← loadItems items file) with
  | .error f => return .refusal f.message
  | .ok t =>
    match t.proveAt index with
    | .error (.fault f) => return .refusal f.message
    | .error e => throw e
    | .ok p =>
      let text ← p.toJson (.spaces 2)
      match givenPath? out with
      | none => return .success [text]
      | some path =>
        onHost (Host.writeText path (text ++ "\n"))
        note (writtenNote p path)
        Reply.naming s!"Proof written to: {path}" [s!"root: {t.root.toHex}"]

/-- The reply of `merkle verify` on a proof and a root. -/
def verdictReply (p : Proof) (root : Digest) (json : Bool) : Reply :=
  let holds := p.verify root
  .verdict holds <|
    if json then
      [jsonText (.object [("valid", .bool holds), ("leaf_index", .int p.index),
        ("root", .text root.toHex), ("proof", p.toValue)])]
    else [s!"leaf_index: {p.index}", s!"root: {root.toHex}", s!"valid: {word holds}"]

def runVerifyProof (file : String) (root : Value) (json : Bool) : Work m Reply := do
  let path := Path.normalise file
  if !(← onHost (Host.doesExist path)) then return .refusal s!"Proof file not found: {path}"
  match Proof.ofJson (← onHost (Host.readText path)) with
  | .error (.fault f) => return .refusal f.message
  | .error e => throw e
  | .ok p => return orRefusal (Digest.ofValue root) fun root => verdictReply p root json

/-! ## Mining -/

/-- A time span in ten-thousandths of a second, in seconds with three decimal places. -/
def showSpan (span : Nat) : String :=
  let thousandths := (span + 5) / 10
  s!"{thousandths / 1000}.{Numeral.padded 3 (thousandths % 1000)}"

def foundNote (miner : Miner) (s : Solution) (span : Nat) : Note where
  level := .info
  writer := "kaiblock.consensus.pow"
  text := s!"PoW solved in {showSpan span}s (nonce={s.nonce}, " ++
    s!"difficulty={miner.difficultyBits} bits, hash={s.hash.toHex})"

def exhaustedNote (miner : Miner) : Note where
  level := .warning
  writer := "kaiblock.consensus.pow"
  text := s!"PoW search exhausted {miner.maxNonce} nonces without meeting target " ++
    miner.target.toHex

/-- The reply of `pow mine` on a solution. The settings are shown as they were given. -/
def solutionReply (m : Miner.Unchecked) (s : Solution) (span : Nat) (json : Bool) : Reply :=
  if json then
    .success [jsonText (.object [("difficulty_bits", m.difficultyBits),
      ("target", .text m.miner.target.toHex), ("max_nonce", m.maxNonce), ("nonce", .int s.nonce),
      ("hash", .text s.hash.toHex), ("attempts", .int s.attempts),
      ("elapsed", .float (.ofDecimal false span (-4)))])]
  else
    .success [s!"nonce: {s.nonce}", s!"hash: {s.hash.toHex}", s!"attempts: {s.attempts}",
      s!"elapsed: {showSpan span}s"]

/-- Looks for a nonce for a header. What is not given is taken from the preferences. -/
def runMine (p : Preferences) (header : String) (bits maxNonce : Option Value) (json : Bool) :
    Work m Reply := do
  match Miner.Unchecked.make none (bits.getD p.difficultyBits) (maxNonce.getD p.maxNonce) with
  | .error e => if e.isValueRefusal then return .refusal e.message else throw e
  | .ok u =>
    let header ← Bytes.encode header
    let start ← (Host.clock : m Nat)
    let found ← u.mine header (.int 0)
    let span := (← (Host.clock : m Nat)) - start
    match found with
    | some s =>
      note (foundNote u.miner s span)
      return solutionReply u s span json
    | none =>
      note (exhaustedNote u.miner)
      return .refusal
        s!"no nonce below {u.maxNonce.plain} meets {u.difficultyBits.plain} bits of difficulty"

def targetReply (bits : Value) (json : Bool) : Except Failure Reply :=
  match Target.ofBitsValue bits with
  | .error e => if e.isValueRefusal then .ok (.refusal e.message) else .error e
  | .ok d =>
    let code := Target.showCompact (Target.compactOf d.toNat)
    .ok <| .success <|
      if json then
        [jsonText (.object [("bits", bits), ("target", .text d.toHex), ("compact", .text code)])]
      else [s!"target: {d.toHex}", s!"compact: {code}"]

/-! ## Keys -/

def seedSize : Nat := 32

/-- Makes a new pair of keys, and shows or writes it. A file that is there stays. -/
def runGenerate (scheme : SignatureScheme) (out : Option String) : Work m Reply := do
  let seed ← (Host.random seedSize : m Bytes)
  let pair ← Except.widen (Keypair.ofBytes scheme seed)
  let text := jsonText (.object pair.toFields)
  match givenPath? out with
  | none => return .success [text]
  | some path =>
    if ← onHost (Host.doesExist path) then return .refusal s!"Key file already exists: {path}"
    onHost (Host.writeText path (text ++ "\n"))
    Reply.naming s!"Keypair written to: {path}" [s!"public_key: {pair.publicKey.toHex}"]

def signReply (scheme : SignatureScheme) (key : Value) (message : String) (json : Bool) :
    Except Failure Reply :=
  orFailure (do return (← Keypair.ofText scheme key, ← Bytes.encode message)) fun (pair, message) =>
    let signature := pair.privateKey.sign scheme message
    if json then
      .success [jsonText (.object [("public_key", .text pair.publicKey.toHex),
        ("signature", .text signature.toHex)])]
    else .success [signature.toHex]

def verifyReply (scheme : SignatureScheme) (key signature : Value) (message : String)
    (json : Bool) : Except Failure Reply :=
  let given : Except Failure (PublicKey × Signature × Bytes) := do
    return (← PublicKey.ofText key, ← Signature.ofText signature, ← Bytes.encode message)
  orFailure given fun (key, signature, message) =>
    let holds := key.verify scheme message signature
    .verdict holds <|
      if json then
        [jsonText (.object [("valid", .bool holds), ("public_key", .text key.toHex)])]
      else [s!"valid: {word holds}"]

/-! ## Addresses -/

def checkReply (address : String) (json : Bool) : Reply :=
  match Address.validate address with
  | .ok kind =>
    .success <|
      if json then [jsonText (.object [("valid", .bool true), ("type", .text kind.name)])]
      else [s!"valid: true ({kind.name})"]
  | .error f =>
    .verdict false <|
      if json then [jsonText (.object [("valid", .bool false), ("error", .text f.message)])]
      else [s!"valid: false ({f.message})"]

def deriveReply (key : Value) (kind : AddressKind) (json : Bool) : Except Failure Reply :=
  orFailure (PublicKey.ofText key) fun key =>
    let a := Address.ofPublicKey key.bytes kind
    .success <|
      if json then
        [jsonText (.object [("type", .text a.kind.name), ("address", .text a.encoded),
          ("data", .text (Hex.encode a.data))])]
      else [a.encoded]

/-- Checks an address, or derives one from a key. An empty address to check does not count as given,
and then there may be no key either. -/
def addressReply (p : Preferences) (key : Value) (text kind : Option String) (json : Bool) :
    Except Failure Reply := do
  match text.filter (!·.isEmpty) with
  | some s => return checkReply s json
  | none =>
    let kind ← (AddressKind.ofValue ((kind.map Value.text).getD p.addressType)).mapError .badValue
    deriveReply key kind json

/-! ## Configuration -/

def configHints : List String :=
  ["", "Edit this file to configure your settings.",
    "You can also use environment variables (KAIBLOCK_* prefix)."]

def configUsage : List String :=
  ["Usage: kaiblock config [--init|--show]",
    "  --init  Create a template configuration file",
    "  --show  Show current configuration"]

/-- Writes a configuration file to start from, or else shows the settings. A file that is there
stays. -/
def runConfig (p : Preferences) (create display : Bool) (path : Value) : Work m Reply := do
  if create then
    let path := Path.normalise (← path.path)
    if ← onHost (Host.doesExist path) then return .refusal s!"Config file already exists: {path}"
    onHost (Host.writeText path Preferences.template)
    Reply.naming s!"Created configuration file: {path}" configHints
  else if display then return .success [jsonText p.toSettings.toValue]
  else return .success configUsage

/-! ## All commands -/

def run (scheme : SignatureScheme) (p : Preferences) : Command → Work m Reply
  | .hash text file twice json => runHash text file twice json
  | .merkleRoot items file json => runRoot items file json
  | .merkleProve items file index out => runProve items file index out
  | .merkleVerify proof root json => runVerifyProof proof root json
  | .mine header bits maxNonce json => runMine p header bits maxNonce json
  | .target bits json => targetReply bits json
  | .generate out => runGenerate scheme out
  | .sign key message json => signReply scheme key message json
  | .verify key signature message json => verifyReply scheme key signature message json
  | .address key text kind json => addressReply p key text kind json
  | .config create display path => runConfig p create display path
  | .usage text => return .success [text]

end

end Command

end Attest
