import Attest.Yaml.Scan.Block
import Attest.Yaml.Scan.Plain
import Attest.Yaml.Scan.Quoted
import Attest.Yaml.Scan.Word

/-!
# The stream of tokens

The characters ahead tell what the next token is. Tokens are made until it is certain that none has
to be put before the first of those made.
-/

namespace Attest.Yaml.Scan

/-- Skips spaces, comments and line ends. A new line allows a key, except in a flow collection. -/
def skipToToken : (fuel : Nat) → Scan Unit
  | 0 => return ()
  | fuel + 1 => do
    skipSpaces
    skipComment
    if (← lineBreak).isEmpty then return ()
    if (← get).flowLevel = 0 then allowKey true
    skipToToken fuel

def fetchEnd : Scan Unit := do
  unwind (-1)
  dropKey
  modify fun s => { s with allowsKey := false, keyPlaces := [], isDone := true }
  emit .streamEnd

def fetchSeparator (t : Token) : Scan Unit := do
  unwind (-1)
  dropKey
  allowKey false
  forward 3
  emit t

def fetchFlowStart (t : Token) : Scan Unit := do
  keepKey
  modify fun s => { s with flowLevel := s.flowLevel + 1, allowsKey := true }
  forward 1
  emit t

/-- The end of a flow collection. That there need not have been a start is left to the grammar. -/
def fetchFlowEnd (t : Token) : Scan Unit := do
  dropKey
  modify fun s => { s with flowLevel := s.flowLevel - 1, allowsKey := false }
  forward 1
  emit t

def fetchFlowEntry : Scan Unit := do
  allowKey true
  dropKey
  forward 1
  emit .flowEntry

def fetchBlockMark (opening mark : Token) (allowsNext : Bool) : Scan Unit := do
  let s ← get
  if s.flowLevel = 0 then
    demand s.allowsKey
    if ← openAt s.column then emit opening
  allowKey allowsNext
  dropKey
  forward 1
  emit mark

def insertAt (number : Nat) (ts : List Token) : Scan Unit :=
  modify fun s =>
    let i := number - s.taken
    { s with queue := s.queue.take i ++ ts ++ s.queue.drop i }

/-- The colon before a value. What stands before it is a key if a place for one is kept. -/
def fetchValue : Scan Unit := do
  let s ← get
  match s.keyPlaces.lookup s.flowLevel with
  | some p =>
    set { s with keyPlaces := s.keyPlaces.filter (·.1 ≠ s.flowLevel) }
    let opens ← if s.flowLevel = 0 then openAt p.column else pure false
    insertAt p.token (if opens then [.blockMappingStart, .key] else [.key])
    allowKey false
  | none =>
    if s.flowLevel = 0 then
      demand s.allowsKey
      if ← openAt s.column then emit .blockMappingStart
    allowKey (s.flowLevel = 0)
    dropKey
  forward 1
  emit .value

def fetchKeyed (scan : Scan Token) : Scan Unit := do
  keepKey
  allowKey false
  emit (← scan)

def fetchBlockScalar (isFolded : Bool) : Scan Unit := do
  allowKey true
  dropKey
  emit (← blockScalar isFolded)

def fetchDirective : Scan Unit := do
  unwind (-1)
  dropKey
  allowKey false
  emit (.directive (← directive))

/-- Whether a character may begin a plain scalar whatever follows it. -/
def isPlainStart (c : Char) : Bool :=
  !(isBlankOrEnd (some c) || "-?:,[]\x7b\x7d#&*!|>\x27\x22%@`".toList.contains c)

def fetchPlain (inFlow : Bool) (c : Char) : Scan Unit := do
  if !isPlainStart c then
    let isFollowed := !(← isBlankNext)
    demand (isFollowed && (c = '-' || (!inFlow && (c = '?' || c = ':'))))
  fetchKeyed plain

/-- The token at a dash or a dot that is no separator of documents; other characters than these tell
the token by themselves, or need a blank behind them in block collections. -/
def fetchAt (inFlow : Bool) (c : Char) : Scan Unit := do
  match c with
  | '[' => fetchFlowStart .flowSequenceStart
  | '\x7b' => fetchFlowStart .flowMappingStart
  | ']' => fetchFlowEnd .flowSequenceEnd
  | '\x7d' => fetchFlowEnd .flowMappingEnd
  | ',' => fetchFlowEntry
  | '*' => fetchKeyed (return .alias (← anchorName))
  | '&' => fetchKeyed (return .anchor (← anchorName))
  | '!' => fetchKeyed tag
  | '-' =>
    if ← isBlankNext then fetchBlockMark .blockSequenceStart .blockEntry true
    else fetchPlain inFlow c
  | '?' =>
    let isMark ← if inFlow then pure true else isBlankNext
    if isMark then fetchBlockMark .blockMappingStart .key (!inFlow) else fetchPlain inFlow c
  | ':' =>
    let isMark ← if inFlow then pure true else isBlankNext
    if isMark then fetchValue else fetchPlain inFlow c
  | c =>
    if c = '|' && !inFlow then fetchBlockScalar false
    else if c = '>' && !inFlow then fetchBlockScalar true
    else if c = Char.ofNat 39 || c = Char.ofNat 34 then fetchKeyed (quoted c)
    else fetchPlain inFlow c

def fetch : Scan Unit := do
  let s ← get
  if s.index = 0 && s.rest.head? = some '\ufeff' then forward 1
  skipToToken (s.size + 1)
  dropStaleKeys
  unwind (← get).column
  let s ← get
  match ← peek 0 with
  | none => fetchEnd
  | some c =>
    let isAt (mark : Char) (separator : String) : Scan Bool :=
      if c = mark && s.column = 0 then isAtSeparator [separator] else pure false
    if c = '%' && s.column = 0 then fetchDirective
    else if ← isAt '-' "---" then fetchSeparator .documentStart
    else if ← isAt '.' "..." then fetchSeparator .documentEnd
    else fetchAt (s.flowLevel ≠ 0) c

/-- Makes tokens until it is known what the next one is. The fuel is more than the length of the
text. -/
def prepare : (fuel : Nat) → Scan Unit
  | 0 => return ()
  | fuel + 1 => do
    let s ← get
    if s.isDone then return ()
    if s.queue.isEmpty then
      fetch
      prepare fuel
    else
      dropStaleKeys
      if ← mayBeKey then
        fetch
        prepare fuel
      else return ()

def next : Scan Token := do
  prepare ((← get).size + 2)
  return (← get).queue.headD .streamEnd

def take : Scan Unit :=
  modify fun s => { s with queue := s.queue.tail, taken := s.taken + 1 }

end Attest.Yaml.Scan
