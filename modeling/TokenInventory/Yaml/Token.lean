import TokenInventory.Yaml.Lexeme

/-!
# Tokens of YAML

A YAML text as a sequence of tokens. Collections that are laid out by indentation get tokens that
open and close them. A key needs no mark of its own: when the colon after it is found, the token
that marks the key is put in before it. Such a key has to stand on one line, within 1024 characters.
-/

namespace TokenInventory.Yaml

/-- How a scalar stands in a text. -/
inductive Presentation
  | plain
  | quoted
  /-- A block whose line ends are kept. -/
  | literal
  /-- A block whose lines are joined. -/
  | folded
  deriving DecidableEq, Repr

/-- A token of a YAML text. -/
inductive Token
  | directive (d : Directive)
  | documentStart
  | documentEnd
  | blockSequenceStart
  | blockMappingStart
  | blockEnd
  | flowSequenceStart
  | flowSequenceEnd
  | flowMappingStart
  | flowMappingEnd
  | blockEntry
  | flowEntry
  | key
  | value
  | alias (name : List Char)
  | anchor (name : List Char)
  | tag (t : WrittenTag)
  | scalar (presentation : Presentation) (text : List Char)

/-- A place where a key without a mark may have started. -/
structure PossibleKey where
  /-- Whether there has to be a key, since it stands where a mapping's keys stand. -/
  isRequired : Bool
  /-- The number of tokens before the key. -/
  position : Nat
  index : Nat
  line : Nat
  column : Nat

/-- The tokens read so far and what the next ones depend on. -/
structure TokenReader where
  cursor : Cursor
  /-- The tokens in reverse order. -/
  tokens : List Token := []
  /-- The column of the innermost collection laid out by indentation, `-1` if there is none. -/
  indent : Int := -1
  outerIndents : List Int := []
  /-- Whether a key without a mark may start here. -/
  keyAllowed : Bool := true
  /-- The possible key of the innermost collection. -/
  possibleKey : Option PossibleKey := none
  /-- The possible keys of the collections around, one for each collection between marks. -/
  outerKeys : List (Option PossibleKey) := []

namespace TokenReader

/-- Whether the place is inside a collection between marks. -/
def inFlow (r : TokenReader) : Bool :=
  !r.outerKeys.isEmpty

/-- The reader with a token added. -/
def push (r : TokenReader) (t : Token) : TokenReader :=
  { r with tokens := t :: r.tokens }

/-- The reader with a token put in after the first `position` tokens. -/
def insertAt (r : TokenReader) (position : Nat) (t : Token) : TokenReader :=
  let later := r.tokens.length - position
  { r with tokens := r.tokens.take later ++ t :: r.tokens.drop later }

/-- The reader behind the next `count` characters. -/
def advance (r : TokenReader) (count : Nat) : TokenReader :=
  { r with cursor := r.cursor.skip count }

/-- Skips blanks, comments and line ends. Tabs do not count as indentation. -/
def skipToToken : Nat → TokenReader → TokenReader
  | 0, r => r
  | fuel + 1, r =>
    let c := r.cursor
    let c := if c.index = 0 && c.peek = some '\uFEFF' then c.skip 1 else c
    let c := c.skipWhile fun d => d = ' ' || ((r.inFlow || !r.keyAllowed) && d = '\t')
    let c := if c.peek = some '#' then c.skipWhile fun d => !isBreak d else c
    if c.atBreak then
      skipToToken fuel
        { r with cursor := c.readBreak.2, keyAllowed := r.keyAllowed || !r.inFlow }
    else { r with cursor := c }

/-- Whether a possible key is too far away to be one. -/
def isStale (c : Cursor) (k : PossibleKey) : Bool :=
  k.line < c.line || k.index + 1024 < c.index

/-- A possible key that has not become stale; `none` if a required key has. -/
def freshKey? (c : Cursor) : Option PossibleKey → Option (Option PossibleKey)
  | none => some none
  | some k => if isStale c k then if k.isRequired then none else some none else some (some k)

/-- The reader without stale keys. -/
def dropStaleKeys (r : TokenReader) : Option TokenReader := do
  let possibleKey ← freshKey? r.cursor r.possibleKey
  let outerKeys ← r.outerKeys.mapM (freshKey? r.cursor)
  return { r with possibleKey, outerKeys }

/-- Closes the collections that are indented deeper than a column. -/
def unrollTo (column : Int) : Nat → TokenReader → TokenReader
  | 0, r => r
  | fuel + 1, r =>
    if column < r.indent then
      match r.outerIndents with
      | outer :: outerIndents =>
        unrollTo column fuel { (r.push .blockEnd) with indent := outer, outerIndents }
      | [] => r
    else r

/-- Closes collections laid out by indentation, but not from inside marks. -/
def unroll (column : Int) (r : TokenReader) : TokenReader :=
  if r.inFlow then r else unrollTo column r.outerIndents.length r

/-- Opens a collection at a column if it is indented deeper than the one around. The token goes in
after the first `position` tokens. -/
def roll (column : Nat) (position : Nat) (t : Token) (r : TokenReader) : TokenReader :=
  if !r.inFlow && r.indent < column then
    { (r.insertAt position t) with indent := column, outerIndents := r.indent :: r.outerIndents }
  else r

/-- The reader without a possible key at this level; `none` if the key is required. -/
def dropKey (r : TokenReader) : Option TokenReader :=
  match r.possibleKey with
  | some k => if k.isRequired then none else some { r with possibleKey := none }
  | none => some r

/-- Notes that a key may start here. -/
def noteKey (r : TokenReader) : Option TokenReader :=
  if r.keyAllowed then do
    let r ← r.dropKey
    let c := r.cursor
    return { r with
      possibleKey := some
        { isRequired := !r.inFlow && r.indent == c.column
          position := r.tokens.length
          index := c.index
          line := c.line
          column := c.column } }
  else some r

/-- Adds a token that ends what came before: a directive or the mark of a document. -/
def documentToken (r : TokenReader) : Option TokenReader := do
  let r ← (r.unroll (-1)).dropKey
  return { r with keyAllowed := false }

/-- Opens a collection between marks. -/
def openFlow (t : Token) (r : TokenReader) : Option TokenReader := do
  let r ← r.noteKey
  return { (r.push t).advance 1 with
    keyAllowed := true, possibleKey := none, outerKeys := r.possibleKey :: r.outerKeys }

/-- Closes a collection between marks. -/
def closeFlow (t : Token) (r : TokenReader) : Option TokenReader := do
  let r ← r.dropKey
  let r := { (r.push t).advance 1 with keyAllowed := false }
  match r.outerKeys with
  | [] => return r
  | k :: outerKeys => return { r with possibleKey := k, outerKeys }

/-- Reads the mark of an item of a sequence. -/
def entryToken (r : TokenReader) : Option TokenReader := do
  let r ←
    if r.inFlow then some r
    else if r.keyAllowed then some (r.roll r.cursor.column r.tokens.length .blockSequenceStart)
    else none
  let r ← r.dropKey
  return { (r.push .blockEntry).advance 1 with keyAllowed := true }

/-- Reads the mark of a key. -/
def keyToken (r : TokenReader) : Option TokenReader := do
  let r ←
    if r.inFlow then some r
    else if r.keyAllowed then some (r.roll r.cursor.column r.tokens.length .blockMappingStart)
    else none
  let r ← r.dropKey
  return { (r.push .key).advance 1 with keyAllowed := !r.inFlow }

/-- Reads the mark of a value. If a key may have started before, this is its value. -/
def valueToken (r : TokenReader) : Option TokenReader :=
  match r.possibleKey with
  | some k =>
    let r := (r.insertAt k.position .key).roll k.column k.position .blockMappingStart
    some { (r.push .value).advance 1 with keyAllowed := false, possibleKey := none }
  | none =>
    if r.inFlow then some { (r.push .value).advance 1 with keyAllowed := false }
    else if r.keyAllowed then
      let r := r.roll r.cursor.column r.tokens.length .blockMappingStart
      some { (r.push .value).advance 1 with keyAllowed := true }
    else none

/-- Adds a token that may be a key by itself or be part of one, read at the place. -/
def contentToken {α : Type} (read : Cursor → Option (α × Cursor)) (token : α → Token)
    (r : TokenReader) : Option TokenReader := do
  let r ← r.noteKey
  let (a, c) ← read r.cursor
  return { (r.push (token a)) with cursor := c, keyAllowed := false }

/-- Reads a block scalar. -/
def blockScalar (isLiteral : Bool) (r : TokenReader) : Option TokenReader := do
  let r ← r.dropKey
  let (text, c) ← readBlock isLiteral r.indent (r.cursor.skip 1)
  return { (r.push (.scalar (if isLiteral then .literal else .folded) text)) with
    cursor := c, keyAllowed := true }

/-- Reads a quoted scalar. -/
def quotedScalar (isSingle : Bool) : TokenReader → Option TokenReader :=
  contentToken (fun c => readQuoted isSingle (c.rest.length + 1) (c.skip 1))
    (.scalar .quoted)

/-- Reads a plain scalar. After a line end a key may start again. -/
def plainScalar (r : TokenReader) : Option TokenReader := do
  let r ← r.noteKey
  let (text, isBroken, c) ←
    readPlain r.inFlow (r.indent + 1).toNat (r.cursor.rest.length + 1) {} r.cursor
  return { (r.push (.scalar .plain text)) with cursor := c, keyAllowed := isBroken }

/-- Whether a plain scalar may start with a character. -/
def startsPlain (r : TokenReader) (d : Char) : Bool :=
  let isMark := isBlankOrBreak d || ['-', '?', ':', ',', '[', ']', '\x7b', '\x7d', '#', '&', '*',
    '!', '|', '>', '\'', '"', '%', '@', '\x60'].contains d
  let next := r.cursor.peekAt 1
  !isMark || (d = '-' && next != some ' ' && next != some '\t') ||
    (!r.inFlow && (d = '?' || d = ':') && !r.cursor.blankAt 1)

/-- Reads the token that starts with a character. -/
def readToken (d : Char) (r : TokenReader) : Option TokenReader :=
  let c := r.cursor
  if c.column = 0 && d = '%' then do
    let r ← r.documentToken
    let (directive, c) ← readDirective (c.skip 1)
    return { (r.push (.directive directive)) with cursor := c }
  else if c.atDocumentMark '-' then
    r.documentToken.map fun r => (r.push .documentStart).advance 3
  else if c.atDocumentMark '.' then
    r.documentToken.map fun r => (r.push .documentEnd).advance 3
  else if d = '[' then r.openFlow .flowSequenceStart
  else if d = '\x7b' then r.openFlow .flowMappingStart
  else if d = ']' then r.closeFlow .flowSequenceEnd
  else if d = '\x7d' then r.closeFlow .flowMappingEnd
  else if d = ',' then
    r.dropKey.map fun r => { (r.push .flowEntry).advance 1 with keyAllowed := true }
  else if d = '-' && c.blankAt 1 then r.entryToken
  else if d = '?' && (r.inFlow || c.blankAt 1) then r.keyToken
  else if d = ':' && (r.inFlow || c.blankAt 1) then r.valueToken
  else if d = '*' then r.contentToken (fun c => readAnchor (c.skip 1)) .alias
  else if d = '&' then r.contentToken (fun c => readAnchor (c.skip 1)) .anchor
  else if d = '!' then r.contentToken (readTag r.inFlow) .tag
  else if d = '|' && !r.inFlow then r.blockScalar true
  else if d = '>' && !r.inFlow then r.blockScalar false
  else if d = '\'' then r.quotedScalar true
  else if d = '"' then r.quotedScalar false
  else if r.startsPlain d then r.plainScalar
  else none

/-- Reads the tokens to the end of the text. -/
def readAll : Nat → TokenReader → Option (List Token)
  | 0, _ => none
  | fuel + 1, r => do
    let r ← (skipToToken (r.cursor.rest.length + 1) r).dropStaleKeys
    let r := r.unroll r.cursor.column
    match r.cursor.peek with
    | none =>
      let r ← (r.unroll (-1)).dropKey
      return r.tokens.reverse
    | some d =>
      let r ← r.readToken d
      readAll fuel r

end TokenReader

/-- Whether a character may occur in a YAML text. -/
def isAllowed (c : Char) : Bool :=
  let n := c.toNat
  n = 0x09 || n = 0x0A || n = 0x0D || (0x20 ≤ n && n ≤ 0x7E) || n = 0x85 ||
    (0xA0 ≤ n && n ≤ 0xFFFD) || 0x10000 ≤ n

/-- The tokens of a text. -/
def tokens? (s : List Char) : Option (List Token) :=
  if s.all isAllowed then TokenReader.readAll (s.length + 1) { cursor := { rest := s } } else none

end TokenInventory.Yaml
