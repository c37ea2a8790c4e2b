import TokenInventory.Yaml.Cursor

/-!
# Lexemes of YAML

Readers for the parts of a YAML text that stand for one thing each: plain, quoted and block scalars,
the names of anchors, tags and directives. All of them give the place behind what they read.
-/

namespace TokenInventory.Yaml

/-- A character of a name. -/
def isNameChar (c : Char) : Bool :=
  c.isAlphanum || c = '-' || c = '_'

/-- A mark that opens or closes a collection or divides its items. -/
def isFlowMark (c : Char) : Bool :=
  [',', '[', ']', '\x7b', '\x7d'].contains c

/-! ## Plain scalars -/

/-- The characters of a plain scalar up to a blank or to what ends it; `none` if a colon stands
right before a mark of a collection. -/
def readPlainRun (inFlow : Bool) : Nat → Cursor → Option (List Char × Cursor)
  | 0, c => some ([], c)
  | fuel + 1, c =>
    match c.peek with
    | none => some ([], c)
    | some d =>
      if isBlankOrBreak d then some ([], c)
      else if inFlow && d = ':' && (c.peekAt 1).any (fun e => isFlowMark e || e = '?') then none
      else if (d = ':' && c.blankAt 1) || (inFlow && isFlowMark d) then some ([], c)
      else (readPlainRun inFlow fuel (c.skip 1)).map fun (run, c) => (d :: run, c)

/-- Reads a plain scalar whose further lines are indented. `before` is the gap before the place. The
answer tells whether the last gap, which is not part of the scalar, holds a line end. -/
def readPlain (inFlow : Bool) (indent : Nat) : Nat → Gap → Cursor →
    Option (List Char × Bool × Cursor)
  | 0, before, c => some ([], before.isBroken, c)
  | fuel + 1, before, c =>
    if c.atDocumentMark '-' || c.atDocumentMark '.' || c.peek == some '#' then
      some ([], before.isBroken, c)
    else do
      let (run, c) ← readPlainRun inFlow c.rest.length c
      if run = [] then return ([], before.isBroken, c)
      else
        let (gap, c) ← Gap.read (some indent) c.rest.length {} c
        let text := before.text ++ run
        if gap.isEmpty then return (text, false, c)
        else if !inFlow && c.column < indent then return (text, gap.isBroken, c)
        else
          let (more, isBroken, c) ← readPlain inFlow indent fuel gap c
          return (text ++ more, isBroken, c)

/-! ## Quoted scalars -/

/-- The character with a number. -/
def charOfNumber? (n : Nat) : Option Char :=
  if n < 0xD800 ∨ (0xE000 ≤ n ∧ n < 0x110000) then some (Char.ofNat n) else none

/-- The character that an escape letter stands for. -/
def escaped? : Char → Option Char
  | '0' => some '\x00'
  | 'a' => some '\x07'
  | 'b' => some '\x08'
  | 't' => some '\t'
  | '\t' => some '\t'
  | 'n' => some '\n'
  | 'v' => some '\x0B'
  | 'f' => some '\x0C'
  | 'r' => some '\r'
  | 'e' => some '\x1B'
  | ' ' => some ' '
  | '"' => some '"'
  | '/' => some '/'
  | '\\' => some '\\'
  | 'N' => some '\x85'
  | '_' => some '\xA0'
  | 'L' => some '\u2028'
  | 'P' => some '\u2029'
  | _ => none

/-- The number of digits after an escape letter. -/
def escapeDigits? : Char → Option Nat
  | 'x' => some 2
  | 'u' => some 4
  | 'U' => some 8
  | _ => none

/-- Reads an escape after its backslash. -/
def readEscape (c : Cursor) : Option (Char × Cursor) := do
  let letter ← c.peek
  match escapeDigits? letter with
  | none =>
    let d ← escaped? letter
    return (d, c.skip 1)
  | some count =>
    let digits := (c.rest.drop 1).take count
    if digits.length < count then none
    else
      let n ← natOfBase? 16 digits
      let d ← charOfNumber? n
      return (d, c.skip (1 + count))

/-- The characters of a quoted scalar up to a blank, a line end or the quote. The answer tells
whether an escaped line end was read. -/
def readQuotedRun (isSingle : Bool) : Nat → Cursor → Option (List Char × Bool × Cursor)
  | 0, c => some ([], false, c)
  | fuel + 1, c =>
    let go (d : Char) (c : Cursor) :=
      (readQuotedRun isSingle fuel c).map fun (run, joined, c) => (d :: run, joined, c)
    match c.peek with
    | none => some ([], false, c)
    | some d =>
      if isBlankOrBreak d then some ([], false, c)
      else if isSingle then
        if d = '\'' then
          if c.peekAt 1 = some '\'' then go '\'' (c.skip 2) else some ([], false, c)
        else go d (c.skip 1)
      else if d = '"' then some ([], false, c)
      else if d = '\\' then
        if (c.peekAt 1).any isBreak then some ([], true, (c.skip 1).readBreak.2)
        else (readEscape (c.skip 1)).bind fun (d, c) => go d c
      else go d (c.skip 1)

/-- Reads a quoted scalar after its opening quote, and the closing quote. -/
def readQuoted (isSingle : Bool) : Nat → Cursor → Option (List Char × Cursor)
  | 0, _ => none
  | fuel + 1, c => do
    if c.atDocumentMark '-' || c.atDocumentMark '.' || c.rest.isEmpty then none
    let (run, joined, c) ← readQuotedRun isSingle (c.rest.length + 1) c
    if c.peek == some (if isSingle then '\'' else '"') then return (run, c.skip 1)
    else
      let (gap, c) ← Gap.read none c.rest.length { isBroken := joined } c
      let (more, c) ← readQuoted isSingle fuel c
      return (run ++ gap.text ++ more, c)

/-! ## Block scalars -/

/-- What becomes of the line ends at the end of a block. -/
inductive Chomping
  | strip
  | clip
  | keep
  deriving DecidableEq

/-- The chomping that a mark stands for. -/
def chomping? : Char → Option Chomping
  | '-' => some .strip
  | '+' => some .keep
  | _ => none

/-- The marks after the sign of a block scalar: the chomping and the indentation,
in either order. -/
def readBlockMarks (c : Cursor) : Option (Chomping × Nat × Cursor) :=
  let digit? (c : Cursor) : Option Nat :=
    (c.peek.filter Char.isDigit).map fun d => d.toNat - '0'.toNat
  match c.peek.bind chomping? with
  | some chomping =>
    let c := c.skip 1
    match digit? c with
    | some 0 => none
    | some n => some (chomping, n, c.skip 1)
    | none => some (chomping, 0, c)
  | none =>
    match digit? c with
    | some 0 => none
    | some n =>
      let c := c.skip 1
      match c.peek.bind chomping? with
      | some chomping => some (chomping, n, c.skip 1)
      | none => some (.clip, n, c)
    | none => some (.clip, 0, c)

/-- Skips blanks and a comment up to the end of a line. -/
def skipComment (c : Cursor) : Option Cursor :=
  let c := c.skipWhile isInlineBlank
  let c := if c.peek == some '#' then c.skipWhile fun d => !isBreak d else c
  if c.atLineEnd then some c else none

/-- Reads empty lines of a block and the indentation of the line after them. An `indent` of zero is
not yet known; `deepest` is the deepest indentation of the empty lines so far. The answer is the
deepest indentation, the line ends and the place. -/
def readEmptyLines (indent : Nat) : Nat → Nat → Cursor → Option (Nat × List Char × Cursor)
  | 0, deepest, c => some (deepest, [], c)
  | fuel + 1, deepest, c =>
    let blanks := c.rest.takeWhile (· = ' ')
    let c := c.skip (if indent = 0 then blanks.length else min blanks.length (indent - c.column))
    let deepest := max deepest c.column
    if (indent = 0 || c.column < indent) && c.peek == some '\t' then none
    else if c.atBreak then
      let (lineEnd, c) := c.readBreak
      (readEmptyLines indent fuel deepest c).map fun (deepest, breaks, c) =>
        (deepest, lineEnd ++ breaks, c)
    else some (deepest, [], c)

/-- Reads the lines of a block at an indentation. `lineEnd` is the end of the line before, `breaks`
are the ends of empty lines after it, and `wasBlank` tells whether that line started with a blank.
The answer keeps the last line end and the empty lines behind it apart. -/
def readBlockLines (isLiteral : Bool) (indent : Nat) : Nat → List Char → List Char → Bool → Cursor →
    Option (List Char × List Char × List Char × Cursor)
  | 0, lineEnd, breaks, _, c => some ([], lineEnd, breaks, c)
  | fuel + 1, lineEnd, breaks, wasBlank, c =>
    if c.column ≠ indent || c.rest.isEmpty then some ([], lineEnd, breaks, c)
    else do
      let isBlank := c.atBlank
      let between :=
        if !isLiteral && lineEnd.head? = some '\n' && !wasBlank && !isBlank then
          if breaks = [] then [' '] else breaks
        else lineEnd ++ breaks
      let (line, c) := c.span fun d => !isBreak d
      let (lineEnd, c) := c.readBreak
      let (_, breaks, c) ← readEmptyLines indent c.rest.length 0 c
      let (text, lineEnd, breaks, c) ← readBlockLines isLiteral indent fuel lineEnd breaks isBlank c
      return (between ++ line ++ text, lineEnd, breaks, c)

/-- Reads a block scalar after its sign, inside a collection at an indentation. -/
def readBlock (isLiteral : Bool) (parent : Int) (c : Cursor) : Option (List Char × Cursor) := do
  let (chomping, increment, c) ← readBlockMarks c
  let c ← skipComment c
  let c := c.readBreak.2
  let known := if increment = 0 then 0 else parent.toNat + increment
  let (deepest, breaks, c) ← readEmptyLines known (c.rest.length + 1) 0 c
  let indent := if known = 0 then max (max deepest (parent + 1).toNat) 1 else known
  let (text, lineEnd, breaks, c) ←
    readBlockLines isLiteral indent (c.rest.length + 1) [] breaks false c
  match chomping with
  | .strip => return (text, c)
  | .clip => return (text ++ lineEnd, c)
  | .keep => return (text ++ lineEnd ++ breaks, c)

/-! ## Names and tags -/

/-- Reads the name of an anchor or an alias after its mark. -/
def readAnchor (c : Cursor) : Option (List Char × Cursor) :=
  let (name, c) := c.span isNameChar
  let isEnd := c.blankAt 0 ||
    c.peek.any fun d => ['?', ':', ',', ']', '\x7d', '%', '@', '\x60'].contains d
  if name = [] || !isEnd then none else some (name, c)

/-- The number of bytes of a UTF-8 sequence by its first byte. -/
def utf8Width (byte : Nat) : Nat :=
  if byte < 0x80 then 1
  else if 0xC0 ≤ byte ∧ byte < 0xE0 then 2
  else if 0xE0 ≤ byte ∧ byte < 0xF0 then 3
  else if 0xF0 ≤ byte ∧ byte < 0xF8 then 4
  else 0

/-- Reads a byte as a percent sign and two hexadecimal digits. -/
def readPercentByte (c : Cursor) : Option (Nat × Cursor) :=
  match c.rest with
  | '%' :: a :: b :: _ => do
    let a ← Hex.value? a
    let b ← Hex.value? b
    return (16 * a + b, c.skip 3)
  | _ => none

/-- Reads the further bytes of a character; `value` holds the bits so far. -/
def readPercentTail : Nat → Nat → Cursor → Option (Nat × Cursor)
  | 0, value, c => some (value, c)
  | count + 1, value, c => do
    let (byte, c) ← readPercentByte c
    if 0x80 ≤ byte ∧ byte < 0xC0 then readPercentTail count (value * 0x40 + byte % 0x40) c else none

/-- Reads a character that is written as percent signs and digits. -/
def readPercentChar (c : Cursor) : Option (Char × Cursor) := do
  let (byte, c) ← readPercentByte c
  let width := utf8Width byte
  if width = 0 then none
  else
    let bits := if width = 1 then byte else byte % 1 <<< (7 - width)
    let (n, c) ← readPercentTail (width - 1) bits c
    let d ← charOfNumber? n
    return (d, c)

/-- A character of a tag; commas and square brackets are only part of some tags. -/
def isTagChar (withFlowMarks : Bool) (c : Char) : Bool :=
  isNameChar c || [';', '/', '?', ':', '@', '&', '=', '+', '$', '.', '%', '!', '~', '*', '\'', '(',
    ')'].contains c || (withFlowMarks && [',', '[', ']'].contains c)

/-- Reads the characters of a tag. -/
def readTagChars (withFlowMarks : Bool) : Nat → Cursor → Option (List Char × Cursor)
  | 0, c => some ([], c)
  | fuel + 1, c =>
    match c.peek with
    | none => some ([], c)
    | some d =>
      if d = '%' then do
        let (d, c) ← readPercentChar c
        let (rest, c) ← readTagChars withFlowMarks fuel c
        return (d :: rest, c)
      else if isTagChar withFlowMarks d then
        (readTagChars withFlowMarks fuel (c.skip 1)).map fun (rest, c) => (d :: rest, c)
      else some ([], c)

/-- Reads the handle of a tag: an exclamation mark and perhaps a name between two of them. -/
def readTagHandle (inDirective : Bool) (c : Cursor) : Option (List Char × Cursor) :=
  if c.peek ≠ some '!' then none
  else
    let (name, c) := (c.skip 1).span isNameChar
    if c.peek = some '!' then some ('!' :: name ++ ['!'], c.skip 1)
    else if inDirective && name ≠ [] then none
    else some ('!' :: name, c)

/-- A tag as it is written: its handle and what follows the handle. -/
structure WrittenTag where
  handle : List Char
  suffix : List Char
  deriving DecidableEq

/-- Reads a tag. -/
def readTag (inFlow : Bool) (c : Cursor) : Option (WrittenTag × Cursor) := do
  let (tag, c) ←
    if c.peekAt 1 = some '<' then do
      let (uri, c) ← readTagChars true c.rest.length (c.skip 2)
      if uri = [] || c.peek ≠ some '>' then none
      else some (({ handle := [], suffix := uri } : WrittenTag), c.skip 1)
    else do
      let (handle, c) ← readTagHandle false c
      let isNamed := handle.length ≥ 2 && handle.getLast? = some '!'
      let (more, c) ← readTagChars false c.rest.length c
      if isNamed then
        if more = [] then none else some ({ handle, suffix := more }, c)
      else
        let suffix := handle.tail ++ more
        if suffix = [] then some ({ handle := [], suffix := ['!'] }, c)
        else some ({ handle := ['!'], suffix }, c)
  if c.blankAt 0 || (inFlow && c.peek = some ',') then return (tag, c) else none

/-- A directive before a document. -/
inductive Directive
  | version (major minor : Nat)
  | tag (handle meaning : List Char)

/-- Reads a number of at most nine digits. -/
def readVersionNumber (c : Cursor) : Option (Nat × Cursor) :=
  let (digits, c) := c.span Char.isDigit
  if 9 < digits.length then none else (Text.readNat digits).map (·, c)

/-- Reads a directive after its percent sign, to the end of its line. -/
def readDirective (c : Cursor) : Option (Directive × Cursor) := do
  let (name, c) := c.span isNameChar
  if name = [] || !c.blankAt 0 then none
  let c := c.skipWhile isInlineBlank
  let (directive, c) ←
    if name = "YAML".toList then do
      let (major, c) ← readVersionNumber c
      if c.peek ≠ some '.' then none
      let (minor, c) ← readVersionNumber (c.skip 1)
      some (Directive.version major minor, c)
    else if name = "TAG".toList then do
      let (handle, c) ← readTagHandle true c
      if !c.atBlank then none
      let (meaning, c) ← readTagChars true c.rest.length (c.skipWhile isInlineBlank)
      if meaning = [] || !c.blankAt 0 then none
      some (Directive.tag handle meaning, c)
    else none
  let c ← skipComment c
  return (directive, c.readBreak.2)

end TokenInventory.Yaml
