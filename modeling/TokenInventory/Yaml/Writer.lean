import TokenInventory.Yaml.Scalar

/-!
# Writing YAML

A record is written as an item of a list: a dash and then a line for each field, indented by two. A
text is written plain if it can be, else between single quotes, else between double quotes with
escapes. A text of several lines is written as a literal block, unless it has characters or blanks
that a block would not keep. A key of more than 128 bytes or of several lines is marked with `?`.
-/

namespace TokenInventory.Yaml

/-- A character that ends a line. -/
def isBreak (c : Char) : Bool :=
  c = '\n' || c = '\r' || c = '\x85' || c = '\u2028' || c = '\u2029'

/-- A blank or a character that ends a line. -/
def isBlankOrBreak (c : Char) : Bool :=
  c = ' ' || c = '\t' || c = '\x00' || isBreak c

/-- A character that may stand for itself in a written scalar. -/
def isPrintable (c : Char) : Bool :=
  let n := c.toNat
  n = 0x0A || (0x20 ≤ n && n ≤ 0x7E) || (0xA0 ≤ n && n < 0xFEFF) || (0xFF00 ≤ n && n < 0xFFFE) ||
    0x10000 ≤ n

/-- How a scalar is written. -/
inductive ScalarStyle
  | plain
  | singleQuoted
  | doubleQuoted
  | literal
  deriving DecidableEq, Repr

/-- Whether a character makes a plain scalar impossible where it stands, between the characters
before and after it. -/
def isIndicator (before : Option Char) (c : Char) (after : Option Char) : Bool :=
  let blankAfter := after.all isBlankOrBreak
  match before with
  | none =>
    ['#', ',', '[', ']', '\x7b', '\x7d', '&', '*', '!', '|', '>', '\'', '"', '%', '@',
        '\x60'].contains c ||
      ((c = '?' || c = ':' || c = '-') && blankAfter)
  | some before => (c = ':' && blankAfter) || (c = '#' && isBlankOrBreak before)

/-- Whether the condition holds for some character with the ones before and after it. -/
def anyInContext (p : Option Char → Char → Option Char → Bool) (before : Option Char) :
    List Char → Bool
  | [] => false
  | c :: s => p before c s.head? || anyInContext p (some c) s

/-- Whether a text has a character that cannot be written outside double quotes. -/
def hasSpecial (s : List Char) : Bool :=
  s.any fun c => !isPrintable c

/-- Whether a space stands right before the end of a line. -/
def hasSpaceBeforeBreak (s : List Char) : Bool :=
  anyInContext (fun _ c after => c = ' ' && after.any isBreak) none s

/-- Whether a space stands right after the end of a line. -/
def hasSpaceAfterBreak (s : List Char) : Bool :=
  anyInContext (fun before c _ => c = ' ' && before.any isBreak) none s

/-- Whether a text starts with a character that satisfies `p`. -/
def startsIn (p : Char → Bool) (s : List Char) : Bool :=
  s.head?.any p

/-- Whether a text ends with a character that satisfies `p`. -/
def endsIn (p : Char → Bool) (s : List Char) : Bool :=
  s.getLast?.any p

/-- Whether a text can be written as a plain scalar. -/
def allowsPlain (s : List Char) : Bool :=
  let isEdge (c : Char) := c = ' ' || isBreak c
  !(hasSpecial s || s.any isBreak || startsIn isEdge s || endsIn isEdge s ||
    ['-', '-', '-'].isPrefixOf s || ['.', '.', '.'].isPrefixOf s || anyInContext isIndicator none s)

/-- Whether a text can be written between single quotes. -/
def allowsSingleQuoted (s : List Char) : Bool :=
  !(hasSpecial s || hasSpaceBeforeBreak s || hasSpaceAfterBreak s)

/-- Whether a text can be written as a literal block. -/
def allowsLiteral (s : List Char) : Bool :=
  !(s = [] || hasSpecial s || hasSpaceBeforeBreak s || endsIn (· = ' ') s)

/-- How a text is written; in a simple key there is no literal block. -/
def styleOf (inSimpleKey : Bool) (s : String) : ScalarStyle :=
  let quoted := if allowsSingleQuoted s.toList then ScalarStyle.singleQuoted else .doubleQuoted
  if s.toList.contains '\n' then
    if inSimpleKey || !allowsLiteral s.toList then .doubleQuoted else .literal
  else if inSimpleKey && s.toList.any isBreak then .doubleQuoted
  else if isAmbiguous s || !allowsPlain s.toList then quoted
  else .plain

/-- Spaces at the start of a line. -/
def spaces (indent : Nat) : List Char :=
  List.replicate indent ' '

/-- Lines of a block, each indented. `isLineStart` tells whether a line is about to start. -/
def blockLines (indent : Nat) (isLineStart : Bool) : List Char → List Char
  | [] => []
  | c :: s =>
    if isBreak c then c :: blockLines indent true s
    else (if isLineStart then spaces indent else []) ++ c :: blockLines indent false s

/-- The header of a literal block: whether its first line needs the indentation spelled out, and
what becomes of the line breaks at the end. -/
def literalHeader (s : List Char) : List Char :=
  let indentation := if startsIn (fun c => c = ' ' || isBreak c) s then ['2'] else []
  let ending :=
    match s.reverse with
    | [] => ['-']
    | [c] => if isBreak c then ['+'] else ['-']
    | c :: d :: _ => if !isBreak c then ['-'] else if isBreak d then ['+'] else []
  '|' :: indentation ++ ending

/-- The inside of a single-quoted scalar. -/
def singleQuotedLines (indent : Nat) (isLineStart : Bool) : List Char → List Char
  | [] => if isLineStart then spaces indent else []
  | c :: s =>
    if isBreak c then c :: singleQuotedLines indent true s
    else
      (if isLineStart then spaces indent else []) ++ (if c = '\'' then ['\'', '\''] else [c]) ++
        singleQuotedLines indent false s

/-- A capital hexadecimal digit. -/
def capitalDigit (n : Nat) : Char :=
  (Hex.digit n).toUpper

/-- The last hexadecimal digits of a number. -/
def hexDigits : Nat → Nat → List Char
  | 0, _ => []
  | count + 1, n => hexDigits count (n / 16) ++ [capitalDigit (n % 16)]

/-- An escaped character inside double quotes. -/
def escapeChar (c : Char) : List Char :=
  match c with
  | '\x00' => ['\\', '0']
  | '\x07' => ['\\', 'a']
  | '\x08' => ['\\', 'b']
  | '\t' => ['\\', 't']
  | '\n' => ['\\', 'n']
  | '\x0B' => ['\\', 'v']
  | '\x0C' => ['\\', 'f']
  | '\r' => ['\\', 'r']
  | '\x1B' => ['\\', 'e']
  | '"' => ['\\', '"']
  | '\\' => ['\\', '\\']
  | '\x85' => ['\\', 'N']
  | '\xA0' => ['\\', '_']
  | '\u2028' => ['\\', 'L']
  | '\u2029' => ['\\', 'P']
  | c =>
    let n := c.toNat
    if n ≤ 0xFF then '\\' :: 'x' :: hexDigits 2 n
    else if n ≤ 0xFFFF then '\\' :: 'u' :: hexDigits 4 n
    else '\\' :: 'U' :: hexDigits 8 n

/-- The inside of a double-quoted scalar. -/
def doubleQuotedChars (s : List Char) : List Char :=
  s.flatMap fun c =>
    if !isPrintable c || isBreak c || c = '"' || c = '\\' then escapeChar c else [c]

/-- A scalar whose further lines are indented. -/
def scalarText (indent : Nat) (style : ScalarStyle) (s : List Char) : List Char :=
  match style with
  | .plain => s
  | .singleQuoted => '\'' :: singleQuotedLines indent false s ++ ['\'']
  | .doubleQuoted => '"' :: doubleQuotedChars s ++ ['"']
  | .literal => literalHeader s ++ '\n' :: blockLines indent true s

/-- Ends a line, unless the text has ended it. -/
def endLine (style : ScalarStyle) (s : List Char) : List Char :=
  if style = .literal && (s = [] || endsIn isBreak s) then [] else ['\n']

/-- A text as a whole scalar to the end of its last line, inside a collection at an indentation. -/
def textLines (indent : Nat) (s : String) : List Char :=
  let style := styleOf false s
  scalarText (indent + 2) style s.toList ++ endLine style s.toList

/-- Whether a key can stand on one line with its value. -/
def isSimpleKey (key : String) : Bool :=
  key.utf8ByteSize ≤ 128 && !key.toList.any isBreak

/-- An entry of a map of texts. -/
def entryLines (indent : Nat) (key value : String) : List Char :=
  if isSimpleKey key then
    spaces indent ++ scalarText (indent + 2) (styleOf true key) key.toList ++ [':', ' '] ++
      textLines indent value
  else
    spaces indent ++ ['?', ' '] ++ textLines indent key ++ spaces indent ++ [':', ' '] ++
      textLines indent value

/-- The value of a field. -/
inductive FieldValue
  | flag (b : Bool)
  | number (n : Int64)
  | text (s : String)
  | texts (items : List String)
  | table (entries : List (String × String))

/-- The value of a field after its colon, to the end of its last line. -/
def valueLines : FieldValue → List Char
  | .flag b => ' ' :: (if b then "true" else "false").toList ++ ['\n']
  | .number n => ' ' :: Text.writeInt n.toInt ++ ['\n']
  | .text s => ' ' :: textLines 2 s
  | .texts [] => [' ', '[', ']', '\n']
  | .texts items => '\n' :: items.flatMap fun item => ' ' :: ' ' :: '-' :: ' ' :: textLines 2 item
  | .table [] => [' ', '\x7b', '\x7d', '\n']
  | .table entries => '\n' :: entries.flatMap fun (key, value) => entryLines 4 key value

/-- Whether a value ends with lines that belong to it only because a header says so. -/
def isOpenEnded : FieldValue → Bool
  | .text s => styleOf false s = .literal && (literalHeader s.toList).contains '+'
  | _ => false

/-- A record with named fields. -/
abbrev Record : Type :=
  List (String × FieldValue)

/-- The lines of the fields of a record; the first line is begun by `start`. -/
def fieldLines (start : List Char) : Record → List Char
  | [] => []
  | (name, value) :: fields =>
    start ++ name.toList ++ ':' :: valueLines value ++ fieldLines (spaces 2) fields

/-- A record as an item of a list. -/
def recordItem (record : Record) : String :=
  let isOpen := record.getLast?.any fun field => isOpenEnded field.2
  String.ofList (fieldLines ['-', ' '] record ++ if isOpen then "...\n".toList else [])

end TokenInventory.Yaml
