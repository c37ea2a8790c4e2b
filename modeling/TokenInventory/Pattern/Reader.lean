import TokenInventory.Pattern.Basic

/-!
# Reading patterns

The notation of patterns. A character stands for itself unless it is one of `\.+*?()|[]{}^$`;
`ofText?` gives the pattern that a text writes down, or `none` if the text is no pattern.

Flags say how the rest of a group is read: without regard to case, with lines, with a dot for every
character, with blanks and comments ignored, with 7-bit classes. A flag holds from where it is set
to the end of the group around it, across alternatives.

Parts may be nested 250 deep, and a pattern whose repetitions written out would take too much room
is refused.
-/

namespace TokenInventory.Pattern

/-- How a part of a pattern is read. -/
structure Flags where
  ignoreCase : Bool := false
  lines : Bool := false
  dotIsAny : Bool := false
  /-- Whether a carriage return ends a line as well. -/
  carriageReturn : Bool := false
  /-- Whether blanks and comments are ignored. -/
  spaced : Bool := false
  /-- Whether classes and case are those of 7-bit characters. -/
  ascii : Bool := false

/-- The rest of a text after a line break. -/
def afterLine : List Char → List Char
  | [] => []
  | c :: s => if c = '\n' then s else afterLine s

theorem length_afterLine_le (s : List Char) : (afterLine s).length ≤ s.length := by
  induction s with
  | nil => simp [afterLine]
  | cons c s ih =>
    rw [afterLine, List.length_cons]
    split <;> omega

/-- A text without the blanks and comments it starts with. -/
def skipSpaced (s : List Char) : List Char :=
  match s with
  | [] => []
  | c :: s =>
    if Text.isBlank c then skipSpaced s
    else if c = '#' then skipSpaced (afterLine s)
    else c :: s
termination_by s.length
decreasing_by
  · simp
  · have := length_afterLine_le s
    simp
    omega

namespace Flags

/-- A text from its next meaningful character on. -/
def skip (flags : Flags) (s : List Char) : List Char :=
  if flags.spaced then skipSpaced s else s

/-- The class of one character as it stands in a pattern. -/
def cased (flags : Flags) (chars : CharClass) : CharClass :=
  if flags.ignoreCase then
    if flags.ascii then .anyAsciiCase chars else .anyCase chars
  else chars

/-- The flags with one of them set or cleared. -/
def set? (flags : Flags) (letter : Char) (value : Bool) : Option Flags :=
  match letter with
  | 'i' => some { flags with ignoreCase := value }
  | 'm' => some { flags with lines := value }
  | 's' => some { flags with dotIsAny := value }
  | 'R' => some { flags with carriageReturn := value }
  | 'x' => some { flags with spaced := value }
  | 'u' => some { flags with ascii := !value }
  | 'U' => some flags
  | _ => none

end Flags

/-- A flag list up to the colon or parenthesis that ends it. `seen` holds the marks read so far and
`negated` tells whether a dash was among them. -/
def readFlags (flags : Flags) (seen : List Char) (negated : Bool) :
    List Char → Option (Flags × List Char × List Char)
  | [] => none
  | c :: s =>
    if c = ':' ∨ c = ')' then
      if seen.head? = some '-' then none else some (flags, seen, c :: s)
    else if seen.contains c then none
    else if c = '-' then readFlags flags (c :: seen) true s
    else (flags.set? c (!negated)).bind fun flags => readFlags flags (c :: seen) negated s

/-- The digits of a number, between which blanks may be ignored. -/
def readCountDigits (flags : Flags) : Nat → List Char → List Char × List Char
  | 0, s => ([], s)
  | _ + 1, [] => ([], [])
  | fuel + 1, c :: s =>
    if c.isDigit then
      let (digits, rest) := readCountDigits flags fuel (flags.skip s)
      (c :: digits, rest)
    else ([], c :: s)

/-- A 32-bit number with blanks around it. -/
def readCount (flags : Flags) (s : List Char) : Option (Nat × List Char) :=
  let (digits, rest) := readCountDigits flags s.length (s.dropWhile Text.isBlank)
  match Text.readNat digits with
  | none => none
  | some n => if n < 0x100000000 then some (n, flags.skip (rest.dropWhile Text.isBlank)) else none

/-- The bounds of a counted repetition up to the brace that ends them. -/
def readBounds (flags : Flags) (s : List Char) : Option ((Nat × Option Nat) × List Char) := do
  let (least, s) ← readCount flags (flags.skip s)
  match s with
  | '\x7d' :: s => return ((least, some least), s)
  | ',' :: s =>
    match flags.skip s with
    | '\x7d' :: s => return ((least, none), s)
    | s =>
      let (most, s) ← readCount flags s
      match s with
      | '\x7d' :: s => if least ≤ most then return ((least, some most), s) else none
      | _ => none
  | _ => none

/-- What a single character or escape stands for. -/
inductive Primitive
  /-- A character; `isByte` if it is written as a byte of two hexadecimal digits. -/
  | literal (c : Char) (isByte : Bool)
  | chars (a : CharClass)
  | anchor (condition : Anchor)

/-- The character with a number, if there is one. -/
def charOfNumber? (n : Nat) : Option Char :=
  if n < 0xD800 ∨ (0xE000 ≤ n ∧ n < 0x110000) then some (Char.ofNat n) else none

/-- Reads a fixed count of hexadecimal digits; `value` is the number read so far. -/
def readHexDigits (flags : Flags) : Nat → Nat → List Char → Option (Nat × List Char)
  | 0, value, s => some (value, s)
  | _ + 1, _, [] => none
  | count + 1, value, c :: s =>
    (Hex.value? c).bind fun n => readHexDigits flags count (16 * value + n) (flags.skip s)

/-- Reads hexadecimal digits up to the brace that ends them. -/
def readBracedHex (flags : Flags) : Nat → List Char → List Char → Option (List Char × List Char)
  | 0, _, _ => none
  | fuel + 1, digits, s =>
    match flags.skip s with
    | [] => none
    | '\x7d' :: s => if digits = [] then none else some (digits.reverse, s)
    | c :: s => (Hex.value? c).bind fun _ => readBracedHex flags fuel (c :: digits) s

/-- A character written by its number, after the letter that says so. -/
def readHexEscape (flags : Flags) (digits : Nat) (s : List Char) :
    Option (Primitive × List Char) :=
  match flags.skip s with
  | [] => none
  | '\x7b' :: s => do
    let (digits, s) ← readBracedHex flags (s.length + 1) [] s
    let c ← charOfNumber? (Unicode.hexNumber digits)
    return (.literal c false, flags.skip s)
  | s => do
    let (n, s) ← readHexDigits flags digits 0 s
    let c ← charOfNumber? n
    return (.literal c (digits == 2), s)

/-- Splits a text at the first place where a word occurs. -/
def splitAtWord? (word : List Char) : List Char → Option (List Char × List Char)
  | [] => none
  | c :: s =>
    match Text.stripPrefix? word (c :: s) with
    | some rest => some ([], rest)
    | none => (splitAtWord? word s).map fun (before, after) => (c :: before, after)

/-- The name of a property between braces, and what follows them. -/
def readBracedName (flags : Flags) : Nat → List Char → List Char → Option (List Char × List Char)
  | 0, _, _ => none
  | fuel + 1, name, s =>
    match flags.skip s with
    | [] => none
    | '\x7d' :: s => some (name.reverse, s)
    | c :: s => readBracedName flags fuel (c :: name) s

/-- The class of a property by its name, or by its name and a value that it has or has not. -/
def propertyClass? (name : List Char) : Option (CharClass × Bool) :=
  match splitAtWord? ['!', '='] name with
  | some (name, value) => (CharClass.withValue? name value).map (·, true)
  | none =>
    match splitAtWord? [':'] name <|> splitAtWord? ['='] name with
    | some (name, value) => (CharClass.withValue? name value).map (·, false)
    | none => (CharClass.named? name).map (·, false)

/-- A class by a property, after the letter that says so. -/
def readProperty (flags : Flags) (negated : Bool) (s : List Char) :
    Option (Primitive × List Char) := do
  if flags.ascii then none
  let (name, s) ←
    match flags.skip s with
    | [] => none
    | '\\' :: _ => none
    | '\x7b' :: s => readBracedName flags (s.length + 1) [] s
    | c :: s => some ([c], flags.skip s)
  let (a, isUnequal) ← propertyClass? name
  return (.chars (CharClass.negatedIf (negated != isUnequal) (flags.cased a)), s)

/-- A class by a letter; small letters stand for the class and capitals for its complement. -/
def shorthand? (flags : Flags) (letter : Char) : Option CharClass := do
  let (wide, narrow) ←
    match letter.toLower with
    | 'd' => some (CharClass.digit, "digit")
    | 's' => some (CharClass.blank, "space")
    | 'w' => some (CharClass.word, "word")
    | _ => none
  if flags.ascii then
    if letter.isUpper then none else CharClass.asciiClass? narrow
  else return CharClass.negatedIf letter.isUpper wide

/-- Whether a character that is no letter or digit may be escaped to stand for itself. -/
def isEscapable (c : Char) : Bool :=
  c.toNat < 0x80 && !c.isAlphanum && c != '<' && c != '>'

/-- The edge of words with a name. -/
def edgeNamed? : String → Option WordEdge
  | "start" => some .start
  | "end" => some .stop
  | "start-half" => some .startHalf
  | "end-half" => some .stopHalf
  | _ => none

/-- Whether a character may be part of the name of an edge. -/
def isEdgeNameChar (c : Char) : Bool :=
  c.isAlpha || c == '-'

/-- The name of an edge of words, and what follows it. -/
def readEdgeName (flags : Flags) : Nat → List Char → List Char × List Char
  | 0, s => ([], s)
  | _ + 1, [] => ([], [])
  | fuel + 1, c :: s =>
    if isEdgeNameChar c then
      let (name, rest) := readEdgeName flags fuel (flags.skip s)
      (c :: name, rest)
    else ([], c :: s)

/-- The word edge of an escaped `b`. What stands in braces after it is a name if it starts like one
and the count of a repetition otherwise. -/
def readWordEdge (flags : Flags) : List Char → Option (Primitive × List Char)
  | '\x7b' :: s =>
    match flags.skip s with
    | [] => none
    | c :: r =>
      if isEdgeNameChar c then
        match readEdgeName flags (c :: r).length (c :: r) with
        | (name, '\x7d' :: rest) =>
          (edgeNamed? (String.ofList name)).map fun edge => (.anchor (.word edge flags.ascii), rest)
        | _ => none
      else some (.anchor (.word .boundary flags.ascii), '\x7b' :: s)
  | s => some (.anchor (.word .boundary flags.ascii), s)

/-- What an escape stands for, after its backslash. -/
def readEscape (flags : Flags) : List Char → Option (Primitive × List Char)
  | [] => none
  | 'x' :: s => readHexEscape flags 2 s
  | 'u' :: s => readHexEscape flags 4 s
  | 'U' :: s => readHexEscape flags 8 s
  | 'p' :: s => readProperty flags false s
  | 'P' :: s => readProperty flags true s
  | 'a' :: s => some (.literal '\x07' false, s)
  | 'f' :: s => some (.literal '\x0C' false, s)
  | 't' :: s => some (.literal '\t' false, s)
  | 'n' :: s => some (.literal '\n' false, s)
  | 'r' :: s => some (.literal '\r' false, s)
  | 'v' :: s => some (.literal '\x0B' false, s)
  | 'A' :: s => some (.anchor .textStart, s)
  | 'z' :: s => some (.anchor .textEnd, s)
  | 'b' :: s => readWordEdge flags s
  | 'B' :: s => some (.anchor (.word .noBoundary flags.ascii), s)
  | '<' :: s => some (.anchor (.word .start flags.ascii), s)
  | '>' :: s => some (.anchor (.word .stop flags.ascii), s)
  | c :: s =>
    if isEscapable c then some (.literal c false, s)
    else (shorthand? flags c).map fun a => (.chars a, s)

/-- A class within brackets or a part of one, and how deep it is nested. -/
structure ClassPart where
  chars : CharClass
  depth : Nat := 0

namespace ClassPart

/-- The union of parts, which are given last first. -/
def unionOf : List ClassPart → ClassPart
  | [] => { chars := .nothing }
  | [part] => part
  | parts =>
    { chars := parts.foldr (fun part chars => .union chars part.chars) .nothing
      depth := 1 + parts.foldl (fun depth part => max depth part.depth) 0 }

end ClassPart

/-- An operation between two parts of a class. -/
inductive ClassOperation
  | intersection
  | difference
  | symmetricDifference

/-- What stands before an operation in a class, and the operation. -/
abbrev Pending : Type :=
  ClassPart × ClassOperation

/-- The part of a class that goes on after a pending operation. -/
def closeOperation (flags : Flags) (pending : Option Pending) (right : ClassPart) : ClassPart :=
  match pending with
  | none => right
  | some (left, operation) =>
    let a := flags.cased left.chars
    let b := flags.cased right.chars
    { chars :=
        match operation with
        | .intersection => .intersection a b
        | .difference => .difference a b
        | .symmetricDifference => .symmetricDifference a b
      depth := 1 + max left.depth right.depth }

/-- The named class of 7-bit characters whose colon follows the bracket, if there is one. -/
def readNamedClass (flags : Flags) (s : List Char) : Option (CharClass × List Char) :=
  let (negated, s) :=
    match s with
    | '^' :: s => (true, s)
    | s => (false, s)
  match Text.splitFirst? ':' s with
  | some (name, ']' :: rest) =>
    (CharClass.asciiClass? (String.ofList name)).bind fun a =>
      let a := CharClass.negatedIf negated (flags.cased a)
      if flags.ascii && !a.isAscii then none else some (a, rest)
  | _ => none

/-- Takes dashes off the start of a class, where they stand for themselves. -/
def readDashes (flags : Flags) : Nat → List ClassPart → List Char → List ClassPart × List Char
  | fuel + 1, parts, '-' :: s =>
    readDashes flags fuel ({ chars := .char '-' } :: parts) (flags.skip s)
  | _, parts, s => (parts, s)

/-- What follows the opening bracket of a class: whether the class is a complement, and the dashes
or the bracket that stand for themselves. -/
def readClassStart (flags : Flags) (s : List Char) : Bool × List ClassPart × List Char :=
  let (negated, s) :=
    match flags.skip s with
    | '^' :: s => (true, flags.skip s)
    | s => (false, s)
  match readDashes flags s.length [] s with
  | ([], ']' :: s) => (negated, [{ chars := .char ']' }], flags.skip s)
  | (parts, s) => (negated, parts, s)

/-- A character or an escape inside a class. -/
def readClassItem (flags : Flags) : List Char → Option (Primitive × List Char)
  | [] => none
  | '\\' :: s => readEscape flags s
  | c :: s => some (.literal c false, s)

/-- The character that stands for itself in a class; with 7-bit classes it has to be
one of those. -/
def Primitive.classChar? (flags : Flags) : Primitive → Option Char
  | .literal c _ => if flags.ascii && 0x80 ≤ c.toNat then none else some c
  | _ => none

/-- The part of a class that a primitive is. -/
def Primitive.classPart? (flags : Flags) (item : Primitive) : Option ClassPart :=
  match item with
  | .chars a => some { chars := a }
  | item => (item.classChar? flags).map fun c => { chars := .char c }

/-- Whether a dash at the start of a text joins two characters to a range: not before the end of a
class and not before another dash. -/
def isRangeDash (flags : Flags) : List Char → Bool
  | '-' :: s => (flags.skip s).head? != some ']' && (flags.skip s).head? != some '-'
  | _ => false

/-- A character, an escape or a range inside a class. -/
def readClassPart (flags : Flags) (s : List Char) : Option (ClassPart × List Char) := do
  let (first, s) ← readClassItem flags s
  let s := flags.skip s
  if s = [] then none
  if isRangeDash flags s then
    let (last, s) ← readClassItem flags (flags.skip s.tail)
    let first ← first.classChar? flags
    let last ← last.classChar? flags
    if first ≤ last then return ({ chars := .range first last }, s) else none
  else
    let part ← first.classPart? flags
    return (part, s)

/-- A class once its closing bracket is read. -/
def closeClass (flags : Flags) (negated : Bool) (part : ClassPart) : Option ClassPart :=
  let chars := CharClass.negatedIf negated (flags.cased part.chars)
  if flags.ascii && !chars.isAscii then none else some { chars, depth := part.depth + 1 }

/-- The parts of a class up to the bracket that ends it. -/
def readClass (flags : Flags) : Nat → Option Pending → List ClassPart → List Char →
    Option (ClassPart × List Char)
  | 0, _, _, _ => none
  | fuel + 1, pending, parts, s =>
    let operate (operation : ClassOperation) (s : List Char) :=
      let left := closeOperation flags pending (ClassPart.unionOf parts)
      readClass flags fuel (some (left, operation)) [] s
    match flags.skip s with
    | [] => none
    | ']' :: s => some (closeOperation flags pending (ClassPart.unionOf parts), s)
    | '&' :: '&' :: s => operate .intersection s
    | '-' :: '-' :: s => operate .difference s
    | '~' :: '~' :: s => operate .symmetricDifference s
    | '[' :: s =>
      let named :=
        match s with
        | ':' :: s => readNamedClass flags s
        | _ => none
      match named with
      | some (a, s) => readClass flags fuel pending ({ chars := a } :: parts) s
      | none => do
        let (negated, inner, s) := readClassStart flags s
        let (part, s) ← readClass flags fuel none inner s
        let part ← closeClass flags negated part
        readClass flags fuel pending (part :: parts) s
    | s => do
      let (part, s) ← readClassPart flags s
      readClass flags fuel pending (part :: parts) s

/-- A bracketed class after its opening bracket. -/
def readBracketed (flags : Flags) (s : List Char) : Option (ClassPart × List Char) := do
  let (negated, parts, s) := readClassStart flags s
  let (part, s) ← readClass flags (s.length + 1) none parts s
  let part ← closeClass flags negated part
  return (part, s)

/-- A part of a pattern, with how deep it is nested. -/
structure Part where
  pattern : Pattern
  depth : Nat := 0
  /-- Whether the part may be repeated; flags may not. -/
  repeatable : Bool := true

namespace Part

/-- The parts one after the other; they are given last first. -/
def seqOf : List Part → Part
  | [] => { pattern := .empty }
  | [part] => part
  | parts =>
    { pattern := parts.tail.foldl (fun q part => .seq part.pattern q)
        ((parts.head?.map Part.pattern).getD .empty)
      depth := 1 + parts.foldl (fun depth part => max depth part.depth) 0 }

/-- The alternatives; they are given last first. -/
def altOf : List Part → Part
  | [] => { pattern := .empty }
  | [part] => part
  | parts =>
    { pattern := parts.tail.foldl (fun q part => .alt part.pattern q)
        ((parts.head?.map Part.pattern).getD .empty)
      depth := 1 + parts.foldl (fun depth part => max depth part.depth) 0 }

/-- The part several times. -/
def repeated (part : Part) (least : Nat) (most : Option Nat) : Part where
  pattern := .repeated part.pattern least most
  depth := part.depth + 1

/-- The part in parentheses. -/
def grouped (part : Part) : Part where
  pattern := part.pattern
  depth := part.depth + 1

end Part

/-- The pattern of a character or an escape. -/
def Primitive.pattern? (flags : Flags) : Primitive → Option Pattern
  | .literal c isByte =>
    if flags.ascii && 0x80 ≤ c.toNat then if isByte then none else some (.one (.char c))
    else some (.one (flags.cased (.char c)))
  | .chars a => some (.one a)
  | .anchor condition => some (.anchor condition)

/-- The class of the dot. -/
def dot? (flags : Flags) : Option CharClass :=
  if flags.ascii then none
  else if flags.dotIsAny then some (.negated .nothing)
  else if flags.carriageReturn then some (.negated (.ranges [('\n', '\n'), ('\r', '\r')]))
  else some (.negated (.char '\n'))

/-- Whether a character may be part of the name of a group. -/
def isNameChar (isFirst : Bool) (c : Char) : Bool :=
  c == '_' || Unicode.BinaryProperty.alphabetic.holds c ||
    (!isFirst &&
      (c == '.' || c == '[' || c == ']' || Unicode.hasCategory ["Nd", "Nl", "No"] c))

/-- The name of a group up to the bracket that ends it. -/
def readName (s : List Char) : Option (List Char × List Char) :=
  match Text.splitFirst? '>' s with
  | some (c :: name, rest) =>
    if isNameChar true c && name.all (isNameChar false) then some (c :: name, rest) else none
  | _ => none

/-- What follows the opening parenthesis of a group. -/
inductive Opening
  /-- A group with a name. -/
  | named (name : List Char)
  | plain
  /-- Flags for the rest of the group around. -/
  | setFlags (flags : Flags)
  /-- A group with flags of its own. -/
  | withFlags (flags : Flags)

/-- Reads what follows an opening parenthesis. -/
def readOpening (flags : Flags) (s : List Char) : Option (Opening × List Char) :=
  match flags.skip s with
  | '?' :: '=' :: _ => none
  | '?' :: '!' :: _ => none
  | '?' :: '<' :: '=' :: _ => none
  | '?' :: '<' :: '!' :: _ => none
  | '?' :: 'P' :: '<' :: s => (readName s).map fun (name, rest) => (.named name, rest)
  | '?' :: '<' :: s => (readName s).map fun (name, rest) => (.named name, rest)
  | '?' :: s =>
    match readFlags flags [] false s with
    | some (flags, seen, ')' :: rest) => if seen = [] then none else some (.setFlags flags, rest)
    | some (flags, _, _ :: rest) => some (.withFlags flags, rest)
    | _ => none
  | s => some (.plain, s)

/-- A text without the question mark after a repetition. -/
def skipMark : List Char → List Char
  | '?' :: s => s
  | s => s

/-- How far a pattern has been read. -/
structure Progress where
  rest : List Char
  flags : Flags
  /-- The names of the groups so far. -/
  names : List (List Char)

/-- Reads alternatives up to the end of a group or of the text. `finished` are the alternatives
before this one and `parts` the parts of this one so far, both last first. -/
def readParts : Nat → List Part → List Part → Progress → Option (Part × Progress)
  | 0, _, _, _ => none
  | fuel + 1, finished, parts, progress =>
    let flags := progress.flags
    let go (part : Part) (s : List Char) :=
      readParts fuel finished (part :: parts) { progress with rest := s }
    let goRepeated (least : Nat) (most : Option Nat) (s : List Char) :=
      match parts with
      | [] => none
      | part :: parts =>
        if part.repeatable then
          readParts fuel finished (part.repeated least most :: parts)
            { progress with rest := skipMark s }
        else none
    let group (inner : Flags) (names : List (List Char)) (s : List Char) := do
      let (part, after) ← readParts fuel [] [] { rest := s, flags := inner, names }
      match after.rest with
      | ')' :: s =>
        readParts fuel finished (part.grouped :: parts) { rest := s, flags, names := after.names }
      | _ => none
    let finish (s : List Char) :=
      some (Part.altOf (Part.seqOf parts :: finished), { progress with rest := s })
    match flags.skip progress.rest with
    | [] => finish []
    | ')' :: s => finish (')' :: s)
    | '|' :: s =>
      readParts fuel (Part.seqOf parts :: finished) [] { progress with rest := s }
    | '*' :: s => goRepeated 0 none s
    | '+' :: s => goRepeated 1 none s
    | '?' :: s => goRepeated 0 (some 1) s
    | '\x7b' :: s => do
      let ((least, most), s) ← readBounds flags s
      goRepeated least most (flags.skip s)
    | '(' :: s => do
      let (opening, s) ← readOpening flags s
      match opening with
      | .setFlags flags =>
        readParts fuel finished ({ pattern := .empty, repeatable := false } :: parts)
          { progress with rest := s, flags }
      | .withFlags inner => group inner progress.names s
      | .plain => group flags progress.names s
      | .named name =>
        if progress.names.contains name then none else group flags (name :: progress.names) s
    | '[' :: s => do
      let (part, s) ← readBracketed flags s
      go { pattern := .one part.chars, depth := part.depth } s
    | '.' :: s => (dot? flags).bind fun a => go { pattern := .one a } s
    | '^' :: s =>
      let condition := if flags.lines then .lineStart flags.carriageReturn else .textStart
      go { pattern := .anchor condition } s
    | '$' :: s =>
      let condition := if flags.lines then .lineEnd flags.carriageReturn else .textEnd
      go { pattern := .anchor condition } s
    | '\\' :: s => do
      let (item, s) ← readEscape flags s
      let pattern ← item.pattern? flags
      go { pattern } s
    | c :: s =>
      ((Primitive.literal c false).pattern? flags).bind fun pattern => go { pattern } s

/-- The greatest depth of nested parts. -/
def depthLimit : Nat :=
  250

/-- The pattern that a text writes down, if it takes no more than `limit` states. -/
def ofText? (limit : Nat) (s : String) : Option Pattern := do
  let (part, progress) ← readParts (s.toList.length + 1) [] []
    { rest := s.toList, flags := {}, names := [] }
  if progress.rest = [] ∧ part.depth ≤ depthLimit ∧ part.pattern.weight ≤ limit then
    return part.pattern
  else none

end TokenInventory.Pattern
