import TokenInventory.Yaml.Writer

/-!
# Places in a YAML text

A cursor is what is left of a text, with the line and the column where it starts. Line ends of any
kind are read as line feeds, except for the two separators that stand for themselves.
-/

namespace TokenInventory.Yaml

/-- A place in a text. -/
structure Cursor where
  rest : List Char
  /-- The number of characters before. -/
  index : Nat := 0
  line : Nat := 0
  column : Nat := 0

namespace Cursor

/-- The next character. -/
def peek (c : Cursor) : Option Char :=
  c.rest.head?

/-- The character at a distance from the place. -/
def peekAt (c : Cursor) (distance : Nat) : Option Char :=
  c.rest[distance]?

/-- The place some characters further on the same line. -/
def skip (c : Cursor) (count : Nat) : Cursor :=
  { c with rest := c.rest.drop count, index := c.index + count, column := c.column + count }

/-- The characters from here on that satisfy `p`, none of which ends a line, and
the place behind. -/
def span (p : Char → Bool) (c : Cursor) : List Char × Cursor :=
  let taken := c.rest.takeWhile p
  (taken, c.skip taken.length)

/-- The place behind the characters that satisfy `p`, none of which ends a line. -/
def skipWhile (p : Char → Bool) (c : Cursor) : Cursor :=
  (c.span p).2

/-- The place at the start of the next line, with `count` characters between. -/
def nextLine (c : Cursor) (count : Nat) : Cursor :=
  { rest := c.rest.drop count, index := c.index + count, line := c.line + 1, column := 0 }

/-- Reads a line end, if one is here. -/
def readBreak (c : Cursor) : List Char × Cursor :=
  match c.rest with
  | '\r' :: '\n' :: _ => (['\n'], c.nextLine 2)
  | d :: _ =>
    if d = '\u2028' || d = '\u2029' then ([d], c.nextLine 1)
    else if isBreak d then (['\n'], c.nextLine 1)
    else ([], c)
  | [] => ([], c)

/-- Whether a line ends here. -/
def atBreak (c : Cursor) : Bool :=
  c.peek.any isBreak

/-- Whether a line or the text ends here. -/
def atLineEnd (c : Cursor) : Bool :=
  c.peek.all isBreak

/-- Whether a blank is here. -/
def atBlank (c : Cursor) : Bool :=
  c.peek == some ' ' || c.peek == some '\t'

/-- Whether a blank, a line end or the end of the text is at a distance. -/
def blankAt (c : Cursor) (distance : Nat) : Bool :=
  (c.peekAt distance).all isBlankOrBreak

/-- Whether three marks that begin or end a document stand at the start of a line. -/
def atDocumentMark (mark : Char) (c : Cursor) : Bool :=
  c.column == 0 && c.rest.take 3 == [mark, mark, mark] && c.blankAt 3

end Cursor

/-- A blank within a line. -/
def isInlineBlank (c : Char) : Bool :=
  c = ' ' || c = '\t'

/-- Blanks and line ends inside a scalar, as far as they have been read. -/
structure Gap where
  /-- The blanks before the first line end. -/
  blanks : List Char := []
  firstBreak : List Char := []
  furtherBreaks : List Char := []
  /-- Whether a line end has been read. -/
  isBroken : Bool := false

namespace Gap

/-- What a gap stands for: its blanks, or one space for one line end, or the line ends after the
first. -/
def text (g : Gap) : List Char :=
  if g.isBroken then
    if g.firstBreak.head? = some '\n' then
      if g.furtherBreaks = [] then [' '] else g.furtherBreaks
    else g.firstBreak ++ g.furtherBreaks
  else g.blanks

/-- Whether there is nothing in the gap. -/
def isEmpty (g : Gap) : Bool :=
  !g.isBroken && g.blanks.isEmpty

/-- The gap with a line end added. -/
def addBreak (g : Gap) (lineEnd : List Char) : Gap :=
  if g.isBroken then { g with furtherBreaks := g.furtherBreaks ++ lineEnd }
  else { g with blanks := [], firstBreak := lineEnd, isBroken := true }

/-- Reads blanks and line ends. With `indent`, no tab may stand before that column on a new line. -/
def read (indent : Option Nat) : Nat → Gap → Cursor → Option (Gap × Cursor)
  | 0, g, c => some (g, c)
  | fuel + 1, g, c =>
    if c.atBlank then
      if g.isBroken && c.peek == some '\t' && indent.any (c.column < ·) then none
      else if g.isBroken then read indent fuel g (c.skip 1)
      else read indent fuel { g with blanks := g.blanks ++ c.rest.take 1 } (c.skip 1)
    else if c.atBreak then
      let (lineEnd, c) := c.readBreak
      read indent fuel (g.addBreak lineEnd) c
    else some (g, c)

end Gap

end TokenInventory.Yaml
