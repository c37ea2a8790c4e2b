import TokenInventory.Pattern.CharClass

/-!
# Patterns

A pattern describes texts: characters of a class one after the other, alternatives, repetitions and
conditions on the place within the text. A text fits if some part of it is described by the pattern.

`ends` computes with sets of places: from the places where a part may start, the places where it may
end. A repetition moves a set of places forward at most as many times as there are places, since
after that no further step changes the set. So whether a text fits is found without search.
-/

namespace TokenInventory

/-- What is asked of the words at a place. -/
inductive WordEdge
  | boundary
  | noBoundary
  | start
  | stop
  /-- No word goes on from before. -/
  | startHalf
  /-- No word goes on behind. -/
  | stopHalf
  deriving DecidableEq, Repr

/-- A condition on a place in a text. -/
inductive Anchor
  | textStart
  | textEnd
  /-- The start of a line; with `carriageReturn`, that character ends lines too. -/
  | lineStart (carriageReturn : Bool)
  | lineEnd (carriageReturn : Bool)
  /-- An edge of words made of all word characters, or of 7-bit ones only. -/
  | word (edge : WordEdge) (ascii : Bool)
  deriving DecidableEq, Repr

namespace Anchor

/-- Whether the condition holds between two characters, each absent at an end of the text. -/
def holds (anchor : Anchor) (before after : Option Char) : Bool :=
  match anchor with
  | textStart => before.isNone
  | textEnd => after.isNone
  | lineStart false => before.isNone || before == some '\n'
  | lineEnd false => after.isNone || after == some '\n'
  | lineStart true =>
    before.isNone || before == some '\n' || (before == some '\r' && after != some '\n')
  | lineEnd true =>
    after.isNone || after == some '\r' || (after == some '\n' && before != some '\r')
  | word edge ascii =>
    let isWord := if ascii then CharClass.isAsciiWord else CharClass.isWord
    let left := before.any isWord
    let right := after.any isWord
    match edge with
    | .boundary => left != right
    | .noBoundary => left == right
    | .start => !left && right
    | .stop => left && !right
    | .startHalf => !left
    | .stopHalf => !right

end Anchor

/-- A pattern. -/
inductive Pattern
  | empty
  | one (chars : CharClass)
  | anchor (condition : Anchor)
  | seq (p q : Pattern)
  | alt (p q : Pattern)
  /-- The pattern several times; without `most` there is no upper bound. -/
  | repeated (p : Pattern) (least : Nat) (most : Option Nat)

namespace Pattern

/-- A set of places in a text: for each place whether it is in the set. -/
abbrev Places : Type :=
  List Bool

/-- The characters before and after each place of a text. -/
def borders (before : Option Char) : List Char → List (Option Char × Option Char)
  | [] => [(before, none)]
  | c :: s => (before, some c) :: borders (some c) s

/-- The places after a character of the class, if the places before it are in the set. -/
def step (chars : CharClass) (s : List Char) (places : Places) : Places :=
  false :: List.zipWith (fun c isIn => isIn && chars.contains c) s places

/-- The places of either set. -/
def join (a b : Places) : Places :=
  List.zipWith (· || ·) a b

/-- Takes a step again and again, at most `count` times and no more once nothing changes. -/
def settle (f : Places → Places) : Nat → Places → Places
  | 0, places => places
  | count + 1, places =>
    let next := f places
    if next = places then places else settle f count next

/-- The places where the pattern may end if it starts at one of the given places. -/
def ends (s : List Char) : Pattern → Places → Places
  | empty, places => places
  | one chars, places => step chars s places
  | anchor condition, places =>
    List.zipWith (fun isIn border => isIn && condition.holds border.1 border.2) places
      (borders none s)
  | seq p q, places => q.ends s (p.ends s places)
  | alt p q, places => join (p.ends s places) (q.ends s places)
  | repeated p least most, places =>
    let bound := s.length + 1
    let begun := settle (p.ends s) (min least bound) places
    let further :=
      match most with
      | none => bound
      | some most => min (most - least) bound
    settle (fun reached => join reached (p.ends s reached)) further begun

/-- Whether some part of a text is described by the pattern. -/
def fits (p : Pattern) (s : String) : Bool :=
  (p.ends s.toList (List.replicate (s.toList.length + 1) true)).any id

/-- About how many states the pattern takes when it is compiled. -/
def weight : Pattern → Nat
  | empty => 1
  | one chars => chars.weight
  | anchor _ => 1
  | seq p q => p.weight + q.weight
  | alt p q => p.weight + q.weight + 1
  | repeated p least none => p.weight * max least 1 + 1
  | repeated p least (some most) => p.weight * max least most + (most - least) + 1

end Pattern

end TokenInventory
