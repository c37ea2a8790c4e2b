import TokenInventory.Unicode.Packed

/-!
# Simple case folding

Two characters differ only in their case if they have the same folding. Folding takes a capital to
its small letter, mostly at a fixed distance from it, or next to it where capitals and small letters
alternate.
-/

namespace TokenInventory.Unicode

/-- How characters fold, in runs: `X` stands for themselves, `E` and `O` for the next character if
the code point is even or odd, and a sign and a number for the character at that distance. -/
def foldingRuns : Runs :=
  Runs.unpack
    "0X 41+20 1aX 5a+307 1X a+20 17X 1+20 7X 21E 30X 2E 6X 1O 10X 1E 2e-79 1O 6-10c 1X 1+d2
     1E 4+ce 1O 2+cd 2O 2X 1+4f 1+ca 1+cb 1O 2+cd 1+cf 1X 1+d3 1+d1 1E 2X 2+d3 1+d5 1X 1+d6
     1E 6+da 1O 2+da 1X 2E 2+da 1O 2+d9 2O 4+db 1E 2X 2E 2X 6+2 1O 2+2 1E 2+2 1O 12X 1E 12X
     1+2 1E 4-61 1-38 1E 28-82 1X 1E 12X 6+2a2b 1O 2-a3 1+2a28 1X 2O 2-c3 1+45 1+47 1E aX
     f5+74 1X 2aE 4X 2E 2X 7+74 1X 6+26 1X 1+25 3X 1+40 1X 1+3f 2X 1+20 11X 1+20 9X 16E 2X
     b+8 1-1e 1-19 1X 3-f 1-16 1X 1E 18-36 1-30 1X 2-3c 1-40 1X 1O 2-7 1E 2X 1-82 3+50 10+20
     20X 30E 22X 8E 36+f 1O eX 1E 60X 1+30 26X b49+1c60 26X 1+1c60 1X 5+1c60 1X 32a-8 6X
     882-184e 1-184d 1-1844 1-1842 2-1843 1-183c 1-1824 1+89c3 1X 7-bc0 2bX 2-bc0 3X 140E 96X
     5-3a 1X 2-1dbf 1X 1E 60X 8-8 8X 8-8 6X a-8 8X 8-8 8X 8-8 6X b-8 1X 1-8 1X 1-8 1X 1-8 1X
     8-8 8X 18-8 8X 8-8 8X 8-8 8X 8-8 2-4a 2-9 1X 1-1c05 1X 9-56 4-9 1X b-8 2-64 2X c-8 2-70
     2-7 1X b-80 2-7e 2-9 1X 129-1d5d 1X 3-20bf 1-2046 1X 6+1c 1X 2d+10 10X 13O 2X 331+1a 1aX
     730+30 30X 30E 2-29f7 1-ee6 1-29e7 1X 2O 6-2a1c 1-29fd 1-2a1f 1-2a1e 1X 1E 2X 1O 2X
     7-2a3f 2E 64X 7O 4X 3E 2X 794cE 2eX 12E 1cX 86E eX 2E 3eX 9O 4-8a04 1E aX 3O 2-a528 1X
     2E 4X 2E 14-a544 1-a54f 1-a54b 1-a541 1-a544 1X 1-a512 1-a52a 1-a515 1+3a0 1E 10-30
     1-a543 1-8a38 1O 4X 5E 2X 4E 4X 1bO 2X 379-97d0 50X 5361+20 1aX 4c5+28 28X 88+28 24X
     9c+27 bX 1+27 fX 1+27 7X 1+27 2X 6ea+40 33X bed+20 20X 5580+20 20X 7aa0+22 22X"

/-- The folding of the code point of a character whose run has the given label. -/
def foldedBy (n : Nat) (label : List Char) : Nat :=
  match label with
  | ['E'] => if n % 2 = 0 then n + 1 else n
  | ['O'] => if n % 2 = 1 then n + 1 else n
  | '+' :: distance => n + hexNumber distance
  | '-' :: distance => n - hexNumber distance
  | _ => n

/-- The folding of a character. -/
def folding (c : Char) : Char :=
  Char.ofNat (foldedBy c.toNat (Runs.labelAt c "X" foldingRuns).toList)

/-- The code points that may fold to something else, in spans. -/
def foldingSpans : Runs → Spans
  | (first, label) :: (next, after) :: runs =>
    if label = "X" then foldingSpans ((next, after) :: runs)
    else (first, next - 1) :: foldingSpans ((next, after) :: runs)
  | _ => []

/-- All characters that fold to something else, each with its folding. -/
def foldings : List (Char × Char) :=
  (foldingSpans foldingRuns).flatMap fun (first, last) =>
    (List.range (last + 1 - first)).filterMap fun i =>
      let c := Char.ofNat (first + i)
      if folding c = c then none else some (c, folding c)

/-- The characters that differ from the given one at most in case. -/
def caseVariants (c : Char) : List Char :=
  let target := folding c
  target :: (foldings.filter fun row => row.2 = target).map Prod.fst

end TokenInventory.Unicode
