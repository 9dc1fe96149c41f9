/-!
# Numerals

A numeral is an optional plus sign followed by one or more decimal digits.  `numeral?` reads a
numeral whose value stays below a bound and refuses every other text; leading zeros do not matter.
-/

namespace BufferSync.Text

/-- The value of a decimal digit. -/
def digit? (c : Char) : Option Nat :=
  if '0' ≤ c ∧ c ≤ '9' then some (c.toNat - '0'.toNat) else none

/-- The value of decimal digits, continuing the number `n`. -/
def digits? (n : Nat) : List Char → Option Nat
  | [] => some n
  | c :: rest =>
    match digit? c with
    | some d => digits? (10 * n + d) rest
    | none => none

/-- The text behind a leading plus sign, or the whole text. -/
def dropPlus : List Char → List Char
  | '+' :: rest => rest
  | cs => cs

/-- The value of a numeral below `bound`. -/
def numeral? (bound : Nat) (cs : List Char) : Option Nat :=
  match dropPlus cs with
  | [] => none
  | c :: rest =>
    match digits? 0 (c :: rest) with
    | some n => if n < bound then some n else none
    | none => none

/-- The texts in front of and behind the first `c`. -/
def splitAtFirst? (c : Char) : List Char → Option (List Char × List Char)
  | [] => none
  | d :: rest =>
    if d = c then some ([], rest)
    else (splitAtFirst? c rest).map fun (before, behind) => (d :: before, behind)

example : numeral? 1000 ['+', '0', '4', '2'] = some 42 := by decide

example : numeral? 1000 ['+'] = none := by decide

end BufferSync.Text
