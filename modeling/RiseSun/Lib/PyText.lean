/-
  `int(text, base)`: the integer literals a Python program accepts from text.

  The parser works on normalised characters: every decimal digit of any script becomes its ASCII
  digit and every non-ASCII space becomes a blank, anything else outside ASCII becomes `?`.  Then

    * blanks are stripped on both sides, and one sign may stand in front;
    * in base 16 a `0x`/`0X` may follow, with one underscore after it;
    * the rest is digits of the base, single underscores allowed between two of them.

  In base 10 a literal of more than 4300 digits is refused.

  Beside it what such a program does to text before it looks at it (`strip`, `isDigit`, `padded`).
-/
import Mathlib.Data.List.Basic
import Mathlib.Data.List.DropRight

namespace RiseSun.PyText

/-- Where each run of ten decimal digits starts in Unicode, outside ASCII. -/
def decimalZeros : List Nat :=
  [0x660, 0x6f0, 0x7c0, 0x966, 0x9e6, 0xa66, 0xae6, 0xb66, 0xbe6, 0xc66, 0xce6, 0xd66, 0xde6,
   0xe50, 0xed0, 0xf20, 0x1040, 0x1090, 0x17e0, 0x1810, 0x1946, 0x19d0, 0x1a80, 0x1a90, 0x1b50,
   0x1bb0, 0x1c40, 0x1c50, 0xa620, 0xa8d0, 0xa900, 0xa9d0, 0xa9f0, 0xaa50, 0xabf0, 0xff10,
   0x104a0, 0x10d30, 0x11066, 0x110f0, 0x11136, 0x111d0, 0x112f0, 0x11450, 0x114d0, 0x11650,
   0x116c0, 0x11730, 0x118e0, 0x11950, 0x11c50, 0x11d50, 0x11da0, 0x16a60, 0x16ac0, 0x16b50,
   0x1d7ce, 0x1d7d8, 0x1d7e2, 0x1d7ec, 0x1d7f6, 0x1e140, 0x1e2f0, 0x1e950, 0x1fbf0]

/-- The spaces outside ASCII. -/
def unicodeSpaces : List Nat :=
  [0x85, 0xa0, 0x1680, 0x2000, 0x2001, 0x2002, 0x2003, 0x2004, 0x2005, 0x2006, 0x2007, 0x2008,
   0x2009, 0x200a, 0x2028, 0x2029, 0x202f, 0x205f, 0x3000]

/-- One character in its ASCII form. -/
def normalize (c : Char) : Char :=
  if c.toNat < 127 then c
  else if c.toNat ∈ unicodeSpaces then ' '
  else match decimalZeros.find? (fun z => z ≤ c.toNat && c.toNat < z + 10) with
    | some z => Char.ofNat ('0'.toNat + (c.toNat - z))
    | none => '?'

def isBlank (c : Char) : Bool := c.toNat == 32 || (9 ≤ c.toNat && c.toNat ≤ 13)

/-- The value of a digit or letter, `none` for any other character. -/
def digitValue (c : Char) : Option Nat :=
  if '0'.toNat ≤ c.toNat && c.toNat ≤ '9'.toNat then some (c.toNat - '0'.toNat)
  else if 'a'.toNat ≤ c.toNat && c.toNat ≤ 'z'.toNat then some (c.toNat - 'a'.toNat + 10)
  else if 'A'.toNat ≤ c.toNat && c.toNat ≤ 'Z'.toNat then some (c.toNat - 'A'.toNat + 10)
  else none

def baseDigit (base : Nat) (c : Char) : Option Nat :=
  (digitValue c).filter (· < base)

/-- The digits after the first one, collected in order; an underscore only between two digits. -/
def moreDigits (base : Nat) : List Char → Option (List Nat)
  | [] => some []
  | '_' :: c :: cs => do
    let d ← baseDigit base c
    let ds ← moreDigits base cs
    pure (d :: ds)
  | c :: cs => do
    let d ← baseDigit base c
    let ds ← moreDigits base cs
    pure (d :: ds)

/-- A non-empty digit string that does not start with an underscore. -/
def digits (base : Nat) : List Char → Option (List Nat)
  | [] => none
  | c :: cs => do
    let d ← baseDigit base c
    let ds ← moreDigits base cs
    pure (d :: ds)

/-- What stands after the sign: an optional base prefix, then the digits. -/
def unsignedInt (base : Nat) (cs : List Char) : Option Nat :=
  let body := match base, cs with
    | 16, '0' :: 'x' :: '_' :: rest => rest
    | 16, '0' :: 'X' :: '_' :: rest => rest
    | 16, '0' :: 'x' :: rest => rest
    | 16, '0' :: 'X' :: rest => rest
    | _, cs => cs
  (digits base body).bind fun ds =>
    if base = 10 ∧ 4300 < ds.length then none
    else some (ds.foldl (fun acc d => acc * base + d) 0)

/-- `int(text, base)`; `none` is the `ValueError`. -/
def pyInt (base : Nat) (text : String) : Option Int :=
  let cs := ((text.toList.map normalize).dropWhile isBlank).reverse.dropWhile isBlank |>.reverse
  match cs with
  | '-' :: rest => (unsignedInt base rest).map fun n => -(n : Int)
  | '+' :: rest => (unsignedInt base rest).map fun n => (n : Int)
  | rest => (unsignedInt base rest).map fun n => (n : Int)

/-- `c.isspace()`. -/
def isSpace (c : Char) : Bool :=
  (9 ≤ c.toNat && c.toNat ≤ 13) || (28 ≤ c.toNat && c.toNat ≤ 32) || c.toNat ∈ unicodeSpaces

/-- `text.strip()`. -/
def strip (text : List Char) : List Char := (text.dropWhile isSpace).rdropWhile isSpace

/-- The runs of characters that are digits but not decimal ones: superscripts, circled digits and
    the like, as first and last code point. -/
def digitRuns : List (Nat × Nat) :=
  [(0xb2, 0xb3), (0xb9, 0xb9), (0x1369, 0x1371), (0x19da, 0x19da), (0x2070, 0x2070),
   (0x2074, 0x2079), (0x2080, 0x2089), (0x2460, 0x2468), (0x2474, 0x247c), (0x2488, 0x2490),
   (0x24ea, 0x24ea), (0x24f5, 0x24fd), (0x24ff, 0x24ff), (0x2776, 0x277e), (0x2780, 0x2788),
   (0x278a, 0x2792), (0x10a40, 0x10a43), (0x10e60, 0x10e68), (0x11052, 0x1105a),
   (0x1f100, 0x1f10a)]

/-- `text.isdigit()`: not empty, and digits of any script only. -/
def isDigit (text : String) : Bool :=
  text ≠ "" ∧ text.toList.all fun c =>
    (('0'.toNat ≤ c.toNat && c.toNat ≤ '9'.toNat) ||
      decimalZeros.any (fun z => z ≤ c.toNat && c.toNat < z + 10)) ||
      digitRuns.any fun run => run.1 ≤ c.toNat && c.toNat ≤ run.2

/-- `text[-n:]` for `n > 0`. -/
def lastChars (n : Nat) (text : String) : String :=
  String.ofList (text.toList.drop (text.toList.length - n))

/-- `f"{n:05d}"` for a number that is not negative. -/
def padded (width : Nat) (n : Nat) : String :=
  String.ofList (List.replicate (width - (toString n).toList.length) '0') ++ toString n

example : pyInt 10 " 00200\n" = some 200 := by decide
example : pyInt 16 "0x_1f" = some 31 := by decide
example : pyInt 10 "1_000" = some 1000 := by decide
example : pyInt 10 "3ef23" = none := by decide

end RiseSun.PyText
