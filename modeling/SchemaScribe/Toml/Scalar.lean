/-!
# Bare scalars

What is written without quotes is a truth value, a number or a date. Numbers and dates are only
recognised here; nothing in this library computes with them.
-/
namespace SchemaScribe.Toml

/-- Characters of bare scalars. -/
def isScalarChar (c : Char) : Bool :=
  c.isAlphanum || c = '_' || c = '+' || c = '-' || c = '.' || c = ':'

/-- Digits with single underscores between them. -/
def isDigitRun (digit : Char → Bool) : List Char → Bool
  | [] => false
  | [c] => digit c
  | c :: '_' :: rest => digit c && isDigitRun digit rest
  | c :: rest => digit c && isDigitRun digit rest

def isHexDigit (c : Char) : Bool := c.isDigit || ('a' ≤ c && c ≤ 'f') || ('A' ≤ c && c ≤ 'F')

def isOctalDigit (c : Char) : Bool := '0' ≤ c && c ≤ '7'

def isBinaryDigit (c : Char) : Bool := c = '0' || c = '1'

/-- Drops one sign. -/
def dropSign : List Char → List Char
  | '+' :: rest => rest
  | '-' :: rest => rest
  | cs => cs

/-- Decimal digits without a leading zero. -/
def isDecimal (cs : List Char) : Bool :=
  isDigitRun Char.isDigit cs && (cs.length = 1 || cs.head? ≠ some '0')

def isInteger (cs : List Char) : Bool :=
  match cs with
  | '0' :: 'x' :: rest => isDigitRun isHexDigit rest
  | '0' :: 'o' :: rest => isDigitRun isOctalDigit rest
  | '0' :: 'b' :: rest => isDigitRun isBinaryDigit rest
  | _ => isDecimal (dropSign cs)

/-- An exponent, after its mark. -/
def isExponent (cs : List Char) : Bool := isDigitRun Char.isDigit (dropSign cs)

/-- The text before the first character of a class, and what follows that character. -/
def splitAtMark (isMark : Char → Bool) (cs : List Char) : List Char × Option (List Char) :=
  (cs.takeWhile (!isMark ·), (cs.dropWhile (!isMark ·)).tail?)

def isFloat (cs : List Char) : Bool :=
  let (mantissa, exponent?) := splitAtMark (fun c => c = 'e' || c = 'E') (dropSign cs)
  let (whole, fraction?) := splitAtMark (· = '.') mantissa
  let special := dropSign cs = ['i', 'n', 'f'] || dropSign cs = ['n', 'a', 'n']
  special ||
    (isDecimal whole && (fraction?.map (isDigitRun Char.isDigit)).getD true &&
      (exponent?.map isExponent).getD true && (fraction?.isSome || exponent?.isSome))

/-- A number of two digits up to a bound, at the head of a text, and what follows. -/
def twoDigits? (low high : Nat) : List Char → Option (Nat × List Char)
  | a :: b :: rest =>
      let n := 10 * (a.toNat - '0'.toNat) + (b.toNat - '0'.toNat)
      if a.isDigit && b.isDigit && low ≤ n && n ≤ high then some (n, rest) else none
  | _ => none

/-- What follows a character at the head of a text. -/
def afterChar? (c : Char) : List Char → Option (List Char)
  | d :: rest => if d = c then some rest else none
  | [] => none

def daysInMonth (leap : Bool) (month : Nat) : Nat :=
  if month = 2 then (if leap then 29 else 28)
  else if month = 4 || month = 6 || month = 9 || month = 11 then 30
  else 31

/-- What follows a date. -/
def afterDate? (cs : List Char) : Option (List Char) := do
  let (century, rest) ← twoDigits? 0 99 cs
  let (year, rest) ← twoDigits? 0 99 rest
  let (month, rest) ← afterChar? '-' rest >>= twoDigits? 1 12
  let year := 100 * century + year
  let leap := year % 4 = 0 && (year % 100 ≠ 0 || year % 400 = 0)
  let (_, rest) ← afterChar? '-' rest >>= twoDigits? 1 (daysInMonth leap month)
  some rest

/-- What follows a time of day; seconds and their fraction may be missing. -/
def afterTime? (cs : List Char) : Option (List Char) := do
  let (_, rest) ← twoDigits? 0 23 cs
  let (_, rest) ← afterChar? ':' rest >>= twoDigits? 0 59
  match afterChar? ':' rest with
  | none => some rest
  | some rest =>
      let (_, rest) ← twoDigits? 0 60 rest
      match afterChar? '.' rest with
      | none => some rest
      | some rest =>
          if (rest.takeWhile Char.isDigit).isEmpty then none
          else some (rest.dropWhile Char.isDigit)

/-- A shift against universal time. -/
def isZone : List Char → Bool
  | ['Z'] | ['z'] => true
  | '+' :: rest | '-' :: rest =>
      (do let (_, rest) ← twoDigits? 0 23 rest
          let (_, rest) ← afterChar? ':' rest >>= twoDigits? 0 59
          some rest) == some []
  | _ => false

/-- A time of day with an optional zone. -/
def isZonedTime (cs : List Char) : Bool :=
  match afterTime? cs with
  | some rest => rest = [] || isZone rest
  | none => false

/-- A date, a time of day, or both. -/
def isMoment (cs : List Char) : Bool :=
  match afterDate? cs with
  | some [] => true
  | some (c :: rest) => (c = 'T' || c = 't' || c = ' ') && isZonedTime rest
  | none => afterTime? cs == some []

/-- A number or a date. -/
def isNumberOrDate (cs : List Char) : Bool := isInteger cs || isFloat cs || isMoment cs

/-- A bare scalar at the head of a text, and what follows. A blank joins a date and a time. -/
def splitScalar (cs : List Char) : List Char × List Char :=
  let word := cs.takeWhile isScalarChar
  let rest := cs.dropWhile isScalarChar
  match rest with
  | ' ' :: more =>
      if afterDate? word == some [] && (more.head?.map Char.isDigit).getD false then
        (word ++ ' ' :: more.takeWhile isScalarChar, more.dropWhile isScalarChar)
      else (word, rest)
  | _ => (word, rest)

end SchemaScribe.Toml
