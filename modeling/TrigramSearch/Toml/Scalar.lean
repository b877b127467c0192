import TrigramSearch.Toml.Node
import TrigramSearch.Json.Reader

/-!
# Numbers, dates and words of TOML

A value that is no string and no collection is one token, which is an integer, a number with a
fraction or an exponent, a date or a time, or one of a few words. Single underscores may stand
between digits.
-/

namespace TrigramSearch.Toml

/-- The digits of a text in which single underscores may stand between digits. -/
def digitsOf? (isDigit : Char → Bool) : List Char → Option (List Char)
  | [] => none
  | [c] => if isDigit c then some [c] else none
  | c :: '_' :: rest => if isDigit c then (digitsOf? isDigit rest).map (c :: ·) else none
  | c :: rest => if isDigit c then (digitsOf? isDigit rest).map (c :: ·) else none

def valueOf (base : Nat) (ds : List Char) : Nat :=
  ds.foldl (fun n c => n * base + (Json.hexDigit? c).getD 0) 0

/-- A number that has to fit 64 bits with a sign. -/
def integerNode? (negative : Bool) (n : Nat) : Option Node :=
  if negative then
    if n ≤ 1 <<< 63 then some (.integer (-(n : Int))) else none
  else if n < 1 <<< 63 then some (.integer n) else none

/-- A sign in front of a token. -/
def splitSign : List Char → Bool × List Char
  | '-' :: rest => (true, rest)
  | '+' :: rest => (false, rest)
  | s => (false, s)

/-- Decimal digits without a leading zero. -/
def decimalDigits? (s : List Char) : Option (List Char) :=
  match digitsOf? Char.isDigit s with
  | some ('0' :: _ :: _) => none
  | ds => ds

def isOctal (c : Char) : Bool := '0' ≤ c && c ≤ '7'

def isBinary (c : Char) : Bool := c = '0' || c = '1'

def isHex (c : Char) : Bool := (Json.hexDigit? c).isSome

/-- An integer: decimal, or with a mark for another base and without a sign. -/
def integer? (s : List Char) : Option Node :=
  match s with
  | '0' :: 'x' :: ds => (digitsOf? isHex ds).bind fun ds => integerNode? false (valueOf 16 ds)
  | '0' :: 'o' :: ds => (digitsOf? isOctal ds).bind fun ds => integerNode? false (valueOf 8 ds)
  | '0' :: 'b' :: ds => (digitsOf? isBinary ds).bind fun ds => integerNode? false (valueOf 2 ds)
  | _ =>
    let (negative, s) := splitSign s
    (decimalDigits? s).bind fun ds => integerNode? negative (valueOf 10 ds)

/-- The number `±whole.part * 10 ^ exponent`; it may not be too large. -/
def floatNode? (negative : Bool) (whole part : List Char) (exponent : Int) : Option Node :=
  let x := Binary64.ofDecimal negative (valueOf 10 (whole ++ part)) (exponent - part.length)
  if x = Binary64.infinity then none else some (.float x)

/-- An exponent; its digits may begin with zeros. -/
def exponent? (s : List Char) : Option Int :=
  let (negative, s) := splitSign s
  (digitsOf? Char.isDigit s).map fun ds =>
    let n := valueOf 10 ds
    if negative then -(n : Int) else n

/-- A number with a fraction or an exponent, or one of the words for other numbers. -/
def float? (s : List Char) : Option Node :=
  let (negative, s) := splitSign s
  let signed (x : Binary64) : Binary64 := if negative then x.neg else x
  if s = ['i', 'n', 'f'] then some (.float (signed Binary64.infinity))
  else if s = ['n', 'a', 'n'] then some (.float (signed Binary64.nan))
  else
    let isMark (c : Char) : Bool := c = 'e' || c = 'E'
    let mantissa := s.takeWhile (!isMark ·)
    let power := s.dropWhile (!isMark ·)
    let whole := mantissa.takeWhile (· != '.')
    let fraction := mantissa.dropWhile (· != '.')
    match decimalDigits? whole, fraction, power with
    | some ws, [], _ :: e => (exponent? e).bind fun e => floatNode? negative ws [] e
    | some ws, _ :: ps, [] => (digitsOf? Char.isDigit ps).bind fun ps => floatNode? negative ws ps 0
    | some ws, _ :: ps, _ :: e =>
      (digitsOf? Char.isDigit ps).bind fun ps =>
        (exponent? e).bind fun e => floatNode? negative ws ps e
    | _, _, _ => none

/-! ## Dates and times -/

/-- Two digits, up to a limit. -/
def twoDigits? (limit : Nat) (a b : Char) : Option Nat :=
  if a.isDigit && b.isDigit then
    let n := valueOf 10 [a, b]
    if n ≤ limit then some n else none
  else none

def daysOfMonth (year month : Nat) : Nat :=
  if month = 2 then
    if year % 4 = 0 && (year % 100 ≠ 0 || year % 400 = 0) then 29 else 28
  else if month = 4 || month = 6 || month = 9 || month = 11 then 30
  else 31

/-- What follows a date at the beginning of a token. -/
def afterDate? (s : List Char) : Option (List Char) :=
  match s with
  | y1 :: y2 :: y3 :: y4 :: '-' :: m1 :: m2 :: '-' :: d1 :: d2 :: rest =>
    if [y1, y2, y3, y4].all Char.isDigit then
      match twoDigits? 12 m1 m2, twoDigits? 31 d1 d2 with
      | some m, some d =>
        if 1 ≤ m && 1 ≤ d && d ≤ daysOfMonth (valueOf 10 [y1, y2, y3, y4]) m then some rest
        else none
      | _, _ => none
    else none
  | _ => none

/-- What follows a time at the beginning of a token. -/
def afterTime? (s : List Char) : Option (List Char) :=
  match s with
  | h1 :: h2 :: ':' :: m1 :: m2 :: ':' :: s1 :: s2 :: rest =>
    if (twoDigits? 23 h1 h2).isSome && (twoDigits? 59 m1 m2).isSome && (twoDigits? 60 s1 s2).isSome
    then
      match rest with
      | '.' :: c :: rest => if c.isDigit then some (rest.dropWhile Char.isDigit) else none
      | '.' :: [] => none
      | rest => some rest
    else none
  | _ => none

/-- An offset to universal time, or nothing. -/
def isOffset (s : List Char) : Bool :=
  match s with
  | [] => true
  | ['Z'] => true
  | ['z'] => true
  | [sign, h1, h2, ':', m1, m2] =>
    (sign = '+' || sign = '-') && (twoDigits? 23 h1 h2).isSome && (twoDigits? 59 m1 m2).isSome
  | _ => false

/-- Whether a token is a date, a time, or a date with a time. -/
def isDatetime (s : List Char) : Bool :=
  match afterDate? s with
  | some [] => true
  | some (c :: rest) =>
    (c = 'T' || c = 't' || c = ' ') && (afterTime? rest).any isOffset
  | none => (afterTime? s).any List.isEmpty

def isTokenChar (c : Char) : Bool :=
  c.isAlphanum || c = '+' || c = '-' || c = '_' || c = '.' || c = ':'

/-- The token at the beginning of a text. A blank belongs to it between a date and a time. -/
def splitToken (s : List Char) : List Char × List Char :=
  let token := s.takeWhile isTokenChar
  let rest := s.dropWhile isTokenChar
  match afterDate? token, rest with
  | some [], ' ' :: c :: more =>
    if c.isDigit then
      (token ++ ' ' :: (c :: more).takeWhile isTokenChar, (c :: more).dropWhile isTokenChar)
    else (token, rest)
  | _, _ => (token, rest)

/-- The value of a token. -/
def scalar? (token : List Char) : Option Node :=
  if token = ['t', 'r', 'u', 'e'] then some (.boolean true)
  else if token = ['f', 'a', 'l', 's', 'e'] then some (.boolean false)
  else if isDatetime token then some .datetime
  else
    match float? token with
    | some n => some n
    | none => integer? token

end TrigramSearch.Toml
