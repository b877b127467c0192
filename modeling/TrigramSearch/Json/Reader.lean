import TrigramSearch.Json.Value

/-!
# Reading JSON

The reader works on what is left of the text: each function takes the remaining characters and
returns a value with the characters after it, or the first error. Nesting is limited: an array or
object at depth 128 is refused.

Numbers are read without exact rounding. Digits are collected into a 64-bit significand until the
next one would overflow; the digits dropped from then on only count as powers of ten, and the
significand, as a binary64 number, is multiplied or divided by one rounded power of ten. The
result may differ from the nearest number in the last place.

## Main definitions

* `Json.ReadError`: everything that can be wrong with a text, with its message.
* `Json.read`: the value of a whole text.
-/

namespace TrigramSearch.Json

/-- Why a text is not JSON. -/
inductive ReadError where
  | endOfValue
  | endOfList
  | endOfObject
  | endOfString
  | expectedValue
  | expectedWord
  | expectedCommaOrBracket
  | expectedCommaOrBrace
  | expectedColon
  | keyNotString
  | trailingComma
  | trailingCharacters
  | invalidNumber
  | numberOutOfRange
  | invalidEscape
  | loneSurrogate
  | endOfHexEscape
  | controlCharacter
  | tooDeep
deriving DecidableEq, Inhabited

def ReadError.message : ReadError → String
  | endOfValue => "EOF while parsing a value"
  | endOfList => "EOF while parsing a list"
  | endOfObject => "EOF while parsing an object"
  | endOfString => "EOF while parsing a string"
  | expectedValue => "expected value"
  | expectedWord => "expected ident"
  | expectedCommaOrBracket => "expected `,` or `]`"
  | expectedCommaOrBrace => "expected `,` or `\x7d`"
  | expectedColon => "expected `:`"
  | keyNotString => "key must be a string"
  | trailingComma => "trailing comma"
  | trailingCharacters => "trailing characters"
  | invalidNumber => "invalid number"
  | numberOutOfRange => "number out of range"
  | invalidEscape => "invalid escape"
  | loneSurrogate => "lone leading surrogate in hex escape"
  | endOfHexEscape => "unexpected end of hex escape"
  | controlCharacter => "control character (\\u0000-\\u001F) found while parsing a string"
  | tooDeep => "recursion limit exceeded"

/-- A value together with the characters after it. -/
abbrev Step (α : Type) := Except ReadError (α × List Char)

def isSpace (c : Char) : Bool := c = ' ' || c = '\n' || c = '\t' || c = '\r'

def skipSpace (s : List Char) : List Char := s.dropWhile isSpace

/-! ## Numbers -/

def digit? (c : Char) : Option Nat :=
  if '0' ≤ c && c ≤ '9' then some (c.toNat - 48) else none

def isDigit (c : Char) : Bool := (digit? c).isSome

/-- Whether another digit still fits a significand of 64 bits. -/
def fits (significand digit : Nat) : Bool := significand * 10 + digit < 1 <<< 64

/-- `x * 10 ^ exponent`, step by step: a power of ten up to 308 is applied in one rounding, a
smaller exponent first divides by `10 ^ 308`. `none` when the result is too large. -/
def scaleByTen : Nat → Binary64 → Int → Option Binary64
  | 0, x, _ => some x
  | fuel + 1, x, exponent =>
    if exponent.natAbs ≤ 308 then
      let power := Binary64.ofDecimal false 1 exponent.natAbs
      if 0 ≤ exponent then
        let y := x.mul power
        if y.isInfinite then none else some y
      else some (x.div power)
    else if x.body = 0 then some x
    else if 0 ≤ exponent then none
    else scaleByTen fuel (x.div (Binary64.ofDecimal false 1 308)) (exponent + 308)

/-- The number `±significand * 10 ^ exponent`. -/
def floatOfParts (positive : Bool) (significand : Nat) (exponent : Int) (rest : List Char) :
    Step Number :=
  match scaleByTen (exponent.natAbs / 308 + 1) (Binary64.ofNat significand) exponent with
  | some x => .ok (.float (if positive then x else x.neg), rest)
  | none => .error .numberOutOfRange

/-- The digits of an exponent; `2^31` and more is beyond every number. -/
def exponentDigits (positive : Bool) (significand : Nat) (start : Int) (up : Bool) (e : Nat) :
    List Char → Step Number
  | [] => floatOfParts positive significand (if up then start + e else start - e) []
  | c :: rest =>
    match digit? c with
    | some d =>
      if e * 10 + d < 1 <<< 31 then exponentDigits positive significand start up (e * 10 + d) rest
      else if significand ≠ 0 && up then .error .numberOutOfRange
      else .ok (.float (Binary64.ofBody (!positive) 0), rest.dropWhile isDigit)
    | none => floatOfParts positive significand (if up then start + e else start - e) (c :: rest)

/-- An exponent after its letter: an optional sign, then at least one digit. -/
def exponentPart (positive : Bool) (significand : Nat) (start : Int) (s : List Char) :
    Step Number :=
  let (up, s) := match s with
    | '+' :: rest => (true, rest)
    | '-' :: rest => (false, rest)
    | _ => (true, s)
  match s with
  | [] => .error .endOfValue
  | c :: rest =>
    match digit? c with
    | some d => exponentDigits positive significand start up d rest
    | none => .error .invalidNumber

/-- An exponent, if one follows; then the number is complete. -/
def exponentOrEnd (positive : Bool) (significand : Nat) (start : Int) (s : List Char) :
    Step Number :=
  match s with
  | c :: rest =>
    if c = 'e' || c = 'E' then exponentPart positive significand start rest
    else floatOfParts positive significand start s
  | [] => floatOfParts positive significand start []

/-- The digits after the point, `count` of them read so far. -/
def fractionDigits (positive : Bool) (significand : Nat) (start : Int) (count : Nat) :
    List Char → Step Number
  | [] =>
    if count = 0 then .error .endOfValue
    else exponentOrEnd positive significand (start - count) []
  | c :: rest =>
    match digit? c with
    | some d =>
      if fits significand d then
        fractionDigits positive (significand * 10 + d) start (count + 1) rest
      else exponentOrEnd positive significand (start - count) (rest.dropWhile isDigit)
    | none =>
      if count = 0 then .error .invalidNumber
      else exponentOrEnd positive significand (start - count) (c :: rest)

/-- An integer whose significand is full: each further digit is a power of ten. -/
def longInteger (positive : Bool) (significand : Nat) (dropped : Nat) : List Char → Step Number
  | [] => floatOfParts positive significand dropped []
  | c :: rest =>
    if isDigit c then longInteger positive significand (dropped + 1) rest
    else if c = '.' then fractionDigits positive significand dropped 0 rest
    else exponentOrEnd positive significand dropped (c :: rest)

/-- An integer as it is kept: a negative one below `-2^63`, and the negative zero, are floats. -/
def integerOfParts (positive : Bool) (significand : Nat) : Number :=
  if positive then .integer significand
  else if significand = 0 || 1 <<< 63 < significand then .float (Binary64.ofNat significand).neg
  else .integer (-significand)

/-- What may follow the digits of an integer. -/
def afterInteger (positive : Bool) (significand : Nat) (s : List Char) : Step Number :=
  match s with
  | c :: rest =>
    if c = '.' then fractionDigits positive significand 0 0 rest
    else if c = 'e' || c = 'E' then exponentPart positive significand 0 rest
    else .ok (integerOfParts positive significand, s)
  | [] => .ok (integerOfParts positive significand, [])

def integerDigits (positive : Bool) (significand : Nat) : List Char → Step Number
  | [] => afterInteger positive significand []
  | c :: rest =>
    match digit? c with
    | some d =>
      if fits significand d then integerDigits positive (significand * 10 + d) rest
      else longInteger positive significand 0 (c :: rest)
    | none => afterInteger positive significand (c :: rest)

/-- A number after its sign; a leading zero stands alone. -/
def number (positive : Bool) (s : List Char) : Step Number :=
  match s with
  | [] => .error .endOfValue
  | c :: rest =>
    match digit? c with
    | none => .error .invalidNumber
    | some 0 =>
      match rest with
      | d :: _ => if isDigit d then .error .invalidNumber else afterInteger positive 0 rest
      | [] => afterInteger positive 0 []
    | some d => integerDigits positive d rest

/-! ## Strings -/

def hexDigit? (c : Char) : Option Nat :=
  if '0' ≤ c && c ≤ '9' then some (c.toNat - 48)
  else if 'a' ≤ c && c ≤ 'f' then some (c.toNat - 87)
  else if 'A' ≤ c && c ≤ 'F' then some (c.toNat - 55)
  else none

/-- Four hexadecimal digits. Fewer than four bytes before the end of the text are the end of the
string; four bytes that are not all digits are a wrong escape. -/
def hexFour (s : List Char) : Step Nat :=
  if (s.take 4).foldl (fun n c => n + c.utf8Size) 0 < 4 then .error .endOfString
  else
    match s with
    | a :: b :: c :: d :: rest =>
      match hexDigit? a, hexDigit? b, hexDigit? c, hexDigit? d with
      | some a, some b, some c, some d => .ok (((a * 16 + b) * 16 + c) * 16 + d, rest)
      | _, _, _, _ => .error .invalidEscape
    | _ => .error .invalidEscape

/-- A character given by its code units in hexadecimal; two units form a surrogate pair. -/
def hexEscape (s : List Char) : Step Char :=
  match hexFour s with
  | .error e => .error e
  | .ok (n, s) =>
    if 0xdc00 ≤ n && n ≤ 0xdfff then .error .loneSurrogate
    else if n < 0xd800 || 0xdbff < n then .ok (Char.ofNat n, s)
    else
      match s with
      | [] => .error .endOfString
      | '\\' :: [] => .error .endOfString
      | '\\' :: 'u' :: s =>
        match hexFour s with
        | .error e => .error e
        | .ok (m, s) =>
          if m < 0xdc00 || 0xdfff < m then .error .loneSurrogate
          else .ok (Char.ofNat (0x10000 + (n - 0xd800) * 1024 + (m - 0xdc00)), s)
      | _ => .error .endOfHexEscape

/-- An escape after its backslash. -/
def escape (s : List Char) : Step Char :=
  match s with
  | [] => .error .endOfString
  | c :: rest =>
    if c = '"' || c = '\\' || c = '/' then .ok (c, rest)
    else if c = 'b' then .ok (Char.ofNat 8, rest)
    else if c = 'f' then .ok (Char.ofNat 12, rest)
    else if c = 'n' then .ok ('\n', rest)
    else if c = 'r' then .ok ('\r', rest)
    else if c = 't' then .ok ('\t', rest)
    else if c = 'u' then hexEscape rest
    else .error .invalidEscape

/-- A string after its opening quote; `read` holds the characters read so far, in reverse. There
are no more steps than characters. -/
def stringBody : Nat → List Char → List Char → Step String
  | 0, _, _ => .error .endOfString
  | fuel + 1, read, s =>
    match s with
    | [] => .error .endOfString
    | c :: rest =>
      if c = '"' then .ok (String.ofList read.reverse, rest)
      else if c = '\\' then
        match escape rest with
        | .ok (e, rest) => stringBody fuel (e :: read) rest
        | .error e => .error e
      else if c.toNat < 32 then .error .controlCharacter
      else stringBody fuel (c :: read) rest

/-! ## Values -/

/-- The rest of a fixed word. -/
def word (v : Value) : List Char → List Char → Step Value
  | [], s => .ok (v, s)
  | _ :: _, [] => .error .endOfValue
  | w :: ws, c :: s => if c = w then word v ws s else .error .expectedWord

mutual

/-- A value, after blanks. The depth is the number of levels that may still be opened, plus
one. More than twice as many steps as characters are enough for all that is read here. -/
def value : Nat → Nat → List Char → Step Value
  | 0, _, _ => .error .tooDeep
  | fuel + 1, depth, s =>
    match skipSpace s with
    | [] => .error .endOfValue
    | c :: rest =>
      if c = 'n' then word .null ['u', 'l', 'l'] rest
      else if c = 't' then word (.bool true) ['r', 'u', 'e'] rest
      else if c = 'f' then word (.bool false) ['a', 'l', 's', 'e'] rest
      else if c = '-' then (number false rest).map fun (n, s) => (.number n, s)
      else if isDigit c then (number true (c :: rest)).map fun (n, s) => (.number n, s)
      else if c = '"' then (stringBody fuel [] rest).map fun (t, s) => (.string t, s)
      else if c = '[' then
        if depth ≤ 1 then .error .tooDeep
        else
          match skipSpace rest with
          | [] => .error .endOfList
          | c :: rest =>
            if c = ']' then .ok (.array [], rest) else items fuel (depth - 1) [] (c :: rest)
      else if c = '\x7b' then
        if depth ≤ 1 then .error .tooDeep
        else
          match skipSpace rest with
          | [] => .error .endOfObject
          | c :: rest =>
            if c = '\x7d' then .ok (.object [], rest)
            else members fuel (depth - 1) [] (c :: rest)
      else .error .expectedValue

/-- The items of an array up to its bracket; `read` holds those read so far, in reverse. -/
def items : Nat → Nat → List Value → List Char → Step Value
  | 0, _, _, _ => .error .tooDeep
  | fuel + 1, depth, read, s =>
    match value fuel depth s with
    | .error e => .error e
    | .ok (v, s) =>
      match skipSpace s with
      | [] => .error .endOfList
      | c :: rest =>
        if c = ']' then .ok (.array (v :: read).reverse, rest)
        else if c = ',' then
          match skipSpace rest with
          | [] => .error .endOfValue
          | c :: rest =>
            if c = ']' then .error .trailingComma
            else items fuel depth (v :: read) (c :: rest)
        else .error .expectedCommaOrBracket

/-- The members of an object up to its brace. -/
def members : Nat → Nat → List (String × Value) → List Char → Step Value
  | 0, _, _, _ => .error .tooDeep
  | fuel + 1, depth, read, s =>
    match s with
    | [] => .error .endOfValue
    | c :: rest =>
      if c = '"' then
        match stringBody fuel [] rest with
        | .error e => .error e
        | .ok (name, s) =>
          match skipSpace s with
          | [] => .error .endOfObject
          | c :: rest =>
            if c = ':' then
              match value fuel depth rest with
              | .error e => .error e
              | .ok (v, s) =>
                let read := Value.insertMember name v read
                match skipSpace s with
                | [] => .error .endOfObject
                | c :: rest =>
                  if c = '\x7d' then .ok (.object read, rest)
                  else if c = ',' then
                    match skipSpace rest with
                    | [] => .error .endOfValue
                    | c :: rest =>
                      if c = '\x7d' then .error .trailingComma
                      else members fuel depth read (c :: rest)
                  else .error .expectedCommaOrBrace
            else .error .expectedColon
      else .error .keyNotString

end

/-- How many levels of arrays and objects a text may have, plus one. -/
def depthLimit : Nat := 128

/-- The value of a whole text; blanks may stand around it. -/
def readChars (s : List Char) : Except ReadError Value :=
  match value (2 * s.length + 2) depthLimit s with
  | .error e => .error e
  | .ok (v, rest) => if (skipSpace rest).isEmpty then .ok v else .error .trailingCharacters

def read (text : String) : Except ReadError Value := readChars text.toList

end TrigramSearch.Json
