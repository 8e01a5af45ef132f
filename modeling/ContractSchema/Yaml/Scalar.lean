import ContractSchema.Json.Double

/-!
# YAML scalars

A text is written plainly if a reader of YAML takes it for that text again. It is
written between single quotes if it would be taken for something else, such as a
number or a truth value, or if it contains a mark with a meaning of its own. It is
written between double quotes if it contains characters which need an escape, and as
a literal block if it has several lines.

* `ContractSchema.Yaml.isResolved` says whether a plain text would be taken for a null, a
  truth value or a number.
* `ContractSchema.Yaml.Shape.ofChars` collects what matters about the characters of a text.
* `ContractSchema.Yaml.style` chooses the style of a text.
* `ContractSchema.Yaml.scalar` writes a text in its style.
-/

namespace ContractSchema.Yaml

/-! ### Texts taken for something else -/

/-- The words which some readers take for truth values. -/
def switchWords : List String :=
  ["y", "Y", "yes", "Yes", "YES", "n", "N", "no", "No", "NO", "true", "True", "TRUE",
    "false", "False", "FALSE", "on", "On", "ON", "off", "Off", "OFF"]

/-- The words for a missing value, the empty text among them. -/
def nullWords : List String := ["", "null", "Null", "NULL", "~"]

/-- The words for numbers which are infinite or undefined. -/
def specialNumbers : List String :=
  [".inf", ".Inf", ".INF", "+.inf", "+.Inf", "+.INF", "-.inf", "-.Inf", "-.INF",
    ".nan", ".NaN", ".NAN"]

/-- Whether a character is a decimal digit. -/
def isDigit (c : Char) : Bool :=
  48 ≤ c.toNat && c.toNat ≤ 57

/-- The value of a digit in any base up to sixteen. -/
def digitValue? (c : Char) : Option Nat :=
  let n := c.toNat
  if isDigit c then some (n - 48)
  else if 97 ≤ n ∧ n ≤ 102 then some (n - 87)
  else if 65 ≤ n ∧ n ≤ 70 then some (n - 55)
  else none

/-- The number that digits of a base stand for, at least one digit being there. -/
def readBase? (base : Nat) : List Char → Option Nat
  | [] => none
  | digits => digits.foldlM (fun n c => do
      let value ← digitValue? c
      if value < base then some (base * n + value) else none) 0

/-- The base that stands behind the leading zero of a number, and the digits that follow. -/
def baseDigits? : List Char → Option (Nat × List Char)
  | '0' :: 'x' :: digits => some (16, digits)
  | '0' :: 'o' :: digits => some (8, digits)
  | '0' :: 'b' :: digits => some (2, digits)
  | _ => none

/-- Whether a text without sign is an integer in base 16, 8 or 2 up to the limit. -/
def isBased (limit : Nat) (text : List Char) : Bool :=
  match baseDigits? text with
  | some (base, digits) =>
    match readBase? base digits with
    | some n => n ≤ limit
    | none => false
  | none => false

/-- Whether digits with a leading zero are meant as a text. -/
def isPadded : List Char → Bool
  | '0' :: next :: rest => (next :: rest).all isDigit
  | _ => false

/-- Splits a decimal number without sign into its digits, the number of those behind the
point, and its exponent. -/
def readDecimal? (text : List Char) : Option (List Char × Nat × Int) := do
  let whole := text.takeWhile isDigit
  let text := text.dropWhile isDigit
  let (fraction, text) :=
    match text with
    | '.' :: rest => (rest.takeWhile isDigit, rest.dropWhile isDigit)
    | _ => ([], text)
  if whole.isEmpty && fraction.isEmpty then none
  match text with
  | [] => some (whole ++ fraction, fraction.length, 0)
  | c :: rest =>
    if c ≠ 'e' ∧ c ≠ 'E' then none
    let (negative, digits) :=
      match rest with
      | '-' :: digits => (true, digits)
      | '+' :: digits => (false, digits)
      | _ => (false, rest)
    if digits.isEmpty || !digits.all isDigit then none
    let n : Nat := digits.foldl (fun n c => 10 * n + (c.toNat - 48)) 0
    some (whole ++ fraction, fraction.length, if negative then -(n : Int) else n)

/-- Whether a decimal is within the doubles. -/
def isFinite (digits : List Char) (places : Nat) (exponent : Int) : Bool :=
  let digits := digits.dropWhile (· == '0')
  let power := exponent - places
  if digits.isEmpty then true
  else if digits.length + power ≤ 308 then true
  else if 310 < digits.length + power then false
  else
    let n := digits.foldl (fun n c => 10 * n + (c.toNat - 48)) 0
    (Double.ofRatio false (n * Nat.pow 10 power.toNat) (Nat.pow 10 (-power).toNat)).isSome

/-- Whether a text without sign is a decimal number within the doubles. -/
def isDecimal (text : List Char) : Bool :=
  match readDecimal? text with
  | some (digits, places, exponent) => isFinite digits places exponent
  | none => false

/-- Whether a text is a number. Both signs are allowed; digits with a leading zero are no
number. -/
def isNumber (text : List Char) : Bool :=
  match text with
  | '+' :: rest => isBased (Nat.pow 2 128 - 1) rest || (!isPadded rest && isDecimal rest)
  | '-' :: rest => isBased (Nat.pow 2 127) rest || (!isPadded rest && isDecimal rest)
  | _ => isBased (Nat.pow 2 128 - 1) text || (!isPadded text && isDecimal text)

/-- Whether a text, with or without a sign, consists of digits with a leading zero. -/
def isPaddedNumber : List Char → Bool
  | '+' :: rest => isPadded rest
  | '-' :: rest => isPadded rest
  | text => isPadded text

/-- **Whether a plain text would be taken for something else**, or by some readers might. -/
def isResolved (s : String) : Bool :=
  switchWords.contains s || nullWords.contains s || specialNumbers.contains s ||
    isNumber s.toList || isPaddedNumber s.toList

/-! ### What matters about the characters -/

/-- Whether a character ends a line. -/
def isBreak (c : Char) : Bool :=
  c == '\n' || c == '\r' || c == '\u0085' || c == '\u2028' || c == '\u2029'

/-- Whether a character can be written without an escape. -/
def isPrintable (c : Char) : Bool :=
  let n := c.toNat
  n == 0x0A || (0x20 ≤ n && n ≤ 0x7E) || (0xA0 ≤ n && n ≤ 0xD7FF) ||
    (0xE000 ≤ n && n ≤ 0xFFFD && n != 0xFEFF) || 0x10000 ≤ n

/-- Whether what is next in a text is a blank or a break, or the text ends. -/
def isBlankNext : List Char → Bool
  | [] => true
  | c :: _ => c == ' ' || c == '\t' || c == '\x00' || isBreak c

/-- What matters about the characters of a text. -/
structure Shape where
  /-- A mark would be misread in a plain text. -/
  marks : Bool
  /-- A character needs an escape. -/
  special : Bool
  /-- A line ends within the text. -/
  breaks : Bool
  /-- A space or a break is at the beginning. -/
  blankStart : Bool
  /-- A space is at the end. -/
  spaceEnd : Bool
  /-- A break is at the end. -/
  breakEnd : Bool
  /-- A space follows a break. -/
  breakSpace : Bool
  /-- A break follows a space. -/
  spaceBreak : Bool

/-- Whether the first character of a text, with the given rest, would be misread. -/
def isLeadingMark (c : Char) (rest : List Char) : Bool :=
  "#,[]\x7b\x7d&*!|>'\"%@\x60".toList.contains c ||
    ((c == '?' || c == ':' || c == '-') && isBlankNext rest)

/-- Whether a later character of a text would be misread. -/
def isInnerMark (previous c : Char) (rest : List Char) : Bool :=
  (c == ':' && isBlankNext rest) || (c == '#' && isBlankNext [previous])

/-- Whether a later character of a text would be misread, with its neighbours at hand. -/
def hasInnerMark : Char → List Char → Bool
  | _, [] => false
  | previous, c :: rest => isInnerMark previous c rest || hasInnerMark c rest

/-- Whether two characters in a row satisfy a condition. -/
def hasPair (p : Char → Char → Bool) : List Char → Bool
  | a :: b :: rest => p a b || hasPair p (b :: rest)
  | _ => false

/-- Whether a text begins like the marks between documents. -/
def isDocumentMark : List Char → Bool
  | '-' :: '-' :: '-' :: _ => true
  | '.' :: '.' :: '.' :: _ => true
  | _ => false

/-- **What matters about a text** which is not empty. -/
def Shape.ofChars (text : List Char) : Shape where
  marks := isDocumentMark text ||
    match text with
    | [] => false
    | c :: rest => isLeadingMark c rest || hasInnerMark c rest
  special := text.any fun c => !isPrintable c
  breaks := text.any isBreak
  blankStart := text.head?.any fun c => c == ' ' || isBreak c
  spaceEnd := text.getLast?.any (· == ' ')
  breakEnd := text.getLast?.any isBreak
  breakSpace := hasPair (fun a b => isBreak a && b == ' ') text
  spaceBreak := hasPair (fun a b => a == ' ' && isBreak b) text

/-! ### Styles -/

/-- The ways of writing a text. -/
inductive Style
  /-- As it is. -/
  | plain
  /-- Between single quotes. -/
  | single
  /-- Between double quotes, with escapes. -/
  | double
  /-- As a block of lines. -/
  | literal
deriving DecidableEq, Repr

/-- Whether a plain text stays what it is. -/
def Shape.allowsPlain (shape : Shape) : Bool :=
  !(shape.marks || shape.special || shape.breaks || shape.blankStart || shape.spaceEnd ||
    shape.breakEnd || shape.breakSpace || shape.spaceBreak)

/-- Whether a text may stand between single quotes. -/
def Shape.allowsSingle (shape : Shape) : Bool :=
  !(shape.special || shape.breakSpace || shape.spaceBreak)

/-- Whether a text may be a block of lines. -/
def Shape.allowsLiteral (shape : Shape) : Bool :=
  !(shape.special || shape.spaceEnd || shape.spaceBreak)

/-- **The style of a text.** -/
def style (s : String) : Style :=
  let shape := Shape.ofChars s.toList
  if s.toList.contains '\n' then
    if shape.allowsLiteral then .literal else .double
  else if !isResolved s && shape.allowsPlain then .plain
  else if shape.allowsSingle then .single
  else .double

/-! ### Writing -/

/-- Blanks in front of a line. -/
def indentation (indent : Nat) : List Char :=
  List.replicate indent ' '

/-- Writes characters and indents each line that is not empty. `fresh` says whether the
next character begins a line; `write` gives the form of a character. -/
def indented (indent : Nat) (write : Char → List Char) : Bool → List Char → List Char
  | _, [] => []
  | fresh, c :: rest =>
    if isBreak c then c :: indented indent write true rest
    else
      (if fresh then indentation indent else []) ++ write c ++ indented indent write false rest

/-- The digits of a number in upper case, padded to a width. -/
def hexDigits (width n : Nat) : List Char :=
  let digits := (Nat.toDigits 16 n).map Char.toUpper
  List.replicate (width - digits.length) '0' ++ digits

/-- What stands for a character between double quotes. -/
def escape (c : Char) : List Char :=
  if c = '"' then ['\\', '"']
  else if c = '\\' then ['\\', '\\']
  else if isPrintable c && !isBreak c then [c]
  else
    let n := c.toNat
    '\\' ::
      (if n = 0 then ['0']
      else if n = 7 then ['a']
      else if n = 8 then ['b']
      else if n = 9 then ['t']
      else if n = 10 then ['n']
      else if n = 11 then ['v']
      else if n = 12 then ['f']
      else if n = 13 then ['r']
      else if n = 27 then ['e']
      else if n = 0x85 then ['N']
      else if n = 0x2028 then ['L']
      else if n = 0x2029 then ['P']
      else if n ≤ 0xFF then 'x' :: hexDigits 2 n
      else if n ≤ 0xFFFF then 'u' :: hexDigits 4 n
      else 'U' :: hexDigits 8 n)

/-- The head of a block of lines: a digit if the indentation cannot be read off the first
line, and a sign that says what becomes of the breaks at the end. -/
def literalHead (text : List Char) : List Char :=
  let hint := if text.head?.any fun c => c == ' ' || isBreak c then ['2'] else []
  let chomp :=
    match text.reverse with
    | [] => ['-']
    | [last] => if isBreak last then ['+'] else ['-']
    | last :: before :: _ =>
      if !isBreak last then ['-'] else if isBreak before then ['+'] else []
  '|' :: hint ++ chomp

/-- The breaks between single quotes: a line feed is doubled, since a single one would be
read as a space. -/
def doubleBreaks : Bool → List Char → List Char
  | _, [] => []
  | inBreaks, c :: rest =>
    if isBreak c then
      (if !inBreaks && c == '\n' then ['\n', '\n'] else [c]) ++ doubleBreaks true rest
    else c :: doubleBreaks false rest

/-- The form of a character between single quotes. -/
def singleEscape (c : Char) : List Char :=
  if c = '\'' then ['\'', '\''] else [c]

/-- **A text in its style**; `indent` is the indentation of its lines but the first. The
break that ends a block of lines is left out. -/
def scalar (indent : Nat) (s : String) : List Char :=
  let text := s.toList
  match style s with
  | .plain => text
  | .single =>
    '\'' :: indented indent singleEscape false (doubleBreaks false text) ++
      (if text.getLast?.any isBreak then indentation indent else []) ++ ['\'']
  | .double => '"' :: text.flatMap escape ++ ['"']
  | .literal =>
    let body := if text.getLast? = some '\n' then text.dropLast else text
    literalHead text ++ '\n' :: indented indent (fun c => [c]) true body

/-- A text as a key, which has to stay on one line. -/
def keyScalar (s : String) : List Char :=
  match style s with
  | .literal => '"' :: s.toList.flatMap escape ++ ['"']
  | _ => scalar 0 s

end ContractSchema.Yaml
