import OrderNarration.Number.Binary64.Fixed
import OrderNarration.Number.Integer

/-!
# Message templates

A log message may be a template with directives that start with a percent sign:
flags, a width, a precision and a letter that tells how the next argument is
written. A message without arguments is no template and stays as it is.

## Implementation notes

Arguments are told apart by their places alone, so a directive that names its
argument finds no mapping to look into.
-/

namespace OrderNarration.Logging

/-- A number that a directive may carry beside its letter. -/
inductive Count where
  | width
  | precision

/-- The largest count that a directive may carry. -/
def Count.largest : Count → Nat
  | width => Nat.pow 2 63 - 1
  | precision => Nat.pow 2 31 - 1

/-- The word for a count. -/
def Count.word : Count → Text
  | width => "width"
  | precision => "precision"

/-- The machine word that holds a count. -/
def Count.machineWord : Count → Text
  | width => "C ssize_t"
  | precision => "C int"

/-- Why a template cannot be filled in. -/
inductive TemplateError where
  | tooFewArguments
  | tooManyArguments
  | incomplete
  | unknownLetter (letter : CodePoint) (offset : Nat)
  | mappingNeeded
  | widthNotInteger
  | numberNeeded (letter : Char) (kindName : Text)
  | integerNeeded (letter : Char) (kindName : Text)
  | realNeeded (kindName : Text)
  | characterNeeded
  | characterOutOfRange
  | floatNotANumber
  | decimalNotANumber
  | signalingNotANumber
  | noInteger (cause : IntegerError)
  | tooManyDigits
  | tooLargeForFloat
  | countTooBig (count : Count)
  | countArgumentTooBig (count : Count)
  | precisionTooLarge
  | outOfMemory
  | noText

/-- The wording of the error; being out of memory has none. -/
def TemplateError.message : TemplateError → Text
  | tooFewArguments => "not enough arguments for format string"
  | tooManyArguments => "not all arguments converted during string formatting"
  | incomplete => "incomplete format"
  | unknownLetter letter offset =>
    let shown : CodePoint :=
      if 31 ≤ letter.number ∧ letter.number < 127 then letter else .scalar '?'
    "unsupported format character '" ++ [shown] ++ "' (0x" ++
      Text.ofChars (Nat.toDigits 16 letter.number) ++ ") at index " ++ Text.ofNat offset
  | mappingNeeded => "format requires a mapping"
  | widthNotInteger => "* wants int"
  | numberNeeded letter kindName =>
    "%" ++ Text.ofChars [letter] ++ " format: a real number is required, not " ++ kindName
  | integerNeeded letter kindName =>
    "%" ++ Text.ofChars [letter] ++ " format: an integer is required, not " ++ kindName
  | realNeeded kindName => "must be real number, not " ++ kindName
  | characterNeeded => "%c requires int or char"
  | characterOutOfRange => "%c arg not in range(0x110000)"
  | floatNotANumber => "cannot convert float NaN to integer"
  | decimalNotANumber => "cannot convert NaN to integer"
  | signalingNotANumber => "cannot convert signaling NaN to float"
  | noInteger cause => cause.message
  | tooManyDigits =>
    "Exceeds the limit (" ++ Text.ofNat Numeral.maxDigits ++ " digits) for integer string " ++
      "conversion; use sys.set_int_max_str_digits() to increase the limit"
  | tooLargeForFloat => "int too large to convert to float"
  | countTooBig count => count.word ++ " too big"
  | countArgumentTooBig count => "Python int too large to convert to " ++ count.machineWord
  | precisionTooLarge => "precision too large"
  | outOfMemory => ""
  | noText => Value.noTextMessage

namespace Template

/-- The arguments that are left. -/
abbrev Arguments := List Value

/-- Take the next argument. -/
def Arguments.next : Arguments → Except TemplateError (Value × Arguments)
  | [] => .error .tooFewArguments
  | v :: rest => .ok (v, rest)

/-- What stands between the percent sign and the letter. -/
structure Directive where
  left : Bool := false
  plus : Bool := false
  blank : Bool := false
  alternate : Bool := false
  zero : Bool := false
  width : Nat := 0
  precision : Option Nat := none

/-- Read flags. -/
def readFlags (d : Directive) : Text → Directive × Text
  | .scalar '-' :: rest => readFlags { d with left := true } rest
  | .scalar '+' :: rest => readFlags { d with plus := true } rest
  | .scalar ' ' :: rest => readFlags { d with blank := true } rest
  | .scalar '#' :: rest => readFlags { d with alternate := true } rest
  | .scalar '0' :: rest => readFlags { d with zero := true } rest
  | t => (d, t)

/-- An ASCII digit. -/
def isDigit (c : CodePoint) : Bool := (c.char?.map Char.isDigit).getD false

/-- Read a number or a star, which takes the number from the arguments. -/
def readCount (count : Count) (args : Arguments) (t : Text) :
    Except TemplateError (Option Int × Arguments × Text) :=
  match t with
  | .scalar '*' :: rest => do
    let (v, args) ← Arguments.next args
    match v with
    | .int n =>
      if -1 - (count.largest : Int) ≤ n ∧ n ≤ count.largest then return (some n, args, rest)
      else .error (.countArgumentTooBig count)
    | .bool b => return (some (if b then 1 else 0), args, rest)
    | _ => .error .widthNotInteger
  | t =>
    match t.takeWhile isDigit with
    | [] => .ok (none, args, t)
    | digits =>
      let n := Nat.ofDigitChars 10 (digits.filterMap CodePoint.char?) 0
      if n ≤ count.largest then .ok (some n, args, t.dropWhile isDigit)
      else .error (.countTooBig count)

/-- Texts of more code points than this are not written. -/
def largestText : Nat := 1000000000

/-- Set out a text in its width. -/
def setOut (d : Directive) (t : Text) : Except TemplateError Text :=
  if largestText < d.width then .error .outOfMemory
  else .ok (if d.left then Text.padRight d.width ' ' t else Text.padLeft d.width ' ' t)

/-- Set out a number with its sign and base mark in its width. -/
def setOutNumber (d : Directive) (negative : Bool) (mark digits : Text) :
    Except TemplateError Text :=
  let sign : Text := if negative then "-" else if d.plus then "+" else if d.blank then " " else ""
  if d.zero ∧ ¬ d.left ∧ d.width ≤ largestText then
    .ok (sign ++ mark ++ Text.padLeft (d.width - sign.length - mark.length) '0' digits)
  else setOut d (sign ++ mark ++ digits)

/-- The integer that a number is cut off to. -/
def wholeNumber (letter : Char) (v : Value) : Except TemplateError Int :=
  match v with
  | .float .notANumber => .error .floatNotANumber
  | .decimal (.notANumber ..) => .error .decimalNotANumber
  | .int _ | .bool _ | .float _ | .decimal _ =>
    match v.integer? with
    | .ok n => .ok (n.getD 0)
    | .error e => .error (.noInteger e)
  | v => .error (.numberNeeded letter v.fullKindName)

/-- The integer that an integer value is. -/
def exactInteger (letter : Char) : Value → Except TemplateError Int
  | .int n => .ok n
  | .bool b => .ok (if b then 1 else 0)
  | v => .error (.integerNeeded letter v.fullKindName)

/-- The binary number that a real value is. -/
def realNumber : Value → Except TemplateError Binary64
  | .float x => .ok x
  | .int n =>
    match Binary64.ofDecimal (n < 0) n.natAbs 0 with
    | .infinite _ => .error .tooLargeForFloat
    | x => .ok x
  | .bool b => .ok (.ofDecimal false (if b then 1 else 0) 0)
  | .decimal (.finite negative coefficient exponent) =>
    .ok (.ofDecimal negative coefficient exponent)
  | .decimal (.infinite negative) => .ok (.infinite negative)
  | .decimal (.notANumber _ true _) => .error .signalingNotANumber
  | .decimal (.notANumber _ false _) => .ok .notANumber
  | v => .error (.realNeeded v.fullKindName)

/-- The greatest precision of an integer leaves room for a sign and a base mark. -/
def maxIntegerPrecision : Nat := Count.precision.largest - 3

/-- Write an integer in a base. -/
def writeInteger (d : Directive) (base : Nat) (upper : Bool) (mark : Text) (n : Int) :
    Except TemplateError Text := do
  if maxIntegerPrecision < d.precision.getD 0 then .error .precisionTooLarge
  else if base = 10 ∧ Nat.pow 10 Numeral.maxDigits ≤ n.natAbs then .error .tooManyDigits
  else if largestText < d.precision.getD 0 then .error .outOfMemory
  else
    let digits := Nat.toDigits base n.natAbs
    let digits := if upper then digits.map Char.toUpper else digits
    setOutNumber d (n < 0) (if d.alternate then mark else [])
      (Text.padLeft (d.precision.getD 0) '0' (Text.ofChars digits))

/-- The digits of a finite magnitude. The greatest precision counts as zero in the form with a
power of ten, which writes one digit more than its precision. -/
def realDigits (d : Directive) (letter : Char) (significand : Nat) (exponent : Int) :
    Except TemplateError Text :=
  let mark := if letter.isUpper then 'E' else 'e'
  let precision := d.precision.getD 6
  let general := letter.toLower = 'g'
  let precision :=
    if letter.toLower = 'e' ∧ precision = Count.precision.largest then 0 else precision
  if largestText < precision ∧ (¬ general ∨ d.alternate) then .error .outOfMemory
  else if letter.toLower = 'f' then
    .ok (Binary64.fixedForm significand exponent precision d.alternate)
  else if general then
    .ok (Binary64.generalForm mark significand exponent precision d.alternate)
  else
    let (digits, power) := Binary64.significantDigits significand exponent (precision + 1)
    .ok (Binary64.scientificForm mark digits power d.alternate)

/-- Write a binary number. -/
def writeReal (d : Directive) (letter : Char) (x : Binary64) : Except TemplateError Text :=
  match x with
  | .notANumber => setOutNumber d false [] (if letter.isUpper then "NAN" else "nan")
  | .infinite negative => setOutNumber d negative [] (if letter.isUpper then "INF" else "inf")
  | .finite negative significand exponent => do
    setOutNumber d negative [] (← realDigits d letter significand exponent)

/-- Write a text, cut to the precision. -/
def writeText (d : Directive) (t : Text) : Except TemplateError Text :=
  setOut d (match d.precision with
    | some p => t.take p
    | none => t)

/-- Escape what is outside ASCII. -/
def asciiOnly (t : Text) : Text :=
  t.flatMap fun c => if c.number < 0x80 then [c] else Text.escapeNumber c.number

/-- The character that a value is or has the number of. -/
def character : Value → Except TemplateError CodePoint
  | .text [c] => .ok c
  | .bool b => .ok (.scalar (if b then '\x01' else '\x00'))
  | .int n =>
    if 0 ≤ n ∧ n < 0x10000 then .ok (.ofUnit n.toNat)
    else if 0 ≤ n ∧ n < 0x110000 then .ok (.scalar (Char.ofNat n.toNat))
    else .error .characterOutOfRange
  | _ => .error .characterNeeded

/-- Write an argument as a letter says. -/
def write (d : Directive) (letter : CodePoint) (offset : Nat) (v : Value) :
    Except TemplateError Text :=
  match letter with
  | .scalar 's' =>
    match v.display? with
    | some t => writeText d t
    | none => .error .noText
  | .scalar 'r' => writeText d v.quoted
  | .scalar 'a' => writeText d (asciiOnly v.quoted)
  | .scalar 'd' => wholeNumber 'd' v >>= writeInteger d 10 false []
  | .scalar 'i' => wholeNumber 'i' v >>= writeInteger d 10 false []
  | .scalar 'u' => wholeNumber 'u' v >>= writeInteger d 10 false []
  | .scalar 'x' => exactInteger 'x' v >>= writeInteger d 16 false "0x"
  | .scalar 'X' => exactInteger 'X' v >>= writeInteger d 16 true "0X"
  | .scalar 'o' => exactInteger 'o' v >>= writeInteger d 8 false "0o"
  | .scalar 'c' => character v >>= fun c => setOut d [c]
  | .scalar c =>
    if ['e', 'E', 'f', 'F', 'g', 'G'].contains c then realNumber v >>= writeReal d c
    else .error (.unknownLetter letter offset)
  | letter => .error (.unknownLetter letter offset)

/-- A width below zero sets out to the left. The least machine word has no counterpart above
zero and counts as no width. -/
def withWidth (d : Directive) (width : Option Int) : Directive :=
  match width with
  | none => d
  | some n =>
    { d with
      width := if n.natAbs ≤ Count.width.largest then n.natAbs else 0
      left := d.left || n < 0 }

/-- Read the precision after a point; a missing number counts as zero. -/
def readPrecision (d : Directive) (args : Arguments) :
    Text → Except TemplateError (Directive × Arguments × Text)
  | .scalar '.' :: rest => do
    let (precision, args, rest) ← readCount .precision args rest
    return ({ d with precision := some (precision.getD 0).toNat }, args, rest)
  | t => .ok (d, args, t)

/-- Pass over a letter that tells the size of a number. -/
def skipSize : Text → Text
  | .scalar 'h' :: rest => rest
  | .scalar 'l' :: rest => rest
  | .scalar 'L' :: rest => rest
  | t => t

/-- Write the directive that starts after a percent sign; a second percent sign stands for one. -/
def writeDirective (total : Nat) (args : Arguments) :
    Text → Except TemplateError (Text × Arguments × Text)
  | .scalar '%' :: rest => .ok ([.scalar '%'], args, rest)
  | .scalar '(' :: _ => .error .mappingNeeded
  | t => do
    let (d, t) := readFlags {} t
    let (width, args, t) ← readCount .width args t
    let (d, args, t) ← readPrecision (withWidth d width) args t
    match skipSize t with
    | [] => .error .incomplete
    | letter :: rest =>
      let (v, args) ← Arguments.next args
      return (← write d letter (total - rest.length - 1) v, args, rest)

/-- Fill in the rest of a template of the given total length. -/
def fill (total : Nat) : Nat → Arguments → Text → Except TemplateError Text
  | 0, _, _ => .ok []
  | fuel + 1, args, t =>
    match t with
    | [] => if args.isEmpty then .ok [] else .error .tooManyArguments
    | c :: rest =>
      if c = .scalar '%' then do
        let (written, args, rest) ← writeDirective total args rest
        return written ++ (← fill total fuel args rest)
      else (c :: ·) <$> fill total fuel args rest

end Template

/-- The message that a template and its arguments make. -/
def Template.message (template : Text) (args : List Value) : Except TemplateError Text :=
  match args with
  | [] => .ok template
  | args => Template.fill template.length (template.length + 1) args template

end OrderNarration.Logging
