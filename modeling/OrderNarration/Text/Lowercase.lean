import OrderNarration.Text.Basic
import OrderNarration.Text.LowercaseTable

/-!
# Lowercase

The full lowercase mapping of Unicode. Two code points need more than the table
of runs: a capital I with a dot becomes two code points, and a capital sigma
becomes a final sigma at the end of a word.
-/

namespace OrderNarration.CodePoint

/-- The simple lowercase number of a code point number. -/
def lowerNumber (n : Nat) : Nat :=
  match CaseRun.lowercase.find? (·.contains n) with
  | some run => (n + run.shift).toNat
  | none => n

/-- The simple lowercase form; a surrogate has no case. -/
def lower : CodePoint → CodePoint
  | scalar c => scalar (Char.ofNat (lowerNumber c.toNat))
  | surrogate k => surrogate k

/-- A letter with case that takes part in the search for a word's end. -/
def isCased (c : CodePoint) : Bool := Span.anyContains Span.cased c.number

/-- A code point that the search for a word's end passes over. -/
def isCaseIgnorable (c : CodePoint) : Bool := Span.anyContains Span.caseIgnorable c.number

end OrderNarration.CodePoint

namespace OrderNarration.Text

/-- The first code point that is not passed over is a cased one. -/
def startsCased (t : Text) : Bool :=
  ((t.dropWhile CodePoint.isCaseIgnorable).head?.map CodePoint.isCased).getD false

/-- A sigma between these neighbours ends a word; `before` is read backwards. -/
def endsWord (before after : Text) : Bool := before.startsCased && !after.startsCased

/-- The lowercase form of one code point between its neighbours. -/
def lowerBetween (before : Text) (c : CodePoint) (after : Text) : Text :=
  if c = .scalar 'Σ' then
    [.scalar (if endsWord before after then 'ς' else 'σ')]
  else if c = .scalar 'İ' then
    [.scalar 'i', .scalar '\u0307']
  else
    [c.lower]

/-- Lowercase the rest of a text whose beginning, read backwards, is `before`. -/
def lowercaseAfter (before : Text) : Text → Text
  | [] => []
  | c :: rest => lowerBetween before c rest ++ lowercaseAfter (c :: before) rest

/-- The lowercase form of a text. -/
def lowercase (t : Text) : Text := lowercaseAfter [] t

end OrderNarration.Text
