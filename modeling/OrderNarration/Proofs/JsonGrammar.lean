import Mathlib.Data.List.Induction
import Mathlib.Data.List.Nodup
import Mathlib.Data.Nat.Digits.Defs
import OrderNarration.Proofs.JsonValues

/-!
# The grammar of JSON texts

Which characters spell which value, without a word about how they are read. Blanks
may stand between any two tokens. A character of a string may stand for itself or be
written as one of its escapes, and a character beyond the first plane as the escapes of
its two surrogates. An object whose text repeats a key has the key once, at its first
place and with its last value.

## Implementation notes

A text of a value begins and ends with the value's own tokens. The blanks around it
belong to the array, the object or the whole text that it stands in. The escape of a
surrogate counts for itself only where it has no partner, so that every text spells at
most one value.
-/

namespace OrderNarration

namespace Entries

variable {α : Type u}

/-- The entries that a sequence of pairs gives: the keys in the order of their first places, and
every key with the value of its last place. -/
structure Collect (pairs : List (Text × α)) (entries : Entries α) : Prop where
  keys : entries.map Prod.fst = (pairs.map Prod.fst).eraseDups
  values : ∀ key, get? key entries = pairs.reverse.lookup key

theorem get?_eq_none_iff {key : Text} {entries : Entries α} :
    get? key entries = none ↔ key ∉ entries.map Prod.fst := by
  induction entries with
  | nil => simp [get?]
  | cons e rest ih =>
      by_cases h : e.1 = key
      · simp [get?, h]
      · simp [get?, h, ih, Ne.symm h]

theorem keys_put (key : Text) (value : α) (entries : Entries α) :
    (put key value entries).map Prod.fst =
      if key ∈ entries.map Prod.fst then entries.map Prod.fst
      else entries.map Prod.fst ++ [key] := by
  induction entries with
  | nil => simp [put]
  | cons e rest ih =>
      by_cases h : e.1 = key
      · simp [put, h]
      · have h' : key ≠ e.1 := fun heq => h heq.symm
        simp only [put, h, if_false, List.map_cons, ih, List.mem_cons, h', false_or]
        split <;> simp

theorem ofPairs_append_singleton (pairs : List (Text × α)) (p : Text × α) :
    ofPairs (pairs ++ [p]) = put p.1 p.2 (ofPairs pairs) := by
  simp [ofPairs]

/-- The entries that are built pair by pair are those that the pairs give. -/
theorem ofPairs_collects (pairs : List (Text × α)) : Collect pairs (ofPairs pairs) := by
  induction pairs using List.reverseRecOn with
  | nil => exact ⟨rfl, fun key => rfl⟩
  | append_singleton pairs p ih =>
      rw [ofPairs_append_singleton]
      refine ⟨?_, fun key => ?_⟩
      · rw [keys_put, ih.keys, List.map_append, List.eraseDups_append]
        by_cases h : p.1 ∈ pairs.map Prod.fst
        · have hknown : p.1 ∈ (pairs.map Prod.fst).eraseDups := List.mem_eraseDups.mpr h
          simp [hknown, List.removeAll, h]
        · have hnew : p.1 ∉ (pairs.map Prod.fst).eraseDups := fun hmem =>
            h (List.mem_eraseDups.mp hmem)
          simp [hnew, List.removeAll, h, List.eraseDups_cons]
      · rw [get?_put, ih.values, List.reverse_append, List.reverse_singleton, List.singleton_append,
          List.lookup_cons]
        by_cases h : key = p.1
        · simp [h]
        · simp [h, beq_eq_false_iff_ne.mpr h]

theorem nodup_keys_ofPairs (pairs : List (Text × α)) : ((ofPairs pairs).map Prod.fst).Nodup := by
  induction pairs using List.reverseRecOn with
  | nil => exact List.nodup_nil
  | append_singleton pairs p ih =>
      rw [ofPairs_append_singleton, keys_put]
      split
      · exact ih
      next hnew => exact List.nodup_append_comm.mpr (List.nodup_cons.mpr ⟨hnew, ih⟩)

/-- Entries without a repeated key are told apart by their keys and by what the keys have. -/
theorem eq_of_get?_eq {entries others : Entries α} (nodup : (entries.map Prod.fst).Nodup)
    (keys : entries.map Prod.fst = others.map Prod.fst)
    (values : ∀ key, get? key entries = get? key others) : entries = others := by
  induction entries generalizing others with
  | nil => exact (List.map_eq_nil_iff.mp keys.symm).symm
  | cons e rest ih =>
      cases others with
      | nil => simp at keys
      | cons o others =>
          obtain ⟨hkey, hkeys⟩ := List.cons.inj keys
          obtain ⟨hfresh, hnodup⟩ := List.nodup_cons.mp nodup
          have hvalue : e.2 = o.2 := by simpa [get?, hkey] using values e.1
          refine congrArg₂ List.cons (Prod.ext hkey hvalue) (ih hnodup hkeys fun key => ?_)
          by_cases h : e.1 = key
          · have hnone : get? key rest = none := get?_eq_none_iff.mpr (h ▸ hfresh)
            have hnone' : get? key others = none := get?_eq_none_iff.mpr (hkeys ▸ h ▸ hfresh)
            rw [hnone, hnone']
          · simpa [get?, h, hkey ▸ h] using values key

theorem Collect.eq_ofPairs {pairs : List (Text × α)} {entries : Entries α}
    (h : Collect pairs entries) : entries = ofPairs pairs := by
  have hpairs := ofPairs_collects pairs
  refine (eq_of_get?_eq (nodup_keys_ofPairs pairs) (hpairs.keys.trans h.keys.symm) ?_).symm
  exact fun key => (hpairs.values key).trans (h.values key).symm

end Entries

namespace Json

/-- Nothing but blanks. -/
def Blanks (cs : List Char) : Prop := ∀ c ∈ cs, isBlank c = true

section Strings

/-- Four hexadecimal digits that spell the number of a 16-bit unit. -/
def SpellsUnit (digits : List Char) (unit : Nat) : Prop :=
  digits.length = 4 ∧
    ∃ values, List.Forall₂ (fun digit value => Hex.value? digit = some value) digits values ∧
      unit = Nat.ofDigits 16 values.reverse

/-- The escape of the second half of a surrogate pair comes first. -/
def StartsWithLow (cs : List Char) : Prop :=
  ∃ digits unit rest, cs = '\\' :: 'u' :: (digits ++ rest) ∧ SpellsUnit digits unit ∧
    isLow unit = true

/-- The characters between the quotes of a string, and the text that they spell. -/
inductive SpellsText : List Char → Text → Prop
  | nil : SpellsText [] []
  | raw {c : Char} {cs : List Char} {t : Text} (noQuote : c ≠ '"') (noBackslash : c ≠ '\\')
      (noControl : 0x20 ≤ c.toNat) (rest : SpellsText cs t) :
      SpellsText (c :: cs) (.scalar c :: t)
  | short {letter c : Char} {cs : List Char} {t : Text} (escape : shortEscape? letter = some c)
      (rest : SpellsText cs t) : SpellsText ('\\' :: letter :: cs) (.scalar c :: t)
  | unit {digits cs : List Char} {point : CodePoint} {t : Text}
      (spelled : SpellsUnit digits point.number)
      (alone : isHigh point.number = true → ¬ StartsWithLow cs) (rest : SpellsText cs t) :
      SpellsText ('\\' :: 'u' :: (digits ++ cs)) (point :: t)
  | pair {digits digits' cs : List Char} {high low : Nat} {c : Char} {t : Text}
      (first : SpellsUnit digits high) (isFirst : isHigh high = true)
      (second : SpellsUnit digits' low) (isSecond : isLow low = true)
      (number : c.toNat = 0x10000 + (high - 0xD800) * 0x400 + (low - 0xDC00))
      (rest : SpellsText cs t) :
      SpellsText ('\\' :: 'u' :: (digits ++ '\\' :: 'u' :: (digits' ++ cs))) (.scalar c :: t)

/-- A string with its quotes, and the text that it spells. -/
def SpellsString (cs : List Char) (t : Text) : Prop :=
  ∃ body, cs = '"' :: (body ++ ['"']) ∧ SpellsText body t

end Strings

section Numbers

/-- A minus sign or nothing. -/
def minus (negative : Bool) : List Char := if negative then ['-'] else []

/-- Digits before the point: zero alone, or digits that do not start with zero. -/
def IsWhole (digits : List Char) : Prop :=
  digits = ['0'] ∨
    ∃ d rest, digits = d :: rest ∧ d ≠ '0' ∧ ∀ c ∈ digits, c.isDigit = true

/-- A point with digits after it, or nothing. -/
inductive SpellsFraction : List Char → List Char → Prop
  | absent : SpellsFraction [] []
  | digits {ds : List Char} (some : ds ≠ []) (all : ∀ c ∈ ds, c.isDigit = true) :
      SpellsFraction ('.' :: ds) ds

/-- The sign of an exponent, which may be left out. -/
inductive SpellsSign : List Char → Bool → Prop
  | absent : SpellsSign [] false
  | plus : SpellsSign ['+'] false
  | minus : SpellsSign ['-'] true

/-- A power of ten with its letter, or nothing. -/
inductive SpellsExponent : List Char → Int → Prop
  | absent : SpellsExponent [] 0
  | power {letter : Char} {sign ds : List Char} {negative : Bool}
      (isLetter : letter = 'e' ∨ letter = 'E') (signed : SpellsSign sign negative)
      (some : ds ≠ []) (all : ∀ c ∈ ds, c.isDigit = true) :
      SpellsExponent (letter :: (sign ++ ds))
        (Numeral.signed negative (Nat.ofDigitChars 10 ds 0))

end Numbers

/-- The values that are spelled in one token without quotes: names and numbers. A number is an
integer if it has neither a fraction nor an exponent, and then its digits are limited. -/
inductive SpellsAtom : List Char → Value → Prop
  | name {name : String} {v : Value} (known : (name, v) ∈ names) : SpellsAtom name.toList v
  | integer {negative : Bool} {digits : List Char} (whole : IsWhole digits)
      (limited : digits.length ≤ Numeral.maxDigits) :
      SpellsAtom (minus negative ++ digits)
        (.int (Numeral.signed negative (Nat.ofDigitChars 10 digits 0)))
  | number {negative : Bool} {digits fraction fractionDigits exponent : List Char} {power : Int}
      (whole : IsWhole digits) (hasFraction : SpellsFraction fraction fractionDigits)
      (hasExponent : SpellsExponent exponent power) (more : fraction ≠ [] ∨ exponent ≠ []) :
      SpellsAtom (minus negative ++ (digits ++ (fraction ++ exponent)))
        (.float (DecimalNumeral.toBinary64 ⟨digits, fractionDigits, power⟩ negative))

mutual

/-- The text of a value, from its first token to its last. -/
inductive Spells : List Char → Value → Prop
  | atom {cs : List Char} {v : Value} (atom : SpellsAtom cs v) : Spells cs v
  | text {cs : List Char} {t : Text} (string : SpellsString cs t) : Spells cs (.text t)
  | noItems {blanks : List Char} (blank : Blanks blanks) :
      Spells ('[' :: (blanks ++ [']'])) (.list [])
  | items {blanks cs : List Char} {vs : List Value} (blank : Blanks blanks)
      (items : SpellsItems cs vs) : Spells ('[' :: (blanks ++ (cs ++ [']']))) (.list vs)
  | noMembers {blanks : List Char} (blank : Blanks blanks) :
      Spells ('\x7b' :: (blanks ++ ['\x7d'])) (.mapping [])
  | members {blanks cs : List Char} {pairs : List (Text × Value)} {entries : Entries Value}
      (blank : Blanks blanks) (members : SpellsMembers cs pairs)
      (collect : Entries.Collect pairs entries) :
      Spells ('\x7b' :: (blanks ++ (cs ++ ['\x7d']))) (.mapping entries)

/-- The items of an array, from the first one to the blanks after the last one. -/
inductive SpellsItems : List Char → List Value → Prop
  | last {cs blanks : List Char} {v : Value} (item : Spells cs v) (blank : Blanks blanks) :
      SpellsItems (cs ++ blanks) [v]
  | more {cs blanks blanks' others : List Char} {v : Value} {vs : List Value}
      (item : Spells cs v) (blank : Blanks blanks) (blank' : Blanks blanks')
      (rest : SpellsItems others vs) :
      SpellsItems (cs ++ (blanks ++ ',' :: (blanks' ++ others))) (v :: vs)

/-- A key, a colon and a value. -/
inductive SpellsMember : List Char → Text × Value → Prop
  | member {key before after cs : List Char} {k : Text} {v : Value} (name : SpellsString key k)
      (blank : Blanks before) (blank' : Blanks after) (value : Spells cs v) :
      SpellsMember (key ++ (before ++ ':' :: (after ++ cs))) (k, v)

/-- The members of an object, from the first key to the blanks after the last value. -/
inductive SpellsMembers : List Char → List (Text × Value) → Prop
  | last {cs blanks : List Char} {pair : Text × Value} (member : SpellsMember cs pair)
      (blank : Blanks blanks) : SpellsMembers (cs ++ blanks) [pair]
  | more {cs blanks blanks' others : List Char} {pair : Text × Value}
      {pairs : List (Text × Value)} (member : SpellsMember cs pair) (blank : Blanks blanks)
      (blank' : Blanks blanks') (rest : SpellsMembers others pairs) :
      SpellsMembers (cs ++ (blanks ++ ',' :: (blanks' ++ others))) (pair :: pairs)

end

/-- A JSON text of a value: its own tokens, with blanks before and after them. -/
def IsTextOf (cs : List Char) (v : Value) : Prop :=
  ∃ before body after, cs = before ++ (body ++ after) ∧ Blanks before ∧ Blanks after ∧
    Spells body v

end Json

end OrderNarration
