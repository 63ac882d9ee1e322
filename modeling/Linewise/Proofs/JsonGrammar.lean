import Linewise.Json.Reader
import Linewise.Proofs.IntegerText
import Mathlib.Data.List.DropRight
import Mathlib.Data.List.TakeDrop

/-! The grammar of JSON, with the value that each text of it denotes, and the reader: what the grammar derives is read,
as the value it denotes. So no text denotes two values. -/
namespace Linewise.Json

open IntegerFormat (IsDecimal)

/-- White space between the parts of a text. -/
def isSpace (c : Char) : Bool := c == ' ' || c == '\t' || c == '\n' || c == '\r'

def IsBlank (s : List Char) : Prop := ∀ c ∈ s, isSpace c = true

theorem isBlank_nil : IsBlank [] := fun _ none => absurd none List.not_mem_nil

/-- The letters that stand for a character after a backslash. -/
def letters : List (Char × Char) :=
  [('"', '"'), ('\\', '\\'), ('/', '/'), ('b', '\x08'), ('f', '\x0c'), ('n', '\n'), ('r', '\r'), ('t', '\t')]

/-- The forms of a character between quotation marks: itself, a letter after a backslash, or the four digits of its
code. A character beyond four digits takes two such codes, which are no characters by themselves. -/
inductive Spells : List Char → Char → Prop
  | plain {c : Char} (shown : 0x20 ≤ c.toNat) (unquoted : c ≠ '"') (straight : c ≠ '\\') : Spells [c] c
  | letter {letter c : Char} (listed : (letter, c) ∈ letters) : Spells ['\\', letter] c
  | code {a b c d : Char} {n : Nat} (digits : Text.hexNumber? [a, b, c, d] = some n) (valid : n.isValidChar) :
      Spells ['\\', 'u', a, b, c, d] (Char.ofNat n)
  | pair {a b c d e f g h : Char} {high low : Nat} (first : Text.hexNumber? [a, b, c, d] = some high)
      (isHigh : 0xD800 ≤ high ∧ high < 0xDC00) (second : Text.hexNumber? [e, f, g, h] = some low)
      (isLow : 0xDC00 ≤ low ∧ low < 0xE000) :
      Spells ['\\', 'u', a, b, c, d, '\\', 'u', e, f, g, h]
        (Char.ofNat (0x10000 + (high - 0xD800) * 0x400 + (low - 0xDC00)))

/-- What stands between the quotation marks of a text. -/
inductive Inside : List Char → List Char → Prop
  | nil : Inside [] []
  | cons {part rest s : List Char} {c : Char} (spelled : Spells part c) (others : Inside rest s) :
      Inside (part ++ rest) (c :: s)

inductive Minus : List Char → Bool → Prop
  | absent : Minus [] false
  | given : Minus ['-'] true

/-- The digits before the point: no zero stands in front of others. -/
structure IsWhole (digits : List Char) : Prop where
  decimal : IsDecimal digits
  unpadded : digits.head? = some '0' → digits = ['0']

/-- A point and the digits after it, if there is one. -/
inductive Fraction : List Char → Option (List Char) → Prop
  | absent : Fraction [] none
  | given {digits : List Char} (decimal : IsDecimal digits) : Fraction ('.' :: digits) (some digits)

/-- A power of ten, if there is one. -/
inductive Exponent : List Char → Option Int → Prop
  | absent : Exponent [] none
  | given {mark : Char} {sign digits : List Char} {negative : Bool} (marked : mark = 'e' ∨ mark = 'E')
      (signed : Minus sign negative ∨ sign = ['+'] ∧ negative = false) (decimal : IsDecimal digits) :
      Exponent (mark :: sign ++ digits)
        (some (if negative then -(Nat.ofDigitChars 10 digits 0 : Int) else Nat.ofDigitChars 10 digits 0))

/-- A number: an integer, unless there is a point or a power in it. -/
inductive Number : List Char → Json → Prop
  | whole {sign digits : List Char} {negative : Bool} (signed : Minus sign negative) (whole : IsWhole digits) :
      Number (sign ++ digits)
        (.int (if negative then -(Nat.ofDigitChars 10 digits 0 : Int) else Nat.ofDigitChars 10 digits 0))
  | broken {sign digits fraction exponent : List Char} {negative : Bool} {places : Option (List Char)}
      {power : Option Int} (signed : Minus sign negative) (whole : IsWhole digits) (point : Fraction fraction places)
      (scaled : Exponent exponent power) (more : (places.isNone && power.isNone) = false) :
      Number (sign ++ digits ++ fraction ++ exponent)
        (.real (Decimal.toReal ⟨negative, Nat.ofDigitChars 10 (digits ++ places.getD []) 0,
          power.getD 0 - (places.getD []).length⟩))

/-- Parts with a comma between any two, at least one. -/
inductive Separated {α : Type} (Part : List Char → α → Prop) : List Char → List α → Prop
  | last {s : List Char} {a : α} (part : Part s a) : Separated Part s [a]
  | more {s rest : List Char} {a : α} {others : List α} (part : Part s a) (parts : Separated Part rest others) :
      Separated Part (s ++ ',' :: rest) (a :: others)

mutual

/-- The values that texts without white space around them denote. -/
inductive Denotes : List Char → Json → Prop
  | null : Denotes ['n', 'u', 'l', 'l'] .null
  | isTrue : Denotes ['t', 'r', 'u', 'e'] (.bool true)
  | isFalse : Denotes ['f', 'a', 'l', 's', 'e'] (.bool false)
  | number {s : List Char} {value : Json} (number : Number s value) : Denotes s value
  | text {inside s : List Char} (written : Inside inside s) :
      Denotes ('"' :: inside ++ ['"']) (.text (String.ofList s))
  | noItems {space : List Char} (blank : IsBlank space) : Denotes ('[' :: space ++ [']']) (.list [])
  | list {inner : List Char} {items : List Json} (parts : Separated Element inner items) :
      Denotes ('[' :: inner ++ [']']) (.list items)
  | noFields {space : List Char} (blank : IsBlank space) : Denotes ('\x7b' :: space ++ ['\x7d']) (.object [])
  | object {inner : List Char} {fields : List (String × Json)} (parts : Separated Member inner fields) :
      Denotes ('\x7b' :: inner ++ ['\x7d']) (.object fields)

/-- A value with white space around it. -/
inductive Element : List Char → Json → Prop
  | mk {before s after : List Char} {value : Json} (early : IsBlank before) (denotes : Denotes s value)
      (late : IsBlank after) : Element (before ++ s ++ after) value

/-- A name and a value, with white space around either. -/
inductive Member : List Char → String × Json → Prop
  | mk {before inside gap s name : List Char} {value : Json} (early : IsBlank before) (written : Inside inside name)
      (between : IsBlank gap) (element : Element s value) :
      Member (before ++ '"' :: inside ++ '"' :: gap ++ ':' :: s) (String.ofList name, value)

end

/-! Texts -/

theorem shortEscape?_of_mem {letter c : Char} (listed : (letter, c) ∈ letters) :
    shortEscape? letter = some c ∧ letter ≠ 'u' := by
  simp only [letters, List.mem_cons, Prod.mk.injEq, List.not_mem_nil, or_false] at listed
  rcases listed with ⟨rfl, rfl⟩ | ⟨rfl, rfl⟩ | ⟨rfl, rfl⟩ | ⟨rfl, rfl⟩ | ⟨rfl, rfl⟩ | ⟨rfl, rfl⟩ | ⟨rfl, rfl⟩ |
    ⟨rfl, rfl⟩ <;> exact ⟨rfl, by decide⟩

theorem scalar?_of_valid {n : Nat} (valid : n.isValidChar) : scalar? n = some (Char.ofNat n) := if_pos valid

/-- Whatever follows, a character is read from each of its forms. -/
theorem readText_append {part : List Char} {c : Char} (spelled : Spells part c) (rest : List Char) :
    readText (part ++ rest) = (readText rest).map fun (s, left) => (c :: s, left) := by
  cases spelled with
  | plain shown unquoted straight =>
    rw [List.singleton_append, readText]
    · cases readText rest <;> rfl
    · exact unquoted
    · exact fun _ _ _ _ _ same => absurd same straight
    · exact fun _ _ same => absurd same straight
  | letter listed =>
    obtain ⟨escape, other⟩ := shortEscape?_of_mem listed
    rw [List.cons_append, List.singleton_append, readText, escape]
    · cases readText rest <;> rfl
    · exact fun _ _ _ _ _ same => absurd same other
  | @code a b c d n digits valid =>
    have single : ¬ (0xD800 ≤ n ∧ n < 0xDC00) := by
      rcases valid with low | high <;> omega
    simp only [List.cons_append, List.nil_append]
    rw [readText, digits, Option.bind_eq_bind, Option.bind_some, if_neg single, scalar?_of_valid valid,
      Option.bind_eq_bind, Option.bind_some]
    cases readText rest <;> rfl
  | @pair a b c d e f g h high low first isHigh second isLow =>
    have valid : (0x10000 + (high - 0xD800) * 0x400 + (low - 0xDC00)).isValidChar := by
      right
      omega
    simp only [List.cons_append, List.nil_append]
    rw [readText, first, Option.bind_eq_bind, Option.bind_some, if_pos isHigh]
    change (Text.hexNumber? [e, f, g, h] >>= fun low => _) = _
    rw [second, Option.bind_eq_bind, Option.bind_some, scalar?_of_valid valid, Option.bind_eq_bind, Option.bind_some]
    cases readText rest <;> rfl

theorem readText_inside {inside s : List Char} (written : Inside inside s) (rest : List Char) :
    readText (inside ++ '"' :: rest) = some (s, rest) := by
  induction written with
  | nil => rfl
  | cons spelled others ih => simp [readText_append spelled, ih]

/-! White space -/

theorem skipSpace_blank {space : List Char} (blank : IsBlank space) (rest : List Char) :
    skipSpace (space ++ rest) = skipSpace rest :=
  List.dropWhile_append_of_pos blank

theorem skipSpace_solid {c : Char} (solid : isSpace c = false) (rest : List Char) :
    skipSpace (c :: rest) = c :: rest :=
  List.dropWhile_cons_of_neg (Bool.eq_false_iff.mp solid)

theorem skipSpace_to {space : List Char} {c : Char} (blank : IsBlank space) (solid : isSpace c = false)
    (rest : List Char) : skipSpace (space ++ c :: rest) = c :: rest := by
  rw [skipSpace_blank blank, skipSpace_solid solid]

@[simp] theorem skipSpace_skipSpace (s : List Char) : skipSpace (skipSpace s) = skipSpace s :=
  List.dropWhile_idempotent _ s

/-! Numbers -/

/-- What may stand after a value: nothing, white space, or the sign that a value has ended. -/
def Follows (rest : List Char) : Prop :=
  ∀ c, rest.head? = some c → isSpace c = true ∨ c = ',' ∨ c = ']' ∨ c = '\x7d'

/-- What follows a value goes on no number. -/
theorem Follows.not_number {rest : List Char} (follows : Follows rest) {c : Char} (next : rest.head? = some c) :
    c.isDigit = false ∧ c ≠ '.' ∧ c ≠ 'e' ∧ c ≠ 'E' := by
  have sort := follows c next
  simp only [isSpace, Bool.or_eq_true, beq_iff_eq] at sort
  rcases sort with ((((rfl | rfl) | rfl) | rfl) | rfl | rfl | rfl) <;> decide

theorem digitsOf_append {digits rest : List Char} (decimal : ∀ c ∈ digits, c.isDigit = true)
    (ends : ∀ c, rest.head? = some c → c.isDigit = false) : digitsOf (digits ++ rest) = (digits, rest) := by
  have stop : rest.takeWhile Char.isDigit = [] ∧ rest.dropWhile Char.isDigit = rest := by
    cases rest with
    | nil => exact ⟨rfl, rfl⟩
    | cons c rest => simp [ends c rfl]
  rw [digitsOf, List.span_eq_takeWhile_dropWhile, List.takeWhile_append_of_pos decimal,
    List.dropWhile_append_of_pos decimal, stop.1, stop.2, List.append_nil]

/-- What neither digits nor a point can go on with. -/
def Stops (rest : List Char) : Prop := ∀ c, rest.head? = some c → c.isDigit = false ∧ c ≠ '.'

theorem exists_cons_of_isDecimal {digits : List Char} (decimal : IsDecimal digits) :
    ∃ d more, digits = d :: more ∧ d.isDigit = true := by
  cases digits with
  | nil => exact absurd rfl decimal.filled
  | cons d more => exact ⟨d, more, rfl, decimal.digit d (by simp)⟩

theorem ne_of_isDigit {c d : Char} (digit : c.isDigit = true) (other : d.isDigit = false) : c ≠ d := by
  rintro rfl
  exact Bool.false_ne_true (other.symm.trans digit)

theorem readFraction_append {fraction rest : List Char} {places : Option (List Char)}
    (point : Fraction fraction places) (stops : Stops rest) : readFraction (fraction ++ rest) = (places, rest) := by
  cases point with
  | absent =>
    rw [List.nil_append, readFraction]
    rintro after rfl
    exact (stops '.' rfl).2 rfl
  | given decimal =>
    rw [List.cons_append, readFraction, digitsOf_append decimal.digit fun c next => (stops c next).1]
    obtain ⟨d, more, rfl, -⟩ := exists_cons_of_isDecimal decimal
    rfl

theorem readExponent_append {exponent rest : List Char} {power : Option Int} (scaled : Exponent exponent power)
    (follows : Follows rest) : readExponent (exponent ++ rest) = (power, rest) := by
  cases scaled with
  | absent =>
    cases rest with
    | nil => rfl
    | cons c rest =>
      obtain ⟨-, -, small, large⟩ := follows.not_number (c := c) rfl
      simp [readExponent, small, large]
  | @given mark sign digits negative marked signed decimal =>
    have read : digitsOf (digits ++ rest) = (digits, rest) :=
      digitsOf_append decimal.digit fun c next => (follows.not_number next).1
    obtain ⟨d, more, rfl, isDigit⟩ := exists_cons_of_isDecimal decimal
    have taken : (mark == 'e' || mark == 'E') = true := by simpa using marked
    simp only [List.cons_append, List.append_assoc, readExponent, taken, if_true] at read ⊢
    rcases signed with ⟨⟨⟩ | ⟨⟩⟩ | ⟨rfl, rfl⟩
    · have unsigned : d ≠ '-' ∧ d ≠ '+' := ⟨ne_of_isDigit isDigit (by decide), ne_of_isDigit isDigit (by decide)⟩
      split <;> simp_all
    · simp [read]
    · simp [read]

theorem Exponent.stops {exponent rest : List Char} {power : Option Int} (scaled : Exponent exponent power)
    (follows : Follows rest) : Stops (exponent ++ rest) := by
  intro c next
  cases scaled with
  | absent => exact ⟨(follows.not_number next).1, (follows.not_number next).2.1⟩
  | given marked =>
    obtain rfl := Option.some.inj next
    rcases marked with rfl | rfl <;> decide

theorem readNumber_parts {sign digits fraction exponent rest : List Char} {negative : Bool}
    {places : Option (List Char)} {power : Option Int} (signed : Minus sign negative) (decimal : IsDecimal digits)
    (point : Fraction fraction places) (scaled : Exponent exponent power) (follows : Follows rest) :
    readNumber (sign ++ (digits ++ (fraction ++ (exponent ++ rest)))) =
      some (if places.isNone && power.isNone then
          .int (if negative then -(Nat.ofDigitChars 10 (digits ++ places.getD []) 0 : Int)
            else Nat.ofDigitChars 10 (digits ++ places.getD []) 0)
        else
          .real (Decimal.toReal ⟨negative, Nat.ofDigitChars 10 (digits ++ places.getD []) 0,
            power.getD 0 - (places.getD []).length⟩), rest) := by
  have stops : Stops (exponent ++ rest) := scaled.stops follows
  have whole : digitsOf (digits ++ (fraction ++ (exponent ++ rest))) = (digits, fraction ++ (exponent ++ rest)) := by
    refine digitsOf_append decimal.digit fun c next => ?_
    cases point with
    | absent => exact (stops c next).1
    | given => exact Option.some.inj next ▸ by decide
  obtain ⟨d, more, rfl, isDigit⟩ := exists_cons_of_isDecimal decimal
  have unsigned : d ≠ '-' := ne_of_isDigit isDigit (by decide)
  unfold readNumber
  split
  next minus bare taken =>
    have parts : (negative, d :: more ++ (fraction ++ (exponent ++ rest))) = (minus, bare) := by
      cases signed <;> simp_all
    obtain ⟨rfl, rfl⟩ := Prod.mk.inj parts
    simp only [whole, readFraction_append point stops, readExponent_append scaled follows]
    split <;> rfl

theorem readNumber_append {s rest : List Char} {value : Json} (number : Number s value) (follows : Follows rest) :
    readNumber (s ++ rest) = some (value, rest) := by
  cases number with
  | whole signed whole =>
    simpa using readNumber_parts signed whole.decimal .absent .absent follows
  | broken signed whole point scaled more =>
    simpa [more] using readNumber_parts signed whole.decimal point scaled follows

/-! Values -/

/-- The characters that a number starts with. -/
def StartsNumber (c : Char) : Prop := c = '-' ∨ c.isDigit = true

theorem StartsNumber.ne {c d : Char} (starts : StartsNumber c) (unsigned : d ≠ '-') (other : d.isDigit = false) :
    c ≠ d := by
  rcases starts with rfl | digit
  · exact unsigned.symm
  · exact ne_of_isDigit digit other

theorem Minus.exists_cons {sign digits : List Char} {negative : Bool} (signed : Minus sign negative)
    (decimal : IsDecimal digits) : ∃ c rest, sign ++ digits = c :: rest ∧ StartsNumber c := by
  cases signed with
  | absent =>
    obtain ⟨d, more, rfl, isDigit⟩ := exists_cons_of_isDecimal decimal
    exact ⟨d, more, rfl, .inr isDigit⟩
  | given => exact ⟨'-', digits, rfl, .inl rfl⟩

theorem Number.exists_cons {s : List Char} {value : Json} (number : Number s value) :
    ∃ c rest, s = c :: rest ∧ StartsNumber c := by
  cases number with
  | whole signed whole => exact signed.exists_cons whole.decimal
  | broken signed whole =>
    obtain ⟨c, rest, same, starts⟩ := signed.exists_cons whole.decimal
    rw [same]
    exact ⟨c, _, rfl, starts⟩

/-- No text of a value starts with white space, or with what ends a list or an object. -/
theorem Denotes.exists_cons {s : List Char} {value : Json} (denotes : Denotes s value) :
    ∃ c rest, s = c :: rest ∧ isSpace c = false ∧ c ≠ ']' ∧ c ≠ '\x7d' := by
  cases denotes with
  | number number =>
    obtain ⟨c, rest, rfl, starts⟩ := number.exists_cons
    refine ⟨c, rest, rfl, ?_, starts.ne (by decide) (by decide), starts.ne (by decide) (by decide)⟩
    rw [Bool.eq_false_iff]
    intro space
    simp only [isSpace, Bool.or_eq_true, beq_iff_eq] at space
    rcases space with ((space | space) | space) | space <;> exact starts.ne (by decide) (by decide) space
  | _ => exact ⟨_, _, rfl, by decide, by decide, by decide⟩

theorem readValue_skipSpace (fuel : Nat) (s : List Char) : readValue fuel (skipSpace s) = readValue fuel s := by
  cases fuel with
  | zero => rfl
  | succ fuel => rw [readValue, readValue, skipSpace_skipSpace]

theorem readItems_skipSpace (fuel : Nat) (s : List Char) : readItems fuel (skipSpace s) = readItems fuel s := by
  cases fuel with
  | zero => rfl
  | succ fuel => rw [readItems, readItems, readValue_skipSpace]

theorem readFields_skipSpace (fuel : Nat) (s : List Char) : readFields fuel (skipSpace s) = readFields fuel s := by
  cases fuel with
  | zero => rfl
  | succ fuel => rw [readFields, readFields, skipSpace_skipSpace]

/-- Every value is read whose text the fuel is enough for, and what follows it is left. -/
def ReadsValues (fuel : Nat) : Prop :=
  ∀ {before s rest : List Char} {value : Json}, IsBlank before → Denotes s value → Follows rest →
    2 * s.length < fuel → readValue fuel (before ++ (s ++ rest)) = some (value, rest)

/-- The items of a list are read up to the bracket that closes it. -/
def ReadsItems (fuel : Nat) : Prop :=
  ∀ {s rest : List Char} {items : List Json}, Separated Element s items → 2 * s.length + 1 < fuel →
    readItems fuel (s ++ ']' :: rest) = some (items, rest)

/-- The fields of an object are read up to the brace that closes it. -/
def ReadsFields (fuel : Nat) : Prop :=
  ∀ {s rest : List Char} {fields : List (String × Json)}, Separated Member s fields → 2 * s.length + 1 < fuel →
    readFields fuel (s ++ '\x7d' :: rest) = some (fields, rest)

theorem readValue_number {fuel : Nat} {s : List Char} {c : Char} {rest : List Char} (starts : skipSpace s = c :: rest)
    (numeric : StartsNumber c) : readValue (fuel + 1) s = readNumber (c :: rest) := by
  have others : c ≠ '"' ∧ c ≠ '[' ∧ c ≠ '\x7b' ∧ c ≠ 't' ∧ c ≠ 'f' ∧ c ≠ 'n' := by
    refine ⟨?_, ?_, ?_, ?_, ?_, ?_⟩ <;> exact numeric.ne (by decide) (by decide)
  rw [readValue, starts]
  split <;> simp_all

theorem readValue_list {fuel : Nat} {s rest : List Char} (starts : skipSpace s = '[' :: rest)
    (filled : ∀ left, skipSpace rest ≠ ']' :: left) :
    readValue (fuel + 1) s = (readItems fuel rest).map fun (items, left) => (.list items, left) := by
  rw [← readItems_skipSpace fuel rest]
  -- The bracket is not closed at once, so the branch is the one for items.
  simp only [readValue, starts]
  cases readItems fuel (skipSpace rest) <;> rfl

theorem readValue_object {fuel : Nat} {s rest : List Char} (starts : skipSpace s = '\x7b' :: rest)
    (filled : ∀ left, skipSpace rest ≠ '\x7d' :: left) :
    readValue (fuel + 1) s = (readFields fuel rest).map fun (fields, left) => (.object fields, left) := by
  rw [← readFields_skipSpace fuel rest]
  simp only [readValue, starts]
  cases readFields fuel (skipSpace rest) <;> rfl

theorem Element.skipSpace_ne {s : List Char} {value : Json} (element : Element s value) (rest left : List Char) :
    skipSpace (s ++ rest) ≠ ']' :: left := by
  obtain ⟨before, denotes, -⟩ := element
  obtain ⟨c, others, rfl, solid, closed, -⟩ := denotes.exists_cons
  simp [skipSpace_to before solid, closed]

theorem Member.skipSpace_ne {s : List Char} {field : String × Json} (member : Member s field)
    (rest left : List Char) : skipSpace (s ++ rest) ≠ '\x7d' :: left := by
  obtain ⟨before, -, -, -⟩ := member
  simp [skipSpace_to before (c := '"') (by decide)]

/-- If no part starts with what closes them, neither do all of them together. -/
theorem Separated.skipSpace_ne {α : Type} {Part : List Char → α → Prop} {close : Char}
    (each : ∀ {s a}, Part s a → ∀ rest left, skipSpace (s ++ rest) ≠ close :: left) {s : List Char} {parts : List α}
    (separated : Separated Part s parts) (rest left : List Char) : skipSpace (s ++ rest) ≠ close :: left := by
  cases separated with
  | last part => exact each part rest left
  | more part others =>
    rw [List.append_assoc]
    exact each part _ left

theorem readsValues_step {fuel : Nat} (items : ReadsItems fuel) (fields : ReadsFields fuel) :
    ReadsValues (fuel + 1) := by
  intro before s rest value blank denotes follows enough
  have solid : skipSpace (before ++ (s ++ rest)) = s ++ rest := by
    obtain ⟨c, others, rfl, solid, -⟩ := denotes.exists_cons
    exact skipSpace_to blank solid _
  cases denotes with
  | null =>
    rw [readValue, solid]
    rfl
  | isTrue =>
    rw [readValue, solid]
    rfl
  | isFalse =>
    rw [readValue, solid]
    rfl
  | number number =>
    obtain ⟨c, others, rfl, numeric⟩ := number.exists_cons
    rw [readValue_number solid numeric]
    exact readNumber_append number follows
  | text written =>
    rw [readValue, solid]
    simp [readText_inside written]
  | noItems space =>
    rw [readValue, solid]
    simp [skipSpace_to space (c := ']') (by decide)]
  | @list inner values parts =>
    have filled := parts.skipSpace_ne Element.skipSpace_ne (']' :: rest)
    have enough : 2 * inner.length + 1 < fuel := by
      simp only [List.length_cons, List.length_append, List.length_nil] at enough
      omega
    have opened : skipSpace (before ++ ('[' :: inner ++ [']'] ++ rest)) = '[' :: (inner ++ ']' :: rest) := by
      simpa using solid
    rw [readValue_list opened filled, items parts enough]
    rfl
  | noFields space =>
    rw [readValue, solid]
    simp [skipSpace_to space (c := '\x7d') (by decide)]
  | @object inner members parts =>
    have filled := parts.skipSpace_ne Member.skipSpace_ne ('\x7d' :: rest)
    have enough : 2 * inner.length + 1 < fuel := by
      simp only [List.length_cons, List.length_append, List.length_nil] at enough
      omega
    have opened : skipSpace (before ++ ('\x7b' :: inner ++ ['\x7d'] ++ rest)) =
        '\x7b' :: (inner ++ '\x7d' :: rest) := by
      simpa using solid
    rw [readValue_object opened filled, fields parts enough]
    rfl

theorem readValue_element {fuel : Nat} (values : ReadsValues fuel) {s : List Char} {value : Json} {c : Char}
    (element : Element s value) (ends : c = ',' ∨ c = ']' ∨ c = '\x7d') (enough : 2 * s.length < fuel)
    (rest : List Char) :
    ∃ left, readValue fuel (s ++ c :: rest) = some (value, left) ∧ skipSpace left = c :: rest := by
  obtain @⟨before, s, after, _, early, denotes, late⟩ := element
  have stop : isSpace c = false := by rcases ends with rfl | rfl | rfl <;> decide
  refine ⟨after ++ c :: rest, ?_, skipSpace_to late stop rest⟩
  have follows : Follows (after ++ c :: rest) := by
    intro next head
    cases after with
    | nil => exact .inr (Option.some.inj head ▸ ends)
    | cons d after => exact .inl (Option.some.inj head ▸ late d (by simp))
  have enough : 2 * s.length < fuel := by
    simp only [List.length_append] at enough
    omega
  simpa using values early denotes follows enough

/-- After an item the list goes on or ends. -/
theorem readItems_element {fuel : Nat} (values : ReadsValues fuel) {s : List Char} {value : Json} {c : Char}
    (element : Element s value) (ends : c = ',' ∨ c = ']') (enough : 2 * s.length < fuel) (rest : List Char) :
    readItems (fuel + 1) (s ++ c :: rest) =
      if c = ',' then (readItems fuel rest).map fun (items, left) => (value :: items, left)
      else some ([value], rest) := by
  obtain ⟨left, read, stop⟩ := readValue_element values element (ends.imp_right .inl) enough rest
  rcases ends with rfl | rfl
  · cases others : readItems fuel rest <;> simp [readItems, read, stop, others]
  · simp [readItems, read, stop]

theorem readsItems_step {fuel : Nat} (values : ReadsValues fuel) (items : ReadsItems fuel) : ReadsItems (fuel + 1) := by
  intro s rest parsed parts enough
  cases parts with
  | last element =>
    rw [readItems_element values element (.inr rfl) (by omega), if_neg (by decide)]
  | @more first others value parsed element parts =>
    simp only [List.length_append, List.length_cons] at enough
    rw [List.append_assoc, List.cons_append, readItems_element values element (.inl rfl) (by omega), if_pos rfl,
      items parts (by omega)]
    rfl

/-- After a field the object goes on or ends. -/
theorem readFields_member {fuel : Nat} (values : ReadsValues fuel) {s : List Char} {field : String × Json} {c : Char}
    (member : Member s field) (ends : c = ',' ∨ c = '\x7d') (enough : 2 * s.length < fuel) (rest : List Char) :
    readFields (fuel + 1) (s ++ c :: rest) =
      if c = ',' then (readFields fuel rest).map fun (fields, left) => (field :: fields, left)
      else some ([field], rest) := by
  obtain ⟨early, written, between, element⟩ := member
  simp only [List.length_append, List.length_cons] at enough
  obtain ⟨left, read, stop⟩ := readValue_element values element (ends.imp_right .inr) (by omega) rest
  have named := readText_inside written
  have opening := skipSpace_to early (c := '"') (by decide)
  have colon := skipSpace_to between (c := ':') (by decide)
  rcases ends with rfl | rfl
  · cases others : readFields fuel rest <;> simp [readFields, opening, named, colon, read, stop, others]
  · simp [readFields, opening, named, colon, read, stop]

theorem readsFields_step {fuel : Nat} (values : ReadsValues fuel) (fields : ReadsFields fuel) :
    ReadsFields (fuel + 1) := by
  intro s rest parsed parts enough
  cases parts with
  | last member =>
    rw [readFields_member values member (.inr rfl) (by omega), if_neg (by decide)]
  | @more first others field parsed member parts =>
    simp only [List.length_append, List.length_cons] at enough
    rw [List.append_assoc, List.cons_append, readFields_member values member (.inl rfl) (by omega), if_pos rfl,
      fields parts (by omega)]
    rfl

theorem reads (fuel : Nat) : ReadsValues fuel ∧ ReadsItems fuel ∧ ReadsFields fuel := by
  -- A value hands one unit less to its parts, and they one less to their values: two for each character is enough.
  induction fuel with
  | zero => exact ⟨fun _ _ _ none => absurd none (by omega), fun _ none => absurd none (by omega),
      fun _ none => absurd none (by omega)⟩
  | succ fuel ih =>
    obtain ⟨values, items, fields⟩ := ih
    exact ⟨readsValues_step items fields, readsItems_step values items, readsFields_step values fields⟩

theorem parse?_element {s : List Char} {value : Json} (element : Element s value) :
    parse? (String.ofList s) = some value := by
  obtain @⟨before, s, after, _, early, denotes, late⟩ := element
  have follows : Follows after := fun c next => .inl (late c (List.mem_of_mem_head? next))
  have read : readValue (2 * (before ++ s ++ after).length + 2) (before ++ s ++ after) = some (value, after) := by
    rw [List.append_assoc]
    refine (reads _).1 early denotes follows ?_
    simp only [List.length_append]
    omega
  have blank : skipSpace after = [] := List.dropWhile_eq_nil_iff.mpr late
  rw [parse?, String.length_ofList, String.toList_ofList, read]
  simp [blank]

/-- No text denotes two values. -/
theorem Element.unique {s : List Char} {value other : Json} (element : Element s value) (same : Element s other) :
    other = value :=
  Option.some.inj ((parse?_element same).symm.trans (parse?_element element))

end Linewise.Json
