import Mathlib.Algebra.Order.Field.Rat
import Mathlib.Data.List.Induction
import Mathlib.Tactic.Positivity
import Mathlib.Tactic.Ring
import TradeReconcile.Decimal

/-!
# Decimal numerals

Numerals as they are written, with an optional sign and at most one point before, among or
after the digits, and the rational numbers they denote. A text is the text of at most one
numeral. Digits without a superfluous leading zero are the digits of their value.
-/

namespace Decimal

/-! Digits and their value. -/

/-- The character of a digit is a digit. -/
theorem isDigit_digitChar {value : Nat} (below : value < 10) : value.digitChar.isDigit = true := by
  revert value
  decide

/-- Every digit is the character of its value. -/
theorem digitChar_of_isDigit {c : Char} (digit : c.isDigit = true) :
    ∃ value < 10, c = value.digitChar := by
  have range : 48 ≤ c.toNat ∧ c.toNat ≤ 57 := by
    simpa [Char.isDigit, UInt32.le_iff_toNat_le] using digit
  refine ⟨c.toNat - 48, by omega, ?_⟩
  have within : c.toNat - 48 < 10 := by omega
  apply Char.toNat_inj.mp
  rw [Nat.toNat_digitChar_of_lt_ten within]
  omega

/-- One more digit at the end. -/
theorem ofDigitChars_snoc (digits : List Char) {value : Nat} (below : value < 10) :
    Nat.ofDigitChars 10 (digits ++ [value.digitChar]) 0 =
      10 * Nat.ofDigitChars 10 digits 0 + value := by
  rw [Nat.ofDigitChars_append, Nat.ofDigitChars_cons_digitChar_of_lt_ten below,
    Nat.ofDigitChars_nil]

/-- A number is below the power of ten of its length. -/
theorem ofDigitChars_lt {digits : List Char} (all : ∀ c ∈ digits, c.isDigit = true) :
    Nat.ofDigitChars 10 digits 0 < 10 ^ digits.length := by
  induction digits using List.reverseRecOn with
  | nil => simp
  | append_singleton digits last inductionHypothesis =>
    obtain ⟨value, below, rfl⟩ := digitChar_of_isDigit (all last (by simp))
    have smaller := inductionHypothesis fun c member => all c (by simp [member])
    rw [ofDigitChars_snoc digits below, List.length_append, List.length_singleton, Nat.pow_succ]
    omega

/-- Reading on never makes a number smaller. -/
theorem le_ofDigitChars (digits : List Char) (start : Nat) :
    start ≤ Nat.ofDigitChars 10 digits start := by
  rw [Nat.ofDigitChars_eq_ofDigitChars_zero]
  have scaled : start ≤ 10 ^ digits.length * start :=
    Nat.le_mul_of_pos_left start (Nat.pow_pos (by decide))
  omega

/-- Digits without a superfluous leading zero are the digits of their value. With the converse
this makes decimal texts of this form and numbers the same thing. -/
theorem toDigits_ofDigitChars {digits : List Char} (all : ∀ c ∈ digits, c.isDigit = true)
    (filled : digits ≠ []) (leading : digits.head? = some '0' → digits = ['0']) :
    Nat.toDigits 10 (Nat.ofDigitChars 10 digits 0) = digits := by
  induction digits using List.reverseRecOn with
  | nil => exact absurd rfl filled
  | append_singleton digits last inductionHypothesis =>
    obtain ⟨value, below, rfl⟩ := digitChar_of_isDigit (all last (by simp))
    have front : ∀ c ∈ digits, c.isDigit = true := fun c member => all c (by simp [member])
    rw [ofDigitChars_snoc digits below]
    cases first : digits with
    | nil => simpa using Nat.toDigits_of_lt_base below
    | cons c rest =>
      rw [first] at inductionHypothesis front leading
      -- More digits follow the first one, which therefore is no zero.
      have nonzero : c ≠ '0' := by
        intro zero
        have alone := leading (by simp [zero])
        simp at alone
      have digits := inductionHypothesis front (by simp) fun zero =>
        absurd (by simpa using zero) nonzero
      have positive : 0 < Nat.ofDigitChars 10 (c :: rest) 0 := by
        apply Nat.pos_of_ne_zero
        intro none
        rw [none, Nat.toDigits_zero] at digits
        exact nonzero (List.cons.inj digits).1.symm
      rw [← Nat.toDigits_append_toDigits (by decide) positive below, digits,
        Nat.toDigits_of_lt_base below]

/-- Only zero is written with a leading zero. -/
theorem toDigits_leading {number : Nat} (leading : (Nat.toDigits 10 number).head? = some '0') :
    number = 0 := by
  induction number using Nat.base_induction 10 (by decide) with
  | single digit small =>
    rw [Nat.toDigits_of_lt_base small, List.head?_cons, Option.some.injEq] at leading
    revert digit
    decide
  | digit front last small positive inductionHypothesis =>
    rw [← Nat.toDigits_append_toDigits (by decide) positive small,
      List.head?_append_of_ne_nil _ Nat.toDigits_ne_nil] at leading
    exact absurd (inductionHypothesis leading) positive.ne'

/-- Digits of one length are told apart by their value. -/
theorem digits_eq {one two : List Char} (allOne : ∀ c ∈ one, c.isDigit = true)
    (allTwo : ∀ c ∈ two, c.isDigit = true) (length : one.length = two.length)
    (same : Nat.ofDigitChars 10 one 0 = Nat.ofDigitChars 10 two 0) : one = two := by
  induction one using List.reverseRecOn generalizing two with
  | nil => exact (List.eq_nil_of_length_eq_zero length.symm).symm
  | append_singleton front last inductionHypothesis =>
    induction two using List.reverseRecOn with
    | nil => simp at length
    | append_singleton front' last' _ =>
      obtain ⟨value, below, rfl⟩ := digitChar_of_isDigit (allOne last (by simp))
      obtain ⟨value', below', rfl⟩ := digitChar_of_isDigit (allTwo last' (by simp))
      rw [ofDigitChars_snoc front below, ofDigitChars_snoc front' below'] at same
      have fronts : front = front' := inductionHypothesis
        (fun c member => allOne c (by simp [member])) (fun c member => allTwo c (by simp [member]))
        (by simpa using length) (by omega)
      have lasts : value = value' := by omega
      rw [fronts, lasts]

/-- A text of one-byte characters has as many bytes as characters. -/
theorem ascii_size {chars : List Char} (ascii : ∀ c ∈ chars, c.utf8Size = 1) :
    (String.ofList chars).utf8ByteSize = chars.length := by
  induction chars with
  | nil => rfl
  | cons c rest inductionHypothesis =>
    have shorter := inductionHypothesis fun d member => ascii d (List.mem_cons_of_mem c member)
    rw [String.ofList_cons, String.utf8ByteSize_append, String.utf8ByteSize_singleton,
      ascii c List.mem_cons_self, shorter, List.length_cons, Nat.add_comm]

/-! Numerals. -/

/-- What may stand before the digits. -/
inductive Sign where
  | none
  | plus
  | minus
deriving DecidableEq

def Sign.chars : Sign → List Char
  | .none => []
  | .plus => ['+']
  | .minus => ['-']

/-- A sign, digits and at most one point, with at least one digit. The fraction is what
follows the point, if there is a point. -/
structure Numeral where
  sign : Sign
  integer : List Char
  fraction : Option (List Char)
  digits : ∀ c ∈ integer ++ fraction.getD [], c.isDigit = true
  filled : integer ++ fraction.getD [] ≠ []

namespace Numeral

/-- The digits after the point. -/
def decimals (numeral : Numeral) : List Char := numeral.fraction.getD []

/-- What is written after the sign. -/
def body (numeral : Numeral) : List Char :=
  numeral.integer ++ (numeral.fraction.map ('.' :: ·)).getD []

/-- The characters of a numeral: its sign and its digits. -/
def chars (numeral : Numeral) : List Char := numeral.sign.chars ++ numeral.body

/-- A numeral as a text. -/
def text (numeral : Numeral) : String := String.ofList numeral.chars

@[simp] theorem text_toList (numeral : Numeral) : numeral.text.toList = numeral.chars :=
  String.toList_ofList

/-- The whole part of the magnitude. -/
def whole (numeral : Numeral) : Nat := Nat.ofDigitChars 10 numeral.integer 0

/-- The decimals, read as a number. -/
def part (numeral : Numeral) : Nat := Nat.ofDigitChars 10 numeral.decimals 0

/-- The number without the sign: the whole part and the decimals after it. -/
def magnitude (numeral : Numeral) : ℚ :=
  numeral.whole + numeral.part / 10 ^ numeral.decimals.length

/-- The number that a numeral denotes. -/
def value (numeral : Numeral) : ℚ :=
  match numeral.sign with
  | .minus => -numeral.magnitude
  | _ => numeral.magnitude

/-- The whole part is written with digits. -/
theorem integer_digits (numeral : Numeral) : ∀ c ∈ numeral.integer, c.isDigit = true :=
  fun c member => numeral.digits c (List.mem_append_left _ member)

/-- So are the decimals. -/
theorem decimals_digits (numeral : Numeral) : ∀ c ∈ numeral.decimals, c.isDigit = true :=
  fun c member => numeral.digits c (List.mem_append_right _ member)

/-- A numeral is written with signs, a point and digits. -/
theorem chars_cases (numeral : Numeral) {c : Char} (member : c ∈ numeral.chars) :
    c ∈ ['+', '-', '.'] ∨ c.isDigit = true := by
  rw [chars, body, List.mem_append, List.mem_append] at member
  obtain sign | integer | fraction := member
  · left
    cases mark : numeral.sign <;> simp [mark, Sign.chars] at sign <;> simp [sign]
  · exact .inr (numeral.digits c (List.mem_append_left _ integer))
  · cases written : numeral.fraction with
    | none => simp [written] at fraction
    | some decimals =>
      simp only [written, Option.map_some, Option.getD_some, List.mem_cons] at fraction
      obtain rfl | decimal := fraction
      · exact .inl (by decide)
      · exact .inr (numeral.digits c (by simp [written, decimal]))

/-- A numeral's text has as many bytes as characters. -/
theorem text_size (numeral : Numeral) : numeral.text.utf8ByteSize = numeral.chars.length := by
  apply ascii_size
  intro c member
  obtain mark | digit := numeral.chars_cases member
  · simp only [List.mem_cons, List.not_mem_nil, or_false] at mark
    obtain rfl | rfl | rfl := mark <;> rfl
  · obtain ⟨value, below, rfl⟩ := digitChar_of_isDigit digit
    exact digitChar_utf8Size below

/-- The decimals are below the power of ten of their length. -/
theorem part_lt (numeral : Numeral) : numeral.part < 10 ^ numeral.decimals.length :=
  ofDigitChars_lt numeral.decimals_digits

/-- Without its sign no numeral is negative. -/
theorem magnitude_nonneg (numeral : Numeral) : 0 ≤ numeral.magnitude := by
  unfold magnitude
  positivity

/-- The magnitude is the absolute value. -/
theorem abs_value (numeral : Numeral) : |numeral.value| = numeral.magnitude := by
  have magnitude := abs_of_nonneg numeral.magnitude_nonneg
  unfold value
  split
  · rw [abs_neg, magnitude]
  · exact magnitude

/-- The body starts with a digit or the point. -/
theorem body_head (numeral : Numeral) :
    ∃ first rest, numeral.body = first :: rest ∧ (first.isDigit = true ∨ first = '.') := by
  have digits := numeral.digits
  have filled := numeral.filled
  unfold body
  cases integer : numeral.integer with
  | cons first rest =>
    exact ⟨first, _, rfl, .inl (digits first (by simp [integer]))⟩
  | nil =>
    cases fraction : numeral.fraction with
    | none => simp [integer, fraction] at filled
    | some decimals => exact ⟨'.', decimals, rfl, .inr rfl⟩

/-- The digits before the first other character are the whole part; what is left is the point
and the fraction, if there is one. -/
theorem body_takeWhile (numeral : Numeral) :
    numeral.body.takeWhile Char.isDigit = numeral.integer ∧
      numeral.body.dropWhile Char.isDigit = (numeral.fraction.map ('.' :: ·)).getD [] := by
  have digits := numeral.integer_digits
  unfold body
  rw [List.takeWhile_append_of_pos digits, List.dropWhile_append_of_pos digits]
  cases numeral.fraction with
  | none => simp
  | some decimals => simp

/-- Two numerals with equal parts are equal. -/
theorem ext_fields {one two : Numeral} (sign : one.sign = two.sign)
    (integer : one.integer = two.integer) (fraction : one.fraction = two.fraction) : one = two := by
  cases one
  cases two
  cases sign
  cases integer
  cases fraction
  rfl

/-- A body is the body of one numeral up to the sign. -/
theorem body_injective {one two : Numeral} (same : one.body = two.body) :
    one.integer = two.integer ∧ one.fraction = two.fraction := by
  obtain ⟨integerOne, restOne⟩ := one.body_takeWhile
  obtain ⟨integerTwo, restTwo⟩ := two.body_takeWhile
  rw [same, restTwo] at restOne
  constructor
  · rw [← integerOne, same, integerTwo]
  · cases first : one.fraction <;> cases second : two.fraction <;> simp_all

/-- No sign is the first character of a body. -/
theorem sign_apart {numeral : Numeral} {sign : Char} {rest : List Char} (mark : sign ∈ ['+', '-']) :
    numeral.body ≠ sign :: rest := by
  intro same
  obtain ⟨first, others, starts, digit | point⟩ := numeral.body_head
  · obtain rfl : first = sign := (List.cons.inj (starts.symm.trans same)).1
    simp only [List.mem_cons, List.not_mem_nil, or_false] at mark
    obtain rfl | rfl := mark <;> cases digit
  · obtain rfl : first = sign := (List.cons.inj (starts.symm.trans same)).1
    rw [point] at mark
    exact absurd mark (by decide)

/-- A text is the text of one numeral. -/
theorem chars_injective {one two : Numeral} (same : one.chars = two.chars) : one = two := by
  have signs : one.sign = two.sign ∧ one.body = two.body := by
    unfold chars at same
    cases first : one.sign <;> cases second : two.sign <;>
      simp only [first, second, Sign.chars, List.nil_append, List.cons_append] at same
    all_goals first
      | exact ⟨rfl, by simpa using same⟩
      | exact absurd same (sign_apart (by decide))
      | exact absurd same.symm (sign_apart (by decide))
      | simp at same
  obtain ⟨integer, fraction⟩ := body_injective signs.2
  exact ext_fields signs.1 integer fraction

/-- Different numerals have different texts. -/
theorem text_injective {one two : Numeral} (same : one.text = two.text) : one = two := by
  apply chars_injective
  rw [← text_toList one, same, text_toList]

/-! One way to write each number. -/

/-- A numeral with `places` decimals and without a plus sign, a superfluous zero, a bare point
or a negated zero. -/
structure Canonical (places : Nat) (numeral : Numeral) : Prop where
  sign : numeral.sign ≠ .plus
  integer : numeral.integer ≠ []
  leading : numeral.integer.head? = some '0' → numeral.integer = ['0']
  decimals : numeral.decimals.length = places
  point : numeral.fraction ≠ some []
  negative : numeral.sign = .minus → numeral.value ≠ 0

/-- The magnitude in units of the last place. -/
theorem magnitude_scaled {places : Nat} {numeral : Numeral}
    (decimals : numeral.decimals.length = places) :
    10 ^ places * numeral.magnitude = ((numeral.whole * 10 ^ places + numeral.part : Nat) : ℚ) := by
  have nonzero : (10 : ℚ) ^ places ≠ 0 := by positivity
  rw [magnitude, decimals, mul_add, mul_div_cancel₀ _ nonzero]
  push_cast
  ring

/-- The integer part is written as the digits of its value. -/
theorem Canonical.toDigits_whole {places : Nat} {numeral : Numeral}
    (canonical : numeral.Canonical places) : Nat.toDigits 10 numeral.whole = numeral.integer :=
  toDigits_ofDigitChars numeral.integer_digits canonical.integer canonical.leading

/-- The sign of a canonical numeral is that of its value. -/
theorem Canonical.minus_iff {places : Nat} {numeral : Numeral}
    (canonical : numeral.Canonical places) : numeral.sign = .minus ↔ numeral.value < 0 := by
  have nonneg := numeral.magnitude_nonneg
  constructor
  · intro minus
    have nonzero := canonical.negative minus
    simp only [value, minus] at nonzero ⊢
    have positive := lt_of_le_of_ne nonneg fun zero => nonzero (by rw [← zero, neg_zero])
    exact neg_neg_of_pos positive
  · intro below
    by_contra other
    have plain : numeral.value = numeral.magnitude := by
      unfold value
      cases sign : numeral.sign <;> simp_all
    rw [plain] at below
    exact absurd below (not_lt.mpr nonneg)

/-- A number has one canonical numeral with given decimals: the sign, the whole part and the
decimals are all fixed by the value. -/
theorem Canonical.eq_of_value {places : Nat} {one two : Numeral} (first : one.Canonical places)
    (second : two.Canonical places) (same : one.value = two.value) : one = two := by
  have signs : one.sign = two.sign := by
    have minus := first.minus_iff.trans (same ▸ second.minus_iff.symm)
    have plusOne := first.sign
    have plusTwo := second.sign
    cases signOne : one.sign <;> cases signTwo : two.sign <;> simp_all
  have magnitudes : one.magnitude = two.magnitude := by rw [← abs_value, same, abs_value]
  have scaled : one.whole * 10 ^ places + one.part = two.whole * 10 ^ places + two.part := by
    have both := magnitude_scaled first.decimals
    rw [magnitudes, magnitude_scaled second.decimals] at both
    exact_mod_cast both.symm
  have partOne : one.part < 10 ^ places := first.decimals ▸ one.part_lt
  have partTwo : two.part < 10 ^ places := second.decimals ▸ two.part_lt
  have wholes : one.whole = two.whole := by
    have quotients := congrArg (· / 10 ^ places) scaled
    simpa [Nat.mul_add_div, Nat.mul_comm _ (10 ^ places), Nat.div_eq_of_lt partOne,
      Nat.div_eq_of_lt partTwo] using quotients
  have parts : one.part = two.part := by
    rw [wholes] at scaled
    exact Nat.add_left_cancel scaled
  have integers : one.integer = two.integer := by
    rw [← first.toDigits_whole, wholes, second.toDigits_whole]
  have decimals : one.decimals = two.decimals :=
    digits_eq one.decimals_digits two.decimals_digits (first.decimals.trans second.decimals.symm)
      parts
  have fractions : one.fraction = two.fraction := by
    have pointOne := first.point
    have pointTwo := second.point
    unfold Numeral.decimals at decimals
    cases fractionOne : one.fraction <;> cases fractionTwo : two.fraction <;> simp_all
  exact ext_fields signs integers fractions

end Numeral

end Decimal
