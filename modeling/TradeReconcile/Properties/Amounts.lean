import Mathlib.Tactic.Linarith
import TradeReconcile.Money

/-!
# Amounts as texts

Which texts are read as amounts, which amount each of them is, and how the written texts stand
among them. The integer part is compared with the limit before its last digit is appended, so
the limit that is kept is 1,000,000,010 yuan and not 1,000,000,000.
-/

namespace TradeReconcile.MoneyUtil

open Decimal (Numeral Sign)

/-- Range of a signed 64-bit number. -/
def FitsInt64 (value : Int) : Prop := -(2 ^ 63) ≤ value ∧ value < 2 ^ 63

/-! The number that a text denotes. -/

/-- A numeral with up to two decimals denotes its cents. -/
theorem magnitude_cents {numeral : Numeral} (decimals : numeral.decimals.length ≤ 2) :
    100 * numeral.magnitude = ((numeral.whole * 100 + cents numeral : Nat) : ℚ) := by
  have part := numeral.part_lt
  unfold Numeral.magnitude cents
  generalize numeral.decimals.length = count at *
  interval_cases count
  · obtain none : numeral.part = 0 := by omega
    simp [none]
    ring
  · push_cast
    norm_num
    ring
  · push_cast
    norm_num
    ring

/-- An amount is a hundred times the number of yuan, exactly. -/
theorem fenOf_value {numeral : Numeral} (decimals : numeral.decimals.length ≤ 2) :
    (fenOf numeral : ℚ) = 100 * numeral.value := by
  have magnitude := magnitude_cents decimals
  unfold fenOf Numeral.value
  cases numeral.sign with
  | none => exact_mod_cast magnitude.symm
  | plus => exact_mod_cast magnitude.symm
  | minus =>
    rw [mul_neg, magnitude]
    push_cast
    ring

/-- A bound on the number of whole yuan bounds the magnitude, since at most two decimals add
less than one yuan. -/
theorem whole_le_iff {numeral : Numeral} (decimals : numeral.decimals.length ≤ 2) (limit : Nat) :
    numeral.whole ≤ limit ↔ |numeral.value| < limit + 1 := by
  have magnitude := magnitude_cents decimals
  have cents := cents_lt decimals
  rw [numeral.abs_value]
  constructor
  · intro below
    have whole : numeral.whole * 100 + MoneyUtil.cents numeral < (limit + 1) * 100 := by omega
    have scaled : 100 * numeral.magnitude < ((limit + 1) * 100 : Nat) := by
      rw [magnitude]
      exact_mod_cast whole
    push_cast at scaled
    linarith
  · intro below
    have scaled : ((numeral.whole * 100 + MoneyUtil.cents numeral : Nat) : ℚ) <
        ((limit + 1) * 100 : Nat) := by
      rw [← magnitude]
      push_cast
      linarith
    have whole : numeral.whole * 100 + MoneyUtil.cents numeral < (limit + 1) * 100 := by
      exact_mod_cast scaled
    omega

/-- A numeral's text is as long as its characters. -/
theorem text_length (numeral : Numeral) : numeral.text.length = numeral.chars.length := by
  rw [← String.length_toList, Numeral.text_toList]

/-! The 64-bit operations. -/

/-- What the scan keeps of the integer part and of the decimals. -/
structure YuanScan.Within (scan : YuanScan) : Prop where
  yuan : 0 ≤ scan.yuan ∧ scan.yuan ≤ 1000000009
  digits : scan.fracDigits ≤ 2
  frac : 0 ≤ scan.frac ∧ scan.frac < 10 ^ scan.fracDigits

/-- A character keeps the scan within its limits. The guard on the yuan stands before the last
digit, hence the ten yuan above the documented limit. -/
theorem step_within {scan next : YuanScan} {c : Char} (within : scan.Within)
    (taken : scan.step c = some next) : next.Within := by
  obtain ⟨yuan, digits, frac⟩ := within
  obtain ⟨-, -, rfl⟩ | ⟨digit, small, -, ⟨-, limit, rfl⟩ | ⟨-, room, rfl⟩⟩ := step_cases taken
  · exact ⟨yuan, digits, frac⟩
  · constructor
    · dsimp only
      omega
    · exact digits
    · exact frac
  · constructor
    · exact yuan
    · dsimp only
      omega
    · dsimp only
      rw [pow_succ]
      omega

/-- The decimals stay below a hundred. -/
theorem YuanScan.Within.frac_lt {scan : YuanScan} (within : scan.Within) : scan.frac < 100 := by
  obtain ⟨-, digits, frac⟩ := within
  generalize scan.fracDigits = count at *
  interval_cases count <;> omega

/-- What a step computes stays within 64 bits. The bound on the whole part is tested before
the multiplication, so the product and the sum are far from the limit. -/
theorem operations_fit {scan : YuanScan} (within : scan.Within) (c : Char) :
    ∀ result ∈ scan.operations c, FitsInt64 result := by
  have yuan := within.yuan
  have frac := within.frac
  have small := within.frac_lt
  intro result member
  unfold YuanScan.operations at member
  split at member
  · cases member
  split at member
  · cases member
  · rename_i point inside
    rw [not_or, Char.not_lt, Char.not_lt] at inside
    have digit : 48 ≤ c.toNat ∧ c.toNat ≤ 57 := ⟨inside.1, inside.2⟩
    have zero : '0'.toNat = 48 := rfl
    simp only [zero] at member
    split at member
    all_goals
      split at member
      · cases member
      · simp only [List.mem_cons, List.not_mem_nil, or_false] at member
        obtain rfl | rfl := member
        · constructor <;> omega
        · constructor <;> omega

/-- The sum behind the loop and its negation. -/
theorem closing_fits {scan : YuanScan} (within : scan.Within) (negative : Bool) :
    ∀ result ∈ scanOperations negative scan [], FitsInt64 result := by
  have yuan := within.yuan
  have frac := within.frac
  have small := within.frac_lt
  intro result member
  rw [scanOperations] at member
  split at member
  · cases member
  · by_cases single : scan.fracDigits = 1
    · rw [single] at frac
      cases negative <;> simp [single] at member
      all_goals
        unfold FitsInt64
        omega
    · cases negative <;> simp [single] at member
      all_goals
        unfold FitsInt64
        omega

/-- So does what the scan computes, by induction on the characters. -/
theorem scanOperations_fit {scan : YuanScan} (within : scan.Within) (negative : Bool)
    (chars : List Char) : ∀ result ∈ scanOperations negative scan chars, FitsInt64 result := by
  induction chars generalizing scan with
  | nil => exact closing_fits within negative
  | cons c rest inductionHypothesis =>
    intro result member
    rw [scanOperations, List.mem_append] at member
    obtain here | later := member
    · exact operations_fit within c result here
    · cases taken : scan.step c with
      | none => simp [taken] at later
      | some next =>
        rw [taken] at later
        exact inductionHypothesis (step_within within taken) result later

/-- So does the whole reading. -/
theorem yuanStringToFen_fits (raw : String) :
    ∀ result ∈ yuanStringToFenOperations raw, FitsInt64 result := by
  intro result member
  rw [yuanStringToFenOperations] at member
  split at member
  · cases member
  · exact scanOperations_fit ⟨by decide, by decide, by decide⟩ _ _ result member

/-! What is read. -/

/-- Texts are read as the numbers they denote, and every text of the documented form within
the documented limit is read. Every text is meant, and no operation on the way leaves 64 bits,
since the scan refuses before it would. -/
theorem yuanStringToFen_reads (raw : String) :
    (∀ fen, yuanStringToFen raw = some fen →
      raw.length ≤ 20 ∧ ∃ numeral : Numeral, numeral.text = raw ∧ numeral.decimals.length ≤ 2 ∧
        (fen : ℚ) = 100 * numeral.value) ∧
    (∀ numeral : Numeral, numeral.text = raw → raw.length ≤ 20 → numeral.decimals.length ≤ 2 →
      |numeral.value| ≤ 10 ^ 9 → ∃ fen : Int, yuanStringToFen raw = some fen ∧
        (fen : ℚ) = 100 * numeral.value) ∧
    ∀ result ∈ yuanStringToFenOperations raw, FitsInt64 result := by
  refine ⟨?accepted, ?complete, yuanStringToFen_fits raw⟩
  case accepted =>
    intro fen accepted
    obtain ⟨numeral, rfl, short, -, decimals, rfl⟩ := yuanStringToFen_some accepted
    rw [text_length]
    exact ⟨short, numeral, rfl, decimals, fenOf_value decimals⟩
  case complete =>
    rintro numeral rfl short decimals limit
    rw [text_length] at short
    have whole : numeral.whole ≤ 1000000009 := by
      rw [whole_le_iff decimals]
      push_cast
      linarith
    refine ⟨fenOf numeral, ?_, fenOf_value decimals⟩
    rw [yuanStringToFen_text, if_pos ⟨short, whole, decimals⟩]

/-! The documented limit. -/

/-- The amount of a text in units of whole yuan. -/
theorem fenOf_le_iff {numeral : Numeral} (decimals : numeral.decimals.length ≤ 2) :
    |fenOf numeral| ≤ 10 ^ 11 ↔ |numeral.value| ≤ 10 ^ 9 := by
  have value := fenOf_value decimals
  have scaled : |(fenOf numeral : ℚ)| = 100 * |numeral.value| := by
    rw [value, abs_mul, abs_of_pos (by norm_num)]
  constructor
  · intro below
    have bound : |(fenOf numeral : ℚ)| ≤ 10 ^ 11 := by exact_mod_cast below
    linarith
  · intro below
    have bound : |(fenOf numeral : ℚ)| ≤ 10 ^ 11 := by linarith
    exact_mod_cast bound

/-- The documented limit holds except for the amounts of the ten yuan above it: the guard
stands before the last digit is added, so one digit of the integer part escapes it. -/
theorem amount_capped_iff (raw : String) :
    (∀ fen, yuanStringToFen raw = some fen → |fen| ≤ 10 ^ 11) ↔
      ¬(raw.length ≤ 20 ∧ ∃ numeral : Numeral, numeral.text = raw ∧ numeral.decimals.length ≤ 2 ∧
        10 ^ 9 < |numeral.value| ∧ |numeral.value| < 1000000010) := by
  constructor
  · rintro capped ⟨short, numeral, rfl, decimals, above, below⟩
    rw [text_length] at short
    have whole : numeral.whole ≤ 1000000009 := by
      rw [whole_le_iff decimals]
      push_cast
      linarith
    have accepted := capped (fenOf numeral) (by
      rw [yuanStringToFen_text, if_pos ⟨short, whole, decimals⟩])
    rw [fenOf_le_iff decimals] at accepted
    linarith
  · intro outside fen accepted
    obtain ⟨numeral, rfl, short, whole, decimals, rfl⟩ := yuanStringToFen_some accepted
    rw [fenOf_le_iff decimals]
    by_contra above
    rw [whole_le_iff decimals] at whole
    refine outside ⟨?_, numeral, rfl, decimals, by linarith, ?_⟩
    · rw [text_length]
      exact short
    · push_cast at whole
      linarith

/-- 1000000009.99 is read, a fen below the limit that the scan keeps and above the documented
one. -/
theorem amount_uncapped :
    ¬∀ raw fen, yuanStringToFen raw = some fen → |fen| ≤ 10 ^ 11 := by
  intro capped
  have read : yuanStringToFen "1000000009.99" = some 100000000999 := by decide
  have bound := capped _ _ read
  norm_num at bound

/-! Writing and reading. -/

/-- The numeral of an amount denotes it. -/
theorem yuanNumeral_value (fen : Int) : (fen : ℚ) = 100 * (yuanNumeral fen).value := by
  rw [← fenOf_value (yuanNumeral_decimals fen).le, fenOf_yuanNumeral]

/-- The numeral of an amount is canonical. -/
theorem yuanNumeral_canonical (fen : Int) : (yuanNumeral fen).Canonical 2 := by
  constructor
  case sign =>
    unfold yuanNumeral
    split <;> simp
  case integer => simp [yuanNumeral]
  case leading =>
    intro leading
    have zero := Decimal.toDigits_leading leading
    have integer : (yuanNumeral fen).integer = Nat.toDigits 10 (fen.natAbs / 100) := rfl
    rw [integer, zero, Nat.toDigits_zero]
  case decimals => exact yuanNumeral_decimals fen
  case point => simp [yuanNumeral]
  case negative =>
    intro minus zero
    have value : (fen : ℚ) = 0 := by rw [yuanNumeral_value, zero, mul_zero]
    obtain rfl : fen = 0 := by exact_mod_cast value
    cases minus

/-- A canonical text is the one that is written for its amount. -/
theorem yuanNumeral_fenOf {numeral : Numeral} (canonical : numeral.Canonical 2) :
    yuanNumeral (fenOf numeral) = numeral := by
  apply (yuanNumeral_canonical _).eq_of_value canonical
  have written := yuanNumeral_value (fenOf numeral)
  have read := fenOf_value canonical.decimals.le
  linarith

/-- Different amounts have different texts: they have different numerals. -/
theorem fenToYuanString_injective : Function.Injective fenToYuanString := by
  intro one two same
  rw [← yuanNumeral_text, ← yuanNumeral_text] at same
  rw [← fenOf_yuanNumeral one, Decimal.Numeral.text_injective same, fenOf_yuanNumeral]

/-- The unsigned detour takes the magnitude without an overflow, also of the least value. -/
theorem unsignedAbs_fits {fen : Int} (fits : FitsInt64 fen) :
    unsignedAbs fen = fen.natAbs ∧ unsignedAbs fen < 2 ^ 64 ∧
      ∀ result ∈ fenToYuanStringOperations fen, FitsInt64 result := by
  obtain ⟨lower, upper⟩ := fits
  unfold unsignedAbs fenToYuanStringOperations
  by_cases negative : fen < 0
  · rw [if_pos negative, if_pos negative]
    refine ⟨by omega, by omega, ?_⟩
    intro result member
    simp only [List.mem_cons, List.not_mem_nil, or_false] at member
    obtain rfl | rfl := member
    · constructor <;> omega
    · constructor <;> omega
  · rw [if_neg negative, if_neg negative]
    exact ⟨by omega, by omega, by simp⟩

/-- Writing and reading are inverse to each other on the canonical texts and the amounts up to
the documented limit. The canonical texts are exactly the accepted ones that come back
unchanged; no operation on the way leaves 64 bits, not even for the least amount. -/
theorem amounts_inverse :
    (∀ fen : Int, |fen| ≤ 10 ^ 11 → yuanStringToFen (fenToYuanString fen) = some fen) ∧
    (∀ raw fen, yuanStringToFen raw = some fen →
      yuanStringToFen (fenToYuanString fen) = some fen ∧
      (fenToYuanString fen = raw ↔ ∃ numeral : Numeral, numeral.text = raw ∧ numeral.Canonical 2)) ∧
    Function.Injective fenToYuanString ∧
    ∀ fen, FitsInt64 fen → unsignedAbs fen = fen.natAbs ∧ unsignedAbs fen < 2 ^ 64 ∧
      ∀ result ∈ fenToYuanStringOperations fen, FitsInt64 result := by
  refine ⟨?written, ?read, fenToYuanString_injective, fun fen => unsignedAbs_fits⟩
  case written =>
    intro fen below
    rw [yuanStringToFen_written, if_pos]
    rw [Int.abs_eq_natAbs] at below
    omega
  case read =>
    intro raw fen accepted
    have bound := yuanStringToFen_bound accepted
    constructor
    · rw [yuanStringToFen_written, if_pos (by omega)]
    · constructor
      · rintro rfl
        exact ⟨yuanNumeral fen, yuanNumeral_text fen, yuanNumeral_canonical fen⟩
      · rintro ⟨numeral, rfl, canonical⟩
        rw [yuanStringToFen_text] at accepted
        split at accepted
        · obtain rfl := Option.some.inj accepted
          rw [← yuanNumeral_text, yuanNumeral_fenOf canonical]
        · cases accepted

end TradeReconcile.MoneyUtil
