import Mathlib.Algebra.BigOperators.Group.List.Basic
import Mathlib.Algebra.Order.Ring.Int
import Mathlib.Algebra.Ring.Int.Defs
import Mathlib.Algebra.Ring.Nat
import Mathlib.Tactic.IntervalCases
import Mathlib.Tactic.Ring
import TradeReconcile.Numeral

/-!
# Amounts in fen

The application computes in 64-bit fen and meets the database's yuan columns
only in `MoneyUtil`. Amounts are unbounded integers here; `wrap64` stands at the
places where the 64-bit operation of the source could leave its range. The scan
of `yuanStringToFen` is the source's loop with its six variables, one character
per step, and every early exit of the loop is a `none`.
-/

namespace TradeReconcile

/-- The value a signed 64-bit operation leaves behind. -/
def wrap64 (value : Int) : Int := value.bmod (2 ^ 64)

/-- A 64-bit operation whose exact result fits is exact. -/
theorem wrap64_of_fits (value : Int) (lower : -(2 ^ 63) ≤ value) (upper : value < 2 ^ 63) :
    wrap64 value = value := by
  apply Int.bmod_eq_of_le <;> omega

/-- Range of a DECIMAL(18,2) column, in fen. -/
def fitsDecimal (fen : Int) : Bool := decide (-(10 ^ 18) < fen) && decide (fen < 10 ^ 18)

/-- An amount in fen is one of DECIMAL(18,2) if it has at most eighteen digits. -/
theorem fitsDecimal_iff {fen : Int} :
    fitsDecimal fen = true ↔ -(10 ^ 18) < fen ∧ fen < 10 ^ 18 := by
  simp [fitsDecimal]

namespace MoneyUtil

/-- Fen to yuan, always with two decimals. The magnitude is taken unsigned, so the smallest
64-bit number has a text as well. -/
def fenToYuanString (fen : Int) : String :=
  let abs := fen.natAbs
  let yuan := abs / 100
  let rem := abs % 100
  (if fen < 0 then "-" else "") ++ toString yuan ++ "." ++
    (if rem < 10 then "0" else "") ++ toString rem

/-- The loop variables of `yuanStringToFen`. -/
structure YuanScan where
  yuan : Int := 0
  frac : Int := 0
  fracDigits : Nat := 0
  seenDot : Bool := false
  seenDigit : Bool := false
deriving DecidableEq

/-- One character of the amount. The range test looks at the integer part
before the digit is appended. -/
def YuanScan.step (scan : YuanScan) (c : Char) : Option YuanScan :=
  if c = '.' then
    if scan.seenDot then none else some { scan with seenDot := true }
  else if c < '0' ∨ '9' < c then none
  else
    let d : Int := c.toNat - '0'.toNat
    if !scan.seenDot then
      if scan.yuan > 100000000 then none
      else some { scan with seenDigit := true, yuan := scan.yuan * 10 + d }
    else if scan.fracDigits + 1 > 2 then none
    else some { scan with
      seenDigit := true, fracDigits := scan.fracDigits + 1, frac := scan.frac * 10 + d }

/-- The sign is consumed once, before the loop. -/
def splitSign : List Char → Bool × List Char
  | '+' :: rest => (false, rest)
  | '-' :: rest => (true, rest)
  | chars => (false, chars)

/-- Yuan text to fen, refusing anything that is not a plain decimal amount: spaces, exponents,
a second sign, a second point or a third decimal. -/
def yuanStringToFen (raw : String) : Option Int :=
  if raw.isEmpty || raw.utf8ByteSize > 20 then none
  else
    let (negative, rest) := splitSign raw.toList
    match rest.foldlM YuanScan.step {} with
    | none => none
    | some scan =>
      if !scan.seenDigit then none
      else
        let frac := if scan.fracDigits = 1 then scan.frac * 10 else scan.frac
        let fen := scan.yuan * 100 + frac
        some (if negative then -fen else fen)

example : yuanStringToFen "399.5" = some 39950 ∧ yuanStringToFen "-12.50" = some (-1250) ∧
    yuanStringToFen "1.234" = none ∧ fenToYuanString (-5) = "-0.05" := by decide

/-! The 64-bit operations of both functions, in the order in which they run. -/

/-- The operations of one iteration, none where the loop is left before. They are listed in
the order in which the source performs them. -/
def YuanScan.operations (scan : YuanScan) (c : Char) : List Int :=
  if c = '.' then []
  else if c < '0' ∨ '9' < c then []
  else
    let d : Int := c.toNat - '0'.toNat
    if !scan.seenDot then
      if scan.yuan > 100000000 then [] else [scan.yuan * 10, scan.yuan * 10 + d]
    else if scan.fracDigits + 1 > 2 then []
    else [scan.frac * 10, scan.frac * 10 + d]

/-- The loop, followed by the sum and its negation. -/
def scanOperations (negative : Bool) (scan : YuanScan) : List Char → List Int
  | [] =>
    if !scan.seenDigit then []
    else
      let frac := if scan.fracDigits = 1 then scan.frac * 10 else scan.frac
      let fen := scan.yuan * 100 + frac
      (if scan.fracDigits = 1 then [frac] else []) ++ [scan.yuan * 100, fen] ++
        (if negative then [-fen] else [])
  | c :: rest =>
    scan.operations c ++
      match scan.step c with
      | none => []
      | some next => scanOperations negative next rest

/-- The results of the signed operations that reading performs. -/
def yuanStringToFenOperations (raw : String) : List Int :=
  if raw.isEmpty || raw.utf8ByteSize > 20 then []
  else
    let (negative, rest) := splitSign raw.toList
    scanOperations negative {} rest

/-- The magnitude as the source takes it: the last 1 is added to the unsigned number. -/
def unsignedAbs (fen : Int) : Nat :=
  if fen < 0 then (-(fen + 1)).toNat + 1 else fen.toNat

/-- The signed operations that lead to the magnitude. -/
def fenToYuanStringOperations (fen : Int) : List Int :=
  if fen < 0 then [fen + 1, -(fen + 1)] else []

/-! Numerals under the scan. -/

open Decimal (Numeral Sign)

/-- The decimals of a numeral, filled up to two. -/
def cents (numeral : Numeral) : Nat :=
  if numeral.decimals.length = 1 then numeral.part * 10 else numeral.part

/-- There are fewer than a hundred cents. -/
theorem cents_lt {numeral : Numeral} (decimals : numeral.decimals.length ≤ 2) :
    cents numeral < 100 := by
  have part := numeral.part_lt
  unfold cents
  generalize numeral.decimals.length = count at *
  interval_cases count <;> simp at * <;> omega

/-- The amount in fen that a numeral with at most two decimals denotes. -/
def fenOf (numeral : Numeral) : Int :=
  match numeral.sign with
  | .minus => -(numeral.whole * 100 + cents numeral : Nat)
  | _ => (numeral.whole * 100 + cents numeral : Nat)

/-- The magnitude of the amount is in whole yuan and cents. -/
theorem fenOf_natAbs (numeral : Numeral) :
    (fenOf numeral).natAbs = numeral.whole * 100 + cents numeral := by
  unfold fenOf
  split
  · rw [Int.natAbs_neg, Int.natAbs_natCast]
  · exact Int.natAbs_natCast _

/-- What the scan does with a digit: before the point the yuan grow, if they may, and after it
the cents. -/
theorem digit_step {digit : Nat} (below : digit < 10) (scan : YuanScan) :
    scan.step digit.digitChar =
      if !scan.seenDot then
        if scan.yuan > 100000000 then none
        else some { scan with seenDigit := true, yuan := scan.yuan * 10 + digit }
      else if scan.fracDigits + 1 > 2 then none
      else some { scan with
        seenDigit := true, fracDigits := scan.fracDigits + 1, frac := scan.frac * 10 + digit } := by
  have range : digit.digitChar ≠ '.' ∧ ¬(digit.digitChar < '0' ∨ '9' < digit.digitChar) := by
    revert digit
    decide
  have value : (digit.digitChar.toNat : Int) - '0'.toNat = digit := by
    rw [Nat.toNat_digitChar_of_lt_ten below]
    simp
  rw [YuanScan.step, if_neg range.1, if_neg range.2]
  simp only [value]

/-- Integer digits are read as long as their value is below the limit of the last digit. The
limit is tested before each digit is added, so the last digit is added without a test. -/
theorem scan_integer {digits : List Char} (all : ∀ c ∈ digits, c.isDigit = true) (start : Nat)
    (below : start ≤ 1000000009) (seen : Bool) :
    digits.foldlM YuanScan.step { yuan := start, seenDigit := seen } =
      if Nat.ofDigitChars 10 digits start ≤ 1000000009 then
        some { yuan := Nat.ofDigitChars 10 digits start, seenDigit := seen || !digits.isEmpty }
      else none := by
  induction digits generalizing start seen with
  | nil => simp [List.foldlM, below]
  | cons c rest inductionHypothesis =>
    obtain ⟨digit, small, rfl⟩ := Decimal.digitChar_of_isDigit (all c List.mem_cons_self)
    have others : ∀ c ∈ rest, c.isDigit = true :=
      fun c member => all c (List.mem_cons_of_mem _ member)
    rw [List.foldlM_cons, digit_step small, Nat.ofDigitChars_cons_digitChar_of_lt_ten small]
    -- The guard looks at the value before the digit, the bound at the value behind it.
    by_cases long : 100000000 < start
    · have beyond : ¬Nat.ofDigitChars 10 rest (10 * start + digit) ≤ 1000000009 := by
        have more := Decimal.le_ofDigitChars rest (10 * start + digit)
        omega
      have limit : (start : Int) > 100000000 := by omega
      rw [if_neg beyond]
      simp [limit]
    · have limit : ¬(start : Int) > 100000000 := by omega
      have appended : (start : Int) * 10 + digit = (10 * start + digit : Nat) := by push_cast; ring
      have read := inductionHypothesis others (10 * start + digit) (by omega) true
      simpa [limit, appended] using read

/-- Decimals are read as long as there are two at most. The whole part is not touched, and the
count of decimals is what the closing line scales by. -/
theorem scan_decimals {digits : List Char} (all : ∀ c ∈ digits, c.isDigit = true) (yuan : Int)
    (start count : Nat) (room : count ≤ 2) (seen : Bool) :
    digits.foldlM YuanScan.step
        { yuan := yuan, frac := start, fracDigits := count, seenDot := true, seenDigit := seen } =
      if count + digits.length ≤ 2 then
        some { yuan := yuan, frac := Nat.ofDigitChars 10 digits start,
               fracDigits := count + digits.length, seenDot := true,
               seenDigit := seen || !digits.isEmpty }
      else none := by
  induction digits generalizing start count seen with
  | nil => simp [List.foldlM, room]
  | cons c rest inductionHypothesis =>
    obtain ⟨digit, small, rfl⟩ := Decimal.digitChar_of_isDigit (all c List.mem_cons_self)
    have others : ∀ c ∈ rest, c.isDigit = true :=
      fun c member => all c (List.mem_cons_of_mem _ member)
    rw [List.foldlM_cons, digit_step small, Nat.ofDigitChars_cons_digitChar_of_lt_ten small,
      List.length_cons]
    by_cases more : count + 1 > 2
    · have beyond : ¬count + (rest.length + 1) ≤ 2 := by omega
      rw [if_neg beyond]
      simp [more]
    · have appended : (start : Int) * 10 + digit = (10 * start + digit : Nat) := by push_cast; ring
      have sum : count + 1 + rest.length = count + (rest.length + 1) := by omega
      have read := inductionHypothesis others (10 * start + digit) (count + 1) (by omega) true
      simpa [more, appended, sum] using read

/-- The scan of what follows the sign. It is the scan of the whole part, then of the point if
there is one, then of the decimals, and it fails where one of these does. -/
theorem scan_body (numeral : Numeral) :
    numeral.body.foldlM YuanScan.step {} =
      if numeral.whole ≤ 1000000009 ∧ numeral.decimals.length ≤ 2 then
        some { yuan := numeral.whole, frac := numeral.part, fracDigits := numeral.decimals.length,
               seenDot := numeral.fraction.isSome, seenDigit := true }
      else none := by
  have filled := numeral.filled
  have integer : numeral.integer.foldlM YuanScan.step {} =
      if numeral.whole ≤ 1000000009 then
        some { yuan := numeral.whole, seenDigit := !numeral.integer.isEmpty }
      else none :=
    scan_integer numeral.integer_digits 0 (by decide) false
  rw [Numeral.body, List.foldlM_append, integer]
  by_cases below : numeral.whole ≤ 1000000009
  · cases fraction : numeral.fraction with
    | none =>
      have decimals : numeral.decimals = [] := by simp [Numeral.decimals, fraction]
      have part : numeral.part = 0 := by simp [Numeral.part, decimals]
      have started : numeral.integer.isEmpty = false := by simpa [fraction] using filled
      simp [below, decimals, part, started]
    | some digits =>
      have decimals : numeral.decimals = digits := by simp [Numeral.decimals, fraction]
      have started : (!numeral.integer.isEmpty || !digits.isEmpty) = true := by
        simp only [fraction, Option.getD_some] at filled
        cases integral : numeral.integer <;> cases digits <;> simp_all
      have read := scan_decimals numeral.decimals_digits numeral.whole 0 0 (by decide)
        (!numeral.integer.isEmpty)
      rw [decimals, started, Nat.zero_add] at read
      simpa [List.foldlM, YuanScan.step, below, decimals, Numeral.part] using read
  · simp [below]

/-- The sign is taken off a numeral. -/
theorem splitSign_chars (numeral : Numeral) :
    splitSign numeral.chars = (decide (numeral.sign = .minus), numeral.body) := by
  cases sign : numeral.sign with
  | none =>
    rw [Numeral.chars, sign, Sign.chars, List.nil_append, splitSign]
    · rfl
    · intro rest
      exact Decimal.Numeral.sign_apart (by decide)
    · intro rest
      exact Decimal.Numeral.sign_apart (by decide)
  | plus => simp [Numeral.chars, sign, Sign.chars, splitSign]
  | minus => simp [Numeral.chars, sign, Sign.chars, splitSign]

/-- What the conversion makes of a numeral: its exact value in fen, if the text is short
enough, the whole part within its limit and the decimals at most two, and nothing
otherwise. -/
theorem yuanStringToFen_text (numeral : Numeral) :
    yuanStringToFen numeral.text =
      if numeral.chars.length ≤ 20 ∧ numeral.whole ≤ 1000000009 ∧ numeral.decimals.length ≤ 2 then
        some (fenOf numeral)
      else none := by
  obtain ⟨first, rest, body, -⟩ := numeral.body_head
  have filled : numeral.text.isEmpty = false := by
    have some : numeral.text.toList ≠ [] := by simp [Numeral.chars, body]
    simpa [← String.toList_eq_nil_iff] using some
  rw [yuanStringToFen, filled, numeral.text_size]
  by_cases short : numeral.chars.length ≤ 20
  · have fits : ¬numeral.chars.length > 20 := by omega
    simp only [fits, decide_false, Bool.or_false, Bool.false_eq_true, if_false,
      Numeral.text_toList, splitSign_chars, scan_body, short, true_and]
    by_cases read : numeral.whole ≤ 1000000009 ∧ numeral.decimals.length ≤ 2
    · rw [if_pos read, if_pos read, fenOf]
      by_cases single : numeral.decimals.length = 1
      · cases sign : numeral.sign <;> simp [single, cents]
      · cases sign : numeral.sign <;> simp [single, cents]
    · rw [if_neg read, if_neg read]
  · have long : numeral.chars.length > 20 := by omega
    simp [long, short]

/-! Every accepted text is a numeral. -/

/-- What a step of the scan can do: pass the point, read a digit of the whole part below its
limit, or read one of two decimals. Any other character, and a second point, ends the scan. -/
theorem step_cases {scan next : YuanScan} {c : Char} (taken : scan.step c = some next) :
    (c = '.' ∧ scan.seenDot = false ∧ next = { scan with seenDot := true }) ∨
    ∃ digit < 10, c = Nat.digitChar digit ∧
      ((scan.seenDot = false ∧ scan.yuan ≤ 100000000 ∧
        next = { scan with seenDigit := true, yuan := scan.yuan * 10 + digit }) ∨
      (scan.seenDot = true ∧ scan.fracDigits < 2 ∧
        next = { scan with seenDigit := true, fracDigits := scan.fracDigits + 1,
                           frac := scan.frac * 10 + digit })) := by
  by_cases digit : c.isDigit = true
  · obtain ⟨value, small, rfl⟩ := Decimal.digitChar_of_isDigit digit
    rw [digit_step small] at taken
    refine .inr ⟨value, small, rfl, ?_⟩
    cases dot : scan.seenDot with
    | false =>
      by_cases long : scan.yuan > 100000000
      · simp [dot, long] at taken
      · simp only [dot, long, Bool.not_false, if_true, if_false, Option.some.injEq] at taken
        exact .inl ⟨rfl, by omega, taken.symm⟩
    | true =>
      by_cases full : scan.fracDigits + 1 > 2
      · simp [dot, full] at taken
      · simp only [dot, full, Bool.not_true, Bool.false_eq_true, if_false, Option.some.injEq]
          at taken
        exact .inr ⟨rfl, by omega, taken.symm⟩
  · rw [YuanScan.step] at taken
    by_cases point : c = '.'
    · rw [if_pos point] at taken
      cases dot : scan.seenDot with
      | false =>
        rw [dot] at taken
        exact .inl ⟨point, rfl, (Option.some.inj taken).symm⟩
      | true => simp [dot] at taken
    · have outside : c < '0' ∨ '9' < c := by
        rw [← Char.not_le, ← Char.not_le, ← not_and_or]
        intro inside
        exact digit (by simpa [Char.isDigit, Char.le_def] using inside)
      rw [if_neg point, if_pos outside] at taken
      cases taken

/-- After the point there are only digits. -/
theorem scan_after_point {chars : List Char} {scan last : YuanScan} (point : scan.seenDot = true)
    (scanned : chars.foldlM YuanScan.step scan = some last) :
    (∀ c ∈ chars, c.isDigit = true) ∧
      (last.seenDigit = true → scan.seenDigit = true ∨ chars ≠ []) := by
  induction chars generalizing scan with
  | nil =>
    obtain rfl := Option.some.inj scanned
    exact ⟨by simp, .inl⟩
  | cons c rest inductionHypothesis =>
    rw [List.foldlM_cons] at scanned
    obtain ⟨next, taken, scanned⟩ := Option.bind_eq_some_iff.mp scanned
    obtain ⟨-, fresh, -⟩ | ⟨digit, small, rfl, ⟨fresh, -⟩ | ⟨-, -, rfl⟩⟩ := step_cases taken
    · simp [point] at fresh
    · simp [point] at fresh
    · obtain ⟨digits, -⟩ := inductionHypothesis (by exact point) scanned
      exact ⟨by simpa [Decimal.isDigit_digitChar small] using digits, fun _ => .inr (by simp)⟩

/-- Digits, then possibly a point and more digits. -/
theorem scan_reads {chars : List Char} {scan last : YuanScan} (fresh : scan.seenDot = false)
    (scanned : chars.foldlM YuanScan.step scan = some last) :
    ∃ integer, ∃ fraction : Option (List Char),
      chars = integer ++ (fraction.map ('.' :: ·)).getD [] ∧
      (∀ c ∈ integer ++ fraction.getD [], c.isDigit = true) ∧
      (last.seenDigit = true → scan.seenDigit = true ∨ integer ++ fraction.getD [] ≠ []) := by
  induction chars generalizing scan with
  | nil =>
    obtain rfl := Option.some.inj scanned
    exact ⟨[], none, rfl, by simp, .inl⟩
  | cons c rest inductionHypothesis =>
    rw [List.foldlM_cons] at scanned
    obtain ⟨next, taken, scanned⟩ := Option.bind_eq_some_iff.mp scanned
    obtain ⟨rfl, -, rfl⟩ | ⟨digit, small, rfl, ⟨-, -, rfl⟩ | ⟨point, -⟩⟩ := step_cases taken
    · obtain ⟨digits, seen⟩ := scan_after_point rfl scanned
      exact ⟨[], some rest, rfl, digits, seen⟩
    · obtain ⟨integer, fraction, rfl, digits, -⟩ := inductionHypothesis (by exact fresh) scanned
      exact ⟨digit.digitChar :: integer, fraction, rfl,
        by simpa [Decimal.isDigit_digitChar small] using digits, fun _ => .inr (by simp)⟩
    · simp [fresh] at point

/-- The sign is a part of the text. -/
theorem splitSign_cases (chars : List Char) :
    ∃ sign : Sign, chars = sign.chars ++ (splitSign chars).2 := by
  unfold splitSign
  split
  · exact ⟨.plus, rfl⟩
  · exact ⟨.minus, rfl⟩
  · exact ⟨.none, rfl⟩

/-- Only numerals are read. -/
theorem yuanStringToFen_numeral {raw : String} {fen : Int}
    (accepted : yuanStringToFen raw = some fen) :
    ∃ numeral : Numeral, numeral.text = raw := by
  rw [yuanStringToFen] at accepted
  split at accepted
  · cases accepted
  · dsimp only at accepted
    obtain ⟨sign, split⟩ := splitSign_cases raw.toList
    cases scanned : (splitSign raw.toList).2.foldlM YuanScan.step {} with
    | none =>
      rw [scanned] at accepted
      cases accepted
    | some last =>
      rw [scanned] at accepted
      by_cases seen : last.seenDigit = true
      · obtain ⟨integer, fraction, body, digits, filled⟩ := scan_reads rfl scanned
        have some : integer ++ fraction.getD [] ≠ [] := by simpa using filled seen
        refine ⟨{ sign, integer, fraction, digits, filled := some }, ?_⟩
        apply String.toList_inj.mp
        rw [Numeral.text_toList, Numeral.chars, Numeral.body, split, body]
      · simp [seen] at accepted

/-- What an accepted text is, and the amount that it gives. -/
theorem yuanStringToFen_some {raw : String} {fen : Int} (accepted : yuanStringToFen raw = some fen) :
    ∃ numeral : Numeral, numeral.text = raw ∧ numeral.chars.length ≤ 20 ∧
      numeral.whole ≤ 1000000009 ∧ numeral.decimals.length ≤ 2 ∧ fen = fenOf numeral := by
  obtain ⟨numeral, rfl⟩ := yuanStringToFen_numeral accepted
  rw [yuanStringToFen_text] at accepted
  split at accepted
  · rename_i read
    exact ⟨numeral, rfl, read.1, read.2.1, read.2.2, (Option.some.inj accepted).symm⟩
  · cases accepted

/-- An accepted text has a sign, digits and a point only. -/
theorem yuanStringToFen_chars {raw : String} {fen : Int} (accepted : yuanStringToFen raw = some fen) :
    ∀ c ∈ raw.toList, c ∈ ['+', '-', '.'] ∨ '0' ≤ c ∧ c ≤ '9' := by
  obtain ⟨numeral, rfl⟩ := yuanStringToFen_numeral accepted
  intro c member
  rw [Numeral.text_toList] at member
  obtain mark | digit := numeral.chars_cases member
  · exact .inl mark
  · exact .inr (by simpa [Char.isDigit, Char.le_def] using digit)

/-- The limit of the integer part bounds every accepted amount. -/
theorem yuanStringToFen_bound {raw : String} {fen : Int} (accepted : yuanStringToFen raw = some fen) :
    fen.natAbs ≤ 100000000999 := by
  obtain ⟨numeral, -, -, whole, decimals, rfl⟩ := yuanStringToFen_some accepted
  have cents := cents_lt decimals
  rw [fenOf_natAbs]
  omega

/-! The numeral that is written. -/

/-- An amount in yuan, with its two decimals. -/
def yuanNumeral (fen : Int) : Numeral where
  sign := if fen < 0 then .minus else .none
  integer := Nat.toDigits 10 (fen.natAbs / 100)
  fraction := some [(fen.natAbs % 100 / 10).digitChar, (fen.natAbs % 100 % 10).digitChar]
  digits := by
    intro c member
    obtain integer | fraction := List.mem_append.mp member
    · exact Decimal.toDigits_isDigit _ c integer
    · simp only [Option.getD_some, List.mem_cons, List.not_mem_nil, or_false] at fraction
      obtain rfl | rfl := fraction
      · exact Decimal.isDigit_digitChar (by omega)
      · exact Decimal.isDigit_digitChar (by omega)
  filled := by simp

/-- The text of an amount is a numeral's. -/
theorem yuanNumeral_text (fen : Int) : (yuanNumeral fen).text = fenToYuanString fen := by
  have padded := Decimal.padded_toList (show fen.natAbs % 100 < 100 by omega)
  apply String.toList_inj.mp
  rw [String.toList_append] at padded
  by_cases negative : fen < 0
  · simpa [Numeral.chars, Numeral.body, yuanNumeral, fenToYuanString, Sign.chars, negative]
      using padded.symm
  · simpa [Numeral.chars, Numeral.body, yuanNumeral, fenToYuanString, Sign.chars, negative]
      using padded.symm

@[simp] theorem yuanNumeral_decimals (fen : Int) : (yuanNumeral fen).decimals.length = 2 := rfl

@[simp] theorem yuanNumeral_whole (fen : Int) : (yuanNumeral fen).whole = fen.natAbs / 100 :=
  Nat.ofDigitChars_ten_toDigits

@[simp] theorem yuanNumeral_part (fen : Int) : (yuanNumeral fen).part = fen.natAbs % 100 := by
  have tens : fen.natAbs % 100 / 10 < 10 := by omega
  have units : fen.natAbs % 100 % 10 < 10 := by omega
  rw [Numeral.part, Numeral.decimals, yuanNumeral, Option.getD_some,
    Nat.ofDigitChars_cons_digitChar_of_lt_ten tens, Nat.ofDigitChars_cons_digitChar_of_lt_ten units,
    Nat.ofDigitChars_nil]
  omega

/-- The written numeral denotes the amount. -/
theorem fenOf_yuanNumeral (fen : Int) : fenOf (yuanNumeral fen) = fen := by
  have size : fen.natAbs / 100 * 100 + fen.natAbs % 100 = fen.natAbs := by omega
  have cents : cents (yuanNumeral fen) = fen.natAbs % 100 := by simp [cents]
  simp only [fenOf, cents, yuanNumeral_whole, size]
  by_cases negative : fen < 0
  · have sign : (yuanNumeral fen).sign = .minus := if_pos negative
    simp only [sign]
    omega
  · have sign : (yuanNumeral fen).sign = .none := if_neg negative
    simp only [sign]
    omega

/-- The text of an amount up to the scan's limit is no longer than what is read. -/
theorem yuanNumeral_short {fen : Int} (below : fen.natAbs / 100 ≤ 1000000009) :
    (yuanNumeral fen).chars.length ≤ 20 := by
  have integer : (Nat.toDigits 10 (fen.natAbs / 100)).length ≤ 10 :=
    (Nat.length_toDigits_le_iff (by decide) (by decide)).mpr (by omega)
  have sign : (yuanNumeral fen).sign.chars.length ≤ 1 := by
    cases (yuanNumeral fen).sign <;> decide
  have body : (yuanNumeral fen).body.length = (Nat.toDigits 10 (fen.natAbs / 100)).length + 3 := by
    simp [Numeral.body, yuanNumeral]
  rw [Numeral.chars, List.length_append]
  omega

/-- What is written is read back up to the limit of the integer part. -/
theorem yuanStringToFen_written (fen : Int) :
    yuanStringToFen (fenToYuanString fen) =
      if fen.natAbs / 100 ≤ 1000000009 then some fen else none := by
  rw [← yuanNumeral_text, yuanStringToFen_text, fenOf_yuanNumeral, yuanNumeral_whole]
  by_cases below : fen.natAbs / 100 ≤ 1000000009
  · have short := yuanNumeral_short below
    simp [below, short]
  · simp [below]

/-- Amounts up to the limit survive the way to yuan and back. -/
theorem yuanStringToFen_fenToYuanString {fen : Nat} (below : fen ≤ 100000000999) :
    yuanStringToFen (fenToYuanString fen) = some (fen : Int) := by
  rw [yuanStringToFen_written, if_pos (by omega)]

/-- Amounts above the limit are written, but not read. -/
theorem yuanStringToFen_over {fen : Nat} (above : 100000000999 < fen) :
    yuanStringToFen (fenToYuanString fen) = none := by
  rw [yuanStringToFen_written, if_neg (by omega)]

end MoneyUtil

end TradeReconcile
