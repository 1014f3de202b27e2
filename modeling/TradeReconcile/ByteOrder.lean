import Mathlib.Data.List.Lex
import Mathlib.Data.String.Basic

/-!
# The byte order of texts

Texts are ordered by their code points, byte strings by unsigned bytes. UTF-8
keeps the order: where two characters differ, their encodings differ in a byte
before either ends, and the smaller character has the smaller byte there.
-/

namespace ByteOrder

/-- The bytes of a text in UTF-8. -/
def bytes (text : String) : List UInt8 := text.toList.flatMap String.utf8EncodeChar

/-- The two lists differ before either ends, and the first is smaller there. -/
inductive Below : List UInt8 → List UInt8 → Prop where
  | here {one two : UInt8} (less : one < two) (rest other : List UInt8) :
      Below (one :: rest) (two :: other)
  | later (shared : UInt8) {rest other : List UInt8} (below : Below rest other) :
      Below (shared :: rest) (shared :: other)

/-- What follows the difference does not matter. -/
theorem Below.append {one two : List UInt8} (below : Below one two) (rest other : List UInt8) :
    one ++ rest < two ++ other := by
  induction below with
  | here less => exact List.Lex.rel less
  | later shared _ inductionHypothesis => exact List.Lex.cons inductionHypothesis

/-- A smaller first byte decides, whatever follows. -/
theorem Below.of_bytes {one two : Nat} (less : one < two) (small : two < 256)
    (rest other : List UInt8) : Below (UInt8.ofNat one :: rest) (UInt8.ofNat two :: other) := by
  refine .here ?_ rest other
  rw [UInt8.lt_iff_toNat_lt, UInt8.toNat_ofNat', UInt8.toNat_ofNat']
  omega

/-- Leading bytes in weak order leave a strict difference to the rest. -/
theorem Below.cons {one two : Nat} {rest other : List UInt8} (atMost : one ≤ two)
    (small : two < 256) (below : one = two → Below rest other) :
    Below (UInt8.ofNat one :: rest) (UInt8.ofNat two :: other) := by
  by_cases same : one = two
  · rw [same]
    exact .later _ (below same)
  · exact .of_bytes (by omega) small rest other

/-- The encodings of different characters differ in the direction of the characters.
A longer encoding has the larger first byte, encodings of one length compare
digit by digit in base 64. -/
theorem encode_below {one two : Char} (less : one < two) :
    Below (String.utf8EncodeChar one) (String.utf8EncodeChar two) := by
  have less : one.val.toNat < two.val.toNat := less
  have bounded : two.val.toNat < 0x110000 := by
    obtain low | high := two.valid
    · exact low.trans (by decide)
    · exact high.2
  unfold String.utf8EncodeChar
  generalize one.val.toNat = v at less
  generalize two.val.toNat = w at less bounded
  dsimp only
  by_cases one₁ : v ≤ 0x7f
  · rw [if_pos one₁]
    split
    · exact .of_bytes less (by omega) _ _
    · split
      · exact .of_bytes (by omega) (by omega) _ _
      · split <;> exact .of_bytes (by omega) (by omega) _ _
  rw [if_neg one₁, if_neg (by omega : ¬w ≤ 0x7f)]
  by_cases one₂ : v ≤ 0x7ff
  · rw [if_pos one₂]
    split
    · refine .cons (by omega) (by omega) fun same => ?_
      exact .of_bytes (by omega) (by omega) _ _
    · split <;> exact .of_bytes (by omega) (by omega) _ _
  rw [if_neg one₂, if_neg (by omega : ¬w ≤ 0x7ff)]
  by_cases one₃ : v ≤ 0xffff
  · rw [if_pos one₃]
    split
    · refine .cons (by omega) (by omega) fun first => ?_
      refine .cons (by omega) (by omega) fun second => ?_
      exact .of_bytes (by omega) (by omega) _ _
    · exact .of_bytes (by omega) (by omega) _ _
  rw [if_neg one₃, if_neg (by omega : ¬w ≤ 0xffff)]
  refine .cons (by omega) (by omega) fun first => ?_
  refine .cons (by omega) (by omega) fun second => ?_
  refine .cons (by omega) (by omega) fun third => ?_
  exact .of_bytes (by omega) (by omega) _ _

/-- The order of texts is the order of their bytes. -/
theorem bytes_lt {one two : String} (less : one < two) : bytes one < bytes two := by
  rw [String.lt_iff_toList_lt] at less
  rw [bytes, bytes]
  generalize one.toList = first at less
  generalize two.toList = second at less
  change List.Lex (· < ·) first second at less
  induction less with
  | nil =>
    rw [List.flatMap_cons]
    cases encoded : String.utf8EncodeChar _ with
    | nil => exact absurd encoded String.utf8EncodeChar_ne_nil
    | cons byte rest => exact List.Lex.nil
  | cons _ inductionHypothesis =>
    rw [List.flatMap_cons, List.flatMap_cons]
    exact List.Lex.append_left _ inductionHypothesis _
  | rel less =>
    rw [List.flatMap_cons, List.flatMap_cons]
    exact (encode_below less).append _ _

end ByteOrder
