import TradeReconcile.Services.Reconcile

/-!
# What the bill reader accepts

`std::getline` splits a text like a plain split at the delimiter, except that an
empty last piece is never read. The reader asks for at least four pieces. A line
of the bill's four fields is therefore read as long as its last field is not
empty, and a line with further fields is read as if they were absent.
-/

namespace TradeReconcile

/-- The pieces of a split without an empty last one. -/
def withoutEmptyLast : List (List Char) → List (List Char)
  | [] => []
  | [piece] => if piece.isEmpty then [] else [piece]
  | piece :: next :: rest => piece :: withoutEmptyLast (next :: rest)

/-- Only the last piece may go. -/
theorem withoutEmptyLast_starts (pieces : List (List Char)) : withoutEmptyLast pieces <+: pieces := by
  fun_induction withoutEmptyLast pieces with
  | case1 => exact List.nil_prefix
  | case2 piece empty => exact List.nil_prefix
  | case3 piece more => exact List.prefix_rfl
  | case4 piece next rest inductionHypothesis =>
    exact List.cons_prefix_cons.mpr ⟨rfl, inductionHypothesis⟩

/-- The started piece is the front of the first one of the split. -/
theorem getlines_eq (delimiter : Char) (piece chars : List Char) :
    getlines delimiter piece chars =
      withoutEmptyLast ((chars.splitOn delimiter).modifyHead (piece.reverse ++ ·)) := by
  induction chars generalizing piece with
  | nil =>
    cases piece with
    | nil => rfl
    | cons c rest => simp [getlines, withoutEmptyLast]
  | cons c rest inductionHypothesis =>
    rw [getlines, List.splitOn_cons_eq_if_modifyHead]
    · by_cases ends : c = delimiter
      · rw [if_pos ends, if_pos (beq_iff_eq.mpr ends), inductionHypothesis]
        cases pieces : rest.splitOn delimiter with
        | nil => exact absurd pieces (List.splitOn_ne_nil delimiter rest)
        | cons first others => simp [withoutEmptyLast]
      · rw [if_neg ends, if_neg (by simpa using ends), inductionHypothesis, List.modifyHead_modifyHead]
        congr 2
        funext front
        simp

/-- What `getline` finds are the pieces between delimiters, without an empty last one. -/
theorem getlines_split (delimiter : Char) (chars : List Char) :
    getlines delimiter [] chars = withoutEmptyLast (chars.splitOn delimiter) := by
  rw [getlines_eq]
  congr 1
  cases chars.splitOn delimiter <;> rfl

/-- No piece holds the delimiter. -/
theorem splitOn_plain {delimiter : Char} {chars piece : List Char}
    (member : piece ∈ chars.splitOn delimiter) : delimiter ∉ piece := by
  induction chars generalizing piece with
  | nil => simp_all
  | cons c rest inductionHypothesis =>
    rw [List.splitOn_cons_eq_if_modifyHead] at member
    by_cases ends : c = delimiter
    · rw [if_pos (beq_iff_eq.mpr ends)] at member
      obtain rfl | member := List.mem_cons.mp member
      · simp
      · exact inductionHypothesis member
    · rw [if_neg (by simpa using ends)] at member
      cases pieces : rest.splitOn delimiter with
      | nil => exact absurd pieces (List.splitOn_ne_nil delimiter rest)
      | cons first others =>
        rw [pieces, List.modifyHead_cons] at member
        obtain rfl | member := List.mem_cons.mp member
        · have outside : delimiter ∉ first := inductionHypothesis (by simp [pieces])
          simp [outside, Ne.symm ends]
        · exact inductionHypothesis (by simp [pieces, member])

/-- Every piece is made of the text, and the first one starts it. -/
theorem splitOn_subset {delimiter : Char} {chars piece : List Char}
    (member : piece ∈ chars.splitOn delimiter) : piece ⊆ chars := by
  have whole : [delimiter].intercalate (chars.splitOn delimiter) = chars :=
    List.intercalate_splitOn delimiter
  rw [← whole]
  generalize chars.splitOn delimiter = pieces at member
  induction pieces with
  | nil => cases member
  | cons first rest inductionHypothesis =>
    cases rest with
    | nil => simp_all
    | cons second others =>
      rw [List.intercalate_cons_cons]
      obtain rfl | later := List.mem_cons.mp member
      · simp
      · exact List.subset_append_of_subset_right _ (inductionHypothesis later)

/-- The first piece is what the text starts with. -/
theorem splitOn_starts {delimiter : Char} {chars first : List Char} {rest : List (List Char)}
    (pieces : chars.splitOn delimiter = first :: rest) : first <+: chars := by
  have whole : [delimiter].intercalate (chars.splitOn delimiter) = chars :=
    List.intercalate_splitOn delimiter
  rw [← whole, pieces]
  cases rest with
  | nil => simp
  | cons second others =>
    rw [List.intercalate_cons_cons, List.append_assoc]
    exact List.prefix_append _ _

namespace ReconcileService

/-- A line of the bill's grammar: four fields, the third an amount. Only the first three are
part of the row. -/
def BillLine (line : String) (row : ReconcileSideRow) : Prop :=
  ∃ amount callbackTime : String,
    (∀ field ∈ [row.channelTradeNo, row.orderNo, amount, callbackTime], ',' ∉ field.toList) ∧
    line = row.channelTradeNo ++ "," ++ row.orderNo ++ "," ++ amount ++ "," ++ callbackTime ∧
    MoneyUtil.yuanStringToFen amount = some row.amountFen

/-- A line whose third field is an amount has a fourth field that is not empty and no fifth. -/
def Regular (line : String) : Prop :=
  match line.toList.splitOn ',' with
  | _ :: _ :: amount :: callbackTime :: rest =>
    (MoneyUtil.yuanStringToFen (String.ofList amount)).isSome → rest = [] ∧ callbackTime ≠ []
  | _ => True

/-- The grammar, by splitting at every comma. -/
def billRow (line : String) : Option ReconcileSideRow :=
  match line.toList.splitOn ',' with
  | [tradeNo, orderNo, amount, _] =>
    (MoneyUtil.yuanStringToFen (String.ofList amount)).map fun fen =>
      ⟨String.ofList tradeNo, String.ofList orderNo, fen⟩
  | _ => none

/-- Four fields without commas and their line. A line splits into these four exactly when it
is the four joined by commas and no field has a comma of its own. -/
theorem splitOn_fields {line tradeNo orderNo amount callbackTime : String} :
    line.toList.splitOn ',' =
        [tradeNo.toList, orderNo.toList, amount.toList, callbackTime.toList] ↔
      (∀ field ∈ [tradeNo, orderNo, amount, callbackTime], ',' ∉ field.toList) ∧
        line = tradeNo ++ "," ++ orderNo ++ "," ++ amount ++ "," ++ callbackTime := by
  have joined : [','].intercalate
      [tradeNo.toList, orderNo.toList, amount.toList, callbackTime.toList] =
      (tradeNo ++ "," ++ orderNo ++ "," ++ amount ++ "," ++ callbackTime).toList := by
    simp [List.intercalate]
  constructor
  · intro split
    refine ⟨fun field member => ?_, ?_⟩
    · have piece : field.toList ∈ line.toList.splitOn ',' := by
        rw [split]
        exact List.mem_map_of_mem member
      exact splitOn_plain piece
    · have whole : [','].intercalate (line.toList.splitOn ',') = line.toList :=
        List.intercalate_splitOn ','
      rw [split, joined] at whole
      exact (String.toList_inj.mp whole).symm
  · rintro ⟨plain, rfl⟩
    rw [← joined, List.splitOn_intercalate ',' (by simpa using plain) (by simp)]

/-- The splitting reader is the grammar. -/
theorem billRow_iff {line : String} {row : ReconcileSideRow} :
    billRow line = some row ↔ BillLine line row := by
  constructor
  · intro accepted
    rw [billRow] at accepted
    split at accepted
    · rename_i tradeNo orderNo amount callbackTime split
      obtain ⟨fen, value, rfl⟩ := Option.map_eq_some_iff.mp accepted
      have texts : line.toList.splitOn ',' =
          [(String.ofList tradeNo).toList, (String.ofList orderNo).toList,
            (String.ofList amount).toList, (String.ofList callbackTime).toList] := by
        simpa using split
      obtain ⟨plain, whole⟩ := splitOn_fields.mp texts
      exact ⟨String.ofList amount, String.ofList callbackTime, plain, whole, value⟩
    · cases accepted
  · rintro ⟨amount, callbackTime, plain, whole, value⟩
    rw [billRow, splitOn_fields.mpr ⟨plain, whole⟩]
    simp [value]

/-- Off the irregular lines the reader computes the grammar, on these it never does. Both
directions are needed: irregular lines are wrong and not just unproved. -/
theorem parseBillLine_eq_iff (line : String) :
    parseBillLine line = billRow line ↔ Regular line := by
  rw [parseBillLine, billRow, Regular, getlines_split]
  match line.toList.splitOn ',' with
  | [] => simp [withoutEmptyLast]
  | [first] => by_cases empty : first.isEmpty <;> simp [withoutEmptyLast, empty]
  | [first, second] => by_cases empty : second.isEmpty <;> simp [withoutEmptyLast, empty]
  | [first, second, amount] => by_cases empty : amount.isEmpty <;> simp [withoutEmptyLast, empty]
  | [first, second, amount, callbackTime] =>
    by_cases empty : callbackTime.isEmpty
    · -- the empty field is not read, and three pieces are too few
      cases MoneyUtil.yuanStringToFen (String.ofList amount) <;>
        simp_all [withoutEmptyLast]
    · cases MoneyUtil.yuanStringToFen (String.ofList amount) <;>
        simp_all [withoutEmptyLast]
  | first :: second :: amount :: callbackTime :: fifth :: rest =>
    cases MoneyUtil.yuanStringToFen (String.ofList amount) <;> simp [withoutEmptyLast]

/-- The reader accepts the grammar's lines with the grammar's row, and only them, exactly when
the line is regular. Every text is meant, not only lines of a bill; the irregular ones are
those with more columns than four or an empty last one. -/
theorem parseBillLine_iff (line : String) :
    (∀ row, parseBillLine line = some row ↔ BillLine line row) ↔ Regular line := by
  rw [← parseBillLine_eq_iff]
  constructor
  · intro grammar
    apply Option.ext
    intro row
    rw [grammar, billRow_iff]
  · intro same row
    rw [same, billRow_iff]

/-- A line with a fifth column is read, although the grammar has four: only fewer are
refused. -/
theorem columns_unchecked :
    ¬∀ line : String, '\n' ∉ line.toList → ∀ row, parseBillLine line = some row ↔ BillLine line row := by
  intro grammar
  have extra : parseBillLine "T1,7001,39.90,2026-09-13 12:58:16,0.40" =
      some ⟨"T1", "7001", 3990⟩ := by decide +kernel
  have read := (grammar _ (by decide) _).mp extra
  rw [← billRow_iff] at read
  exact absurd read (by decide +kernel)

end ReconcileService

end TradeReconcile
