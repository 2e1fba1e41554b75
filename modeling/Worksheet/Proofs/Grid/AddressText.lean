/-
  Addresses and their text. Letters are read as the column and digits as the row that they denote,
  if that lies on the grid (`Column.index_eq_ok_iff`, `Address.rowIndex_eq_ok_iff`). So a text of
  the form of an address is read as the address of its parts or not at all
  (`AddressParts.ofChars_eq_ok_iff`), and an address on the grid is read back from its text
  (`Address.parse_text`). The other way round, the text of the address that was read is the text it
  was read from, in capitals and without leading zeros (`AddressParts.chars_address`).
-/
import Worksheet.Proofs.Grid.AddressParts
import Worksheet.Proofs.Text.LetterCase

namespace Worksheet

open Address (anchor)

/-! ## Columns -/

namespace Column

theorem isUpper_letter {n : Nat} (h : n < 26) : (letter n).isUpper = true := by
  have all : ∀ n < 26, (letter n).isUpper = true := by decide
  exact all n h

theorem letterValue_letter {n : Nat} (h : n < 26) : letterValue (letter n) = n + 1 := by
  have all : ∀ n < 26, letterValue (letter n) = n + 1 := by decide
  exact all n h

/-- A letter has one of the values 1, …, 26, and its capital is the letter of that value. -/
theorem exists_letter {c : Char} (h : c.isAlpha = true) :
    ∃ n < 26, letterValue c = n + 1 ∧ letter n = c.toUpper := by
  have all : ∀ k < 128, (Char.ofNat k).isAlpha = true →
      ∃ n < 26, letterValue (Char.ofNat k) = n + 1 ∧ letter n = (Char.ofNat k).toUpper := by
    decide +kernel
  rw [← Char.ofNat_toNat c] at h ⊢
  exact all _ (Text.toNat_lt_of_isAlphanum (by simpa using Text.isAlphanum_of_isAlpha h)) h

theorem isUpper_of_mem_numeral {n : Nat} {c : Char} (h : c ∈ numeral n) :
    c.isUpper = true := by
  fun_induction numeral n with
  | case1 => cases h
  | case2 n ih =>
    rcases List.mem_append.1 h with h | h
    · exact ih h
    · rw [List.mem_singleton.1 h]
      exact isUpper_letter (Nat.mod_lt n (by decide))

theorem isAlpha_of_mem_numeral {n : Nat} {c : Char} (h : c ∈ numeral n) : c.isAlpha = true :=
  Text.isAlpha_of_isUpper (isUpper_of_mem_numeral h)

theorem numeral_succ_ne_nil (n : Nat) : numeral (n + 1) ≠ [] := by
  rw [numeral]
  simp

/-! ### Values -/

/-- The number that letters denote after letters that denote `n`. -/
def valueOnto (n : Nat) (letters : List Char) : Nat :=
  letters.foldl (fun n c => 26 * n + letterValue c) n

theorem value_append_singleton (cs : List Char) (c : Char) :
    value (cs ++ [c]) = 26 * value cs + letterValue c := by
  simp [value]

/-- A letter more never makes the number smaller. -/
theorem le_valueOnto (n : Nat) (cs : List Char) : n ≤ valueOnto n cs := by
  induction cs generalizing n with
  | nil => exact Nat.le_refl n
  | cons c cs ih => exact Nat.le_trans (by omega) (ih (26 * n + letterValue c))

theorem value_pos {cs : List Char} (h : cs ≠ []) : 0 < value cs := by
  obtain ⟨c, cs, rfl⟩ := List.exists_cons_of_ne_nil h
  exact Nat.lt_of_lt_of_le (Nat.succ_pos _) (le_valueOnto (26 * 0 + letterValue c) cs)

/-- A numeral denotes its number. -/
theorem value_numeral (n : Nat) : value (numeral n) = n := by
  fun_induction numeral n with
  | case1 => rfl
  | case2 n ih =>
    rw [value_append_singleton, ih, letterValue_letter (Nat.mod_lt n (by decide))]
    omega

/-- Letters after a numeral go on with the numeral, but for their case. -/
theorem numeral_valueOnto (n : Nat) {cs : List Char} (h : ∀ c ∈ cs, c.isAlpha = true) :
    numeral (valueOnto n cs) = numeral n ++ Text.asciiUpper cs := by
  induction cs generalizing n with
  | nil => exact (List.append_nil _).symm
  | cons c cs ih =>
    obtain ⟨k, below, value_eq, capital⟩ := exists_letter (h c List.mem_cons_self)
    have quotient : (26 * n + k) / 26 = n := by omega
    have digit : (26 * n + k) % 26 = k := by omega
    have next : numeral (26 * n + letterValue c) = numeral n ++ [c.toUpper] := by
      rw [value_eq, ← Nat.add_assoc, numeral, quotient, digit, capital]
    have later := ih (26 * n + letterValue c) fun d hd => h d (List.mem_cons_of_mem c hd)
    rw [next, List.append_assoc] at later
    exact later

/-- Letters are the numeral of what they denote, but for their case. -/
theorem numeral_value {cs : List Char} (h : ∀ c ∈ cs, c.isAlpha = true) :
    numeral (value cs) = Text.asciiUpper cs := by
  have onto := numeral_valueOnto 0 h
  rwa [numeral, List.nil_append] at onto

/-! ### Reading -/

/-- Letters are read as what they denote, up to the last column. -/
theorem readOnto_eq_ok_iff {n m : Nat} {cs : List Char} (h : n ≤ maxCols) :
    readOnto n cs = .ok m ↔
      (∀ c ∈ cs, c.isAlpha = true) ∧ valueOnto n cs = m ∧ m ≤ maxCols := by
  fun_induction readOnto n cs with
  | case1 n =>
    rw [Except.ok.injEq]
    refine ⟨?_, fun ⟨_, same, _⟩ => same⟩
    rintro rfl
    exact ⟨nofun, rfl, h⟩
  | case2 n c cs noLetter =>
    refine ⟨nofun, fun ⟨letters, _⟩ => ?_⟩
    rw [letters c List.mem_cons_self] at noLetter
    cases noLetter
  | case3 n c cs _ next beyond =>
    refine ⟨nofun, ?_⟩
    rintro ⟨_, rfl, within⟩
    exact absurd (Nat.le_trans (le_valueOnto next cs) within) (Nat.not_le.2 beyond)
  | case4 n c cs letter next within ih =>
    have alpha : c.isAlpha = true := by simpa using letter
    rw [ih (Nat.le_of_not_lt within), List.forall_mem_cons, alpha]
    simp only [true_and]
    rfl

/-- Letters name the column that they denote. -/
theorem index_eq_ok_iff {letters : List Char} {col : Nat} :
    index letters = .ok col ↔
      letters ≠ [] ∧ (∀ c ∈ letters, c.isAlpha = true) ∧ value letters = col + 1 ∧
        col < maxCols := by
  have read := @readOnto_eq_ok_iff 0 (value letters) letters (Nat.zero_le _)
  unfold index
  split
  · next empty =>
    refine ⟨nofun, fun ⟨nonempty, _⟩ => absurd (by simpa using empty) nonempty⟩
  · next nonempty =>
    have pos : 0 < value letters := value_pos (by simpa using nonempty)
    cases found : readOnto 0 letters with
    | error fault =>
      rw [found] at read
      refine ⟨nofun, fun ⟨_, letters, named, within⟩ => ?_⟩
      cases read.2 ⟨letters, rfl, by omega⟩
    | ok m =>
      obtain ⟨isAlpha, same, within⟩ := (readOnto_eq_ok_iff (Nat.zero_le _)).1 found
      change value letters = m at same
      show Except.ok (m - 1) = Except.ok col ↔ _
      rw [Except.ok.injEq, same]
      exact ⟨fun named => ⟨by simpa using nonempty, isAlpha, by omega, by omega⟩, by omega⟩

end Column

/-! ## Rows -/

theorem Decimal.digitsValue_toDigits (n : Nat) : Decimal.digitsValue (Nat.toDigits 10 n) = n :=
  Nat.ofDigitChars_ten_toDigits

/-- The value of a digit, and the digit of that value. -/
theorem Decimal.exists_digit {c : Char} (h : c.isDigit = true) :
    c.toNat - 48 < 10 ∧ Nat.digitChar (c.toNat - 48) = c := by
  have all : ∀ n < 128, (Char.ofNat n).isDigit = true →
      (Char.ofNat n).toNat - 48 < 10 ∧
        Nat.digitChar ((Char.ofNat n).toNat - 48) = Char.ofNat n := by
    decide
  exact Text.of_ascii (P := fun c => c.isDigit = true → c.toNat - 48 < 10 ∧
    Nat.digitChar (c.toNat - 48) = c) all
    (Text.toNat_lt_of_isAlphanum (Text.isAlphanum_of_isDigit h)) h

/-- Digits after those of a number are the digits of the number that both denote. -/
theorem Decimal.toDigits_append {n : Nat} (pos : 0 < n) {cs : List Char}
    (h : ∀ c ∈ cs, c.isDigit = true) :
    Nat.toDigits 10 n ++ cs =
      Nat.toDigits 10 (cs.foldl (fun n c => 10 * n + (c.toNat - 48)) n) := by
  induction cs generalizing n with
  | nil => exact List.append_nil _
  | cons c cs ih =>
    obtain ⟨below, digit⟩ := exists_digit (h c List.mem_cons_self)
    have joined := Nat.toDigits_append_toDigits (b := 10) (by decide) pos below
    rw [Nat.toDigits_of_lt_base below, digit] at joined
    rw [List.foldl_cons, ← ih (by omega) fun d hd => h d (List.mem_cons_of_mem c hd), ← joined,
      List.append_assoc]
    rfl

/-- Digits are the numeral of what they denote, but for leading zeros. -/
theorem Decimal.toDigits_digitsValue {cs : List Char} (h : ∀ c ∈ cs, c.isDigit = true)
    (pos : 0 < digitsValue cs) :
    Nat.toDigits 10 (digitsValue cs) = cs.dropWhile (· == '0') := by
  induction cs with
  | nil => exact absurd pos (by decide)
  | cons c cs ih =>
    obtain ⟨below, digit⟩ := exists_digit (h c List.mem_cons_self)
    have digits : ∀ d ∈ cs, d.isDigit = true := fun d hd => h d (List.mem_cons_of_mem c hd)
    by_cases zero : c = '0'
    · subst zero
      exact ih digits pos
    · have first : 0 < c.toNat - 48 := by
        refine Nat.pos_of_ne_zero fun none => zero ?_
        rw [← digit, none]
        rfl
      have appended := toDigits_append first digits
      rw [Nat.toDigits_of_lt_base below, digit] at appended
      have value : digitsValue (c :: cs) =
          cs.foldl (fun n c => 10 * n + (c.toNat - 48)) (c.toNat - 48) := by
        simp [digitsValue]
      rw [value, ← appended, List.dropWhile_cons_of_neg (by simpa using zero)]
      rfl

namespace Address

/-- Digits name the row that they denote. -/
theorem rowIndex_eq_ok_iff {text : String} {digits : List Char} {row : Nat} :
    rowIndex text digits = .ok row ↔
      digits ≠ [] ∧ (∀ c ∈ digits, c.isDigit = true) ∧ Decimal.digitsValue digits = row + 1 ∧
        row < maxRows := by
  have small : maxRows < Nat.pow 2 64 := by decide
  constructor
  · intro h
    obtain ⟨nonempty, isDigit⟩ := AddressParts.digits_of_rowIndex h
    refine ⟨nonempty, isDigit, ?_⟩
    unfold rowIndex at h
    split at h
    · cases h
    split at h
    · cases h
    dsimp only at h
    split at h
    · cases h
    split at h
    · cases h
    split at h
    · cases h
    cases h
    omega
  · rintro ⟨nonempty, isDigit, named, within⟩
    have digits_ne : digits.isEmpty = false := by simpa using nonempty
    have all : digits.all Char.isDigit = true := List.all_eq_true.2 isDigit
    rw [rowIndex, digits_ne, all, named]
    dsimp only
    rw [if_neg (by simp), if_neg (by simp), if_neg (by omega), if_neg (by omega),
      if_neg (by omega)]
    rfl

end Address

/-! ## Parts -/

namespace AddressParts

/-- The column that the letters denote, counted from one. -/
def column (p : AddressParts) : Nat := Column.value p.letters

/-- The row that the digits denote, counted from one. -/
def row (p : AddressParts) : Nat := Decimal.digitsValue p.digits

/-- The parts name a column and a row of the grid. -/
def InBounds (p : AddressParts) : Prop := p.column ≤ maxCols ∧ 1 ≤ p.row ∧ p.row ≤ maxRows

instance (p : AddressParts) : Decidable p.InBounds := inferInstanceAs (Decidable (_ ∧ _ ∧ _))

/-- The address with these parts. -/
def address (p : AddressParts) : Address where
  row := p.row - 1
  col := p.column - 1
  rowFixed := p.rowFixed
  colFixed := p.colFixed

variable {p : AddressParts} {a : Address}

theorem column_pos (p : AddressParts) : 0 < p.column := Column.value_pos p.letters_ne_nil

/-- A text of the form of an address is read as the address of its parts, if they are in bounds. -/
theorem ofChars_eq_ok_iff : Address.ofChars p.chars = .ok a ↔ p.InBounds ∧ a = p.address := by
  have positive := p.column_pos
  have column : ∀ col, Column.index p.letters = .ok col ↔ p.column = col + 1 ∧ col < maxCols := by
    intro col
    rw [Column.index_eq_ok_iff]
    exact ⟨fun h => h.2.2, fun h => ⟨p.letters_ne_nil, p.isAlpha_of_mem, h⟩⟩
  have row : ∀ row, Address.rowIndex (String.ofList p.chars) p.digits = .ok row ↔
      p.row = row + 1 ∧ row < maxRows := by
    intro row
    rw [Address.rowIndex_eq_ok_iff]
    exact ⟨fun h => h.2.2, fun h => ⟨p.digits_ne_nil, p.isDigit_of_mem, h⟩⟩
  rw [ofChars_chars]
  constructor
  · intro h
    cases hc : Column.index p.letters with
    | error fault =>
      rw [hc] at h
      cases h
    | ok col =>
      rw [hc] at h
      cases hr : Address.rowIndex (String.ofList p.chars) p.digits with
      | error fault =>
        rw [hr] at h
        cases h
      | ok r =>
        rw [hr] at h
        obtain rfl := Except.ok.inj h
        obtain ⟨columnNamed, columnWithin⟩ := (column col).1 hc
        obtain ⟨rowNamed, rowWithin⟩ := (row r).1 hr
        refine ⟨⟨by omega, by omega, by omega⟩, ?_⟩
        unfold address
        rw [columnNamed, rowNamed]
        rfl
  · rintro ⟨⟨columnWithin, rowPositive, rowWithin⟩, rfl⟩
    rw [(column (p.column - 1)).2 ⟨by omega, by omega⟩, (row (p.row - 1)).2 ⟨by omega, by omega⟩]
    rfl

theorem InBounds.onGrid (h : p.InBounds) : p.address.OnGrid := by
  have positive := p.column_pos
  obtain ⟨columnWithin, rowPositive, rowWithin⟩ := h
  constructor
  · show p.row - 1 < maxRows
    omega
  · show p.column - 1 < maxCols
    omega

end AddressParts

/-! ## Addresses -/

namespace Address

/-- The parts of an address as they are written. -/
def parts (a : Address) : AddressParts where
  colFixed := a.colFixed
  letters := Column.numeral (a.col + 1)
  rowFixed := a.rowFixed
  digits := Nat.toDigits 10 (a.row + 1)
  letters_ne_nil := Column.numeral_succ_ne_nil a.col
  isAlpha_of_mem _ := Column.isAlpha_of_mem_numeral
  digits_ne_nil := Nat.toDigits_ne_nil
  isDigit_of_mem _ := Text.isDigit_of_mem_toDigits

variable {a b : Address}

theorem chars_parts (a : Address) : a.parts.chars = a.chars := (List.append_assoc ..).symm

theorem column_parts (a : Address) : a.parts.column = a.col + 1 := Column.value_numeral _

theorem row_parts (a : Address) : a.parts.row = a.row + 1 := Decimal.digitsValue_toDigits _

theorem address_parts (a : Address) : a.parts.address = a := by
  unfold AddressParts.address
  rw [column_parts, row_parts]
  rfl

theorem inBounds_parts : a.parts.InBounds ↔ a.OnGrid := by
  unfold AddressParts.InBounds
  rw [column_parts, row_parts]
  show _ ↔ a.row < maxRows ∧ a.col < maxCols
  omega

/-- Addresses are written with capitals, digits and anchors. -/
theorem mem_chars {c : Char} (h : c ∈ a.chars) :
    c = '$' ∨ c.isUpper = true ∨ c.isDigit = true := by
  rw [← chars_parts] at h
  rcases AddressParts.mem_chars h with anchor | letter | digit
  · exact .inl anchor
  · exact .inr (.inl (Column.isUpper_of_mem_numeral letter))
  · exact .inr (.inr (Text.isDigit_of_mem_toDigits digit))

/-- An address on the grid is read back from its characters. -/
theorem ofChars_chars (h : a.OnGrid) : ofChars a.chars = .ok a := by
  rw [← chars_parts, AddressParts.ofChars_eq_ok_iff, address_parts]
  exact ⟨inBounds_parts.2 h, rfl⟩

theorem parse_text_eq (a : Address) : parse a.text = ofChars a.chars := by
  unfold parse text
  rw [String.toList_ofList, ← chars_parts,
    Text.trimBoth_of_not_blank fun _ => AddressParts.isBlank_of_mem_chars]

/-- An address on the grid is read back from its text. -/
theorem parse_text (h : a.OnGrid) : parse a.text = .ok a := by
  rw [parse_text_eq]
  exact ofChars_chars h

/-- The text of an address is read as no other one. -/
theorem eq_of_parse_text (h : parse a.text = .ok b) : b = a := by
  rw [parse_text_eq, ← chars_parts, AddressParts.ofChars_eq_ok_iff, address_parts] at h
  exact h.2

/-- What is read as an address has its parts in bounds. -/
theorem exists_parts_of_ofChars {cs : List Char} (h : ofChars cs = .ok a) :
    ∃ p : AddressParts, p.chars = cs ∧ p.InBounds ∧ a = p.address := by
  obtain ⟨p, rfl⟩ := AddressParts.exists_of_ofChars h
  exact ⟨p, rfl, AddressParts.ofChars_eq_ok_iff.1 h⟩

/-- What is read as an address lies on the grid. -/
theorem onGrid_of_parse {s : String} (h : parse s = .ok a) : a.OnGrid := by
  obtain ⟨p, -, inBounds, rfl⟩ := exists_parts_of_ofChars h
  exact inBounds.onGrid

end Address

/-! ## Normal form -/

/-- A text in capitals and without the zeros that lead its digits. -/
def Address.normalForm (cs : List Char) : List Char :=
  let capitals := Text.asciiUpper cs
  capitals.takeWhile (!·.isDigit) ++ (capitals.dropWhile (!·.isDigit)).dropWhile (· == '0')

theorem Address.normalForm_asciiUpper (cs : List Char) :
    normalForm (Text.asciiUpper cs) = normalForm cs := by
  unfold normalForm
  rw [Text.asciiUpper_asciiUpper]

namespace AddressParts

variable {p : AddressParts}

/-- What stands before the digits, in capitals. -/
def capitals (p : AddressParts) : List Char :=
  anchor p.colFixed ++ (Text.asciiUpper p.letters ++ anchor p.rowFixed)

theorem isDigit_of_mem_capitals {c : Char} (h : c ∈ p.capitals) : (!c.isDigit) = true := by
  have anchored {isFixed : Bool} (h : c ∈ anchor isFixed) : (!c.isDigit) = true :=
    mem_anchor h ▸ rfl
  rcases List.mem_append.1 h with h | h
  · exact anchored h
  rcases List.mem_append.1 h with h | h
  · obtain ⟨d, hd, rfl⟩ := List.mem_map.1 h
    exact Text.not_isDigit_toUpper (p.isAlpha_of_mem d hd)
  · exact anchored h

theorem asciiUpper_chars (p : AddressParts) : Text.asciiUpper p.chars = p.capitals ++ p.digits := by
  have anchored (isFixed : Bool) : Text.asciiUpper (anchor isFixed) = anchor isFixed := by
    cases isFixed <;> rfl
  have digits : Text.asciiUpper p.digits = p.digits :=
    (List.map_congr_left fun c hc => Text.toUpper_of_isDigit (p.isDigit_of_mem c hc)).trans
      (List.map_id _)
  unfold chars rowChars capitals
  rw [Text.asciiUpper_append, Text.asciiUpper_append, Text.asciiUpper_append, anchored, anchored,
    digits, List.append_assoc, List.append_assoc]

theorem normalForm_chars (p : AddressParts) :
    Address.normalForm p.chars = p.capitals ++ p.digits.dropWhile (· == '0') := by
  have stops : ∀ c ∈ p.digits.head?, (!c.isDigit) = false := by
    intro c hc
    rw [p.isDigit_of_mem c (List.mem_of_mem_head? hc)]
    rfl
  unfold Address.normalForm
  rw [asciiUpper_chars]
  dsimp only
  rw [Text.takeWhile_append_of_stops (fun _ => isDigit_of_mem_capitals) stops,
    Text.dropWhile_append_of_stops (fun _ => isDigit_of_mem_capitals) stops]

/-- The address that is read from a text is written as the normal form of the text. -/
theorem chars_address (h : p.InBounds) : p.address.chars = Address.normalForm p.chars := by
  have column : p.column - 1 + 1 = p.column := Nat.sub_add_cancel p.column_pos
  have row : p.row - 1 + 1 = p.row := Nat.sub_add_cancel h.2.1
  have letters : Column.numeral p.column = Text.asciiUpper p.letters :=
    Column.numeral_value p.isAlpha_of_mem
  have digits : Nat.toDigits 10 p.row = p.digits.dropWhile (· == '0') :=
    Decimal.toDigits_digitsValue p.isDigit_of_mem h.2.1
  show anchor p.colFixed ++ Column.numeral (p.column - 1 + 1)
    ++ (anchor p.rowFixed ++ Nat.toDigits 10 (p.row - 1 + 1)) = _
  rw [normalForm_chars, column, row, letters, digits]
  simp [capitals]

end AddressParts

/-- What is read as an address is written as the normal form of what was read. -/
theorem Address.chars_of_ofChars {cs : List Char} {a : Address} (h : ofChars cs = .ok a) :
    a.chars = normalForm cs := by
  obtain ⟨p, rfl, inBounds, rfl⟩ := exists_parts_of_ofChars h
  exact AddressParts.chars_address inBounds

end Worksheet
