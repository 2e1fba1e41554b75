/-
  The form of an address: letters and then digits, either of them behind an anchor or not. A text of
  this form comes apart in only one way, so what is read as its column are its letters and what is
  read as its row are its digits (`AddressParts.ofChars_chars`), and every text that is read as an
  address has the form (`AddressParts.exists_of_ofChars`).
-/
import Mathlib.Data.List.TakeWhile
import Worksheet.Grid.Address
import Worksheet.Proofs.Text.Ascii

namespace Worksheet

open Address (anchor splitAnchor)

/-- A text of the form of an address, by its parts. -/
structure AddressParts where
  colFixed : Bool
  letters : List Char
  rowFixed : Bool
  digits : List Char
  letters_ne_nil : letters ≠ []
  isAlpha_of_mem : ∀ c ∈ letters, c.isAlpha = true
  digits_ne_nil : digits ≠ []
  isDigit_of_mem : ∀ c ∈ digits, c.isDigit = true

namespace AddressParts

/-- The digits with their anchor. -/
def rowChars (p : AddressParts) : List Char := anchor p.rowFixed ++ p.digits

/-- The text with these parts. -/
def chars (p : AddressParts) : List Char := anchor p.colFixed ++ (p.letters ++ p.rowChars)

theorem mem_anchor {isFixed : Bool} {c : Char} (h : c ∈ anchor isFixed) : c = '$' := by
  cases isFixed with
  | false => cases h
  | true => exact List.mem_singleton.1 h

theorem mem_chars {p : AddressParts} {c : Char} (h : c ∈ p.chars) :
    c = '$' ∨ c ∈ p.letters ∨ c ∈ p.digits := by
  simp only [chars, rowChars, List.mem_append] at h
  rcases h with h | h | h | h
  · exact .inl (mem_anchor h)
  · exact .inr (.inl h)
  · exact .inl (mem_anchor h)
  · exact .inr (.inr h)

theorem chars_ne_nil (p : AddressParts) : p.chars ≠ [] := by
  simp [chars, p.letters_ne_nil]

theorem isBlank_of_mem_chars {p : AddressParts} {c : Char} (h : c ∈ p.chars) :
    Text.isBlank c = false := by
  rcases mem_chars h with rfl | letter | digit
  · decide
  · exact Text.isBlank_of_isAlphanum (Text.isAlphanum_of_isAlpha (p.isAlpha_of_mem c letter))
  · exact Text.isBlank_of_isAlphanum (Text.isAlphanum_of_isDigit (p.isDigit_of_mem c digit))

/-! ## Taking a text apart -/

theorem anchor_splitAnchor (cs : List Char) :
    anchor (splitAnchor cs).1 ++ (splitAnchor cs).2 = cs := by
  unfold splitAnchor
  split <;> rfl

theorem splitAnchor_anchor (isFixed : Bool) {cs : List Char} (h : ∀ c ∈ cs.head?, c ≠ '$') :
    splitAnchor (anchor isFixed ++ cs) = (isFixed, cs) := by
  cases isFixed with
  | true => rfl
  | false =>
    show splitAnchor cs = (false, cs)
    unfold splitAnchor
    split
    · exact absurd rfl (h _ rfl)
    · rfl

variable (p : AddressParts)

/-- The first letter is no anchor. -/
theorem splitAnchor_chars : splitAnchor p.chars = (p.colFixed, p.letters ++ p.rowChars) := by
  refine splitAnchor_anchor _ fun c hc => ?_
  obtain ⟨d, ds, letters⟩ := List.exists_cons_of_ne_nil p.letters_ne_nil
  rw [letters] at hc
  obtain rfl := Option.some.inj hc
  have alpha : d.isAlpha = true := p.isAlpha_of_mem d (letters ▸ List.mem_cons_self)
  rintro rfl
  exact absurd alpha (by decide)

/-- Neither is the first digit. -/
theorem splitAnchor_rowChars : splitAnchor p.rowChars = (p.rowFixed, p.digits) := by
  refine splitAnchor_anchor _ fun c hc => ?_
  have digit : c.isDigit = true := p.isDigit_of_mem c (List.mem_of_mem_head? hc)
  rintro rfl
  exact absurd digit (by decide)

/-- No letter begins the row. -/
theorem isAlpha_head_rowChars : ∀ c ∈ p.rowChars.head?, c.isAlpha = false := by
  intro c hc
  rcases List.mem_append.1 (List.mem_of_mem_head? hc) with anchored | digit
  · rw [mem_anchor anchored]
    decide
  · exact Text.isAlpha_eq_false_of_isDigit (p.isDigit_of_mem c digit)

theorem takeWhile_isAlpha : (p.letters ++ p.rowChars).takeWhile Char.isAlpha = p.letters :=
  Text.takeWhile_append_of_stops p.isAlpha_of_mem p.isAlpha_head_rowChars

theorem dropWhile_isAlpha : (p.letters ++ p.rowChars).dropWhile Char.isAlpha = p.rowChars :=
  Text.dropWhile_append_of_stops p.isAlpha_of_mem p.isAlpha_head_rowChars

/-- A text whose pieces are letters and digits has the form of an address. -/
theorem exists_of_pieces {cs : List Char}
    (letters_ne_nil : (splitAnchor cs).2.takeWhile Char.isAlpha ≠ [])
    (digits_ne_nil : (splitAnchor ((splitAnchor cs).2.dropWhile Char.isAlpha)).2 ≠ [])
    (isDigit : ∀ c ∈ (splitAnchor ((splitAnchor cs).2.dropWhile Char.isAlpha)).2,
      c.isDigit = true) : ∃ p : AddressParts, p.chars = cs := by
  refine ⟨⟨(splitAnchor cs).1, _, (splitAnchor ((splitAnchor cs).2.dropWhile Char.isAlpha)).1, _,
    letters_ne_nil, fun c hc => List.mem_takeWhile_imp hc, digits_ne_nil, isDigit⟩, ?_⟩
  unfold chars rowChars
  dsimp only
  rw [anchor_splitAnchor, List.takeWhile_append_dropWhile, anchor_splitAnchor]

/-! ## Reading -/

/-- The parts of an address are read one after the other. -/
theorem ofChars_chars :
    Address.ofChars p.chars = do
      let col ← Column.index p.letters
      let row ← Address.rowIndex (String.ofList p.chars) p.digits
      return { row, col, rowFixed := p.rowFixed, colFixed := p.colFixed } := by
  have nonempty : p.chars.isEmpty = false := by simp [chars_ne_nil]
  have letters : p.letters.isEmpty = false := by simp [p.letters_ne_nil]
  unfold Address.ofChars
  simp only [nonempty, splitAnchor_chars, takeWhile_isAlpha, letters, dropWhile_isAlpha,
    splitAnchor_rowChars]
  rfl

theorem digits_of_rowIndex {text : String} {digits : List Char} {row : Nat}
    (h : Address.rowIndex text digits = .ok row) :
    digits ≠ [] ∧ ∀ c ∈ digits, c.isDigit = true := by
  unfold Address.rowIndex at h
  split at h
  · cases h
  next nonempty =>
    split at h
    · cases h
    next all => exact ⟨by simpa using nonempty, by simpa using all⟩

/-- What is read as an address has the form of one. -/
theorem exists_of_ofChars {cs : List Char} {a : Address} (h : Address.ofChars cs = .ok a) :
    ∃ p : AddressParts, p.chars = cs := by
  unfold Address.ofChars at h
  simp only [bind, Except.bind, pure, Except.pure] at h
  split at h
  · cases h
  split at h
  · cases h
  next letters =>
    split at h
    · cases h
    split at h
    · cases h
    next row read =>
      obtain ⟨digits_ne_nil, isDigit⟩ := digits_of_rowIndex read
      exact exists_of_pieces (by simpa using letters) digits_ne_nil isDigit

end AddressParts

end Worksheet
