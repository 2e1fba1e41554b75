/-
  Which texts are addresses. Two readers that know nothing of each other decide on that: the one of
  addresses, which stops as soon as the letters lead beyond the last column, and the one of
  formulas, which only looks at the form. Both see the same parts in a text, so they differ in the
  bounds of the grid and in nothing else (`Address.parse_iff_in_bounds`).
-/
import Worksheet.Proofs.Formula.Scanning

namespace Worksheet

namespace Address

variable {s : String} {a : Address}

/-- A text is read as an address when its parts are in bounds, blanks around it apart. -/
theorem parse_eq_ok_iff :
    parse s = .ok a ↔
      ∃ p : AddressParts, p.chars = Text.trimBoth s.toList ∧ p.InBounds ∧ a = p.address := by
  constructor
  · intro h
    exact exists_parts_of_ofChars h
  · rintro ⟨p, same, read⟩
    unfold parse
    rw [← same]
    exact AddressParts.ofChars_eq_ok_iff.2 read

/-- A text of the form of an address has no blanks around it. -/
theorem trimBoth_of_isReference (h : isReference s.toList = true) :
    Text.trimBoth s.toList = s.toList := by
  obtain ⟨p, same⟩ := isReference_iff.1 h
  rw [← same]
  exact Text.trimBoth_of_not_blank fun _ => AddressParts.isBlank_of_mem_chars

/-- A text is read as an address if and only if, without the blanks around it, it is made of letters
    that name one of the columns and digits that name one of the rows, with or without anchors. The
    address is written as that text in capitals, without leading zeros; and every address on the
    grid is read back from its text with its anchors. What is read as an address and has no blanks
    around it has the form of a reference. What has that form is only refused because its column
    or its row is outside of the grid. -/
theorem parse_iff_in_bounds :
    (∀ s : String, (∃ a, parse s = .ok a) ↔
      ∃ p : AddressParts, p.chars = Text.trimBoth s.toList ∧ p.InBounds) ∧
    (∀ (s : String) (a : Address), parse s = .ok a →
      a.text = String.ofList (normalForm (Text.trimBoth s.toList)) ∧
        ∀ p : AddressParts, p.chars = Text.trimBoth s.toList → a = p.address) ∧
    (∀ a : Address, a.OnGrid → parse a.text = .ok a) ∧
    (∀ (s : String) (a : Address), parse s = .ok a → Text.trimBoth s.toList = s.toList →
      isReference s.toList = true) ∧
    ∀ (s : String) (fault : AddressFault), isReference s.toList = true →
      parse s = .error fault → ∃ p : AddressParts, p.chars = s.toList ∧ ¬ p.InBounds := by
  refine ⟨fun s => ?_, fun s a read => ⟨?_, fun p same => ?_⟩, fun a => parse_text,
    fun s a read unpadded => ?_, fun s fault form refused => ?_⟩
  · constructor
    · rintro ⟨a, read⟩
      obtain ⟨p, same, inBounds, -⟩ := parse_eq_ok_iff.1 read
      exact ⟨p, same, inBounds⟩
    · rintro ⟨p, same, inBounds⟩
      exact ⟨p.address, parse_eq_ok_iff.2 ⟨p, same, inBounds, rfl⟩⟩
  · rw [text, chars_of_ofChars read]
  · unfold parse at read
    rw [← same] at read
    exact (AddressParts.ofChars_eq_ok_iff.1 read).2
  · obtain ⟨p, same, -⟩ := parse_eq_ok_iff.1 read
    exact isReference_iff.2 ⟨p, same.trans unpadded⟩
  · obtain ⟨p, same⟩ := isReference_iff.1 form
    refine ⟨p, same, fun inBounds => ?_⟩
    have read : parse s = .ok p.address :=
      parse_eq_ok_iff.2 ⟨p, same.trans (trimBoth_of_isReference form).symm, inBounds, rfl⟩
    rw [refused] at read
    cases read

/-- Blanks, an anchor, small letters and leading zeros; the last cell of the grid; a column with
    zeros for a row; and a run of letters that would not fit into 64 bits. -/
theorem parse_iff_in_bounds_corners :
    (Cell.address ⟨6, 1⟩).fixed.text = String.ofList (normalForm "$b$007".toList) ∧
      parse (Cell.address ⟨1048575, 16383⟩).text = .ok (Cell.address ⟨1048575, 16383⟩) ∧
      isReference "xfd1048576".toList = true ∧
      (∃ p : AddressParts, p.chars = "A00".toList ∧ ¬ p.InBounds) ∧
      ∃ p : AddressParts, p.chars = "ZZZZZZZZZZZZZZZZ1".toList ∧ ¬ p.InBounds := by
  obtain ⟨-, normal, written, form, refused⟩ := parse_iff_in_bounds
  have padded := normal " $b$007\t" (Cell.address ⟨6, 1⟩).fixed rfl
  exact ⟨padded.1, written _ (by decide),
    form "xfd1048576" (Cell.address ⟨1048575, 16383⟩) rfl (by decide +kernel),
    refused "A00" _ (by decide +kernel) rfl,
    refused "ZZZZZZZZZZZZZZZZ1" _ (by decide +kernel) rfl⟩

end Address

end Worksheet
