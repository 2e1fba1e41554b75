/-
  Shifting moves references and nothing else (`shiftBody_moves_references`). It works on the text:
  the lexemes of references are replaced by others, of another length. The new text is cut at the
  same places as the old one (`Cuts.shift`), because a reference starts and ends like the one it
  replaces and no token needs more than that of its neighbour; a number would, but in a formula
  no reference follows a number. So the tokens are the old ones with other references, and those
  derive the moved expression.
-/
import Worksheet.Formula.Shift
import Worksheet.Proofs.Formula.Cutting
import Worksheet.Proofs.Formula.References
import Worksheet.Proofs.Formula.RoundTrip
import Worksheet.Proofs.Grid.Moved

namespace Worksheet

/-! ## Shifted lexemes -/

/-- What becomes of a lexeme: a reference is written anew, and all others stay. -/
theorem Lexeme.shift_eq_ok {l l' : Lexeme} {rows cols : Int} :
    l.shift rows cols = .ok l' ↔
      (l.kind ≠ .cell ∧ l' = l) ∨
        (l.kind = .cell ∧ ∃ a, Address.parse l.value = .ok a ∧ a.StaysOnGrid rows cols ∧
          l' = { l with raw := (a.moved rows cols).chars }) := by
  unfold Lexeme.shift
  split
  · next isCell =>
    simp only [isCell, ne_eq, not_true_eq_false, false_and, true_and, false_or]
    cases parsed : Address.parse l.value with
    | error fault => exact ⟨nofun, fun ⟨_, h, _⟩ => nomatch h⟩
    | ok a =>
      cases shifted : a.shift rows cols with
      | none =>
        have leaves : ¬ a.StaysOnGrid rows cols := by
          intro stays
          rw [Address.shift_eq_some.2 ⟨stays, rfl⟩] at shifted
          cases shifted
        refine ⟨fun h => ?_, ?_⟩
        · simp [Except.mapError, bind, Except.bind, shifted, throw, throwThe,
            MonadExceptOf.throw] at h
        · rintro ⟨b, same, stays, -⟩
          cases same
          exact absurd stays leaves
      | some b =>
        obtain ⟨stays, rfl⟩ := Address.shift_eq_some.1 shifted
        simp [Except.mapError, bind, Except.bind, pure, Except.pure, shifted, stays, eq_comm]
  · next notCell =>
    simp [notCell, pure, Except.pure, eq_comm]

/-- Lexemes that came out of others by a shift. -/
abbrev Shifted (rows cols : Int) : List Lexeme → List Lexeme → Prop :=
  List.Forall₂ fun l l' => l.shift rows cols = .ok l'

theorem mapM_eq_ok_iff {ε α β : Type} {f : α → Except ε β} {xs : List α} {ys : List β} :
    xs.mapM f = .ok ys ↔ List.Forall₂ (fun x y => f x = .ok y) xs ys := by
  induction xs generalizing ys with
  | nil =>
    rw [List.mapM_nil, List.forall₂_nil_left_iff]
    exact ⟨fun h => (Except.ok.inj h).symm, fun h => h ▸ rfl⟩
  | cons x xs ih =>
    simp only [List.mapM_cons, bind_eq_ok, List.forall₂_cons_left_iff, ih]
    constructor
    · rintro ⟨y, first, ys', later, done⟩
      exact ⟨y, ys', first, later, (Except.ok.inj done).symm⟩
    · rintro ⟨y, ys', first, later, rfl⟩
      exact ⟨y, first, ys', later, rfl⟩

theorem exists_forall₂_iff {α β : Type} {R : α → β → Prop} {xs : List α} :
    (∃ ys, List.Forall₂ R xs ys) ↔ ∀ x ∈ xs, ∃ y, R x y := by
  induction xs with
  | nil => exact ⟨fun _ => nofun, fun _ => ⟨[], .nil⟩⟩
  | cons x xs ih =>
    simp only [List.forall₂_cons_left_iff, List.forall_mem_cons, ← ih]
    constructor
    · rintro ⟨_, y, ys, first, later, rfl⟩
      exact ⟨⟨y, first⟩, ys, later⟩
    · rintro ⟨⟨y, first⟩, ys, later⟩
      exact ⟨_, y, ys, first, later, rfl⟩

/-! ## The shifted text is cut at the same places -/

theorem isWordChar_of_isBlank {c : Char} (h : Text.isBlank c = true) : isWordChar c = false := by
  refine Bool.eq_false_iff.2 fun word => ?_
  have visible : Text.isBlank c = false :=
    Text.of_ascii (P := fun c => isWordChar c = true → Text.isBlank c = false) (by decide)
      (toNat_lt_of_isWordChar word) word
  rw [h] at visible
  cases visible

theorem isWordChar_of_singleKind? {c : Char} {kind : TokenKind} (h : singleKind? c = some kind) :
    isWordChar c = false := by
  unfold singleKind? at h
  split at h <;> cases h <;> decide

/-- A token that may follow a number starts with no character of a word. -/
theorem TokenAt.isWordChar_eq_false {c : Char} {cs tail : List Char} {kind : TokenKind}
    (h : TokenAt c cs kind tail) (follows : kind.FollowsNumber) : isWordChar c = false := by
  cases h with
  | single single => exact isWordChar_of_singleKind? single
  | less mark => exact mark ▸ rfl
  | greater mark => exact mark ▸ rfl
  | text => exact absurd follows (by decide)
  | number => exact absurd follows (by decide)
  | word _ kind_eq =>
    rw [← kind_eq] at follows
    rcases wordKind_cases _ _ with h | h | h <;> rw [h] at follows <;>
      exact absurd follows (by decide)

/-- No word begins in front of what may follow a number. -/
theorem Cuts.stops {cs ending : List Char} {ls : List Lexeme} (h : Cuts cs ls ending)
    (follows : ∀ l ∈ ls.head?, l.kind.FollowsNumber) :
    ∀ c ∈ cs.head?, isWordChar c = false := by
  intro c hc
  cases h with
  | blank blanks => exact isWordChar_of_isBlank (blanks c (List.mem_of_mem_head? hc))
  | @token gap tail rest _ d kind ls blanks visible token later =>
    cases gap with
    | nil =>
      obtain rfl := Option.some.inj hc
      exact token.isWordChar_eq_false (follows _ rfl)
    | cons b gap =>
      obtain rfl := Option.some.inj hc
      exact isWordChar_of_isBlank (blanks b List.mem_cons_self)

/-- A reference is a word that ends where it does, and no parenthesis follows. -/
theorem TokenAt.cell {c : Char} {tail rest : List Char}
    (h : TokenAt c (tail ++ rest) .cell tail) :
    beginsWord c = true ∧ (∀ d ∈ rest.head?, isWordChar d = false) ∧ rest.head? ≠ some '(' := by
  obtain ⟨taken, h, cut⟩ : ∃ taken, TokenAt c (tail ++ rest) .cell taken ∧ taken = tail :=
    ⟨tail, h, rfl⟩
  cases h with
  | single single => exact absurd rfl (kind_of_singleKind? single).2.2
  | word begins kind_eq =>
    refine ⟨begins, Text.stops_of_takeWhile cut, fun called => ?_⟩
    have after : (tail ++ rest).dropWhile isWordChar = rest := by
      have after := Text.drop_length_takeWhile isWordChar (tail ++ rest)
      rw [cut, List.drop_left] at after
      exact after.symm
    rw [after, decide_eq_true called] at kind_eq
    cases kind_eq

/-- The shifted lexemes make up a text that is cut into them again, and it starts like the text
    they came from. -/
theorem Cuts.shift {rows cols : Int} {cs ending : List Char} {ls ls' : List Lexeme}
    (h : Cuts cs ls ending) (shifted : Shifted rows cols ls ls')
    (ends : NumbersEnd (ls.map Lexeme.kind)) :
    ∃ text, Cuts text ls' ending ∧ SameStart cs text := by
  induction h generalizing ls' with
  | @blank gap blanks =>
    obtain rfl := List.forall₂_nil_left_iff.1 shifted
    exact ⟨gap, .blank blanks, .inl rfl⟩
  | @token gap tail rest ending c kind ls blanks visible token later ih =>
    obtain ⟨l', ls', first, shiftedLater, rfl⟩ := List.forall₂_cons_left_iff.1 shifted
    obtain ⟨follows, endsLater⟩ := List.isChain_cons.1 ends
    obtain ⟨text, cut, same⟩ := ih shiftedLater endsLater
    rcases Lexeme.shift_eq_ok.1 first with ⟨-, rfl⟩ | ⟨isCell, a, -, -, rfl⟩
    · have stops : kind = .number → ∀ d ∈ rest.head?, isWordChar d = false := by
        intro number
        refine later.stops fun l hl => follows l.kind ?_ number
        rw [List.head?_map]
        exact Option.mem_map_of_mem _ hl
      exact ⟨_, .token blanks visible (token.congr same stops) cut, sameStart_append (.inl rfl)⟩
    · obtain rfl : kind = .cell := isCell
      obtain ⟨begins, stops, notCalled⟩ := token.cell
      have heads := same.head?_eq stops
      obtain ⟨c', tail', chars, begins', token'⟩ := exists_tokenAt_address (a.moved rows cols)
        (by rw [heads]; exact stops) (by rw [heads]; exact notCalled)
      rw [chars]
      have visible' := (not_begins_of_beginsWord begins').1
      exact ⟨_, .token blanks visible' token' cut,
        sameStart_append (.inr ⟨c, rfl, c', rfl, begins, begins'⟩)⟩

/-! ## Moved tokens -/

theorem address_token_eq_ok {l : Lexeme} {offset : Nat} {a : Address} :
    (l.token offset).address = .ok a ↔ Address.parse l.value = .ok a :=
  Token.address_eq_ok

/-- The token of a shifted lexeme is the old one, but a reference is moved. -/
theorem Lexeme.mapsTo {rows cols : Int} {l l' : Lexeme} (h : l.shift rows cols = .ok l')
    (offset offset' : Nat) :
    Token.MapsTo (Address.moved rows cols) (l.token offset) (l'.token offset') := by
  rcases Lexeme.shift_eq_ok.1 h with ⟨notCell, rfl⟩ | ⟨isCell, a, parsed, stays, rfl⟩
  · exact ⟨rfl, fun _ => rfl, fun isCell => absurd isCell notCell⟩
  · refine ⟨rfl, fun notCell => absurd isCell notCell, fun _ b address => ?_⟩
    rw [address_token_eq_ok, parsed] at address
    obtain rfl := Except.ok.inj address
    have written : Lexeme.token { l with raw := (a.moved rows cols).chars } offset' =
        Lexeme.token ⟨l.gap, .cell, (a.moved rows cols).chars⟩ offset' := by rw [isCell]
    rw [written]
    exact address_token stays.onGrid offset'

theorem Shifted.mapsTo {rows cols : Int} {ls ls' : List Lexeme} (h : Shifted rows cols ls ls')
    (offset offset' : Nat) :
    List.Forall₂ (Token.MapsTo (Address.moved rows cols)) (tokensFrom offset ls)
      (tokensFrom offset' ls') := by
  induction h generalizing offset offset' with
  | nil => exact .nil
  | cons first _ ih => exact .cons (Lexeme.mapsTo first offset offset') (ih _ _)

theorem readReferences_tokensFrom (offset : Nat) (ls : List Lexeme) :
    readReferences (tokensFrom offset ls) =
      (ls.filter (·.kind = .cell)).map fun l => Address.parse l.value := by
  induction ls generalizing offset with
  | nil => rfl
  | cons l ls ih =>
    have later := ih (offset + byteLength l.gap + byteLength l.raw)
    unfold readReferences at later ⊢
    by_cases isCell : l.kind = .cell
    · simp [tokensFrom, isCell, later]
    · simp [tokensFrom, isCell, later]

theorem kind_tokensFrom (offset : Nat) (ls : List Lexeme) :
    (tokensFrom offset ls).map Token.kind = ls.map Lexeme.kind := by
  induction ls generalizing offset with
  | nil => rfl
  | cons l ls ih => exact congrArg (List.cons l.kind) (ih _)

/-- The lexemes of an expression can be shifted when all its references stay on the grid. -/
theorem exists_shifted_iff {rows cols : Int} {ls : List Lexeme} {as : List Address}
    (h : ((ls.filter (·.kind = .cell)).map fun l => Address.parse l.value) = as.map .ok) :
    (∃ ls', Shifted rows cols ls ls') ↔ ∀ a ∈ as, a.StaysOnGrid rows cols := by
  rw [exists_forall₂_iff]
  constructor
  · intro shifts a ha
    have read : Except.ok a ∈ as.map (.ok : Address → Except AddressFault Address) :=
      List.mem_map_of_mem ha
    rw [← h] at read
    obtain ⟨l, hl, parsed⟩ := List.mem_map.1 read
    obtain ⟨mem, isCell⟩ := List.mem_filter.1 hl
    obtain ⟨l', first⟩ := shifts l mem
    rcases Lexeme.shift_eq_ok.1 first with ⟨notCell, -⟩ | ⟨-, b, parsed', stays, -⟩
    · exact absurd (of_decide_eq_true isCell) notCell
    · rw [parsed] at parsed'
      obtain rfl := Except.ok.inj parsed'
      exact stays
  · intro stays l hl
    by_cases isCell : l.kind = .cell
    · have read : Address.parse l.value ∈ as.map (.ok : Address → Except AddressFault Address) := by
        rw [← h]
        exact List.mem_map_of_mem (List.mem_filter.2 ⟨hl, decide_eq_true isCell⟩)
      obtain ⟨a, ha, parsed⟩ := List.mem_map.1 read
      exact ⟨_, Lexeme.shift_eq_ok.2 (.inr ⟨isCell, a, parsed.symm, stays a ha, rfl⟩)⟩
    · exact ⟨l, Lexeme.shift_eq_ok.2 (.inl ⟨isCell, rfl⟩)⟩

/-! ## Shifted formulas -/

theorem shiftBody_eq_ok {rows cols : Int} {body text ending : List Char} {ls : List Lexeme}
    (scanned : scan body = ⟨ls, .blank ending⟩) :
    shiftBody rows cols body = .ok text ↔
      ∃ ls', Shifted rows cols ls ls' ∧ Scan.chars ⟨ls', .blank ending⟩ = text := by
  unfold shiftBody
  rw [scanned]
  simp only [bind_eq_ok, mapM_eq_ok_iff]
  constructor
  · rintro ⟨ls', shifted, h⟩
    exact ⟨ls', shifted, Except.ok.inj h⟩
  · rintro ⟨ls', shifted, rfl⟩
    exact ⟨ls', shifted, rfl⟩

/-- A formula can be shifted if and only if its references and the corners of its ranges, all of
    them moved, stay on the grid; and the shifted text is read as the same expression with those
    moved, and nothing else changed. -/
theorem shiftBody_moves_references {body : List Char} {e : Expr} (h : parseBody body = .ok e)
    (rows cols : Int) :
    ((∃ text, shiftBody rows cols body = .ok text) ↔
      ∀ a ∈ e.addresses, a.StaysOnGrid rows cols) ∧
    ∀ text, shiftBody rows cols body = .ok text →
      parseBody text = .ok (e.mapAddresses (Address.moved rows cols)) := by
  obtain ⟨ts, tokens, parsed⟩ := bind_eq_ok.1 h
  obtain ⟨ls, ending, scanned, rfl⟩ := exists_scan_of_tokenize tokens
  obtain ⟨derived, finite, fits⟩ := parseTokens_eq_ok_iff.1 parsed
  constructor
  · rw [← exists_shifted_iff ((readReferences_tokensFrom 0 ls).symm.trans derived.addresses_eq)]
    simp only [shiftBody_eq_ok scanned]
    exact ⟨fun ⟨_, ls', shifted, _⟩ => ⟨ls', shifted⟩, fun ⟨ls', shifted⟩ => ⟨_, ls', shifted, rfl⟩⟩
  · intro text shiftedBody
    obtain ⟨ls', shifted, rfl⟩ := (shiftBody_eq_ok scanned).1 shiftedBody
    have ends : NumbersEnd (ls.map Lexeme.kind) := by
      rw [← kind_tokensFrom 0]
      exact derived.numbersEnd
    obtain ⟨text, cut, -⟩ := (scan_eq_iff.1 scanned).shift shifted ends
    rw [cut.chars_eq]
    have moved := derived.mapAddresses _ (Shifted.mapsTo shifted 0 0)
    unfold parseBody
    rw [tokenize_of_scan (scan_eq_iff.2 cut)]
    refine parseTokens_eq_ok_iff.2 ⟨moved, ?_, ?_⟩
    · unfold Expr.Finite
      rw [Expr.numbers_mapAddresses]
      exact finite
    · rw [Expr.nesting_mapAddresses]
      exact fits

/-- A formula with blanks, a quoted reference, a function named like one, lower case, anchors and
    a range. -/
def mixedBody : List Char := "IF( a1 >1e1, \"A1\"&LOG10($b2:c$3) ,Z9)".toList

theorem shiftBody_moves_references_mixed :
    ∃ e, parseBody mixedBody = .ok e ∧
      shiftBody 2 1 mixedBody = .ok "IF( B3 >1e1, \"A1\"&LOG10($B4:D$3) ,AA11)".toList ∧
      parseBody "IF( B3 >1e1, \"A1\"&LOG10($B4:D$3) ,AA11)".toList =
        .ok (e.mapAddresses (Address.moved 2 1)) := by
  have shifted : (shiftBody 2 1 mixedBody).toOption =
      some "IF( B3 >1e1, \"A1\"&LOG10($B4:D$3) ,AA11)".toList := by decide +kernel
  have reads : (parseBody mixedBody).toOption.isSome = true := by decide +kernel
  cases parsed : parseBody mixedBody with
  | error fault =>
    rw [parsed] at reads
    cases reads
  | ok e =>
    cases moved : shiftBody 2 1 mixedBody with
    | error fault =>
      rw [moved] at shifted
      cases shifted
    | ok text =>
      rw [moved] at shifted
      obtain rfl := Option.some.inj shifted
      exact ⟨e, rfl, rfl, (shiftBody_moves_references parsed 2 1).2 _ moved⟩

end Worksheet
