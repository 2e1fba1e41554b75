/-
  What the calls of a walk through a text give: the tokens from left to right, then the fault that
  ends them, if there is one, and from then on nothing (`call_eq`). A fault is reported where it
  stands in the text, behind the tokens that were given before it (`FaultAt`).
-/
import Worksheet.Formula.TokenWalk
import Worksheet.Proofs.Formula.Respelling

namespace Worksheet

/-! ## Faults -/

/-- A text that cannot be read beyond the given tokens, and the fault that tells where this is. -/
inductive FaultAt (ts : List Token) : List Char → FormulaFault → Prop where
  /-- A character that begins no token, or an anchor in a word that is no reference. -/
  | character {front word after : List Char} {c : Char} (spans : Spans front ts)
      (chars : ∀ d ∈ word, isWordChar d = true) (anchor : word ≠ [] → c = '$') :
      FaultAt ts (front ++ (word ++ c :: after)) (.strayCharacter c (byteLength (front ++ word)))
  /-- A mark that opens a text literal without an end. -/
  | openText {front after : List Char} (spans : Spans front ts)
      (contents : Text.contents? after = none) :
      FaultAt ts (front ++ '"' :: after) (.openText (byteLength front))

/-- What a fault in place of a token tells. -/
theorem tokenAt_eq_error {c : Char} {cs : List Char} {cause : Stray}
    (h : tokenAt c cs = .error cause) :
    (cause = .openText ∧ c = '"' ∧ Text.contents? cs = none) ∨
      ∃ word d after, c :: cs = word ++ d :: after ∧ cause = .character d (byteLength word) ∧
        (∀ e ∈ word, isWordChar e = true) ∧ (word ≠ [] → d = '$') := by
  unfold tokenAt at h
  split at h
  · cases h
  split at h
  · cases h
  split at h
  · cases h
  split at h
  · next mark =>
    split at h
    · cases h
    · next noEnd =>
      cases h
      exact .inl ⟨rfl, mark, noEnd⟩
  split at h
  · cases h
  split at h
  · next begins =>
    dsimp only at h
    split at h
    · next anchored =>
      cases h
      obtain ⟨word, after, split, first⟩ := List.eq_append_cons_of_mem anchored.2
      have chars : ∀ e ∈ c :: cs.takeWhile isWordChar, isWordChar e = true :=
        List.forall_mem_cons.2 ⟨isWordChar_of_beginsWord begins, fun e => List.mem_takeWhile_imp⟩
      rw [split] at chars
      have chars : ∀ e ∈ word, isWordChar e = true := fun e he =>
        chars e (List.mem_append_left _ he)
      -- All characters of a word take one byte.
      have place : ('$' :: after).idxOf '$' = 0 := List.idxOf_cons_self
      have size : (c :: cs.takeWhile isWordChar).idxOf '$' = byteLength word := by
        rw [split, List.idxOf_append_of_notMem first, place, Nat.add_zero,
          byteLength_of_ascii fun e he => toNat_lt_of_isWordChar (chars e he)]
      refine .inr ⟨word, '$', after ++ cs.dropWhile isWordChar, ?_, ?_, chars, fun _ => rfl⟩
      · calc c :: cs = c :: cs.takeWhile isWordChar ++ cs.dropWhile isWordChar := by
              rw [List.cons_append, List.takeWhile_append_dropWhile]
          _ = word ++ '$' :: (after ++ cs.dropWhile isWordChar) := by
              rw [split, List.append_assoc, List.cons_append]
      · rw [size]
    · cases h
  · cases h
    exact .inr ⟨[], c, cs, rfl, rfl, nofun, fun h => absurd rfl h⟩

/-- The fault that ended the scan of a text that begins at byte `offset`. -/
def Scan.faultFrom? (offset : Nat) (s : Scan) : Option FormulaFault :=
  match s.ending with
  | .blank _ => none
  | .stray gap cause _ =>
    some (cause.fault (offset + byteLength (s.lexemes.flatMap Lexeme.chars ++ gap)))

theorem fault?_eq (s : Scan) : s.fault? = s.faultFrom? 0 := by
  unfold Scan.fault? Scan.faultFrom?
  cases s.ending with
  | blank gap => rfl
  | stray gap cause rest =>
    dsimp only
    rw [Nat.zero_add]
    cases cause <;> rfl

/-- A text without a fault has tokens. -/
theorem tokenize_eq (body : List Char) :
    tokenize body = match (scan body).faultFrom? 0 with
      | some fault => .error fault
      | none => .ok (tokensFrom 0 (scan body).lexemes) := by
  rw [← fault?_eq]
  rfl

/-- The fault of a text stands behind the tokens that were cut off before. -/
theorem faultAt_of_scan {body : List Char} {fault : FormulaFault}
    (h : (scan body).faultFrom? 0 = some fault) :
    FaultAt (tokensFrom 0 (scan body).lexemes) body fault := by
  have whole := chars_scan body
  have cut := cut_of_mem_scan body
  rcases ending_scan body with ⟨gap, blank, -⟩ | ⟨gap, c, rest, cause, stray, blanks, error⟩
  · rw [Scan.faultFrom?, blank] at h
    cases h
  rw [Scan.chars, stray, Ending.chars, ← List.append_assoc] at whole
  rw [Scan.faultFrom?, stray] at h
  have spans := spans_tokensFrom cut blanks
  obtain rfl := Option.some.inj h
  generalize tokensFrom 0 (scan body).lexemes = ts at spans ⊢
  generalize (scan body).lexemes.flatMap Lexeme.chars ++ gap = front at whole spans ⊢
  subst whole
  rw [Nat.zero_add]
  rcases tokenAt_eq_error error with ⟨rfl, rfl, noEnd⟩ | ⟨word, d, after, text, rfl, chars, anchor⟩
  · exact .openText spans noEnd
  · rw [text]
    show FaultAt ts _ (.strayCharacter d (byteLength front + byteLength word))
    rw [← byteLength_append]
    exact .character spans chars anchor

/-! ## Calls -/

namespace TokenWalk

theorem call_of_failed (rest : List Char) (position n : Nat) :
    TokenWalk.call ⟨rest, position, true⟩ n = none := by
  induction n with
  | zero => rfl
  | succ n ih => exact ih

theorem call_nil (position n : Nat) : TokenWalk.call ⟨[], position, false⟩ n = none := by
  induction n with
  | zero => rfl
  | succ n ih => exact ih

/-- What all the calls give, from a place in the text on. -/
def outcomes (offset : Nat) (s : Scan) : List (Except FormulaFault Token) :=
  (tokensFrom offset s.lexemes).map .ok ++ ((s.faultFrom? offset).map .error).toList

/-- The first lexeme is given first, and the others are found where it ends. -/
theorem outcomes_cons (offset : Nat) (l : Lexeme) (ls : List Lexeme) (ending : Ending) :
    outcomes offset ⟨l :: ls, ending⟩ =
      .ok ⟨l.kind, l.value, offset + byteLength l.gap,
          offset + byteLength l.gap + byteLength l.raw⟩ ::
        outcomes (offset + byteLength l.gap + byteLength l.raw) ⟨ls, ending⟩ := by
  have fault : Scan.faultFrom? offset ⟨l :: ls, ending⟩ =
      Scan.faultFrom? (offset + byteLength l.gap + byteLength l.raw) ⟨ls, ending⟩ := by
    cases ending with
    | blank gap => rfl
    | stray gap cause rest =>
      simp only [Scan.faultFrom?, List.flatMap_cons, Lexeme.chars, byteLength_append,
        Nat.add_assoc]
  rw [outcomes, outcomes, fault]
  rfl

/-- The calls give one lexeme after the other, then the fault, then nothing. -/
theorem call_eq (cs : List Char) (offset n : Nat) :
    TokenWalk.call ⟨cs, offset, false⟩ n = (outcomes offset (scan cs))[n]? := by
  fun_induction scan cs generalizing offset n with
  | case1 cs gap empty =>
    have next : TokenWalk.next ⟨cs, offset, false⟩ =
        (none, ⟨[], offset + byteLength gap, false⟩) := by
      unfold next
      dsimp only
      rw [empty]
      rfl
    cases n with
    | zero => rw [call, next]; rfl
    | succ n => rw [call, next, call_nil]; rfl
  | case2 cs gap c rest start cause error =>
    have next : TokenWalk.next ⟨cs, offset, false⟩ =
        (some (.error (cause.fault (offset + byteLength gap))),
          ⟨c :: rest, offset + byteLength gap, true⟩) := by
      unfold next
      dsimp only
      rw [start]
      dsimp only
      rw [error]
      rfl
    cases n with
    | zero => rw [call, next]; rfl
    | succ n => rw [call, next, call_of_failed]; rfl
  | case3 cs gap c rest start kind tail token later ih =>
    have next : TokenWalk.next ⟨cs, offset, false⟩ =
        (some (.ok ⟨kind, Lexeme.value ⟨gap, kind, c :: tail⟩, offset + byteLength gap,
            offset + byteLength gap + byteLength (c :: tail)⟩),
          ⟨rest.drop tail.length, offset + byteLength gap + byteLength (c :: tail), false⟩) := by
      unfold next
      dsimp only
      rw [start]
      dsimp only
      rw [token]
      rfl
    rw [outcomes_cons]
    cases n with
    | zero => rw [call, next]; rfl
    | succ n => rw [call, next, ih]; rfl

end TokenWalk

/-- The tokens of a text stand in it one after the other, with nothing but blanks between them, and
    each is shown as it is written, up to capitals in references and truth values; written back into
    the text they are read again. A text that has no tokens has a fault where this is reported. A
    walk gives the tokens up to there, one with each call, then the fault, then nothing. -/
theorem tokens_stand_in_text (body : List Char) :
    (∀ ts, tokenize body = .ok ts →
      Spans body ts ∧ tokenize (respelled body ts) = .ok ts ∧
        ∀ n, (TokenWalk.start body).call n = (ts.map .ok)[n]?) ∧
    ∀ fault, tokenize body = .error fault →
      ∃ ts, FaultAt ts body fault ∧
        ∀ n, (TokenWalk.start body).call n = (ts.map .ok ++ [.error fault])[n]? := by
  have calls (n : Nat) : (TokenWalk.start body).call n = (TokenWalk.outcomes 0 (scan body))[n]? :=
    TokenWalk.call_eq body 0 n
  refine ⟨fun ts h => ⟨spans_of_tokenize h, tokenize_respelled h, fun n => ?_⟩, fun fault h => ?_⟩
  · obtain ⟨ls, ending, scanned, rfl⟩ := exists_scan_of_tokenize h
    rw [calls, scanned, TokenWalk.outcomes]
    exact congrArg (fun outcomes => outcomes[n]?) (List.append_nil _)
  · rw [tokenize_eq] at h
    cases found : (scan body).faultFrom? 0 with
    | none =>
      rw [found] at h
      cases h
    | some cause =>
      rw [found] at h
      obtain rfl := Except.error.inj h
      refine ⟨_, faultAt_of_scan found, fun n => ?_⟩
      rw [calls, TokenWalk.outcomes, found]
      rfl

/-- A literal takes seven bytes when its mark is written twice in it and one of its letters takes
    two; `true` is shown in capitals and read again. An anchor in a word is reported behind the
    literal and the operator before it. -/
theorem tokens_stand_in_text_uneven :
    (∃ ts, tokenize "\"é\"\"x\" & true".toList = .ok ts ∧
      ts = [⟨.text, "é\"x", 0, 7⟩, ⟨.operator, "&", 8, 9⟩, ⟨.boolean, "TRUE", 10, 14⟩] ∧
        Spans "\"é\"\"x\" & true".toList ts ∧ tokenize "\"é\"\"x\" & TRUE".toList = .ok ts ∧
          ∀ n, (TokenWalk.start "\"é\"\"x\" & true".toList).call n = (ts.map .ok)[n]?) ∧
    ∃ ts, tokenize "\"é\"+x$".toList = .error (.strayCharacter '$' 6) ∧
      FaultAt ts "\"é\"+x$".toList (.strayCharacter '$' 6) ∧
        ∀ n, (TokenWalk.start "\"é\"+x$".toList).call n =
          (ts.map .ok ++ [.error (.strayCharacter '$' 6)])[n]? := by
  obtain ⟨stand, -⟩ := tokens_stand_in_text "\"é\"\"x\" & true".toList
  obtain ⟨-, refuse⟩ := tokens_stand_in_text "\"é\"+x$".toList
  constructor
  · have tokens : tokenize "\"é\"\"x\" & true".toList = .ok [⟨.text, "é\"x", 0, 7⟩,
        ⟨.operator, "&", 8, 9⟩, ⟨.boolean, "TRUE", 10, 14⟩] := by decide +kernel
    have respelling : respelled "\"é\"\"x\" & true".toList [⟨.text, "é\"x", 0, 7⟩,
        ⟨.operator, "&", 8, 9⟩, ⟨.boolean, "TRUE", 10, 14⟩] = "\"é\"\"x\" & TRUE".toList := by
      decide +kernel
    obtain ⟨spans, again, calls⟩ := stand _ tokens
    rw [respelling] at again
    exact ⟨_, tokens, rfl, spans, again, calls⟩
  · have fault : tokenize "\"é\"+x$".toList = .error (.strayCharacter '$' 6) := by decide +kernel
    obtain ⟨ts, stands, calls⟩ := refuse _ fault
    exact ⟨ts, fault, stands, calls⟩

end Worksheet
