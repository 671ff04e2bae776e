/-
# StepPattern.Proofs.Classify -- the rules for raw tokens follow the grammar

A raw token is accepted exactly when the grammar has an item of its form, and then
stands for the token of that item: each reader accepts what one rule of the
grammar writes.  The raw token as a whole only goes into the messages of errors.
-/
import StepPattern.Proofs.Cut
import StepPattern.Proofs.Grammar

namespace StepPattern

set_option autoImplicit false

open Text Scanner

namespace Grammar

/-! ## Numerals -/

theorem digitsValue?_eq_some_iff {t : Text} {n : Nat} :
    digitsValue? t = some n ↔ Digits t ∧ n = digitsValue t := by
  simp only [digitsValue?, isDigits, Digits, Bool.and_eq_true, Bool.not_eq_true',
    List.isEmpty_eq_false_iff, List.all_eq_true]
  split
  · rename_i within
    simp only [Option.some.injEq]
    constructor
    · rintro rfl
      exact ⟨⟨within.1.1, within.1.2, within.2⟩, rfl⟩
    · rintro ⟨-, rfl⟩
      rfl
  · rename_i beyond
    simp only [reduceCtorEq, false_iff]
    rintro ⟨⟨nonempty, decimal, short⟩, -⟩
    exact beyond ⟨⟨nonempty, decimal⟩, short⟩

theorem Digits.head_ne {t : Text} (decimal : Digits t) {c : Char} (other : isDecimal c = false) :
    t.head? ≠ some c := by
  intro head
  have digit := decimal.2.1 c (List.mem_of_head? head)
  rw [other] at digit
  cases digit

theorem splitSign_of_head {t : Text} (noMinus : t.head? ≠ some '-') (noPlus : t.head? ≠ some '+') :
    splitSign t = (false, t) := by
  unfold splitSign
  split
  · simp at noMinus
  · simp at noPlus
  · rfl

theorem numeral_iff {t : Text} {n : Int} : Numeral t n ↔ numeralValue? t = some n := by
  constructor
  · intro numeral
    cases numeral with
    | plain decimal =>
        have unsigned := splitSign_of_head (decimal.head_ne (c := '-') (by decide))
          (decimal.head_ne (c := '+') (by decide))
        rw [numeralValue?, unsigned, digitsValue?_eq_some_iff.2 ⟨decimal, rfl⟩]
        rfl
    | plus decimal | minus decimal =>
        rw [numeralValue?, splitSign, digitsValue?_eq_some_iff.2 ⟨decimal, rfl⟩]
        rfl
  · intro value
    obtain ⟨v, digits, rfl⟩ := Option.map_eq_some_iff.1 value
    obtain ⟨decimal, rfl⟩ := digitsValue?_eq_some_iff.1 digits
    unfold splitSign at decimal ⊢
    split at decimal
    · exact .minus decimal
    · exact .plus decimal
    · exact .plain decimal

/-- A numeral is made of digits and a sign. -/
theorem Numeral.mem {t : Text} {n : Int} (numeral : Numeral t n) {c : Char} (member : c ∈ t) :
    isDecimal c = true ∨ c = '+' ∨ c = '-' := by
  cases numeral with
  | plain decimal => exact .inl (decimal.2.1 c member)
  | plus decimal =>
      rcases List.mem_cons.1 member with rfl | digit
      · exact .inr (.inl rfl)
      · exact .inl (decimal.2.1 c digit)
  | minus decimal =>
      rcases List.mem_cons.1 member with rfl | digit
      · exact .inr (.inr rfl)
      · exact .inl (decimal.2.1 c digit)

theorem Numeral.ne_nil {t : Text} {n : Int} (numeral : Numeral t n) : t ≠ [] := by
  cases numeral with
  | plain decimal => exact decimal.1
  | plus | minus => exact List.cons_ne_nil _ _

theorem Numeral.unbroken {t : Text} {n : Int} (numeral : Numeral t n) : Unbroken t := by
  intro c member
  rcases numeral.mem member with digit | rfl | rfl
  · exact endsTail_of_isDecimal digit
  · decide
  · decide

theorem Numeral.star_notMem {t : Text} {n : Int} (numeral : Numeral t n) : '*' ∉ t := by
  intro member
  rcases numeral.mem member with digit | same | same
  · exact absurd digit (by decide)
  · exact absurd same (by decide)
  · exact absurd same (by decide)

/-- No numeral has the form of a name: it does not begin with a letter. -/
theorem Numeral.isIdentifier_eq_false {t : Text} {n : Int} (numeral : Numeral t n) :
    isIdentifier t = false := by
  obtain ⟨c, t, rfl⟩ := List.exists_cons_of_ne_nil numeral.ne_nil
  have noLetter : c.isAlpha = false := by
    rcases numeral.mem List.mem_cons_self with digit | rfl | rfl
    · exact isAlpha_eq_false_of_isDecimal digit
    · decide
    · decide
  simp [isIdentifier, noLetter]

/-! ## Values and counts -/

section Values

variable {restSymbol t : Text}

theorem Value.ne_nil (allowed : isRestSymbol restSymbol = true) (value : Value restSymbol t) :
    t ≠ [] := by
  rcases value with rfl | ⟨n, numeral⟩
  · exact (isRestSymbol_iff.1 allowed).1
  · exact numeral.ne_nil

theorem Value.unbroken (allowed : isRestSymbol restSymbol = true) (value : Value restSymbol t) :
    Unbroken t := by
  rcases value with rfl | ⟨n, numeral⟩
  · exact (isRestSymbol_iff.1 allowed).2.1
  · exact numeral.unbroken

theorem Value.star_notMem (allowed : isRestSymbol restSymbol = true)
    (value : Value restSymbol t) : '*' ∉ t := by
  rcases value with rfl | ⟨n, numeral⟩
  · exact (isRestSymbol_iff.1 allowed).2.2
  · exact numeral.star_notMem

/-- A numeral is what the check of the form and the reading of the value both accept. -/
theorem exists_numeral_iff (unbroken : Unbroken t) :
    (∃ n, Numeral t n) ↔ Token.isInteger t = true ∧ (Token.integer? t).isSome = true := by
  rw [Token.isInteger, Token.integer?, unbroken.dropFinalNewline_eq, Option.isSome_iff_exists]
  constructor
  · rintro ⟨n, numeral⟩
    have value := numeral_iff.1 numeral
    exact ⟨isNumeral_of_numeralValue? value, n, value⟩
  · rintro ⟨-, n, value⟩
    exact ⟨n, numeral_iff.2 value⟩

end Values

end Grammar

namespace Call

/-- A word of letters and then digits calls a transform where the digits are within the limit. -/
theorem ofText_letters_append {letters digits : Text} (name : isLetters letters = true)
    (decimal : ∀ c ∈ digits, isDecimal c = true) :
    ofText (letters ++ digits) =
      if digits.isEmpty then .ok ⟨letters, none⟩
      else ((digitsValue? digits).map fun n => .ok ⟨letters, some n⟩).getD
        (.error (.parameterTooLong letters)) := by
  have identifier := isIdentifier_append name decimal
  have whole := (unbroken_of_isIdentifier identifier).dropFinalNewline_eq
  rw [isLetters, Bool.and_eq_true] at name
  obtain ⟨taken, dropped⟩ := takeWhile_letters name.2 decimal
  simp only [ofText, whole, taken, dropped, identifier, Bool.not_true, Bool.false_eq_true,
    if_false]
  cases digitsValue? digits <;> rfl

end Call

/-- A name before a bracket is read as any other transform name. -/
theorem Grammar.Name.ofText_eq {t : Text} {call : Call} (names : Name t (some call)) :
    Call.ofText t = .ok call := by
  cases names with
  | plain name =>
      have read := Call.ofText_letters_append name (List.forall_mem_nil _)
      rwa [List.append_nil] at read
  | fused name decimal =>
      have nonempty := List.isEmpty_eq_false_iff.2 decimal.1
      rw [Call.ofText_letters_append name decimal.2.1, nonempty,
        digitsValue?_eq_some_iff.2 ⟨decimal, rfl⟩]
      rfl

namespace Token

open Grammar

theorem readCount_eq_ok_iff {t raw : Text} {n : Nat} (unbroken : Unbroken t) :
    readCount t raw = .ok n ↔ Count t n := by
  have readable := exists_numeral_iff unbroken
  constructor
  · intro read
    unfold readCount at read
    split at read
    · cases read
    · split at read
      · cases read
      · split at read
        · cases read
        · rename_i value found
          split at read
          · cases read
          · split at read
            · cases read
            · cases read
              rw [integer?, unbroken.dropFinalNewline_eq] at found
              have same : (value.toNat : Int) = value := by omega
              refine ⟨?_, by omega, by omega⟩
              rw [same]
              exact numeral_iff.2 found
  · rintro ⟨numeral, positive, small⟩
    have value : integer? t = some (n : Int) := by
      rw [integer?, unbroken.dropFinalNewline_eq]
      exact numeral_iff.1 numeral
    have integer : isInteger t = true := (readable.1 ⟨n, numeral⟩).1
    have nonempty : t.isEmpty = false := List.isEmpty_eq_false_iff.2 numeral.ne_nil
    simp only [readCount, nonempty, integer, value, Bool.false_eq_true, Bool.not_true, if_false]
    rw [if_neg (by omega), if_neg (by omega)]
    rfl

/-- What belongs to a bracket behind it is accepted exactly where it is a count. -/
theorem readTail_eq_ok_iff {tail rest raw : Text} {count : Option Nat} (ends : Tail tail rest) :
    readTail tail raw = .ok count ↔ Times tail count := by
  cases ends with
  | none =>
      rw [readTail]
      constructor
      · rintro ⟨⟩
        exact .none
      · rintro ⟨⟩
        rfl
  | @count t _ unbroken =>
      rw [readTail]
      constructor
      · intro read
        cases counted : readCount t raw with
        | error error =>
            rw [counted] at read
            cases read
        | ok n =>
            rw [counted] at read
            cases read
            exact .count ((readCount_eq_ok_iff unbroken).1 counted)
      · rintro (_ | counts)
        rw [(readCount_eq_ok_iff unbroken).2 counts]
        rfl

theorem readName_letters_append {letters digits : Text} (raw : Text)
    (name : isLetters letters = true) (decimal : ∀ c ∈ digits, isDecimal c = true) :
    readName (letters ++ digits) raw = (Call.ofText (letters ++ digits)).map some := by
  have identifier := isIdentifier_append name decimal
  have whole := (unbroken_of_isIdentifier identifier).dropFinalNewline_eq
  have nonempty : (letters ++ digits).isEmpty = false := by
    rw [isLetters, Bool.and_eq_true, Bool.not_eq_true', List.isEmpty_eq_false_iff] at name
    exact List.isEmpty_eq_false_iff.2 (List.append_ne_nil_of_left_ne_nil name.1 _)
  simp only [readName, nonempty, whole, identifier, Bool.not_true, Bool.false_eq_true, if_false]

/-- What belongs to a bracket before it is accepted exactly where it names a call. -/
theorem readName_eq_ok_iff {name raw : Text} {call : Option Call} (named : Named name) :
    readName name raw = .ok call ↔ Name name call := by
  constructor
  · intro read
    rcases named with rfl | identifier
    · cases read
      exact .none
    · obtain ⟨letters, digits, rfl, isWord, decimal⟩ := exists_letters_digits identifier
      rw [readName_letters_append raw isWord decimal,
        Call.ofText_letters_append isWord decimal] at read
      split at read
      · rename_i noDigits
        cases read
        rw [List.isEmpty_iff.1 noDigits, List.append_nil]
        exact .plain isWord
      · cases value : digitsValue? digits with
        | none =>
            rw [value] at read
            cases read
        | some n =>
            rw [value] at read
            cases read
            obtain ⟨within, rfl⟩ := digitsValue?_eq_some_iff.1 value
            exact .fused isWord within
  · intro names
    cases names with
    | none => rfl
    | plain letters =>
        have read := readName_letters_append raw letters (List.forall_mem_nil _)
        rwa [List.append_nil, (Name.plain letters).ofText_eq] at read
    | fused letters decimal =>
        rw [readName_letters_append raw letters decimal.2.1, (Name.fused letters decimal).ofText_eq]
        rfl

/-! ## Raw tokens -/

/-- The checks of a bracket, in order: its count, then its name. -/
theorem classify_bracket {name inside : Text} (restSymbol tail : Text) (named : Named name)
    (balanced : within 0 inside = some 0) :
    classify restSymbol (name ++ '[' :: (inside ++ ']' :: tail)) =
      (readTail tail (name ++ '[' :: (inside ++ ']' :: tail))).bind fun count =>
        (readName name (name ++ '[' :: (inside ++ ']' :: tail))).map fun call =>
          .bracket call inside [] count := by
  have opened : '[' ∈ name ++ '[' :: (inside ++ ']' :: tail) := by simp
  rw [classify, if_pos (.inl opened), classifyBracket,
    splitBrackets_append tail named.unbroken.open_notMem balanced]
  generalize name ++ '[' :: (inside ++ ']' :: tail) = raw
  simp only [bind, Except.bind, pure, Except.pure]
  cases readTail tail raw with
  | error error => rfl
  | ok count => cases readName name raw <;> rfl

/-- A bracket is accepted exactly where its name and its count are. -/
theorem classify_bracket_eq_ok_iff {restSymbol name inside tail rest : Text} {token : Token}
    (named : Named name) (balanced : within 0 inside = some 0) (ends : Tail tail rest) :
    classify restSymbol (name ++ '[' :: (inside ++ ']' :: tail)) = .ok token ↔
      ∃ call count, Name name call ∧ Times tail count ∧
        token = .bracket call inside [] count := by
  rw [classify_bracket restSymbol tail named balanced]
  generalize name ++ '[' :: (inside ++ ']' :: tail) = raw
  constructor
  · intro accepted
    cases counted : readTail tail raw with
    | error error => simp [Except.bind, counted] at accepted
    | ok count =>
        cases called : readName name raw with
        | error error => simp [Except.bind, Except.map, counted, called] at accepted
        | ok call =>
            simp only [Except.bind, Except.map, counted, called, Except.ok.injEq] at accepted
            exact ⟨call, count, (readName_eq_ok_iff named).1 called,
              (readTail_eq_ok_iff ends).1 counted, accepted.symm⟩
  · rintro ⟨call, count, names, times, rfl⟩
    have called : readName name raw = .ok call := (readName_eq_ok_iff named).2 names
    have counted : readTail tail raw = .ok count := (readTail_eq_ok_iff ends).2 times
    simp only [Except.bind, Except.map, called, counted]

/-- The check of a value in a repetition and as a literal. -/
theorem value_iff {restSymbol t : Text} (unbroken : Unbroken t) :
    Grammar.Value restSymbol t ↔
      t = restSymbol ∨ isInteger t = true ∧ (integer? t).isSome = true :=
  or_congr_right (exists_numeral_iff unbroken)

/-- The checks of a word with `*`, in order. -/
theorem classifyRepeat_append {restSymbol t count : Text} (first : '*' ∉ t) :
    classifyRepeat restSymbol (t ++ '*' :: count) =
      if t.isEmpty then .error (.valueMissing (t ++ '*' :: count))
      else (readCount count (t ++ '*' :: count)).bind fun n =>
        if t = restSymbol then .ok (.repeated t n)
        else if !isInteger t then .error (.valueMalformed t)
        else if (integer? t).isNone then .error (.integerTooLong (t ++ '*' :: count))
        else .ok (.repeated t n) := by
  have stays : ∀ c ∈ t, decide (c ≠ '*') = true := by
    intro c member
    exact decide_eq_true fun same => first (same ▸ member)
  have taken : (t ++ '*' :: count).takeWhile (· ≠ '*') = t := by
    rw [List.takeWhile_append_of_pos stays]
    simp
  have dropped : (t ++ '*' :: count).drop (t.length + 1) = count := by
    simp [← List.drop_drop]
  rw [classifyRepeat, taken, dropped]
  generalize t ++ '*' :: count = raw
  cases empty : t.isEmpty with
  | true => rfl
  | false =>
      cases readCount count raw with
      | error error => rfl
      | ok n =>
          by_cases rest : t = restSymbol
          · simp [bind, Except.bind, pure, Except.pure, rest]
          · cases isInteger t with
            | false => simp [bind, Except.bind, rest, throw, throwThe, MonadExceptOf.throw]
            | true =>
                cases integer? t with
                | none => simp [bind, Except.bind, rest, throw, throwThe, MonadExceptOf.throw]
                | some value => simp [bind, Except.bind, pure, Except.pure, rest]

/-- A word with `*` is accepted exactly where a value stands before the first one and a count
behind it. -/
theorem classifyRepeat_eq_ok_iff {restSymbol t count : Text} {token : Token}
    (allowed : isRestSymbol restSymbol = true) (unbroken : Unbroken (t ++ '*' :: count))
    (first : '*' ∉ t) :
    classifyRepeat restSymbol (t ++ '*' :: count) = .ok token ↔
      ∃ n, Grammar.Value restSymbol t ∧ Count count n ∧ token = .repeated t n := by
  obtain ⟨plain, rest⟩ := unbroken_append.1 unbroken
  have plainCount : Unbroken count := (unbroken_cons.1 rest).2
  rw [classifyRepeat_append first]
  generalize t ++ '*' :: count = raw
  constructor
  · intro accepted
    split at accepted
    · cases accepted
    · cases counted : readCount count raw with
      | error error =>
          rw [counted] at accepted
          cases accepted
      | ok n =>
          rw [counted, Except.bind] at accepted
          have counts := (readCount_eq_ok_iff plainCount).1 counted
          split at accepted
          · rename_i same
            cases accepted
            exact ⟨n, .inl same, counts, rfl⟩
          · split at accepted
            · cases accepted
            · split at accepted
              · cases accepted
              · rename_i integer value
                cases accepted
                refine ⟨n, (value_iff plain).2 (.inr ⟨?_, ?_⟩), counts, rfl⟩
                · simpa using integer
                · simpa [Option.isSome_iff_ne_none] using value
  · rintro ⟨n, value, counts, rfl⟩
    have nonempty : t.isEmpty = false := List.isEmpty_eq_false_iff.2 (value.ne_nil allowed)
    rw [(readCount_eq_ok_iff plainCount).2 counts, nonempty, Except.bind]
    by_cases rest : t = restSymbol
    · simp [rest]
    · rcases (value_iff plain).1 value with same | ⟨integer, readable⟩
      · exact absurd same rest
      · simp [rest, integer, Option.isNone_eq_false_iff.2 readable]

/-- A word without `*` is accepted exactly where it is a value. -/
theorem classifyLiteral_eq_ok_iff {restSymbol w : Text} {token : Token} (unbroken : Unbroken w) :
    classifyLiteral restSymbol w = .ok token ↔
      Grammar.Value restSymbol w ∧ token = .literal w := by
  rw [value_iff unbroken, classifyLiteral]
  constructor
  · intro accepted
    split at accepted
    · rename_i rest
      cases accepted
      exact ⟨.inl rest, rfl⟩
    · split at accepted
      · cases accepted
      · split at accepted
        · cases accepted
        · rename_i integer value
          cases accepted
          refine ⟨.inr ⟨?_, ?_⟩, rfl⟩
          · simpa using integer
          · simpa [Option.isSome_iff_ne_none] using value
  · rintro ⟨rest | ⟨integer, readable⟩, rfl⟩
    · rw [if_pos rest]
    · by_cases rest : w = restSymbol
      · rw [if_pos rest]
      · simp [rest, integer, Option.isNone_eq_false_iff.2 readable]

/-- A word is classified as a repetition or as a literal. -/
theorem classify_word {restSymbol w : Text} (unbroken : Unbroken w) :
    classify restSymbol w =
      if '*' ∈ w then classifyRepeat restSymbol w else classifyLiteral restSymbol w := by
  rw [classify, if_neg]
  rintro (opened | closed)
  · exact unbroken.open_notMem opened
  · exact unbroken.close_notMem closed

/-- What an accepted raw token is: an item, but for what stands inside its brackets. -/
inductive Raw (restSymbol : Text) : Token → Text → Prop where
  | value {t : Text} (value : Grammar.Value restSymbol t) : Raw restSymbol (.literal t) t
  | repeated {n : Nat} {t count : Text} (value : Grammar.Value restSymbol t)
      (counts : Count count n) : Raw restSymbol (.repeated t n) (t ++ '*' :: count)
  | bracket {name inside tail : Text} {call : Option Call} {count : Option Nat}
      (names : Name name call) (times : Times tail count) :
      Raw restSymbol (.bracket call inside [] count) (name ++ '[' :: (inside ++ ']' :: tail))

theorem raw_of_classify {restSymbol raw rest : Text} {token : Token} {position : Nat}
    (allowed : isRestSymbol restSymbol = true)
    (first : Piece.First position (.token raw) rest)
    (accepted : classify restSymbol raw = .ok token) : Raw restSymbol token raw := by
  cases first with
  | word nonempty unbroken =>
      rw [classify_word unbroken] at accepted
      split at accepted
      · rename_i starred
        obtain ⟨t, count, rfl, noStar⟩ := List.eq_append_cons_of_mem starred
        obtain ⟨n, value, counts, rfl⟩ :=
          (classifyRepeat_eq_ok_iff allowed unbroken noStar).1 accepted
        exact .repeated value counts
      · obtain ⟨value, rfl⟩ := (classifyLiteral_eq_ok_iff unbroken).1 accepted
        exact .value value
  | bracket named balanced ends =>
      obtain ⟨call, count, names, times, rfl⟩ :=
        (classify_bracket_eq_ok_iff named balanced ends).1 accepted
      exact .bracket names times

end Token

end StepPattern
