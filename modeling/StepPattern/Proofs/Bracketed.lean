/-
# StepPattern.Proofs.Bracketed -- texts of a single item

A text that is one item parses to its token (`parse_item`).  A text that is one bracket,
whatever stands inside of it, parses to one token or to none: that is decided by its name
and by the depth limit, and its count has no part in it (`exists_parse_bracket`).

What a token gives that stands alone is one evaluation, copied as often as its count says,
or nothing if that passes the step limit (`Token.alone`); the source is behind the draws
of the one evaluation in either case.
-/
import StepPattern.Proofs.Language
import StepPattern.Proofs.Steps

namespace StepPattern

set_option autoImplicit false

open Text

/-! ## What a token gives that stands alone -/

namespace Yield

/-- A yield, or nothing where its sequence passes the step limit. -/
def capped (y : Yield) : Yield :=
  { y with sequence := if y.sequence.length ≤ maxSteps then y.sequence else [] }

theorem capped_of_le {y : Yield} (fits : y.sequence.length ≤ maxSteps) : y.capped = y := by
  rw [capped, if_pos fits]

theorem capped_replicate {n : Nat} (few : n ≤ maxSteps) (v : Value) (source : Twister) :
    ({ sequence := List.replicate n v, source } : Yield).capped =
      { sequence := List.replicate n v, source } := by
  apply capped_of_le
  simpa using few

/-- Behind nothing a piece is cut off at the limit, and that is all. -/
theorem start_add (source : Twister) (piece : Yield) :
    (Yield.start source).add piece = piece.capped := by
  have same : (Yield.start source).sequence.length + piece.sequence.length =
      piece.sequence.length := Nat.zero_add _
  by_cases fits : piece.sequence.length ≤ maxSteps
  · rw [add_of_le (Nat.le_trans (Nat.le_of_eq same) fits), capped_of_le fits]
    rfl
  · rw [add, same, if_pos (Nat.lt_of_not_le fits), capped, if_neg fits]
    rfl

/-- Copies of a yield that was cut off at the limit are cut off where the copies of the whole yield
are. -/
theorem sequence_capped_times (y : Yield) {count : Nat} (positive : 1 ≤ count) :
    (y.times count).capped.sequence =
      if count * y.capped.sequence.length ≤ maxSteps then
        (List.replicate count y.capped.sequence).flatten
      else [] := by
  by_cases fits : y.sequence.length ≤ maxSteps
  · rw [capped_of_le fits, capped, length_times, Nat.mul_comm]
    rfl
  · have longer : y.sequence.length ≤ y.sequence.length * count := Nat.le_mul_of_pos_right _ positive
    have tooLong : ¬(y.times count).sequence.length ≤ maxSteps := by
      rw [length_times]
      omega
    simp only [capped, if_neg fits, if_neg tooLong]
    simp

end Yield

/-- What a token gives where nothing else stands: its steps as often as its count says, or nothing
if these are too many. -/
def Token.alone (c : Setting) (source : Twister) (token : Token) : Yield :=
  ((once c source token).times token.count).capped

theorem Tree.yield_singleton (s : CompileSettings) (r : Registry) (token : Token)
    (source : Twister) : Tree.yield s r [token] source = token.alone (s.setting r) source := by
  rw [yield, Token.yieldFrom, Token.yieldFrom, Yield.start_add, Token.alone]
  rfl

/-- A call that stands alone is applied to what is inside of it, and logged behind it. -/
theorem Tree.evaluate_call (c : Setting) {children : List Token} {source between : Twister}
    {inner : Sequence} {log : Log}
    (inside : evaluate c children source = ⟨.ok inner, log, between⟩) (call : Call) (text : Text)
    (fits : (c.registry.call c.loud call .none inner between).sequence.length ≤ maxSteps) :
    let applied := c.registry.call c.loud call .none inner between
    evaluate c [.bracket (some call) text children none] source =
      ⟨.ok applied.sequence, log ++ applied.log, applied.source⟩ := by
  intro applied
  have run : ∃ p, Token.evaluateFrom c (.start [] source) children = (.ok (), p) ∧
      p.sequence.toList = inner ∧ p.log.reverse = log ∧ p.source = between := by
    unfold evaluate at inside
    split at inside
    case h_1 => simp at inside
    case h_2 p ran => exact ⟨p, ran, by simpa using inside⟩
  obtain ⟨p, ran, rfl, rfl, rfl⟩ := run
  have stepped : Token.steps c [] source (.bracket (some call) text children none) =
      (.ok applied.sequence, applied.log.reverse ++ p.log, applied.source) := by
    rw [Token.steps, ran]
  have room : ¬maxSteps < applied.sequence.length := Nat.not_lt.2 fits
  simp [evaluate, Token.evaluateFrom, Progress.start, stepped, Progress.add, Token.count, room]

/-! ## A text of one item -/

namespace Tree

open Grammar

variable {s : CompileSettings}

theorem parse_item {levels : Nat} {token : Token} {t : Text} (deep : s.depthLimit = levels)
    (item : Item s.restSymbol levels token t) : (parse s t 0).tokens = [token] := by
  have pattern := item.pattern
  rw [← deep] at pattern
  rw [(parse_eq_iff s [token] t).2 pattern]

/-- A bracket parses to what its raw token adds. -/
theorem parseWithin_bracket {name inside tail : Text} {count : Option Nat} (named : Named name)
    (balanced : Balanced inside) (times : Times tail count) (levels : Nat) :
    parseWithin s levels (name ++ '[' :: (inside ++ ']' :: tail)) =
      parseToken s (descend s levels) (name ++ '[' :: (inside ++ ']' :: tail)) := by
  have cut := Piece.cut_bracket 0 [] named (balanced_iff.1 balanced) times.tail
  rw [List.append_nil] at cut
  generalize name ++ '[' :: (inside ++ ']' :: tail) = raw at cut ⊢
  have found : Piece.tokens [.token raw] = [raw] := rfl
  have silent : Piece.errors [.token raw] = [] := rfl
  rw [parseWithin_eq, parseLevel, cut.eq_ofText, found, silent]
  simp [Parsed.concat]

/-- A bracket with a name and a count parses to its token, whatever is wrong inside, and logs what
is wrong there. -/
theorem parse_bracket_eq {name inside tail : Text} {call : Option Call} {count : Option Nat}
    (names : Name name call) (balanced : Balanced inside) (times : Times tail count) {lower : Nat}
    (deeper : s.depthLimit = lower + 1) :
    parse s (name ++ '[' :: (inside ++ ']' :: tail)) 0 =
      .one (.bracket call inside (parseWithin s lower inside).tokens count)
        (parseWithin s lower inside).log := by
  rw [parse_eq_parseWithin, deeper, parseWithin_bracket names.named balanced times, parseToken,
    Token.classify_of_name_of_times names (balanced_iff.1 balanced) times]
  rfl

theorem parse_bracket {name inside tail : Text} {call : Option Call} {count : Option Nat}
    (names : Name name call) (balanced : Balanced inside) (times : Times tail count) {lower : Nat}
    (deeper : s.depthLimit = lower + 1) :
    (parse s (name ++ '[' :: (inside ++ ']' :: tail)) 0).tokens =
      [.bracket call inside (parseWithin s lower inside).tokens count] := by
  rw [parse_bracket_eq names balanced times deeper, Parsed.one]

/-- A text that is one call parses to it, with what its inside parses to one level deeper. -/
theorem parse_call {name inside : Text} {call : Option Call} (names : Name name call)
    (balanced : Balanced inside) (room : 0 < s.depthLimit) :
    parse s (name ++ '[' :: (inside ++ [']'])) 0 =
      .one (.bracket call inside (parse s inside 1).tokens none) (parse s inside 1).log := by
  obtain ⟨lower, deeper⟩ := Nat.exists_eq_succ_of_ne_zero (Nat.ne_of_gt room)
  have left : ((s.depthLimit : Int) - 1).toNat = lower := by omega
  rw [parse_bracket_eq names balanced .none deeper]
  simp only [parse, left]

/-- **A bracket parses to one token or to none**, and its count does not decide which. -/
theorem exists_parse_bracket (s : CompileSettings) {name inside : Text} (named : Named name)
    (balanced : Balanced inside) :
    (∃ call children, ∀ {tail count}, Times tail count →
      (parse s (name ++ '[' :: (inside ++ ']' :: tail)) 0).tokens =
        [.bracket call inside children count]) ∨
    ∀ {tail count}, Times tail count →
      (parse s (name ++ '[' :: (inside ++ ']' :: tail)) 0).tokens = [] := by
  by_cases readable : ∃ call, Name name call
  · obtain ⟨call, names⟩ := readable
    cases deep : s.depthLimit with
    | succ lower =>
        exact .inl ⟨call, _, fun times => parse_bracket names balanced times deep⟩
    | zero =>
        refine .inr fun {tail count} times => ?_
        rw [parse_eq_parseWithin, deep, parseWithin_bracket named balanced times, parseToken,
          Token.classify_of_name_of_times names (balanced_iff.1 balanced) times]
        rfl
  · refine .inr fun {tail count} times => ?_
    rw [parse_eq_parseWithin, parseWithin_bracket named balanced times, parseToken]
    cases classified : Token.classify s.restSymbol (name ++ '[' :: (inside ++ ']' :: tail)) with
    | error error => rfl
    | ok token =>
        obtain ⟨call, -, names, -⟩ :=
          (Token.classify_bracket_eq_ok_iff named (balanced_iff.1 balanced) times.tail).1 classified
        exact absurd ⟨call, names⟩ readable

end Tree

end StepPattern
