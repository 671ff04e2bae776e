/-
# StepPattern.Proofs.Locality -- what is wrong in a pattern stays where it is

A bad raw token, put between two whitespace characters anywhere in a pattern, adds
nothing and disturbs nothing: it is balanced (`First.within_eq`), so every bracket
around it closes where it did before, and the tokens are the same but for the
texts that brackets are said to come from (`bareAll_insert`).  The induction is on
the levels of brackets that may still be parsed, and goes down into the bracket
that is open where the token is put in.

A bracket that is opened outside all others and never closed gives no raw token.
-/
import StepPattern.Proofs.Yield

namespace StepPattern

set_option autoImplicit false

open Text

namespace Tree

open Token Piece

variable {s : CompileSettings} {bad : Text}

/-! ## Inside a bracket -/

/-- Two bracket tokens that differ in their insides only parse alike if their insides do. -/
theorem bareAll_parseToken_congr {levels : Nat} {name inside other tail rest : Text}
    (named : Named name) (balanced : within 0 inside = some 0)
    (otherBalanced : within 0 other = some 0) (ends : Tail tail rest)
    (same : ∀ lower, lower + 1 = levels →
      bareAll (parseWithin s lower inside).tokens = bareAll (parseWithin s lower other).tokens) :
    bareAll (parseToken s (descend s levels) (name ++ '[' :: (inside ++ ']' :: tail))).tokens =
      bareAll (parseToken s (descend s levels) (name ++ '[' :: (other ++ ']' :: tail))).tokens := by
  cases classified : classify s.restSymbol (name ++ '[' :: (inside ++ ']' :: tail)) with
  | error error =>
      cases otherwise : classify s.restSymbol (name ++ '[' :: (other ++ ']' :: tail)) with
      | error _ =>
          rw [parseToken, parseToken, classified, otherwise]
          rfl
      | ok token =>
          obtain ⟨call, count, names, times, rfl⟩ :=
            (classify_bracket_eq_ok_iff named otherBalanced ends).1 otherwise
          have accepted : classify s.restSymbol (name ++ '[' :: (inside ++ ']' :: tail)) =
              .ok (.bracket call inside [] count) :=
            (classify_bracket_eq_ok_iff named balanced ends).2 ⟨call, count, names, times, rfl⟩
          rw [classified] at accepted
          cases accepted
  | ok token =>
      obtain ⟨call, count, names, times, rfl⟩ :=
        (classify_bracket_eq_ok_iff named balanced ends).1 classified
      have accepted : classify s.restSymbol (name ++ '[' :: (other ++ ']' :: tail)) =
          .ok (.bracket call other [] count) :=
        (classify_bracket_eq_ok_iff named otherBalanced ends).2 ⟨call, count, names, times, rfl⟩
      rw [parseToken, parseToken, classified, accepted]
      cases levels with
      | zero => rfl
      | succ lower =>
          simp only [descend, Parsed.one, bareAll, bare, same lower rfl]

/-- Where brackets are open, one text in the place of another goes down with the innermost of them:
the whole parses alike if what stands in that bracket does, one level down. -/
theorem bareAll_inside {levels : Nat} {x here there : Text} (y : Text) (inBrackets : depth x ≠ 0)
    (balanced : within 0 here = some 0) (otherBalanced : within 0 there = some 0)
    (lower : ∀ lower, lower < levels → ∀ inside z, '[' :: inside <:+ x → z <+: y →
      bareAll (parseWithin s lower (inside ++ (here ++ z))).tokens =
        bareAll (parseWithin s lower (inside ++ (there ++ z))).tokens) :
    bareAll (parseWithin s levels (x ++ (here ++ y))).tokens =
      bareAll (parseWithin s levels (x ++ (there ++ y))).tokens := by
  obtain ⟨before, name, inside, left, shown, rfl, named, stillOpen, cuts⟩ :=
    (cut_ofText x).exists_open inBrackets
  have through : ∀ {u : Text}, within 0 u = some 0 → ∀ z,
      within 0 (inside ++ (u ++ z)) = within left z := by
    intro u same z
    have unchanged := within_add same left
    rw [Nat.zero_add] at unchanged
    rw [within_append, stillOpen, Option.bind_some, within_append, unchanged, Option.bind_some]
  have regrouped : ∀ z, before ++ (name ++ '[' :: inside) ++ z =
      before ++ (name ++ '[' :: (inside ++ z)) := by simp
  rw [parseWithin_tokens, parseWithin_tokens, regrouped, regrouped, (cuts _).rawTokens_eq,
    (cuts _).rawTokens_eq, List.flatMap_append, List.flatMap_append, bareAll_append, bareAll_append]
  congr 1
  -- The bracket is closed in `y` or nowhere, in the one text as in the other.
  cases closed : within left y with
  | some stillLeft =>
      rw [rawTokens_unfinished named ((through balanced y).trans closed),
        rawTokens_unfinished named ((through otherBalanced y).trans closed)]
  | none =>
      obtain ⟨further, after, rfl, closes⟩ := exists_closing closed
      obtain ⟨tail, others, rfl, ends⟩ := exists_tail after
      have regroupedInside : ∀ u, inside ++ (u ++ (further ++ ']' :: (tail ++ others))) =
          inside ++ (u ++ further) ++ ']' :: (tail ++ others) := by simp
      have innermost : '[' :: inside <:+ before ++ (name ++ '[' :: inside) :=
        ⟨before ++ name, by simp⟩
      rw [regroupedInside, regroupedInside,
        rawTokens_bracket named ((through balanced further).trans closes) ends,
        rawTokens_bracket named ((through otherBalanced further).trans closes) ends,
        List.flatMap_cons, List.flatMap_cons, bareAll_append, bareAll_append,
        bareAll_parseToken_congr named ((through balanced further).trans closes)
          ((through otherBalanced further).trans closes) ends fun below next =>
            lower below (by omega) inside further innermost (List.prefix_append _ _)]

/-! ## A bad token anywhere -/

/-- **A bad token adds nothing**, wherever it is put in. -/
theorem bareAll_insert {error : PatternError} (alone : rawTokens bad = [bad])
    (refused : classify s.restSymbol bad = .error error) (levels : Nat) (x y : Text) :
    bareAll (parseWithin s levels (x ++ ' ' :: (bad ++ ' ' :: y))).tokens =
      bareAll (parseWithin s levels (x ++ ' ' :: y)).tokens := by
  obtain ⟨position, rest, first⟩ : ∃ position rest, First position (.token bad) rest :=
    exists_first_of_rawToken (by rw [alone]; exact List.mem_singleton_self bad)
  have space : isBlank ' ' = true := by decide
  have regrouped : ∀ z, ' ' :: (bad ++ ' ' :: z) = ' ' :: (bad ++ [' ']) ++ z := by simp
  induction levels using Nat.strongRecOn generalizing x y with
  | _ levels ih =>
      by_cases outside : depth x = 0
      · have balanced : depth bad = 0 := first.depth_eq_zero rfl
        have dropped : (parseToken s (descend s levels) bad).tokens = [] := by
          rw [parseToken, refused]
          rfl
        rw [parseWithin_tokens, parseWithin_tokens, rawTokens_append_blank outside space,
          rawTokens_append_blank outside space, rawTokens_append_blank balanced space, alone,
          List.singleton_append]
        simp only [List.flatMap_append, List.flatMap_cons, dropped, List.nil_append]
      · -- The token stands inside the bracket that is open at the end of `x`, one level down.
        have withBad : within 0 (' ' :: (bad ++ [' '])) = some 0 := by
          rw [within_other _ _ (by decide) (by decide), within_append, first.within_eq]
          rfl
        have without : within 0 [' '] = some 0 := rfl
        have whole := bareAll_inside y outside withBad without fun below less inside z _ _ => by
          rw [← regrouped]
          exact ih below less inside z
        rw [← regrouped] at whole
        exact whole

/-- A bracket that is opened outside all others and never closed adds nothing. -/
theorem parse_append_unfinished {x name inside : Text} (outside : depth x = 0) (named : Named name)
    (neverCloses : NeverCloses inside) (level : Int) :
    (parse s (x ++ ' ' :: (name ++ '[' :: inside)) level).tokens = (parse s x level).tokens := by
  obtain ⟨left, stillOpen⟩ := Option.isSome_iff_exists.1 ((within_isSome_iff inside).2 neverCloses)
  rw [parse, parse, parseWithin_tokens, parseWithin_tokens,
    rawTokens_append_blank outside (by decide), rawTokens_unfinished named stillOpen,
    List.append_nil]

end Tree

/-- **Failures stay local.**  With any registry and source, a pattern gives the same sequence and
leaves the same source where a bad token is put in between two spaces, at whatever depth, and where
a bracket that is never closed is put behind it, if it ends outside all brackets. -/
theorem compile_failures_stay_local (r : Registry) (s : CompileSettings) (source : Twister) :
    (∀ x y bad : Text, Piece.rawTokens bad = [bad] →
      (∃ error, Token.classify s.restSymbol bad = .error error) →
      ∃ sequence after log undisturbed,
        compile r (.checked s) (.text (x ++ ' ' :: (bad ++ ' ' :: y))) (some source) =
          .ok ⟨sequence, log, some after⟩ ∧
        compile r (.checked s) (.text (x ++ ' ' :: y)) (some source) =
          .ok ⟨sequence, undisturbed, some after⟩) ∧
    (∀ x name inside : Text, depth x = 0 → Named name → NeverCloses inside →
      ∃ sequence after log undisturbed,
        compile r (.checked s) (.text (x ++ ' ' :: (name ++ '[' :: inside))) (some source) =
          .ok ⟨sequence, log, some after⟩ ∧
        compile r (.checked s) (.text x) (some source) =
          .ok ⟨sequence, undisturbed, some after⟩) := by
  constructor
  · rintro x y bad alone ⟨error, refused⟩
    have same : Tree.yield s r (Tree.parse s (x ++ ' ' :: (bad ++ ' ' :: y)) 0).tokens source =
        Tree.yield s r (Tree.parse s (x ++ ' ' :: y) 0).tokens source := by
      rw [Tree.yield, ← Token.yieldFrom_bareAll, Tree.parse,
        Tree.bareAll_insert alone refused, Token.yieldFrom_bareAll, Tree.yield, Tree.parse]
    obtain ⟨log, compiled⟩ := compile_text_eq r s (x ++ ' ' :: (bad ++ ' ' :: y)) source
    obtain ⟨undisturbed, without⟩ := compile_text_eq r s (x ++ ' ' :: y) source
    rw [same] at compiled
    exact ⟨_, _, log, undisturbed, compiled, without⟩
  · intro x name inside outside named neverCloses
    obtain ⟨log, compiled⟩ := compile_text_eq r s (x ++ ' ' :: (name ++ '[' :: inside)) source
    obtain ⟨undisturbed, without⟩ := compile_text_eq r s x source
    rw [Tree.parse_append_unfinished outside named neverCloses] at compiled
    exact ⟨_, _, log, undisturbed, compiled, without⟩

/-- A group with the count zero inside a call, and a call that is never closed. -/
theorem compile_failures_stay_local_in_call :
    (∃ sequence after log undisturbed,
      compile Registry.builtin (.checked .default)
        (.text ("scramble[1 2".toList ++ ' ' :: ("[7]*0".toList ++ ' ' :: "3]".toList)))
        (some (Twister.ofSeed 0)) = .ok ⟨sequence, log, some after⟩ ∧
      compile Registry.builtin (.checked .default)
        (.text ("scramble[1 2".toList ++ ' ' :: "3]".toList)) (some (Twister.ofSeed 0)) =
          .ok ⟨sequence, undisturbed, some after⟩) ∧
    (∃ sequence after log undisturbed,
      compile Registry.builtin (.checked .default)
        (.text ("1 2".toList ++ ' ' :: ("scramble".toList ++ '[' :: "3 4".toList)))
        (some (Twister.ofSeed 0)) = .ok ⟨sequence, log, some after⟩ ∧
      compile Registry.builtin (.checked .default) (.text "1 2".toList) (some (Twister.ofSeed 0)) =
        .ok ⟨sequence, undisturbed, some after⟩) := by
  have alone : Piece.rawTokens "[7]*0".toList = ["[7]*0".toList] := rfl
  have refused : ∃ error, Token.classify ['-'] "[7]*0".toList = .error error := ⟨_, rfl⟩
  have neverCloses : NeverCloses "3 4".toList := (within_isSome_iff "3 4".toList).1 rfl
  obtain ⟨badToken, unfinished⟩ :=
    compile_failures_stay_local Registry.builtin .default (Twister.ofSeed 0)
  exact ⟨badToken _ _ _ alone refused, unfinished _ _ _ rfl (.inr rfl) neverCloses⟩

end StepPattern
