/-
# StepPattern.Proofs.Options -- what the words of a command line can ask for

Whatever the words of a command line are, each option has a value of its kind
(`Arguments.Typed`): none, an integer or a text as the option takes it, or, in an earlier
release, an empty list, which it is given where nothing is left of what follows its `=`.  Every
word that is used keeps this (`Arguments.Typed.useWords`).
-/
import StepPattern.CommandLine.Arguments
import StepPattern.Proofs.Requests

namespace StepPattern

set_option autoImplicit false

/-- Whether a value is what an option can have: none, an integer or a text, or, in an earlier release,
an empty list. -/
def Flag.Takes (release : Release) (f : Flag) (v : Value) : Prop :=
  v = .none ∨ (release = .earlier ∧ v = .list []) ∨
    if f.takesInteger then ∃ n, v = .int n else ∃ t, v = .text t

namespace Arguments

variable {release : Release}

/-- What words can ask for: each option has a value of its kind. -/
structure Typed (release : Release) (a : Arguments) : Prop where
  config : Flag.config.Takes release a.config
  maxDepth : Flag.maxDepth.Takes release a.maxDepth
  restSymbol : Flag.restSymbol.Takes release a.restSymbol
  seed : Flag.seed.Takes release a.seed
  length : Flag.length.Takes release a.length
  style : Flag.style.Takes release a.style

theorem typed_default : Typed release {} :=
  ⟨.inl rfl, .inl rfl, .inl rfl, .inl rfl, .inl rfl, .inl rfl⟩

theorem takes_of_valueOf {f : Flag} {t : Text} {v : Value} (given : valueOf f t = .ok v) :
    f.Takes release v := by
  unfold valueOf at given
  split at given
  case isTrue integer =>
    split at given
    case h_1 n read =>
      cases given
      exact .inr (.inr (by rw [if_pos integer]; exact ⟨n, rfl⟩))
    case h_2 => cases given
  case isFalse text =>
    cases given
    exact .inr (.inr (by rw [if_neg text]; exact ⟨t, rfl⟩))

theorem takes_of_attachedValue {f : Flag} {t : Text} {v : Value}
    (given : attachedValue release f t = .ok v) : f.Takes release v := by
  unfold attachedValue at given
  split at given
  case isTrue dropped =>
    cases given
    exact .inr (.inl ⟨dropped.1, rfl⟩)
  case isFalse => exact takes_of_valueOf given

variable {a b : Arguments}

theorem Typed.give (typed : a.Typed release) {f : Flag} {v : Value} (takes : f.Takes release v) :
    (a.give v f).Typed release := by
  obtain ⟨config, maxDepth, restSymbol, seed, length, style⟩ := typed
  cases f <;> constructor <;> assumption

theorem Typed.switch (typed : a.Typed release) {f : Flag} (switched : a.switch f = .ok b) :
    b.Typed release := by
  obtain ⟨config, maxDepth, restSymbol, seed, length, style⟩ := typed
  cases f <;> cases switched <;> constructor <;> assumption

theorem Typed.withPattern (typed : a.Typed release) (t : Text) :
    Typed release { a with pattern := some t } :=
  ⟨typed.config, typed.maxDepth, typed.restSymbol, typed.seed, typed.length, typed.style⟩

/-- Using words keeps it, word by word. -/
theorem Typed.useWords {taken : Bool} {left : List Text} {words : List Word} (typed : a.Typed release)
    (read : useWords release taken a left words = .ok b) : b.Typed release := by
  -- Only an option with a value touches one; a plain word is a pattern or is left over.
  induction taken, a, left, words using useWords.induct with
  | case1 _ _ _ none =>
      simp only [Arguments.useWords, none, if_true] at read
      cases read
      exact typed
  | case2 | case3 | case5 | case7 =>
      simp only [Arguments.useWords, *] at read
      cases read
  | case4 taken a left flag value words takes ih =>
      simp only [Arguments.useWords, takes, if_true] at read
      obtain ⟨v, given, read⟩ := bind_eq_ok_iff.1 read
      exact ih v (typed.give (takes_of_attachedValue given)) read
  | case6 taken a left flag takes value words ih =>
      simp only [Arguments.useWords, takes, if_true] at read
      obtain ⟨v, given, read⟩ := bind_eq_ok_iff.1 read
      exact ih v (typed.give (takes_of_valueOf given)) read
  | case8 taken a left flag words takes ih =>
      unfold Arguments.useWords at read
      rw [if_neg takes] at read
      obtain ⟨c, switched, read⟩ := bind_eq_ok_iff.1 read
      exact ih c (typed.switch switched) read
  | case9 _ _ _ _ ih | case11 _ _ _ _ ih | case13 _ _ _ _ ih | case15 _ _ _ _ _ ih
  | case17 _ _ _ _ _ ih =>
      simp only [Arguments.useWords, if_true] at read
      exact ih typed read
  | case14 _ _ _ _ _ free ih =>
      simp only [Arguments.useWords, free] at read
      exact ih typed read
  | case10 _ _ _ t _ free ih | case12 _ _ _ t _ free ih | case16 _ _ _ t _ _ free ih =>
      simp only [Arguments.useWords, free] at read
      exact ih (typed.withPattern t) read

theorem typed_of_read {words : List Text} (asked : read words release = .ok a) :
    a.Typed release := by
  unfold read at asked
  split at asked
  case h_1 => cases asked
  case h_2 => exact typed_default.useWords asked

/-- A seed option is no seed only where it is given an empty list. -/
theorem Typed.isSeed_eq_false_iff (typed : a.Typed release) :
    a.seed.isSeed = false ↔ a.seed = .list [] := by
  rcases typed.seed with absent | ⟨-, empty⟩ | ⟨n, given⟩
  · rw [absent]
    exact iff_of_false nofun nofun
  · exact iff_of_true (empty ▸ rfl) empty
  · rw [given]
    exact iff_of_false nofun nofun

end Arguments

end StepPattern
