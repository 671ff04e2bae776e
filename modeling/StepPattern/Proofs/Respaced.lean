/-
# StepPattern.Proofs.Respaced -- raw tokens joined again

A raw token does not need what stood around it: by itself, at any position and
before any whitespace, it is the same first piece (`First.alone`).  So raw tokens,
from whatever text they were cut, can be joined with whitespace and are found
again, and there is nothing to report (`rawTokens_spaced`).
-/
import StepPattern.Proofs.RawTokens

namespace StepPattern

set_option autoImplicit false

open Text

namespace Piece

/-- `Spaced words t`: a text is words with whitespace between neighbours, one character or more. -/
inductive Spaced : List Text → Text → Prop where
  | nil : Spaced [] []
  | last (word : Text) : Spaced [word] word
  | cons {word next gap t : Text} {words : List Text} (nonempty : gap ≠ [])
      (blank : ∀ c ∈ gap, isBlank c = true) (further : Spaced (next :: words) t) :
      Spaced (word :: next :: words) (word ++ (gap ++ t))

variable {position : Nat} {raw rest : Text}

/-- A token is the first piece anywhere where it ends or whitespace follows. -/
theorem First.alone (first : First position (.token raw) rest) (other : Nat) {after : Text}
    (blank : ∀ c ∈ after.head?, isBlank c = true) : First other (.token raw) after := by
  have separated : First position (.token raw) after :=
    first.of_head rfl fun c next => .inr (by rw [separates, blank c next, Bool.true_or])
  cases separated with
  | word nonempty unbroken stops free => exact .word nonempty unbroken stops free
  | bracket named balanced ends => exact .bracket named balanced ends

/-- Tokens with whitespace between them are cut into these tokens, without an error. -/
theorem Spaced.exists_cut {words : List Text} {t : Text} (spaced : Spaced words t)
    (cutOut : ∀ word ∈ words, ∃ start after, First start (.token word) after) (position : Nat) :
    ∃ pieces, Cut position t pieces [] ∧ tokens pieces = words ∧ errors pieces = [] := by
  induction spaced generalizing position with
  | nil => exact ⟨[], .done _ [], rfl, rfl⟩
  | last word =>
      obtain ⟨start, after, first⟩ := cutOut word (List.mem_singleton_self word)
      have alone : First position (.token word) [] := first.alone position (by simp)
      have cut : Cut position ((Piece.token word).text ++ []) [.token word] [] :=
        .piece alone (.done _ [])
      rw [List.append_nil] at cut
      exact ⟨_, cut, rfl, rfl⟩
  | @cons word next gap t words nonempty blank further ih =>
      obtain ⟨start, after, first⟩ := cutOut word List.mem_cons_self
      obtain ⟨pieces, cut, same, silent⟩ :=
        ih (fun other member => cutOut other (List.mem_cons_of_mem word member))
          (position + (Piece.token word).text.length + gap.length)
      have head : ∀ c ∈ (gap ++ t).head?, isBlank c = true := by
        obtain ⟨d, more, rfl⟩ := List.exists_cons_of_ne_nil nonempty
        rintro c ⟨⟩
        exact blank d List.mem_cons_self
      refine ⟨.token word :: (gap.map .blank ++ pieces),
        .piece (first.alone position head) (cut.blanks blank), ?_, ?_⟩
      · have whole : tokens (.token word :: (gap.map .blank ++ pieces)) =
            word :: tokens (gap.map .blank ++ pieces) := rfl
        rw [whole, tokens_append, tokens_blanks, List.nil_append, same]
      · have whole : errors (.token word :: (gap.map .blank ++ pieces)) =
            errors (gap.map .blank ++ pieces) := rfl
        rw [whole, errors_append, errors_blanks, List.nil_append, silent]

/-- **Raw tokens are found again.**  Whatever text they were cut from, joined with any whitespace
they give the same raw tokens, each of them gives itself, and no error is reported. -/
theorem rawTokens_spaced (t : Text) :
    (∀ u, Spaced (rawTokens t) u → rawTokens u = rawTokens t ∧ errors (ofText u) = []) ∧
      ∀ raw ∈ rawTokens t, rawTokens raw = [raw] ∧ errors (ofText raw) = [] := by
  have again : ∀ words u, Spaced words u → (∀ word ∈ words, word ∈ rawTokens t) →
      rawTokens u = words ∧ errors (ofText u) = [] := by
    intro words u spaced among
    obtain ⟨pieces, cut, same, silent⟩ :=
      spaced.exists_cut (fun word member => exists_first_of_rawToken (among word member)) 0
    rw [rawTokens, cut.eq_ofText]
    exact ⟨same, silent⟩
  refine ⟨fun u spaced => again _ u spaced fun _ member => member, fun raw member => ?_⟩
  refine again [raw] raw (.last raw) fun word single => ?_
  rw [List.mem_singleton.1 single]
  exact member

/-- The tokens of a text with tokens that touch, a stray bracket, a count that is none and a bracket
that is never closed, joined with a space and with a line break. -/
theorem rawTokens_spaced_malformed :
    let t := "1x[2 ]]*3 [4]*-[5".toList
    let u := "1x".toList ++ ([' '] ++ ("[2 ]".toList ++ (['\n'] ++
      ("*3".toList ++ ([' '] ++ "[4]*-".toList)))))
    Spaced (rawTokens t) u ∧ rawTokens u = rawTokens t := by
  intro t u
  have space : ∀ c ∈ [' '], isBlank c = true := List.forall_mem_singleton.2 (by decide)
  have line : ∀ c ∈ ['\n'], isBlank c = true := List.forall_mem_singleton.2 (by decide)
  have found : rawTokens t = ["1x".toList, "[2 ]".toList, "*3".toList, "[4]*-".toList] := by
    decide +kernel
  have spaced : Spaced (rawTokens t) u := by
    rw [found]
    exact .cons (by decide) space (.cons (by decide) line (.cons (by decide) space (.last _)))
  exact ⟨spaced, ((rawTokens_spaced t).1 u spaced).1⟩

end Piece

end StepPattern
