/-
# StepPattern.Proofs.Layout -- how a pattern is laid out does not matter

Whitespace can be put in and taken out wherever that joins and separates nothing: at
the two ends of a text, beside other whitespace, behind an opening and before a
closing bracket (`Seam`).  A whitespace character at a seam adds no raw token and
changes none, outside brackets; inside, it goes down with the bracket that is open,
and the seam with it.  So the tokens are the same at every level, but for the texts
that brackets are said to come from (`bareAll_blank`).

Two texts are laid out alike where one becomes the other by any such changes
(`Relaid`), and then compile to the same (`compile_relaid`).
-/
import StepPattern.Proofs.Locality
import Mathlib.Logic.Relation

namespace StepPattern

set_option autoImplicit false

open Text

/-- Whether whitespace between two texts would stand at the end of one of them, beside whitespace, or
just inside a bracket. -/
def Seam (x y : Text) : Prop :=
  (∀ c ∈ x.getLast?, isBlank c = true ∨ c = '[') ∨ ∀ c ∈ y.head?, separates c = true

namespace Seam

variable {x y : Text}

theorem behind_blanks {gap : Text} (nonempty : gap ≠ []) (blank : ∀ c ∈ gap, isBlank c = true)
    (x y : Text) : Seam (x ++ gap) y := by
  refine .inl fun c last => .inl (blank c ?_)
  rw [List.getLast?_append, List.getLast?_eq_some_getLast nonempty, Option.some_or,
    Option.mem_some] at last
  exact last ▸ List.getLast_mem nonempty

theorem before_blanks {gap : Text} (nonempty : gap ≠ []) (blank : ∀ c ∈ gap, isBlank c = true)
    (x y : Text) : Seam x (gap ++ y) := by
  obtain ⟨d, more, rfl⟩ := List.exists_cons_of_ne_nil nonempty
  refine .inr ?_
  rintro c ⟨⟩
  rw [separates, blank d List.mem_cons_self, Bool.true_or]

/-- A seam inside an open bracket is a seam of what stands in it. -/
theorem inside (seam : Seam x y) {inside z : Text} (opened : '[' :: inside <:+ x)
    (start : z <+: y) : Seam inside z := by
  obtain ⟨before, rfl⟩ := opened
  obtain ⟨after, rfl⟩ := start
  refine seam.imp (fun last c atEnd => last c ?_) fun head c atStart => head c ?_
  · rw [List.getLast?_append, List.getLast?_cons, Option.mem_def.1 atEnd]
    rfl
  · rw [List.head?_append, Option.mem_def.1 atStart]
    rfl

/-- Raw tokens do not go over a seam outside brackets. -/
theorem rawTokens_eq (seam : Seam x y) (outside : depth x = 0) :
    Piece.rawTokens (x ++ y) = Piece.rawTokens x ++ Piece.rawTokens y := by
  rcases seam with last | head
  · rcases List.eq_nil_or_concat x with rfl | ⟨before, c, rfl⟩
    · rfl
    rw [List.concat_eq_append] at last outside ⊢
    rw [depth_append] at outside
    rcases last c List.getLast?_concat with blank | rfl
    · obtain ⟨noOpen, noClose⟩ := ne_of_isBlank blank
      simp only [List.foldl_cons, List.foldl_nil, deeper, if_neg noOpen, if_neg noClose] at outside
      have nothing : Piece.rawTokens [] = [] := rfl
      rw [List.append_assoc, List.singleton_append, Piece.rawTokens_append_blank outside blank,
        Piece.rawTokens_append_blank outside blank, nothing, List.append_nil]
    · cases outside
  · exact Piece.rawTokens_append outside head

end Seam

namespace Tree

open Token Piece

variable {s : CompileSettings}

/-- **Whitespace at a seam adds nothing.** -/
theorem bareAll_blank {w : Char} (blank : isBlank w = true) (levels : Nat) {x y : Text}
    (seam : Seam x y) :
    bareAll (parseWithin s levels (x ++ w :: y)).tokens =
      bareAll (parseWithin s levels (x ++ y)).tokens := by
  induction levels using Nat.strongRecOn generalizing x y with
  | _ levels ih =>
      by_cases outside : depth x = 0
      · rw [parseWithin_tokens, parseWithin_tokens, rawTokens_append_blank outside blank,
          seam.rawTokens_eq outside]
      · have balanced : within 0 [w] = some 0 := by
          refine within_of_forall_ne (fun c member => ?_) 0
          rw [List.mem_singleton.1 member]
          exact ne_of_isBlank blank
        have nothing : within 0 [] = some 0 := rfl
        exact bareAll_inside y outside balanced nothing fun below less inside z opened start =>
          ih below less (seam.inside opened start)

/-- Any whitespace at a seam adds nothing. -/
theorem bareAll_blanks {gap : Text} (blank : ∀ c ∈ gap, isBlank c = true) (levels : Nat)
    {x y : Text} (seam : Seam x y) :
    bareAll (parseWithin s levels (x ++ (gap ++ y))).tokens =
      bareAll (parseWithin s levels (x ++ y)).tokens := by
  induction gap with
  | nil => rfl
  | cons w gap ih =>
      obtain ⟨here, further⟩ := List.forall_mem_cons.1 blank
      have still : Seam x (gap ++ y) := by
        by_cases nonempty : gap = []
        · rwa [nonempty]
        · exact .before_blanks nonempty further x y
      rw [List.cons_append, bareAll_blank here levels still, ih further]

end Tree

/-- `Relaid t u`: one run of whitespace makes the difference between two texts.  It is in the place of
another one, at one of the two ends, or just inside a bracket. -/
inductive Relaid : Text → Text → Prop where
  | run (x gap other y : Text) (nonempty : gap ≠ []) (otherNonempty : other ≠ [])
      (blank : ∀ c ∈ gap, isBlank c = true) (otherBlank : ∀ c ∈ other, isBlank c = true) :
      Relaid (x ++ (gap ++ y)) (x ++ (other ++ y))
  | first (gap t : Text) (blank : ∀ c ∈ gap, isBlank c = true) : Relaid t (gap ++ t)
  | last (t gap : Text) (blank : ∀ c ∈ gap, isBlank c = true) : Relaid t (t ++ gap)
  | opened (x gap y : Text) (blank : ∀ c ∈ gap, isBlank c = true) :
      Relaid (x ++ '[' :: y) (x ++ '[' :: (gap ++ y))
  | closed (x gap y : Text) (blank : ∀ c ∈ gap, isBlank c = true) :
      Relaid (x ++ ']' :: y) (x ++ (gap ++ ']' :: y))

namespace Tree

open Token Piece

variable {s : CompileSettings}

theorem bareAll_relaid {t u : Text} (relaid : Relaid t u) (levels : Nat) :
    bareAll (parseWithin s levels t).tokens = bareAll (parseWithin s levels u).tokens := by
  cases relaid with
  | run x gap other y nonempty otherNonempty blank otherBlank =>
      -- Both texts are what is left of the one with both runs.
      have one := bareAll_blanks (s := s) otherBlank levels (.behind_blanks nonempty blank x y)
      have two := bareAll_blanks (s := s) blank levels (.before_blanks otherNonempty otherBlank x y)
      rw [List.append_assoc, List.append_assoc] at one
      exact one.symm.trans two
  | first gap t blank =>
      exact (bareAll_blanks blank levels (x := []) (.inl (by simp))).symm
  | last t gap blank =>
      have whole := bareAll_blanks (s := s) blank levels (x := t) (y := []) (.inr (by simp))
      rw [List.append_nil, List.append_nil] at whole
      exact whole.symm
  | opened x gap y blank =>
      have seam : Seam (x ++ ['[']) y := .inl fun c last => .inr (by simpa using last.symm)
      have whole := bareAll_blanks (s := s) blank levels seam
      rw [List.append_assoc, List.append_assoc] at whole
      exact whole.symm
  | closed x gap y blank =>
      have seam : Seam x (']' :: y) := .inr (by rintro c ⟨⟩; rfl)
      exact (bareAll_blanks blank levels seam).symm

end Tree

/-- **Layout does not matter.**  Texts that are laid out differently, by any number of changes to
whitespace, compile to the same sequence and leave the same source, with any registry and settings
and from any source. -/
theorem compile_relaid (r : Registry) (s : CompileSettings) {t u : Text}
    (relaid : Relation.EqvGen Relaid t u) (source : Twister) :
    ∃ sequence after log otherLog,
      compile r (.checked s) (.text t) (some source) = .ok ⟨sequence, log, some after⟩ ∧
      compile r (.checked s) (.text u) (some source) = .ok ⟨sequence, otherLog, some after⟩ := by
  have alike : Token.bareAll (Tree.parse s t 0).tokens =
      Token.bareAll (Tree.parse s u 0).tokens := by
    induction relaid with
    | rel t u step => exact Tree.bareAll_relaid step _
    | refl t => rfl
    | symm t u _ ih => exact ih.symm
    | trans t u v _ _ one two => exact one.trans two
  have same : Tree.yield s r (Tree.parse s t 0).tokens source =
      Tree.yield s r (Tree.parse s u 0).tokens source := by
    rw [Tree.yield, ← Token.yieldFrom_bareAll, alike, Token.yieldFrom_bareAll, Tree.yield]
  obtain ⟨log, compiled⟩ := compile_text_eq r s t source
  obtain ⟨otherLog, otherwise⟩ := compile_text_eq r s u source
  rw [same] at compiled
  exact ⟨_, _, log, otherLog, compiled, otherwise⟩

/-- A space put behind an opening bracket, a line break in the place of a space inside it, and a tab
taken from the end. -/
theorem compile_relaid_in_bracket :
    ∃ sequence after log otherLog,
      compile Registry.builtin (.checked .default) (.text "rotate2[1 2] 3*2\t".toList)
        (some (Twister.ofSeed 0)) = .ok ⟨sequence, log, some after⟩ ∧
      compile Registry.builtin (.checked .default) (.text "rotate2[ 1\n2] 3*2".toList)
        (some (Twister.ofSeed 0)) = .ok ⟨sequence, otherLog, some after⟩ := by
  have space : ∀ c ∈ [' '], isBlank c = true := List.forall_mem_singleton.2 (by decide)
  have line : ∀ c ∈ ['\n'], isBlank c = true := List.forall_mem_singleton.2 (by decide)
  have tab : ∀ c ∈ ['\t'], isBlank c = true := List.forall_mem_singleton.2 (by decide)
  have opened : Relaid "rotate2[1 2] 3*2\t".toList "rotate2[ 1 2] 3*2\t".toList :=
    .opened "rotate2".toList [' '] "1 2] 3*2\t".toList space
  have run : Relaid "rotate2[ 1 2] 3*2\t".toList "rotate2[ 1\n2] 3*2\t".toList :=
    .run "rotate2[ 1".toList [' '] ['\n'] "2] 3*2\t".toList (by decide) (by decide) space
      line
  have last : Relaid "rotate2[ 1\n2] 3*2".toList "rotate2[ 1\n2] 3*2\t".toList :=
    .last "rotate2[ 1\n2] 3*2".toList ['\t'] tab
  exact compile_relaid Registry.builtin .default
    (.trans _ _ _ (.rel _ _ opened) (.trans _ _ _ (.rel _ _ run) (.symm _ _ (.rel _ _ last)))) _

end StepPattern
