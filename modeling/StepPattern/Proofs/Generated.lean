/-
# StepPattern.Proofs.Generated -- texts that are printed instead of a compiled pattern

A command line that asks for a style prints a pattern text of it, and one that asks for a random
sequence prints its steps.  A style always gives a text (`Arguments.Styled.generated`), and a
random sequence fails where its settings or draws do (`Arguments.generated_eq_error_iff`): that
its steps cannot be written is a refusal.  What is printed stands on one line.
-/
import StepPattern.CommandLine.Run
import StepPattern.Proofs.OneLine
import StepPattern.Proofs.RandomFaults

namespace StepPattern

set_option autoImplicit false

/-! ## What is written down -/

theorem stringify_toValue (restSymbol : Text) (steps : List Step) :
    stringify restSymbol (steps.map Step.toValue) = writeSteps restSymbol steps := by
  rw [stringify, normalize, normalizeFrom_toValue]
  rfl

/-- Steps cannot be written exactly if one of them is a note beyond the digit limit. -/
theorem writeSteps_eq_error_iff {restSymbol : Text} {steps : List Step} {fault : Fault} :
    writeSteps restSymbol steps = .error fault ↔
      (∃ n, Step.note n ∈ steps ∧ Text.numeralBound ≤ n.natAbs) ∧ fault = Value.overLimit := by
  have beyond : (∃ n, Step.note n ∈ steps ∧ Text.numeralBound ≤ n.natAbs) ↔
      ¬∀ step ∈ steps, step.Short := by
    push Not
    constructor
    · rintro ⟨n, among, long⟩
      refine ⟨.note n, among, fun short => ?_⟩
      have := Text.length_toDigits_le_maxDigits_iff.1 short
      omega
    · rintro ⟨step, among, long⟩
      cases step with
      | rest => exact absurd trivial long
      | note n =>
          refine ⟨n, among, ?_⟩
          have := mt Text.length_toDigits_le_maxDigits_iff.2 long
          omega
  rw [beyond]
  by_cases short : ∀ step ∈ steps, step.Short
  · rw [writeSteps_eq restSymbol short]
    exact iff_of_false nofun fun both => both.1 short
  · rw [writeSteps, wordsFrom_eq_error restSymbol [] short]
    exact ⟨fun same => ⟨short, (Except.error.inj same).symm⟩, fun both => both.2 ▸ rfl⟩

/-! ## What is printed instead of a compiled pattern -/

namespace Arguments

variable {host : Host} {a : Arguments} {s : CompileSettings} {source : Option Twister}
  {config : Entries} {fault : Fault}

def Styled (a : Arguments) : Prop :=
  ∃ style : Text, style ≠ [] ∧ a.style = .text style

/-- A style always gives a text, on one line. -/
theorem Styled.generated (styled : a.Styled) (host : Host) (s : CompileSettings)
    (source : Option Twister) (config : Entries) :
    ∃ t, a.generated host s source config = .ok (some t) ∧ Text.OneLine t := by
  obtain ⟨style, nonempty, asked⟩ := styled
  obtain ⟨c, style, rfl⟩ := List.exists_cons_of_ne_nil nonempty
  obtain ⟨t, later, drawn, -⟩ := Composer.byName_gives ⟨s.restSymbol⟩ (c :: style)
    (source.getD host.fresh)
  refine ⟨t, ?_, Composer.byName_lines (Text.oneLine_of_isRestSymbol s.restSymbol_ok) _ _ _ _ drawn⟩
  simp only [Arguments.generated, asked, composed, drawn, Except.map]

theorem generated_of_random (plain : ¬a.Styled) (asked : a.random = true) :
    a.generated host s source config = (a.randomText host s source config).map some := by
  unfold generated
  split
  case h_1 c style given => exact absurd ⟨_, List.cons_ne_nil c style, given⟩ plain
  case h_2 => rw [asked, if_pos rfl]

theorem generated_of_neither (plain : ¬a.Styled) (ordered : a.random = false) :
    a.generated host s source config = .ok none := by
  unfold generated
  split
  case h_1 c style given => exact absurd ⟨_, List.cons_ne_nil c style, given⟩ plain
  case h_2 => rw [ordered]; rfl

/-- A random text that is given stands on one line. -/
theorem oneLine_of_randomText {t : Text} (given : a.randomText host s source config = .ok t) :
    Text.OneLine t := by
  obtain ⟨settings, -, given⟩ := bind_eq_ok_iff.1 given
  obtain ⟨steps, -, written⟩ := bind_eq_ok_iff.1 given
  exact Text.oneLine_of_writeSteps (Text.oneLine_of_isRestSymbol s.restSymbol_ok) written

/-- A random text fails as its sequence does, refusals apart: steps that cannot be written are a
refusal. -/
theorem randomText_eq_error_iff (other : fault.isRefusal = false) :
    a.randomText host s source config = .error fault ↔
      RandomFails host config a.randomOverrides source fault := by
  have distinct : (a.randomOverrides.map (·.1)).Nodup := by
    show ["length".toList, "seed".toList].Nodup
    decide
  rw [← randomFails_iff distinct other]
  have unwritten : ∀ steps, writeSteps s.restSymbol steps ≠ .error fault := fun steps failed => by
    rw [(writeSteps_eq_error_iff.1 failed).2] at other
    cases other
  have parts : a.randomText host s source config =
      ((Config.randomSettings config a.randomOverrides host).bind
        fun settings => (randomSteps (.checked settings) source host).1).bind
          (writeSteps s.restSymbol) := by
    unfold randomText
    cases Config.randomSettings config a.randomOverrides host <;> rfl
  rw [parts]
  exact bind_eq_error_iff.trans
    (or_iff_left fun ⟨steps, _, failed⟩ => unwritten steps failed)

theorem generated_eq_error_iff (other : fault.isRefusal = false) :
    a.generated host s source config = .error fault ↔
      ¬a.Styled ∧ a.random = true ∧ RandomFails host config a.randomOverrides source fault := by
  by_cases styled : a.Styled
  · obtain ⟨t, given, -⟩ := styled.generated host s source config
    rw [given]
    exact iff_of_false nofun fun ⟨plain, _⟩ => plain styled
  · cases asked : a.random with
    | true =>
        rw [generated_of_random styled asked, map_eq_error_iff, randomText_eq_error_iff other]
        simp [styled]
    | false =>
        rw [generated_of_neither styled asked]
        simp

theorem generated_eq_none_iff :
    a.generated host s source config = .ok none ↔ ¬a.Styled ∧ a.random = false := by
  by_cases styled : a.Styled
  · obtain ⟨t, given, -⟩ := styled.generated host s source config
    rw [given]
    simp [styled]
  · cases asked : a.random with
    | true =>
        rw [generated_of_random styled asked, map_eq_ok_iff]
        simp
    | false =>
        rw [generated_of_neither styled asked]
        simp [styled]

/-- What is printed instead of a compiled pattern stands on one line. -/
theorem oneLine_of_generated {t : Text} (given : a.generated host s source config = .ok (some t)) :
    Text.OneLine t := by
  by_cases styled : a.Styled
  · obtain ⟨u, same, line⟩ := styled.generated host s source config
    rw [given] at same
    cases same
    exact line
  · cases asked : a.random with
    | true =>
        rw [generated_of_random styled asked, map_eq_ok_iff] at given
        obtain ⟨u, given, same⟩ := given
        cases same
        exact oneLine_of_randomText given
    | false =>
        rw [generated_of_neither styled asked] at given
        cases given

end Arguments

end StepPattern
