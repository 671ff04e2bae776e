/-
# StepPattern.Proofs.AllOrNothing -- a call does all of its work or none of it

A built-in transform fails before it draws (`builtin_sparing`), so a call that logs
something has left the sequence and the source as they were.  Which calls can draw at
all is decided by their names alone (`builtin_drawless`).

A tree without such calls is evaluated in the same way with any source: whatever source
an evaluation starts from, it is still there at the end, and nothing else of the end
depends on it (`evaluateFrom_drawless`).
-/
import StepPattern.Proofs.Draws
import StepPattern.Proofs.Quiet

namespace StepPattern

set_option autoImplicit false

/-! ## Calls -/

namespace Definition

/-- Whether a transform that fails has drawn nothing. -/
def Sparing (d : Definition) : Prop :=
  ∀ (s : Sequence) (param : Value) (g : Twister) (fault : Fault),
    (d.run s param g).1 = .error fault → (d.run s param g).2 = g

theorem sparing_sparse {fallback : Int} : (defaulting fallback Transform.sparse).Sparing := by
  intro s percent g fault failed
  show (Transform.sparse percent s g).2 = g
  change (Transform.sparse percent s g).1 = .error fault at failed
  unfold Transform.sparse at failed ⊢
  cases computed : Transform.probability percent with
  | error fault => rfl
  | ok p =>
      rw [computed] at failed
      cases failed

end Definition

/-- Whether a call does the same with any source: what its name stands for draws nothing. -/
def Call.Drawless (r : Registry) (call : Call) : Prop :=
  ∀ d, r.find? call.name = some d → d.Drawless

namespace Registry

/-- **The built-in transforms** fail before they draw. -/
theorem builtin_sparing : ∀ entry ∈ builtin, entry.2.Sparing := by
  unfold builtin
  simp only [List.forall_mem_cons]
  refine ⟨?scramble, fun _ _ _ _ _ => rfl, fun _ _ _ _ _ => rfl, fun _ _ _ _ _ => rfl,
    fun _ _ _ _ _ => rfl, fun _ _ _ _ _ => rfl, fun _ _ _ _ _ => rfl, fun _ _ _ _ _ => rfl,
    fun _ _ _ _ _ => rfl, Definition.sparing_sparse, fun _ _ _ _ _ => rfl, List.forall_mem_nil _⟩
  case scramble =>
    intro s param g fault failed
    cases failed

/-- Whether a call has done all of its work: its transform was run with its parameter, and what that
gave is the outcome, without a record. -/
def Completes (r : Registry) (call : Call) (param : Value) (s : Sequence) (g : Twister)
    (outcome : Outcome) : Prop :=
  ∃ d given result later, r.find? call.name = some d ∧
    parameter d call.name (param.orElse call.fused) = .ok given ∧
    d.run s given g = (.ok result, later) ∧ outcome = ⟨result, [], later⟩

/-- A call does all of its work, or nothing but one record, if its transform fails before it
draws. -/
theorem call_sparing {r : Registry} (sparing : ∀ entry ∈ r, entry.2.Sparing) (loud : Bool)
    (call : Call) (param : Value) (s : Sequence) (g : Twister) :
    r.Completes call param s g (r.call loud call param s g) ∨
      ∃ entry, r.call loud call param s g = ⟨s, [entry], g⟩ := by
  unfold Registry.call
  split
  · exact .inr ⟨_, rfl⟩
  · rename_i d found
    unfold run
    split
    · exact .inr ⟨_, rfl⟩
    · rename_i given taken
      rcases ran : d.run s given g with ⟨fault | result, later⟩
      · have unmoved : later = g := by
          have failed := sparing _ (mem_of_find? found) s given g fault
          rw [ran] at failed
          exact failed rfl
        subst unmoved
        exact .inr ⟨_, rfl⟩
      · exact .inl ⟨d, given, result, later, found, taken, ran, rfl⟩

theorem run_drawless {d : Definition} (drawless : d.Drawless) (loud : Bool) (name : Text)
    (given : Value) (s : Sequence) (g other : Twister) :
    run d loud name given s g = { run d loud name given s other with source := g } := by
  unfold run
  split
  · rfl
  · rename_i param _
    have first := drawless s param g other
    have second := drawless s param other other
    rw [first, second]
    cases (d.run s param other).1 <;> rfl

/-- Another source makes no difference to a call that draws nothing. -/
theorem call_drawless {r : Registry} {call : Call} (drawless : call.Drawless r) (loud : Bool)
    (param : Value) (s : Sequence) (g other : Twister) :
    r.call loud call param s g = { r.call loud call param s other with source := g } := by
  unfold Registry.call
  split
  · rfl
  · rename_i d found
    exact run_drawless (drawless d found) loud call.name _ s g other

theorem drawless_builtin {call : Call} (other : call.name ∉ drawingTransforms) :
    call.Drawless builtin :=
  fun _ found => builtin_drawless _ (mem_of_find? found) other

end Registry

/-! ## Tokens -/

namespace Token

variable {c : Setting}

mutual

theorem steps_drawless (log : Log) (source other : Twister) :
    (token : Token) → (∀ call ∈ calls token, call.Drawless c.registry) →
      steps c log source token =
        ((steps c log other token).1, (steps c log other token).2.1, source)
  | .literal _, _ | .repeated _ _, _ => rfl
  | .bracket call _ children _, drawless => by
      have inside := evaluateFrom_drawless (.start log other) source children
        fun deeper among => drawless deeper (List.mem_append_right _ among)
      have begun : { Progress.start log other with source := source } = Progress.start log source :=
        rfl
      rw [begun] at inside
      rw [steps, inside, steps]
      rcases evaluateFrom c (.start log other) children with ⟨fault | ⟨⟩, reached⟩
      · rfl
      · cases call with
        | none => rfl
        | some call =>
            have here : call.Drawless c.registry :=
              drawless call (List.mem_append_left _ (List.mem_singleton_self call))
            simp only [Registry.call_drawless here c.loud .none reached.sequence.toList source
              reached.source]

/-- **Tokens whose calls draw nothing are evaluated alike with any source**, and leave it. -/
theorem evaluateFrom_drawless (p : Progress) (source : Twister) :
    (tokens : List Token) → (∀ call ∈ allCalls tokens, call.Drawless c.registry) →
      evaluateFrom c { p with source } tokens =
        ((evaluateFrom c p tokens).1, { (evaluateFrom c p tokens).2 with source })
  | [], _ => rfl
  | token :: tokens, drawless => by
      have here := steps_drawless p.log source p.source token
        fun call among => drawless call (List.mem_append_left _ among)
      have further := fun q => evaluateFrom_drawless q source tokens
        fun call among => drawless call (List.mem_append_right _ among)
      rw [evaluateFrom, evaluateFrom, here]
      rcases steps c p.log p.source token with ⟨fault | piece, log, later⟩
      · rfl
      · have added : Progress.add { { p with source } with log, source } c.loud token.formName piece
            token.count =
          { Progress.add { p with log, source := later } c.loud token.formName piece
            token.count with source } := by
          unfold Progress.add
          split <;> rfl
        simp only [added, further]

end

end Token

/-! ## Compilations -/

theorem compileText_drawless {r : Registry} {s : CompileSettings} {t : Text}
    (drawless : ∀ call ∈ Token.allCalls (Tree.parse s t 0).tokens, call.Drawless r)
    (source other : Twister) :
    compileText r s t source = { compileText r s t other with source } := by
  have evaluated := Token.evaluateFrom_drawless (c := s.setting r) (.start [] other) source
    (Tree.parse s t 0).tokens drawless
  have begun : { Progress.start [] other with source := source } = Progress.start [] source := rfl
  rw [begun] at evaluated
  unfold compileText Tree.evaluate
  simp only [evaluated]
  rcases Token.evaluateFrom (s.setting r) (.start [] other) (Tree.parse s t 0).tokens with
    ⟨fault | ⟨⟩, reached⟩
  · rfl
  · simp only [Except.bind]
    cases s.finish reached.sequence.toList <;> rfl

/-- A compilation whose calls draw nothing gives the same with any source, and leaves it. -/
theorem compile_drawless {r : Registry} {s : CompileSettings} {t : Text}
    (drawless : ∀ call ∈ Token.allCalls (Tree.parse s t 0).tokens, call.Drawless r) :
    ∃ sequence log, ∀ source, compile r (.checked s) (.text t) (some source) =
      .ok ⟨sequence, log, some source⟩ := by
  by_cases empty : t = []
  · subst empty
    exact ⟨[], [.diagnostic s.loud (.patternUnusable (Text.quote []))], fun source => rfl⟩
  · refine ⟨(compileText r s t (.ofSeed 0)).sequence, (compileText r s t (.ofSeed 0)).log, ?_⟩
    intro source
    show compileChecked r s (.text t) (some source) = _
    rw [compileChecked_text_some r s empty, compileText_drawless drawless source (.ofSeed 0)]

namespace Registry

/-- **A call is all or nothing.**  With the built-in transforms, whatever value stands for the name
and the parameter, a call gives what its transform makes of the sequence and logs nothing, or logs
one record and leaves the sequence and the source as they are.  The source can change only where the
name is that of a transform that draws; so a text that calls none of these compiles to one and the
same with every source, and leaves it. -/
theorem apply_all_or_nothing (loud : Bool) (name param : Value) (s : Sequence) (g : Twister) :
    ((∃ call, Call.ofValue name = .ok call ∧
        builtin.Completes call param s g (builtin.apply loud name param s g)) ∨
      ∃ entry, builtin.apply loud name param s g = ⟨s, [entry], g⟩) ∧
      ((builtin.apply loud name param s g).source ≠ g → name.Names drawingTransforms) ∧
      ∀ (settings : CompileSettings) (t : Text),
        (∀ call ∈ Token.allCalls (Tree.parse settings t 0).tokens,
          call.name ∉ drawingTransforms) →
        ∃ sequence log, ∀ source,
          compile builtin (.checked settings) (.text t) (some source) =
            .ok ⟨sequence, log, some source⟩ := by
  refine ⟨?record, ?source, ?pattern⟩
  case record =>
    cases read : Call.ofValue name with
    | error error =>
        rw [apply, read]
        exact .inr ⟨_, rfl⟩
    | ok call =>
        rw [builtin.apply_of_written loud read]
        rcases call_sparing builtin_sparing loud call param s g with completes | nothing
        · exact .inl ⟨call, rfl, completes⟩
        · exact .inr nothing
  case source =>
    intro changed
    unfold apply at changed
    split at changed
    · exact absurd rfl changed
    · rename_i call written
      refine ⟨call, written, ?_⟩
      by_contra other
      rw [call_drawless (drawless_builtin other) loud param s g g] at changed
      exact changed rfl
  case pattern =>
    intro settings t others
    exact compile_drawless fun call among => drawless_builtin (others call among)

/-- A parameter is missing in a call, and in a pattern. -/
theorem apply_all_or_nothing_missing_parameter :
    (∃ entry, builtin.apply false (.text "scale".toList) .none [.note 1] (.ofSeed 0) =
        ⟨[.note 1], [entry], .ofSeed 0⟩) ∧
      ∃ sequence log, ∀ source,
        compile builtin (.checked .default) (.text "scale[1 -]".toList) (some source) =
          .ok ⟨sequence, log, some source⟩ := by
  obtain ⟨record, -, pattern⟩ :=
    apply_all_or_nothing false (.text "scale".toList) .none [.note 1] (.ofSeed 0)
  have missing : ¬∃ call, Call.ofValue (.text "scale".toList) = .ok call ∧
      builtin.Completes call .none [.note 1] (.ofSeed 0)
        (builtin.apply false (.text "scale".toList) .none [.note 1] (.ofSeed 0)) := by
    rintro ⟨call, ⟨⟩, d, given, result, later, ⟨⟩, ⟨⟩, -⟩
  have parsed : (Tree.parse .default "scale[1 -]".toList 0).tokens =
      [.bracket (some ⟨"scale".toList, none⟩) "1 -".toList [.literal ['1'], .literal ['-']]
        none] := rfl
  refine ⟨record.resolve_left missing, pattern .default _ ?_⟩
  rw [parsed]
  decide

end Registry

end StepPattern
