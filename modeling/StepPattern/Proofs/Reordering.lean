/-
# StepPattern.Proofs.Reordering -- transforms of order neither lose nor invent steps

`reverse`, `rotate` and `scramble` give back what they are handed in some order
(`Definition.Reorders`).  Most other transforms look at each step alone, and at the
length: handed the same steps in another order, they give the same steps in another
order (`Definition.OrderBlind`).  Two of them do not: `mirror` leaves out the step that
happens to be last, and `sparse` draws for one note after the other.

So where neither of the two is called, the calls of order can be taken off a tree and
their brackets left as groups (`Token.groupedAll`).  The tree still yields the same
steps, whatever is drawn (`yieldFrom_grouped`).  The step limit is no obstacle: it looks
at lengths, and these are the same.
-/
import StepPattern.Proofs.Quiet
import StepPattern.Proofs.Rhythm

namespace StepPattern

set_option autoImplicit false

namespace Transform

/-! ## Transforms and the order of steps -/

theorem rotate_perm (places : Int) (s : Sequence) : (rotate places s).Perm s := by
  unfold rotate
  split
  · exact .refl s
  · refine List.perm_append_comm.trans ?_
    rw [List.take_append_drop]

theorem rotateBy_perm (places : Value) (s : Sequence) :
    ((rotateBy places s).toOption.getD s).Perm s := by
  unfold rotateBy
  split
  · exact rotate_perm _ s
  · split <;> exact .refl s

theorem copies_perm (count : Int) {s t : Sequence} (same : s.Perm t) :
    ((copies count s).toOption.getD s).Perm ((copies count t).toOption.getD t) := by
  unfold copies
  rw [same.length_eq]
  split
  · exact same
  · exact same.flatMap_right _

theorem copiesBy_perm (count : Value) {s t : Sequence} (same : s.Perm t) :
    ((copiesBy count s).toOption.getD s).Perm ((copiesBy count t).toOption.getD t) := by
  unfold copiesBy
  rw [same.length_eq]
  split
  · exact same
  · exact copies_perm _ same
  · split
    · exact same
    · exact same
    · by_cases empty : s = []
      · subst empty
        rw [List.nil_perm.1 same]
      · have otherwise : t ≠ [] := fun nothing => empty (List.perm_nil.1 (nothing ▸ same))
        simp only [List.isEmpty_iff, empty, otherwise, if_false]
        exact same

theorem interleave_perm {s t : Sequence} (same : s.Perm t) :
    (interleave s).Perm (interleave t) :=
  same.flatMap_right _

end Transform

namespace Definition

/-- Whether a transform leaves, where it fails too, the items of the sequence in some order. -/
def Reorders (d : Definition) : Prop :=
  ∀ (s : Sequence) (param : Value) (g : Twister), ((d.run s param g).1.toOption.getD s).Perm s

/-- Whether a transform leaves the same items, in some order, of the same items in another order,
whatever it draws. -/
def OrderBlind (d : Definition) : Prop :=
  ∀ (s t : Sequence) (param : Value) (g other : Twister), s.Perm t →
    ((d.run s param g).1.toOption.getD s).Perm ((d.run t param other).1.toOption.getD t)

theorem Reorders.orderBlind {d : Definition} (reorders : d.Reorders) : d.OrderBlind := by
  intro s t param g other same
  exact (reorders s param g).trans (same.trans (reorders t param other).symm)

theorem Notewise.orderBlind {d : Definition} (notewise : d.Notewise) : d.OrderBlind := by
  intro s t param g other same
  obtain ⟨change, leaves⟩ := notewise param
  rw [(leaves s g).1, (leaves t other).1]
  exact same.map _

end Definition

namespace Registry

def orderTransforms : List Text :=
  ["reverse".toList, "rotate".toList, "scramble".toList]

/-- The names of the transforms to which the order of the steps matters, and not only for the order
of what they give. -/
def orderedTransforms : List Text :=
  ["mirror".toList, "sparse".toList]

/-- **The built-in transforms** of order only reorder, and the others but for two are blind to the
order. -/
theorem builtin_reorders_or_orderBlind : ∀ entry ∈ builtin,
    (entry.1 ∈ orderTransforms ∧ entry.2.Reorders) ∨
      (entry.1 ∉ orderTransforms ∧ (entry.1 ∉ orderedTransforms → entry.2.OrderBlind)) := by
  unfold builtin
  simp only [List.forall_mem_cons]
  refine ⟨.inl ⟨by decide, ?scramble⟩,
    .inr ⟨by decide, fun _ => Definition.notewise_valuewise.orderBlind⟩,
    .inr ⟨by decide, fun _ => Definition.notewise_valuewise.orderBlind⟩,
    .inr ⟨by decide, fun _ => Definition.notewise_valuewise.orderBlind⟩,
    .inr ⟨by decide, fun other => absurd (by decide) other⟩,
    .inr ⟨by decide, fun _ _ _ param _ _ same => Transform.copiesBy_perm param same⟩,
    .inr ⟨by decide, fun _ => Definition.notewise_quantize.orderBlind⟩,
    .inl ⟨by decide, ?reverse⟩, .inl ⟨by decide, ?rotate⟩,
    .inr ⟨by decide, fun other => absurd (by decide) other⟩,
    .inr ⟨by decide, fun _ _ _ _ _ _ same => Transform.interleave_perm same⟩,
    List.forall_mem_nil _⟩
  case scramble =>
    intro s param g
    exact Twister.shuffle_perm g s
  case reverse =>
    intro s param g
    exact List.reverse_perm s
  case rotate =>
    intro s param g
    exact Transform.rotateBy_perm param s

/-- What a definition that is run leaves: the sequence as it is if the parameter is refused, else what
its function leaves. -/
theorem run_sequence (d : Definition) (loud : Bool) (name : Text) (given : Value) (s : Sequence)
    (g : Twister) :
    (run d loud name given s g).sequence =
      match parameter d name given with
      | .error _ => s
      | .ok param => (d.run s param g).1.toOption.getD s := by
  unfold run
  cases parameter d name given with
  | error error => rfl
  | ok param =>
      rcases ran : d.run s param g with ⟨fault | result, later⟩ <;> simp only [ran] <;> rfl

/-- A call of a transform of order gives the sequence in some order. -/
theorem call_reorders (loud : Bool) {call : Call} (named : call.name ∈ orderTransforms)
    (param : Value) (s : Sequence) (g : Twister) :
    (builtin.call loud call param s g).sequence.Perm s := by
  unfold Registry.call
  split
  · exact .refl s
  · rename_i d found
    rcases builtin_reorders_or_orderBlind _ (mem_of_find? found) with ⟨-, reorders⟩ | ⟨other, -⟩
    · rw [run_sequence]
      split
      · exact .refl s
      · exact reorders s _ g
    · exact absurd named other

/-- **A call of a built-in transform but for two gives the same steps of the same steps in another
order**, whatever it draws. -/
theorem call_perm (loud : Bool) {call : Call} (free : call.name ∉ orderedTransforms)
    (param : Value) {s t : Sequence} (same : s.Perm t) (g other : Twister) :
    (builtin.call loud call param s g).sequence.Perm
      (builtin.call loud call param t other).sequence := by
  unfold Registry.call
  split
  · exact same
  · rename_i d found
    have blind : d.OrderBlind := by
      rcases builtin_reorders_or_orderBlind _ (mem_of_find? found) with
        ⟨-, reorders⟩ | ⟨-, blind⟩
      · exact reorders.orderBlind
      · exact blind free
    rw [run_sequence, run_sequence]
    split
    · exact same
    · exact blind s t _ g other same

end Registry

/-! ## Trees without calls of order -/

namespace Token

mutual

/-- A token with the transforms of order taken off its brackets, which stay as groups with their
counts. -/
def grouped : Token → Token
  | .literal text => .literal text
  | .repeated value count => .repeated value count
  | .bracket call inner children count =>
      .bracket (call.filter (·.name ∉ Registry.orderTransforms)) inner (groupedAll children) count
termination_by structural token => token

def groupedAll : List Token → List Token
  | [] => []
  | token :: tokens => grouped token :: groupedAll tokens
termination_by structural tokens => tokens

end

theorem count_grouped (token : Token) : token.grouped.count = token.count := by
  cases token <;> rfl

mutual

theorem readable_grouped {restSymbol : Text} :
    (token : Token) → Readable restSymbol token → Readable restSymbol token.grouped
  | .literal _, readable | .repeated _ _, readable => readable
  | .bracket _ _ children _, readable => allReadable_groupedAll children readable

theorem allReadable_groupedAll {restSymbol : Text} :
    (tokens : List Token) → AllReadable restSymbol tokens →
      AllReadable restSymbol (groupedAll tokens)
  | [], _ => trivial
  | token :: tokens, readable =>
      ⟨readable_grouped token readable.1, allReadable_groupedAll tokens readable.2⟩

end

end Token

/-! ## The same steps -/

namespace Yield

theorem times_perm {y z : Yield} (same : y.sequence.Perm z.sequence) (count : Nat) :
    (y.times count).sequence.Perm (z.times count).sequence := by
  simp only [times]
  induction count with
  | zero => exact .refl _
  | succ count ih =>
      rw [List.replicate_succ, List.replicate_succ, List.flatten_cons, List.flatten_cons]
      exact same.append ih

theorem add_perm {y z piece other : Yield} (same : y.sequence.Perm z.sequence)
    (pieces : piece.sequence.Perm other.sequence) :
    (y.add piece).sequence.Perm (z.add other).sequence := by
  unfold add
  rw [same.length_eq, pieces.length_eq]
  split
  · exact same
  · exact same.append pieces

end Yield

namespace Token

variable {c : Setting}

/-- A bracket yields the same steps with and without a call of order on it. -/
theorem called_grouped (builtIn : c.registry = .builtin) (call : Option Call)
    (free : ∀ named ∈ call, named.name ∉ Registry.orderedTransforms) {y z : Yield}
    (same : y.sequence.Perm z.sequence) :
    (c.called call y).sequence.Perm
      (c.called (call.filter (·.name ∉ Registry.orderTransforms)) z).sequence := by
  cases call with
  | none => exact same
  | some call =>
      by_cases named : call.name ∈ Registry.orderTransforms
      · have taken : (some call).filter (·.name ∉ Registry.orderTransforms) = none := by
          simp [named]
        rw [taken]
        simp only [Setting.called, builtIn]
        exact (Registry.call_reorders c.loud named .none _ _).trans same
      · have kept : (some call).filter (·.name ∉ Registry.orderTransforms) = some call := by
          simp [named]
        rw [kept]
        simp only [Setting.called, builtIn]
        exact Registry.call_perm c.loud (free call rfl) .none same _ _

mutual

theorem once_grouped (builtIn : c.registry = .builtin) (source other : Twister) :
    (token : Token) → (∀ call ∈ calls token, call.name ∉ Registry.orderedTransforms) →
      (once c source token).sequence.Perm (once c other token.grouped).sequence
  | .literal _, _ | .repeated _ _, _ => .refl _
  | .bracket call _ children _, free => by
      have nothing : (Yield.start source).sequence.Perm (Yield.start other).sequence := .refl _
      have inside := yieldFrom_grouped builtIn nothing children
        fun deeper among => free deeper (List.mem_append_right _ among)
      rw [grouped, once, once]
      refine called_grouped builtIn call (fun named here => ?_) inside
      exact free named (List.mem_append_left _ (Option.mem_toList.2 here))

/-- **Tokens yield the same steps with the transforms of order taken off their brackets**, behind the
same steps and whatever is drawn. -/
theorem yieldFrom_grouped (builtIn : c.registry = .builtin) {y z : Yield}
    (same : y.sequence.Perm z.sequence) :
    (tokens : List Token) → (∀ call ∈ allCalls tokens, call.name ∉ Registry.orderedTransforms) →
      (yieldFrom c y tokens).sequence.Perm (yieldFrom c z (groupedAll tokens)).sequence
  | [], _ => same
  | token :: tokens, free => by
      have here := once_grouped builtIn y.source z.source token
        fun call among => free call (List.mem_append_left _ among)
      rw [groupedAll, yieldFrom, yieldFrom, count_grouped]
      refine yieldFrom_grouped builtIn (Yield.add_perm same (Yield.times_perm here _)) tokens ?_
      exact fun call among => free call (List.mem_append_right _ among)

end

end Token

namespace Tree

open Token

variable {s : CompileSettings} {tokens : List Token}

theorem yield_grouped (free : ∀ call ∈ allCalls tokens, call.name ∉ Registry.orderedTransforms)
    (source other : Twister) :
    (yield s .builtin tokens source).sequence.Perm
      (yield s .builtin (groupedAll tokens) other).sequence := by
  have nothing : (Yield.start source).sequence.Perm (Yield.start other).sequence := .refl _
  exact yieldFrom_grouped rfl nothing tokens free

/-- What is drawn has no part in which steps are yielded. -/
theorem yield_perm (free : ∀ call ∈ allCalls tokens, call.name ∉ Registry.orderedTransforms)
    (source other : Twister) :
    (yield s .builtin tokens source).sequence.Perm (yield s .builtin tokens other).sequence :=
  (yield_grouped free source source).trans (yield_grouped free other source).symm

/-- **Transforms of order neither lose nor invent steps.**  Let a parsed tree call neither `mirror`
nor `sparse`.  With every call of `reverse`, `rotate` and `scramble` in it made a group of the same
children and the same count, it evaluates to the same steps in some order; and so it does with any
other source.  A text that parses to such a tree compiles to the same steps, in some order, with
every source. -/
theorem evaluate_grouped (parsed : IsParsed s.restSymbol tokens)
    (free : ∀ call ∈ allCalls tokens, call.name ∉ Registry.orderedTransforms)
    (source other : Twister) :
    (∃ original plain again,
      (evaluate (s.setting .builtin) tokens source).result = .ok original ∧
      (evaluate (s.setting .builtin) (groupedAll tokens) source).result = .ok plain ∧
      (evaluate (s.setting .builtin) tokens other).result = .ok again ∧
      plain.Perm original ∧ again.Perm original) ∧
    ∀ t, (parse s t 0).tokens = tokens →
      ∃ first second,
        compile .builtin (.checked s) (.text t) (some source) = .ok first ∧
        compile .builtin (.checked s) (.text t) (some other) = .ok second ∧
        first.sequence.Perm second.sequence := by
  have readable := parsed.readable
  constructor
  · obtain ⟨_, original⟩ := evaluate_eq s .builtin readable source
    obtain ⟨_, plain⟩ := evaluate_eq s .builtin (allReadable_groupedAll tokens readable) source
    obtain ⟨_, again⟩ := evaluate_eq s .builtin readable other
    rw [original, plain, again]
    exact ⟨_, _, _, rfl, rfl, rfl, (yield_grouped free source source).symm,
      yield_perm free other source⟩
  · rintro t rfl
    obtain ⟨_, first⟩ := compile_builtin_eq s t source
    obtain ⟨_, second⟩ := compile_builtin_eq s t other
    exact ⟨_, _, first, second, yield_perm free source other⟩

/-- Calls of order inside each other, with a count and under a transform of values. -/
theorem evaluate_grouped_nested :
    ∃ tokens : List Token,
      tokens = (parse .default "scale3[rotate2[1 scramble[- 3]]*2]".toList 0).tokens ∧
      groupedAll tokens =
        [.bracket (some ⟨"scale".toList, some 3⟩) "rotate2[1 scramble[- 3]]*2".toList
          [.bracket none "1 scramble[- 3]".toList [.literal ['1'],
            .bracket none "- 3".toList [.literal ['-'], .literal ['3']] none] (some 2)] none] ∧
      (∃ original plain again,
        (evaluate (CompileSettings.default.setting .builtin) tokens (.ofSeed 0)).result =
          .ok original ∧
        (evaluate (CompileSettings.default.setting .builtin) (groupedAll tokens)
          (.ofSeed 0)).result = .ok plain ∧
        (evaluate (CompileSettings.default.setting .builtin) tokens (.ofSeed 1)).result =
          .ok again ∧
        plain.Perm original ∧ again.Perm original) ∧
      ∃ first second,
        compile .builtin (.checked .default)
          (.text "scale3[rotate2[1 scramble[- 3]]*2]".toList) (some (.ofSeed 0)) = .ok first ∧
        compile .builtin (.checked .default)
          (.text "scale3[rotate2[1 scramble[- 3]]*2]".toList) (some (.ofSeed 1)) = .ok second ∧
        first.sequence.Perm second.sequence := by
  have shape : (parse .default "scale3[rotate2[1 scramble[- 3]]*2]".toList 0).tokens =
      [.bracket (some ⟨"scale".toList, some 3⟩) "rotate2[1 scramble[- 3]]*2".toList
        [.bracket (some ⟨"rotate".toList, some 2⟩) "1 scramble[- 3]".toList [.literal ['1'],
          .bracket (some ⟨"scramble".toList, none⟩) "- 3".toList
            [.literal ['-'], .literal ['3']] none] (some 2)] none] := rfl
  have free : ∀ call ∈ allCalls
      (parse .default "scale3[rotate2[1 scramble[- 3]]*2]".toList 0).tokens,
      call.name ∉ Registry.orderedTransforms := by
    rw [shape]
    decide
  obtain ⟨evaluated, compiled⟩ :=
    evaluate_grouped (s := .default) ⟨.default, _, 0, rfl, rfl⟩ free (.ofSeed 0) (.ofSeed 1)
  refine ⟨_, rfl, ?_, evaluated, compiled _ rfl⟩
  rw [shape]
  rfl

end Tree

end StepPattern
