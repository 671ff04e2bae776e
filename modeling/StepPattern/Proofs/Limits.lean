/-
# StepPattern.Proofs.Limits -- nothing grows past the limits

An evaluation goes from token to token and down into brackets.  Wherever it comes
to (`Token.Reaches`), the sequence it has there keeps to the step limit, whatever
the registered transforms give: a step that would pass the limit is not taken
(`Progress.size_add_le`), and an inside begins with nothing.

The built-in transforms at most double a sequence, and `repeat`, which can do more,
has a limit of its own (`Registry.builtin_bounded`).  So what is handed to them
keeps to the step limit, and what they give to twice of it.
-/
import StepPattern.Proofs.Requests
import StepPattern.Proofs.Steps

namespace StepPattern

set_option autoImplicit false

/-! ## The built-in transforms -/

namespace Transform

theorem length_mirror_le (s : Sequence) : (mirror s).length ≤ 2 * s.length := by
  rw [mirror, List.length_append, List.length_reverse, List.length_dropLast]
  omega

theorem length_rotate (places : Int) (s : Sequence) : (rotate places s).length = s.length := by
  unfold rotate
  split
  · rfl
  · rw [List.length_append, List.length_drop, List.length_take]
    omega

theorem length_rotateBy {places : Value} {s t : Sequence} (ran : rotateBy places s = .ok t) :
    t.length = s.length := by
  unfold rotateBy at ran
  split at ran
  · cases ran
    exact length_rotate _ s
  · split at ran
    · cases ran
      rfl
    · cases ran

/-- Copies keep to the step limit. -/
theorem length_copies_le {count : Int} {s t : Sequence} (ran : copies count s = .ok t) :
    t.length ≤ maxSteps := by
  unfold copies at ran
  split at ran
  · cases ran
  · rename_i within
    cases ran
    have few : ((s.length * count.toNat : Nat) : Int) ≤ maxSteps := by
      rcases Int.le_total 0 count with positive | negative
      · rw [Int.natCast_mul, Int.toNat_of_nonneg positive]
        omega
      · rw [Int.toNat_of_nonpos negative, Nat.mul_zero]
        exact Int.natCast_nonneg _
    have size : (s.flatMap fun v => List.replicate count.toNat v).length =
        s.length * count.toNat := by
      simp only [List.length_flatMap, List.length_replicate, List.map_const',
        List.sum_replicate_nat]
    rw [size]
    exact_mod_cast few

theorem length_copiesBy_le {count : Value} {s t : Sequence} (ran : copiesBy count s = .ok t) :
    t.length ≤ maxSteps := by
  unfold copiesBy at ran
  split at ran
  · cases ran
  · exact length_copies_le ran
  · split at ran
    · cases ran
    · cases ran
    · split at ran
      · cases ran
        exact Nat.zero_le _
      · cases ran

theorem length_thin (p : Double) (done s : Sequence) (g : Twister) :
    (thin p done s g).1.length = done.length + s.length := by
  fun_induction thin p done s g with
  | case1 done g => exact List.length_reverse
  | case2 done g n s draw later _ ih | case3 done g u s _ ih =>
      rw [ih, List.length_cons, List.length_cons]
      omega

theorem length_sparse {percent : Value} {s t : Sequence} {g : Twister}
    (ran : (sparse percent s g).1 = .ok t) : t.length = s.length := by
  cases computed : probability percent with
  | error fault =>
      rw [sparse, computed] at ran
      cases ran
  | ok p =>
      have thinned : (thin p [] s g).1 = t := by
        simpa only [sparse, computed, Except.ok.injEq] using ran
      rw [← thinned, length_thin, List.length_nil, Nat.zero_add]

end Transform

namespace Definition

/-- Whether a transform at most doubles a sequence, or keeps to the step limit. -/
def Bounded (d : Definition) : Prop :=
  ∀ (s t : Sequence) (param : Value) (g : Twister), (d.run s param g).1 = .ok t →
    t.length ≤ max (2 * s.length) maxSteps

theorem ChangesNotes.bounded {d : Definition} (changes : d.ChangesNotes) : d.Bounded := by
  intro s t param g ran
  obtain ⟨change, rfl⟩ := (changes s param g).2 t ran
  rw [Transform.length_mapNotes]
  omega

theorem bounded_plain {f : Sequence → Sequence} (doubles : ∀ s, (f s).length ≤ 2 * s.length) :
    (plain f).Bounded := by
  rintro s t param g ⟨⟩
  exact Nat.le_trans (doubles s) (Nat.le_max_left _ _)

end Definition

namespace Registry

def Bounded (r : Registry) : Prop :=
  ∀ entry ∈ r, entry.2.Bounded

/-- **The built-in transforms are bounded.** -/
theorem builtin_bounded : Bounded builtin := by
  unfold Bounded builtin
  simp only [List.forall_mem_cons]
  have same : ∀ {s t : Sequence}, t.length = s.length →
      t.length ≤ max (2 * s.length) maxSteps := by
    intro s t length
    omega
  have few : ∀ {s t : Sequence}, t.length ≤ maxSteps →
      t.length ≤ max (2 * s.length) maxSteps := by
    intro s t length
    omega
  refine ⟨?scramble, Definition.changesNotes_valuewise.bounded,
    Definition.changesNotes_valuewise.bounded, Definition.changesNotes_valuewise.bounded,
    Definition.bounded_plain Transform.length_mirror_le,
    fun _ _ _ _ ran => few (Transform.length_copiesBy_le ran),
    Definition.changesNotes_quantize.bounded,
    Definition.bounded_plain ?reverse,
    fun _ _ _ _ ran => same (Transform.length_rotateBy ran),
    fun _ _ _ _ ran => same (Transform.length_sparse ran),
    Definition.bounded_plain ?interleave, ?none⟩
  case scramble =>
    intro s t param g ran
    have shuffled : (g.shuffle s).1 = t := Except.ok.inj ran
    exact same (shuffled ▸ (Twister.shuffle_perm g s).length_eq)
  case reverse =>
    intro s
    rw [List.length_reverse]
    omega
  case interleave =>
    intro s
    exact Nat.le_of_eq (Transform.length_interleave s)
  case none =>
    exact List.forall_mem_nil _

theorem Bounded.length_call_le {r : Registry} (bounded : r.Bounded) (loud : Bool) (call : Call)
    (param : Value) {s : Sequence} (g : Twister) (short : s.length ≤ maxSteps) :
    (r.call loud call param s g).sequence.length ≤ 2 * maxSteps := by
  rcases r.call_sequence loud call param s g with same | ⟨entry, among, given, ran⟩
  · rw [same]
    omega
  · have := bounded entry among _ _ _ _ ran
    omega

end Registry

/-! ## Where an evaluation comes to -/

namespace Progress

variable {p : Progress} {loud : Bool} {token : String} {piece : Sequence} {count : Nat}

theorem size_append_copies (sequence : Array Value) (piece : Sequence) (count : Nat) :
    (sequence ++ (List.replicate count piece).flatten).size =
      sequence.size + piece.length * count := by
  rw [← Array.length_toList, Array.toList_appendList, List.length_append, Array.length_toList,
    List.length_flatten, List.map_replicate, List.sum_replicate_nat, Nat.mul_comm]

/-- A step keeps the sequence within the limit. -/
theorem size_add_le (short : p.sequence.size ≤ maxSteps) :
    (p.add loud token piece count).sequence.size ≤ maxSteps := by
  unfold add
  split
  · exact short
  · rename_i fits
    rw [size_append_copies]
    exact Nat.le_of_not_lt fits

/-- The copies of a piece are put behind a sequence only where all of it is within the limit. -/
theorem size_le_of_add_eq (short : p.sequence.size ≤ maxSteps)
    (formed : (p.add loud token piece count).sequence =
      p.sequence ++ (List.replicate count piece).flatten) :
    p.sequence.size + piece.length * count ≤ maxSteps := by
  rw [← size_append_copies, ← formed]
  exact size_add_le short

end Progress

namespace Token

/-- `Reaches c p tokens q rest`: an evaluation of tokens from some progress on comes to where `rest`
is still to be evaluated from the progress `q`, at its own level or inside a bracket. -/
inductive Reaches (c : Setting) : Progress → List Token → Progress → List Token → Prop where
  | here (p : Progress) (tokens : List Token) : Reaches c p tokens p tokens
  | further {p q : Progress} {token : Token} {tokens rest : List Token} {piece : Sequence}
      {log : Log} {source : Twister}
      (evaluated : steps c p.log p.source token = (.ok piece, log, source))
      (later : Reaches c
        (Progress.add { p with log, source } c.loud token.formName piece token.count) tokens q
        rest) : Reaches c p (token :: tokens) q rest
  | inside {p q : Progress} {call : Option Call} {inner : Text} {children : List Token}
      {count : Option Nat} {tokens rest : List Token}
      (deeper : Reaches c (.start p.log p.source) children q rest) :
      Reaches c p (.bracket call inner children count :: tokens) q rest

/-- `Ends c p tokens s`: an evaluation that tokens come to, their own or that of a bracket inside
them, ends with a sequence. -/
def Ends (c : Setting) (p : Progress) (tokens : List Token) (s : Sequence) : Prop :=
  ∃ q, Reaches c p tokens q [] ∧ q.sequence.toList = s

/-- `Repeats c p tokens before piece count`: on the way the copies of a piece are put behind a
sequence. -/
def Repeats (c : Setting) (p : Progress) (tokens : List Token) (before piece : Sequence)
    (count : Nat) : Prop :=
  ∃ q token rest log source, Reaches c p tokens q (token :: rest) ∧
    steps c q.log q.source token = (.ok piece, log, source) ∧ token.count = count ∧
    q.sequence.toList = before ∧
    (Progress.add { q with log, source } c.loud token.formName piece count).sequence =
      q.sequence ++ (List.replicate count piece).flatten

/-- `Calls c p tokens call input output`: on the way a transform is called on a sequence, and gives
another one. -/
def Calls (c : Setting) (p : Progress) (tokens : List Token) (call : Call)
    (input output : Sequence) : Prop :=
  ∃ q inner children count rest inside,
    Reaches c p tokens q (.bracket (some call) inner children count :: rest) ∧
    evaluateFrom c (.start q.log q.source) children = (.ok (), inside) ∧
    inside.sequence.toList = input ∧
    (c.registry.call c.loud call .none input inside.source).sequence = output

section

variable {c : Setting} {p : Progress} {tokens : List Token}

theorem Reaches.trans {q r : Progress} {rest others : List Token}
    (first : Reaches c p tokens q rest) (second : Reaches c q rest r others) :
    Reaches c p tokens r others := by
  induction first with
  | here => exact second
  | further evaluated _ ih => exact .further evaluated (ih second)
  | inside _ ih => exact .inside (ih second)

/-- An evaluation that ends without a fault comes to its end. -/
theorem reaches_of_evaluateFrom {q : Progress}
    (evaluated : evaluateFrom c p tokens = (.ok (), q)) : Reaches c p tokens q [] := by
  induction tokens generalizing p with
  | nil =>
      cases evaluated
      exact .here _ []
  | cons token tokens ih =>
      rw [evaluateFrom] at evaluated
      split at evaluated
      · cases evaluated
      · rename_i piece log source first
        exact .further first (ih evaluated)

/-- **Wherever an evaluation comes to, its sequence keeps to the step limit.** -/
theorem Reaches.size_le {q : Progress} {rest : List Token} (reached : Reaches c p tokens q rest)
    (short : p.sequence.size ≤ maxSteps) : q.sequence.size ≤ maxSteps := by
  induction reached with
  | here => exact short
  | further _ _ ih => exact ih (Progress.size_add_le short)
  | inside _ ih => exact ih (Nat.zero_le _)

theorem Ends.length_le {s : Sequence} (ends : Ends c p tokens s)
    (short : p.sequence.size ≤ maxSteps) : s.length ≤ maxSteps := by
  obtain ⟨q, reached, rfl⟩ := ends
  exact reached.size_le short

theorem Repeats.length_le {before piece : Sequence} {count : Nat}
    (repeats : Repeats c p tokens before piece count) (short : p.sequence.size ≤ maxSteps) :
    before.length + piece.length * count ≤ maxSteps := by
  obtain ⟨q, token, rest, log, source, reached, -, -, rfl, formed⟩ := repeats
  have within : q.sequence.size ≤ maxSteps := reached.size_le short
  exact @Progress.size_le_of_add_eq { q with log, source } _ _ _ _ within formed

/-- What is called on a sequence is called on one that an evaluation ends with. -/
theorem Calls.ends {call : Call} {input output : Sequence}
    (calls : Calls c p tokens call input output) : Ends c p tokens input := by
  obtain ⟨q, _, _, _, _, inside, reached, evaluated, handed, -⟩ := calls
  exact ⟨inside, reached.trans (.inside (reaches_of_evaluateFrom evaluated)), handed⟩

theorem Calls.length_le {call : Call} {input output : Sequence}
    (calls : Calls c p tokens call input output) (bounded : c.registry.Bounded)
    (short : p.sequence.size ≤ maxSteps) :
    input.length ≤ maxSteps ∧ output.length ≤ 2 * maxSteps := by
  have within := calls.ends.length_le short
  obtain ⟨_, _, _, _, _, inside, -, -, -, rfl⟩ := calls
  exact ⟨within, bounded.length_call_le _ _ _ _ within⟩

end

end Token

/-! ## Compilations -/

theorem length_normalizeFrom {restSymbol : Text} {done steps : List Step} {values : List Value}
    (normal : normalizeFrom restSymbol done values = .ok steps) :
    steps.length = done.length + values.length := by
  obtain ⟨later, each, rfl⟩ := normalizeFrom_eq_ok_iff.1 normal
  rw [List.length_append, List.length_reverse, each.length_eq]

/-- The last touch of a compilation keeps the length. -/
theorem CompileSettings.length_finish {s : CompileSettings} {sequence finished : Sequence}
    (touched : s.finish sequence = .ok finished) : finished.length = sequence.length := by
  unfold finish at touched
  split at touched
  · cases normal : StepPattern.normalize s.restSymbol sequence with
    | error fault =>
        rw [normal] at touched
        cases touched
    | ok steps =>
        rw [normal] at touched
        cases touched
        rw [List.length_map, length_normalizeFrom normal, List.length_nil, Nat.zero_add]
  · cases touched
    rfl

theorem CompileSettings.length_finished_le (s : CompileSettings) (sequence : Sequence) :
    (s.finished sequence).length ≤ sequence.length := by
  unfold finished
  split
  · rename_i touched
    exact Nat.le_of_eq (length_finish touched)
  · exact Nat.zero_le _

theorem Tree.ends_of_evaluate {c : Setting} {tokens : List Token} {source : Twister}
    {s : Sequence} (evaluated : (evaluate c tokens source).result = .ok s) :
    Token.Ends c (.start [] source) tokens s := by
  unfold evaluate at evaluated
  split at evaluated
  · cases evaluated
  · rename_i q ended
    cases evaluated
    exact ⟨q, Token.reaches_of_evaluateFrom ended, rfl⟩

theorem length_compileText_le (r : Registry) (s : CompileSettings) (t : Text) (source : Twister) :
    (compileText r s t source).sequence.length ≤ maxSteps := by
  obtain ⟨_, evaluated⟩ := Tree.evaluate_eq s r (Tree.parse_readable s t 0) source
  obtain ⟨_, compiled⟩ := compileText_eq r s t source
  rw [compiled]
  exact Nat.le_trans (s.length_finished_le _)
    ((Tree.ends_of_evaluate (congrArg (·.result) evaluated)).length_le (Nat.zero_le _))

theorem length_compileChecked_le {r : Registry} {s : CompileSettings} {pattern : Value}
    {source : Option Twister} {host : Host} {compiled : Compiled}
    (answered : compileChecked r s pattern source host = .ok compiled) :
    compiled.sequence.length ≤ maxSteps := by
  by_cases usable : pattern.IsPattern
  · obtain ⟨t, nonempty, rfl⟩ := usable.exists_text
    cases source with
    | some source =>
        rw [compileChecked_text_some r s nonempty] at answered
        cases answered
        exact length_compileText_le r s t source
    | none =>
        rw [compileChecked_text_none r s nonempty] at answered
        obtain ⟨start, -, rfl⟩ := map_eq_ok_iff.1 answered
        exact length_compileText_le r s t start
  · rw [compileChecked_of_not_isPattern r s usable] at answered
    obtain ⟨shown, -, rfl⟩ := map_eq_ok_iff.1 answered
    exact Nat.zero_le _

theorem length_compile_le {r : Registry} {given : Given CompileSettings} {pattern : Value}
    {source : Option Twister} {host : Host} {compiled : Compiled}
    (answered : compile r given pattern source host = .ok compiled) :
    compiled.sequence.length ≤ maxSteps := by
  rcases compile_answered r answered with ⟨s, -, answered⟩ | ⟨loud, error, rfl⟩
  · exact length_compileChecked_le answered
  · exact Nat.zero_le _

/-- **Size limits hold everywhere.**  Whatever tokens are evaluated, with any settings, registry and
source: each sequence that an evaluation ends with, at any level, keeps to the step limit, and
copies are put behind a sequence only where all of it is within the limit.  With the built-in
transforms, what is handed to a transform keeps to the limit, and what it gives to twice of it.  So
whatever request is answered, the compiled sequence keeps to the limit. -/
theorem compile_within_limits (r : Registry) (s : CompileSettings) (tokens : List Token)
    (source : Twister) :
    (∀ sequence, (Tree.evaluate (s.setting r) tokens source).result = .ok sequence →
      Token.Ends (s.setting r) (.start [] source) tokens sequence) ∧
    (∀ sequence, Token.Ends (s.setting r) (.start [] source) tokens sequence →
      sequence.length ≤ maxSteps) ∧
    (∀ before piece count,
      Token.Repeats (s.setting r) (.start [] source) tokens before piece count →
        before.length + piece.length * count ≤ maxSteps) ∧
    (∀ call input output,
      Token.Calls (s.setting .builtin) (.start [] source) tokens call input output →
        input.length ≤ maxSteps ∧ output.length ≤ 2 * maxSteps) ∧
    ∀ host given pattern start compiled, compile r given pattern start host = .ok compiled →
      compiled.sequence.length ≤ maxSteps := by
  have nothing : (Progress.start [] source).sequence.size ≤ maxSteps := Nat.zero_le _
  refine ⟨?ends, ?level, ?copies, ?calls, ?answer⟩
  case ends =>
    intro sequence evaluated
    exact Tree.ends_of_evaluate evaluated
  case level =>
    intro sequence ends
    exact ends.length_le nothing
  case copies =>
    intro before piece count repeats
    exact repeats.length_le nothing
  case calls =>
    intro call input output calls
    exact calls.length_le Registry.builtin_bounded nothing
  case answer =>
    intro host given pattern start compiled answered
    exact length_compile_le answered

/-- A mirrored bracket, repeated: the call, the copies, the end and the compiled sequence. -/
theorem compile_within_limits_mirrored :
    ∃ (tokens : List Token) (input output : Sequence) (compiled : Compiled),
      Tree.parse .default "mirror[1 -*3]*2".toList 0 = { tokens, log := [] } ∧
      input = [.note 1, .rest, .rest, .rest] ∧
      output = [.note 1, .rest, .rest, .rest, .rest, .rest, .note 1] ∧
      Token.Calls (CompileSettings.default.setting .builtin) (.start [] (.ofSeed 0)) tokens
        ⟨"mirror".toList, none⟩ input output ∧
      (input.length ≤ maxSteps ∧ output.length ≤ 2 * maxSteps) ∧
      Token.Repeats (CompileSettings.default.setting .builtin) (.start [] (.ofSeed 0)) tokens
        [] output 2 ∧
      ([] : Sequence).length + output.length * 2 ≤ maxSteps ∧
      (Tree.evaluate (CompileSettings.default.setting .builtin) tokens (.ofSeed 0)).result =
        .ok (output ++ output) ∧
      Token.Ends (CompileSettings.default.setting .builtin) (.start [] (.ofSeed 0)) tokens
        (output ++ output) ∧
      (output ++ output).length ≤ maxSteps ∧
      compile .builtin (.checked .default) (.text "mirror[1 -*3]*2".toList) (some (.ofSeed 0)) =
        .ok compiled ∧
      compiled.sequence.length ≤ maxSteps := by
  -- Nothing is drawn, so the source need not be computed.
  generalize Twister.ofSeed 0 = g
  obtain ⟨ended, level, copies, calls, answer⟩ := compile_within_limits .builtin .default
    [.bracket (some ⟨"mirror".toList, none⟩) "1 -*3".toList [.literal ['1'], .repeated ['-'] 3]
      (some 2)] g
  have inside : Token.evaluateFrom (CompileSettings.default.setting .builtin) (.start [] g)
      [.literal ['1'], .repeated ['-'] 3] =
        (.ok (), ⟨#[.note 1, .rest, .rest, .rest], [], g⟩) := rfl
  have once : Token.steps (CompileSettings.default.setting .builtin) [] g
      (.bracket (some ⟨"mirror".toList, none⟩) "1 -*3".toList [.literal ['1'], .repeated ['-'] 3]
        (some 2)) =
        (.ok [.note 1, .rest, .rest, .rest, .rest, .rest, .note 1], [], g) := rfl
  have formed : (Progress.add { Progress.start [] g with log := [], source := g } false
      "TransformCall" [.note 1, .rest, .rest, .rest, .rest, .rest, .note 1] 2).sequence =
        (Progress.start [] g).sequence ++ (List.replicate 2
          [Value.note 1, .rest, .rest, .rest, .rest, .rest, .note 1]).flatten := by
    rw [Progress.add, if_neg]
    show ¬0 + 7 * 2 > maxSteps
    decide
  have called : Token.Calls (CompileSettings.default.setting .builtin) (.start [] g)
      [.bracket (some ⟨"mirror".toList, none⟩) "1 -*3".toList [.literal ['1'], .repeated ['-'] 3]
        (some 2)] ⟨"mirror".toList, none⟩ [.note 1, .rest, .rest, .rest]
      [.note 1, .rest, .rest, .rest, .rest, .rest, .note 1] :=
    ⟨_, _, _, _, _, _, .here _ _, inside, rfl, rfl⟩
  have copied : Token.Repeats (CompileSettings.default.setting .builtin) (.start [] g)
      [.bracket (some ⟨"mirror".toList, none⟩) "1 -*3".toList [.literal ['1'], .repeated ['-'] 3]
        (some 2)] [] [.note 1, .rest, .rest, .rest, .rest, .rest, .note 1] 2 :=
    ⟨_, _, _, _, _, .here _ _, once, rfl, rfl, formed⟩
  have evaluated : (Tree.evaluate (CompileSettings.default.setting .builtin)
      [.bracket (some ⟨"mirror".toList, none⟩) "1 -*3".toList [.literal ['1'], .repeated ['-'] 3]
        (some 2)] g).result = .ok ([.note 1, .rest, .rest, .rest, .rest, .rest, .note 1] ++
          [.note 1, .rest, .rest, .rest, .rest, .rest, .note 1]) := rfl
  have ends := ended _ evaluated
  obtain ⟨_, answered⟩ := compile_builtin_eq .default "mirror[1 -*3]*2".toList g
  have short := answer _ _ _ _ _ answered
  exact ⟨_, _, _, _, rfl, rfl, rfl, called, calls _ _ _ called, copied, copies _ _ _ copied,
    evaluated, ends, level _ ends, answered, short⟩

end StepPattern
