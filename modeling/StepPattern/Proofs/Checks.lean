/-
# StepPattern.Proofs.Checks -- which values settings are made of

The settings of a compilation carry their own well-formedness, so values give settings
exactly where they are the fields of some (`CompileSettings.build_eq_ok_iff`).  Random
settings are kept as they are given, and what their checks ask of them is `Valid`.

The checks of random settings are questions asked one after the other
(`RandomSettings.questions`).  A question that is answered with no is a refusal; one that
has no answer, since what it is asked of is no number or cannot be ordered, is a fault of
another kind, and the first of these decides (`RandomSettings.build_eq_error_iff`).
-/
import Mathlib.Data.List.Basic
import StepPattern.Proofs.Keys
import StepPattern.Proofs.Shown
import StepPattern.Settings.Compile
import StepPattern.Settings.Random

namespace StepPattern

set_option autoImplicit false

/-! ## Refusals -/

/-- Whether a fault is the refusal of a setting or of a request. -/
def Fault.isRefusal : Fault → Bool
  | .setting _ => true
  | _ => false

namespace Value

theorem number_eq_ok_iff {v : Value} {n : Number} : v.number = .ok n ↔ v.number? = some n := by
  rw [number]
  split <;> simp [*]

theorem numeral_error {n : Int} {fault : Fault} (failed : numeral n = .error fault) :
    fault = overLimit :=
  mem_tooLong (List.mem_of_head? ((meets_numeral n fault).1 failed))

theorem isRefusal_of_plain {v : Value} {fault : Fault} (failed : v.plain = .error fault) :
    fault.isRefusal = true := by
  have long : fault = overLimit := by
    unfold plain at failed
    split at failed
    · cases failed
    · rcases bind_eq_error_iff.1 failed with above | ⟨_, -, failed⟩
      · exact numeral_error above
      rcases bind_eq_error_iff.1 failed with below | ⟨_, -, failed⟩
      · exact numeral_error below
      · cases failed
    · cases failed
    · exact shown_error failed
  rw [long]
  rfl

end Value

/-! ### Numbers and order -/

namespace Value

theorem isRefusal_number {v : Value} {fault : Fault} (failed : v.number = .error fault) :
    fault.isRefusal = false := by
  rw [number] at failed
  split at failed <;> cases failed
  rfl

end Value

theorem Number.isRefusal_compare {holds : Point → Point → Bool} {a b : Number} {fault : Fault}
    (failed : Number.compare holds a b = .error fault) : fault.isRefusal = false := by
  rw [(compare_eq_error_iff.1 failed).2.2]
  rfl

/-- Values that cannot be ordered are no refusal. -/
theorem Value.isRefusal_before {x y : Value} {fault : Fault} (failed : x.before y = .error fault) :
    fault.isRefusal = false := by
  rcases before_error failed with rfl | rfl <;> rfl

/-! ## Schemas -/

/-- Whether settings are made of effective values: valid ones with these values in their fields, each
field with a default. -/
structure Schema.Describes {α : Type} (schema : Schema α) (fieldsOf : α → Fields)
    (Valid : α → Prop) : Prop where
  build_iff : ∀ value s, schema.build value = .ok s ↔
    Valid s ∧ ∀ field ∈ fieldsOf s, value (Text.string field.1) = field.2
  names : ∀ s, (fieldsOf s).map (·.1) = schema.defaults.map (·.1)
  single : (schema.defaults.map (·.1)).Nodup

theorem Schema.Describes.exists_default {α : Type} {schema : Schema α} {fieldsOf : α → Fields}
    {Valid : α → Prop} (describes : schema.Describes fieldsOf Valid) {s : α} {field : Text × Value}
    (among : field ∈ fieldsOf s) : ∃ default ∈ schema.defaults, default.1 = field.1 :=
  List.mem_map.1 (describes.names s ▸ List.mem_map_of_mem among)

/-! ## Settings of a compilation -/

namespace CompileSettings

variable {host : Host} {value : String → Value}

theorem readDepth_eq_ok_iff {v : Value} {depth : { n : Nat // n ≤ maxDepthLimit }} :
    readDepth host v = .ok depth ↔ v = .int depth.1 := by
  unfold readDepth
  split
  case h_1 n =>
    split
    case isTrue within =>
      rw [Except.ok.injEq, Value.int.injEq, Subtype.ext_iff]
      show n.toNat = depth.1 ↔ n = depth.1
      omega
    case isFalse outside =>
      have := depth.2
      rw [Value.int.injEq]
      exact iff_of_false (fun same => nomatch same) (by omega)
  case h_2 other =>
    refine iff_of_false (fun same => ?_) (other depth.1)
    obtain ⟨_, -, thrown⟩ := bind_eq_ok_iff.1 same
    cases thrown

theorem readRestSymbol_eq_ok_iff {v : Value} {symbol : { t : Text // isRestSymbol t = true }} :
    readRestSymbol v = .ok symbol ↔ v = .text symbol.1 := by
  have allowed := symbol.2
  unfold readRestSymbol
  split
  case h_1 t =>
    rw [Value.text.injEq]
    split
    case isTrue empty =>
      refine iff_of_false (fun same => nomatch same) ?_
      rintro rfl
      simp [isRestSymbol, empty] at allowed
    case isFalse =>
      split
      case isTrue => rw [Except.ok.injEq, Subtype.ext_iff]
      case isFalse forbidden =>
        exact iff_of_false (fun same => nomatch same) fun same => forbidden (same ▸ allowed)
  case h_2 other => exact iff_of_false (fun same => nomatch same) (other symbol.1)

/-- Values give settings exactly where they are the fields of these settings. -/
theorem build_eq_ok_iff {s : CompileSettings} :
    build host value = .ok s ↔ ∀ field ∈ s.fields, value (Text.string field.1) = field.2 := by
  simp only [fields, List.forall_mem_cons, List.not_mem_nil, false_implies, implies_true, and_true,
    Text.string, String.ofList_toList]
  constructor
  · intro built
    obtain ⟨depth, depthRead, built⟩ := bind_eq_ok_iff.1 built
    obtain ⟨symbol, symbolRead, built⟩ := bind_eq_ok_iff.1 built
    cases built
    exact ⟨readDepth_eq_ok_iff.1 depthRead, readRestSymbol_eq_ok_iff.1 symbolRead, rfl, rfl, rfl⟩
  · rintro ⟨depth, symbol, normalize, verbose, seed⟩
    have depthRead : readDepth host (value "max_recursion_depth") = .ok ⟨_, s.depthLimit_le⟩ :=
      readDepth_eq_ok_iff.2 depth
    have symbolRead : readRestSymbol (value "rest_symbol") = .ok ⟨_, s.restSymbol_ok⟩ :=
      readRestSymbol_eq_ok_iff.2 symbol
    simp only [build, depthRead, symbolRead, bind, Except.bind, pure, Except.pure, normalize,
      verbose, seed]

theorem schema_describes (host : Host) : (schema host).Describes fields fun _ => True where
  build_iff _ _ := by
    rw [true_and]
    exact build_eq_ok_iff
  names _ := rfl
  single := by
    show (default.fields.map (·.1)).Nodup
    decide

theorem isRefusal_of_readRestSymbol {v : Value} {fault : Fault}
    (failed : readRestSymbol v = .error fault) : fault.isRefusal = true := by
  unfold readRestSymbol at failed
  split at failed
  · split at failed
    · cases failed
      rfl
    · split at failed <;> cases failed
      rfl
  · cases failed
    rfl

theorem readDepth_eq_error_iff {v : Value} {fault : Fault} (other : fault.isRefusal = false) :
    readDepth host v = .error fault ↔ (v.obstacles host.room).head? = some fault := by
  unfold readDepth
  split
  case h_1 n =>
    refine iff_of_false (fun failed => ?_) fun met => ?_
    · split at failed <;> cases failed
      cases other
    · rw [Value.mem_tooLong (List.mem_of_head? met)] at other
      cases other
  case h_2 =>
    rw [← Value.shown_eq_error_iff]
    refine bind_eq_error_iff.trans (or_iff_left ?_)
    rintro ⟨t, -, thrown⟩
    cases thrown
    cases other

/-- Values that give no settings are refused, unless the depth limit cannot be shown for want of
room. -/
theorem build_eq_error_iff {fault : Fault} (other : fault.isRefusal = false) :
    build host value = .error fault ↔
      ((value "max_recursion_depth").obstacles host.room).head? = some fault := by
  rw [← readDepth_eq_error_iff other]
  refine bind_eq_error_iff.trans (or_iff_left ?_)
  rintro ⟨depth, -, failed⟩
  rcases bind_eq_error_iff.1 failed with symbol | ⟨_, -, built⟩
  · rw [isRefusal_of_readRestSymbol symbol] at other
    cases other
  · cases built

end CompileSettings

/-! ## Random settings -/

/-- Whether a value is a number from 0 to 1. -/
def Value.InUnit (v : Value) : Prop :=
  ∃ n, v.number? = some n ∧ (Number.int 0).le n = .ok true ∧ n.le (.int 1) = .ok true

namespace RandomSettings

variable {value : String → Value}

/-- What is asked of random settings: a length that is a number and not negative, bounds that can be
ordered and are not crossed, and probabilities from 0 to 1. -/
structure Valid (s : RandomSettings) : Prop where
  length : ∃ n, s.length.number? = some n ∧ n.lt (.int 0) = .ok false
  bounds : s.high.before s.low = .ok false
  rest : s.rest.InUnit
  group : s.group.InUnit
  repetition : s.repetition.InUnit

/-- Integers are ordered as such, whatever values they are given by. -/
theorem before_eq {x y : Value} {m n : Int} (first : x.integer? = some m)
    (second : y.integer? = some n) : x.before y = .ok (decide (m < n)) := by
  rw [← Number.lt_int]
  cases x <;> simp only [Value.integer?, Option.some.injEq, reduceCtorEq] at first <;>
    cases y <;> simp only [Value.integer?, Option.some.injEq, reduceCtorEq] at second
  all_goals
    subst first second
    rfl

/-- Integers for bounds of valid settings are in order. -/
theorem Valid.order {s : RandomSettings} {a b : Int} (valid : s.Valid)
    (lowest : s.low.integer? = some a) (highest : s.high.integer? = some b) : a ≤ b := by
  have kept := valid.bounds
  rw [before_eq highest lowest, Except.ok.injEq, decide_eq_false_iff_not, Int.not_lt] at kept
  exact kept

/-- Whether a length is not negative, if it can be told. -/
def lengthKept (length : Value) : Except Fault Bool := do
  return !(← (← length.number).lt (.int 0))

/-- Whether two bounds are not crossed, if it can be told. -/
def boundsKept (low high : Value) : Except Fault Bool := do
  return !(← high.before low)

/-- Whether a value is a probability, if it can be told. -/
def chanceKept (v : Value) : Except Fault Bool := do
  isProbability (← v.number)

/-- What the checks ask, in order. -/
def questions (s : RandomSettings) : List (Except Fault Bool) :=
  [lengthKept s.length, boundsKept s.low s.high, chanceKept s.rest, chanceKept s.group,
    chanceKept s.repetition]

/-- The settings with given values, before they are checked. -/
def ofValues (value : String → Value) : RandomSettings where
  length := value "length"
  low := value "min_value"
  high := value "max_value"
  rest := value "rest_probability"
  group := value "group_probability"
  repetition := value "repetition_probability"
  seed := value "seed"

theorem eq_ofValues_iff {s : RandomSettings} :
    s = ofValues value ↔ ∀ field ∈ s.fields, value (Text.string field.1) = field.2 := by
  simp only [fields, List.forall_mem_cons, List.not_mem_nil, false_implies, implies_true, and_true,
    Text.string, String.ofList_toList]
  constructor
  · rintro rfl
    exact ⟨rfl, rfl, rfl, rfl, rfl, rfl, rfl⟩
  · rintro ⟨length, low, high, rest, group, repetition, seed⟩
    rw [ofValues, length, low, high, rest, group, repetition, seed]

/-! ### Questions and checks -/

/-- How a check ends that asks a question: the answer yes passes, the answer no is refused, and
without an answer the check fails as the question does. -/
inductive Settles : Except Fault Bool → Except Fault Unit → Prop
  | passed : Settles (.ok true) (.ok ())
  | refused {fault : Fault} (refusal : fault.isRefusal = true) : Settles (.ok false) (.error fault)
  | unanswered {fault : Fault} (other : fault.isRefusal = false) :
      Settles (.error fault) (.error fault)

theorem Settles.eq_ok_iff {question : Except Fault Bool} {check : Except Fault Unit}
    (settles : Settles question check) : check = .ok () ↔ question = .ok true := by
  cases settles <;> simp

theorem Settles.eq_error_iff {question : Except Fault Bool} {check : Except Fault Unit}
    (settles : Settles question check) {fault : Fault} (other : fault.isRefusal = false) :
    check = .error fault ↔ question = .error fault := by
  cases settles with
  | passed => simp
  | refused refusal =>
      refine iff_of_false (fun same => ?_) (fun same => nomatch same)
      cases same
      exact absurd refusal (by simp [other])
  | unanswered => simp

theorem Settles.isRefusal_eq {fault : Fault} {check : Except Fault Unit}
    (settles : Settles (.error fault) check) : fault.isRefusal = false := by
  cases settles with
  | unanswered other => exact other

theorem Settles.refuse {shown : Except Fault Text} {wording : Text → Except Fault Unit}
    (unshown : ∀ fault, shown = .error fault → fault.isRefusal = true)
    (refuses : ∀ t, Settles (.ok false) (wording t)) : Settles (.ok false) (shown >>= wording) := by
  cases shown with
  | error fault => exact .refused (unshown fault rfl)
  | ok t => exact refuses t

theorem settles_length (length : Value) : Settles (lengthKept length) (checkLength length) := by
  rw [lengthKept, checkLength]
  cases number : length.number with
  | error fault => exact .unanswered (Value.isRefusal_number number)
  | ok n =>
      cases compared : n.lt (.int 0) with
      | error fault =>
          simp only [bind, Except.bind, compared]
          exact .unanswered (Number.isRefusal_compare compared)
      | ok negative =>
          simp only [bind, Except.bind, compared]
          cases negative with
          | false => exact .passed
          | true => exact .refuse (fun _ => Value.isRefusal_of_plain) fun _ => .refused rfl

theorem settles_bounds (low high : Value) :
    Settles (boundsKept low high) (checkBounds low high) := by
  rw [boundsKept, checkBounds]
  cases compared : high.before low with
  | error fault => exact .unanswered (Value.isRefusal_before compared)
  | ok crossed =>
      cases crossed with
      | false => exact .passed
      | true =>
          exact .refuse (fun _ => Value.isRefusal_of_plain) fun _ =>
            .refuse (fun _ => Value.isRefusal_of_plain) fun _ => .refused rfl

theorem isRefusal_isProbability {n : Number} {fault : Fault}
    (failed : isProbability n = .error fault) : fault.isRefusal = false := by
  rcases bind_eq_error_iff.1 failed with least | ⟨nonnegative, -, failed⟩
  · exact Number.isRefusal_compare least
  · cases nonnegative with
    | false => cases failed
    | true => exact Number.isRefusal_compare failed

theorem settles_chance (field : String) (v : Value) :
    Settles (chanceKept v) (checkProbability field v) := by
  rw [chanceKept, checkProbability]
  cases number : v.number with
  | error fault => exact .unanswered (Value.isRefusal_number number)
  | ok n =>
      simp only [bind, Except.bind]
      cases inside : isProbability n with
      | error fault => exact .unanswered (isRefusal_isProbability inside)
      | ok kept =>
          cases kept with
          | true => exact .passed
          | false => exact .refuse (fun _ => Value.isRefusal_of_plain) fun _ => .refused rfl

/-- Checks made one after the other, up to the first that fails. -/
def makeAll : List (Except Fault Unit) → Except Fault Unit
  | [] => .ok ()
  | check :: checks => do
      check
      makeAll checks

theorem makeAll_eq_ok_iff {questions : List (Except Fault Bool)} {checks : List (Except Fault Unit)}
    (settle : List.Forall₂ Settles questions checks) :
    makeAll checks = .ok () ↔ ∀ question ∈ questions, question = .ok true := by
  induction settle with
  | nil => simp [makeAll]
  | @cons question check questions checks first _ ih =>
      rw [List.forall_mem_cons, ← ih, ← first.eq_ok_iff, makeAll, bind_eq_ok_iff]
      exact ⟨fun ⟨(), passed, later⟩ => ⟨passed, later⟩, fun ⟨passed, later⟩ => ⟨(), passed, later⟩⟩

/-- The first question without an answer decides, if those before it are answered with yes. -/
theorem makeAll_eq_error_iff {questions : List (Except Fault Bool)}
    {checks : List (Except Fault Unit)} (settle : List.Forall₂ Settles questions checks)
    {fault : Fault} (other : fault.isRefusal = false) :
    makeAll checks = .error fault ↔ ∃ before after, questions = before ++ .error fault :: after ∧
      ∀ question ∈ before, question = .ok true := by
  induction settle with
  | nil => simp [makeAll]
  | @cons question check questions checks first _ ih =>
      rw [makeAll, bind_eq_error_iff, first.eq_error_iff other]
      constructor
      · rintro (rfl | ⟨_, passed, later⟩)
        · exact ⟨[], questions, rfl, nofun⟩
        · obtain ⟨before, after, rfl, kept⟩ := ih.1 later
          exact ⟨question :: before, after, rfl,
            List.forall_mem_cons.2 ⟨first.eq_ok_iff.1 passed, kept⟩⟩
      · rintro ⟨before, after, parts, kept⟩
        cases before with
        | nil =>
            cases parts
            exact .inl rfl
        | cons answered before =>
            cases parts
            obtain ⟨yes, kept⟩ := List.forall_mem_cons.1 kept
            exact .inr ⟨(), first.eq_ok_iff.2 yes, ih.2 ⟨before, after, rfl, kept⟩⟩

/-! ### Settings from values -/

def checks (s : RandomSettings) : List (Except Fault Unit) :=
  [checkLength s.length, checkBounds s.low s.high, checkProbability "rest_probability" s.rest,
    checkProbability "group_probability" s.group,
    checkProbability "repetition_probability" s.repetition]

theorem settle_checks (s : RandomSettings) : List.Forall₂ Settles s.questions s.checks :=
  .cons (settles_length _) (.cons (settles_bounds _ _) (.cons (settles_chance _ _)
    (.cons (settles_chance _ _) (.cons (settles_chance _ _) .nil))))

theorem build_eq_checks : build value =
    (makeAll (ofValues value).checks).map fun _ => ofValues value := by
  simp only [build, checks, ofValues, makeAll, bind, pure, Except.pure]
  cases checkLength (value "length") <;> [rfl; skip]
  cases checkBounds (value "min_value") (value "max_value") <;> [rfl; skip]
  cases checkProbability "rest_probability" (value "rest_probability") <;> [rfl; skip]
  cases checkProbability "group_probability" (value "group_probability") <;> [rfl; skip]
  cases checkProbability "repetition_probability" (value "repetition_probability") <;> rfl

theorem lengthKept_eq_true_iff {length : Value} : lengthKept length = .ok true ↔
    ∃ n, length.number? = some n ∧ n.lt (.int 0) = .ok false := by
  simp only [lengthKept, bind_eq_ok_iff, Value.number_eq_ok_iff, pure, Except.pure,
    Except.ok.injEq, Bool.not_eq_true', exists_eq_right]

theorem boundsKept_eq_true_iff {low high : Value} : boundsKept low high = .ok true ↔
    high.before low = .ok false := by
  simp only [boundsKept, bind_eq_ok_iff, pure, Except.pure, Except.ok.injEq, Bool.not_eq_true',
    exists_eq_right]

theorem isProbability_eq_true_iff {n : Number} : isProbability n = .ok true ↔
    (Number.int 0).le n = .ok true ∧ n.le (.int 1) = .ok true := by
  rw [isProbability, bind_eq_ok_iff]
  constructor
  · rintro ⟨nonnegative, least, most⟩
    cases nonnegative with
    | false => cases most
    | true => exact ⟨least, most⟩
  · rintro ⟨least, most⟩
    exact ⟨true, least, most⟩

theorem chanceKept_eq_true_iff {v : Value} : chanceKept v = .ok true ↔ v.InUnit := by
  simp only [chanceKept, bind_eq_ok_iff, Value.number_eq_ok_iff, isProbability_eq_true_iff,
    Value.InUnit]

theorem valid_iff {s : RandomSettings} :
    s.Valid ↔ ∀ question ∈ s.questions, question = .ok true := by
  simp only [questions, List.forall_mem_cons, List.not_mem_nil, false_implies, implies_true,
    and_true, lengthKept_eq_true_iff, boundsKept_eq_true_iff, chanceKept_eq_true_iff]
  exact ⟨fun ⟨length, bounds, rest, group, repetition⟩ => ⟨length, bounds, rest, group, repetition⟩,
    fun ⟨length, bounds, rest, group, repetition⟩ => ⟨length, bounds, rest, group, repetition⟩⟩

/-- Values that pass all checks are the settings. -/
theorem build_of_checks (passed : makeAll (ofValues value).checks = .ok ()) :
    build value = .ok (ofValues value) := by
  rw [build_eq_checks, passed]
  rfl

/-- Values give settings exactly where they are the fields of valid ones. -/
theorem build_eq_ok_iff {s : RandomSettings} : build value = .ok s ↔
    s.Valid ∧ ∀ field ∈ s.fields, value (Text.string field.1) = field.2 := by
  rw [build_eq_checks, map_eq_ok_iff, ← eq_ofValues_iff]
  constructor
  · rintro ⟨_, passed, rfl⟩
    exact ⟨valid_iff.2 ((makeAll_eq_ok_iff (settle_checks _)).1 passed), rfl⟩
  · rintro ⟨valid, rfl⟩
    exact ⟨(), (makeAll_eq_ok_iff (settle_checks _)).2 (valid_iff.1 valid), rfl⟩

theorem schema_describes : schema.Describes fields Valid where
  build_iff _ _ := build_eq_ok_iff
  names _ := rfl
  single := by decide

/-- Whether some question has no answer but a fault, and those before it are answered with yes. -/
def Stuck (s : RandomSettings) (fault : Fault) : Prop :=
  ∃ before after, s.questions = before ++ .error fault :: after ∧
    ∀ question ∈ before, question = .ok true

/-- A fault other than a refusal is that of the first question without an answer. -/
theorem build_eq_error_iff {fault : Fault} (other : fault.isRefusal = false) :
    build value = .error fault ↔ (ofValues value).Stuck fault := by
  rw [build_eq_checks, map_eq_error_iff, makeAll_eq_error_iff (settle_checks _) other, Stuck]

/-- A question without an answer is never refused. -/
theorem Stuck.isRefusal_eq {s : RandomSettings} {fault : Fault} (stuck : s.Stuck fault) :
    fault.isRefusal = false := by
  obtain ⟨before, after, parts, -⟩ := stuck
  have among : .error fault ∈ s.questions := by
    rw [parts]
    exact List.mem_append_right before List.mem_cons_self
  simp only [questions, List.mem_cons, List.not_mem_nil, or_false] at among
  rcases among with length | bounds | rest | group | repetition
  · exact (length ▸ settles_length s.length).isRefusal_eq
  · exact (bounds ▸ settles_bounds s.low s.high).isRefusal_eq
  · exact (rest ▸ settles_chance "rest_probability" s.rest).isRefusal_eq
  · exact (group ▸ settles_chance "group_probability" s.group).isRefusal_eq
  · exact (repetition ▸ settles_chance "repetition_probability" s.repetition).isRefusal_eq

end RandomSettings

end StepPattern
