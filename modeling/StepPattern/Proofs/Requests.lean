/-
# StepPattern.Proofs.Requests -- which requests get no answer

A request comes with settings that may be loose, any value for a pattern, and
perhaps a source.  Unusable settings and an unusable pattern are answered by an
empty sequence and a diagnostic, and a pattern text is always compiled.  These
requests get no answer (`compile_eq_error_iff`):

* a pattern text without a source, where the seed of the settings is no seed: the
  source is made of it before anything is guarded;
* a pattern that cannot be used and has an obstacle, an integer beyond the digit
  limit or parts nested too deep: its diagnostic cannot be written;
* a mapping for settings with keys that are numbers without an order, or with a depth
  limit that is nested too deep (`CompileSettings.Escapes`): what goes wrong is no
  refusal and nothing of a wrong kind, and nothing else is answered.
-/
import Mathlib.Data.List.Basic
import StepPattern.Compilation
import StepPattern.Proofs.Fields

namespace StepPattern

set_option autoImplicit false

/-! ## Seeds -/

/-- Whether a value can be a seed. -/
def Value.isSeed : Value → Bool
  | .none | .bool _ | .int _ | .double _ | .bytes _ | .text _ => true
  | _ => false

theorem Twister.ofSeedValue_eq_error_iff {v : Value} {host : Host} {fault : Fault} :
    ofSeedValue v host = .error fault ↔ v.isSeed = false ∧ fault = .wrongKind := by
  cases v with
  | double d =>
      simp only [ofSeedValue, Value.isSeed]
      cases d.hash? <;> simp
  | _ => simp [ofSeedValue, Value.isSeed, eq_comm]

/-! ## Settings that escape -/

namespace CompileSettings

/-- How a mapping for settings escapes: it gives none and is not unusable either. -/
inductive Escapes (host : Host) (entries : Entries) : Fault → Prop
  /-- The order of two unknown keys is undefined. -/
  | keys (unsorted : (schema host).Unsorted host (entries.map (·.1))) :
      Escapes host entries .undefined
  /-- All keys are known, and the depth limit is nested too deep to be shown. -/
  | depth {v : Value} (known : ∀ entry ∈ entries, ∃ field ∈ default.fields, entry.1 = .text field.1)
      (given : entries.get? (.text "max_recursion_depth".toList) = some v)
      (deep : (v.obstacles host.room).head? = some Value.tooDeep) :
      Escapes host entries Value.tooDeep

/-- The default of the depth limit can be shown. -/
theorem obstacles_effective {fields : Fields} {room : Option Nat} {fault : Fault}
    (other : fault.isRefusal = false) :
    ((schema.effective fields "max_recursion_depth").obstacles room).head? = some fault ↔
      ∃ v, fields.get? "max_recursion_depth".toList = some v ∧
        (v.obstacles room).head? = some fault := by
  have default : schema.defaults.get? "max_recursion_depth".toList = some (.int 10) := rfl
  rw [Schema.effective, default]
  cases fields.get? "max_recursion_depth".toList with
  | some v => simp
  | none =>
      refine iff_of_false (fun met => ?_) (by simp)
      rw [Value.mem_tooLong (List.mem_of_head? met)] at other
      cases other

theorem Escapes.isUnusable_eq {host : Host} {entries : Entries} {fault : Fault}
    (escapes : Escapes host entries fault) : fault.isUnusable = false := by
  cases escapes <;> rfl

theorem Escapes.ofValue_eq {host : Host} {entries : Entries} {fault : Fault}
    (escapes : Escapes host entries fault) :
    (schema host).ofValue (.dict entries) host = .error fault := by
  cases escapes with
  | keys unsorted =>
      have odd : ∃ entry ∈ entries, ∀ t, entry.1 ≠ .text t := by
        obtain ⟨key, listed, odd⟩ := unsorted.exists_odd
        obtain ⟨entry, among, rfl⟩ := List.mem_map.1 listed
        exact ⟨entry, among, odd⟩
      have trouble := Schema.fault_trouble.2 (.inl ⟨unsorted, rfl⟩)
      exact (Schema.ofValue_dict_eq_error_iff rfl).2 (.inl ⟨odd, trouble⟩)
  | depth known given deep =>
      obtain ⟨fields, rfl⟩ := exists_fields fun entry among =>
        have ⟨field, _, same⟩ := known entry among
        ⟨field.1, same⟩
      rw [Entries.get?_fields] at given
      have built := (build_eq_error_iff rfl).2 ((obstacles_effective rfl).2 ⟨_, given, deep⟩)
      refine (Schema.ofValue_dict_eq_error_iff rfl).2
        (.inr ⟨fields, rfl, List.forall_mem_map.2 fun field among => ?_, built⟩)
      obtain ⟨default, member, same⟩ := known _ (List.mem_map_of_mem among)
      exact ⟨default.2, Value.text.inj same ▸ member⟩

theorem escapes_of_ofValue {host : Host} {entries : Entries} {fault : Fault}
    (failed : (schema host).ofValue (.dict entries) host = .error fault)
    (other : fault.isRefusal = false) (kind : fault ≠ .wrongKind) : Escapes host entries fault := by
  rcases (Schema.ofValue_dict_eq_error_iff other).1 failed with
    ⟨odd, trouble⟩ | ⟨fields, rfl, known, built⟩
  · rcases Schema.fault_trouble.1 trouble with ⟨unsorted, rfl⟩ | ⟨-, wrong⟩
    · exact .keys unsorted
    · exact absurd wrong kind
  · obtain ⟨v, given, met⟩ := (obstacles_effective other).1 ((build_eq_error_iff other).1 built)
    rcases Value.isObstacle_of_mem (List.mem_of_head? met) with rfl | ⟨rfl, -⟩
    · cases other
    · refine .depth (fun entry among => ?_) (Entries.get?_fields.trans given) met
      obtain ⟨field, member, rfl⟩ := List.mem_map.1 among
      obtain ⟨default, known⟩ := known field.1 (List.mem_map_of_mem member)
      exact ⟨_, known, rfl⟩

end CompileSettings

theorem Fault.isUnusable_eq_false_iff {fault : Fault} :
    fault.isUnusable = false ↔ fault.isRefusal = false ∧ fault ≠ .wrongKind := by
  cases fault <;> simp [isUnusable, isRefusal]

/-- **Which settings escape**: mappings that do. -/
theorem Given.compileSettings_escapes_iff {given : Given CompileSettings} {host : Host}
    {fault : Fault} :
    given.compileSettings host = .error fault ∧ fault.isUnusable = false ↔
      ∃ entries, given = .loose (.dict entries) ∧ CompileSettings.Escapes host entries fault := by
  constructor
  · rintro ⟨failed, escapes⟩
    obtain ⟨other, kind⟩ := Fault.isUnusable_eq_false_iff.1 escapes
    unfold Given.compileSettings at failed
    split at failed
    case h_1 | h_2 => cases failed
    case h_3 entries => exact ⟨entries, rfl, CompileSettings.escapes_of_ofValue failed other kind⟩
    case h_4 =>
      cases failed
      exact absurd rfl kind
  · rintro ⟨entries, rfl, escapes⟩
    exact ⟨escapes.ofValue_eq, escapes.isUnusable_eq⟩

/-! ## Requests without an answer -/

/-- Whether a value is a pattern text. -/
def Value.IsPattern : Value → Prop
  | .text (_ :: _) => True
  | _ => False

theorem Value.IsPattern.exists_text {v : Value} (usable : v.IsPattern) :
    ∃ t : Text, t ≠ [] ∧ v = .text t := by
  cases v with
  | text t =>
      cases t with
      | nil => exact usable.elim
      | cons c t => exact ⟨c :: t, List.cons_ne_nil c t, rfl⟩
  | _ => exact usable.elim

variable (r : Registry) {given : Given CompileSettings} {s : CompileSettings}
  {source : Option Twister} {host : Host}

/-- With settings that are accepted a request is answered as with these settings. -/
theorem compile_of_accepted (accepted : given.compileSettings host = .ok s) (pattern : Value)
    (source : Option Twister) :
    compile r given pattern source host = compileChecked r s pattern source host := by
  unfold compile
  rw [accepted]

/-- An answer is the one of accepted settings, or nothing but a diagnostic. -/
theorem compile_answered {pattern : Value} {compiled : Compiled}
    (answered : compile r given pattern source host = .ok compiled) :
    (∃ s, given.compileSettings host = .ok s ∧
      compileChecked r s pattern source host = .ok compiled) ∨
    ∃ loud error, compiled = .refused loud error source := by
  unfold compile at answered
  cases settings : given.compileSettings host with
  | ok s =>
      rw [settings] at answered
      exact .inl ⟨s, rfl, answered⟩
  | error fault =>
      rw [settings] at answered
      cases unusable : fault.isUnusable with
      | true =>
          simp only [unusable, if_true, Except.ok.injEq] at answered
          exact .inr ⟨_, _, answered.symm⟩
      | false =>
          simp only [unusable, Bool.false_eq_true, if_false, reduceCtorEq] at answered

/-- A pattern text with a source is always answered. -/
theorem compileChecked_text_some (s : CompileSettings) {t : Text} (nonempty : t ≠ [])
    (source : Twister) :
    compileChecked r s (.text t) (some source) host =
      .ok ⟨(compileText r s t source).sequence, (compileText r s t source).log,
        some (compileText r s t source).source⟩ := by
  obtain ⟨c, t, rfl⟩ := List.exists_cons_of_ne_nil nonempty
  rfl

/-- A pattern text without a source is answered if the seed gives one. -/
theorem compileChecked_text_none (s : CompileSettings) {t : Text} (nonempty : t ≠ []) :
    compileChecked r s (.text t) none host =
      (Twister.ofSeedValue s.seed host).map fun source =>
        ⟨(compileText r s t source).sequence, (compileText r s t source).log, none⟩ := by
  obtain ⟨c, t, rfl⟩ := List.exists_cons_of_ne_nil nonempty
  rw [compileChecked]
  cases Twister.ofSeedValue s.seed host <;> rfl

/-- A pattern text that never draws is answered alike from any source, and leaves it as it was. -/
theorem compileChecked_of_drawless {t : Text} {sequence : Sequence} {log : Log} (nonempty : t ≠ [])
    (compiled : ∀ start, compileText r s t start = ⟨sequence, log, start⟩)
    (seeded : source = none → ∃ start, Twister.ofSeedValue s.seed host = .ok start) :
    compileChecked r s (.text t) source host = .ok ⟨sequence, log, source⟩ := by
  cases source with
  | some source => rw [compileChecked_text_some r s nonempty, compiled]
  | none =>
      obtain ⟨start, seed⟩ := seeded rfl
      rw [compileChecked_text_none r s nonempty, seed]
      simp only [Except.map, compiled]

/-- Any other pattern is answered if it can be shown. -/
theorem compileChecked_of_not_isPattern (s : CompileSettings) {pattern : Value}
    (other : ¬pattern.IsPattern) (source : Option Twister) :
    compileChecked r s pattern source host =
      (pattern.shown host.room).map fun shown =>
        .refused s.loud (.patternUnusable shown) source := by
  unfold compileChecked
  split
  · exact absurd trivial other
  · cases pattern.shown host.room <;> rfl

theorem compileChecked_eq_error_iff (s : CompileSettings) (pattern : Value)
    (source : Option Twister) (fault : Fault) :
    compileChecked r s pattern source host = .error fault ↔
      (pattern.IsPattern ∧ source = none ∧ s.seed.isSeed = false ∧ fault = .wrongKind) ∨
      (¬pattern.IsPattern ∧ (pattern.obstacles host.room).head? = some fault) := by
  by_cases usable : pattern.IsPattern
  · obtain ⟨t, nonempty, rfl⟩ := usable.exists_text
    cases source with
    | some source =>
        rw [compileChecked_text_some r s nonempty]
        simp [usable]
    | none =>
        rw [compileChecked_text_none r s nonempty, map_eq_error_iff,
          Twister.ofSeedValue_eq_error_iff]
        simp [usable]
  · rw [compileChecked_of_not_isPattern r s usable, map_eq_error_iff, Value.shown_eq_error_iff]
    simp [usable]

/-- **Which requests get no answer.**  A request gets none exactly where its settings escape, where a
pattern text comes without a source and with a seed that is no seed, and where an unusable pattern
has an obstacle to being shown.  All others are answered, whatever the registry does. -/
theorem compile_eq_error_iff (host : Host) (given : Given CompileSettings) (pattern : Value)
    (source : Option Twister) (fault : Fault) :
    compile r given pattern source host = .error fault ↔
      (∃ entries, given = .loose (.dict entries) ∧
        CompileSettings.Escapes host entries fault) ∨
      ∃ s, given.compileSettings host = .ok s ∧
        ((pattern.IsPattern ∧ source = none ∧ s.seed.isSeed = false ∧ fault = .wrongKind) ∨
        (¬pattern.IsPattern ∧ (pattern.obstacles host.room).head? = some fault)) := by
  rw [← Given.compileSettings_escapes_iff]
  unfold compile
  cases given.compileSettings host with
  | ok s => simp only [compileChecked_eq_error_iff, Except.ok.injEq, exists_eq_left', reduceCtorEq,
      false_and, false_or]
  | error cause =>
      simp only [reduceCtorEq, false_and, exists_false, or_false, Except.error.injEq]
      cases unusable : cause.isUnusable with
      | true =>
          refine iff_of_false (fun same => nomatch same) ?_
          rintro ⟨rfl, other⟩
          rw [unusable] at other
          cases other
      | false =>
          refine ⟨fun same => ?_, fun same => congrArg Except.error same.1⟩
          cases same
          exact ⟨rfl, unusable⟩

example :
    compile r (.loose (.dict
      [(.decimal (.nan false false 0), .int 1), (.decimal (.ofInt 1), .int 1)])) (.text ['1']) none =
    .error .undefined := rfl

/-- A list for a seed: the settings are accepted, and the text gets no answer. -/
theorem compile_not_total :
    ¬∀ (r : Registry) (given : Given CompileSettings) (pattern : Value) (source : Option Twister),
      ∃ compiled, compile r given pattern source = .ok compiled := by
  intro total
  obtain ⟨compiled, answered⟩ := total Registry.builtin
    (.loose (.dict [(.text "seed".toList, .list [])])) (.text ['1']) none
  have accepted : (Given.loose (.dict [(.text "seed".toList, .list [])])).compileSettings =
      .ok { CompileSettings.default with seed := .list [] } :=
    CompileSettings.schema.ofValue_single "seed" rfl (.list [])
  have failed : compile Registry.builtin (.loose (.dict [(.text "seed".toList, .list [])]))
      (.text ['1']) none = .error .wrongKind := by
    rw [compile_of_accepted _ accepted]
    exact (compileChecked_eq_error_iff _ _ _ _ _).2 (.inl ⟨trivial, rfl, rfl, rfl⟩)
  rw [failed] at answered
  cases answered

end StepPattern
