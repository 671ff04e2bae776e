/-
# StepPattern.Proofs.RandomFaults -- what goes wrong with a random sequence from a configuration

Most of what is wrong with the settings of a configuration is refused, and a refusal is an
answer.  Other faults come from few places.  Settings of a compilation have two: a section
that no fields can be made of (`Config.Unusable`), and a depth limit that is nested too deep
to be shown (`Config.compileSettings_eq_error_iff`).  Random settings have the first too, and
a check that cannot be answered (`Config.randomSettings_eq_error_iff`).

A random sequence of settings that passed their checks can still fail
(`randomSteps_eq_error_iff`): its seed may be no seed, a slot may fail, or its length may have
no end (`RandomSettings.draw_eq_error_iff`).  With integers for the length and the bounds and
probabilities that are no decimals, only the seed is left
(`randomSteps_eq_error_iff_of_typed`).
-/
import StepPattern.Proofs.FailingDraws
import StepPattern.Proofs.Layers
import StepPattern.Proofs.Requests

namespace StepPattern

set_option autoImplicit false

/-! ## Sections that cannot be used -/

namespace Config

/-- How no fields can be made of a section: it is nothing that a mapping can be made of, or a mapping
with a key that is no text.  In the second case the unknown keys are put in order and listed, and the
order of two keys may be undefined. -/
inductive Unusable {α : Type} (host : Host) (schema : Schema α) (config : Entries)
    (overrides : Fields) (name : Text) : Fault → Prop
  | kind (failed : sectionEntries config name = .error .wrongKind) :
      Unusable host schema config overrides name .wrongKind
  | key {entries : Entries} {entry : Value × Value}
      (given : sectionEntries config name = .ok entries) (among : entry ∈ entries)
      (other : ∀ key, entry.1 ≠ .text key)
      (defined : ¬schema.Unsorted host (keys entries overrides.given)) :
      Unusable host schema config overrides name .wrongKind
  | keys {entries : Entries} {entry : Value × Value}
      (given : sectionEntries config name = .ok entries) (among : entry ∈ entries)
      (other : ∀ key, entry.1 ≠ .text key)
      (unsorted : schema.Unsorted host (Config.keys entries overrides.given)) :
      Unusable host schema config overrides name .undefined

theorem pair_error {index : Nat} {items : List Value} {fault : Fault}
    (failed : pair index items = .error fault) : fault.isRefusal = true ∨ fault = .wrongKind := by
  unfold pair at failed
  split at failed
  · split at failed <;> cases failed
    exact .inr rfl
  · cases failed
    exact .inl rfl

theorem pairItems_error {v : Value} {fault : Fault} (failed : pairItems v = .error fault) :
    fault = .wrongKind := by
  unfold pairItems at failed
  split at failed <;> cases failed
  rfl

theorem pairs_error {items : List Value} {done : Entries} {index : Nat} {fault : Fault}
    (failed : pairs done index items = .error fault) :
    fault.isRefusal = true ∨ fault = .wrongKind := by
  induction items generalizing done index with
  | nil => cases failed
  | cons v items ih =>
      rcases bind_eq_error_iff.1 failed with other | ⟨parts, -, failed⟩
      · exact .inr (pairItems_error other)
      rcases bind_eq_error_iff.1 failed with odd | ⟨⟨key, entry⟩, -, failed⟩
      · exact pair_error odd
      · exact ih failed

/-- What is wrong with a section is refused, or it is of a wrong kind. -/
theorem sectionEntries_error {config : Entries} {name : Text} {fault : Fault}
    (failed : sectionEntries config name = .error fault) :
    fault.isRefusal = true ∨ fault = .wrongKind := by
  unfold sectionEntries at failed
  split at failed
  · split at failed
    · unfold entries at failed
      split at failed
      · cases failed
      · exact pairs_error failed
      · exact pairs_error failed
      · cases failed
        exact .inr rfl
    · cases failed
  · cases failed

section Settings

variable {α : Type} {host : Host} {schema : Schema α} {config : Entries} {overrides : Fields}
  {name : Text} {fault : Fault}

theorem settings_of_failed (failed : sectionEntries config name = .error fault) :
    settings schema name config overrides host = .error fault := by
  simp only [settings, failed, bind, Except.bind]

theorem Unusable.settings_eq (unusable : Unusable host schema config overrides name fault) :
    settings schema name config overrides host = .error fault := by
  cases unusable with
  | kind failed => exact settings_of_failed failed
  | key given among other defined =>
      rw [settings_of_other_key given among other]
      exact congrArg _ (Schema.fault_trouble.2 (.inr ⟨defined, rfl⟩))
  | keys given among other unsorted =>
      rw [settings_of_other_key given among other]
      exact congrArg _ (Schema.fault_trouble.2 (.inl ⟨unsorted, rfl⟩))

theorem Unusable.isRefusal_eq (unusable : Unusable host schema config overrides name fault) :
    fault.isRefusal = false := by
  cases unusable <;> rfl

/-- A section with a key that is no text is unusable. -/
theorem unusable_of_other_key {entries : Entries} {entry : Value × Value}
    (given : sectionEntries config name = .ok entries) (among : entry ∈ entries)
    (other : ∀ key, entry.1 ≠ .text key) :
    ∃ fault, Unusable host schema config overrides name fault := by
  by_cases unsorted : schema.Unsorted host (keys entries overrides.given)
  · exact ⟨_, .keys given among other unsorted⟩
  · exact ⟨_, .key given among other unsorted⟩

/-- Where settings fail, refusals apart, their section is unusable, or they are built of the effective
values and fail there. -/
theorem unusable_or_built (distinct : (overrides.map (·.1)).Nodup)
    (single : (schema.defaults.map (·.1)).Nodup) (other : fault.isRefusal = false)
    (failed : settings schema name config overrides host = .error fault) :
    Unusable host schema config overrides name fault ∨
      ∃ entries value, sectionEntries config name = .ok entries ∧
        Known schema.defaults entries overrides ∧
        (∀ field ∈ schema.defaults, ∀ v, Effective schema.defaults entries overrides field.1 v ↔
          value (Text.string field.1) = v) ∧ schema.build value = .error fault := by
  cases given : sectionEntries config name with
  | error cause =>
      rw [settings_of_failed given] at failed
      cases failed
      rcases sectionEntries_error given with refused | rfl
      · rw [refused] at other
        cases other
      · exact .inl (.kind given)
  | ok entries =>
      by_cases texts : ∀ entry ∈ entries, ∃ key, entry.1 = .text key
      · by_cases known : Known schema.defaults entries overrides
        · obtain ⟨value, built, effective⟩ := settings_of_known given distinct single known
          exact .inr ⟨entries, value, rfl, known, effective, built ▸ failed⟩
        · obtain ⟨keys, refused⟩ := settings_of_unknown given texts known
          rw [refused] at failed
          cases failed
          cases other
      · push Not at texts
        obtain ⟨entry, among, odd⟩ := texts
        obtain ⟨cause, unusable⟩ := unusable_of_other_key given among odd
        rw [unusable.settings_eq] at failed
        cases failed
        exact .inl unusable

end Settings

section Faults

variable {host : Host} {config : Entries} {overrides : Fields} {fault : Fault}

/-- Settings of a compilation fail, refusals apart, where their section is unusable and where the
depth limit is nested too deep to be shown. -/
theorem compileSettings_eq_error_iff (distinct : (overrides.map (·.1)).Nodup)
    (other : fault.isRefusal = false) :
    compileSettings config overrides host = .error fault ↔
      Unusable host (CompileSettings.schema host) config overrides "compile".toList fault ∨
      ∃ entries v, sectionEntries config "compile".toList = .ok entries ∧
        Known CompileSettings.default.fields entries overrides ∧
        Effective CompileSettings.default.fields entries overrides "max_recursion_depth".toList v ∧
        (v.obstacles host.room).head? = some fault := by
  have single := (CompileSettings.schema_describes host).single
  have depth : ("max_recursion_depth".toList, Value.int 10) ∈ CompileSettings.default.fields :=
    .head _
  constructor
  · intro failed
    rcases unusable_or_built distinct single other failed with
      unusable | ⟨entries, value, given, known, effective, failed⟩
    · exact .inl unusable
    · exact .inr ⟨entries, _, given, known, (effective _ depth _).2 rfl,
        (CompileSettings.build_eq_error_iff other).1 failed⟩
  · rintro (unusable | ⟨entries, v, given, known, held, deep⟩)
    · exact unusable.settings_eq
    · obtain ⟨value, built, effective⟩ := settings_of_known given distinct single known
      rw [compileSettings, built]
      refine (CompileSettings.build_eq_error_iff other).2 ?_
      have same := (effective _ depth v).1 held
      exact same ▸ deep

/-- Random settings fail, refusals apart, where their section is unusable and where a check of the
effective values has no answer. -/
theorem randomSettings_eq_error_iff (distinct : (overrides.map (·.1)).Nodup)
    (other : fault.isRefusal = false) :
    randomSettings config overrides host = .error fault ↔
      Unusable host RandomSettings.schema config overrides "random".toList fault ∨
      ∃ entries s, sectionEntries config "random".toList = .ok entries ∧
        Known RandomSettings.default.fields entries overrides ∧
        (∀ field ∈ RandomSettings.fields s,
          Effective RandomSettings.default.fields entries overrides field.1 field.2) ∧
        s.Stuck fault := by
  have describes := RandomSettings.schema_describes
  constructor
  · intro failed
    rcases unusable_or_built distinct describes.single other failed with
      unusable | ⟨entries, value, given, known, effective, failed⟩
    · exact .inl unusable
    · refine .inr ⟨entries, .ofValues value, given, known, fun field among => ?_,
        (RandomSettings.build_eq_error_iff other).1 failed⟩
      obtain ⟨default, ofDefault, same⟩ := describes.exists_default among
      have looked := RandomSettings.eq_ofValues_iff.1 rfl field among
      rw [← same] at looked ⊢
      exact (effective default ofDefault field.2).2 looked
  · rintro (unusable | ⟨entries, s, given, known, held, stuck⟩)
    · exact unusable.settings_eq
    · obtain ⟨value, built, effective⟩ := settings_of_known given distinct describes.single known
      have same : s = .ofValues value := by
        refine RandomSettings.eq_ofValues_iff.2 fun field among => ?_
        obtain ⟨default, ofDefault, same⟩ := describes.exists_default among
        have holds := held field among
        rw [← same] at holds ⊢
        exact (effective default ofDefault field.2).1 holds
      rw [randomSettings, built]
      exact (RandomSettings.build_eq_error_iff other).2 (same ▸ stuck)

end Faults

end Config

/-! ## Random sequences of valid settings -/

/-- The source that a request starts from: one that is handed over, else that of the seed. -/
def Twister.Begins (host : Host) (source : Option Twister) (seed : Value) (g : Twister) : Prop :=
  source = some g ∨ (source = none ∧ Twister.ofSeedValue seed host = .ok g)

namespace RandomSettings

variable {s : RandomSettings}

/-- Whether the length and the bounds are integers and no probability is a decimal. -/
structure Typed (s : RandomSettings) : Prop where
  length : ∃ n, s.length.integer? = some n
  low : ∃ n, s.low.integer? = some n
  high : ∃ n, s.high.integer? = some n
  chances : ∀ v ∈ [s.rest, s.group, s.repetition], ∀ d, v ≠ .decimal d

/-- Valid settings of the right types are regular. -/
theorem Typed.exists_regular (typed : s.Typed) (valid : s.Valid) :
    ∃ length low high rest group repetition, s.Regular length low high rest group repetition := by
  obtain ⟨length, isLength⟩ := typed.length
  obtain ⟨low, isLow⟩ := typed.low
  obtain ⟨high, isHigh⟩ := typed.high
  have nonneg : 0 ≤ length := by
    obtain ⟨n, number, kept⟩ := valid.length
    have same := Value.number_of_integer? isLength
    rw [Value.number_eq_ok_iff, number] at same
    cases same
    rw [Number.lt_int, Except.ok.injEq, decide_eq_false_iff_not, not_lt] at kept
    exact kept
  have chances := typed.chances
  simp only [List.forall_mem_cons] at chances
  obtain ⟨rest, isRest⟩ := valid.rest.exists_isProbability chances.1
  obtain ⟨group, isGroup⟩ := valid.group.exists_isProbability chances.2.1
  obtain ⟨repetition, isRepetition⟩ := valid.repetition.exists_isProbability chances.2.2.1
  refine ⟨length.toNat, low, high, rest, group, repetition, ?_, isLow, isHigh,
    valid.order isLow isHigh, isRest, isGroup, isRepetition⟩
  rw [isLength, Int.toNat_of_nonneg nonneg]

end RandomSettings

namespace Shape

variable {s : RandomSettings} {sh : Shape}

/-- The draws of regular settings always succeed. -/
theorem draw_of_typed (typed : s.Typed) (valid : s.Valid) (shaped : ofSettings s = .ok sh)
    (g : Twister) : ∃ steps later, sh.draw g = (.ok steps, later) := by
  obtain ⟨length, low, high, rest, group, repetition, regular⟩ := typed.exists_regular valid
  obtain ⟨same, limit, built, slots, notes, -, -, sum, -⟩ := regular.exists_shape
  obtain rfl := Except.ok.inj (built.symm.trans shaped)
  exact draw_succeeds ⟨⟨length, slots⟩, ⟨_, _, notes⟩, ⟨limit, sum⟩⟩ g

/-- Valid settings have a shape. -/
theorem exists_ofSettings (valid : s.Valid) : ∃ sh, ofSettings s = .ok sh := by
  obtain ⟨n, number, -⟩ := valid.length
  have counted : ∃ slots, Slots.ofLength s.length = .ok slots := by
    rw [Slots.ofLength, Value.number_eq_ok_iff.2 number]
    simp only [bind, Except.bind, pure, Except.pure]
    split
    · exact ⟨_, rfl⟩
    · split <;> exact ⟨_, rfl⟩
  obtain ⟨slots, counted⟩ := counted
  exact ⟨_, by rw [ofSettings, counted]; rfl⟩

end Shape

section Sequences

variable {s : RandomSettings} {host : Host} {source : Option Twister} {fault : Fault}

/-- A request without a source to start from is one whose seed is no seed. -/
theorem Twister.begins_or (host : Host) (source : Option Twister) (seed : Value) :
    (∃ g, Begins host source seed g) ∨ (source = none ∧ seed.isSeed = false) := by
  cases source with
  | some g => exact .inl ⟨g, .inl rfl⟩
  | none =>
      cases made : ofSeedValue seed host with
      | ok g => exact .inl ⟨g, .inr ⟨rfl, made⟩⟩
      | error cause => exact .inr ⟨rfl, (ofSeedValue_eq_error_iff.1 made).1⟩

theorem randomSteps_of_begins {sh : Shape} {g : Twister}
    (begins : Twister.Begins host source s.seed g) (shaped : Shape.ofSettings s = .ok sh) :
    (randomSteps (.checked s) source host).1 = (sh.draw g).1 := by
  rcases begins with rfl | ⟨rfl, made⟩
  · simp only [randomSteps, Given.randomSettings, shaped]
  · simp only [randomSteps, Given.randomSettings, made, shaped]

theorem randomSteps_of_seedless (seedless : s.seed.isSeed = false) :
    (randomSteps (.checked s) none host).1 = .error .wrongKind := by
  simp only [randomSteps, Given.randomSettings, Twister.ofSeedValue_eq_error_iff.2 ⟨seedless, rfl⟩]

/-- **What can go wrong with a random sequence of valid settings**: the seed, a slot, or a length
without end. -/
theorem randomSteps_eq_error_iff (valid : s.Valid) :
    (randomSteps (.checked s) source host).1 = .error fault ↔
      (source = none ∧ s.seed.isSeed = false ∧ fault = .wrongKind) ∨
      ∃ g sh, Twister.Begins host source s.seed g ∧ Shape.ofSettings s = .ok sh ∧
        (s.Fails sh 0 g fault ∨
        (sh.slots.isEndless = true ∧ (∀ cause, ¬s.Fails sh 0 g cause) ∧ fault = .endless)) := by
  obtain ⟨sh, shaped⟩ := Shape.exists_ofSettings valid
  constructor
  · intro failed
    obtain ⟨g, begins⟩ | ⟨rfl, seedless⟩ := Twister.begins_or host source s.seed
    · rw [randomSteps_of_begins begins shaped] at failed
      exact .inr ⟨g, sh, begins, shaped, (RandomSettings.draw_eq_error_iff valid shaped).1 failed⟩
    · rw [randomSteps_of_seedless seedless] at failed
      exact .inl ⟨rfl, seedless, (Except.error.inj failed).symm⟩
  · rintro (⟨rfl, seedless, rfl⟩ | ⟨g, sh, begins, shaped, failed⟩)
    · exact randomSteps_of_seedless seedless
    · rw [randomSteps_of_begins begins shaped]
      exact (RandomSettings.draw_eq_error_iff valid shaped).2 failed

/-- With integers for the length and the bounds and no decimals for the probabilities, the seed is all
that can go wrong. -/
theorem randomSteps_eq_error_iff_of_typed (typed : s.Typed) (valid : s.Valid) :
    (randomSteps (.checked s) source host).1 = .error fault ↔
      source = none ∧ s.seed.isSeed = false ∧ fault = .wrongKind := by
  rw [randomSteps_eq_error_iff valid, or_iff_left]
  rintro ⟨g, sh, -, shaped, failed⟩
  obtain ⟨steps, later, drawn⟩ := Shape.draw_of_typed typed valid shaped g
  have stopped := (RandomSettings.draw_eq_error_iff (g := g) valid shaped).2 failed
  rw [drawn] at stopped
  cases stopped

end Sequences

/-! ## Random sequences from a configuration -/

/-- How a random sequence from a configuration fails other than by a refusal. -/
inductive RandomFails (host : Host) (config : Entries) (overrides : Fields)
    (source : Option Twister) : Fault → Prop
  /-- No fields can be made of the section. -/
  | unusable {fault : Fault}
      (given : Config.Unusable host RandomSettings.schema config overrides "random".toList fault) :
      RandomFails host config overrides source fault
  /-- A check of the effective values has no answer. -/
  | stuck {entries : Entries} {s : RandomSettings} {fault : Fault}
      (given : Config.sectionEntries config "random".toList = .ok entries)
      (known : Config.Known RandomSettings.default.fields entries overrides)
      (held : ∀ field ∈ s.fields,
        Config.Effective RandomSettings.default.fields entries overrides field.1 field.2)
      (stuck : s.Stuck fault) : RandomFails host config overrides source fault
  /-- The seed of the settings is looked at, and is none. -/
  | seed {s : RandomSettings} (settled : Config.randomSettings config overrides host = .ok s)
      (sourceless : source = none) (seedless : s.seed.isSeed = false) :
      RandomFails host config overrides source .wrongKind
  /-- A slot is reached that fails. -/
  | slot {s : RandomSettings} {g : Twister} {sh : Shape} {fault : Fault}
      (settled : Config.randomSettings config overrides host = .ok s)
      (begins : Twister.Begins host source s.seed g) (shaped : Shape.ofSettings s = .ok sh)
      (fails : s.Fails sh 0 g fault) (other : fault.isRefusal = false) :
      RandomFails host config overrides source fault
  /-- The length has no end, and no slot fails. -/
  | endless {s : RandomSettings} {g : Twister} {sh : Shape}
      (settled : Config.randomSettings config overrides host = .ok s)
      (begins : Twister.Begins host source s.seed g) (shaped : Shape.ofSettings s = .ok sh)
      (endless : sh.slots.isEndless = true) (never : ∀ cause, ¬s.Fails sh 0 g cause) :
      RandomFails host config overrides source .endless

/-- Settings from a configuration are made of values. -/
theorem Config.exists_build_of_settings {α : Type} {schema : Schema α} {name : Text}
    {config : Entries} {overrides : Fields} {host : Host} {s : α}
    (settled : settings schema name config overrides host = .ok s) :
    ∃ value, schema.build value = .ok s := by
  obtain ⟨entries, -, settled⟩ := bind_eq_ok_iff.1 settled
  split at settled
  case h_1 fields _ =>
    rw [Schema.ofFields] at settled
    split at settled
    · exact ⟨_, settled⟩
    · cases settled
  case h_2 => cases settled

theorem Config.valid_of_randomSettings {config : Entries} {overrides : Fields} {host : Host}
    {s : RandomSettings} (settled : randomSettings config overrides host = .ok s) : s.Valid := by
  obtain ⟨value, built⟩ := exists_build_of_settings settled
  exact (RandomSettings.build_eq_ok_iff.1 built).1

section Fails

variable {host : Host} {config : Entries} {overrides : Fields} {source : Option Twister}
  {fault : Fault}

theorem RandomFails.isRefusal_eq (fails : RandomFails host config overrides source fault) :
    fault.isRefusal = false := by
  cases fails with
  | seed | endless => rfl
  | stuck _ _ _ stuck => exact stuck.isRefusal_eq
  | unusable given => exact given.isRefusal_eq
  | slot _ _ _ _ other => exact other

/-- **How a random sequence from a configuration fails**, refusals apart. -/
theorem randomFails_iff (distinct : (overrides.map (·.1)).Nodup)
    (other : fault.isRefusal = false) :
    (Config.randomSettings config overrides host).bind
      (fun s => (randomSteps (.checked s) source host).1) = .error fault ↔
        RandomFails host config overrides source fault := by
  refine bind_eq_error_iff.trans ⟨?_, ?_⟩
  · rintro (failed | ⟨s, settled, failed⟩)
    · rcases (Config.randomSettings_eq_error_iff distinct other).1 failed with
        unusable | ⟨entries, s, given, known, held, stuck⟩
      · exact .unusable unusable
      · exact .stuck given known held stuck
    · have valid := Config.valid_of_randomSettings settled
      rcases (randomSteps_eq_error_iff valid).1 failed with
        ⟨sourceless, seedless, rfl⟩ |
        ⟨g, sh, begins, shaped, fails | ⟨endless, never, rfl⟩⟩
      · exact .seed settled sourceless seedless
      · exact .slot settled begins shaped fails other
      · exact .endless settled begins shaped endless never
  · intro fails
    have valid {s : RandomSettings} (settled : Config.randomSettings config overrides host = .ok s) :=
      Config.valid_of_randomSettings settled
    cases fails with
    | unusable unusable =>
        exact .inl ((Config.randomSettings_eq_error_iff distinct other).2 (.inl unusable))
    | stuck given known held stuck =>
        exact .inl ((Config.randomSettings_eq_error_iff distinct other).2
          (.inr ⟨_, _, given, known, held, stuck⟩))
    | seed settled sourceless seedless =>
        exact .inr ⟨_, settled, sourceless ▸ randomSteps_of_seedless seedless⟩
    | slot settled begins shaped fails =>
        exact .inr ⟨_, settled, (randomSteps_eq_error_iff (valid settled)).2
          (.inr ⟨_, _, begins, shaped, .inl fails⟩)⟩
    | endless settled begins shaped endless never =>
        exact .inr ⟨_, settled, (randomSteps_eq_error_iff (valid settled)).2
          (.inr ⟨_, _, begins, shaped, .inr ⟨endless, never, rfl⟩⟩)⟩

end Fails

end StepPattern
