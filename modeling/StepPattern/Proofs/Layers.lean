/-
# StepPattern.Proofs.Layers -- overrides before the file, the file before the defaults

The value that a field has in the end comes from three layers (`Config.Effective`, one case
for each): an override that has a value, else the entry of the section, else the default.
Zeros, empty values and the truth value false are values; only none is the lack of one.
Values are checked after the layers are put together, so a value that is covered is never
looked at.

A section and overrides give settings exactly where each key and each name is that of a
field and the effective values are valid, and the settings then have the effective values
(`Config.settings_layered`).  A configuration matters by the one section alone.
-/
import StepPattern.CommandLine.Run
import StepPattern.Proofs.Fields

namespace StepPattern

set_option autoImplicit false

/-! ## The three layers -/

namespace Config

/-- The section of a name holds these entries: it is missing, or it is empty, whatever the kind of its
value, or it is a mapping of them. -/
inductive HasSection (config : Entries) (name : Text) : Entries → Prop
  | missing (absent : section? config name = none) : HasSection config name []
  | empty {v : Value} (present : section? config name = some v) (empty : v.truthy = false) :
      HasSection config name []
  | mapping {entries : Entries} (present : section? config name = some (.dict entries)) :
      HasSection config name entries

/-- The value that a field has in the end. -/
inductive Effective (defaults : Fields) (entries : Entries) (overrides : Fields) (name : Text) :
    Value → Prop
  | overridden {v : Value} (override : (name, v) ∈ overrides) (given : v ≠ .none) :
      Effective defaults entries overrides name v
  | written {v : Value} (free : ∀ w, (name, w) ∈ overrides → w = .none)
      (entry : entries.get? (.text name) = some v) : Effective defaults entries overrides name v
  | default {v : Value} (free : ∀ w, (name, w) ∈ overrides → w = .none)
      (absent : entries.get? (.text name) = none) (default : (name, v) ∈ defaults) :
      Effective defaults entries overrides name v

/-- Whether each key of a section, and the name of each override that has a value, is that of a
field. -/
structure Known (defaults : Fields) (entries : Entries) (overrides : Fields) : Prop where
  keys : ∀ entry ∈ entries, ∃ field ∈ defaults, entry.1 = .text field.1
  names : ∀ change ∈ overrides, change.2 ≠ .none → ∃ field ∈ defaults, change.1 = field.1

theorem HasSection.sectionEntries_eq {config entries : Entries} {name : Text}
    (has : HasSection config name entries) : sectionEntries config name = .ok entries := by
  rw [sectionEntries]
  cases has with
  | missing absent => rw [absent]
  | empty present empty => simp only [present, empty, Bool.false_eq_true, if_false]
  | mapping present =>
      cases entries with
      | nil => simp [present, Value.truthy]
      | cons entry entries => simp [present, Value.truthy, Config.entries]

section Layers

variable {defaults overrides fields : Fields} {name : Text} {v : Value}

/-- With overrides of different names the layers are looked through from the top. -/
theorem effective_iff (distinct : (overrides.map (·.1)).Nodup) (single : (defaults.map (·.1)).Nodup) :
    Effective defaults (fields.map fun field => (.text field.1, field.2)) overrides name v ↔
      ((overrides.given.get? name).or (fields.get? name)).or (defaults.get? name) = some v := by
  have covered {w : Value} : overrides.given.get? name = some w ↔
      (name, w) ∈ overrides ∧ w ≠ .none := by
    rw [Fields.get?_eq_some_iff (Fields.nodup_given distinct), Fields.mem_given]
  have uncovered : overrides.given.get? name = none ↔
      ∀ w, (name, w) ∈ overrides → w = .none := by
    rw [Fields.get?_eq_none_iff]
    simp only [Fields.mem_given, not_and, ne_eq, not_not]
  constructor
  · intro effective
    cases effective with
    | overridden override given => rw [covered.2 ⟨override, given⟩]; rfl
    | written free entry =>
        rw [uncovered.2 free, Option.none_or, ← Entries.get?_fields, entry, Option.some_or]
    | default free absent default =>
        rw [uncovered.2 free, Option.none_or, ← Entries.get?_fields, absent, Option.none_or,
          Fields.get?_eq_some_iff single]
        exact default
  · intro found
    cases top : overrides.given.get? name with
    | some w =>
        rw [top] at found
        cases found
        exact .overridden (covered.1 top).1 (covered.1 top).2
    | none =>
        rw [top, Option.none_or, ← Entries.get?_fields] at found
        have free := uncovered.1 top
        cases entry : Entries.get? (fields.map fun field => (.text field.1, field.2))
            (.text name) with
        | some w =>
            rw [entry] at found
            cases found
            exact .written free entry
        | none =>
            rw [entry, Option.none_or, Fields.get?_eq_some_iff single] at found
            exact .default free entry found

end Layers

/-! ## Settings -/

section Settings

variable {α : Type} {schema : Schema α} {config entries : Entries} {overrides : Fields}
  {name : Text} {host : Host}

/-- A key that is no text is refused before it is looked up. -/
theorem settings_of_other_key (given : sectionEntries config name = .ok entries)
    {entry : Value × Value} (among : entry ∈ entries) (other : ∀ key, entry.1 ≠ .text key) :
    settings schema name config overrides host =
      .error (schema.trouble host (keys entries overrides.given)).fault := by
  simp only [settings, given, bind, Except.bind, Schema.fields?_eq_none_iff.2 ⟨entry, among, other⟩]
  rfl

/-- A key or a name that no field has is refused before any value is looked at. -/
theorem settings_of_unknown (given : sectionEntries config name = .ok entries)
    (texts : ∀ entry ∈ entries, ∃ key, entry.1 = .text key)
    (unknown : ¬ Known schema.defaults entries overrides) :
    ∃ keys, settings schema name config overrides host =
      .error (.setting (.unknownKeys schema.owner keys)) := by
  obtain ⟨fields, rfl⟩ := exists_fields texts
  simp only [settings, given, bind, Except.bind, Schema.fields?_eq_some_iff.2 rfl]
  cases left : schema.unknown ((fields.override overrides.given).map (·.1)) with
  | cons key keys => exact ⟨key :: keys, by simp only [Schema.ofFields, left]⟩
  | nil =>
      obtain ⟨ofSection, ofOverrides⟩ :=
        Fields.forall_override_iff.1 (Schema.unknown_eq_nil_iff.1 left)
      refine absurd ⟨fun entry among => ?_, fun change among given => ?_⟩ unknown
      · obtain ⟨field, written, rfl⟩ := List.mem_map.1 among
        obtain ⟨v, known⟩ := ofSection field written
        exact ⟨_, known, rfl⟩
      · obtain ⟨v, known⟩ := ofOverrides change (Fields.mem_given.2 ⟨among, given⟩)
        exact ⟨_, known, rfl⟩

theorem settings_of_not_known (given : sectionEntries config name = .ok entries)
    (unknown : ¬ Known schema.defaults entries overrides) :
    ∃ fault, settings schema name config overrides host = .error fault := by
  by_cases texts : ∀ entry ∈ entries, ∃ key, entry.1 = .text key
  · obtain ⟨keys, refused⟩ := settings_of_unknown given texts unknown
    exact ⟨_, refused⟩
  · push Not at texts
    obtain ⟨entry, among, other⟩ := texts
    exact ⟨_, settings_of_other_key given among other⟩

/-- Known keys and names leave the effective values to the checks. -/
theorem settings_of_known (given : sectionEntries config name = .ok entries)
    (distinct : (overrides.map (·.1)).Nodup) (single : (schema.defaults.map (·.1)).Nodup)
    (known : Known schema.defaults entries overrides) :
    ∃ value, settings schema name config overrides host = schema.build value ∧
      ∀ field ∈ schema.defaults, ∀ v, Effective schema.defaults entries overrides field.1 v ↔
        value (Text.string field.1) = v := by
  obtain ⟨fields, rfl⟩ := exists_fields fun entry among =>
    have ⟨field, _, same⟩ := known.keys entry among
    ⟨field.1, same⟩
  have named := Schema.fields?_eq_some_iff.2 (rfl : fields.map _ = fields.map _)
  refine ⟨schema.effective (fields.override overrides.given), ?_, fun field among v => ?_⟩
  · simp only [settings, given, bind, Except.bind, named]
    refine Schema.ofFields_eq_build (Fields.forall_override_iff.2 ⟨fun field among => ?_,
      fun change among => ?_⟩)
    · obtain ⟨default, ofDefault, same⟩ := known.keys _ (List.mem_map_of_mem among)
      rw [Value.text.inj same]
      exact ⟨default.2, ofDefault⟩
    · obtain ⟨among, given⟩ := Fields.mem_given.1 among
      obtain ⟨default, among, same⟩ := known.names change among given
      exact ⟨default.2, same ▸ among⟩
  · obtain ⟨d, found⟩ := Option.isSome_iff_exists.1
      (Fields.isSome_get?_iff.2 ⟨field.2, among⟩ : (schema.defaults.get? field.1).isSome = true)
    rw [effective_iff distinct single, Schema.effective, Text.string, String.toList_ofList,
      Fields.get?_override, found]
    cases (overrides.given.get? field.1).or (fields.get? field.1) <;> simp

/-- The layers give settings exactly where every key and name is known and the effective values, in
the fields of the settings, are valid. -/
theorem settings_eq_ok_iff {fieldsOf : α → Fields} {Valid : α → Prop}
    (describes : schema.Describes fieldsOf Valid) (has : HasSection config name entries)
    (distinct : (overrides.map (·.1)).Nodup) {s : α} :
    settings schema name config overrides host = .ok s ↔ Known schema.defaults entries overrides ∧
      Valid s ∧ ∀ field ∈ fieldsOf s,
        Effective schema.defaults entries overrides field.1 field.2 := by
  by_cases known : Known schema.defaults entries overrides
  · obtain ⟨value, eq, effective⟩ :=
      settings_of_known has.sectionEntries_eq distinct describes.single known
    rw [eq, describes.build_iff, and_iff_right known]
    refine and_congr_right fun _ => forall₂_congr fun field among => ?_
    obtain ⟨default, ofDefault, same⟩ := describes.exists_default among
    rw [← same, effective default ofDefault]
  · obtain ⟨fault, failed⟩ := settings_of_not_known has.sectionEntries_eq known
    rw [failed]
    exact iff_of_false nofun fun given => known given.1

theorem settings_fail_iff {fieldsOf : α → Fields} {Valid : α → Prop}
    (describes : schema.Describes fieldsOf Valid) (has : HasSection config name entries)
    (distinct : (overrides.map (·.1)).Nodup) :
    (∃ fault, settings schema name config overrides host = .error fault) ↔
      ¬ Known schema.defaults entries overrides ∨ ¬ ∃ s, Valid s ∧ ∀ field ∈ fieldsOf s,
        Effective schema.defaults entries overrides field.1 field.2 := by
  have gives := @settings_eq_ok_iff _ _ _ _ _ _ host _ _ describes has distinct
  rw [← not_and_or, ← exists_and_left]
  simp only [← gives]
  cases settings schema name config overrides host <;> simp

end Settings

/-! ## Both groups of settings -/

/-- A field with a default has an effective value. -/
theorem exists_effective {defaults : Fields} (entries : Entries) (overrides : Fields)
    {field : Text × Value} (among : field ∈ defaults) :
    ∃ v, Effective defaults entries overrides field.1 v := by
  by_cases free : ∀ w, (field.1, w) ∈ overrides → w = .none
  · cases entry : entries.get? (.text field.1) with
    | some v => exact ⟨v, .written free entry⟩
    | none => exact ⟨field.2, .default free entry among⟩
  · push Not at free
    obtain ⟨v, override, given⟩ := free
    exact ⟨v, .overridden override given⟩

/-- Of the effective values for a compilation only the depth limit and the rest symbol are looked
at. -/
theorem exists_compileSettings_iff {entries : Entries} {overrides : Fields} :
    (∃ s : CompileSettings, ∀ field ∈ s.fields,
      Effective CompileSettings.default.fields entries overrides field.1 field.2) ↔
    ∃ (n : Nat) (t : Text), n ≤ maxDepthLimit ∧ isRestSymbol t = true ∧
      Effective CompileSettings.default.fields entries overrides "max_recursion_depth".toList
        (.int n) ∧
      Effective CompileSettings.default.fields entries overrides "rest_symbol".toList
        (.text t) := by
  have given {field : Text × Value} (among : field ∈ CompileSettings.default.fields) :=
    exists_effective entries overrides among
  constructor
  · rintro ⟨s, effective⟩
    exact ⟨s.depthLimit, s.restSymbol, s.depthLimit_le, s.restSymbol_ok,
      effective _ (.head _), effective _ (.tail _ (.head _))⟩
  · rintro ⟨n, t, within, allowed, depth, symbol⟩
    obtain ⟨normalize, hasNormalize⟩ := given (.tail _ (.tail _ (.head _)))
    obtain ⟨verbose, hasVerbose⟩ := given (.tail _ (.tail _ (.tail _ (.head _))))
    obtain ⟨seed, hasSeed⟩ := given (.tail _ (.tail _ (.tail _ (.tail _ (.head _)))))
    refine ⟨⟨n, t, normalize, verbose, seed, within, allowed⟩, ?_⟩
    simp only [CompileSettings.fields, List.forall_mem_cons]
    exact ⟨depth, symbol, hasNormalize, hasVerbose, hasSeed, List.forall_mem_nil _⟩

/-- **Overrides beat the section of a configuration, and the section beats the defaults, before
anything is checked.**  Where the section is missing, empty or a mapping, settings have the effective
value in each field.  There are none exactly where some key of the section, or the name of an override
that has a value, is unknown, or the effective values are not valid.  Configurations with the same
section give the same, whatever else they hold. -/
theorem settings_layered {config : Entries} {overrides : Fields} (host : Host)
    (distinct : (overrides.map (·.1)).Nodup) :
    (∀ entries, HasSection config "compile".toList entries →
      (∀ s, compileSettings config overrides host = .ok s → ∀ field ∈ s.fields,
        Effective CompileSettings.default.fields entries overrides field.1 field.2) ∧
      ((∃ fault, compileSettings config overrides host = .error fault) ↔
        ¬ Known CompileSettings.default.fields entries overrides ∨
        ¬ ∃ (n : Nat) (t : Text), n ≤ maxDepthLimit ∧ isRestSymbol t = true ∧
          Effective CompileSettings.default.fields entries overrides "max_recursion_depth".toList
            (.int n) ∧
          Effective CompileSettings.default.fields entries overrides "rest_symbol".toList
            (.text t))) ∧
    (∀ entries, HasSection config "random".toList entries →
      (∀ s, randomSettings config overrides host = .ok s → ∀ field ∈ s.fields,
        Effective RandomSettings.default.fields entries overrides field.1 field.2) ∧
      ((∃ fault, randomSettings config overrides host = .error fault) ↔
        ¬ Known RandomSettings.default.fields entries overrides ∨
        ¬ ∃ s : RandomSettings, s.Valid ∧ ∀ field ∈ s.fields,
          Effective RandomSettings.default.fields entries overrides field.1 field.2)) ∧
    (∀ other, section? other "compile".toList = section? config "compile".toList →
      compileSettings other overrides host = compileSettings config overrides host) ∧
    ∀ other, section? other "random".toList = section? config "random".toList →
      randomSettings other overrides host = randomSettings config overrides host := by
  refine ⟨fun entries has => ⟨fun s given => ?_, ?_⟩, fun entries has => ⟨fun s given => ?_, ?_⟩,
    fun other same => ?_, fun other same => ?_⟩
  case refine_1 =>
    exact ((settings_eq_ok_iff (CompileSettings.schema_describes host) has distinct).1 given).2.2
  case refine_2 =>
    rw [← exists_compileSettings_iff]
    refine (settings_fail_iff (CompileSettings.schema_describes host) has distinct).trans ?_
    simp only [true_and]
    rfl
  case refine_3 =>
    exact ((settings_eq_ok_iff RandomSettings.schema_describes has distinct).1 given).2.2
  case refine_4 => exact settings_fail_iff RandomSettings.schema_describes has distinct
  case refine_5 => simp only [compileSettings, settings, sectionEntries, same]
  case refine_6 => simp only [randomSettings, settings, sectionEntries, same]

/-- A rest symbol that may not be one does no harm in a section where an override covers it. -/
theorem settings_layered_covered :
    let config : Entries := [
      (.text "compile".toList, .dict [(.text "rest_symbol".toList, .text [])]),
      (.text "random".toList, .int 5)]
    let overrides : Fields := [
      ("max_recursion_depth".toList, .int 0), ("rest_symbol".toList, .text ['~']),
      ("seed".toList, .none)]
    (overrides.map (·.1)).Nodup ∧ ¬ ∃ fault, compileSettings config overrides = .error fault := by
  intro config overrides
  have distinct : (overrides.map (·.1)).Nodup := by decide
  have has : HasSection config "compile".toList [(.text "rest_symbol".toList, .text [])] :=
    .mapping rfl
  have known : Known CompileSettings.default.fields [(.text "rest_symbol".toList, .text [])]
      overrides := by
    constructor <;> simp [overrides, CompileSettings.fields]
  refine ⟨distinct, fun failed => ?_⟩
  rcases ((settings_layered .default distinct).1 _ has).2.1 failed with unknown | invalid
  · exact unknown known
  · exact invalid ⟨0, ['~'], by decide, by decide, .overridden (.head _) (by simp),
      .overridden (.tail _ (.head _)) (by simp)⟩

end Config

end StepPattern
