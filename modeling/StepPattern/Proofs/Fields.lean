/-
# StepPattern.Proofs.Fields -- fields, and settings made of them

Fields are looked up by name, and replaced fields are found first.  A mapping whose
keys are texts is made of fields (`exists_fields`), and the settings that it gives are
made of the effective values if every key is the name of a field
(`Schema.ofFields_eq_build`).  With a key that is no text it gives none, and the fault
is that of the keys that cannot be listed (`Schema.ofValue_dict_eq_error_iff`).
-/
import Mathlib.Data.List.Nodup
import StepPattern.Proofs.Checks

namespace StepPattern

set_option autoImplicit false

/-! ## Fields -/

namespace Fields

variable {fields changes : Fields} {name : Text} {v : Value}

theorem get?_eq_none_iff : fields.get? name = none ↔ ∀ v, (name, v) ∉ fields := by
  simp only [get?, Option.map_eq_none_iff, List.find?_eq_none, decide_eq_true_eq]
  exact ⟨fun absent v among => absent _ among rfl, fun absent field among same =>
    absent field.2 (same ▸ among)⟩

theorem isSome_get?_iff : (fields.get? name).isSome = true ↔ ∃ v, (name, v) ∈ fields := by
  rw [← Option.ne_none_iff_isSome, Ne, get?_eq_none_iff]
  push Not
  rfl

/-- Among fields of different names a lookup finds each of them. -/
theorem get?_eq_some_iff (distinct : (fields.map (·.1)).Nodup) :
    fields.get? name = some v ↔ (name, v) ∈ fields := by
  induction fields with
  | nil => simp [get?]
  | cons field fields ih =>
      obtain ⟨first, w⟩ := field
      obtain ⟨fresh, distinct⟩ := List.nodup_cons.1 distinct
      rw [List.mem_cons, Prod.mk.injEq, ← ih distinct, get?, get?, List.find?_cons]
      by_cases same : first = name
      · subst same
        have absent : get? fields first = none :=
          get?_eq_none_iff.2 fun v among => fresh (List.mem_map.2 ⟨_, among, rfl⟩)
        rw [← get?, absent]
        simp [eq_comm]
      · simp [same, Ne.symm same]

theorem mem_given {field : Text × Value} :
    field ∈ fields.given ↔ field ∈ fields ∧ field.2 ≠ .none := by
  rw [given, List.mem_filter]
  refine and_congr_right fun _ => ?_
  cases field.2 <;> simp

theorem nodup_given (distinct : (fields.map (·.1)).Nodup) : (fields.given.map (·.1)).Nodup :=
  distinct.sublist (List.filter_sublist.map _)

/-- A lookup that a filter keeps whole finds the same. -/
theorem get?_filter {keep : Text × Value → Bool} (kept : ∀ v, keep (name, v) = true) :
    get? (fields.filter keep) name = fields.get? name := by
  rw [get?, get?, List.find?_filter]
  congr 2
  funext field
  obtain ⟨other, v⟩ := field
  by_cases same : other = name
  · subst same
    simp [kept]
  · simp [same]

/-- What replaces other fields is found first. -/
theorem get?_override : (fields.override changes).get? name =
    (changes.get? name).or (fields.get? name) := by
  have parts : (fields.override changes).get? name =
      (get? (fields.filter fun field => (get? changes field.1).isNone) name).or
        (changes.get? name) := by
    rw [override, get?, List.find?_append, Option.map_or]
    rfl
  rw [parts]
  cases changed : changes.get? name with
  | none => rw [get?_filter fun _ => by simp [changed], Option.or_none, Option.none_or]
  | some v =>
      have covered : get? (fields.filter fun field => (get? changes field.1).isNone) name = none := by
        refine get?_eq_none_iff.2 fun v among => ?_
        simpa [changed] using (List.mem_filter.1 among).2
      rw [covered, Option.none_or, Option.some_or]

/-- All names that are left or replaced have a property exactly where the names of both do. -/
theorem forall_override_iff {P : Text → Prop} :
    (∀ key ∈ (fields.override changes).map (·.1), P key) ↔
      (∀ field ∈ fields, P field.1) ∧ ∀ change ∈ changes, P change.1 := by
  simp only [override, List.map_append, List.mem_append, or_imp, forall_and, List.forall_mem_map,
    List.mem_filter, and_imp, Option.isNone_iff_eq_none]
  constructor
  · rintro ⟨left, replaced⟩
    refine ⟨fun field among => ?_, replaced⟩
    cases changed : changes.get? field.1 with
    | none => exact left field among changed
    | some v =>
        obtain ⟨w, change⟩ := isSome_get?_iff.1 (Option.isSome_iff_exists.2 ⟨v, changed⟩)
        exact replaced (field.1, w) change
  · rintro ⟨left, replaced⟩
    exact ⟨fun field among _ => left field among, replaced⟩

end Fields

/-! ## Sections and fields -/

theorem Value.equal_text {key name : Text} : (text key).equal (text name) = decide (key = name) := by
  rw [Value.equal]

theorem Entries.get?_fields {fields : Fields} {name : Text} :
    Entries.get? (fields.map fun field => (.text field.1, field.2)) (.text name) =
      fields.get? name := by
  rw [Entries.get?, Fields.get?, List.find?_map]
  simp only [Function.comp_def, Value.equal_text, Option.map_map]

namespace Schema

variable {α : Type}

theorem fields?_eq_some_iff {entries : Entries} {fields : Fields} :
    fields? entries = some fields ↔
      entries = fields.map fun field => (.text field.1, field.2) := by
  induction entries generalizing fields with
  | nil => cases fields <;> simp [fields?]
  | cons entry entries ih =>
      obtain ⟨key, v⟩ := entry
      by_cases named : ∃ name, key = .text name
      · obtain ⟨name, rfl⟩ := named
        have step : fields? ((.text name, v) :: entries) =
            (fields? entries).map ((name, v) :: ·) := by
          rw [fields?, List.mapM_cons, Option.map_eq_bind]
          rfl
        rw [step, Option.map_eq_some_iff]
        simp only [ih]
        cases fields with
        | nil => simp
        | cons field fields => simp [Prod.ext_iff, and_comm, eq_comm]
      · have step : fields? ((key, v) :: entries) = none := by
          rw [fields?, List.mapM_cons]
          cases key <;> first | rfl | exact absurd ⟨_, rfl⟩ named
        rw [step]
        refine iff_of_false nofun fun same => ?_
        cases fields with
        | nil => cases same
        | cons field fields =>
            cases same
            exact named ⟨_, rfl⟩

theorem eraseReps_eq_nil_iff {keys : List Text} : keys.eraseReps = [] ↔ keys = [] := by
  have held (key : Text) (keys done : List Text) :
      List.eraseRepsBy.loop (· == ·) key keys done ≠ [] := by
    induction keys generalizing key done with
    | nil => simp [List.eraseRepsBy.loop]
    | cons next keys ih =>
        rw [List.eraseRepsBy.loop]
        split <;> exact ih _ _
  cases keys with
  | nil => exact iff_of_true rfl rfl
  | cons key keys => exact iff_of_false (held key keys []) (List.cons_ne_nil _ _)

theorem sortedOnce_eq_nil_iff {keys : List Text} : sortedOnce keys = [] ↔ keys = [] := by
  rw [sortedOnce, eraseReps_eq_nil_iff, ← List.length_eq_zero_iff, List.length_mergeSort,
    List.length_eq_zero_iff]

theorem unknown_eq_nil_iff {s : Schema α} {keys : List Text} :
    s.unknown keys = [] ↔ ∀ key ∈ keys, ∃ v, (key, v) ∈ s.defaults := by
  rw [unknown, sortedOnce_eq_nil_iff, List.filter_eq_nil_iff]
  simp only [Option.isNone_iff_eq_none, ← Fields.isSome_get?_iff, Option.ne_none_iff_isSome,
    ← ne_eq]

theorem ofFields_eq_build {s : Schema α} {fields : Fields}
    (known : ∀ key ∈ fields.map (·.1), ∃ v, (key, v) ∈ s.defaults) :
    s.ofFields fields = s.build (s.effective fields) := by
  rw [ofFields, unknown_eq_nil_iff.2 known]

end Schema

/-- Keys that are texts are the names of fields. -/
theorem exists_fields {entries : Entries} (texts : ∀ entry ∈ entries, ∃ key, entry.1 = .text key) :
    ∃ fields : Fields, entries = fields.map fun field => (.text field.1, field.2) := by
  induction entries with
  | nil => exact ⟨[], rfl⟩
  | cons entry entries ih =>
      obtain ⟨⟨key, same⟩, texts⟩ := List.forall_mem_cons.1 texts
      obtain ⟨fields, rfl⟩ := ih texts
      exact ⟨(key, entry.2) :: fields, by rw [List.map_cons, ← same]⟩

/-! ## Keys that are no texts -/

theorem Value.isText_eq_false_iff {v : Value} : v.isText = false ↔ ∀ t, v ≠ .text t := by
  cases v <;> simp [isText]

/-- What is left when repeated values are dropped was among them. -/
theorem mem_of_mem_eraseDupsBy {alike : Value → Value → Bool} {keys : List Value} {key : Value}
    (left : key ∈ keys.eraseDupsBy alike) : key ∈ keys := by
  have held (keys done : List Value) : key ∈ List.eraseDupsBy.loop alike keys done →
      key ∈ keys ∨ key ∈ done := by
    induction keys generalizing done with
    | nil => simp [List.eraseDupsBy.loop]
    | cons first keys ih =>
        rw [List.eraseDupsBy.loop]
        split
        · exact fun left => (ih done left).imp_left (List.mem_cons_of_mem first)
        · intro left
          rcases ih _ left with among | among
          · exact .inl (List.mem_cons_of_mem first among)
          · rcases List.mem_cons.1 among with rfl | among
            · exact .inl List.mem_cons_self
            · exact .inr among
  exact (held keys [] left).resolve_right List.not_mem_nil

namespace Schema

variable {α : Type} {s : Schema α} {host : Host} {keys : List Value} {entries : Entries}
  {fault : Fault}

/-- Whether the unknown ones of some keys are put in order, and the order of two that are compared is
undefined. -/
def Unsorted (s : Schema α) (host : Host) (keys : List Value) : Prop :=
  ∃ a b, host.sorted (s.others keys) = .error (a, b) ∧ a.Undefined b

theorem fault_trouble :
    (s.trouble host keys).fault = fault ↔
      (s.Unsorted host keys ∧ fault = .undefined) ∨
      (¬s.Unsorted host keys ∧ fault = .wrongKind) := by
  unfold trouble KeyTrouble.ofSorted Unsorted
  cases sorted : host.sorted (s.others keys) with
  | ok sorted => simp [KeyTrouble.fault, eq_comm]
  | error pair =>
      obtain ⟨a, b⟩ := pair
      obtain ⟨cause, unordered⟩ := (host.sorted_stuck _ _ sorted).unordered
      simp only [← Value.before_eq_undefined_iff]
      rcases Value.before_error unordered with rfl | rfl <;>
        simp [KeyTrouble.fault, unordered, eq_comm]

/-- Keys that cannot be put in order are not all texts. -/
theorem Unsorted.exists_odd (unsorted : s.Unsorted host keys) :
    ∃ key ∈ keys, ∀ t, key ≠ .text t := by
  obtain ⟨a, b, stopped, undefined⟩ := unsorted
  have among : a ∈ keys := List.mem_of_mem_filter
    (mem_of_mem_eraseDupsBy (host.sorted_stuck _ _ stopped).first)
  refine ⟨a, among, fun t same => ?_⟩
  cases undefined with
  | numbers one =>
      rw [same] at one
      cases one
  | lists => cases same

/-- The key that is named for being no text is an unknown one, and no text. -/
theorem trouble_notText {index : Nat} {named : Value}
    (odd : ∃ key ∈ s.others keys, ∀ t, key ≠ .text t)
    (trouble : s.trouble host keys = .notText index named) :
    named ∈ s.others keys ∧ ∀ t, named ≠ .text t := by
  simp only [← Value.isText_eq_false_iff] at odd ⊢
  unfold Schema.trouble KeyTrouble.ofSorted at trouble
  cases done : host.sorted (s.others keys) with
  | error pair =>
      rw [done] at trouble
      cases trouble
  | ok sorted =>
      rw [done] at trouble
      cases trouble
      have same := host.sorted_perm _ _ done
      obtain ⟨key, among, odd⟩ := odd
      have inside : sorted.findIdx (!·.isText) < sorted.length :=
        List.findIdx_lt_length_of_exists ⟨key, same.mem_iff.2 among, by rw [odd]; rfl⟩
      rw [List.getD_eq_getElem?_getD, List.getElem?_eq_getElem inside, Option.getD_some]
      refine ⟨same.mem_iff.1 (List.getElem_mem inside), ?_⟩
      have found := List.findIdx_getElem (w := inside)
      rwa [Bool.not_eq_true'] at found

theorem fields?_eq_none_iff :
    fields? entries = none ↔ ∃ entry ∈ entries, ∀ t, entry.1 ≠ .text t := by
  constructor
  · intro absent
    by_contra texts
    push Not at texts
    obtain ⟨fields, same⟩ := exists_fields texts
    rw [fields?_eq_some_iff.2 same] at absent
    cases absent
  · rintro ⟨entry, among, odd⟩
    cases found : fields? entries with
    | none => rfl
    | some fields =>
        rw [fields?_eq_some_iff.1 found] at among
        obtain ⟨field, -, rfl⟩ := List.mem_map.1 among
        exact absurd rfl (odd field.1)

theorem ofFields_eq_error_iff {fields : Fields} (other : fault.isRefusal = false) :
    s.ofFields fields = .error fault ↔
      (∀ key ∈ fields.map (·.1), ∃ v, (key, v) ∈ s.defaults) ∧
        s.build (s.effective fields) = .error fault := by
  rw [← unknown_eq_nil_iff, ofFields]
  split
  case h_1 none => simp [none]
  case h_2 unknown =>
    refine iff_of_false (fun same => ?_) fun held => unknown held.1
    cases same
    cases other

theorem ofValue_of_fields? {fields : Fields} (found : fields? entries = some fields) :
    s.ofValue (.dict entries) host = s.ofFields fields := by
  cases entries with
  | nil =>
      cases found
      rfl
  | cons entry entries => simp [ofValue, Value.truthy, found]

theorem ofValue_of_fields?_none (found : fields? entries = none) :
    s.ofValue (.dict entries) host = .error (s.trouble host (entries.map (·.1))).fault := by
  cases entries with
  | nil => cases found
  | cons entry entries => simp [ofValue, Value.truthy, found]

/-- A mapping gives no settings, refusals apart, where a key is no text, or where its values are those
of fields and give none. -/
theorem ofValue_dict_eq_error_iff (other : fault.isRefusal = false) :
    s.ofValue (.dict entries) host = .error fault ↔
      ((∃ entry ∈ entries, ∀ t, entry.1 ≠ .text t) ∧
        (s.trouble host (entries.map (·.1))).fault = fault) ∨
      ∃ fields : Fields, entries = (fields.map fun field => (.text field.1, field.2)) ∧
        (∀ key ∈ fields.map (·.1), ∃ v, (key, v) ∈ s.defaults) ∧
        s.build (s.effective fields) = .error fault := by
  rw [← fields?_eq_none_iff]
  simp only [← fields?_eq_some_iff]
  cases found : fields? entries with
  | none => simp [ofValue_of_fields?_none found]
  | some fields => simp [ofValue_of_fields? found, ofFields_eq_error_iff other]

/-- A mapping of one field that the settings have is looked at as it is. -/
theorem ofValue_single (s : Schema α) (name : String)
    (known : (s.defaults.get? name.toList).isSome = true) (v : Value) (host : Host := .default) :
    s.ofValue (.dict [(.text name.toList, v)]) host = s.build (s.effective [(name.toList, v)]) := by
  show s.ofFields [(name.toList, v)] = _
  refine ofFields_eq_build fun key among => ?_
  rw [List.map_singleton, List.mem_singleton] at among
  rw [among]
  exact Fields.isSome_get?_iff.1 known

end Schema

end StepPattern
