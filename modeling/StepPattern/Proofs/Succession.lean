/-
# StepPattern.Proofs.Succession -- registrations one after the other

Whether a registration is accepted, and which definition it then gives, does not depend
on the registry (`Registration.Accepted`), and it touches nothing but its own name
(`Registry.find?_step_of_not_renews`).  So a run of registrations can be told apart
name by name:

* a name that no accepted registration has stands for what it stood for before the run
  (`Registry.find?_registerAll_of_not_renews`), so a text that calls no other names is
  compiled alike before and after;
* a name that one has stands for what the last of them gives, whatever there was before
  it (`Registry.find?_registerAll_of_last`);
* a registration that is refused might as well not be there.
-/
import StepPattern.Proofs.Registrations

namespace StepPattern

set_option autoImplicit false

open Text

/-! ## Accepted registrations -/

/-- Whether a registration is accepted, and with which definition. -/
def Registration.Accepted (x : Registration) (d : Definition) : Prop :=
  isLetters (dropFinalNewline x.name) = true ∧ x.Defines d

/-- Whether a registration is accepted and has a name. -/
def Registration.Renews (x : Registration) (name : Text) : Prop :=
  x.name = name ∧ ∃ d, x.Accepted d

/-- Whether a run has an accepted registration of a name. -/
def Renews (run : List Registration) (name : Text) : Prop :=
  ∃ x ∈ run, x.Renews name

theorem renews_cons {x : Registration} {run : List Registration} {name : Text} :
    Renews (x :: run) name ↔ x.Renews name ∨ Renews run name :=
  List.exists_mem_cons_iff _ _ _

namespace Registry

variable {r other : Registry} {x : Registration} {d : Definition} {name : Text}

theorem enter_of_accepted (r : Registry) (accepted : x.Accepted d) :
    r.enter x = .ok (r.insert x.name d) :=
  enter_eq_ok_iff.2 ⟨accepted.1, d, accepted.2, rfl⟩

/-- A registration is refused exactly if there is no definition that it is accepted with, whatever the
registry. -/
theorem enter_eq_error_iff : (∃ fault, r.enter x = .error fault) ↔ ¬∃ d, x.Accepted d := by
  constructor
  · rintro ⟨fault, refused⟩ ⟨d, accepted⟩
    rw [r.enter_of_accepted accepted] at refused
    cases refused
  · intro never
    cases entered : r.enter x with
    | error fault => exact ⟨fault, rfl⟩
    | ok later =>
        obtain ⟨letters, d, defines, -⟩ := enter_eq_ok_iff.1 entered
        exact absurd ⟨d, letters, defines⟩ never

/-! ## One step of a run -/

def step (r : Registry) (x : Registration) : Registry :=
  r.registerAll [x]

theorem step_of_accepted (r : Registry) (accepted : x.Accepted d) :
    r.step x = r.insert x.name d := by
  rw [step, registerAll, r.enter_of_accepted accepted]
  rfl

theorem step_of_refused (r : Registry) (refused : ¬∃ d, x.Accepted d) : r.step x = r := by
  obtain ⟨fault, entered⟩ := enter_eq_error_iff.2 refused
  rw [step, registerAll, entered]
  rfl

theorem registerAll_cons (r : Registry) (x : Registration) (run : List Registration) :
    r.registerAll (x :: run) = (r.step x).registerAll run := by
  by_cases accepted : ∃ d, x.Accepted d
  · obtain ⟨d, accepted⟩ := accepted
    rw [r.step_of_accepted accepted, registerAll, r.enter_of_accepted accepted]
  · obtain ⟨fault, entered⟩ := enter_eq_error_iff.2 accepted
    rw [r.step_of_refused accepted, registerAll, entered]

/-- **A registration touches nothing but its name**, and that only if it is accepted. -/
theorem find?_step_of_not_renews (r : Registry) (kept : ¬x.Renews name) :
    (r.step x).find? name = r.find? name := by
  by_cases accepted : ∃ d, x.Accepted d
  · have different : name ≠ x.name := fun own => kept ⟨own.symm, accepted⟩
    obtain ⟨d, accepted⟩ := accepted
    rw [r.step_of_accepted accepted, find?_insert_of_ne r d different]
  · rw [r.step_of_refused accepted]

/-- What a name stands for after a registration is the same for two registries, if it is renewed or
stands for the same in both. -/
theorem find?_step_congr (agree : x.Renews name ∨ r.find? name = other.find? name) :
    (r.step x).find? name = (other.step x).find? name := by
  by_cases renews : x.Renews name
  · obtain ⟨rfl, d, accepted⟩ := renews
    rw [r.step_of_accepted accepted, other.step_of_accepted accepted, find?_insert_self,
      find?_insert_self]
  · rw [r.find?_step_of_not_renews renews, other.find?_step_of_not_renews renews]
    exact agree.resolve_left renews

/-! ## Names through a run -/

theorem registerAll_append (r : Registry) (before after : List Registration) :
    r.registerAll (before ++ after) = (r.registerAll before).registerAll after := by
  induction before generalizing r with
  | nil => rfl
  | cons x before ih => rw [List.cons_append, registerAll_cons, registerAll_cons, ih]

/-- **A name that a run does not renew stands for what it stood for.** -/
theorem find?_registerAll_of_not_renews (r : Registry) {run : List Registration}
    (kept : ¬Renews run name) : (r.registerAll run).find? name = r.find? name := by
  induction run generalizing r with
  | nil => rfl
  | cons x run ih =>
      obtain ⟨here, further⟩ := not_or.1 (renews_cons.not.1 kept)
      rw [registerAll_cons, ih _ further, r.find?_step_of_not_renews here]

/-- What a name stands for after a run is the same for two registries, if the run renews it or it
stands for the same in both. -/
theorem find?_registerAll_congr {run : List Registration}
    (agree : Renews run name ∨ r.find? name = other.find? name) :
    (r.registerAll run).find? name = (other.registerAll run).find? name := by
  induction run generalizing r other with
  | nil =>
      rcases agree with ⟨x, member, -⟩ | same
      · cases member
      · exact same
  | cons x run ih =>
      rw [registerAll_cons, registerAll_cons]
      apply ih
      rw [renews_cons] at agree
      rcases agree with (here | further) | same
      · exact .inr (find?_step_congr (.inl here))
      · exact .inl further
      · exact .inr (find?_step_congr (.inr same))

/-- **The last accepted registration of a name decides.** -/
theorem find?_registerAll_of_last (r : Registry) (accepted : x.Accepted d)
    (before : List Registration) {after : List Registration} (last : ¬Renews after x.name) :
    (r.registerAll (before ++ x :: after)).find? x.name = some d := by
  rw [registerAll_append, registerAll_cons, find?_registerAll_of_not_renews _ last,
    step_of_accepted _ accepted, find?_insert_self]

/-- For a name the registrations of another one may be left out. -/
theorem find?_registerAll_filter (r : Registry) {left : Text} (different : name ≠ left)
    (run : List Registration) :
    (r.registerAll (run.filter fun y => y.name ≠ left)).find? name =
      (r.registerAll run).find? name := by
  induction run generalizing r with
  | nil => rfl
  | cons x run ih =>
      rw [r.registerAll_cons x run]
      by_cases own : x.name = left
      · have kept : ¬x.Renews name := fun renews => different (renews.1.symm.trans own)
        rw [List.filter_cons_of_neg (by simp [own]), ih]
        exact find?_registerAll_congr (.inr (r.find?_step_of_not_renews kept).symm)
      · rw [List.filter_cons_of_pos (by simp [own]), registerAll_cons, ih]

/-- The registrations of a name before an accepted one may be left out. -/
theorem find?_registerAll_without_earlier (r : Registry) (accepted : x.Accepted d)
    (before after : List Registration) (name : Text) :
    (r.registerAll (before ++ x :: after)).find? name =
      (r.registerAll (before.filter (fun y => y.name ≠ x.name) ++ x :: after)).find? name := by
  rw [registerAll_append, registerAll_append]
  apply find?_registerAll_congr
  by_cases own : name = x.name
  · exact .inl ⟨x, List.mem_cons_self, own.symm, d, accepted⟩
  · exact .inr (r.find?_registerAll_filter own before).symm

/-! ## Runs -/

/-- **A registration touches only its own name.**  After any run of registrations on any registry:

* a text that calls no name with an accepted registration is compiled as before the run, to the same
  sequence, with the same log and the same draws;
* a registration that is refused leaves the registry as it is, so the run is that without it;
* an accepted registration that is the last one of its name decides what the name stands for, and no
  call or compilation can tell whether there were others of the name before it. -/
theorem registerAll_touches_own_names (r : Registry) (run : List Registration) :
    (∀ host given pattern source,
      (∀ s t, given.compileSettings host = .ok s → pattern = .text t →
        ∀ name ∈ Token.calleesAll (Tree.parse s t 0).tokens, ¬Renews run name) →
      compile (r.registerAll run) given pattern source host =
        compile r given pattern source host) ∧
    ∀ before x after, run = before ++ x :: after →
      (∀ fault, (r.registerAll before).enter x = .error fault →
        (r.registerAll before).step x = r.registerAll before ∧
        r.registerAll run = r.registerAll (before ++ after)) ∧
      ∀ later, (r.registerAll before).enter x = .ok later → ¬Renews after x.name →
        (∃ d, x.Defines d ∧ (r.registerAll run).find? x.name = some d) ∧
        (r.registerAll run).AnswersAlike
          (r.registerAll (before.filter (fun y => y.name ≠ x.name) ++ x :: after)) := by
  constructor
  case left =>
    intro host given pattern source others
    refine compile_congr given pattern (fun s t accepted same name called => ?_) source
    exact r.find?_registerAll_of_not_renews (others s t accepted same name called)
  case right =>
    rintro before x after rfl
    constructor
    · intro fault entered
      have refused := enter_eq_error_iff.1 ⟨fault, entered⟩
      have unchanged := step_of_refused (r.registerAll before) refused
      refine ⟨unchanged, ?_⟩
      rw [registerAll_append, registerAll_cons, unchanged, registerAll_append]
    · intro later entered last
      obtain ⟨letters, d, defines, -⟩ := enter_eq_ok_iff.1 entered
      have accepted : x.Accepted d := ⟨letters, defines⟩
      refine ⟨⟨d, defines, r.find?_registerAll_of_last accepted before last⟩, ?_⟩
      exact answersAlike_of_find? fun name _ =>
        r.find?_registerAll_without_earlier accepted before after name

/-- A built-in transform is replaced twice, with a refused registration in between: a text that calls
another one is compiled as before, and the first replacement might as well not be there. -/
theorem registerAll_touches_own_names_replaced :
    let silent : TransformFunction := fun s _ g => (.ok (s.map fun _ => .rest), g)
    let doubled : TransformFunction := fun s _ g => (.ok (s ++ s), g)
    let named (name : Text) (run : TransformFunction) : Registration :=
      ⟨name, run, .text "none".toList, .none⟩
    let first := named "reverse".toList silent
    let refused := named "reverse2".toList silent
    let last := named "reverse".toList doubled
    let reached := builtin.registerAll [first, refused, last]
    (∀ source, compile reached (.loose .none) (.text "mirror[1 2]".toList) source =
      compile builtin (.loose .none) (.text "mirror[1 2]".toList) source) ∧
    reached = builtin.registerAll [first, last] ∧
    (∃ d, last.Defines d ∧ reached.find? "reverse".toList = some d) ∧
    reached.AnswersAlike (builtin.registerAll [refused, last]) := by
  intro silent doubled named first refused last reached
  obtain ⟨others, parts⟩ := registerAll_touches_own_names builtin [first, refused, last]
  obtain ⟨decides, earlier⟩ := (parts [first, refused] last [] rfl).2 _ rfl (by simp [Renews])
  refine ⟨fun source => others _ _ _ source fun s t accepted same name called => ?_,
    ((parts [first] refused [last] rfl).1 (.setting (.nameNotLetters "reverse2".toList)) rfl).2,
    decides, earlier⟩
  cases accepted
  cases same
  have callees : Token.calleesAll (Tree.parse .default "mirror[1 2]".toList 0).tokens =
      ["mirror".toList] := by decide +kernel
  rw [callees, List.mem_singleton] at called
  rw [called]
  simp [Renews, Registration.Renews, first, refused, last, named]

end Registry

end StepPattern
