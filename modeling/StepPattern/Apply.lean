/-
# StepPattern.Apply -- calling a transform by its name

A call never fails.  A name that is not one, or that nothing is registered under,
a required parameter that is absent, and a function that fails all leave the
sequence as it is and add one record to the log.  The random source keeps the
draws that a function made before it failed.
-/
import StepPattern.Registry

namespace StepPattern

set_option autoImplicit false

/-- A sequence, the log of how it came about, and the source left. -/
structure Outcome where
  sequence : Sequence
  log : Log
  source : Twister

namespace Registry

def faultEntry (loud : Bool) (name : Text) : Fault → LogEntry
  | .pattern error => .diagnostic loud error
  | fault =>
      .failure fault
        ("Transformation " ++ name.string ++ " failed, passing its input through")

/-- The parameter that a definition is run with, or an error if it needs one that is absent. -/
def parameter (d : Definition) (name : Text) : Value → Except PatternError Value
  | .none => if d.mode = .required then .error (.parameterMissing name) else .ok d.fallback
  | given => .ok given

def run (d : Definition) (loud : Bool) (name : Text) (given : Value) (s : Sequence)
    (g : Twister) : Outcome :=
  match parameter d name given with
  | .error error => ⟨s, [.diagnostic loud error], g⟩
  | .ok param =>
      match d.run s param g with
      | (.ok result, g) => ⟨result, [], g⟩
      | (.error fault, g) => ⟨s, [faultEntry loud name fault], g⟩

/-- A call run on a sequence; an explicit parameter wins over the fused one. -/
def call (r : Registry) (loud : Bool) (c : Call) (param : Value) (s : Sequence)
    (g : Twister) : Outcome :=
  match r.find? c.name with
  | none => ⟨s, [.diagnostic loud (.transformUnknown c.name)], g⟩
  | some d => run d loud c.name (param.orElse c.fused) s g

/-- A call depends on nothing but its name and the parameter that it comes to. -/
theorem call_congr (r : Registry) (loud : Bool) {first second : Call} {p q : Value}
    (name : first.name = second.name) (param : p.orElse first.fused = q.orElse second.fused)
    (s : Sequence) (g : Twister) : r.call loud first p s g = r.call loud second q s g := by
  rw [call, call, name, param]

/-- A call leaves a sequence as it is, or gives what a registered transform makes of it. -/
theorem call_sequence (r : Registry) (loud : Bool) (c : Call) (param : Value) (s : Sequence)
    (g : Twister) :
    (r.call loud c param s g).sequence = s ∨
      ∃ entry ∈ r, ∃ given,
        (entry.2.run s given g).1 = .ok (r.call loud c param s g).sequence := by
  unfold call
  split
  · exact .inl rfl
  · rename_i d found
    obtain ⟨entry, among, rfl⟩ := Option.map_eq_some_iff.1 found
    unfold run
    split
    · exact .inl rfl
    · rename_i given _
      split
      · rename_i ran
        exact .inr ⟨entry, List.mem_of_find?_eq_some among, given, by rw [ran]⟩
      · exact .inl rfl

/-- The transform that a value names, with an optional explicit parameter, on a sequence. -/
def apply (r : Registry) (loud : Bool) (name param : Value) (s : Sequence)
    (g : Twister) : Outcome :=
  match Call.ofValue name with
  | .error error => ⟨s, [.diagnostic loud error], g⟩
  | .ok c => r.call loud c param s g

/-- A transform applied by a name that can be read is its call. -/
theorem apply_of_written (r : Registry) (loud : Bool) {name : Value} {call : Call}
    (written : Call.ofValue name = .ok call) (param : Value) (s : Sequence) (g : Twister) :
    r.apply loud name param s g = r.call loud call param s g := by
  rw [apply, written]

end Registry

end StepPattern
