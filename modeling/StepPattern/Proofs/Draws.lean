/-
# StepPattern.Proofs.Draws -- how many words are drawn

A source gives one word after the other, so what is drawn from it is decided by
how many words are drawn.  Each kind of draw has a number of words, which may depend
on the words themselves, and leaves the source behind so many words
(`below_source`, `shuffle_source`).

Of the built-in transforms only `scramble` and `sparse` draw: a partner for each
place but the first, and a fraction for each note.  The others do the same with any
source (`builtin_drawless`).
-/
import StepPattern.Proofs.Steps

namespace StepPattern

set_option autoImplicit false

namespace Twister

/-- A source behind its next `count` words. -/
def after : Nat → Twister → Twister
  | 0, g => g
  | count + 1, g => after count g.next.2

theorem after_add (first second : Nat) (g : Twister) :
    after (first + second) g = after second (after first g) := by
  induction first generalizing g with
  | zero => rw [Nat.zero_add, after]
  | succ first ih => rw [Nat.succ_add, after, after, ih]

/-- The number of words that some random bits take: at least one. -/
def bitWords (count : Nat) : Nat :=
  if count ≤ 32 then 1 else bitWords (count - 32) + 1
termination_by count
decreasing_by omega

theorem bits_source (g : Twister) (count : Nat) : (g.bits count).2 = after (bitWords count) g := by
  fun_induction bits g count with
  | case1 g count few w later drawn =>
      rw [bitWords, if_pos few, after, after, drawn]
  | case2 g count many low later drawn high last rest ih =>
      rw [bitWords, if_neg many, after, drawn]
      rw [rest] at ih
      exact ih

/-- The number of words that are drawn until a number is below a bound. -/
def refuseWords (bound count : Nat) : Nat → Twister → Nat
  | 0, _ => 0
  | fuel + 1, g =>
      if (g.bits count).1 < bound then bitWords count
      else bitWords count + refuseWords bound count fuel (g.bits count).2

theorem refuse_source (bound count fuel : Nat) (g : Twister) :
    (refuse bound count fuel g).2 = after (refuseWords bound count fuel g) g := by
  induction fuel generalizing g with
  | zero => rfl
  | succ fuel ih =>
      simp only [refuse, refuseWords]
      split
      · exact bits_source g count
      · rw [ih, after_add, bits_source]

def belowWords (g : Twister) (bound : Nat) : Nat :=
  if bound = 0 then 0 else refuseWords bound (bitLength bound) attempts g

theorem below_source (g : Twister) (bound : Nat) :
    (g.below bound).2 = after (g.belowWords bound) g := by
  unfold below belowWords
  split
  · rfl
  · exact refuse_source _ _ _ g

theorem numerator_source (g : Twister) : g.numerator.2 = after 2 g := rfl

def swapWords : Nat → Twister → Nat
  | 0, _ => 0
  | place + 1, g => g.belowWords (place + 2) + swapWords place (g.below (place + 2)).2

theorem swapDown_source {α : Type} (place : Nat) (items : Array α) (g : Twister) :
    (swapDown place items g).2 = after (swapWords place g) g := by
  induction place generalizing items g with
  | zero => rfl
  | succ place ih => rw [swapDown_succ, ih, swapWords, after_add, below_source]

theorem shuffle_source {α : Type} (g : Twister) (items : List α) :
    (g.shuffle items).2 = after (g.swapWords (items.length - 1)) g :=
  swapDown_source _ _ g

end Twister

namespace Transform

open Twister

theorem thin_source (p : Double) (done s : Sequence) (g : Twister) :
    (thin p done s g).2 = after (2 * (noteValues s).length) g := by
  fun_induction thin p done s g with
  | case1 done g => rfl
  | case2 done n s g draw later drawn ih =>
      have one : noteValues (.note n :: s) = n :: noteValues s := rfl
      have two : 2 * (noteValues s).length + 2 = 2 + 2 * (noteValues s).length := by omega
      have first : later = after 2 g := by rw [← numerator_source, drawn]
      rw [ih, one, List.length_cons, Nat.mul_succ, two, after_add, first]
  | case3 done v s g other ih =>
      have same : noteValues (v :: s) = noteValues s := by
        cases v with
        | note n => exact absurd rfl (other n)
        | _ => rfl
      rw [ih, same]

def sparseWords (percent : Value) (s : Sequence) : Nat :=
  match probability percent with
  | .error _ => 0
  | .ok _ => 2 * (noteValues s).length

theorem sparse_source (percent : Value) (s : Sequence) (g : Twister) :
    (sparse percent s g).2 = after (sparseWords percent s) g := by
  unfold sparse sparseWords
  cases probability percent with
  | error fault => rfl
  | ok p => exact thin_source p [] s g

end Transform

/-! ## Calls -/

/-- Whether a transform draws nothing. -/
def Definition.Still (d : Definition) : Prop :=
  ∀ (s : Sequence) (param : Value) (g : Twister), (d.run s param g).2 = g

/-- Whether a transform does the same with any source, and leaves it as it is. -/
def Definition.Drawless (d : Definition) : Prop :=
  ∀ (s : Sequence) (param : Value) (g other : Twister), d.run s param g = ((d.run s param other).1, g)

theorem Definition.Drawless.still {d : Definition} (drawless : d.Drawless) : d.Still := by
  intro s param g
  rw [drawless s param g g]

/-- Whether a value is written as the name of one of some transforms, alone or with a parameter fused
to it. -/
def Value.Names (transforms : List Text) (v : Value) : Prop :=
  ∃ call, Call.ofValue v = .ok call ∧ call.name ∈ transforms

def drawingTransforms : List Text :=
  ["scramble".toList, "sparse".toList]

namespace Registry

/-- **All built-in transforms but these** do the same with any source. -/
theorem builtin_drawless : ∀ entry ∈ builtin, entry.1 ∉ drawingTransforms → entry.2.Drawless := by
  unfold builtin
  simp only [List.forall_mem_cons]
  exact ⟨fun other => absurd (by decide) other, fun _ _ _ _ _ => rfl, fun _ _ _ _ _ => rfl,
    fun _ _ _ _ _ => rfl, fun _ _ _ _ _ => rfl, fun _ _ _ _ _ => rfl, fun _ _ _ _ _ => rfl,
    fun _ _ _ _ _ => rfl, fun _ _ _ _ _ => rfl, fun other => absurd (by decide) other,
    fun _ _ _ _ _ => rfl, List.forall_mem_nil _⟩

/-- A definition that is run leaves the source as its function does. -/
theorem run_source (d : Definition) (loud : Bool) (name : Text) {given param : Value}
    (taken : parameter d name given = .ok param) (s : Sequence) (g : Twister) :
    (run d loud name given s g).source = (d.run s param g).2 := by
  simp only [run, taken]
  rcases d.run s param g with ⟨_ | _, later⟩ <;> rfl

theorem Still.run_source {d : Definition} (still : d.Still) (loud : Bool) (name : Text)
    (given : Value) (s : Sequence) (g : Twister) : (run d loud name given s g).source = g := by
  cases taken : parameter d name given with
  | error error => rw [run, taken]
  | ok param => rw [Registry.run_source d loud name taken, still]

def callWords (call : Call) (s : Sequence) (g : Twister) : Nat :=
  if call.name = "scramble".toList then g.swapWords (s.length - 1)
  else if call.name = "sparse".toList then
    Transform.sparseWords (call.fused.orElse (.int 50)) s
  else 0

/-- **A call of a built-in transform leaves the source behind the words it takes.** -/
theorem call_source (loud : Bool) (call : Call) (s : Sequence) (g : Twister) :
    (builtin.call loud call .none s g).source = g.after (callWords call s g) := by
  rcases call with ⟨name, param⟩
  by_cases scramble : name = "scramble".toList
  · subst scramble
    have shuffled := Twister.shuffle_source g s
    cases param <;> exact shuffled
  · by_cases sparse : name = "sparse".toList
    · subst sparse
      have taken : parameter (.defaulting 50 Transform.sparse) "sparse".toList
          (Call.fused ⟨"sparse".toList, param⟩) =
            .ok ((Call.fused ⟨"sparse".toList, param⟩).orElse (.int 50)) := by
        cases param <;> rfl
      exact (run_source _ loud _ taken s g).trans (Transform.sparse_source _ s g)
    · rw [callWords, if_neg scramble, if_neg sparse]
      unfold Registry.call
      split
      · rfl
      · rename_i d found
        have other : name ∉ drawingTransforms := by
          simp only [drawingTransforms, List.mem_cons, scramble, sparse, List.not_mem_nil, or_self,
            not_false_eq_true]
        have drawless : d.Drawless := builtin_drawless _ (mem_of_find? found) other
        exact Still.run_source drawless.still loud name _ s g

end Registry

/-! ## Tokens -/

/-- The number of words that a call takes, if there is one. -/
def Setting.calledWords : Option Call → Yield → Nat
  | none, _ => 0
  | some call, y => Registry.callWords call y.sequence y.source

namespace Token

mutual

/-- The number of words that one token takes with the built-in transforms. -/
def drawnOnce (c : Setting) (source : Twister) : Token → Nat
  | .literal _ | .repeated _ _ => 0
  | .bracket call _ children _ =>
      drawnFrom c (.start source) children +
        Setting.calledWords call (yieldFrom c (.start source) children)
termination_by structural token => token

def drawnFrom (c : Setting) (y : Yield) : List Token → Nat
  | [] => 0
  | token :: tokens =>
      drawnOnce c y.source token +
        drawnFrom c (y.add ((once c y.source token).times token.count)) tokens
termination_by structural tokens => tokens

end

theorem source_add (y piece : Yield) : (y.add piece).source = piece.source := by
  unfold Yield.add
  split <;> rfl

theorem called_source {c : Setting} (builtIn : c.registry = .builtin) (call : Option Call)
    (y : Yield) : (c.called call y).source = y.source.after (Setting.calledWords call y) := by
  cases call with
  | none => rfl
  | some call =>
      simp only [Setting.called, builtIn]
      exact Registry.call_source c.loud call y.sequence y.source

mutual

theorem once_source {c : Setting} (builtIn : c.registry = .builtin) (source : Twister) :
    (token : Token) → (once c source token).source = source.after (drawnOnce c source token)
  | .literal _ | .repeated _ _ => rfl
  | .bracket call _ children _ => by
      rw [once, called_source builtIn, yieldFrom_source builtIn, drawnOnce, Twister.after_add]
      rfl

/-- **Tokens leave the source behind the words that they take.** -/
theorem yieldFrom_source {c : Setting} (builtIn : c.registry = .builtin) (y : Yield) :
    (tokens : List Token) →
      (yieldFrom c y tokens).source = y.source.after (drawnFrom c y tokens)
  | [] => rfl
  | token :: tokens => by
      rw [yieldFrom, yieldFrom_source builtIn _ tokens, source_add, drawnFrom, Twister.after_add,
        ← once_source builtIn y.source token]
      rfl

end

end Token

end StepPattern
