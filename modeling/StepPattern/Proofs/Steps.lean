/-
# StepPattern.Proofs.Steps -- the built-in transforms keep to steps

A sequence may hold any values that registered functions put in.  With the
built-in transforms it never holds anything but notes and rests: each of them
changes notes, moves or copies what is there, or puts in rests
(`builtin_keepsSteps`).  So what tokens yield is made of steps
(`yieldFrom_allSteps`), and the last touch of a compilation leaves it as it is
(`finished_eq_self`).
-/
import Mathlib.Data.List.Forall2
import StepPattern.Proofs.Yield

namespace StepPattern

set_option autoImplicit false

def AllSteps (s : Sequence) : Prop :=
  ∀ v ∈ s, v.step?.isSome

theorem AllSteps.of_forall_mem {s t : Sequence} (steps : AllSteps s)
    (known : ∀ v ∈ t, v ∈ s ∨ v = .rest) : AllSteps t := by
  intro v member
  rcases known v member with old | rfl
  · exact steps v old
  · rfl

theorem AllSteps.append {s t : Sequence} (steps : AllSteps s) (more : AllSteps t) :
    AllSteps (s ++ t) := by
  intro v member
  rcases List.mem_append.1 member with here | there
  · exact steps v here
  · exact more v there

theorem AllSteps.exists_eq_map {s : Sequence} (steps : AllSteps s) :
    ∃ values : List Step, s = values.map Step.toValue := by
  induction s with
  | nil => exact ⟨[], rfl⟩
  | cons v s ih =>
      obtain ⟨values, rfl⟩ := ih fun u member => steps u (List.mem_cons_of_mem v member)
      have here := steps v List.mem_cons_self
      cases v with
      | note n => exact ⟨.note n :: values, rfl⟩
      | rest => exact ⟨.rest :: values, rfl⟩
      | _ => cases here

/-- What literals stand for is made of steps. -/
theorem allSteps_map_literalValue (restSymbol : Text) (words : List Text) :
    AllSteps (words.map (literalValue restSymbol)) := by
  intro v member
  obtain ⟨word, -, rfl⟩ := List.mem_map.1 member
  rw [literalValue]
  split <;> rfl

/-! ## The built-in transforms -/

namespace Transform

theorem mapNotes_allSteps (f : Int → Int) {s : Sequence} (steps : AllSteps s) :
    AllSteps (mapNotes f s) := by
  intro v member
  obtain ⟨u, old, rfl⟩ := List.mem_map.1 member
  have here := steps u old
  cases u with
  | note n => rfl
  | _ => exact here

theorem withoutNotes_eq {compute : Int → Except Fault Unit} {s t : Sequence}
    (ran : withoutNotes compute s = .ok t) : t = s := by
  unfold withoutNotes at ran
  split at ran
  · cases ran
    rfl
  · cases computed : (noteValues s).forM compute with
    | error fault =>
        rw [computed] at ran
        cases ran
    | ok _ =>
        rw [computed] at ran
        cases ran

theorem mapNotes_id (s : Sequence) : mapNotes id s = s := by
  have same : Value.mapNote id = id := by
    funext v
    cases v <;> rfl
  rw [mapNotes, same, List.map_id]

theorem withoutNotes_getD (compute : Int → Except Fault Unit) (s : Sequence) :
    (withoutNotes compute s).toOption.getD s = s := by
  cases ran : withoutNotes compute s with
  | ok t => exact withoutNotes_eq ran
  | error fault => rfl

/-- What a transform of values leaves is the sequence with its notes changed, and what it does to a
note is decided by the parameter alone. -/
theorem valuewise_getD (f : Int → Int → Int) (compute : Number → Int → Except Fault Number)
    (param : Value) :
    ∃ change, ∀ s, (valuewise (fun p => mapNotes (f p)) compute param s).toOption.getD s =
      mapNotes change s := by
  unfold valuewise
  cases param.integer? with
  | some p => exact ⟨f p, fun s => rfl⟩
  | none =>
      refine ⟨id, fun s => ?_⟩
      cases param.number? <;> exact (withoutNotes_getD _ s).trans (mapNotes_id s).symm

theorem quantizeBy_getD (grid : Value) :
    ∃ change, ∀ s, (quantizeBy grid s).toOption.getD s = mapNotes change s := by
  unfold quantizeBy
  split
  · exact ⟨id, fun s => (mapNotes_id s).symm⟩
  · rename_i p _
    by_cases zero : p = 0
    · exact ⟨id, fun s => by rw [quantize, if_pos zero, mapNotes_id]; rfl⟩
    · exact ⟨snap p.natAbs, fun s => by rw [quantize, if_neg zero]; rfl⟩
  · -- A grid that is no integer is refused, or leaves what has no notes.
    refine ⟨id, fun s => ?_⟩
    rw [mapNotes_id]
    split
    · rfl
    · split
      · rfl
      · exact withoutNotes_getD _ s

theorem copies_allSteps {count : Int} {s t : Sequence} (steps : AllSteps s)
    (ran : copies count s = .ok t) : AllSteps t := by
  unfold copies at ran
  split at ran
  · cases ran
  · cases ran
    refine steps.of_forall_mem fun v member => .inl ?_
    obtain ⟨u, old, copied⟩ := List.mem_flatMap.1 member
    rw [List.eq_of_mem_replicate copied]
    exact old

theorem copiesBy_allSteps {count : Value} {s t : Sequence} (steps : AllSteps s)
    (ran : copiesBy count s = .ok t) : AllSteps t := by
  unfold copiesBy at ran
  split at ran
  · cases ran
  · exact copies_allSteps steps ran
  · split at ran
    · cases ran
    · cases ran
    · split at ran
      · cases ran
        intro v member
        cases member
      · cases ran

theorem rotateBy_allSteps {places : Value} {s t : Sequence} (steps : AllSteps s)
    (ran : rotateBy places s = .ok t) : AllSteps t := by
  unfold rotateBy at ran
  split at ran
  · cases ran
    refine steps.of_forall_mem fun v member => .inl ?_
    unfold rotate at member
    split at member
    · exact member
    · rcases List.mem_append.1 member with late | early
      · exact List.mem_of_mem_drop late
      · exact List.mem_of_mem_take early
  · split at ran
    · cases ran
      exact steps
    · cases ran

theorem mirror_allSteps {s : Sequence} (steps : AllSteps s) : AllSteps (mirror s) := by
  refine steps.of_forall_mem fun v member => .inl ?_
  rcases List.mem_append.1 member with there | back
  · exact there
  · exact List.dropLast_subset s (List.mem_reverse.1 back)

theorem interleave_allSteps {s : Sequence} (steps : AllSteps s) : AllSteps (interleave s) := by
  refine steps.of_forall_mem fun v member => ?_
  obtain ⟨u, old, here⟩ := List.mem_flatMap.1 member
  rcases List.mem_cons.1 here with rfl | gap
  · exact .inl old
  · exact .inr (List.mem_singleton.1 gap)

theorem thin_mem (p : Double) (done s : Sequence) (g : Twister) :
    ∀ v ∈ (thin p done s g).1, v ∈ done ∨ v ∈ s ∨ v = .rest := by
  fun_induction thin p done s g with
  | case1 done g =>
      intro v member
      exact .inl (List.mem_reverse.1 member)
  | case2 done g n s draw later _ ih =>
      intro v member
      rcases ih v member with old | further | rest
      · rcases List.mem_cons.1 old with here | older
        · split at here
          · exact .inr (.inr here)
          · exact .inr (.inl (here ▸ List.mem_cons_self))
        · exact .inl older
      · exact .inr (.inl (List.mem_cons_of_mem _ further))
      · exact .inr (.inr rest)
  | case3 done g u s _ ih =>
      intro v member
      rcases ih v member with old | further | rest
      · rcases List.mem_cons.1 old with rfl | older
        · exact .inr (.inl List.mem_cons_self)
        · exact .inl older
      · exact .inr (.inl (List.mem_cons_of_mem _ further))
      · exact .inr (.inr rest)

theorem sparse_allSteps {percent : Value} {s t : Sequence} {g : Twister} (steps : AllSteps s)
    (ran : (sparse percent s g).1 = .ok t) : AllSteps t := by
  cases computed : probability percent with
  | error fault =>
      rw [sparse, computed] at ran
      cases ran
  | ok p =>
      have thinned : (thin p [] s g).1 = t := by
        simpa only [sparse, computed, Except.ok.injEq] using ran
      subst thinned
      refine steps.of_forall_mem fun v member => ?_
      rcases thin_mem p [] s g v member with none | known
      · cases none
      · exact known

end Transform

namespace Twister

theorem swapDown_succ {α : Type} (place : Nat) (items : Array α) (g : Twister) :
    swapDown (place + 1) items g =
      swapDown place (items.swapIfInBounds (place + 1) (g.below (place + 2)).1)
        (g.below (place + 2)).2 := by
  rw [swapDown]

theorem swapDown_perm {α : Type} (place : Nat) (items : Array α) (g : Twister) :
    (swapDown place items g).1.Perm items := by
  induction place generalizing items g with
  | zero => exact .refl items
  | succ place ih =>
      have swapped : (items.swapIfInBounds (place + 1) (g.below (place + 2)).1).Perm items := by
        rw [Array.swapIfInBounds_def]
        split
        · split
          · exact Array.swap_perm _ _
          · exact .refl items
        · exact .refl items
      rw [swapDown_succ]
      exact (ih _ _).trans swapped

/-- A shuffle gives the same items in some order. -/
theorem shuffle_perm {α : Type} (g : Twister) (items : List α) :
    (g.shuffle items).1.Perm items := by
  have swapped := swapDown_perm (items.length - 1) items.toArray g
  rw [shuffle]
  exact Array.perm_iff_toList_perm.1 swapped

end Twister

namespace Definition

/-- Whether a transform makes steps of steps. -/
def KeepsSteps (d : Definition) : Prop :=
  ∀ (s t : Sequence) (param : Value) (g : Twister), AllSteps s →
    (d.run s param g).1 = .ok t → AllSteps t

theorem keepsSteps_plain {f : Sequence → Sequence} (keeps : ∀ {s}, AllSteps s → AllSteps (f s)) :
    (plain f).KeepsSteps := by
  rintro s t param g steps ⟨⟩
  exact keeps steps

/-- Whether a transform changes notes and nothing else, and draws nothing. -/
def ChangesNotes (d : Definition) : Prop :=
  ∀ (s : Sequence) (param : Value) (g : Twister), (d.run s param g).2 = g ∧
    ∀ t, (d.run s param g).1 = .ok t → ∃ change, t = Transform.mapNotes change s

/-- Whether a transform draws nothing and leaves, where it fails too, the sequence with its notes
changed in a way that only its parameter decides. -/
def Notewise (d : Definition) : Prop :=
  ∀ param : Value, ∃ change : Int → Int, ∀ (s : Sequence) (g : Twister),
    (d.run s param g).1.toOption.getD s = Transform.mapNotes change s ∧ (d.run s param g).2 = g

theorem notewise_requiring {f : Value → Sequence → Except Fault Sequence}
    (leaves : ∀ param, ∃ change, ∀ s, (f param s).toOption.getD s = Transform.mapNotes change s) :
    (requiring f).Notewise := by
  intro param
  obtain ⟨change, changed⟩ := leaves param
  exact ⟨change, fun s _ => ⟨changed s, rfl⟩⟩

theorem notewise_valuewise {f : Int → Int → Int}
    {compute : Number → Int → Except Fault Number} :
    (requiring (Transform.valuewise (fun p => Transform.mapNotes (f p)) compute)).Notewise :=
  notewise_requiring (Transform.valuewise_getD f compute)

theorem notewise_quantize : (requiring Transform.quantizeBy).Notewise :=
  notewise_requiring Transform.quantizeBy_getD

theorem Notewise.changesNotes {d : Definition} (notewise : d.Notewise) : d.ChangesNotes := by
  intro s param g
  obtain ⟨change, leaves⟩ := notewise param
  obtain ⟨changed, still⟩ := leaves s g
  refine ⟨still, fun t ran => ⟨change, ?_⟩⟩
  rw [← changed, ran]
  rfl

theorem changesNotes_valuewise {f : Int → Int → Int}
    {compute : Number → Int → Except Fault Number} :
    (requiring (Transform.valuewise (fun p => Transform.mapNotes (f p)) compute)).ChangesNotes :=
  notewise_valuewise.changesNotes

theorem changesNotes_quantize : (requiring Transform.quantizeBy).ChangesNotes :=
  notewise_quantize.changesNotes

theorem ChangesNotes.keepsSteps {d : Definition} (changes : d.ChangesNotes) : d.KeepsSteps := by
  intro s t param g steps ran
  obtain ⟨change, rfl⟩ := (changes s param g).2 t ran
  exact Transform.mapNotes_allSteps change steps

theorem keepsSteps_requiring {f : Value → Sequence → Except Fault Sequence}
    (keeps : ∀ {param s t}, AllSteps s → f param s = .ok t → AllSteps t) :
    (requiring f).KeepsSteps :=
  fun _ _ _ _ steps ran => keeps steps ran

theorem keepsSteps_defaulting {fallback : Int}
    {f : Value → Sequence → Twister → Except Fault Sequence × Twister}
    (keeps : ∀ {param s t g}, AllSteps s → (f param s g).1 = .ok t → AllSteps t) :
    (defaulting fallback f).KeepsSteps :=
  fun _ _ _ _ steps ran => keeps steps ran

end Definition

namespace Registry

def KeepsSteps (r : Registry) : Prop :=
  ∀ entry ∈ r, entry.2.KeepsSteps

/-- **The built-in transforms make steps of steps.** -/
theorem builtin_keepsSteps : KeepsSteps builtin := by
  unfold KeepsSteps builtin
  simp only [List.forall_mem_cons]
  refine ⟨?scramble, Definition.changesNotes_valuewise.keepsSteps,
    Definition.changesNotes_valuewise.keepsSteps, Definition.changesNotes_valuewise.keepsSteps,
    Definition.keepsSteps_plain Transform.mirror_allSteps,
    Definition.keepsSteps_requiring Transform.copiesBy_allSteps,
    Definition.changesNotes_quantize.keepsSteps,
    Definition.keepsSteps_plain ?reverse,
    Definition.keepsSteps_defaulting Transform.rotateBy_allSteps,
    Definition.keepsSteps_defaulting Transform.sparse_allSteps,
    Definition.keepsSteps_plain Transform.interleave_allSteps, ?none⟩
  case scramble =>
    intro s t param g steps ran
    have shuffled : (g.shuffle s).1 = t := Except.ok.inj ran
    subst shuffled
    exact steps.of_forall_mem fun v member => .inl ((Twister.shuffle_perm g s).mem_iff.1 member)
  case reverse =>
    intro s steps
    exact steps.of_forall_mem fun v member => .inl (List.mem_reverse.1 member)
  case none =>
    exact List.forall_mem_nil _

theorem KeepsSteps.call {r : Registry} (keeps : r.KeepsSteps) (loud : Bool) (c : Call)
    (param : Value) {s : Sequence} (g : Twister) (steps : AllSteps s) :
    AllSteps (r.call loud c param s g).sequence := by
  rcases r.call_sequence loud c param s g with same | ⟨entry, among, given, ran⟩
  · rw [same]
    exact steps
  · exact keeps entry among _ _ _ _ steps ran

end Registry

/-! ## Tokens under such transforms -/

namespace Yield

theorem times_allSteps {y : Yield} (steps : AllSteps y.sequence) (count : Nat) :
    AllSteps (y.times count).sequence := by
  refine steps.of_forall_mem fun v member => .inl ?_
  obtain ⟨copy, among, here⟩ := List.mem_flatten.1 member
  rwa [List.eq_of_mem_replicate among] at here

theorem add_allSteps {y piece : Yield} (steps : AllSteps y.sequence)
    (more : AllSteps piece.sequence) : AllSteps (y.add piece).sequence := by
  unfold add
  split
  · exact steps
  · exact steps.append more

end Yield

namespace Token

mutual

theorem once_allSteps {c : Setting} (keeps : c.registry.KeepsSteps) (source : Twister) :
    (token : Token) → AllSteps (once c source token).sequence
  | .literal text | .repeated text _ => allSteps_map_literalValue c.restSymbol [text]
  | .bracket call _ children _ => by
      have nothing : AllSteps (Yield.start source).sequence := List.forall_mem_nil _
      have inside := yieldFrom_allSteps keeps nothing children
      cases call with
      | none => exact inside
      | some call => exact keeps.call _ _ _ _ inside

/-- Where every transform makes steps of steps, tokens yield steps. -/
theorem yieldFrom_allSteps {c : Setting} (keeps : c.registry.KeepsSteps) {y : Yield}
    (steps : AllSteps y.sequence) : (tokens : List Token) →
      AllSteps (yieldFrom c y tokens).sequence
  | [] => steps
  | token :: tokens =>
      yieldFrom_allSteps keeps
        (Yield.add_allSteps steps (Yield.times_allSteps (once_allSteps keeps _ token) _)) tokens

end

end Token

/-! ## The last touch -/

/-- Values are normalized together exactly if each of them is read as a step. -/
theorem normalizeFrom_eq_ok_iff {restSymbol : Text} {done result : List Step}
    {values : List Value} :
    normalizeFrom restSymbol done values = .ok result ↔
      ∃ steps, List.Forall₂ (fun v step => Step.ofValue restSymbol v = .ok step) values steps ∧
        done.reverse ++ steps = result := by
  induction values generalizing done with
  | nil => simp [normalizeFrom]
  | cons v values ih =>
      rw [normalizeFrom]
      cases read : Step.ofValue restSymbol v with
      | ok step => simp [ih, List.forall₂_cons_left_iff, read]
      | error fault => simp [List.forall₂_cons_left_iff, read]

theorem normalizeFrom_toValue (restSymbol : Text) (done steps : List Step) :
    normalizeFrom restSymbol done (steps.map Step.toValue) = .ok (done.reverse ++ steps) := by
  have same : ∀ step : Step, Step.ofValue restSymbol step.toValue = .ok step := by
    intro step
    cases step <;> rfl
  refine normalizeFrom_eq_ok_iff.2 ⟨steps, ?_, rfl⟩
  rw [List.forall₂_map_left_iff, List.forall₂_same]
  exact fun step _ => same step

namespace CompileSettings

theorem finish_of_untouched (s : CompileSettings) (untouched : s.normalize.truthy = false)
    (sequence : Sequence) : s.finish sequence = .ok sequence := by
  rw [finish, untouched]
  rfl

theorem finished_of_untouched (s : CompileSettings) (untouched : s.normalize.truthy = false)
    (sequence : Sequence) : s.finished sequence = sequence := by
  rw [finished, s.finish_of_untouched untouched]

/-- A sequence of steps needs no last touch. -/
theorem finish_of_allSteps (s : CompileSettings) {sequence : Sequence}
    (steps : AllSteps sequence) : s.finish sequence = .ok sequence := by
  by_cases asked : s.normalize.truthy = true
  · obtain ⟨values, rfl⟩ := steps.exists_eq_map
    rw [finish, if_pos asked, StepPattern.normalize, normalizeFrom_toValue]
    rfl
  · exact s.finish_of_untouched (Bool.eq_false_iff.2 asked) sequence

theorem finished_eq_self (s : CompileSettings) {sequence : Sequence}
    (steps : AllSteps sequence) : s.finished sequence = sequence := by
  rw [finished, s.finish_of_allSteps steps]

end CompileSettings

theorem Tree.yield_builtin_allSteps (s : CompileSettings) (tokens : List Token)
    (source : Twister) : AllSteps (Tree.yield s Registry.builtin tokens source).sequence := by
  have nothing : AllSteps (Yield.start source).sequence := List.forall_mem_nil _
  exact Token.yieldFrom_allSteps Registry.builtin_keepsSteps nothing tokens

/-- With the built-in transforms a compilation gives just what its tokens yield. -/
theorem compile_builtin_eq (s : CompileSettings) (t : Text) (source : Twister) :
    ∃ log, compile Registry.builtin (.checked s) (.text t) (some source) =
      .ok ⟨(Tree.yield s Registry.builtin (Tree.parse s t 0).tokens source).sequence, log,
        some (Tree.yield s Registry.builtin (Tree.parse s t 0).tokens source).source⟩ := by
  obtain ⟨log, compiled⟩ := compile_text_eq Registry.builtin s t source
  rw [s.finished_eq_self (Tree.yield_builtin_allSteps s _ source)] at compiled
  exact ⟨log, compiled⟩

end StepPattern
