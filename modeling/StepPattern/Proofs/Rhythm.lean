/-
# StepPattern.Proofs.Rhythm -- values have no part in the rhythm

The rhythm of a sequence is the sequence with all its notes made alike.  The
transforms of order, length and chance are blind to values: they do the same with
the notes changed before as with the notes changed after (`Definition.Blind`).
The transforms of values change each note for itself and nothing else.  So what a
built-in call makes of a rhythm, and what it draws, is decided by the rhythm.

Two trees are alike if they differ only in the integers they write and in which
transform of values is called where one is (`Token.AllAlike`).  They yield the same
rhythm and draw the same words (`yieldFrom_alike`), by one induction over both.
-/
import StepPattern.Proofs.Draws

namespace StepPattern

set_option autoImplicit false

namespace Transform

/-! ## Rhythm -/

/-- A sequence with all its notes made alike. -/
def rhythm : Sequence → Sequence :=
  mapNotes fun _ => 0

theorem rhythm_mapNotes (f : Int → Int) (s : Sequence) : rhythm (mapNotes f s) = rhythm s := by
  simp only [rhythm, mapNotes, List.map_map]
  refine List.map_congr_left fun v _ => ?_
  cases v <;> rfl

theorem mapNotes_append (f : Int → Int) (s t : Sequence) :
    mapNotes f (s ++ t) = mapNotes f s ++ mapNotes f t :=
  List.map_append

theorem rhythm_append {s t u v : Sequence} (first : rhythm s = rhythm t)
    (second : rhythm u = rhythm v) : rhythm (s ++ u) = rhythm (t ++ v) := by
  simp only [rhythm, mapNotes_append] at *
  rw [first, second]

theorem rhythm_copies {s t : Sequence} (same : rhythm s = rhythm t) (count : Nat) :
    rhythm (List.replicate count s).flatten = rhythm (List.replicate count t).flatten := by
  induction count with
  | zero => rfl
  | succ count ih =>
      rw [List.replicate_succ, List.replicate_succ, List.flatten_cons, List.flatten_cons]
      exact rhythm_append same ih

theorem length_eq_of_rhythm {s t : Sequence} (same : rhythm s = rhythm t) :
    s.length = t.length := by
  simpa [rhythm] using congrArg List.length same

/-- Sequences of one rhythm have their rests at the same places. -/
theorem rest_iff_of_rhythm {s t : Sequence} (same : rhythm s = rhythm t) (i : Nat) :
    s[i]? = some .rest ↔ t[i]? = some .rest := by
  have kept : ∀ v : Value, v.mapNote (fun _ => 0) = .rest ↔ v = .rest := by
    intro v
    cases v <;> simp [Value.mapNote]
  have rests : ∀ u : Sequence, (rhythm u)[i]? = some .rest ↔ u[i]? = some .rest := by
    intro u
    simp [rhythm, mapNotes, kept]
  rw [← rests, same, rests]

theorem length_noteValues_of_rhythm {s t : Sequence} (same : rhythm s = rhythm t) :
    (noteValues s).length = (noteValues t).length := by
  have counted : ∀ u : Sequence, (noteValues (rhythm u)).length = (noteValues u).length := by
    intro u
    induction u with
    | nil => rfl
    | cons v u ih =>
        cases v with
        | note n => exact congrArg (· + 1) ih
        | _ => exact ih
  rw [← counted, same, counted]

/-! ## Transforms that are blind to values -/

theorem copies_mapNotes (f : Int → Int) (count : Int) (s : Sequence) :
    copies count (mapNotes f s) = (copies count s).map (mapNotes f) := by
  unfold copies
  rw [length_mapNotes]
  split
  · rfl
  · simp [mapNotes, List.flatMap_map, List.map_flatMap, Except.map]

theorem copiesBy_mapNotes (f : Int → Int) (count : Value) (s : Sequence) :
    copiesBy count (mapNotes f s) = (copiesBy count s).map (mapNotes f) := by
  unfold copiesBy
  split
  · rfl
  · exact copies_mapNotes f _ s
  · rw [length_mapNotes]
    split
    · rfl
    · rfl
    · cases s <;> rfl

theorem rotateBy_mapNotes (f : Int → Int) (places : Value) (s : Sequence) :
    rotateBy places (mapNotes f s) = (rotateBy places s).map (mapNotes f) := by
  unfold rotateBy
  rw [length_mapNotes]
  split
  · unfold rotate
    rw [length_mapNotes]
    split
    · rfl
    · simp [mapNotes, Except.map]
  · split <;> rfl

theorem mirror_mapNotes (f : Int → Int) (s : Sequence) :
    mirror (mapNotes f s) = mapNotes f (mirror s) := by
  simp [mirror, mapNotes]

theorem interleave_mapNotes (f : Int → Int) (s : Sequence) :
    interleave (mapNotes f s) = mapNotes f (interleave s) := by
  simp [interleave, mapNotes, List.flatMap_map, List.map_flatMap, Value.mapNote]

theorem thin_mapNotes (f : Int → Int) (p : Double) (done s : Sequence) (g : Twister) :
    thin p (mapNotes f done) (mapNotes f s) g =
      (mapNotes f (thin p done s g).1, (thin p done s g).2) := by
  fun_induction thin p done s g with
  | case1 done g => simp [thin, mapNotes]
  | case2 done n s g draw later drawn ih =>
      have changed : mapNotes f ((if Twister.isBelowDouble draw p then .rest else .note n) :: done) =
          (if Twister.isBelowDouble draw p then .rest else .note (f n)) :: mapNotes f done := by
        split <;> rfl
      rw [changed] at ih
      rw [← ih]
      show thin p (mapNotes f done) (.note (f n) :: mapNotes f s) g = _
      rw [thin, drawn]
  | case3 done v s g other ih =>
      have kept : v.mapNote f = v := by
        cases v with
        | note n => exact absurd rfl (other n)
        | _ => rfl
      have further : mapNotes f (v :: s) = v :: mapNotes f s := by
        rw [mapNotes, List.map_cons, kept, mapNotes]
      have before : mapNotes f (v :: done) = v :: mapNotes f done := by
        rw [mapNotes, List.map_cons, kept, mapNotes]
      rw [← ih, before, further, thin]
      exact other

theorem sparse_mapNotes (f : Int → Int) (percent : Value) (s : Sequence) (g : Twister) :
    sparse percent (mapNotes f s) g =
      ((sparse percent s g).1.map (mapNotes f), (sparse percent s g).2) := by
  unfold sparse
  cases probability percent with
  | error fault => rfl
  | ok p =>
      have thinned := thin_mapNotes f p [] s g
      rw [show mapNotes f [] = [] from rfl] at thinned
      simp only [thinned]
      rfl

end Transform

namespace Twister

theorem swapDown_map {α β : Type} (f : α → β) (place : Nat) (items : Array α) (g : Twister) :
    swapDown place (items.map f) g =
      ((swapDown place items g).1.map f, (swapDown place items g).2) := by
  induction place generalizing items g with
  | zero => rfl
  | succ place ih =>
      have swapped : ∀ i j, (items.map f).swapIfInBounds i j = (items.swapIfInBounds i j).map f := by
        intro i j
        simp only [Array.swapIfInBounds_def, Array.size_map]
        split
        · split
          · refine Array.ext (by simp) fun k _ _ => ?_
            simp only [Array.getElem_swap, Array.getElem_map]
            grind
          · rfl
        · rfl
      rw [swapDown_succ, swapDown_succ, swapped, ih]

/-- A shuffle moves items without looking at them. -/
theorem shuffle_map {α β : Type} (f : α → β) (g : Twister) (items : List α) :
    g.shuffle (items.map f) = ((g.shuffle items).1.map f, (g.shuffle items).2) := by
  have moved := swapDown_map f (items.length - 1) items.toArray g
  rw [List.map_toArray] at moved
  simp only [shuffle, List.length_map, moved, Array.toList_map]

end Twister

/-! ## The built-in transforms -/

namespace Definition

/-- Whether a transform does the same with the notes changed before as with the notes changed
after. -/
def Blind (d : Definition) : Prop :=
  ∀ (f : Int → Int) (s : Sequence) (param : Value) (g : Twister),
    d.run (Transform.mapNotes f s) param g =
      ((d.run s param g).1.map (Transform.mapNotes f), (d.run s param g).2)

theorem blind_plain {f : Sequence → Sequence}
    (blind : ∀ change s, f (Transform.mapNotes change s) = Transform.mapNotes change (f s)) :
    (plain f).Blind := by
  intro change s param g
  simp only [plain, blind]
  rfl

end Definition

namespace Registry

def valueTransforms : List Text :=
  ["invert".toList, "scale".toList, "offset".toList, "quantize".toList]

/-- **The built-in transforms** of values change each note for itself, and the others are blind to
values. -/
theorem builtin_notewise_or_blind : ∀ entry ∈ builtin,
    (entry.1 ∈ valueTransforms ∧ entry.2.Notewise) ∨
      (entry.1 ∉ valueTransforms ∧ entry.2.Blind) := by
  unfold builtin
  simp only [List.forall_mem_cons]
  refine ⟨.inr ⟨by decide, ?scramble⟩, .inl ⟨by decide, Definition.notewise_valuewise⟩,
    .inl ⟨by decide, Definition.notewise_valuewise⟩,
    .inl ⟨by decide, Definition.notewise_valuewise⟩,
    .inr ⟨by decide, Definition.blind_plain Transform.mirror_mapNotes⟩,
    .inr ⟨by decide, ?repeats⟩, .inl ⟨by decide, Definition.notewise_quantize⟩,
    .inr ⟨by decide, Definition.blind_plain fun _ _ => List.map_reverse.symm⟩,
    .inr ⟨by decide, ?rotate⟩, .inr ⟨by decide, ?sparse⟩,
    .inr ⟨by decide, Definition.blind_plain Transform.interleave_mapNotes⟩,
    List.forall_mem_nil _⟩
  case scramble =>
    intro f s param g
    simp only [Transform.scramble, Transform.mapNotes, Twister.shuffle_map]
    rfl
  case repeats =>
    intro f s param g
    simp only [Definition.requiring, Transform.copiesBy_mapNotes]
  case rotate =>
    intro f s param g
    simp only [Definition.defaulting, Transform.rotateBy_mapNotes]
  case sparse =>
    intro f s param g
    exact Transform.sparse_mapNotes f param s g

open Transform

/-- A definition that works note by note makes the same of every note of every sequence. -/
theorem run_notewise {d : Definition} (notewise : d.Notewise) (loud : Bool) (name : Text)
    (given : Value) :
    ∃ change, ∀ (s : Sequence) (g : Twister),
      (run d loud name given s g).sequence = mapNotes change s ∧
        (run d loud name given s g).source = g := by
  unfold run
  cases parameter d name given with
  | error error => exact ⟨id, fun s g => ⟨(mapNotes_id s).symm, rfl⟩⟩
  | ok param =>
      obtain ⟨change, leaves⟩ := notewise param
      refine ⟨change, fun s g => ?_⟩
      obtain ⟨changed, still⟩ := leaves s g
      rcases ran : d.run s param g with ⟨_ | _, later⟩ <;> rw [ran] at changed still <;>
        simp only [ran] <;> exact ⟨changed, still⟩

theorem run_blind {d : Definition} (blind : d.Blind) (loud : Bool) (name : Text) (given : Value)
    (f : Int → Int) (s : Sequence) (g : Twister) :
    (run d loud name given (mapNotes f s) g).sequence =
        mapNotes f (run d loud name given s g).sequence ∧
      (run d loud name given (mapNotes f s) g).source = (run d loud name given s g).source := by
  unfold run
  split
  · exact ⟨rfl, rfl⟩
  · rename_i param _
    rw [blind]
    rcases d.run s param g with ⟨_ | _, later⟩ <;> exact ⟨rfl, rfl⟩

/-- A call of a transform of values makes the same of every note of every sequence. -/
theorem call_notewise (loud : Bool) {call : Call} (named : call.name ∈ valueTransforms)
    (param : Value) :
    ∃ change, ∀ (s : Sequence) (g : Twister),
      (builtin.call loud call param s g).sequence = mapNotes change s ∧
        (builtin.call loud call param s g).source = g := by
  unfold Registry.call
  split
  · exact ⟨id, fun s g => ⟨(mapNotes_id s).symm, rfl⟩⟩
  · rename_i d found
    rcases builtin_notewise_or_blind _ (mem_of_find? found) with ⟨-, notewise⟩ | ⟨other, -⟩
    · exact run_notewise notewise loud _ _
    · exact absurd named other

/-- A call of a transform of values leaves the rhythm and the source as they are. -/
theorem call_of_valueTransform (loud : Bool) {call : Call} (named : call.name ∈ valueTransforms)
    (s : Sequence) (g : Twister) :
    rhythm (builtin.call loud call .none s g).sequence = rhythm s ∧
      (builtin.call loud call .none s g).source = g := by
  obtain ⟨change, changed⟩ := call_notewise loud named .none
  rw [(changed s g).1, (changed s g).2]
  exact ⟨rhythm_mapNotes change s, rfl⟩

theorem callWords_of_valueTransform {call : Call} (named : call.name ∈ valueTransforms)
    (s : Sequence) (g : Twister) : callWords call s g = 0 := by
  have scramble : call.name ≠ "scramble".toList := by
    intro same
    rw [same] at named
    exact absurd named (by decide)
  have sparse : call.name ≠ "sparse".toList := by
    intro same
    rw [same] at named
    exact absurd named (by decide)
  rw [callWords, if_neg scramble, if_neg sparse]

/-- A call of any other transform does the same with the notes changed before as with the notes
changed after. -/
theorem call_mapNotes (loud : Bool) {call : Call} (other : call.name ∉ valueTransforms)
    (param : Value) (f : Int → Int) (s : Sequence) (g : Twister) :
    (builtin.call loud call param (mapNotes f s) g).sequence =
        mapNotes f (builtin.call loud call param s g).sequence ∧
      (builtin.call loud call param (mapNotes f s) g).source =
        (builtin.call loud call param s g).source := by
  unfold Registry.call
  split
  · exact ⟨rfl, rfl⟩
  · rename_i d found
    rcases builtin_notewise_or_blind _ (mem_of_find? found) with ⟨named, -⟩ | ⟨-, blind⟩
    · exact absurd named other
    · exact run_blind blind loud _ _ f s g

theorem callWords_rhythm (call : Call) {s t : Sequence} (same : rhythm s = rhythm t)
    (g : Twister) : callWords call s g = callWords call t g := by
  unfold callWords sparseWords
  rw [length_eq_of_rhythm same, length_noteValues_of_rhythm same]

/-- **A built-in call gives the same rhythm and leaves the same source on sequences of one
rhythm.** -/
theorem call_rhythm (loud : Bool) (call : Call) {s t : Sequence} (same : rhythm s = rhythm t)
    (g : Twister) :
    rhythm (builtin.call loud call .none s g).sequence =
        rhythm (builtin.call loud call .none t g).sequence ∧
      (builtin.call loud call .none s g).source = (builtin.call loud call .none t g).source := by
  by_cases named : call.name ∈ valueTransforms
  · obtain ⟨first, stays⟩ := call_of_valueTransform loud named s g
    obtain ⟨second, alsoStays⟩ := call_of_valueTransform loud named t g
    rw [first, second, stays, alsoStays]
    exact ⟨same, rfl⟩
  · obtain ⟨first, source⟩ := call_mapNotes loud named .none (fun _ => 0) s g
    obtain ⟨second, otherSource⟩ := call_mapNotes loud named .none (fun _ => 0) t g
    rw [← source, ← otherSource]
    unfold rhythm at same ⊢
    rw [← first, ← second, same]
    exact ⟨rfl, rfl⟩

end Registry

/-! ## Trees that are alike -/

namespace Token

/-- Whether two brackets have the same call, or each that of a transform of values. -/
def AlikeCalls : Option Call → Option Call → Prop
  | none, none => True
  | some first, some second =>
      first = second ∨
        (first.name ∈ Registry.valueTransforms ∧ second.name ∈ Registry.valueTransforms)
  | _, _ => False

mutual

/-- Whether two tokens differ only in the integers that they write, and in which transform of values
is called where one is. -/
inductive Alike (restSymbol : Text) : Token → Token → Prop where
  | literal {t u : Text} (same : t = restSymbol ↔ u = restSymbol) :
      Alike restSymbol (.literal t) (.literal u)
  | repeated {t u : Text} {count : Nat} (same : t = restSymbol ↔ u = restSymbol) :
      Alike restSymbol (.repeated t count) (.repeated u count)
  | bracket {call other : Option Call} {inner otherInner : Text}
      {children otherChildren : List Token} {count : Option Nat} (calls : AlikeCalls call other)
      (inside : AllAlike restSymbol children otherChildren) :
      Alike restSymbol (.bracket call inner children count)
        (.bracket other otherInner otherChildren count)

/-- Whether two lists of tokens are alike, token by token. -/
inductive AllAlike (restSymbol : Text) : List Token → List Token → Prop where
  | nil : AllAlike restSymbol [] []
  | cons {token other : Token} {tokens others : List Token}
      (first : Alike restSymbol token other) (further : AllAlike restSymbol tokens others) :
      AllAlike restSymbol (token :: tokens) (other :: others)

end

end Token

/-! ## Trees that are alike yield alike -/

namespace Token

/-- Two yields of one rhythm that leave the same source. -/
structure SameRhythm (y z : Yield) : Prop where
  rhythm : Transform.rhythm y.sequence = Transform.rhythm z.sequence
  source : y.source = z.source

variable {c : Setting}

theorem SameRhythm.times {y z : Yield} (same : SameRhythm y z) (count : Nat) :
    SameRhythm (y.times count) (z.times count) :=
  ⟨Transform.rhythm_copies same.rhythm count, same.source⟩

theorem SameRhythm.add {y z piece other : Yield} (same : SameRhythm y z)
    (pieces : SameRhythm piece other) : SameRhythm (y.add piece) (z.add other) := by
  unfold Yield.add
  rw [Transform.length_eq_of_rhythm same.rhythm, Transform.length_eq_of_rhythm pieces.rhythm]
  split
  · exact ⟨same.rhythm, pieces.source⟩
  · exact ⟨Transform.rhythm_append same.rhythm pieces.rhythm, pieces.source⟩

theorem called_alike (builtIn : c.registry = .builtin) {call other : Option Call}
    (calls : AlikeCalls call other) {y z : Yield} (same : SameRhythm y z) :
    SameRhythm (c.called call y) (c.called other z) ∧
      Setting.calledWords call y = Setting.calledWords other z := by
  rcases y with ⟨s, g⟩
  rcases z with ⟨t, g'⟩
  obtain ⟨rhythm, source⟩ := same
  cases source
  cases call with
  | none =>
      cases other with
      | none => exact ⟨⟨rhythm, rfl⟩, rfl⟩
      | some other => exact calls.elim
  | some call =>
      cases other with
      | none => exact calls.elim
      | some other =>
          simp only [Setting.called, Setting.calledWords, builtIn]
          rcases calls with rfl | ⟨named, otherNamed⟩
          · obtain ⟨sequences, sources⟩ := Registry.call_rhythm c.loud call rhythm g
            exact ⟨⟨sequences, sources⟩, Registry.callWords_rhythm call rhythm g⟩
          · obtain ⟨first, stays⟩ := Registry.call_of_valueTransform c.loud named s g
            obtain ⟨second, alsoStays⟩ := Registry.call_of_valueTransform c.loud otherNamed t g
            refine ⟨⟨?_, stays.trans alsoStays.symm⟩, ?_⟩
            · show Transform.rhythm _ = Transform.rhythm _
              rw [first, second, rhythm]
            · rw [Registry.callWords_of_valueTransform named,
                Registry.callWords_of_valueTransform otherNamed]

theorem literalValue_alike {restSymbol t u : Text} (same : t = restSymbol ↔ u = restSymbol) :
    Transform.rhythm [literalValue restSymbol t] = Transform.rhythm [literalValue restSymbol u] := by
  unfold literalValue
  by_cases rest : t = restSymbol
  · rw [if_pos rest, if_pos (same.1 rest)]
  · rw [if_neg rest, if_neg fun also => rest (same.2 also)]
    rfl

theorem count_alike {restSymbol : Text} {token other : Token}
    (alike : Alike restSymbol token other) : token.count = other.count := by
  cases alike <;> rfl

mutual

theorem once_alike (builtIn : c.registry = .builtin) (source : Twister) :
    (token other : Token) → Alike c.restSymbol token other →
      SameRhythm (once c source token) (once c source other) ∧
        drawnOnce c source token = drawnOnce c source other
  | .literal _, _, .literal same | .repeated _ _, _, .repeated same =>
      ⟨⟨literalValue_alike same, rfl⟩, rfl⟩
  | .bracket _ _ children _, _, .bracket calls inside => by
      have start : SameRhythm (.start source) (.start source) := ⟨rfl, rfl⟩
      obtain ⟨within, words⟩ := yieldFrom_alike builtIn children _ inside start
      obtain ⟨applied, further⟩ := called_alike builtIn calls within
      rw [once, once, drawnOnce, drawnOnce, words, further]
      exact ⟨applied, rfl⟩

/-- **Tokens that are alike yield the same rhythm and draw the same words.** -/
theorem yieldFrom_alike (builtIn : c.registry = .builtin) {y z : Yield} :
    (tokens others : List Token) → AllAlike c.restSymbol tokens others → SameRhythm y z →
      SameRhythm (yieldFrom c y tokens) (yieldFrom c z others) ∧
        drawnFrom c y tokens = drawnFrom c z others
  | [], _, .nil, same => ⟨same, rfl⟩
  | token :: tokens, other :: others, .cons first further, same => by
      obtain ⟨here, words⟩ := once_alike builtIn y.source token other first
      have counted := count_alike first
      rw [yieldFrom, yieldFrom, drawnFrom, drawnFrom, ← same.source, ← counted, words]
      obtain ⟨there, more⟩ := yieldFrom_alike builtIn tokens others further
        (same.add (here.times token.count))
      exact ⟨there, by rw [more]⟩

end

end Token

/-! ## Evaluations -/

namespace Tree

open Token

/-- Whether tokens are what some text parses to, with some settings of this rest symbol and at some
depth. -/
def IsParsed (restSymbol : Text) (tokens : List Token) : Prop :=
  ∃ (s : CompileSettings) (t : Text) (depth : Int),
    s.restSymbol = restSymbol ∧ tokens = (parse s t depth).tokens

theorem IsParsed.readable {restSymbol : Text} {tokens : List Token}
    (parsed : IsParsed restSymbol tokens) : AllReadable restSymbol tokens := by
  obtain ⟨s, t, depth, rfl, rfl⟩ := parsed
  exact parse_readable s t depth

/-- **Values never influence rhythm or draws.**  Two parsed trees that differ only in the integers
of their notes, and in which transform of values is called where one is, evaluate with the built-in
transforms to sequences of the same length with rests at the same places; both draw the same number
of words from a source, and leave it behind these. -/
theorem evaluate_alike (s : CompileSettings) {tokens others : List Token}
    (parsed : IsParsed s.restSymbol tokens) (otherParsed : IsParsed s.restSymbol others)
    (alike : AllAlike s.restSymbol tokens others) (source : Twister) :
    ∃ (first second : Sequence) (words : Nat),
      (evaluate (s.setting .builtin) tokens source).result = .ok first ∧
      (evaluate (s.setting .builtin) others source).result = .ok second ∧
      first.length = second.length ∧
      (∀ i : Nat, first[i]? = some Value.rest ↔ second[i]? = some Value.rest) ∧
      drawnFrom (s.setting .builtin) (.start source) tokens = words ∧
      drawnFrom (s.setting .builtin) (.start source) others = words ∧
      (evaluate (s.setting .builtin) tokens source).source = source.after words ∧
      (evaluate (s.setting .builtin) others source).source = source.after words := by
  have start : SameRhythm (.start source) (.start source) := ⟨rfl, rfl⟩
  have alike : AllAlike (s.setting .builtin).restSymbol tokens others := alike
  obtain ⟨same, words⟩ := yieldFrom_alike rfl tokens others alike start
  obtain ⟨_, evaluated⟩ := evaluate_eq s .builtin parsed.readable source
  obtain ⟨_, otherwise⟩ := evaluate_eq s .builtin otherParsed.readable source
  have left : (yield s .builtin tokens source).source =
      source.after (drawnFrom (s.setting .builtin) (.start source) tokens) :=
    yieldFrom_source rfl (.start source) tokens
  rw [evaluated, otherwise]
  exact ⟨_, _, _, rfl, rfl, Transform.length_eq_of_rhythm same.rhythm,
    Transform.rest_iff_of_rhythm same.rhythm, rfl, words.symm, left,
    same.source.symm.trans left⟩

/-- A transform of values with a parameter and one that lacks it, around a call that draws. -/
theorem evaluate_alike_in_calls :
    ∃ (tokens others : List Token) (first second : Sequence) (words : Nat),
      tokens = (parse .default "1 scale3[2 - scramble[4 5]]*2 -7*3".toList 0).tokens ∧
      others = (parse .default "+9 quantize[8 - scramble[0 6]]*2 5*3".toList 0).tokens ∧
      AllAlike CompileSettings.default.restSymbol tokens others ∧
      (evaluate (CompileSettings.default.setting .builtin) tokens (.ofSeed 0)).result =
        .ok first ∧
      (evaluate (CompileSettings.default.setting .builtin) others (.ofSeed 0)).result =
        .ok second ∧
      first.length = second.length ∧
      (∀ i : Nat, first[i]? = some Value.rest ↔ second[i]? = some Value.rest) ∧
      drawnFrom (CompileSettings.default.setting .builtin) (.start (.ofSeed 0)) tokens = words ∧
      drawnFrom (CompileSettings.default.setting .builtin) (.start (.ofSeed 0)) others = words ∧
      (evaluate (CompileSettings.default.setting .builtin) tokens (.ofSeed 0)).source =
        Twister.after words (.ofSeed 0) ∧
      (evaluate (CompileSettings.default.setting .builtin) others (.ofSeed 0)).source =
        Twister.after words (.ofSeed 0) := by
  have one : (parse .default "1 scale3[2 - scramble[4 5]]*2 -7*3".toList 0).tokens =
      [.literal ['1'], .bracket (some ⟨"scale".toList, some 3⟩) "2 - scramble[4 5]".toList
        [.literal ['2'], .literal ['-'], .bracket (some ⟨"scramble".toList, none⟩) "4 5".toList
          [.literal ['4'], .literal ['5']] none] (some 2), .repeated ['-', '7'] 3] := rfl
  have other : (parse .default "+9 quantize[8 - scramble[0 6]]*2 5*3".toList 0).tokens =
      [.literal ['+', '9'], .bracket (some ⟨"quantize".toList, none⟩) "8 - scramble[0 6]".toList
        [.literal ['8'], .literal ['-'], .bracket (some ⟨"scramble".toList, none⟩) "0 6".toList
          [.literal ['0'], .literal ['6']] none] (some 2), .repeated ['5'] 3] := rfl
  have note : ∀ {t u : Text}, t ≠ ['-'] → u ≠ ['-'] → (t = ['-'] ↔ u = ['-']) :=
    fun first second => iff_of_false first second
  have alike : AllAlike CompileSettings.default.restSymbol
      (parse .default "1 scale3[2 - scramble[4 5]]*2 -7*3".toList 0).tokens
      (parse .default "+9 quantize[8 - scramble[0 6]]*2 5*3".toList 0).tokens := by
    rw [one, other]
    have drawing : AllAlike ['-'] [.literal ['4'], .literal ['5']] [.literal ['0'], .literal ['6']] :=
      .cons (.literal (note (by decide) (by decide)))
        (.cons (.literal (note (by decide) (by decide))) .nil)
    exact .cons (.literal (note (by decide) (by decide)))
      (.cons (.bracket (.inr ⟨by decide, by decide⟩)
        (.cons (.literal (note (by decide) (by decide)))
          (.cons (.literal Iff.rfl) (.cons (.bracket (.inl rfl) drawing) .nil))))
        (.cons (.repeated (note (by decide) (by decide))) .nil))
  obtain ⟨first, second, words, outcome⟩ := evaluate_alike .default
    ⟨.default, _, 0, rfl, rfl⟩ ⟨.default, _, 0, rfl, rfl⟩ alike (.ofSeed 0)
  exact ⟨_, _, first, second, words, rfl, rfl, alike, outcome⟩

end Tree

end StepPattern
