/-
# StepPattern.Proofs.Pruning -- the depth limit prunes and does nothing else

A tree is pruned to some levels by taking out every bracket token below them
(`Token.prunedAll`).  What a text parses to under a smaller limit is what it parses
to under a larger one, pruned (`parseWithin_pruned`); only the levels that are left
count, and not the limit and the depth they come from.

A text whose brackets nest within the smaller limit loses nothing
(`parseWithin_eq_of_nestsWithin`), so it compiles to the same outcome under both,
log and all.
-/
import Mathlib.Data.List.Infix
import StepPattern.Proofs.Requests
import StepPattern.Proofs.Yield

namespace StepPattern

set_option autoImplicit false

open Text

/-- A limit that settings can have. -/
abbrev DepthLimit := { n : Nat // n ≤ maxDepthLimit }

def CompileSettings.withLimit (s : CompileSettings) (limit : DepthLimit) : CompileSettings :=
  { s with depthLimit := limit, depthLimit_le := limit.2 }

/-! ## Pruned trees -/

namespace Token

mutual

/-- A token with brackets on so many levels only, if anything is left of it. -/
def pruned : Nat → Token → Option Token
  | _, .literal text => some (.literal text)
  | _, .repeated value count => some (.repeated value count)
  | 0, .bracket _ _ _ _ => none
  | levels + 1, .bracket call inner children count =>
      some (.bracket call inner (prunedAll levels children) count)
termination_by structural _ token => token

def prunedAll : Nat → List Token → List Token
  | _, [] => []
  | levels, token :: tokens => (pruned levels token).toList ++ prunedAll levels tokens
termination_by structural _ tokens => tokens

end

@[simp]
theorem prunedAll_append (levels : Nat) (first second : List Token) :
    prunedAll levels (first ++ second) = prunedAll levels first ++ prunedAll levels second := by
  induction first with
  | nil => rfl
  | cons token first ih => simp [prunedAll, ih]

theorem prunedAll_flatMap {α : Type} (levels : Nat) (f : α → List Token) (items : List α) :
    prunedAll levels (items.flatMap f) = items.flatMap fun item => prunedAll levels (f item) := by
  induction items with
  | nil => rfl
  | cons item items ih => simp [ih]

mutual

theorem pruned_eq_some {levels : Nat} :
    (token : Token) → nesting token ≤ levels → pruned levels token = some token
  | .literal _, _ | .repeated _ _, _ => rfl
  | .bracket call inner children count, within => by
      rw [nesting] at within
      obtain ⟨lower, rfl⟩ : ∃ lower, levels = lower + 1 := ⟨levels - 1, by omega⟩
      rw [pruned, prunedAll_eq_self children (by omega)]

/-- Tokens that nest within the levels lose nothing. -/
theorem prunedAll_eq_self {levels : Nat} :
    (tokens : List Token) → nestingAll tokens ≤ levels → prunedAll levels tokens = tokens
  | [], _ => rfl
  | token :: tokens, within => by
      rw [nestingAll, Nat.max_le] at within
      rw [prunedAll, pruned_eq_some token within.1, prunedAll_eq_self tokens within.2]
      rfl

end

mutual

theorem nesting_pruned {levels : Nat} :
    (token : Token) → ∀ kept ∈ pruned levels token, nesting kept ≤ levels
  | .literal _ | .repeated _ _ => by
      rintro kept ⟨⟩
      exact Nat.zero_le _
  | .bracket call inner children count => by
      cases levels with
      | zero =>
          rintro kept ⟨⟩
      | succ lower =>
          rintro kept ⟨⟩
          exact Nat.succ_le_succ (nestingAll_prunedAll children)

/-- What is left nests within the levels. -/
theorem nestingAll_prunedAll {levels : Nat} :
    (tokens : List Token) → nestingAll (prunedAll levels tokens) ≤ levels
  | [] => Nat.zero_le _
  | token :: tokens => by
      have below : nestingAll (prunedAll levels tokens) ≤ levels := nestingAll_prunedAll tokens
      have others := nestingAll_le_iff.1 below
      rw [prunedAll, nestingAll_le_iff]
      intro kept member
      rcases List.mem_append.1 member with here | there
      · exact nesting_pruned token kept (Option.mem_toList.1 here)
      · exact others kept there

end

end Token

/-! ## Smaller and larger limits -/

namespace Tree

open Token

/-- Where fewer levels are left, a raw token adds what it adds where there are more, pruned. -/
theorem parseToken_pruned {s s' : CompileSettings} (same : s'.restSymbol = s.restSymbol)
    {levels more : Nat} (le : levels ≤ more)
    (inside : ∀ lower deeper, lower + 1 = levels → deeper + 1 = more → ∀ inner,
      (parseWithin s lower inner).tokens = prunedAll lower (parseWithin s' deeper inner).tokens)
    (raw : Text) :
    (parseToken s (descend s levels) raw).tokens =
      prunedAll levels (parseToken s' (descend s' more) raw).tokens := by
  rw [parseToken, parseToken, same]
  cases classify s.restSymbol raw with
  | error error => rfl
  | ok token =>
      cases token with
      | literal text | repeated value count => rfl
      | bracket call inner children count =>
          cases levels with
          | zero => cases more <;> rfl
          | succ lower =>
              obtain ⟨deeper, rfl⟩ : ∃ deeper, more = deeper + 1 := ⟨more - 1, by omega⟩
              simp only [descend, Parsed.one, prunedAll, pruned, inside lower deeper rfl rfl inner]
              rfl

/-- **Fewer levels prune the tree**, and do nothing else. -/
theorem parseWithin_pruned {s s' : CompileSettings} (same : s'.restSymbol = s.restSymbol)
    {levels more : Nat} (le : levels ≤ more) (t : Text) :
    (parseWithin s levels t).tokens = prunedAll levels (parseWithin s' more t).tokens := by
  -- An inside has one level less on both sides, so both numbers go down together.
  induction levels using Nat.strongRecOn generalizing more t with
  | _ levels ih =>
      have inside : ∀ lower deeper, lower + 1 = levels → deeper + 1 = more → ∀ inner,
          (parseWithin s lower inner).tokens =
            prunedAll lower (parseWithin s' deeper inner).tokens := by
        intro lower deeper below belowMore inner
        exact ih lower (by omega) (by omega) inner
      simp only [parseWithin_tokens, prunedAll_flatMap, parseToken_pruned same le inside]

/-- Only the levels that are left count, and not the limit that they are left of. -/
theorem parse_withLimit_tokens (s : CompileSettings) (limit : DepthLimit) (t : Text) :
    (parse (s.withLimit limit) t 0).tokens = (parseWithin s limit t).tokens := by
  have nested := (parse_allWellFormed (s.withLimit limit) t 0).2
  rw [Int.sub_zero, Int.toNat_natCast] at nested
  have same : (s.withLimit limit).restSymbol = s.restSymbol := rfl
  have pruned := parseWithin_pruned same (Nat.le_refl limit) t
  rw [pruned, ← prunedAll_eq_self _ nested, parse_eq_parseWithin]
  rfl

end Tree

/-! ## Texts that nest within the limit -/

namespace Text

/-- Whether no more than so many brackets are open anywhere in a text. -/
def NestsWithin (levels : Nat) (t : Text) : Prop :=
  ∀ p ∈ t.inits, depth p ≤ levels

instance (levels : Nat) (t : Text) : Decidable (NestsWithin levels t) :=
  inferInstanceAs (Decidable (∀ p ∈ t.inits, depth p ≤ levels))

/-- The inside of a bracket that is open outside all others nests on one level less. -/
theorem NestsWithin.inside {levels : Nat} {before name inside after : Text}
    (nests : NestsWithin levels (before ++ (name ++ '[' :: (inside ++ after))))
    (outside : depth before = 0) (named : Named name) (balanced : within 0 inside = some 0) :
    ∃ lower, levels = lower + 1 ∧ NestsWithin lower inside := by
  have deeper : ∀ p, p <+: inside → depth p + 1 ≤ levels := by
    rintro p ⟨q, rfl⟩
    obtain ⟨left, stillOpen, -⟩ : ∃ left, within 0 p = some left ∧ within left q = some 0 := by
      rwa [within_append, Option.bind_eq_some_iff] at balanced
    have reached : depth (before ++ (name ++ '[' :: p)) = left + 1 := by
      rw [depth_append, outside]
      exact Piece.depth_unfinished named stillOpen
    have starts : before ++ (name ++ '[' :: p) <+:
        before ++ (name ++ '[' :: (p ++ q ++ after)) := ⟨q ++ after, by simp⟩
    have bounded := nests _ ((List.mem_inits _ _).2 starts)
    rw [reached] at bounded
    rwa [depth_eq_of_within stillOpen]
  refine ⟨levels - 1, ?_, ?_⟩
  · have := deeper [] List.nil_prefix
    omega
  · intro p starts
    have := deeper p ((List.mem_inits _ _).1 starts)
    omega

end Text

namespace Piece

/-- A piece that a cut finds is the first one behind some text, which ends outside all brackets. -/
theorem Cut.exists_before {position : Nat} {t rest : Text} {pieces : List Piece}
    (cut : Cut position t pieces rest) {p : Piece} (found : p ∈ pieces) :
    ∃ before after start, t = before ++ (p.text ++ after) ∧ depth before = 0 ∧
      First start p after := by
  induction cut with
  | done => cases found
  | @piece position q t pieces rest first further ih =>
      rcases List.mem_cons.1 found with rfl | later
      · exact ⟨[], t, position, rfl, rfl, first⟩
      · obtain ⟨before, after, start, rfl, outside, here⟩ := ih later
        refine ⟨q.text ++ before, after, start, by simp, ?_, here⟩
        have complete : q.isComplete = true := by
          rw [← Bool.not_eq_false]
          intro incomplete
          obtain ⟨atEnd, -⟩ := first.eq_nil_of_incomplete incomplete
          have nothing : before = [] ∧ p.text = [] ∧ after = [] := by simpa using atEnd
          exact here.text_ne_nil nothing.2.1
        rw [depth_append, first.depth_eq_zero complete]
        exact outside

theorem exists_before_of_rawToken {raw t : Text} (member : raw ∈ rawTokens t) :
    ∃ before after start, t = before ++ (raw ++ after) ∧ depth before = 0 ∧
      First start (.token raw) after := by
  obtain ⟨p, found, same⟩ := List.mem_filterMap.1 member
  cases p with
  | blank | stray | unfinished => cases same
  | token _ =>
      cases same
      exact (cut_ofText t).exists_before found

end Piece

namespace Tree

open Token

/-- **A text that nests within the levels loses nothing**, and its log says so. -/
theorem parseWithin_eq_of_nestsWithin {s s' : CompileSettings}
    (same : s'.restSymbol = s.restSymbol) (sameLoud : s'.loud = s.loud) {levels more : Nat}
    (le : levels ≤ more) {t : Text} (nests : NestsWithin levels t) :
    parseWithin s levels t = parseWithin s' more t := by
  induction levels using Nat.strongRecOn generalizing more t with
  | _ levels ih =>
      have each : ∀ raw ∈ Piece.rawTokens t,
          parseToken s (descend s levels) raw = parseToken s' (descend s' more) raw := by
        intro raw member
        obtain ⟨before, after, start, rfl, outside, first⟩ :=
          Piece.exists_before_of_rawToken member
        rw [parseToken, parseToken, same, sameLoud]
        cases classified : classify s.restSymbol raw with
        | error error => rfl
        | ok token =>
            have parts := raw_of_classify s.restSymbol_ok first classified
            cases first with
            | word nonempty unbroken =>
                cases parts with
                | value | repeated => rfl
                | bracket => exact absurd (by simp) unbroken.open_notMem
            | bracket named balanced ends =>
                obtain ⟨call, count, -, -, rfl⟩ :=
                  (classify_bracket_eq_ok_iff named balanced ends).1 classified
                simp only [List.append_assoc, List.cons_append] at nests
                obtain ⟨lower, rfl, within⟩ := nests.inside outside named balanced
                obtain ⟨deeper, rfl⟩ : ∃ deeper, more = deeper + 1 := ⟨more - 1, by omega⟩
                simp only [descend, ih lower (by omega) (by omega : lower ≤ deeper) within]
      have bodies : (Piece.tokens (Piece.ofText t)).map (parseToken s (descend s levels)) =
          (Piece.tokens (Piece.ofText t)).map (parseToken s' (descend s' more)) :=
        List.map_congr_left each
      rw [parseWithin_eq, parseWithin_eq, parseLevel, parseLevel, bodies, sameLoud]

end Tree

/-! ## Compilations -/

section

variable {s : CompileSettings} {d₁ d₂ : DepthLimit} {t : Text}

/-- Where a text parses alike under two limits, it compiles alike. -/
theorem compile_withLimit_congr (same : Tree.parse (s.withLimit d₁) t 0 =
      Tree.parse (s.withLimit d₂) t 0) (r : Registry) (source : Option Twister) (host : Host) :
    compile r (.checked (s.withLimit d₁)) (.text t) source host =
      compile r (.checked (s.withLimit d₂)) (.text t) source host := by
  have texts : ∀ g, compileText r (s.withLimit d₁) t g = compileText r (s.withLimit d₂) t g := by
    intro g
    rw [compileText, compileText, same]
    rfl
  show compileChecked r (s.withLimit d₁) (.text t) source host =
    compileChecked r (s.withLimit d₂) (.text t) source host
  by_cases empty : t = []
  · subst empty
    rfl
  · cases source with
    | some g => rw [compileChecked_text_some r _ empty, compileChecked_text_some r _ empty, texts]
    | none =>
        rw [compileChecked_text_none r _ empty, compileChecked_text_none r _ empty]
        simp only [texts]
        rfl

theorem parse_withLimit_eq_of_nestsWithin (le : d₁ ≤ d₂) (nests : NestsWithin d₁ t) :
    Tree.parse (s.withLimit d₁) t 0 = Tree.parse (s.withLimit d₂) t 0 := by
  have within : NestsWithin ((d₁ : Nat) - (0 : Int)).toNat t := by simpa using nests
  have order : ((d₁ : Nat) - (0 : Int)).toNat ≤ ((d₂ : Nat) - (0 : Int)).toNat := by
    have : (d₁ : Nat) ≤ d₂ := le
    omega
  apply Tree.parseWithin_eq_of_nestsWithin _ _ order within <;> rfl

end

/-- **The depth limit prunes and does nothing else.**  Let settings differ in their limits only.
Under the smaller one a text parses, from any starting depth, to what it parses to under the larger
one without the bracket tokens below the levels that are left.  A text that is parsed from some
depth parses as one that is parsed from depth 0 under a limit smaller by as much.  So where the
tokens nest within the smaller limit, both limits give the same sequence and leave the same source,
and where the text does, they give the same outcome. -/
theorem parse_withLimit (s : CompileSettings) (t : Text) {d₁ d₂ : DepthLimit} (le : d₁ ≤ d₂) :
    (∀ depth : Int, (Tree.parse (s.withLimit d₁) t depth).tokens =
      Token.prunedAll ((d₁ : Nat) - depth).toNat (Tree.parse (s.withLimit d₂) t depth).tokens) ∧
    (∀ (d lower : DepthLimit) (depth : Int), ((lower : Nat) : Int) = (d : Nat) - depth →
      (Tree.parse (s.withLimit d) t depth).tokens = (Tree.parse (s.withLimit lower) t 0).tokens) ∧
    (Token.nestingAll (Tree.parse (s.withLimit d₂) t 0).tokens ≤ d₁ →
      ∀ (r : Registry) (source : Twister), ∃ sequence after log₁ log₂,
        compile r (.checked (s.withLimit d₁)) (.text t) (some source) =
          .ok ⟨sequence, log₁, after⟩ ∧
        compile r (.checked (s.withLimit d₂)) (.text t) (some source) =
          .ok ⟨sequence, log₂, after⟩) ∧
    (NestsWithin d₁ t → ∀ (r : Registry) (source : Option Twister) (host : Host),
      compile r (.checked (s.withLimit d₁)) (.text t) source host =
        compile r (.checked (s.withLimit d₂)) (.text t) source host) := by
  have order : (d₁ : Nat) ≤ d₂ := le
  have prunes : ∀ depth : Int, (Tree.parse (s.withLimit d₁) t depth).tokens =
      Token.prunedAll ((d₁ : Nat) - depth).toNat (Tree.parse (s.withLimit d₂) t depth).tokens := by
    intro depth
    have fewer : ((d₁ : Nat) - depth).toNat ≤ ((d₂ : Nat) - depth).toNat := by omega
    apply Tree.parseWithin_pruned _ fewer
    rfl
  refine ⟨prunes, ?shift, ?tokens, ?text⟩
  case shift =>
    intro d lower depth levels
    have all := Token.prunedAll_eq_self _ (Tree.parse_allWellFormed (s.withLimit lower) t 0).2
    have left : ((d : Nat) - depth).toNat = (((lower : Nat) : Int) - 0).toNat := by omega
    rw [← all]
    show (Tree.parseWithin (s.withLimit d) ((d : Nat) - depth).toNat t).tokens = _
    rw [left]
    apply Tree.parseWithin_pruned _ (Nat.le_refl _)
    rfl
  case tokens =>
    intro nested r source
    have same : (Tree.parse (s.withLimit d₁) t 0).tokens =
        (Tree.parse (s.withLimit d₂) t 0).tokens := by
      rw [prunes, Int.sub_zero, Int.toNat_natCast, Token.prunedAll_eq_self _ nested]
    obtain ⟨log₁, first⟩ := compile_text_eq r (s.withLimit d₁) t source
    obtain ⟨log₂, second⟩ := compile_text_eq r (s.withLimit d₂) t source
    rw [same] at first
    exact ⟨_, _, log₁, log₂, first, second⟩
  case text =>
    intro nests r source host
    exact compile_withLimit_congr (parse_withLimit_eq_of_nestsWithin le nests) r source host

/-- A repeated call with a group inside, on two levels: under the limits 2 and 10, and from depth 3
under the limit 10. -/
theorem parse_withLimit_two_levels :
    ∃ (d₁ d₂ lower : DepthLimit) (t : Text),
      d₁.1 = 2 ∧ d₂.1 = 10 ∧ lower.1 = 7 ∧ t = "1 mirror[2 [3 -]]*2".toList ∧ d₁ ≤ d₂ ∧
      ((lower : Nat) : Int) = (d₂ : Nat) - 3 ∧
      (Tree.parse (CompileSettings.default.withLimit d₂) t 3).tokens =
        (Tree.parse (CompileSettings.default.withLimit lower) t 0).tokens ∧
      Token.nestingAll (Tree.parse (CompileSettings.default.withLimit d₂) t 0).tokens ≤ d₁ ∧
      (∃ sequence after log₁ log₂,
        compile .builtin (.checked (CompileSettings.default.withLimit d₁)) (.text t)
          (some (.ofSeed 0)) = .ok ⟨sequence, log₁, after⟩ ∧
        compile .builtin (.checked (CompileSettings.default.withLimit d₂)) (.text t)
          (some (.ofSeed 0)) = .ok ⟨sequence, log₂, after⟩) ∧
      NestsWithin d₁ t ∧
      compile .builtin (.checked (CompileSettings.default.withLimit d₁)) (.text t) none =
        compile .builtin (.checked (CompileSettings.default.withLimit d₂)) (.text t) none := by
  have order : (⟨2, by decide⟩ : DepthLimit) ≤ ⟨10, by decide⟩ := by decide
  obtain ⟨-, shift, tokens, text⟩ :=
    parse_withLimit .default "1 mirror[2 [3 -]]*2".toList order
  have shifted := shift ⟨10, by decide⟩ ⟨7, by decide⟩ 3 rfl
  have nested : Token.nestingAll (Tree.parse (CompileSettings.default.withLimit ⟨10, by decide⟩)
      "1 mirror[2 [3 -]]*2".toList 0).tokens ≤ 2 := by
    have parsed : Tree.parse (CompileSettings.default.withLimit ⟨10, by decide⟩)
        "1 mirror[2 [3 -]]*2".toList 0 =
          { tokens := [.literal ['1'], .bracket (some ⟨"mirror".toList, none⟩) "2 [3 -]".toList
              [.literal ['2'], .bracket none "3 -".toList [.literal ['3'], .literal ['-']] none]
              (some 2)]
            log := [] } := rfl
    rw [parsed]
    decide
  have nests : NestsWithin 2 "1 mirror[2 [3 -]]*2".toList := by decide
  have drawn := tokens nested .builtin (.ofSeed 0)
  have whole := text nests .builtin none .default
  exact ⟨⟨2, by decide⟩, ⟨10, by decide⟩, ⟨7, by decide⟩, "1 mirror[2 [3 -]]*2".toList, rfl, rfl,
    rfl, rfl, order, rfl, shifted, nested, drawn, nests, whole⟩

end StepPattern
