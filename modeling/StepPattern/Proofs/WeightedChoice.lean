/-
# StepPattern.Proofs.WeightedChoice -- which item a weighted choice comes to

The total of the weights is exact as long as no weight is a double, while the running sum
that is compared with the threshold is one of doubles from the start.  A running sum of
weights that are not negative never falls (`Double.Sum.le_add`), and a weight of zero
leaves it as it is, since a sum that was rounded once is not changed by rounding again
(`Double.Sum.add_zero`).  So an item of weight zero is never the first at which the sum
reaches a threshold that it had not reached before.

That leaves two ways to an item of weight zero (`Weighted.choose_weighs`):

* a threshold of zero is reached by the first item, whatever its weight is;
* a threshold that the running sum does not reach at all leaves the last item.

The second takes a total that is exact: doubles add up to the same total again.  A total
that no double can hold is refused after the draw.
-/
import StepPattern.Chance.Weighted
import StepPattern.Proofs.Doubles
import StepPattern.Proofs.ExactNumbers
import StepPattern.Proofs.Fractions
import StepPattern.Proofs.Order

namespace StepPattern

set_option autoImplicit false

/-! ## Running sums -/

namespace Double

/-- A sum of doubles that are not negative: a double that rounding leaves as it is, or too large for
one. -/
inductive Sum : Double → Prop
  | finite {p : Rat} (nonneg : 0 ≤ p) (rounded : nearest p = p) (small : p < overflowBound) :
      Sum (.finite p)
  | tooLarge : Sum (.infinite false)

theorem le_finite {t p : Rat} : (Double.finite t).le (.finite p) = decide (t ≤ p) := by
  have compared := Number.le_eq (a := .double (.finite t)) (b := .double (.finite p)) rfl rfl
  exact Except.ok.inj compared

theorem le_tooLarge (t : Rat) : (Double.finite t).le (.infinite false) = true := rfl

theorem sum_round {q : Rat} (nonnegative : 0 ≤ q) : Sum (round q) := by
  rw [round_of_nonneg nonnegative]
  split
  case isTrue => exact .tooLarge
  case isFalse fits =>
    exact .finite (nearest_nonneg nonnegative) (nearest_nearest nonnegative) (not_le.1 fits)

theorem sum_zero : Sum (.finite 0) :=
  .finite le_rfl nearest_zero overflowBound_pos

namespace Sum

variable {s d : Double} {w : Rat}

/-- A sum that is not too large is rounded to itself. -/
theorem round_eq {p : Rat} (sum : Sum (.finite p)) : round p = .finite p := by
  cases sum with
  | finite nonneg rounded small => rw [round_of_nonneg nonneg, rounded, if_neg (not_le.2 small)]

theorem add (sum : Sum s) (weight : d.toRat? = some w) (nonneg : 0 ≤ w) : Sum (s.add d) := by
  cases d with
  | nan | infinite => cases weight
  | negativeZero =>
      cases sum with
      | finite least rounded small => exact .finite least rounded small
      | tooLarge => exact .tooLarge
  | finite r =>
      cases weight
      cases sum with
      | finite least => exact sum_round (add_nonneg least nonneg)
      | tooLarge => exact .tooLarge

theorem add_zero (sum : Sum s) (nothing : d.toRat? = some 0) : s.add d = s := by
  cases d with
  | nan | infinite => cases nothing
  | negativeZero => cases sum <;> rfl
  | finite r =>
      cases nothing
      cases s with
      | finite p => rw [Double.add, add_comm, zero_add, sum.round_eq]
      | _ => cases sum <;> rfl

/-- A threshold that is reached stays reached. -/
theorem le_add {t : Rat} (sum : Sum s) (weight : d.toRat? = some w) (nonneg : 0 ≤ w)
    (reached : (Double.finite t).le s = true) : (Double.finite t).le (s.add d) = true := by
  cases d with
  | nan | infinite => cases weight
  | negativeZero => rwa [sum.add_zero rfl]
  | finite r =>
      cases weight
      cases sum with
      | tooLarge => exact le_tooLarge t
      | @finite p least rounded small =>
          rw [le_finite, decide_eq_true_eq] at reached
          rw [Double.add, round_of_nonneg (add_nonneg least nonneg)]
          split
          case isTrue => exact le_tooLarge t
          case isFalse =>
            rw [le_finite, decide_eq_true_eq]
            calc t ≤ p := reached
              _ = nearest p := rounded.symm
              _ ≤ nearest (p + w) := nearest_mono least (le_add_of_nonneg_right nonneg)

end Sum

end Double

/-! ## Totals -/

/-- Whether a value is a weight that is not negative, and which one: an integer, a fraction or a finite
double. -/
def Value.Weighs (v : Value) (w : Rat) : Prop :=
  ∃ n, v.number? = some n ∧ n.isDecimal = false ∧ n.toRat? = some w ∧ 0 ≤ w

theorem Value.Weighs.unique {v : Value} {w other : Rat} (weighs : v.Weighs w)
    (same : v.Weighs other) : w = other := by
  obtain ⟨n, number, -, finite, -⟩ := weighs
  obtain ⟨m, numberToo, -, finiteToo, -⟩ := same
  rw [number] at numberToo
  cases numberToo
  exact Option.some.inj (finite.symm.trans finiteToo)

namespace Number

/-- Whether a number is a sum of weights: exact as long as no double is added. -/
def IsSum : Number → Prop
  | int n => 0 ≤ n
  | fraction q => 0 ≤ q
  | double d => d.Sum
  | decimal _ => False

section Sums

variable {n : Number} {q : Rat}

theorem IsExact.isSum (exactly : n.IsExact q) (nonneg : 0 ≤ q) : n.IsSum := by
  cases exactly with
  | int => exact Int.cast_nonneg_iff.1 nonneg
  | fraction => exact nonneg

theorem IsSum.exact_or_double (isSum : n.IsSum) :
    (∃ q, 0 ≤ q ∧ n.IsExact q) ∨ ∃ d, n = .double d ∧ d.Sum := by
  cases n with
  | decimal => cases isSum
  | double d => exact .inr ⟨d, rfl, isSum⟩
  | int k => exact .inl ⟨k, Int.cast_nonneg isSum, .int k⟩
  | fraction r => exact .inl ⟨r, isSum, .fraction r⟩

theorem IsSum.isDecimal_eq (isSum : n.IsSum) : n.isDecimal = false := by
  cases n with
  | decimal => cases isSum
  | _ => rfl

end Sums

theorem exists_doubleOf_of_le {p q : Rat} {d : Double} (nonneg : 0 ≤ p) (le : p ≤ q)
    (fits : doubleOf q = .ok d) : ∃ e, doubleOf p = .ok e := by
  cases smaller : doubleOf p with
  | ok e => exact ⟨e, rfl⟩
  | error fault =>
      obtain ⟨large, rfl⟩ := (doubleOf_eq_error_iff p fault).1 smaller
      have larger : doubleOf q = .error .tooLarge := by
        refine (doubleOf_eq_error_iff q _).2 ⟨large.trans ?_, rfl⟩
        rwa [abs_of_nonneg nonneg, abs_of_nonneg (nonneg.trans le)]
      rw [fits] at larger
      cases larger

/-- A weight as a double is not negative, and zero if the weight is. -/
theorem toDouble_weight {n : Number} {w : Rat} {d : Double} (finite : n.toRat? = some w)
    (nonneg : 0 ≤ w) (double : n.toDouble = .ok d) :
    ∃ r, d.toRat? = some r ∧ 0 ≤ r ∧ (w = 0 → r = 0) := by
  have kind : n.isDecimal = false := by
    cases n with
    | decimal => cases double
    | _ => rfl
  obtain exactly | ⟨e, rfl⟩ := isExact_or_double kind finite
  · rw [exactly.toDouble_eq, doubleOf, Double.round?, Double.round_of_nonneg nonneg] at double
    split_ifs at double
    cases double
    refine ⟨_, rfl, Double.nearest_nonneg nonneg, ?_⟩
    rintro rfl
    exact Double.nearest_zero
  · cases double
    exact ⟨w, finite, nonneg, id⟩

theorem IsSum.sum_toDouble {sum : Number} {d : Double} (isSum : sum.IsSum)
    (double : sum.toDouble = .ok d) : d.Sum := by
  obtain ⟨q, nonneg, exactly⟩ | ⟨e, rfl, isSum⟩ := isSum.exact_or_double
  · rw [exactly.toDouble_eq, doubleOf, Double.round?] at double
    split at double <;> cases double
    rename_i found
    split at found <;> cases found
    exact Double.sum_round nonneg
  · cases double
    exact isSum

/-- A sum stays one when a weight is added, and if it then fits a double, both parts do. -/
theorem IsSum.add {sum n later : Number} {w : Rat} (isSum : sum.IsSum)
    (kind : n.isDecimal = false) (finite : n.toRat? = some w) (nonneg : 0 ≤ w)
    (added : sum.add n = .ok later) :
    later.IsSum ∧ ∀ d, later.toDouble = .ok d →
      (∃ e, sum.toDouble = .ok e) ∧ ∃ e, n.toDouble = .ok e := by
  have asDoubles (double : (∃ d, sum = .double d) ∨ ∃ d, n = .double d) :
      later.IsSum ∧ ∀ d, later.toDouble = .ok d →
        (∃ e, sum.toDouble = .ok e) ∧ ∃ e, n.toDouble = .ok e := by
    rw [add_eq_asDoubles isSum.isDecimal_eq kind double] at added
    obtain ⟨s, first, added⟩ := bind_eq_ok_iff.1 added
    obtain ⟨d, second, added⟩ := bind_eq_ok_iff.1 added
    cases added
    obtain ⟨r, value, least, -⟩ := toDouble_weight finite nonneg second
    exact ⟨(isSum.sum_toDouble first).add value least, fun _ _ => ⟨⟨s, first⟩, d, second⟩⟩
  obtain ⟨p, least, first⟩ | ⟨s, double, -⟩ := isSum.exact_or_double
  · obtain second | double := isExact_or_double kind finite
    · obtain ⟨total, same, exactly⟩ := first.add second
      cases same.symm.trans added
      refine ⟨exactly.isSum (add_nonneg least nonneg), fun d fits => ?_⟩
      rw [exactly.toDouble_eq] at fits
      rw [first.toDouble_eq, second.toDouble_eq]
      exact ⟨exists_doubleOf_of_le least (le_add_of_nonneg_right nonneg) fits,
        exists_doubleOf_of_le nonneg (le_add_of_nonneg_left least) fits⟩
    · exact asDoubles (.inr double)
  · exact asDoubles (.inl ⟨s, double⟩)

end Number

namespace Weighted

variable {α : Type} {items : Weighted α}

def AllWeigh (items : Weighted α) : Prop :=
  ∀ item ∈ items, ∃ w, item.2.Weighs w

def AllFit (items : Weighted α) : Prop :=
  ∀ item ∈ items, ∃ n d, item.2.number? = some n ∧ n.toDouble = .ok d

/-- The running sum of doubles from a sum on. -/
def runningFrom (sum : Double) : Weighted α → Except Fault Double
  | [] => .ok sum
  | item :: items => do runningFrom (sum.add (← (← item.2.number).toDouble)) items

def runningSum (items : Weighted α) : Except Fault Double :=
  runningFrom (.finite 0) items

/-- Weights that are added to a sum make one, and if it then fits a double, all of them do. -/
theorem isSum_of_foldlM {sum total : Number} (weigh : AllWeigh items) (isSum : sum.IsSum)
    (totals : items.foldlM (fun sum item => do sum.add (← item.2.number)) sum = .ok total) :
    total.IsSum ∧ ∀ d, total.toDouble = .ok d → (∃ e, sum.toDouble = .ok e) ∧ AllFit items := by
  induction items generalizing sum with
  | nil =>
      cases totals
      exact ⟨isSum, fun d fits => ⟨⟨d, fits⟩, nofun⟩⟩
  | cons item items ih =>
      obtain ⟨⟨w, n, number, kind, finite, nonneg⟩, weigh⟩ := List.forall_mem_cons.1 weigh
      rw [List.foldlM_cons] at totals
      obtain ⟨later, added, totals⟩ := bind_eq_ok_iff.1 totals
      simp only [Value.number, number, bind, Except.bind] at added
      obtain ⟨laterSum, parts⟩ := isSum.add kind finite nonneg added
      obtain ⟨totalSum, fit⟩ := ih weigh laterSum totals
      refine ⟨totalSum, fun d fits => ?_⟩
      obtain ⟨⟨e, laterFits⟩, rest⟩ := fit d fits
      obtain ⟨first, f, second⟩ := parts e laterFits
      exact ⟨first, List.forall_mem_cons.2 ⟨⟨n, f, number, second⟩, rest⟩⟩

/-! ## The walk along the running sum -/

section Walk

variable {t : Rat} {sum : Double} {item : α × Value} {n : Number} {d : Double}

theorem runningFrom_cons (number : item.2.number? = some n) (double : n.toDouble = .ok d) :
    runningFrom sum (item :: items) = runningFrom (sum.add d) items := by
  simp only [runningFrom, Value.number, number, double, bind, Except.bind]

theorem reaching_cons (threshold : Double) (last : α) (number : item.2.number? = some n)
    (double : n.toDouble = .ok d) :
    reaching threshold last sum (item :: items) =
      if threshold.le (sum.add d) then .ok item.1
      else reaching threshold last (sum.add d) items := by
  simp only [reaching, Value.number, number, double, bind, Except.bind]
  rfl

/-- A threshold that is reached is reached at the end. -/
theorem le_runningFrom (weigh : AllWeigh items) (fit : AllFit items) (isSum : sum.Sum)
    (reached : (Double.finite t).le sum = true) :
    ∃ final, runningFrom sum items = .ok final ∧ (Double.finite t).le final = true := by
  induction items generalizing sum with
  | nil => exact ⟨sum, rfl, reached⟩
  | cons item items ih =>
      obtain ⟨⟨w, n, number, -, finite, nonneg⟩, weigh⟩ := List.forall_mem_cons.1 weigh
      obtain ⟨⟨m, d, numberToo, double⟩, fit⟩ := List.forall_mem_cons.1 fit
      cases number.symm.trans numberToo
      obtain ⟨r, value, least, -⟩ := Number.toDouble_weight finite nonneg double
      rw [runningFrom_cons number double]
      exact ih weigh fit (isSum.add value least) (isSum.le_add value least reached)

/-- Below the threshold, the walk stops at an item whose weight is not zero and where the sum does
reach the threshold, or it comes to the end below it. -/
theorem reaching_cases (weigh : AllWeigh items) (fit : AllFit items) (isSum : sum.Sum)
    (short : (Double.finite t).le sum = false) (last : α) :
    ∃ final, runningFrom sum items = .ok final ∧
      (((Double.finite t).le final = true ∧ ∃ item ∈ items, ¬ item.2.Weighs 0 ∧
          reaching (.finite t) last sum items = .ok item.1) ∨
        ((Double.finite t).le final = false ∧ reaching (.finite t) last sum items = .ok last)) := by
  induction items generalizing sum with
  | nil => exact ⟨sum, rfl, .inr ⟨short, rfl⟩⟩
  | cons item items ih =>
      obtain ⟨⟨w, n, number, kind, finite, nonneg⟩, weigh⟩ := List.forall_mem_cons.1 weigh
      obtain ⟨⟨m, d, numberToo, double⟩, fit⟩ := List.forall_mem_cons.1 fit
      cases number.symm.trans numberToo
      obtain ⟨r, value, least, zero⟩ := Number.toDouble_weight finite nonneg double
      rw [runningFrom_cons number double, reaching_cons _ last number double]
      cases reached : (Double.finite t).le (sum.add d) with
      | true =>
          obtain ⟨final, runs, kept⟩ := le_runningFrom weigh fit (isSum.add value least) reached
          refine ⟨final, runs, .inl ⟨kept, item, List.mem_cons_self, fun nothing => ?_, if_pos rfl⟩⟩
          obtain rfl := Value.Weighs.unique ⟨n, number, kind, finite, nonneg⟩ nothing
          rw [zero rfl] at value
          rw [isSum.add_zero value, short] at reached
          cases reached
      | false =>
          obtain ⟨final, runs, ends⟩ := ih weigh fit (isSum.add value least) reached
          refine ⟨final, runs, ?_⟩
          rw [if_neg Bool.false_ne_true]
          rcases ends with ⟨kept, item, among, heavy, chosen⟩ | ends
          · exact .inl ⟨kept, item, List.mem_cons_of_mem _ among, heavy, chosen⟩
          · exact .inr ends

end Walk

/-! ## The threshold -/

/-- A fraction of a sum that is not too large is not too large either, and no more than the sum. -/
theorem mul_fraction {fraction p : Rat} (isSum : Double.Sum (.finite p)) (nonneg : 0 ≤ fraction)
    (most : fraction ≤ 1) :
    ∃ t, Double.mul (.finite fraction) (.finite p) = .finite t ∧ 0 ≤ t ∧ t ≤ p := by
  cases isSum with
  | finite least rounded small =>
      have product : 0 ≤ fraction * p := mul_nonneg nonneg least
      have below : Double.nearest (fraction * p) ≤ p :=
        calc Double.nearest (fraction * p) ≤ Double.nearest p :=
              Double.nearest_mono product (mul_le_of_le_one_left least most)
          _ = p := rounded
      refine ⟨Double.nearest (fraction * p), ?_, Double.nearest_nonneg product, below⟩
      show (if fraction * p = 0 then Double.zero (decide (fraction < 0) != decide (p < 0))
        else Double.round (fraction * p)) = _
      by_cases zero : fraction * p = 0
      · rw [if_pos zero, zero, Double.nearest_zero, decide_eq_false (not_lt.2 nonneg),
          decide_eq_false (not_lt.2 least)]
        rfl
      · rw [if_neg zero, Double.round_of_nonneg product,
          if_neg (not_le.2 (below.trans_lt small))]

section Portion

variable {total : Number} {q fraction : Rat}

/-- Of a total that is a double, or can be made one, a fraction can be drawn. -/
theorem exists_portion {d : Double} (isSum : total.IsSum) (finite : total.toRat? = some q)
    (positive : 0 < q) (nonneg : 0 ≤ fraction) (most : fraction ≤ 1)
    (double : total.toDouble = .ok d) :
    ∃ p t, total.toDouble = .ok (.finite p) ∧ total.portion fraction = .ok (.finite t) ∧
      0 ≤ t ∧ t ≤ p := by
  have sum := isSum.sum_toDouble double
  obtain ⟨p, value, -, -⟩ := Number.toDouble_weight finite positive.le double
  cases sum with
  | tooLarge => cases value
  | @finite p least rounded small =>
      obtain ⟨t, product, bounds⟩ := mul_fraction (.finite least rounded small) nonneg most
      refine ⟨p, t, double, ?_, bounds⟩
      simp only [Number.portion, double, bind, Except.bind, product]
      rfl

/-- The fraction of a total that is drawn: there is none of a total that is too large for a double. -/
theorem portion_cases (isSum : total.IsSum) (finite : total.toRat? = some q) (positive : 0 < q)
    (nonneg : 0 ≤ fraction) (most : fraction ≤ 1) :
    ((Double.leastTooLarge : Rat) ≤ q ∧ total.portion fraction = .error .tooLarge) ∨
      (q < Double.leastTooLarge ∧ ∃ p t, total.toDouble = .ok (.finite p) ∧
        total.portion fraction = .ok (.finite t) ∧ 0 ≤ t ∧ t ≤ p) := by
  have fitting {d : Double} (double : total.toDouble = .ok d) :=
    exists_portion isSum finite positive nonneg most double
  obtain ⟨p, -, exactly⟩ | ⟨d, rfl, sum⟩ := isSum.exact_or_double
  · obtain rfl : p = q := Option.some.inj (exactly.toRat?_eq.symm.trans finite)
    have refused := Number.doubleOf_eq_error_iff p
    rw [abs_of_pos positive] at refused
    cases fits : Number.doubleOf p with
    | error fault =>
        obtain ⟨large, rfl⟩ := (refused fault).1 fits
        refine .inl ⟨large, ?_⟩
        simp only [Number.portion, exactly.toDouble_eq, fits, bind, Except.bind]
    | ok d =>
        refine .inr ⟨not_le.1 fun large => ?_, fitting (exactly.toDouble_eq.trans fits)⟩
        cases fits.symm.trans ((refused .tooLarge).2 ⟨large, rfl⟩)
  · refine .inr ⟨not_le.1 fun large => ?_, fitting rfl⟩
    cases sum with
    | tooLarge => cases finite
    | finite least same small =>
        cases finite
        have reached := (Double.overflowBound_le_nearest_iff least).2 large
        rw [same] at reached
        exact absurd small (not_lt.2 reached)

end Portion

/-- Doubles add up to the running sum. -/
theorem foldlM_doubles (doubles : ∀ item ∈ items, ∃ d, item.2 = .double d) (sum : Double) :
    items.foldlM (fun sum item => do sum.add (← item.2.number)) (Number.double sum) =
      (runningFrom sum items).map .double := by
  induction items generalizing sum with
  | nil => rfl
  | cons item items ih =>
      obtain ⟨⟨d, double⟩, doubles⟩ := List.forall_mem_cons.1 doubles
      have number : item.2.number? = some (.double d) := by rw [double]; rfl
      rw [List.foldlM_cons, runningFrom_cons number rfl, ← ih doubles]
      simp only [Value.number, number]
      rfl

theorem total_doubles (nonempty : items ≠ []) (doubles : ∀ item ∈ items, ∃ d, item.2 = .double d) :
    items.total = items.runningSum.map .double := by
  cases items with
  | nil => exact absurd rfl nonempty
  | cons item items =>
      obtain ⟨⟨d, double⟩, doubles⟩ := List.forall_mem_cons.1 doubles
      have number : item.2.number? = some (.double d) := by rw [double]; rfl
      rw [total, List.foldlM_cons, runningSum, runningFrom_cons number rfl,
        ← foldlM_doubles doubles]
      simp only [Value.number, number]
      rfl

/-! ## The choice -/

theorem choose_eq {total : Number} {q : Rat} {last : α × Value} (lastly : items.getLast? = some last)
    (totals : items.total = .ok total) (finite : total.toRat? = some q) (positive : 0 < q)
    (g : Twister) :
    items.choose g = (items.pick total g.fraction.1 last.1, g.fraction.2) := by
  have compared : total.le (.int 0) = .ok false := by
    rw [Number.le_eq finite (rfl : (Number.int 0).toRat? = some ((0 : Int) : Rat)), Int.cast_zero,
      decide_eq_false (not_le.2 positive)]
  simp only [choose, lastly, totals, compared]

/-- From the start, the walk comes to an item of weight zero only at the first item, if the threshold
is zero, or behind the last one. -/
theorem reaching_start {t : Rat} {first last : α × Value} (weigh : AllWeigh items)
    (fit : AllFit items) (nonneg : 0 ≤ t) (starts : items.head? = some first)
    (ends : items.getLast? = some last) :
    ∃ sum, items.runningSum = .ok sum ∧ ∃ item ∈ items,
      reaching (.finite t) last.1 (.finite 0) items = .ok item.1 ∧
        (item.2.Weighs 0 ↔ (t = 0 ∧ first.2.Weighs 0) ∨
          ((Double.finite t).le sum = false ∧ last.2.Weighs 0)) := by
  cases short : (Double.finite t).le (.finite 0) with
  | true =>
      rw [Double.le_finite, decide_eq_true_eq] at short
      obtain rfl := le_antisymm short nonneg
      obtain ⟨items, rfl⟩ := List.head?_eq_some_iff.1 starts
      obtain ⟨⟨w, n, number, -, finite, least⟩, weigh⟩ := List.forall_mem_cons.1 weigh
      obtain ⟨⟨m, d, numberToo, double⟩, fit⟩ := List.forall_mem_cons.1 fit
      cases number.symm.trans numberToo
      obtain ⟨r, value, positive, -⟩ := Number.toDouble_weight finite least double
      have reached := Double.sum_zero.le_add value positive (t := 0) (by decide)
      obtain ⟨sum, runs, kept⟩ :=
        le_runningFrom weigh fit (Double.sum_zero.add value positive) reached
      refine ⟨sum, (runningFrom_cons number double).trans runs, first, List.mem_cons_self, ?_, ?_⟩
      · rw [reaching_cons _ _ number double, if_pos reached]
      · simp [kept]
  | false =>
      have apart : t ≠ 0 := by
        rintro rfl
        cases short
      obtain ⟨sum, runs, ⟨kept, item, among, heavy, chosen⟩ | ⟨missed, chosen⟩⟩ :=
        reaching_cases weigh fit Double.sum_zero short last.1
      · exact ⟨sum, runs, item, among, chosen, by simp [kept, heavy, apart]⟩
      · exact ⟨sum, runs, last, List.mem_of_getLast? ends, chosen, by simp [missed, apart]⟩

/-- **A weighted choice comes to an item of weight zero in two cases only**: the first item if the
threshold is zero, and the last one if the running sum does not reach the threshold, which doubles
always do.  Of weights that are not negative, with a total that is positive and fits a double, one item
is chosen in any case; a larger total is refused after the draw. -/
theorem choose_weighs {total : Number} {q : Rat} (weigh : AllWeigh items)
    (totals : items.total = .ok total) (finite : total.toRat? = some q) (positive : 0 < q)
    (g : Twister) :
    ((Double.leastTooLarge : Rat) ≤ q ∧ items.choose g = (.error .tooLarge, g.fraction.2)) ∨
      (q < Double.leastTooLarge ∧ ∃ t sum first last item,
        total.portion g.fraction.1 = .ok (.finite t) ∧ items.runningSum = .ok sum ∧
        items.head? = some first ∧ items.getLast? = some last ∧
        item ∈ items ∧ items.choose g = (.ok item.1, g.fraction.2) ∧
        (item.2.Weighs 0 ↔ (t = 0 ∧ first.2.Weighs 0) ∨
          ((Double.finite t).le sum = false ∧ last.2.Weighs 0)) ∧
        ((∀ item ∈ items, ∃ d, item.2 = .double d) → (Double.finite t).le sum = true)) := by
  have nonempty : items ≠ [] := by
    rintro rfl
    cases totals
    cases finite
    exact absurd positive (lt_irrefl _)
  have starts := List.head?_eq_some_head nonempty
  have ends := List.getLast?_eq_some_getLast nonempty
  have nothing : (Number.int 0).IsSum := le_refl (0 : Int)
  obtain ⟨isSum, fits⟩ := isSum_of_foldlM weigh nothing totals
  rw [choose_eq ends totals finite positive g, pick]
  rcases portion_cases isSum finite positive (Twister.fraction_nonneg g.numerator.1)
    (Twister.fraction_lt_one (Twister.numerator_lt g)).le with
    ⟨large, refused⟩ | ⟨small, p, t, double, portion, least, most⟩
  · have refused : total.portion g.fraction.1 = .error .tooLarge := refused
    exact .inl ⟨large, by rw [refused]; rfl⟩
  · have portion : total.portion g.fraction.1 = .ok (.finite t) := portion
    obtain ⟨sum, runs, item, among, chosen, zero⟩ :=
      reaching_start weigh (fits _ double).2 least starts ends
    refine .inr ⟨small, t, sum, _, _, item, portion, runs, starts, ends, among, ?_, zero,
      fun doubles => ?_⟩
    · rw [portion]
      exact congrArg (·, _) chosen
    · have same := totals.symm.trans (total_doubles nonempty doubles)
      rw [runs] at same
      cases same
      cases double
      rw [Double.le_finite, decide_eq_true_eq]
      exact most

/-- Of doubles of which the first is positive, an item of weight zero is never chosen. -/
theorem choose_weighs_positive_first :
    let items : Weighted String := [("first", .double (.finite 1)), ("never", .double (.finite 0)),
      ("last", .double (.finite 2))]
    AllWeigh items ∧ items.total = .ok (.double (.finite 3)) ∧
      ∃ item ∈ items, items.choose (Twister.ofSeed 0) =
        (.ok item.1, (Twister.ofSeed 0).fraction.2) ∧ ¬ item.2.Weighs 0 := by
  intro items
  have weigh : AllWeigh items := by
    simp only [AllWeigh, items, List.forall_mem_cons]
    exact ⟨⟨1, _, rfl, rfl, rfl, by decide⟩, ⟨0, _, rfl, rfl, rfl, by decide⟩,
      ⟨2, _, rfl, rfl, rfl, by decide⟩, nofun⟩
  have totals : items.total = .ok (.double (.finite 3)) := by decide +kernel
  refine ⟨weigh, totals, ?_⟩
  rcases choose_weighs weigh totals rfl (by decide) (Twister.ofSeed 0) with
    ⟨large, -⟩ | ⟨-, t, sum, first, last, item, -, -, starts, -, among, chosen, zero, kept⟩
  · exact absurd large (by decide +kernel)
  · refine ⟨item, among, chosen, fun nothing => ?_⟩
    have doubles : ∀ item ∈ items, ∃ d, item.2 = .double d := by simp [items]
    rcases zero.1 nothing with ⟨-, light⟩ | ⟨missed, -⟩
    · cases starts
      exact absurd (light.unique ⟨_, rfl, rfl, rfl, by decide⟩) (by decide)
    · rw [kept doubles] at missed
      cases missed

/-- A fraction of zero chooses the first item although its weight is zero. -/
theorem choose_weightless :
    ¬ ∀ (items : Weighted String) (total : Number) (q : Rat), AllWeigh items →
      items.total = .ok total → total.toRat? = some q → 0 < q → ∀ g, ∃ item ∈ items,
        (items.choose g).1 = .ok item.1 ∧ ¬ item.2.Weighs 0 := by
  intro heavy
  let source : Twister := ⟨#[0, 0] ++ Array.replicate 622 1, 0⟩
  have weigh : AllWeigh [("never", .int 0), ("always", .int 1)] := by
    simp only [AllWeigh, List.forall_mem_cons]
    exact ⟨⟨_, _, rfl, rfl, rfl, by decide⟩, ⟨_, _, rfl, rfl, rfl, by decide⟩, nofun⟩
  obtain ⟨item, among, chosen, positive⟩ :=
    heavy [("never", .int 0), ("always", .int 1)] (.int 1) 1 weigh rfl rfl (by decide) source
  have first : (Weighted.choose [("never", .int 0), ("always", .int 1)] source).1 =
      .ok "never" := by
    decide +kernel
  rw [first] at chosen
  simp only [List.mem_cons, List.not_mem_nil, or_false] at among
  rcases among with rfl | rfl
  · exact positive ⟨_, rfl, rfl, rfl, by decide⟩
  · exact absurd chosen (by decide)

end Weighted

end StepPattern
