import Mathlib.Data.List.TakeWhile
import Scaffold.Json.Read
import Scaffold.Number.Shortest
import Scaffold.Proofs.Rounding

namespace Scaffold

/-!
# Numbers as they are written

A double is written with digits that read back as it. Where the layout puts
the point, how it fills up with zeros and whether it uses an exponent changes
the parts that a reader finds, but not the value that it puts together from
them.
-/

/-! ## Digits -/

namespace Decimal

variable {ds : List Char} {n : Nat}

/-- Digits that do not begin with a zero. -/
structure Significant (ds : List Char) : Prop where
  digits : ∀ c ∈ ds, c.isDigit = true
  starts : ∃ c cs, ds = c :: cs ∧ c ≠ '0'

theorem value_append (xs ys : List Char) :
    value (xs ++ ys) = value xs * 10 ^ ys.length + value ys := by
  change Nat.ofDigitChars 10 (xs ++ ys) 0 = _
  rw [Nat.ofDigitChars_append, Nat.ofDigitChars_eq_ofDigitChars_zero, Nat.mul_comm]
  rfl

theorem value_zeros (k : Nat) : value (List.replicate k '0') = 0 := by
  induction k with
  | zero => rfl
  | succ k ih => exact ih

theorem value_zeros_append (k : Nat) (ds : List Char) :
    value (List.replicate k '0' ++ ds) = value ds := by
  rw [value_append, value_zeros, Nat.zero_mul, Nat.zero_add]

theorem isDigit_of_mem_zeros {c : Char} {k : Nat} (h : c ∈ List.replicate k '0') :
    c.isDigit = true := by
  rw [List.eq_of_mem_replicate h]
  rfl

theorem value_toDigits (n : Nat) : value (Nat.toDigits 10 n) = n :=
  Nat.ofDigitChars_ten_toDigits

theorem isDigit_of_mem_toDigits {c : Char} (h : c ∈ Nat.toDigits 10 n) : c.isDigit = true :=
  Nat.isDigit_of_mem_toDigits (by decide) (by decide) h

theorem digitValue_pos {c : Char} (hdigit : c.isDigit = true) (h : c ≠ '0') : 0 < digitValue c := by
  obtain ⟨hlow, -⟩ := Char.isDigit_iff_toNat.mp hdigit
  have hne : c.toNat ≠ '0'.toNat := fun heq => h (Char.toNat_inj.mp heq)
  rw [digitValue]
  omega

theorem Significant.value_pos (h : Significant ds) : 0 < value ds := by
  obtain ⟨c, cs, rfl, hc⟩ := h.starts
  have hpos := digitValue_pos (h.digits c List.mem_cons_self) hc
  rw [← List.singleton_append, value_append]
  have hsingle : value [c] = digitValue c := by simp [value, valueFrom]
  rw [hsingle]
  positivity

theorem significant_toDigits (h : 0 < n) : Significant (Nat.toDigits 10 n) where
  digits := fun _ => isDigit_of_mem_toDigits
  starts := by
    induction n using Nat.strongRecOn with
    | ind n ih =>
      by_cases hlt : n < 10
      · rw [Nat.toDigits_of_lt_base hlt]
        have hdigit : ∀ d < 10, 0 < d → Nat.digitChar d ≠ '0' := by decide
        exact ⟨_, [], rfl, hdigit n hlt h⟩
      · obtain ⟨c, cs, hcs, hc⟩ := ih (n / 10) (by omega) (by omega)
        rw [Nat.toDigits_of_base_le (by decide) (by omega), hcs]
        exact ⟨c, _, rfl, hc⟩

theorem Significant.append_zeros (h : Significant ds) (k : Nat) :
    Significant (ds ++ List.replicate k '0') where
  digits := by
    intro c hc
    rcases List.mem_append.mp hc with hc | hc
    · exact h.digits c hc
    · exact isDigit_of_mem_zeros hc
  starts := by
    obtain ⟨c, cs, rfl, hc⟩ := h.starts
    exact ⟨c, _, rfl, hc⟩

theorem Significant.of_append_zeros {k : Nat} (h : Significant (ds ++ List.replicate k '0')) :
    Significant ds where
  digits := fun c hc => h.digits c (List.mem_append_left _ hc)
  starts := by
    obtain ⟨c, cs, heq, hc⟩ := h.starts
    cases ds with
    | nil =>
        have hmem : c ∈ List.replicate k '0' := by
          rw [← List.nil_append (List.replicate k '0'), heq]
          exact List.mem_cons_self
        exact absurd (List.eq_of_mem_replicate hmem) hc
    | cons d ds =>
        obtain rfl : d = c := (List.cons.inj heq).1
        exact ⟨d, ds, rfl, hc⟩

theorem exists_zeros_behind (ds : List Char) :
    ∃ k, ds = (ds.reverse.dropWhile (· == '0')).reverse ++ List.replicate k '0' := by
  have hzeros : ∀ c ∈ ds.reverse.takeWhile (· == '0'), c = '0' := by
    intro c hc
    have hzero := List.mem_takeWhile_imp hc
    exact beq_iff_eq.mp hzero
  refine ⟨(ds.reverse.takeWhile (· == '0')).length, List.reverse_injective ?_⟩
  rw [List.reverse_append, List.reverse_reverse, List.reverse_replicate,
    ← List.eq_replicate_of_mem hzeros, List.takeWhile_append_dropWhile]

end Decimal

/-! ## Numbers at the front of a text -/

namespace Json

open Decimal

variable {ds whole places rest : List Char}

/-- What follows is not taken for more of the number. -/
def EndsNumber (rest : List Char) : Prop :=
  ∀ c ∈ rest.head?, c.isDigit = false ∧ c ≠ '.' ∧ c ≠ 'e' ∧ c ≠ 'E'

/-- A zero alone, or digits that begin with another one. -/
def IsWhole (ds : List Char) : Prop :=
  ds = ['0'] ∨ Significant ds

theorem spanDigits_append (hds : ∀ c ∈ ds, c.isDigit = true)
    (hrest : ∀ c ∈ rest.head?, c.isDigit = false) : spanDigits (ds ++ rest) = (ds, rest) := by
  have hstop : rest.takeWhile Char.isDigit = [] ∧ rest.dropWhile Char.isDigit = rest := by
    cases rest with
    | nil => exact ⟨rfl, rfl⟩
    | cons c cs => simp [hrest c rfl]
  rw [spanDigits, List.takeWhile_append_of_pos hds, List.dropWhile_append_of_pos hds, hstop.1,
    hstop.2, List.append_nil]

theorem spanWhole?_append (h : IsWhole whole) (hrest : ∀ c ∈ rest.head?, c.isDigit = false) :
    spanWhole? (whole ++ rest) = some (whole, rest) := by
  rcases h with rfl | h
  · rw [spanWhole?, spanDigits_append (List.forall_mem_singleton.mpr rfl) hrest]
    rfl
  · obtain ⟨c, cs, rfl, hc⟩ := h.starts
    rw [spanWhole?, spanDigits_append h.digits hrest]
    split
    · next heq => cases heq
    · next heq =>
        cases heq
        exact absurd rfl hc
    · next heq =>
        cases heq
        rfl

/-- Digits behind a point, or nothing. -/
def pointed : List Char → List Char
  | [] => []
  | places => '.' :: places

theorem pointed_of_ne_nil (h : places ≠ []) : pointed places = '.' :: places := by
  cases places with
  | nil => exact absurd rfl h
  | cons c cs => rfl

theorem spanPlaces_pointed (hplaces : ∀ c ∈ places, c.isDigit = true)
    (hrest : ∀ c ∈ rest.head?, c.isDigit = false ∧ c ≠ '.') :
    spanPlaces (pointed places ++ rest) = (places, rest) := by
  cases places with
  | nil =>
      rw [pointed, List.nil_append]
      unfold spanPlaces
      split
      · exact absurd rfl (hrest '.' rfl).2
      · rfl
  | cons c cs =>
      have hspan := spanDigits_append hplaces fun c hc => (hrest c hc).1
      rw [pointed, List.cons_append, spanPlaces, hspan]
      exact nofun

theorem head?_pointed_append (h : ∀ c ∈ rest.head?, c.isDigit = false) :
    ∀ c ∈ (pointed places ++ rest).head?, c.isDigit = false := by
  cases places with
  | nil => exact h
  | cons d ds =>
      rintro c ⟨⟩
      rfl

theorem EndsNumber.spanExponent? (h : EndsNumber rest) : Decimal.spanExponent? rest = none := by
  cases rest with
  | nil => rfl
  | cons c cs =>
      obtain ⟨-, -, he, hE⟩ := h c rfl
      simp [Decimal.spanExponent?, he, hE]

theorem readNumber_whole (negative : Bool) (h : IsWhole whole) (hrest : EndsNumber rest) :
    readNumber negative (whole ++ rest)
      = some (.int (if negative then -(value whole : Int) else value whole), rest) := by
  have hplaces : spanPlaces rest = ([], rest) :=
    spanPlaces_pointed (List.forall_mem_nil _) fun c hc => ⟨(hrest c hc).1, (hrest c hc).2.1⟩
  rw [readNumber, spanWhole?_append h fun c hc => (hrest c hc).1]
  simp [hplaces, hrest.spanExponent?]

theorem readNumber_places (negative : Bool) (h : IsWhole whole) (hne : places ≠ [])
    (hplaces : ∀ c ∈ places, c.isDigit = true) (hrest : EndsNumber rest) :
    readNumber negative (whole ++ (pointed places ++ rest))
      = some (.float (Double.ofDecimal negative (value (whole ++ places)) (-places.length)),
        rest) := by
  have hspan := spanPlaces_pointed hplaces fun c hc => ⟨(hrest c hc).1, (hrest c hc).2.1⟩
  rw [readNumber, spanWhole?_append h (head?_pointed_append fun c hc => (hrest c hc).1)]
  simp [hspan, hrest.spanExponent?, hne, toDouble]

theorem spanSign_append (e : Int) (plus : Bool) (hds : ∀ c ∈ ds, c.isDigit = true) (hne : ds ≠ [])
    (rest : List Char) :
    spanSign ((if e < 0 then ['-'] else if plus then ['+'] else []) ++ (ds ++ rest))
      = (decide (e < 0), ds ++ rest) := by
  by_cases he : e < 0
  · simp [he, spanSign]
  · cases plus with
    | true => simp [he, spanSign]
    | false =>
        obtain ⟨d, ds, rfl⟩ := List.exists_cons_of_ne_nil hne
        have hdigit := hds d List.mem_cons_self
        simp only [he, if_false, decide_false, Bool.false_eq_true, List.nil_append,
          List.cons_append]
        unfold spanSign
        split
        · next heq =>
            cases heq
            cases hdigit
        · next heq =>
            cases heq
            cases hdigit
        · rfl

/-- An exponent is the number that its digits and its sign write. -/
theorem spanExponent?_signed {e : Int} (plus : Bool) (hds : ∀ c ∈ ds, c.isDigit = true)
    (hne : ds ≠ []) (hvalue : value ds = e.natAbs) (hrest : ∀ c ∈ rest.head?, c.isDigit = false) :
    spanExponent? ('e' :: ((if e < 0 then ['-'] else if plus then ['+'] else []) ++ (ds ++ rest)))
      = some (e, rest) := by
  rw [spanExponent?, if_pos (by decide), spanSign_append e plus hds hne]
  dsimp only
  rw [spanDigits_append hds hrest]
  obtain ⟨d, ds, rfl⟩ := List.exists_cons_of_ne_nil hne
  simp only [hvalue, decide_eq_true_eq]
  congr 2
  split <;> omega

theorem readNumber_exponent (negative : Bool) (h : IsWhole whole)
    (hplaces : ∀ c ∈ places, c.isDigit = true) {e : Int} {s : List Char}
    (hexponent : spanExponent? ('e' :: s) = some (e, rest)) :
    readNumber negative (whole ++ (pointed places ++ 'e' :: s))
      = some (.float (Double.ofDecimal negative (value (whole ++ places)) (e - places.length)),
        rest) := by
  have hmark : ∀ c ∈ ('e' :: s).head?, c.isDigit = false ∧ c ≠ '.' := by
    rintro c ⟨⟩
    decide
  have hspan := spanPlaces_pointed hplaces hmark
  rw [readNumber, spanWhole?_append h (head?_pointed_append fun c hc => (hmark c hc).1)]
  simp [hspan, hexponent, toDouble]

end Json

/-! ## Shortest digits -/

namespace Double

variable {negative : Bool} {m : Nat} {e : Int}

theorem exists_den_scale (m : Nat) (e : Int) : ∃ k, (scale m 1 e).2 = 2 ^ k := by
  unfold scale
  split
  · exact ⟨0, rfl⟩
  · exact ⟨(-e).toNat, Nat.one_mul _⟩

/-- The decimal is read as the double, and is not zero. -/
def ReadBy (x : Double) (digits : Nat) (exponent : Int) : Prop :=
  0 < digits ∧ ofDecimal x.isNegative digits exponent = x

/-- All digits of a double. -/
theorem readBy_all (h : IsBinary64 (.finite negative m e)) (hm : 0 < m) :
    ReadBy (.finite negative m e)
      ((scale m 1 e).1 * Nat.pow 10 (scale m 1 e).2.log2 / (scale m 1 e).2)
      (-((scale m 1 e).2.log2 : Int)) := by
  obtain ⟨k, hk⟩ := exists_den_scale m e
  have hratio := ratio_scale m 1 e
  generalize (scale m 1 e).1 = n at hratio ⊢
  rw [hk, Nat.cast_one, div_one] at hratio
  have hdigits : n * 10 ^ k / 2 ^ k = n * 5 ^ k := by
    rw [show 10 = 5 * 2 from rfl, Nat.mul_pow, ← Nat.mul_assoc]
    exact Nat.mul_div_cancel _ (Nat.pow_pos Nat.two_pos)
  have hn : 0 < n := by
    have hpos : (0 : ℚ) < n / (2 ^ k : Nat) := hratio ▸ by positivity
    exact_mod_cast (div_pos_iff_of_pos_right (by positivity)).mp hpos
  rw [hk, Nat.log2_two_pow, Nat.pow_eq, hdigits]
  refine ⟨by positivity, ?_⟩
  have hvalue : (n : ℚ) / (2 ^ k : Nat) = (n * 5 ^ k : Nat) * 10 ^ (-(k : Int)) := by
    rw [zpow_neg, zpow_natCast, show (10 : ℚ) = 5 * 2 by norm_num, mul_pow]
    push_cast
    field_simp
  rw [ofDecimal_eq_ofFraction (by positivity) (Nat.pow_pos Nat.two_pos) hvalue]
  exact ofFraction_eq_finite hm h (Nat.pow_pos Nat.two_pos) hratio

theorem readBy_shortestFrom (h : IsBinary64 (.finite negative m e)) (hm : 0 < m) (point : Int)
    (fuel : Nat) (count : Int) :
    ReadBy (.finite negative m e)
      (shortestFrom (.finite negative m e) (scale m 1 e).1 (scale m 1 e).2 point fuel count).1
      (shortestFrom (.finite negative m e) (scale m 1 e).1 (scale m 1 e).2 point fuel count).2 := by
  induction fuel generalizing count with
  | zero => exact readBy_all h hm
  | succ fuel ih =>
      rw [shortestFrom]
      split
      · next digits hfind =>
          have hfound := List.find?_some hfind
          have hread := beq_iff_eq.mp hfound
          refine ⟨Nat.pos_of_ne_zero ?_, hread⟩
          rintro rfl
          -- no decimal that is zero is read as this double
          have hzero : Double.finite negative 0 minExponent = .finite negative m e := hread
          cases hzero
          exact absurd hm (Nat.lt_irrefl 0)
      · exact ih (count + 1)

theorem readBy_shortest (h : IsBinary64 (.finite negative m e)) (hm : 0 < m) :
    ReadBy (.finite negative m e) (shortest (.finite negative m e)).1
      (shortest (.finite negative m e)).2 :=
  readBy_shortestFrom h hm _ 17 1

end Double

/-! ## Layouts -/

namespace FloatLayout

open Decimal Json

variable {layout : FloatLayout} {ds rest : List Char} {negative : Bool} {m : Nat} {e : Int}

/-- The text begins with a digit, and behind its sign it is read as the double. -/
structure Reads (negative : Bool) (body : List Char) (x : Double) : Prop where
  starts : ∃ c cs, body = c :: cs ∧ c.isDigit = true
  reads {rest : List Char} (hrest : EndsNumber rest) :
    readNumber negative (body ++ rest) = some (.float x, rest)

theorem starts_positional (h : Significant ds) (point : Int) :
    ∃ c cs, positional ds point = c :: cs ∧ c.isDigit = true := by
  obtain ⟨c, cs, rfl, -⟩ := h.starts
  have hdigit := h.digits c List.mem_cons_self
  unfold positional
  split_ifs with hleading
  · exact ⟨'0', _, rfl, rfl⟩
  · obtain ⟨p, hp⟩ := Nat.exists_eq_succ_of_ne_zero (show point.toNat ≠ 0 by omega)
    rw [hp]
    dsimp only
    split_ifs
    · exact ⟨c, _, rfl, hdigit⟩
    · exact ⟨c, _, rfl, hdigit⟩

theorem readNumber_positional (h : Significant ds) (point : Int) (hrest : EndsNumber rest) :
    readNumber negative (positional ds point ++ rest)
      = some (.float (Double.ofDecimal negative (value ds) (point - ds.length)), rest) := by
  have hlength : 0 < ds.length := by
    obtain ⟨c, cs, rfl, -⟩ := h.starts
    exact Nat.succ_pos _
  unfold positional
  split_ifs with hleading
  · generalize hk : (-point).toNat = k
    have hplaces : ∀ c ∈ List.replicate k '0' ++ ds, c.isDigit = true := by
      intro c hc
      exact (List.mem_append.mp hc).elim isDigit_of_mem_zeros (h.digits c)
    have hne : List.replicate k '0' ++ ds ≠ [] :=
      List.append_ne_nil_of_right_ne_nil _ (List.ne_nil_of_length_pos hlength)
    have hread := readNumber_places negative (.inl rfl) hne hplaces hrest
    have hvalue : value (['0'] ++ (List.replicate k '0' ++ ds)) = value ds :=
      (value_zeros_append 1 _).trans (value_zeros_append k ds)
    have hpoint : -((List.replicate k '0' ++ ds).length : Int) = point - ds.length := by
      rw [List.length_append, List.length_replicate]
      omega
    rw [hvalue, hpoint, pointed_of_ne_nil hne] at hread
    exact hread
  · dsimp only
    generalize hp : point.toNat = p
    split_ifs with hwhole
    · have hread := readNumber_places negative
        (.inr (h.append_zeros (p - ds.length))) (List.cons_ne_nil '0' [])
        (List.forall_mem_singleton.mpr rfl) hrest
      have hvalue : Double.ofDecimal negative (value (ds ++ List.replicate (p - ds.length) '0'
          ++ ['0'])) (-(['0'].length : Int)) = Double.ofDecimal negative (value ds)
            (point - ds.length) := by
        rw [List.append_assoc, ← List.replicate_succ', value_append, value_zeros, Nat.add_zero,
          List.length_replicate, Double.ofDecimal_mul_pow negative h.value_pos]
        congr 1
        simp only [List.length_singleton]
        omega
      rw [hvalue] at hread
      simpa [pointed] using hread
    · have hsplit : ds.take p ++ ds.drop p = ds := List.take_append_drop p ds
      have hne : ds.drop p ≠ [] := by
        rw [Ne, List.drop_eq_nil_iff]
        omega
      have hfront : Significant (ds.take p) := by
        refine ⟨fun c hc => h.digits c (List.mem_of_mem_take hc), ?_⟩
        obtain ⟨c, cs, rfl, hc⟩ := h.starts
        obtain ⟨q, rfl⟩ := Nat.exists_eq_succ_of_ne_zero (show p ≠ 0 by omega)
        exact ⟨c, cs.take q, rfl, hc⟩
      have hread := readNumber_places negative (.inr hfront) hne
        (fun c hc => h.digits c (List.mem_of_mem_drop hc)) hrest
      have hpoint : -((ds.drop p).length : Int) = point - ds.length := by
        rw [List.length_drop]
        omega
      rw [hsplit, hpoint, pointed_of_ne_nil hne] at hread
      simpa using hread

theorem starts_scientific (h : Significant ds) (point : Int) :
    ∃ c cs, layout.scientific ds point = c :: cs ∧ c.isDigit = true := by
  obtain ⟨c, cs, rfl, -⟩ := h.starts
  have hdigit := h.digits c List.mem_cons_self
  cases cs with
  | nil => exact ⟨c, _, rfl, hdigit⟩
  | cons d cs => exact ⟨c, _, rfl, hdigit⟩

theorem readNumber_scientific (h : Significant ds) (point : Int) (hrest : EndsNumber rest) :
    readNumber negative (layout.scientific ds point ++ rest)
      = some (.float (Double.ofDecimal negative (value ds) (point - ds.length)), rest) := by
  obtain ⟨c, cs, rfl, hc⟩ := h.starts
  have hmantissa : layout.scientific (c :: cs) point ++ rest = [c] ++ (pointed cs ++ 'e' ::
      ((if point - 1 < 0 then ['-'] else if layout.plusExponent then ['+'] else [])
        ++ (List.replicate (layout.exponentWidth
          - (Nat.toDigits 10 (point - 1).natAbs).length) '0'
            ++ Nat.toDigits 10 (point - 1).natAbs ++ rest))) := by
    cases cs <;> simp [scientific, pointed]
  generalize layout.exponentWidth - (Nat.toDigits 10 (point - 1).natAbs).length = k at hmantissa
  have hdigits : ∀ d ∈ List.replicate k '0' ++ Nat.toDigits 10 (point - 1).natAbs,
      d.isDigit = true := fun d hd =>
    (List.mem_append.mp hd).elim isDigit_of_mem_zeros isDigit_of_mem_toDigits
  have hne : List.replicate k '0' ++ Nat.toDigits 10 (point - 1).natAbs ≠ [] :=
    List.append_ne_nil_of_right_ne_nil _ Nat.toDigits_ne_nil
  have hvalue : value (List.replicate k '0' ++ Nat.toDigits 10 (point - 1).natAbs)
      = (point - 1).natAbs := by
    rw [value_zeros_append, value_toDigits]
  have hexponent := spanExponent?_signed layout.plusExponent hdigits hne hvalue
    fun d hd => (hrest d hd).1
  have hfirst : Significant [c] :=
    ⟨List.forall_mem_singleton.mpr (h.digits c List.mem_cons_self), c, [], rfl, hc⟩
  have hread := readNumber_exponent negative (.inr hfirst)
    (fun d hd => h.digits d (List.mem_cons_of_mem c hd)) hexponent
  have hpoint : point - 1 - cs.length = point - ((c :: cs).length : Int) := by
    rw [List.length_cons]
    omega
  rw [hmantissa, hread, hpoint]
  rfl

/-- The digits of a decimal without the zeros behind them, and the decimal by these. -/
theorem exists_significant {digits : Nat} (hdigits : 0 < digits) (exponent : Int) :
    ∃ ds, ((Nat.toDigits 10 digits).reverse.dropWhile (· == '0')).reverse = ds ∧
      Significant ds ∧ ∀ negative, Double.ofDecimal negative (value ds)
          ((Nat.toDigits 10 digits).length + exponent - ds.length)
        = Double.ofDecimal negative digits exponent := by
  obtain ⟨k, hk⟩ := exists_zeros_behind (Nat.toDigits 10 digits)
  generalize ((Nat.toDigits 10 digits).reverse.dropWhile (· == '0')).reverse = ds at hk
  have hds : Significant ds := (hk ▸ significant_toDigits hdigits).of_append_zeros
  refine ⟨ds, rfl, hds, fun negative => ?_⟩
  have hvalue : digits = value ds * 10 ^ k := by
    rw [← value_toDigits digits, hk, value_append, value_zeros, List.length_replicate, Nat.add_zero]
  have hpoint : ((Nat.toDigits 10 digits).length : Int) + exponent - ds.length = exponent + k := by
    rw [hk, List.length_append, List.length_replicate]
    omega
  rw [hpoint, hvalue, Double.ofDecimal_mul_pow negative hds.value_pos]

theorem reads_body (layout : FloatLayout) (h : Double.IsBinary64 (.finite negative m e)) :
    ∃ body, (layout.write (.finite negative m e)).toList
        = (if negative then '-' :: body else body) ∧
      Reads negative body (.finite negative m e) := by
  unfold write
  dsimp only
  by_cases hm : m = 0
  · subst hm
    obtain ⟨-, -, -, rfl | hwide⟩ := h
    · refine ⟨['0', '.', '0'], by simp, ⟨'0', _, rfl, rfl⟩, fun hrest => ?_⟩
      exact readNumber_places negative (.inl rfl) (List.cons_ne_nil '0' [])
        (List.forall_mem_singleton.mpr rfl) hrest
    · exact absurd hwide (by decide)
  · obtain ⟨hdigits, hread⟩ := Double.readBy_shortest h (Nat.pos_of_ne_zero hm)
    generalize (Double.shortest (.finite negative m e)).1 = digits at hdigits hread ⊢
    generalize (Double.shortest (.finite negative m e)).2 = exponent at hread ⊢
    obtain ⟨ds, hstrip, hds, hvalue⟩ := exists_significant hdigits exponent
    have htext : (toString digits).toList = Nat.toDigits 10 digits := String.toList_ofList
    have hdouble : Double.ofDecimal negative (value ds)
        ((Nat.toDigits 10 digits).length + exponent - ds.length) = .finite negative m e :=
      (hvalue negative).trans hread
    rw [if_neg (show ¬(m == 0) = true by simpa using hm), htext, hstrip, String.toList_ofList]
    refine ⟨_, rfl, ?_⟩
    split
    · refine ⟨starts_positional hds _, fun hrest => ?_⟩
      rw [readNumber_positional hds _ hrest, hdouble]
    · refine ⟨starts_scientific hds _, fun hrest => ?_⟩
      rw [readNumber_scientific hds _ hrest, hdouble]

end FloatLayout

end Scaffold
