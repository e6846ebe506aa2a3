/-!
# Ratios with a fixed number of places

`roundHalfEven` divides and rounds to the nearest integer, a half to the even neighbour.
`roundBinary` keeps a ratio to its leading binary digits, and `roundBinary_near` bounds what that
loses. `ratioText` writes a ratio with a point and a fixed number of digits behind it.
-/

namespace RoleAccess.Text

def roundHalfEven (num den : Nat) : Nat :=
  let q := num / den
  let twice := 2 * (num % den)
  if twice < den then q
  else if den < twice then q + 1
  else q + q % 2

/-- The ratio nearest to a given one among those with `bits` binary digits from the first that is
not zero. The ratio is scaled by a power of two until its whole part has that many digits, rounded
there, and scaled back. -/
def roundBinary (bits num den : Nat) : Nat × Nat :=
  let up := bits + den.log2 - num.log2
  let down := num.log2 - (bits + den.log2)
  let n := num <<< up
  let d := den <<< down
  if n / d < 1 <<< bits then (roundHalfEven n d <<< down, 1 <<< up)
  else (roundHalfEven n (2 * d) <<< (down + 1), 1 <<< up)

def ratioText (places num den : Nat) : String :=
  let unit := Nat.pow 10 places
  let n := if den = 0 then 0 else roundHalfEven (num * unit) den
  let digits := toString (n % unit)
  let zeros := String.ofList (List.replicate (places - digits.length) '0')
  toString (n / unit) ++ "." ++ zeros ++ digits

/-- A rounded quotient is at most half a unit away. -/
theorem roundHalfEven_near (num den : Nat) (h : 0 < den) :
    2 * num ≤ 2 * (roundHalfEven num den * den) + den ∧
      2 * (roundHalfEven num den * den) ≤ 2 * num + den := by
  have hdiv := Nat.div_add_mod num den
  have hmod := Nat.mod_lt num h
  have hq : num / den * den = den * (num / den) := Nat.mul_comm _ _
  simp only [roundHalfEven]
  split
  · rw [hq]; omega
  · split
    · rw [Nat.add_mul, hq]; omega
    · rcases Nat.mod_two_eq_zero_or_one (num / den) with h2 | h2 <;>
        rw [h2, Nat.add_mul, hq] <;> omega

/-- Where a quotient is at least half a `share`, rounding it changes it by at most one part in
`share`. -/
theorem roundHalfEven_share (share num den : Nat) (h : 0 < den) (large : den * share ≤ 2 * num) :
    num * share ≤ roundHalfEven num den * den * share + num ∧
      roundHalfEven num den * den * share ≤ num * share + num := by
  obtain ⟨lower, upper⟩ := roundHalfEven_near num den h
  generalize roundHalfEven num den * den = r at lower upper ⊢
  have lower' := Nat.mul_le_mul_right share lower
  have upper' := Nat.mul_le_mul_right share upper
  rw [Nat.add_mul, Nat.mul_assoc, Nat.mul_assoc] at lower' upper'
  omega

/-- A ratio kept to `bits` binary digits is off by at most one part in `1 <<< bits`. -/
theorem roundBinary_near (bits num den : Nat) (hnum : 0 < num) (hden : 0 < den) :
    (num * (roundBinary bits num den).2) <<< bits ≤
        ((roundBinary bits num den).1 * den) <<< bits + num * (roundBinary bits num den).2 ∧
      ((roundBinary bits num den).1 * den) <<< bits ≤
        (num * (roundBinary bits num den).2) <<< bits + num * (roundBinary bits num den).2 := by
  have scaled : ∀ r k, r <<< k * den = r * den <<< k := by
    intro r k
    simp only [Nat.shiftLeft_eq, Nat.mul_comm, Nat.mul_left_comm]
  have unscaled : ∀ k, num * 1 <<< k = num <<< k := by
    intro k
    simp only [Nat.shiftLeft_eq, Nat.one_mul]
  have positive : ∀ k, 0 < den <<< k := by
    intro k
    rw [Nat.shiftLeft_eq]
    exact Nat.mul_pos hden (Nat.two_pow_pos k)
  simp only [roundBinary]
  generalize hup : bits + den.log2 - num.log2 = up
  generalize hdown : num.log2 - (bits + den.log2) = down
  split
  · simp only [scaled, unscaled]
    rw [Nat.shiftLeft_eq _ bits, Nat.shiftLeft_eq _ bits]
    refine roundHalfEven_share _ _ _ (positive down) ?_
    have hn := Nat.log2_self_le (Nat.ne_of_gt hnum)
    have hd := Nat.le_of_lt (Nat.lt_log2_self (n := den))
    simp only [Nat.shiftLeft_eq]
    refine Nat.le_trans (Nat.mul_le_mul_right _ (Nat.mul_le_mul_right _ hd)) ?_
    refine Nat.le_trans ?_ (Nat.mul_le_mul_left _ (Nat.mul_le_mul_right _ hn))
    rw [← Nat.pow_add, ← Nat.pow_add, ← Nat.pow_add, Nat.mul_comm, ← Nat.pow_succ]
    apply Nat.le_of_eq
    congr 1
    omega
  · next whole =>
    have double : 2 * den <<< down = den <<< (down + 1) := by rw [Nat.shiftLeft_succ]
    rw [Nat.not_lt, Nat.le_div_iff_mul_le (positive down), Nat.shiftLeft_eq, Nat.one_mul,
      Nat.mul_comm] at whole
    simp only [double, scaled, unscaled]
    rw [Nat.shiftLeft_eq _ bits, Nat.shiftLeft_eq _ bits]
    refine roundHalfEven_share _ _ _ (positive (down + 1)) ?_
    rw [← double, Nat.mul_assoc]
    exact Nat.mul_le_mul_left 2 whole

end RoleAccess.Text
