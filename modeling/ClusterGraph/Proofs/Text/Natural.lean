import ClusterGraph.Proofs.Text.Cut
import ClusterGraph.Text.Natural

/-!
# Numbers that are written and read

* **`natural_toString`** — a number that is written in decimal is read back, below any limit that it keeps.
* **`number_cut`** — a number with a separator behind it is cut off a text in one way.
-/

namespace ClusterGraph.Text

/-! ## Reading digits

A number is read digit by digit, with its limit tested after each. The number so far is never greater than
the whole, which is why only the whole has to keep the limit. -/

theorem isDigit_of_mem_toString {n : Nat} {c : Char} (h : c ∈ (toString n).toList) :
    c.isDigit = true := by
  have hdigits : c ∈ Nat.toDigits 10 n := by simpa using h
  exact Nat.isDigit_of_mem_toDigits (by omega) (by omega) hdigits

theorem notMem_toString {c : Char} (hc : c.isDigit = false) (n : Nat) : c ∉ (toString n).toList :=
  fun h => Bool.false_ne_true (hc.symm.trans (isDigit_of_mem_toString h))

theorem le_ofDigitChars (digits : List Char) (n : Nat) : n ≤ Nat.ofDigitChars 10 digits n := by
  induction digits generalizing n with
  | nil => simp
  | cons c rest ih =>
    rw [Nat.ofDigitChars_cons]
    have := ih (10 * n + (c.toNat - '0'.toNat))
    omega

/-- Digits are put behind a number one by one; since it only grows, the limit need be kept only at the
end. -/
theorem foldlM_appendDigit {limit : Nat} {digits : List Char} (hd : ∀ c ∈ digits, c.isDigit = true)
    {n : Nat} (h : Nat.ofDigitChars 10 digits n < limit) :
    digits.foldlM (appendDigit limit) n = .ok (Nat.ofDigitChars 10 digits n) := by
  -- induction on the digits, for any number that has been read so far
  induction digits generalizing n with
  | nil => rw [Nat.ofDigitChars_nil]; rfl
  | cons c rest ih =>
    have hc : c.isDigit = true := hd c List.mem_cons_self
    have hstep : 10 * n + (c.toNat - '0'.toNat) = n * 10 + (c.toNat - 48) := by
      rw [Nat.mul_comm]
      rfl
    rw [Nat.ofDigitChars_cons, hstep] at h ⊢
    have hlimit : n * 10 + (c.toNat - 48) < limit := Nat.lt_of_le_of_lt (le_ofDigitChars rest _) h
    have happend : appendDigit limit n c = .ok (n * 10 + (c.toNat - 48)) := by
      simp [appendDigit, hc, hlimit]
    rw [List.foldlM_cons, happend]
    exact ih (fun x hx => hd x (List.mem_cons_of_mem _ hx)) h

/-! ## Writing and reading

The digits that are written are those that are read, with no sign in front of them. So what is written
tells which number it was, also with a separator behind it. -/

/-- **A number that was written is read back.** -/
theorem natural_toString {n limit : Nat} (h : n < limit) : natural limit (toString n) = .ok n := by
  have hlist : (toString n).toList = Nat.toDigits 10 n := by simp
  have hdigits : ∀ c ∈ Nat.toDigits 10 n, c.isDigit = true := fun c hc =>
    isDigit_of_mem_toString (hlist ▸ hc)
  have hunsigned : unsigned (Nat.toDigits 10 n) = Nat.toDigits 10 n := by
    unfold unsigned
    split
    · -- a plus sign is no digit
      rename_i c rest heq
      have := hdigits '+' (by rw [heq]; exact List.mem_cons_self)
      exact absurd this (by decide)
    · rfl
  have hne : (toString n).isEmpty = false := by simp
  have hkeeps : Nat.ofDigitChars 10 (Nat.toDigits 10 n) 0 < limit := by
    rw [Nat.ofDigitChars_ten_toDigits]
    exact h
  rw [natural, hne, hlist, hunsigned]
  show (Nat.toDigits 10 n).foldlM (appendDigit limit) 0 = _
  rw [foldlM_appendDigit hdigits hkeeps, Nat.ofDigitChars_ten_toDigits]

theorem toString_inj {m n : Nat} : toString m = toString n ↔ m = n := by
  constructor
  · intro h
    have hm := natural_toString (Nat.lt_succ_of_le (Nat.le_max_left m n))
    rw [h, natural_toString (Nat.lt_succ_of_le (Nat.le_max_right m n))] at hm
    exact (Except.ok.inj hm).symm
  · rintro rfl
    rfl

/-- **A number is cut off at the separator behind it in one way.** -/
theorem number_cut {c : Char} {separator s t : String} (hsep : separator.toList = [c])
    (hc : c.isDigit = false) {m n : Nat} :
    toString m ++ separator ++ s = toString n ++ separator ++ t ↔ m = n ∧ s = t := by
  rw [cut_first hsep (notMem_toString hc m) (notMem_toString hc n), toString_inj]

end ClusterGraph.Text
