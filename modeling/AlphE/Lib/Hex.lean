import Mathlib.Algebra.Ring.Nat
import Mathlib.Data.List.Basic

/-!
Fixed-width lower-case hexadecimal.
-/

namespace Hex

theorem digitChar_injOn : ∀ a < 16, ∀ b < 16,
    Nat.digitChar a = Nat.digitChar b → a = b := by
  decide

/-- The last `w` hexadecimal digits of `n`, most significant first. -/
def padded : ℕ → ℕ → List Char
  | 0, _ => []
  | w + 1, n => padded w (n / 16) ++ [Nat.digitChar (n % 16)]

@[simp] theorem length_padded (w n : ℕ) : (padded w n).length = w := by
  induction w generalizing n with
  | zero => rfl
  | succ w ih => simp [padded, ih]

theorem mem_padded {w n : ℕ} {d : Char} (h : d ∈ padded w n) :
    ∃ k < 16, d = Nat.digitChar k := by
  induction w generalizing n with
  | zero => cases h
  | succ w ih =>
      rw [padded, List.mem_append, List.mem_singleton] at h
      rcases h with h | rfl
      · exact ih h
      · exact ⟨n % 16, Nat.mod_lt n (by decide), rfl⟩

/-- Numbers that fit in `w` digits are told apart by them. -/
theorem padded_injOn (w : ℕ) {m n : ℕ} (hm : m < 16 ^ w) (hn : n < 16 ^ w)
    (h : padded w m = padded w n) : m = n := by
  induction w generalizing m n with
  | zero =>
      rw [Nat.pow_zero] at hm hn
      omega
  | succ w ih =>
      obtain ⟨hhigh, hlow⟩ := List.append_inj' h rfl
      have hdiv : m / 16 = n / 16 := by
        apply ih _ _ hhigh
        · exact Nat.div_lt_of_lt_mul (by rwa [Nat.pow_succ'] at hm)
        · exact Nat.div_lt_of_lt_mul (by rwa [Nat.pow_succ'] at hn)
      have hmod : m % 16 = n % 16 :=
        digitChar_injOn _ (Nat.mod_lt m (by decide)) _ (Nat.mod_lt n (by decide))
          (List.singleton_inj.mp hlow)
      omega

end Hex
