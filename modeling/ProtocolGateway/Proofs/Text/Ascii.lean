import Mathlib
import ProtocolGateway.Text.Ascii

/-!
Facts about ASCII characters, which are few enough to be gone through one by one, and the digits of
numbers.
-/

namespace ProtocolGateway.Text.Ascii

theorem of_ascii {P : Char → Prop} (all : ∀ n < 128, P (Char.ofNat n)) {c : Char}
    (ascii : c.toNat < 128) : P c := by
  have found := all c.toNat ascii
  rwa [Char.ofNat_toNat] at found

theorem ascii_of_isLetter {c : Char} (letter : isLetter c = true) : c.toNat < 128 := by
  simp only [isLetter, Bool.or_eq_true, Bool.and_eq_true, decide_eq_true_eq] at letter
  rcases letter with ⟨_, high⟩ | ⟨_, high⟩
  · have bound : c.toNat ≤ 122 := high
    omega
  · have bound : c.toNat ≤ 90 := high
    omega

theorem ascii_of_isDigit {c : Char} (digit : isDigit c = true) : c.toNat < 128 := by
  simp only [isDigit, Bool.and_eq_true, decide_eq_true_eq] at digit
  have bound : c.toNat ≤ 57 := digit.2
  omega

/-! Numbers -/

theorem isDigit_of_mem_toDigits {n : Nat} {c : Char} (member : c ∈ Nat.toDigits 10 n) :
    isDigit c = true := by
  have digit := Nat.isDigit_of_mem_toDigits (by omega) (by omega) member
  simp only [Char.isDigit, Bool.and_eq_true, decide_eq_true_eq] at digit
  simp only [isDigit, Bool.and_eq_true, decide_eq_true_eq]
  exact digit

theorem natOf_toDigits (n : Nat) : natOf (Nat.toDigits 10 n) = n := by
  have read := Nat.ofDigitChars_ten_toDigits (n := n)
  rw [Nat.ofDigitChars_eq_foldl] at read
  exact read

end ProtocolGateway.Text.Ascii
