import Mathlib
import PipeShell.Ending

/-!
# What a wait word says

A wait word is a signed number of 32 bits. Its seven low bits and its second byte are cut out with
masks and a shift, also where the word is negative and the shift fills up with ones. Main
statements: the ending of a word in terms of these bits, and the range of the code that a shell
reports for it.
-/
namespace PipeShell.Ending

theorem signalBits_lt (word : Int32) : signalBits word < 128 := Nat.mod_lt _ (by decide)

theorem exitBits_lt (word : Int32) : exitBits word < 256 := Nat.mod_lt _ (by decide)

theorem toInt_signalBits (word : Int32) :
    (Int32.ofNat (signalBits word)).toInt = signalBits word := by
  have hlow := signalBits_lt word
  exact Int32.toInt_ofNat_of_lt (by omega)

theorem toInt_exitBits (word : Int32) : (Int32.ofNat (exitBits word)).toInt = exitBits word := by
  have hlow := exitBits_lt word
  exact Int32.toInt_ofNat_of_lt (by omega)

theorem and_127_eq (word : Int32) : word &&& 127 = Int32.ofNat (signalBits word) := by
  have hlow := signalBits_lt word
  apply Int32.toBitVec_inj.mp
  apply BitVec.eq_of_toNat_eq
  calc (word &&& 127).toBitVec.toNat = word.toBitVec.toNat &&& (2 ^ 7 - 1) := rfl
    _ = signalBits word := Nat.and_two_pow_sub_one_eq_mod _ 7
    _ = (Int32.ofNat (signalBits word)).toBitVec.toNat := (Nat.mod_eq_of_lt (by omega)).symm

/-- The second byte is the same whether the shift fills up with zeros or with ones. -/
theorem shift_and_255_eq (word : Int32) : word >>> 8 &&& 255 = Int32.ofNat (exitBits word) := by
  have hbyte := exitBits_lt word
  have hshift : (word >>> 8).toBitVec.toNat % 256 = exitBits word := by
    change (word.toBitVec.sshiftRight 8).toNat % 256 = word.toBitVec.toNat / 256 % 256
    have hbound : word.toBitVec.toNat < 2 ^ 32 := word.toBitVec.isLt
    rw [BitVec.toNat_sshiftRight]
    split_ifs
    · rw [Nat.shiftRight_eq_div_pow]
      omega
    · rw [Nat.shiftRight_eq_div_pow]
  apply Int32.toBitVec_inj.mp
  apply BitVec.eq_of_toNat_eq
  calc (word >>> 8 &&& 255).toBitVec.toNat = (word >>> 8).toBitVec.toNat &&& (2 ^ 8 - 1) := rfl
    _ = exitBits word := (Nat.and_two_pow_sub_one_eq_mod _ 8).trans hshift
    _ = (Int32.ofNat (exitBits word)).toBitVec.toNat := (Nat.mod_eq_of_lt (by omega)).symm

theorem toInt_and_127 (word : Int32) : (word &&& 127).toInt = signalBits word := by
  rw [and_127_eq, toInt_signalBits]

theorem and_127_eq_zero_iff (word : Int32) : word &&& 127 = 0 ↔ signalBits word = 0 := by
  rw [← Int32.toInt_inj, toInt_and_127]
  exact Int.ofNat_inj

theorem and_127_eq_127_iff (word : Int32) : word &&& 127 = 127 ↔ signalBits word = 127 := by
  rw [← Int32.toInt_inj, toInt_and_127]
  exact Int.ofNat_inj

/-! ### Endings -/

theorem ofWaitWord_of_zero {word : Int32} (h : word &&& 127 = 0) :
    ofWaitWord word = .exited (word >>> 8 &&& 255) := by
  rw [ofWaitWord, if_pos ((and_127_eq_zero_iff word).mp h), shift_and_255_eq]

theorem ofWaitWord_of_signal {word : Int32} (hlow : 1 ≤ (word &&& 127).toInt)
    (hhigh : (word &&& 127).toInt ≤ 126) : ofWaitWord word = .signaled (word &&& 127) := by
  rw [toInt_and_127] at hlow hhigh
  rw [ofWaitWord, if_neg (by omega), if_neg (by omega), and_127_eq]

theorem ofWaitWord_of_127 {word : Int32} (h : word &&& 127 = 127) :
    ofWaitWord word = .exited (-1) := by
  have hbits := (and_127_eq_127_iff word).mp h
  rw [ofWaitWord, if_neg (by omega), if_pos hbits]

theorem wait_word_cases (word : Int32) :
    word &&& 127 = 0 ∨ (1 ≤ (word &&& 127).toInt ∧ (word &&& 127).toInt ≤ 126) ∨
      word &&& 127 = 127 := by
  have hlow := signalBits_lt word
  rw [and_127_eq_zero_iff, and_127_eq_127_iff, toInt_and_127]
  omega

theorem xor_and (first second mask : Int32) :
    (first ^^^ second) &&& mask = (first &&& mask) ^^^ (second &&& mask) := by
  apply Int32.toBitVec_inj.mp
  apply BitVec.eq_of_toNat_eq
  exact Nat.and_xor_distrib_right

/-- The bit between the signal and the exit code does not matter. -/
theorem ofWaitWord_flip_core (word : Int32) : ofWaitWord (word ^^^ 128) = ofWaitWord word := by
  have hsignal : (word ^^^ 128) &&& 127 = word &&& 127 := by
    have hnone : (128 : Int32) &&& 127 = 0 := by decide
    rw [xor_and, hnone, Int32.xor_zero]
  have hexit : (word ^^^ 128) >>> (8 : Int32) &&& 255 = word >>> (8 : Int32) &&& 255 := by
    have hnone : (128 : Int32) >>> 8 = 0 := by decide
    rw [Int32.shiftRight_xor, hnone, Int32.xor_zero]
  rcases wait_word_cases word with h | ⟨hlow, hhigh⟩ | h
  · rw [ofWaitWord_of_zero h, ofWaitWord_of_zero (hsignal.trans h), hexit]
  · rw [ofWaitWord_of_signal hlow hhigh, ← hsignal]
    rw [← hsignal] at hlow hhigh
    exact ofWaitWord_of_signal hlow hhigh
  · rw [ofWaitWord_of_127 h, ofWaitWord_of_127 (hsignal.trans h)]

/-! ### Codes -/

theorem code_exited_range (word : Int32) :
    0 ≤ (word >>> 8 &&& 255).toInt ∧ (word >>> 8 &&& 255).toInt ≤ 255 := by
  have hbyte := exitBits_lt word
  rw [shift_and_255_eq, toInt_exitBits]
  omega

theorem toInt_code_signaled {signal : Int32} (hlow : 0 ≤ signal.toInt)
    (hhigh : signal.toInt < 128) :
    (code (.signaled signal)).toInt = 128 + signal.toInt := by
  have hsum : (128 : Int32).toInt = 128 := rfl
  rw [code, Int32.toInt_add, hsum]
  exact Int.bmod_eq_of_le (by omega) (by omega)

theorem code_of_zero {word : Int32} (h : word &&& 127 = 0) :
    0 ≤ (ofWaitWord word).code.toInt ∧ (ofWaitWord word).code.toInt ≤ 255 := by
  rw [ofWaitWord_of_zero h]
  exact code_exited_range word

theorem code_of_signal {word : Int32} (hlow : 1 ≤ (word &&& 127).toInt)
    (hhigh : (word &&& 127).toInt ≤ 126) :
    (ofWaitWord word).code.toInt = 128 + (word &&& 127).toInt := by
  rw [ofWaitWord_of_signal hlow hhigh]
  exact toInt_code_signaled (by omega) (by omega)

theorem code_of_127 {word : Int32} (h : word &&& 127 = 127) :
    (ofWaitWord word).code.toInt = -1 := by
  rw [ofWaitWord_of_127 h]
  rfl

theorem code_ofWaitWord_range (word : Int32) :
    -1 ≤ (ofWaitWord word).code.toInt ∧ (ofWaitWord word).code.toInt ≤ 255 := by
  rcases wait_word_cases word with h | ⟨hlow, hhigh⟩ | h
  · have hcode := code_of_zero h
    omega
  · have hcode := code_of_signal hlow hhigh
    omega
  · have hcode := code_of_127 h
    omega

/-- Only a word that describes no end has a negative code. -/
theorem and_127_of_code_neg {word : Int32} (hn : (ofWaitWord word).code.toInt < 0) :
    word &&& 127 = 127 := by
  rcases wait_word_cases word with h | ⟨hlow, hhigh⟩ | h
  · have hcode := code_of_zero h
    omega
  · have hcode := code_of_signal hlow hhigh
    omega
  · exact h

theorem ofWaitWord_signaled {word signal : Int32} (h : ofWaitWord word = .signaled signal) :
    signal = word &&& 127 ∧ 1 ≤ (word &&& 127).toInt ∧ (word &&& 127).toInt ≤ 126 := by
  rcases wait_word_cases word with hz | ⟨hlow, hhigh⟩ | hn
  · rw [ofWaitWord_of_zero hz] at h
    cases h
  · rw [ofWaitWord_of_signal hlow hhigh] at h
    cases h
    exact ⟨rfl, hlow, hhigh⟩
  · rw [ofWaitWord_of_127 hn] at h
    cases h

theorem signal_of_code {word signal : Int32} (h : ofWaitWord word = .signaled signal) :
    128 < (ofWaitWord word).code.toInt ∧ signal.toInt = (ofWaitWord word).code.toInt - 128 := by
  obtain ⟨rfl, hlow, hhigh⟩ := ofWaitWord_signaled h
  have hcode := code_of_signal hlow hhigh
  omega

end PipeShell.Ending
