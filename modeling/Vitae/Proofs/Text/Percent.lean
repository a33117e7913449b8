import Vitae.Text.Percent

/-! Percent encoding as a relation between octets and characters, which leaves open only in which case
the hexadecimal digits are written. Whatever stands for some octets in this sense is read back to just these,
and has no character in it that could end the place it stands in. -/

namespace Vitae.Text.Percent

/-- An unreserved character stands for its own octet. Any other octet is written as a percent sign and
its two hexadecimal digits. -/
inductive Encodes : List UInt8 → List Char → Prop
  | nil : Encodes [] []
  | plain {octet : UInt8} {c : Char} {octets : List UInt8} {cs : List Char} (unreserved : isUnreserved c = true)
      (same : c.toNat = octet.toNat) (rest : Encodes octets cs) : Encodes (octet :: octets) (c :: cs)
  | group {octet : UInt8} {high low : Char} {octets : List UInt8} {cs : List Char}
      (reserved : isUnreserved (Char.ofNat octet.toNat) = false) (first : hexValue? high = some (octet.toNat / 16))
      (second : hexValue? low = some (octet.toNat % 16)) (rest : Encodes octets cs) :
      Encodes (octet :: octets) ('%' :: high :: low :: cs)

/-- The octets of the UTF-8 form of a text. -/
def octets (text : String) : List UInt8 :=
  text.toUTF8.data.toList

variable {bytes : List UInt8} {cs : List Char}

theorem toNat_ofNat_octet (octet : UInt8) : (Char.ofNat octet.toNat).toNat = octet.toNat := by
  have small : octet.toNat < 256 := octet.toNat_lt
  have valid : octet.toNat.isValidChar := Or.inl (by omega)
  rw [Char.ofNat, dif_pos valid]
  rfl

theorem encodes_flatMap_escape (bytes : List UInt8) : Encodes bytes (bytes.flatMap escape) := by
  induction bytes with
  | nil => exact .nil
  | cons octet rest ih =>
    have small : octet.toNat < 256 := octet.toNat_lt
    rw [List.flatMap_cons, escape]
    by_cases unreserved : isUnreserved (Char.ofNat octet.toNat) = true
    · rw [if_pos unreserved]
      exact .plain unreserved (toNat_ofNat_octet octet) ih
    · rw [if_neg unreserved]
      exact .group (Bool.eq_false_iff.mpr unreserved) (hexValue?_hexDigit (by omega)) (hexValue?_hexDigit (by omega)) ih

theorem encodes_encode (text : String) : Encodes (octets text) (encode text).toList := by
  rw [encode, String.toList_ofList]
  exact encodes_flatMap_escape (octets text)

theorem isUpper_iff {c : Char} : c.isUpper = true ↔ 'A' ≤ c ∧ c ≤ 'Z' :=
  decide_eq_true_iff

theorem isLower_iff {c : Char} : c.isLower = true ↔ 'a' ≤ c ∧ c ≤ 'z' :=
  Bool.and_eq_true_iff.trans (and_congr decide_eq_true_iff decide_eq_true_iff)

theorem isAlphanum_iff {c : Char} :
    c.isAlphanum = true ↔ (c.isUpper = true ∨ c.isLower = true) ∨ c.isDigit = true := by
  rw [← Bool.or_eq_true, ← Bool.or_eq_true]
  rfl

theorem le_of_isUnreserved {c : Char} (unreserved : isUnreserved c = true) : c ≤ '~' := by
  simp only [isUnreserved, Bool.or_eq_true, beq_iff_eq, isAlphanum_iff] at unreserved
  rcases unreserved with (((((upper | lower) | digit) | rfl) | rfl) | rfl) | rfl
  · exact Char.le_trans (isUpper_iff.mp upper).2 (by decide)
  · exact Char.le_trans (isLower_iff.mp lower).2 (by decide)
  · exact UInt32.le_iff_toNat_le.mpr (Nat.le_trans (Char.isDigit_iff_toNat.mp digit).2 (by decide))
  all_goals decide

theorem isUnreserved_of_hexValue? {c : Char} {value : Nat} (digit : hexValue? c = some value) : isUnreserved c = true := by
  have word : c.isAlphanum = true := by
    rw [isAlphanum_iff, isUpper_iff, isLower_iff]
    unfold hexValue? at digit
    split at digit
    next decimal => exact Or.inr decimal
    next =>
      split at digit
      next upper => exact Or.inl (Or.inl ⟨upper.1, Char.le_trans upper.2 (by decide)⟩)
      next =>
        split at digit
        next lower => exact Or.inl (Or.inr ⟨lower.1, Char.le_trans lower.2 (by decide)⟩)
        next => cases digit
  simp [isUnreserved, word]

/-- Reading back gives the octets that were written. -/
theorem Encodes.octets?_eq (encodes : Encodes bytes cs) : octets? cs = some bytes := by
  induction encodes with
  | nil => rfl
  | @plain octet c bytes cs unreserved same rest ih =>
    have other : c ≠ '%' := by
      rintro rfl
      cases unreserved
    have single : String.utf8EncodeChar c = [octet] := by
      have low : c.val.toNat ≤ 127 := Nat.le_succ_of_le (UInt32.le_iff_toNat_le.mp (le_of_isUnreserved unreserved))
      have value : c.val.toNat = octet.toNat := same
      rw [String.utf8EncodeChar, if_pos low, value, UInt8.ofNat_toNat]
    rw [octets?, if_neg other, ih, single]
    · rfl
    · exact fun _ _ _ percent => absurd percent other
  | @group octet high low bytes cs reserved first second rest ih =>
    have whole : UInt8.ofNat (16 * (octet.toNat / 16) + octet.toNat % 16) = octet := by
      rw [Nat.div_add_mod, UInt8.ofNat_toNat]
    rw [octets?, first, second, ih]
    simp only [whole]

theorem Encodes.unreserved_or_percent (encodes : Encodes bytes cs) : ∀ c ∈ cs, isUnreserved c = true ∨ c = '%' := by
  induction encodes with
  | nil => simp
  | plain unreserved _ _ ih =>
    rw [List.forall_mem_cons]
    exact ⟨Or.inl unreserved, ih⟩
  | group _ first second _ ih =>
    rw [List.forall_mem_cons, List.forall_mem_cons, List.forall_mem_cons]
    exact ⟨Or.inr rfl, Or.inl (isUnreserved_of_hexValue? first), Or.inl (isUnreserved_of_hexValue? second), ih⟩

theorem Encodes.decode?_eq {text written : String} (encodes : Encodes (octets text) written.toList) :
    decode? written = some text := by
  rw [decode?, encodes.octets?_eq, Option.bind_some]
  exact dif_pos text.isValidUTF8

theorem decode?_encode (text : String) : decode? (encode text) = some text :=
  (encodes_encode text).decode?_eq

theorem encode_inj {one other : String} : encode one = encode other ↔ one = other := by
  refine ⟨fun same => ?_, congrArg encode⟩
  have read := decode?_encode one
  rw [same, decode?_encode] at read
  exact (Option.some.inj read).symm

/-- The digits are read in either case. -/
example : decode? "caf%C3%a9~%25" = some "café~%" := by decide +kernel

end Vitae.Text.Percent
