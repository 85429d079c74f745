import HttpServer.Text.Decimal

/-!
Decimal digits. What is written in digits is read back as it was.
-/

namespace HttpServer

theorem digitValue_digitChar {digit : Nat} (bound : digit < 10) :
    digitValue? (digitChar digit) = some digit := by
  have all : ∀ digit < 10, digitValue? (digitChar digit) = some digit := by decide
  exact all digit bound

theorem mem_digitsOnto {c : Char} {rest : List Char} {value : Nat}
    (member : c ∈ digitsOnto rest value) : (digitValue? c).isSome = true ∨ c ∈ rest := by
  induction rest, value using digitsOnto.induct with
  | case1 rest value small =>
      rw [digitsOnto, if_pos small] at member
      rcases List.mem_cons.mp member with rfl | later
      · exact Or.inl (by rw [digitValue_digitChar small]; rfl)
      · exact Or.inr later
  | case2 rest value large ih =>
      rw [digitsOnto, if_neg large] at member
      rcases ih member with digit | inside
      · exact Or.inl digit
      · rcases List.mem_cons.mp inside with rfl | later
        · exact Or.inl (by rw [digitValue_digitChar (Nat.mod_lt value (by decide))]; rfl)
        · exact Or.inr later

theorem mem_decimal {c : Char} {value : Nat} (member : c ∈ (decimal value).toList) :
    (digitValue? c).isSome = true := by
  rw [decimal, String.toList_ofList] at member
  rcases mem_digitsOnto member with digit | nothing
  · exact digit
  · cases nothing

theorem digitsOnto_ne_nil (rest : List Char) (value : Nat) : digitsOnto rest value ≠ [] := by
  induction rest, value using digitsOnto.induct with
  | case1 rest value small => simp [digitsOnto, small]
  | case2 rest value large ih => rwa [digitsOnto, if_neg large]

theorem readDigitsFrom_digitsOnto {limit value : Nat} (beyond : NumberFault) (rest : List Char)
    (bound : value ≤ limit) :
    readDigitsFrom limit beyond 0 (digitsOnto rest value) =
      readDigitsFrom limit beyond value rest := by
  induction rest, value using digitsOnto.induct with
  | case1 rest value small =>
      simp [digitsOnto, small, readDigitsFrom, digitValue_digitChar small, bound]
  | case2 rest value large ih =>
      have front : value / 10 ≤ limit := by omega
      have whole : value / 10 * 10 + value % 10 = value := by omega
      rw [digitsOnto, if_neg large, ih front, readDigitsFrom,
        digitValue_digitChar (Nat.mod_lt value (by decide))]
      simp only [whole, bound, if_true]

theorem readNatural_decimal {limit value : Nat} (bound : value ≤ limit) :
    readNatural limit (decimal value).toList = .ok value := by
  have read := readDigitsFrom_digitsOnto .tooLarge [] bound
  have digits : ∀ c ∈ digitsOnto [] value, (digitValue? c).isSome = true := by
    intro c member
    exact mem_decimal (by rwa [decimal, String.toList_ofList])
  rw [decimal, String.toList_ofList]
  cases written : digitsOnto [] value with
  | nil => exact absurd written (digitsOnto_ne_nil [] value)
  | cons c rest =>
      rw [written] at read digits
      unfold readNatural
      split
      · contradiction
      · rename_i sign
        cases sign
        exact absurd (digits '+' List.mem_cons_self) (by decide)
      · exact read

end HttpServer
