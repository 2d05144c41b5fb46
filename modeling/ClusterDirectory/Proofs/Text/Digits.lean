import ClusterDirectory.Text.Hex

namespace ClusterDirectory.Text

theorem isDigit_digitChar {d : Nat} (small : d < 10) : isDigit (Nat.digitChar d) = true := by
  revert d
  decide

theorem toNat_digitChar {d : Nat} (small : d < 10) :
    (Nat.digitChar d).toNat - '0'.toNat = d := by
  revert d
  decide

theorem hexValue?_digitChar {d : Nat} (small : d < 16) : hexValue? (Nat.digitChar d) = some d := by
  revert d
  decide

section

variable {base : Nat}

theorem mem_toDigits (large : 1 < base) (n : Nat) {c : Char} (member : c ∈ Nat.toDigits base n) :
    ∃ d, d < base ∧ c = Nat.digitChar d := by
  induction n using Nat.strongRecOn with
  | ind n ih =>
      by_cases small : n < base
      · rw [Nat.toDigits_of_lt_base small, List.mem_singleton] at member
        exact ⟨n, small, member⟩
      · rw [Nat.toDigits_of_base_le large (by omega), List.mem_append, List.mem_singleton] at member
        rcases member with earlier | last
        · exact ih (n / base) (Nat.div_lt_self (by omega) large) earlier
        · exact ⟨n % base, Nat.mod_lt n (by omega), last⟩

theorem foldl_toDigits (large : 1 < base) {value : Char → Nat}
    (digit : ∀ d < base, value (Nat.digitChar d) = d) (n : Nat) :
    (Nat.toDigits base n).foldl (fun n c => n * base + value c) 0 = n := by
  induction n using Nat.strongRecOn with
  | ind n ih =>
      by_cases small : n < base
      · simp [Nat.toDigits_of_lt_base small, digit n small]
      · rw [Nat.toDigits_of_base_le large (by omega), List.foldl_append,
          ih (n / base) (Nat.div_lt_self (by omega) large)]
        simp [digit (n % base) (Nat.mod_lt n (by omega)), Nat.div_add_mod']

end

theorem digitsValue_toDigits (n : Nat) : digitsValue (Nat.toDigits 10 n) = n :=
  foldl_toDigits (by decide) (fun _ => toNat_digitChar) n

theorem hexDigitsValue_hexDigits (n : Nat) : hexDigitsValue (hexDigits n) = n :=
  foldl_toDigits (by decide) (fun d small => by rw [hexValue?_digitChar small, Option.getD_some]) n

theorem isDigit_of_mem_toDigits {n : Nat} {c : Char} (member : c ∈ Nat.toDigits 10 n) :
    isDigit c = true := by
  obtain ⟨d, small, rfl⟩ := mem_toDigits (by decide) n member
  exact isDigit_digitChar small

theorem isHexDigit_of_mem_hexDigits {n : Nat} {c : Char} (member : c ∈ hexDigits n) :
    isHexDigit c = true := by
  obtain ⟨d, small, rfl⟩ := mem_toDigits (by decide) n member
  rw [isHexDigit, hexValue?_digitChar small, Option.isSome_some]

theorem foldl_hex_lt (ds : List Char) {n limit : Nat} (below : n < limit) :
    ds.foldl (fun n c => n * 16 + (hexValue? c).getD 0) n < limit * Nat.pow 16 ds.length := by
  induction ds generalizing n limit with
  | nil => exact Nat.lt_of_lt_of_eq below (Nat.mul_one limit).symm
  | cons c ds ih =>
      have digit : (hexValue? c).getD 0 < 16 := by
        cases value : hexValue? c with
        | none => decide
        | some d => exact hexValue?_lt value
      have rest := @ih (n * 16 + (hexValue? c).getD 0) (limit * 16) (by omega)
      rw [Nat.mul_assoc, Nat.mul_comm 16] at rest
      exact rest

theorem hexDigitsValue_lt {ds : List Char} (short : ds.length ≤ 4) : hexDigitsValue ds < 65536 := by
  have value := foldl_hex_lt ds (n := 0) (Nat.lt_succ_self 0)
  rw [Nat.one_mul] at value
  exact Nat.lt_of_lt_of_le value (Nat.pow_le_pow_right (by decide) short)

theorem head_toDigits (n : Nat) (zero : (Nat.toDigits 10 n).head? = some '0') : n = 0 := by
  induction n using Nat.strongRecOn with
  | ind n ih =>
      by_cases small : n < 10
      · rw [Nat.toDigits_of_lt_base small, List.head?_cons, Option.some.injEq] at zero
        have value := toNat_digitChar small
        rw [zero] at value
        exact value.symm
      · obtain ⟨c, cs, digits⟩ :=
          List.exists_cons_of_ne_nil (Nat.toDigits_ne_nil (n := n / 10) (b := 10))
        rw [Nat.toDigits_of_base_le (by decide) (by omega), digits] at zero
        have := ih (n / 10) (by omega) (digits ▸ zero)
        omega

end ClusterDirectory.Text
