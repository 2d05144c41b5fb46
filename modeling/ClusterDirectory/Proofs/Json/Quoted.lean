import ClusterDirectory.Json.Printer
import ClusterDirectory.Json.Reader.Text
import ClusterDirectory.Proofs.Text.Utf8

namespace ClusterDirectory.Json

open Text

def Plain (b : UInt8) : Prop := b ≠ 0x22 ∧ b ≠ 0x5C ∧ ¬ b < 0x20

instance : DecidablePred Plain := fun _ => inferInstanceAs (Decidable (_ ∧ _ ∧ _))

theorem readText_plain {b : UInt8} (plain : Plain b) (before s : List UInt8) :
    readText before (b :: s) = readText (b :: before) s := by
  obtain ⟨notQuote, notEscape, notControl⟩ := plain
  rw [readText, if_neg notQuote, if_neg notEscape, if_neg notControl]

theorem readText_plains {bs : List UInt8} (plain : ∀ b ∈ bs, Plain b) (before s : List UInt8) :
    readText before (bs ++ s) = readText (bs.reverse ++ before) s := by
  induction bs generalizing before with
  | nil => rfl
  | cons b bs ih =>
      rw [List.forall_mem_cons] at plain
      rw [List.cons_append, readText_plain plain.1, ih plain.2, List.reverse_cons,
        List.append_assoc, List.singleton_append]

theorem readText_escape {c : Char} {s t : List UInt8} (read : readEscape s = .ok (c, t))
    (before : List UInt8) :
    readText before (0x5C :: s) = readText ((String.utf8EncodeChar c).reverse ++ before) t := by
  rw [readText, if_neg (by decide), if_pos rfl]
  split
  · rename_i failed
    cases read.symm.trans failed
  · rename_i found
    cases read.symm.trans found
    rfl

theorem readText_close (before s : List UInt8) :
    readText before (0x22 :: s) = closeText before s := by
  rw [readText, if_pos rfl]

theorem hexValue?_digitChar {n : Nat} (small : n < 16) :
    hexValue? (UInt8.ofNat (Nat.digitChar n).toNat) = some n := by
  revert n
  decide

theorem readUnit_control {n : Nat} (control : n < 0x20) (s : List UInt8) :
    readUnit (0x30 :: 0x30 :: UInt8.ofNat (Nat.digitChar (n / 16)).toNat ::
      UInt8.ofNat (Nat.digitChar (n % 16)).toNat :: s) = .ok (n, s) := by
  have zero : hexValue? 0x30 = some 0 := by decide
  have number : ((0 * 16 + 0) * 16 + n / 16) * 16 + n % 16 = n := by omega
  simp only [readUnit, zero, hexValue?_digitChar (show n / 16 < 16 by omega),
    hexValue?_digitChar (show n % 16 < 16 by omega), number]

theorem readEscape_control {c : Char} (control : c.toNat < 0x20) (s : List UInt8) :
    readEscape (0x75 :: 0x30 :: 0x30 :: UInt8.ofNat (Nat.digitChar (c.toNat / 16)).toNat ::
      UInt8.ofNat (Nat.digitChar (c.toNat % 16)).toNat :: s) = .ok (c, s) := by
  have short : shortEscape? 0x75 = none := by decide
  have notLow : isLowSurrogate c.toNat = false := by
    simp only [isLowSurrogate, Bool.and_eq_false_iff, decide_eq_false_iff_not]
    omega
  have notHigh : isHighSurrogate c.toNat = false := by
    simp only [isHighSurrogate, Bool.and_eq_false_iff, decide_eq_false_iff_not]
    omega
  simp only [readEscape, short, if_pos, readUnit_control control, notLow, notHigh,
    Bool.false_eq_true, if_false, Char.ofNat_toNat]

theorem encodeChar_digitChar {n : Nat} (small : n < 16) :
    String.utf8EncodeChar (Nat.digitChar n) = [UInt8.ofNat (Nat.digitChar n).toNat] := by
  revert n
  decide

theorem plain_encodeChar {c : Char} (notQuote : c ≠ '\x22') (notEscape : c ≠ '\\')
    (notControl : ¬ c.toNat < 0x20) : ∀ b ∈ String.utf8EncodeChar c, Plain b := by
  rcases Utf8.encodeChar_cases c with ⟨low, bytes⟩ | ⟨_, high⟩
  · have number : (UInt8.ofNat c.toNat).toNat = c.toNat := by
      rw [UInt8.toNat_ofNat', Nat.mod_eq_of_lt]
      omega
    have differs {d : Char} (ne : c ≠ d) (low : d.toNat < 0x80) :
        UInt8.ofNat c.toNat ≠ UInt8.ofNat d.toNat := by
      intro same
      refine ne (Char.toNat_inj.1 ?_)
      rw [← number, same, UInt8.toNat_ofNat', Nat.mod_eq_of_lt]
      omega
    rw [bytes]
    simp only [List.mem_singleton, forall_eq]
    refine ⟨differs notQuote (by decide), differs notEscape (by decide), ?_⟩
    rw [UInt8.lt_iff_toNat_lt, number]
    exact notControl
  · intro b inside
    have least := high b inside
    refine ⟨?_, ?_, ?_⟩
    · rintro rfl
      exact absurd least (by decide)
    · rintro rfl
      exact absurd least (by decide)
    · rw [UInt8.lt_iff_toNat_lt]
      intro below
      exact absurd (Nat.lt_of_le_of_lt least below) (by decide)

theorem escape_cases (c : Char) :
    (∃ s, Utf8.encode (escape c) = 0x5C :: s ∧ ∀ r, readEscape (s ++ r) = .ok (c, r)) ∨
      (escape c = [c] ∧ ∀ b ∈ String.utf8EncodeChar c, Plain b) := by
  unfold escape
  split
  case h_8 notQuote notEscape _ _ _ _ _ =>
    split
    · rename_i control
      refine .inl ⟨[0x75, 0x30, 0x30, UInt8.ofNat (Nat.digitChar (c.toNat / 16)).toNat,
        UInt8.ofNat (Nat.digitChar (c.toNat % 16)).toNat], ?_, readEscape_control control⟩
      have high := encodeChar_digitChar (show c.toNat / 16 < 16 by omega)
      have low := encodeChar_digitChar (show c.toNat % 16 < 16 by omega)
      simp only [Utf8.encode_cons, Utf8.encode_nil, high, low]
      rfl
    · rename_i notControl
      exact .inr ⟨rfl, plain_encodeChar notQuote notEscape notControl⟩
  all_goals exact .inl ⟨_, rfl, fun r => rfl⟩

theorem readText_escaped (cs : List Char) (before s : List UInt8) :
    readText before (Utf8.encode (cs.flatMap escape) ++ s) =
      readText ((Utf8.encode cs).reverse ++ before) s := by
  induction cs generalizing before with
  | nil => rfl
  | cons c cs ih =>
      rw [List.flatMap_cons, Utf8.encode_append, List.append_assoc, Utf8.encode_cons,
        List.reverse_append, List.append_assoc, ← ih]
      rcases escape_cases c with ⟨t, bytes, read⟩ | ⟨itself, plain⟩
      · rw [bytes, List.cons_append, readText_escape (read _)]
      · rw [itself, Utf8.encode_cons, Utf8.encode_nil, List.append_nil, readText_plains plain]

def closedBytes (word : String) : List UInt8 :=
  Utf8.encode (word.toList.flatMap escape) ++ [0x22]

theorem encode_quote (word : String) : Utf8.encode (quote word) = 0x22 :: closedBytes word := by
  rw [quote, Utf8.encode_append]
  rfl

theorem readText_closedBytes (word : String) (s : List UInt8) :
    readText [] (closedBytes word ++ s) = .ok (word, s) := by
  rw [closedBytes, List.append_assoc, readText_escaped, List.singleton_append, readText_close,
    closeText, List.append_nil, List.reverse_reverse, ofBytes?_encode, String.ofList_toList]

end ClusterDirectory.Json
