import ClusterDirectory.Json.Printer
import ClusterDirectory.Json.Reader.Value
import ClusterDirectory.Proofs.Text.Utf8

namespace ClusterDirectory.Json

open Text

def Ends (s : List UInt8) : Prop := ∀ b ∈ s.head?, b = 0x2C ∨ b = 0x5D ∨ b = 0x7D

def NoDigit (s : List UInt8) : Prop := ∀ b ∈ s.head?, isDigit b = false

theorem Ends.noDigit {s : List UInt8} (ends : Ends s) : NoDigit s := by
  intro b first
  rcases ends b first with rfl | rfl | rfl <;> decide

def Stops (n : Nat) (s : List UInt8) : Prop :=
  ∀ b ∈ s.head?, ¬ (isDigit b = true ∧ n * 10 + digitValue b ≤ wordLimit)

theorem NoDigit.stops {s : List UInt8} (noDigit : NoDigit s) (n : Nat) : Stops n s := by
  intro b first more
  simp [noDigit b first] at more

def Fits (n : Int) : Prop := -0x8000000000000000 ≤ n ∧ n ≤ 0xFFFFFFFFFFFFFFFF

theorem readDigits_stops (n count : Nat) {s : List UInt8} (stops : Stops n s) :
    readDigits n count s = ⟨n, count, s⟩ := by
  cases s with
  | nil => rfl
  | cons b s => rw [readDigits, if_neg (stops b rfl)]

theorem takeDigits_stop {s : List UInt8} (noDigit : NoDigit s) :
    s.takeWhile isDigit = [] ∧ skipDigits s = s := by
  cases s with
  | nil => exact ⟨rfl, rfl⟩
  | cons b s =>
      have notDigit : isDigit b = false := noDigit b rfl
      simp [skipDigits, notDigit]

def digitByte (d : Nat) : UInt8 := UInt8.ofNat (Nat.digitChar d).toNat

theorem digitByte_spec {d : Nat} (small : d < 10) :
    String.utf8EncodeChar (Nat.digitChar d) = [digitByte d] ∧ isDigit (digitByte d) = true ∧
      digitValue (digitByte d) = d ∧ (digitByte d = 0x30 ↔ d = 0) := by
  revert d
  decide

def digitBytes (n : Nat) : List UInt8 := Utf8.encode (Nat.toDigits 10 n)

theorem digitBytes_small {d : Nat} (small : d < 10) : digitBytes d = [digitByte d] := by
  rw [digitBytes, Nat.toDigits_of_lt_base small, Utf8.encode_cons, (digitByte_spec small).1,
    Utf8.encode_nil, List.append_nil]

theorem digitBytes_step {n : Nat} (large : 10 ≤ n) :
    digitBytes n = digitBytes (n / 10) ++ [digitByte (n % 10)] := by
  rw [digitBytes, Nat.toDigits_of_base_le (by decide) large, Utf8.encode_append, Utf8.encode_cons,
    (digitByte_spec (Nat.mod_lt n (by decide))).1, Utf8.encode_nil, List.append_nil, digitBytes]

theorem readDigits_digit {n count d : Nat} (small : d < 10) (fits : n * 10 + d ≤ wordLimit)
    (s : List UInt8) :
    readDigits n count (digitByte d :: s) = readDigits (n * 10 + d) (count + 1) s := by
  obtain ⟨_, digit, value, _⟩ := digitByte_spec small
  rw [readDigits, value, if_pos ⟨digit, fits⟩]

theorem readDigits_digitBytes (n : Nat) (positive : 0 < n) (fits : n ≤ wordLimit) :
    ∃ b t, digitBytes n = b :: t ∧ isDigit b = true ∧ b ≠ 0x30 ∧
      ∀ s, readDigits (digitValue b) 0 (t ++ s) = readDigits n t.length s := by
  induction n using Nat.strongRecOn with
  | ind n ih =>
      by_cases small : n < 10
      · obtain ⟨_, digit, value, zero⟩ := digitByte_spec small
        refine ⟨digitByte n, [], digitBytes_small small, digit, ?_, fun s => ?_⟩
        · exact fun isZero => absurd (zero.1 isZero) (by omega)
        · rw [value]
          rfl
      · -- the last digit is read after those of the tenth part, which start with no zero either
        obtain ⟨b, t, bytes, digit, notZero, read⟩ := ih (n / 10) (by omega) (by omega) (by omega)
        refine ⟨b, t ++ [digitByte (n % 10)], ?_, digit, notZero, fun s => ?_⟩
        · rw [digitBytes_step (by omega), bytes, List.cons_append]
        · have number : n / 10 * 10 + n % 10 = n := by omega
          rw [List.append_assoc, read, List.singleton_append,
            readDigits_digit (Nat.mod_lt n (by decide)) (by omega), number, List.length_append,
            List.length_singleton]

theorem readAfterWhole_ends {negative : Bool} {n : Nat} {k : Int} {s : List UInt8}
    (whole : wholeNumber? negative n = some k) (ends : Ends s) :
    readAfterWhole negative n 0 s = .ok (.whole k, s) := by
  have plain (t : List UInt8) : readAfterWhole.plain negative n 0 t = .ok (.whole k, t) := by
    rw [readAfterWhole.plain, if_pos rfl, whole]
  cases s with
  | nil => exact plain []
  | cons b s =>
      have notPoint : b ≠ 0x2E ∧ isExponentLetter b = false := by
        rcases ends b rfl with rfl | rfl | rfl <;> decide
      rw [readAfterWhole, if_neg notPoint.1, if_neg (by simp [notPoint.2])]
      exact plain _

theorem readNumber_digitBytes {negative : Bool} {n : Nat} {k : Int} {s : List UInt8}
    (fits : n ≤ wordLimit) (whole : wholeNumber? negative n = some k) (ends : Ends s) :
    readNumber negative (digitBytes n ++ s) = .ok (.whole k, s) := by
  by_cases positive : 0 < n
  · obtain ⟨b, t, bytes, digit, notZero, read⟩ := readDigits_digitBytes n positive fits
    obtain ⟨noDigits, rest⟩ := takeDigits_stop ends.noDigit
    rw [bytes, List.cons_append, readNumber, if_neg notZero, if_pos digit]
    simp only [read, readDigits_stops _ _ (ends.noDigit.stops n), noDigits, rest, List.length_nil]
    exact readAfterWhole_ends whole ends
  · obtain rfl : n = 0 := by omega
    have notDigit : startsWithDigit s = false := by
      cases s with
      | nil => rfl
      | cons b s => exact ends.noDigit b rfl
    rw [digitBytes_small (by decide), List.singleton_append, readNumber, if_pos (by decide),
      if_neg (by simp [notDigit])]
    exact readAfterWhole_ends whole ends

theorem digitBytes_start (n : Nat) (fits : n ≤ wordLimit) :
    ∃ b t, digitBytes n = b :: t ∧ isDigit b = true := by
  by_cases positive : 0 < n
  · obtain ⟨b, t, bytes, digit, _⟩ := readDigits_digitBytes n positive fits
    exact ⟨b, t, bytes, digit⟩
  · obtain rfl : n = 0 := by omega
    exact ⟨digitByte 0, [], digitBytes_small (by decide), by decide⟩

theorem numberText_ofNat (n : Nat) : numberText (.whole (.ofNat n)) = Nat.toDigits 10 n :=
  Nat.toList_repr

theorem numberText_negSucc (n : Nat) :
    numberText (.whole (.negSucc n)) = '-' :: Nat.toDigits 10 (n + 1) := by
  have written : numberText (.whole (.negSucc n)) = ("-" ++ Nat.repr (n + 1)).toList := rfl
  rw [written, String.toList_append, Nat.toList_repr]
  rfl

theorem readNumberFrom_whole {n : Int} (fits : Fits n) :
    ∃ b t, Utf8.encode (numberText (.whole n)) = b :: t ∧ startsNumber b = true ∧
      ∀ s, Ends s → readNumberFrom b (t ++ s) = .ok (.whole n, s) := by
  obtain ⟨low, high⟩ := fits
  cases n with
  | ofNat n =>
      have inWord : n ≤ wordLimit := by
        have := Int.ofNat_eq_natCast n
        unfold wordLimit
        omega
      obtain ⟨b, t, bytes, digit⟩ := digitBytes_start n inWord
      have notSign : b ≠ 0x2D := by
        rintro rfl
        exact absurd digit (by decide)
      refine ⟨b, t, by rw [numberText_ofNat, ← bytes, digitBytes], ?_, fun s ends => ?_⟩
      · rw [startsNumber, digit, Bool.or_true]
      · rw [readNumberFrom, if_neg notSign, ← List.cons_append, ← bytes]
        exact readNumber_digitBytes inWord rfl ends
  | negSucc n =>
      have small : n + 1 ≤ 0x8000000000000000 := by omega
      refine ⟨0x2D, digitBytes (n + 1), ?_, by decide, fun s ends => ?_⟩
      · rw [numberText_negSucc, Utf8.encode_cons, digitBytes]
        rfl
      · rw [readNumberFrom, if_pos rfl]
        refine readNumber_digitBytes (Nat.le_trans small (by decide)) ?_ ends
        rw [wholeNumber?, if_pos rfl, if_pos ⟨by omega, small⟩]
        rfl

theorem readDigits_le {n : Nat} (fits : n ≤ wordLimit) (count : Nat) (s : List UInt8) :
    (readDigits n count s).value ≤ wordLimit := by
  fun_induction readDigits n count s with
  | case1 => exact fits
  | case2 _ _ _ _ more ih => exact ih more.2
  | case3 => exact fits

theorem scaled_ne_whole {negative : Bool} {n : Nat} {e k : Int} {s r : List UInt8} :
    scaled negative n e s ≠ .ok (.whole k, r) := by
  unfold scaled
  split <;> simp [fail]

theorem readExponent_ne_whole {negative : Bool} {n : Nat} {e k : Int} {s r : List UInt8} :
    readExponent negative n e s ≠ .ok (.whole k, r) := by
  intro read
  simp only [readExponent] at read
  split at read
  · simp [fail] at read
  split at read
  · split at read
    · exact scaled_ne_whole read
    · split at read <;> simp [fail] at read
  · simp [fail] at read

theorem readScale_ne_whole {negative : Bool} {n : Nat} {e k : Int} {s r : List UInt8} :
    readScale negative n e s ≠ .ok (.whole k, r) := by
  intro read
  unfold readScale at read
  split at read
  · split at read
    · exact readExponent_ne_whole read
    · exact scaled_ne_whole read
  · exact scaled_ne_whole read

theorem readFraction_ne_whole {negative : Bool} {n : Nat} {e k : Int} {s r : List UInt8} :
    readFraction negative n e s ≠ .ok (.whole k, r) := by
  intro read
  simp only [readFraction] at read
  split at read
  · exact readScale_ne_whole read
  split at read
  · split at read <;> simp [fail] at read
  · exact readScale_ne_whole read

theorem wholeNumber?_fits {negative : Bool} {n : Nat} {k : Int} (fits : n ≤ wordLimit)
    (whole : wholeNumber? negative n = some k) : Fits k := by
  unfold wordLimit at fits
  unfold wholeNumber? at whole
  unfold Fits
  split at whole
  · split at whole
    · cases whole
      omega
    · cases whole
  · cases whole
    omega

theorem readAfterWhole_fits {negative : Bool} {n e : Nat} {k : Int} {s r : List UInt8}
    (fits : n ≤ wordLimit) (read : readAfterWhole negative n e s = .ok (.whole k, r)) :
    Fits k := by
  have plain {t : List UInt8}
      (read : readAfterWhole.plain negative n e t = .ok (.whole k, r)) : Fits k := by
    unfold readAfterWhole.plain at read
    split at read
    · split at read
      · rename_i whole
        cases read
        exact wholeNumber?_fits fits whole
      · exact absurd read scaled_ne_whole
    · exact absurd read scaled_ne_whole
  unfold readAfterWhole at read
  split at read
  · split at read
    · exact absurd read readFraction_ne_whole
    split at read
    · exact absurd read readExponent_ne_whole
    · exact plain read
  · exact plain read

theorem readNumber_fits {negative : Bool} {k : Int} {s r : List UInt8}
    (read : readNumber negative s = .ok (.whole k, r)) : Fits k := by
  unfold readNumber at read
  split at read
  · simp [fail] at read
  split at read
  · split at read
    · simp [fail] at read
    · exact readAfterWhole_fits (Nat.zero_le _) read
  split at read
  · rename_i b _ _ digit
    have small : digitValue b ≤ wordLimit := by
      have := b.toNat_lt
      unfold digitValue wordLimit
      omega
    exact readAfterWhole_fits (readDigits_le small 0 _) read
  · simp [fail] at read

theorem readNumberFrom_fits {b : UInt8} {k : Int} {s r : List UInt8}
    (read : readNumberFrom b s = .ok (.whole k, r)) : Fits k := by
  unfold readNumberFrom at read
  split at read <;> exact readNumber_fits read

end ClusterDirectory.Json
