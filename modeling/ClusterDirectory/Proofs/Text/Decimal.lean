import ClusterDirectory.Text.Decimal
import Mathlib.Data.List.Induction
import Mathlib.Data.Nat.Digits.Defs

/-!
# Which texts are numbers

`IsNumber limit s` says that `s` is a number in decimal of at most `limit`: a plus sign or none, and
digits, with any number of zeros in front. Those are the texts that are read
(`readNumber?_isSome`). The number is read as a whole and then held against the limit; a reader that
gives up at the first digit that takes it past the limit reads the same (`readNumber?_checked`).
-/

namespace ClusterDirectory.Text

def digit (c : Char) : Nat := c.toNat - '0'.toNat

def decimalValue (ds : List Char) : Nat := Nat.ofDigits 10 (ds.reverse.map digit)

def IsNumber (limit : Nat) (s : String) : Prop :=
  ∃ ds : List Char, (s.toList = ds ∨ s.toList = '+' :: ds) ∧ ds ≠ [] ∧
    (∀ c ∈ ds, '0' ≤ c ∧ c ≤ '9') ∧ decimalValue ds ≤ limit

theorem isDigit_iff {c : Char} : isDigit c = true ↔ '0' ≤ c ∧ c ≤ '9' := by
  simp [isDigit]

theorem digitsValue_eq (ds : List Char) : digitsValue ds = decimalValue ds := by
  induction ds using List.reverseRecOn with
  | nil => rfl
  | append_singleton ds c ih =>
      have step : digitsValue (ds ++ [c]) = digitsValue ds * 10 + digit c := by
        simp [digitsValue, digit]
      rw [step, ih, decimalValue, decimalValue, List.reverse_append, List.reverse_singleton,
        List.singleton_append, List.map_cons, Nat.ofDigits_cons]
      exact (Nat.add_comm ..).trans (congrArg _ (Nat.mul_comm ..))

def unsigned : List Char → List Char
  | '+' :: r => r
  | r => r

theorem readNumber?_eq (limit : Nat) (s : String) :
    readNumber? limit s =
      let ds := unsigned s.toList
      if ds ≠ [] ∧ ds.all isDigit ∧ digitsValue ds ≤ limit then some (digitsValue ds)
      else none := rfl

theorem unsigned_digits {ds : List Char} (digits : ∀ c ∈ ds, isDigit c = true) :
    unsigned ds = ds := by
  unfold unsigned
  split
  · exact absurd (digits '+' List.mem_cons_self) (by decide)
  · rfl

theorem unsigned_spells (s : List Char) : s = unsigned s ∨ s = '+' :: unsigned s := by
  unfold unsigned
  split
  · exact .inr rfl
  · exact .inl rfl

theorem readNumber?_isSome {limit : Nat} {s : String} :
    (readNumber? limit s).isSome ↔ IsNumber limit s := by
  rw [readNumber?_eq]
  dsimp only
  rw [Option.isSome_ite]
  constructor
  · rintro ⟨nonempty, digits, small⟩
    exact ⟨_, unsigned_spells s.toList, nonempty,
      fun c member => isDigit_iff.1 (List.all_eq_true.1 digits c member),
      digitsValue_eq _ ▸ small⟩
  · rintro ⟨ds, spelled, nonempty, range, small⟩
    have digits : ∀ c ∈ ds, isDigit c = true := fun c member => isDigit_iff.2 (range c member)
    have same : unsigned s.toList = ds := by
      rcases spelled with plain | signed
      · rw [plain, unsigned_digits digits]
      · rw [signed]
        rfl
    rw [same]
    exact ⟨nonempty, List.all_eq_true.2 digits, digitsValue_eq ds ▸ small⟩

def pushDigit? (limit n : Nat) (c : Char) : Option Nat :=
  if isDigit c then
    if n * 10 ≤ limit then
      if n * 10 + digit c ≤ limit then some (n * 10 + digit c) else none
    else none
  else none

def checkedNumber? (limit : Nat) (s : String) : Option Nat :=
  match unsigned s.toList with
  | [] => none
  | ds => ds.foldlM (pushDigit? limit) 0

theorem pushDigit?_eq (limit n : Nat) (c : Char) :
    pushDigit? limit n c =
      if isDigit c ∧ n * 10 + digit c ≤ limit then some (n * 10 + digit c) else none := by
  unfold pushDigit?
  by_cases digital : isDigit c = true
  · by_cases fits : n * 10 + digit c ≤ limit
    · simp [digital, fits, Nat.le_trans (Nat.le_add_right ..) fits]
    · simp [digital, fits]
  · simp [digital]

theorem le_foldl_digits (ds : List Char) (n : Nat) :
    n ≤ ds.foldl (fun n c => n * 10 + digit c) n := by
  induction ds generalizing n with
  | nil => exact Nat.le_refl n
  | cons c ds ih => exact Nat.le_trans (by omega) (ih (n * 10 + digit c))

theorem foldlM_pushDigit? (limit : Nat) (ds : List Char) {n : Nat} (small : n ≤ limit) :
    ds.foldlM (pushDigit? limit) n =
      let value := ds.foldl (fun n c => n * 10 + digit c) n
      if ds.all isDigit ∧ value ≤ limit then some value else none := by
  induction ds generalizing n with
  | nil => simp [small]
  | cons c ds ih =>
      have grows := le_foldl_digits ds (n * 10 + digit c)
      rw [List.foldlM_cons, pushDigit?_eq, List.foldl_cons, List.all_cons]
      by_cases digital : isDigit c = true
      · by_cases fits : n * 10 + digit c ≤ limit
        · rw [if_pos ⟨digital, fits⟩, digital, Bool.true_and]
          exact ih fits
        · -- the digits to come make it no smaller
          rw [if_neg fun both => fits both.2]
          exact (if_neg fun both => fits (Nat.le_trans grows both.2)).symm
      · rw [if_neg fun both => digital both.1]
        exact (if_neg fun both => digital (Bool.and_eq_true_iff.1 both.1).1).symm

theorem readNumber?_checked (limit : Nat) (s : String) :
    readNumber? limit s = checkedNumber? limit s := by
  rw [readNumber?_eq, checkedNumber?]
  cases unsigned s.toList with
  | nil => rfl
  | cons c ds =>
      have nonempty : c :: ds ≠ [] := List.cons_ne_nil c ds
      simp only [ne_eq, nonempty, not_false_eq_true, true_and]
      exact (foldlM_pushDigit? limit (c :: ds) (Nat.zero_le limit)).symm

end ClusterDirectory.Text
