import ClusterDirectory.Json.Reader

/-!
Numbers, from the byte after the sign.

The digits make a whole number as long as it fits 64 bits; digits past that only move the decimal
point. A number without a fraction or an exponent is kept whole if it fits, and any other is scaled
in floating point (`Binary64.scale`). `passNumber` checks the form alone.
-/

namespace ClusterDirectory.Json

def wordLimit : Nat := 0xFFFFFFFFFFFFFFFF

/-- The largest exponent that is added up; a longer one makes the number zero or too large. -/
def exponentLimit : Nat := 0x7FFFFFFF

def digitValue (b : UInt8) : Nat := b.toNat - 0x30

def startsWithDigit : List UInt8 → Bool
  | b :: _ => isDigit b
  | [] => false

def skipDigits (s : List UInt8) : List UInt8 := s.dropWhile isDigit

structure DigitRun where
  value : Nat
  count : Nat
  rest : List UInt8

/-- Append digits to `n` while the result fits 64 bits, and count them. -/
def readDigits (n count : Nat) : List UInt8 → DigitRun
  | [] => ⟨n, count, []⟩
  | b :: r =>
      if isDigit b ∧ n * 10 + digitValue b ≤ wordLimit then
        readDigits (n * 10 + digitValue b) (count + 1) r
      else ⟨n, count, b :: r⟩

def signed (negative : Bool) (x : Binary64) : Binary64 := if negative then x.neg else x

def scaled (negative : Bool) (n : Nat) (e : Int) (s : List UInt8) :
    Except Fault (JsonNumber × List UInt8) :=
  match Binary64.scale n e with
  | some x => .ok (.real (signed negative x), s)
  | none => fail .numberOutOfRange s

/-- An exponent and what follows it, or what follows the digit that takes it past the limit. -/
def readExponentDigits (e : Nat) : List UInt8 → Except (List UInt8) (Nat × List UInt8)
  | [] => .ok (e, [])
  | b :: r =>
      if isDigit b then
        if e * 10 + digitValue b ≤ exponentLimit then readExponentDigits (e * 10 + digitValue b) r
        else .error r
      else .ok (e, b :: r)

def readExponentSign : List UInt8 → Bool × List UInt8
  | [] => (false, [])
  | b :: r => if b = 0x2B then (false, r) else if b = 0x2D then (true, r) else (false, b :: r)

/-- The exponent after its letter; `e` is the power of ten of the last digit of `n`. -/
def readExponent (negative : Bool) (n : Nat) (e : Int) (s : List UInt8) :
    Except Fault (JsonNumber × List UInt8) :=
  let (down, t) := readExponentSign s
  match t with
  | [] => fail .endInValue []
  | b :: r =>
      if isDigit b then
        match readExponentDigits (digitValue b) r with
        | .ok (k, q) => scaled negative n (if down then e - k else e + k) q
        | .error q =>
            if n ≠ 0 ∧ ¬ down then fail .numberOutOfRange q
            else .ok (.real (.zero negative), skipDigits q)
      else fail .invalidNumber r

def isExponentLetter (b : UInt8) : Bool := b == 0x65 || b == 0x45

def readScale (negative : Bool) (n : Nat) (e : Int) (s : List UInt8) :
    Except Fault (JsonNumber × List UInt8) :=
  match s with
  | b :: r => if isExponentLetter b then readExponent negative n e r else scaled negative n e s
  | [] => scaled negative n e []

def readFraction (negative : Bool) (n : Nat) (e : Int) (s : List UInt8) :
    Except Fault (JsonNumber × List UInt8) :=
  let run := readDigits n 0 s
  if startsWithDigit run.rest then
    readScale negative run.value (e - run.count) (skipDigits run.rest)
  else if run.count = 0 then
    match run.rest with
    | [] => fail .endInValue []
    | _ :: r => fail .invalidNumber r
  else readScale negative run.value (e - run.count) run.rest

/-- A whole number, if it fits 64 bits with its sign; minus zero does not. -/
def wholeNumber? (negative : Bool) (n : Nat) : Option Int :=
  if negative then if 0 < n ∧ n ≤ 0x8000000000000000 then some (-n) else none
  else some n

def readAfterWhole (negative : Bool) (n : Nat) (e : Nat) (s : List UInt8) :
    Except Fault (JsonNumber × List UInt8) :=
  match s with
  | b :: r =>
      if b = 0x2E then readFraction negative n e r
      else if isExponentLetter b then readExponent negative n e r
      else plain s
  | [] => plain []
where
  plain (s : List UInt8) : Except Fault (JsonNumber × List UInt8) :=
    if e = 0 then
      match wholeNumber? negative n with
      | some k => .ok (.whole k, s)
      | none => scaled negative n 0 s
    else scaled negative n e s

def readNumber (negative : Bool) (s : List UInt8) : Except Fault (JsonNumber × List UInt8) :=
  match s with
  | [] => fail .endInValue []
  | b :: r =>
      if b = 0x30 then
        if startsWithDigit r then fail .invalidNumber (r.drop 1)
        else readAfterWhole negative 0 0 r
      else if isDigit b then
        let run := readDigits (digitValue b) 0 r
        readAfterWhole negative run.value (run.rest.takeWhile isDigit).length (skipDigits run.rest)
      else fail .invalidNumber r

theorem length_skipDigits (s : List UInt8) : (skipDigits s).length ≤ s.length :=
  (List.dropWhile_suffix _).length_le

theorem length_readDigits (n count : Nat) (s : List UInt8) :
    (readDigits n count s).rest.length ≤ s.length := by
  fun_induction readDigits n count s with
  | case1 => simp
  | case2 _ _ _ _ _ ih => exact Nat.le_succ_of_le ih
  | case3 => simp

theorem length_scaled {negative : Bool} {n : Nat} {e : Int} {s r : List UInt8} {k : JsonNumber}
    (h : scaled negative n e s = .ok (k, r)) : r.length ≤ s.length := by
  unfold scaled at h
  split at h
  · cases h; exact Nat.le_refl _
  · simp [fail] at h

theorem length_readExponentDigits (e : Nat) (s : List UInt8) :
    match readExponentDigits e s with
    | .ok (_, r) => r.length ≤ s.length
    | .error r => r.length ≤ s.length := by
  fun_induction readExponentDigits e s with
  | case1 => simp
  | case2 _ _ _ _ _ ih =>
      split at ih <;> exact Nat.le_succ_of_le ih
  | case3 => simp
  | case4 => simp

theorem length_readExponentSign (s : List UInt8) : (readExponentSign s).2.length ≤ s.length := by
  unfold readExponentSign
  repeat' split
  all_goals simp

theorem length_readExponent {negative : Bool} {n : Nat} {e : Int} {s r : List UInt8}
    {k : JsonNumber} (h : readExponent negative n e s = .ok (k, r)) : r.length ≤ s.length := by
  have sign := length_readExponentSign s
  simp only [readExponent] at h
  split at h
  · simp [fail] at h
  · rename_i b t eq
    rw [eq, List.length_cons] at sign
    split at h
    · have digits := length_readExponentDigits (digitValue b) t
      split at h
      · rename_i eq
        rw [eq] at digits
        have := length_scaled h
        omega
      · rename_i q eq
        rw [eq] at digits
        split at h
        · simp [fail] at h
        · have := length_skipDigits q
          cases h
          omega
    · simp [fail] at h

theorem length_readScale {negative : Bool} {n : Nat} {e : Int} {s r : List UInt8} {k : JsonNumber}
    (h : readScale negative n e s = .ok (k, r)) : r.length ≤ s.length := by
  unfold readScale at h
  split at h
  · split at h
    · exact Nat.le_succ_of_le (length_readExponent h)
    · exact length_scaled h
  · exact length_scaled h

theorem length_readFraction {negative : Bool} {n : Nat} {e : Int} {s r : List UInt8}
    {k : JsonNumber} (h : readFraction negative n e s = .ok (k, r)) : r.length ≤ s.length := by
  have digits := length_readDigits n 0 s
  simp only [readFraction] at h
  split at h
  · have := length_readScale h
    have := length_skipDigits (readDigits n 0 s).rest
    omega
  · split at h
    · split at h <;> simp [fail] at h
    · have := length_readScale h
      omega

theorem length_readAfterWhole {negative : Bool} {n e : Nat} {s r : List UInt8} {k : JsonNumber}
    (h : readAfterWhole negative n e s = .ok (k, r)) : r.length ≤ s.length := by
  have plain {t : List UInt8} (h : readAfterWhole.plain negative n e t = .ok (k, r)) :
      r.length ≤ t.length := by
    unfold readAfterWhole.plain at h
    split at h
    · split at h
      · cases h; exact Nat.le_refl _
      · exact length_scaled h
    · exact length_scaled h
  unfold readAfterWhole at h
  split at h
  · split at h
    · exact Nat.le_succ_of_le (length_readFraction h)
    · split at h
      · exact Nat.le_succ_of_le (length_readExponent h)
      · exact plain h
  · exact plain h

theorem length_readNumber {negative : Bool} {s r : List UInt8} {k : JsonNumber}
    (h : readNumber negative s = .ok (k, r)) : r.length < s.length := by
  unfold readNumber at h
  split at h
  · simp [fail] at h
  · rename_i b t
    rw [List.length_cons]
    split at h
    · split at h
      · simp [fail] at h
      · exact Nat.lt_succ_of_le (length_readAfterWhole h)
    · split at h
      · have := length_readAfterWhole h
        have := length_skipDigits (readDigits (digitValue b) 0 t).rest
        have := length_readDigits (digitValue b) 0 t
        omega
      · simp [fail] at h

def passExponent (s : List UInt8) : Except Fault (List UInt8) :=
  match (readExponentSign s).2 with
  | [] => fail .invalidNumber []
  | b :: r => if isDigit b then .ok (skipDigits r) else fail .invalidNumber r

def passFraction (s : List UInt8) : Except Fault (List UInt8) :=
  let t := skipDigits s
  if startsWithDigit s then
    match t with
    | b :: r => if isExponentLetter b then passExponent r else .ok t
    | [] => .ok t
  else fail .invalidNumber (s.drop 1)

def passNumber (s : List UInt8) : Except Fault (List UInt8) :=
  match s with
  | [] => fail .invalidNumber []
  | b :: r =>
      if b = 0x30 then
        if startsWithDigit r then fail .invalidNumber (r.drop 1) else afterWhole r
      else if isDigit b then afterWhole (skipDigits r)
      else fail .invalidNumber r
where
  afterWhole (s : List UInt8) : Except Fault (List UInt8) :=
    match s with
    | b :: r =>
        if b = 0x2E then passFraction r
        else if isExponentLetter b then passExponent r
        else .ok s
    | [] => .ok s

theorem length_passExponent {s r : List UInt8} (h : passExponent s = .ok r) :
    r.length ≤ s.length := by
  have sign := length_readExponentSign s
  unfold passExponent at h
  split at h
  · simp [fail] at h
  · rename_i b t eq
    rw [eq, List.length_cons] at sign
    split at h
    · have := length_skipDigits t
      cases h
      omega
    · simp [fail] at h

theorem length_passFraction {s r : List UInt8} (h : passFraction s = .ok r) :
    r.length ≤ s.length := by
  have digits := length_skipDigits s
  simp only [passFraction] at h
  split at h
  · split at h
    · rename_i b t eq
      split at h
      · have := length_passExponent h
        rw [eq, List.length_cons] at digits
        omega
      · cases h; exact digits
    · cases h; exact digits
  · simp [fail] at h

theorem length_passNumber {s r : List UInt8} (h : passNumber s = .ok r) : r.length < s.length := by
  have after {t : List UInt8} (h : passNumber.afterWhole t = .ok r) : r.length ≤ t.length := by
    unfold passNumber.afterWhole at h
    split at h
    · split at h
      · exact Nat.le_succ_of_le (length_passFraction h)
      · split at h
        · exact Nat.le_succ_of_le (length_passExponent h)
        · cases h; exact Nat.le_refl _
    · cases h; exact Nat.le_refl _
  unfold passNumber at h
  split at h
  · simp [fail] at h
  · rename_i b t
    rw [List.length_cons]
    split at h
    · split at h
      · simp [fail] at h
      · exact Nat.lt_succ_of_le (after h)
    · split at h
      · have := after h
        have := length_skipDigits t
        omega
      · simp [fail] at h

end ClusterDirectory.Json
