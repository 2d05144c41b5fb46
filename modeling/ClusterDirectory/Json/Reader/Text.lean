import ClusterDirectory.Json.Reader
import ClusterDirectory.Text.Hex
import ClusterDirectory.Text.Utf8

/-!
Strings, from the byte after the opening quote to the closing quote.

`readText` gives the string that is written there. `passText` only finds its end: an escape has to
be one of those there are, but what it stands for and the bytes between escapes are not looked at.
-/

namespace ClusterDirectory.Json

def hexValue? (b : UInt8) : Option Nat := Text.hexValue? (Char.ofNat b.toNat)

def readUnit : List UInt8 → Except Fault (Nat × List UInt8)
  | a :: b :: c :: d :: r =>
      match hexValue? a, hexValue? b, hexValue? c, hexValue? d with
      | some a, some b, some c, some d => .ok (((a * 16 + b) * 16 + c) * 16 + d, r)
      | _, _, _, _ => fail .invalidEscape r
  | _ => fail .endInText []

def isHighSurrogate (n : Nat) : Bool := 0xD800 ≤ n && n ≤ 0xDBFF

def isLowSurrogate (n : Nat) : Bool := 0xDC00 ≤ n && n ≤ 0xDFFF

/-- The second half of a character written as two units, after the first half `high`. -/
def readLowHalf (high : Nat) : List UInt8 → Except Fault (Char × List UInt8)
  | [] => fail .endInText []
  | a :: r =>
      if a = 0x5C then
        match r with
        | [] => fail .endInText []
        | b :: q =>
            if b = 0x75 then
              match readUnit q with
              | .error e => .error e
              | .ok (low, p) =>
                  if isLowSurrogate low then
                    .ok (Char.ofNat ((high - 0xD800) * 0x400 + (low - 0xDC00) + 0x10000), p)
                  else fail .loneSurrogate p
            else fail .unfinishedEscape q
      else fail .unfinishedEscape r

def shortEscape? (b : UInt8) : Option Char :=
  if b = 0x22 then some '\x22'
  else if b = 0x5C then some '\\'
  else if b = 0x2F then some '/'
  else if b = 0x62 then some '\x08'
  else if b = 0x66 then some '\x0c'
  else if b = 0x6E then some '\n'
  else if b = 0x72 then some '\r'
  else if b = 0x74 then some '\t'
  else none

def readEscape : List UInt8 → Except Fault (Char × List UInt8)
  | [] => fail .endInText []
  | b :: r =>
      match shortEscape? b with
      | some c => .ok (c, r)
      | none =>
          if b = 0x75 then
            match readUnit r with
            | .error e => .error e
            | .ok (n, q) =>
                if isLowSurrogate n then fail .loneSurrogate q
                else if isHighSurrogate n then readLowHalf n q
                else .ok (Char.ofNat n, q)
          else fail .invalidEscape r

theorem length_readUnit {s r : List UInt8} {n : Nat} (h : readUnit s = .ok (n, r)) :
    r.length < s.length := by
  unfold readUnit at h
  repeat' split at h
  all_goals simp_all [fail]
  omega

theorem length_readLowHalf {high : Nat} {s r : List UInt8} {c : Char}
    (h : readLowHalf high s = .ok (c, r)) : r.length < s.length := by
  unfold readLowHalf at h
  repeat' split at h
  all_goals simp_all [fail]
  rename_i unit _
  have := length_readUnit unit
  omega

theorem length_readEscape {s r : List UInt8} {c : Char} (h : readEscape s = .ok (c, r)) :
    r.length < s.length := by
  unfold readEscape at h
  split at h
  · simp [fail] at h
  · split at h
    · simp_all
    · split at h
      · split at h
        · simp at h
        · rename_i unit
          have first := length_readUnit unit
          split at h
          · simp [fail] at h
          · split at h
            · have second := length_readLowHalf h
              simp only [List.length_cons]
              omega
            · simp_all
              omega
      · simp [fail] at h

/-- The string made of the bytes `before`, which stand last byte first, when `r` follows it. -/
def closeText (before r : List UInt8) : Except Fault (String × List UInt8) :=
  match Text.ofBytes? before.reverse with
  | some word => .ok (word, r)
  | none => fail .invalidUtf8 r

def readText (before : List UInt8) : List UInt8 → Except Fault (String × List UInt8)
  | [] => fail .endInText []
  | b :: r =>
      if b = 0x22 then closeText before r
      else if b = 0x5C then
        match _found : readEscape r with
        | .error e => .error e
        | .ok (c, q) => readText ((String.utf8EncodeChar c).reverse ++ before) q
      else if b < 0x20 then fail .controlCharacter r
      else readText (b :: before) r
termination_by s => s.length
decreasing_by
  · have := length_readEscape _found
    simp only [List.length_cons]
    omega
  · simp

theorem closeText_rest {before s r : List UInt8} {word : String}
    (h : closeText before s = .ok (word, r)) : r = s := by
  unfold closeText at h
  split at h <;> simp_all [fail]

theorem length_readText {before s r : List UInt8} {word : String}
    (h : readText before s = .ok (word, r)) : r.length < s.length := by
  fun_induction readText before s with
  | case1 => simp [fail] at h
  | case2 => simp [closeText_rest h]
  | case3 => simp at h
  | case4 =>
      rename_i escape _ ih
      have := length_readEscape escape
      have := ih h
      simp only [List.length_cons]
      omega
  | case5 => simp [fail] at h
  | case6 =>
      rename_i ih
      have := ih h
      simp only [List.length_cons]
      omega

def passEscape : List UInt8 → Except Fault (List UInt8)
  | [] => fail .endInText []
  | b :: r =>
      match shortEscape? b with
      | some _ => .ok r
      | none =>
          if b = 0x75 then
            match readUnit r with
            | .error e => .error e
            | .ok (_, q) => .ok q
          else fail .invalidEscape r

theorem length_passEscape {s r : List UInt8} (h : passEscape s = .ok r) : r.length < s.length := by
  unfold passEscape at h
  repeat' split at h
  all_goals simp_all [fail]
  rename_i unit
  have := length_readUnit unit
  omega

def passText : List UInt8 → Except Fault (List UInt8)
  | [] => fail .endInText []
  | b :: r =>
      if b = 0x22 then .ok r
      else if b = 0x5C then
        match _found : passEscape r with
        | .error e => .error e
        | .ok q => passText q
      else if b < 0x20 then fail .controlCharacter (b :: r)
      else passText r
termination_by s => s.length
decreasing_by
  · have := length_passEscape _found
    simp only [List.length_cons]
    omega
  · simp

theorem length_passText {s r : List UInt8} (h : passText s = .ok r) : r.length < s.length := by
  fun_induction passText s with
  | case1 => simp [fail] at h
  | case2 => simp_all
  | case3 => simp at h
  | case4 =>
      rename_i escape _ ih
      have := length_passEscape escape
      have := ih h
      simp only [List.length_cons]
      omega
  | case5 => simp [fail] at h
  | case6 =>
      rename_i ih
      have := ih h
      simp only [List.length_cons]
      omega

end ClusterDirectory.Json
