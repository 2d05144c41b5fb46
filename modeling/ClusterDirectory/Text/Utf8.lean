/-!
Text as bytes: the encoding of characters in one to four bytes, and its reading.

`scan` reads any bytes. Where they are no character it skips the longest run that begins one, so
that reading goes on at the first byte that could start the next character. `decode?` accepts the
bytes with no such run, and `decodeLossy` puts the replacement character in the place of each.
-/

namespace ClusterDirectory.Text.Utf8

def encode (cs : List Char) : List UInt8 := cs.flatMap String.utf8EncodeChar

def isContinuation (b : UInt8) : Bool := 0x80 ≤ b && b < 0xC0

def payload (b : UInt8) : Nat := b.toNat - 0x80

/-- The second of three bytes: no longer form of a shorter character, and no surrogate. -/
def isSecondOfThree (first second : UInt8) : Bool :=
  isContinuation second && (first != 0xE0 || 0xA0 ≤ second) && (first != 0xED || second < 0xA0)

/-- The second of four bytes: no longer form of a shorter character, and none past U+10FFFF. -/
def isSecondOfFour (first second : UInt8) : Bool :=
  isContinuation second && (first != 0xF0 || 0x90 ≤ second) && (first != 0xF4 || second < 0x90)

def next (a : UInt8) (s : List UInt8) : Option Char × List UInt8 :=
  if a < 0x80 then (some (Char.ofNat a.toNat), s)
  else if a < 0xC2 then (none, s)
  else if a < 0xE0 then
    match s with
    | b :: r =>
        if isContinuation b then (some (Char.ofNat ((a.toNat - 0xC0) * 64 + payload b)), r)
        else (none, s)
    | [] => (none, s)
  else if a < 0xF0 then
    match s with
    | b :: r =>
        if isSecondOfThree a b then
          match r with
          | c :: q =>
              if isContinuation c then
                (some (Char.ofNat (((a.toNat - 0xE0) * 64 + payload b) * 64 + payload c)), q)
              else (none, r)
          | [] => (none, r)
        else (none, s)
    | [] => (none, s)
  else if a < 0xF5 then
    match s with
    | b :: r =>
        if isSecondOfFour a b then
          match r with
          | c :: q =>
              if isContinuation c then
                match q with
                | d :: p =>
                    if isContinuation d then
                      (some (Char.ofNat
                        ((((a.toNat - 0xF0) * 64 + payload b) * 64 + payload c) * 64 + payload d)),
                        p)
                    else (none, q)
                | [] => (none, q)
              else (none, r)
          | [] => (none, r)
        else (none, s)
    | [] => (none, s)
  else (none, s)

theorem length_next (a : UInt8) (s : List UInt8) : (next a s).2.length ≤ s.length := by
  unfold next
  repeat' split
  all_goals simp_all only [List.length_cons, Nat.le_refl]
  all_goals omega

/-- The characters in order, `none` for each run of bytes that is no character. -/
def scan : List UInt8 → List (Option Char)
  | [] => []
  | a :: s => (next a s).1 :: scan (next a s).2
termination_by s => s.length
decreasing_by
  have := length_next a s
  simp only [List.length_cons]
  omega

def decode? (s : List UInt8) : Option (List Char) := (scan s).mapM id

def decodeLossy (s : List UInt8) : List Char := (scan s).map (·.getD '\uFFFD')

end ClusterDirectory.Text.Utf8

namespace ClusterDirectory.Text

def bytes (s : String) : List UInt8 := Utf8.encode s.toList

def ofBytes? (s : List UInt8) : Option String := (Utf8.decode? s).map String.ofList

def ofBytesLossy (s : List UInt8) : String := String.ofList (Utf8.decodeLossy s)

end ClusterDirectory.Text
