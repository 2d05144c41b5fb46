/-!
Frames: payloads on a stream of bytes, each after its length.

A length takes one to five bytes, and the leading bits of the first byte tell how many. It is
written in the fewest bytes; past 2 ^ 35 its high bits are lost. A frame whose length is more than
`maxPayload` is not read. `next` reads one frame and `readAll` frame after frame, up to the first
one that cannot be read.
-/

namespace ClusterDirectory.Frame

def maxPayload : Nat := 16777216

def byteAt (n k : Nat) : UInt8 := UInt8.ofNat (n >>> (8 * k))

def encodeLength (n : Nat) : List UInt8 :=
  if n < 0x80 then [byteAt n 0]
  else if n < 0x4000 then [0x80 ||| byteAt n 1, byteAt n 0]
  else if n < 0x200000 then [0xC0 ||| byteAt n 2, byteAt n 1, byteAt n 0]
  else if n < 0x10000000 then [0xE0 ||| byteAt n 3, byteAt n 2, byteAt n 1, byteAt n 0]
  else [0xF0 ||| byteAt n 4, byteAt n 3, byteAt n 2, byteAt n 1, byteAt n 0]

def encode (payload : List UInt8) : List UInt8 := encodeLength payload.length ++ payload

inductive Defect
  /-- the stream ends where one more byte was asked for -/
  | endsAtByte
  /-- the stream ends within a run of bytes asked for at once -/
  | endsInBlock
  | tooLong (length : Nat)
  deriving DecidableEq, Repr

def Defect.message : Defect → String
  | .endsAtByte => "unexpected end of file"
  | .endsInBlock => "early eof"
  | .tooLong n => s!"frame of {n} bytes exceeds limit of {maxPayload} bytes"

structure Stop where
  defect : Defect
  unread : List UInt8
  deriving DecidableEq, Repr

def number (bs : List UInt8) : Nat := bs.foldl (fun n b => n * 256 + b.toNat) 0

/-- A length, and the bytes after it. The second byte of a length of two, and the second and third
of three, are read one at a time; the bytes after the first of four or five are read at once. -/
def readLength : List UInt8 → Except Stop (Nat × List UInt8)
  | [] => .error ⟨.endsAtByte, []⟩
  | a :: s =>
      if a < 0x80 then .ok (a.toNat, s)
      else if a < 0xC0 then
        match s with
        | b :: s => .ok (number [a &&& 0x3F, b], s)
        | _ => .error ⟨.endsAtByte, []⟩
      else if a < 0xE0 then
        match s with
        | b :: c :: s => .ok (number [a &&& 0x1F, b, c], s)
        | _ => .error ⟨.endsAtByte, []⟩
      else if a < 0xF0 then
        match s with
        | b :: c :: d :: s => .ok (number [a &&& 0x0F, b, c, d], s)
        | _ => .error ⟨.endsInBlock, []⟩
      else
        match s with
        | b :: c :: d :: e :: s => .ok (number [a &&& 0x07, b, c, d, e], s)
        | _ => .error ⟨.endsInBlock, []⟩

def next (s : List UInt8) : Except Stop (List UInt8 × List UInt8) :=
  match readLength s with
  | .error stop => .error stop
  | .ok (n, t) =>
      if maxPayload < n then .error ⟨.tooLong n, t⟩
      else
        let (payload, rest) := t.splitAt n
        if payload.length < n then .error ⟨.endsInBlock, []⟩ else .ok (payload, rest)

theorem length_readLength {s t : List UInt8} {n : Nat} (h : readLength s = .ok (n, t)) :
    t.length < s.length := by
  unfold readLength at h
  repeat' split at h
  all_goals simp_all
  all_goals omega

theorem length_next {s payload t : List UInt8} (h : next s = .ok (payload, t)) :
    t.length < s.length := by
  unfold next at h
  split at h
  · simp at h
  · rename_i read
    have := length_readLength read
    split at h
    · simp at h
    · simp only [List.splitAt_eq] at h
      split at h
      · simp at h
      · cases h
        simp only [List.length_drop]
        omega

def readAll (s : List UInt8) : List (List UInt8) × Stop :=
  match _found : next s with
  | .error stop => ([], stop)
  | .ok (payload, t) =>
      let (payloads, stop) := readAll t
      (payload :: payloads, stop)
termination_by s.length
decreasing_by exact length_next _found

structure Written where
  held : List UInt8
  complete : Bool
  deriving DecidableEq, Repr

def writeBytes (room : Nat) (held bytes : List UInt8) : Written :=
  ⟨held ++ bytes.take (room - held.length), decide (bytes.length ≤ room - held.length)⟩

def write (room : Nat) (held payload : List UInt8) : Written :=
  let w := writeBytes room held (encodeLength payload.length)
  if w.complete then writeBytes room w.held payload else w

end ClusterDirectory.Frame
