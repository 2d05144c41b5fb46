import ClusterDirectory.Text.Hex
import ClusterDirectory.Text.Utf8

/-!
Percent encoding: a byte as a percent sign and two hexadecimal digits.

A percent sign that two digits do not follow stands for itself when it is read. When text is
written, the letters and digits of ASCII and four marks stand for themselves.
-/

namespace ClusterDirectory.Text.Percent

def decode : List Char → List UInt8
  | [] => []
  | '%' :: a :: b :: r =>
      match hexValue? a, hexValue? b with
      | some high, some low => UInt8.ofNat (high * 16 + low) :: decode r
      | _, _ => 0x25 :: decode (a :: b :: r)
  | c :: r => String.utf8EncodeChar c ++ decode r

def isUnreserved (b : UInt8) : Bool :=
  (0x30 ≤ b && b ≤ 0x39) || (0x41 ≤ b && b ≤ 0x5A) || (0x61 ≤ b && b ≤ 0x7A) ||
    b == 0x2D || b == 0x2E || b == 0x5F || b == 0x7E

def encodeByte (b : UInt8) : List Char :=
  if isUnreserved b then [Char.ofNat b.toNat]
  else ['%', Nat.digitChar (b.toNat / 16), Nat.digitChar (b.toNat % 16)]

def encode (bs : List UInt8) : List Char := bs.flatMap encodeByte

end ClusterDirectory.Text.Percent
