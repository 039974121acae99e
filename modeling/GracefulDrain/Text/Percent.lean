namespace GracefulDrain.Text

/-- The value of a hexadecimal digit, given as an ASCII byte. -/
def hexValue? (b : UInt8) : Option UInt8 :=
  if 0x30 ≤ b ∧ b ≤ 0x39 then some (b - 0x30)
  else if 0x41 ≤ b ∧ b ≤ 0x46 then some (b - 0x37)
  else if 0x61 ≤ b ∧ b ≤ 0x66 then some (b - 0x57)
  else none

def percentDecode : List UInt8 → List UInt8
  | 0x25 :: h :: l :: rest =>
    match hexValue? h, hexValue? l with
    | some x, some y => (x * 16 + y) :: percentDecode rest
    | _, _ => 0x25 :: percentDecode (h :: l :: rest)
  | b :: rest => b :: percentDecode rest
  | [] => []

def utf8Bytes (s : String) : List UInt8 := s.toUTF8.toList

/-- The text that a percent-encoded segment stands for, if its bytes are UTF-8. -/
def percentDecodeText? (s : String) : Option String :=
  String.fromUTF8? (percentDecode (utf8Bytes s)).toByteArray

end GracefulDrain.Text
