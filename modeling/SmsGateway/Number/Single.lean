namespace SmsGateway.Number

open Float.Model (UnpackedFloat)

/-- A 32-bit floating-point number by its bits. -/
structure Single where
  bits : UInt32
  deriving DecidableEq, Repr

namespace Single

def ofFloat32 (x : Float32) : Single := ⟨x.toBits⟩

def nan (negative : Bool) : Single :=
  ⟨if negative then 0xFFC00000 else 0x7FC00000⟩

/-- The 32-bit number nearest to a 64-bit one; infinity beyond the range. -/
def ofFloat (x : Float) : Single :=
  let nearest : UnpackedFloat := match x.toModel.unpack with
    | .finite sign mantissa exponent _ => .round .binary32 sign mantissa exponent
    | other => other
  .ofFloat32 (.ofModel (.pack nearest))

/-- The 32-bit number nearest to an integer of at most 64 bits. -/
def ofInt (n : Int) : Single :=
  let x := (UInt64.ofNat n.natAbs).toFloat32
  .ofFloat32 (if n < 0 then -x else x)

def toFloat32 (x : Single) : Float32 := Float32.ofBits x.bits

end Single

end SmsGateway.Number
