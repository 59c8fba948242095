/-!
# Fresh names

The names and secrets that an operation gives to what it creates.  They are an
input of the operation, so what an operation does is a function of its inputs.
-/

namespace FleetControl

structure Fresh where
  /-- The name of the job with a sequence number. -/
  job : UInt64 → String
  /-- The lease token of the job with a name. -/
  token : String → String
  /-- The name of the block at a place among those leased together. -/
  block : Nat → String
  allocation : String
  pool : String
  range : String
  agent : String
  secret : String
  sealNonce : List UInt8

namespace Fresh

/-- The size of a lease token in bytes; it is shown in hexadecimal digits. -/
def tokenSize : Nat := 24

/-- The size of the secret of an agent in bytes, which also is shown in hexadecimal
digits. -/
def secretSize : Nat := 32

end Fresh
end FleetControl
