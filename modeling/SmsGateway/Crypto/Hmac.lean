import SmsGateway.Crypto.Sha256

namespace SmsGateway.Crypto

def blockSize : Nat := 64

def keyBlock (key : List UInt8) : List UInt8 :=
  let short := if blockSize < key.length then (Sha256.hash key).bytes else key
  short ++ List.replicate (blockSize - short.length) 0

def hmac (key message : List UInt8) : Sha256.Words :=
  let block := keyBlock key
  let inner := Sha256.hash (block.map (· ^^^ 0x36) ++ message)
  Sha256.hash (block.map (· ^^^ 0x5c) ++ inner.bytes)

end SmsGateway.Crypto
