import Gatehouse.Crypto.Sha256

/-!
# Message authentication

HMAC with SHA-256 (RFC 2104): the digest of a message under a secret, which only those who know the
secret can make.
-/

set_option autoImplicit false

namespace Gatehouse
namespace Crypto
namespace Hmac

/-- The secret as one block: its digest stands in for a secret that is longer than a block. -/
def key (secret : List UInt8) : List UInt8 :=
  let k := if Sha256.blockSize < secret.length then Sha256.digest secret else secret
  k ++ List.replicate (Sha256.blockSize - k.length) 0

/-- The code that authenticates a message under a secret. -/
def code (secret message : List UInt8) : List UInt8 :=
  let k := key secret
  let inner := Sha256.digest (k.map (· ^^^ 0x36) ++ message)
  Sha256.digest (k.map (· ^^^ 0x5c) ++ inner)

end Hmac
end Crypto
end Gatehouse
