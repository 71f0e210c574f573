import TokenGate.Digest.Sha256
/-!
Message authentication codes: HMAC over SHA-256.
-/
namespace TokenGate.Hmac

/-- A key as one block of 64 bytes; a longer key is hashed first. -/
def keyBlock (key : Bytes) : Bytes :=
  let k := if 64 < key.length then Sha256.digest key else key
  k ++ List.replicate (64 - k.length) 0

def code (key message : Bytes) : Bytes :=
  let k := keyBlock key
  Sha256.digest (k.map (· ^^^ 0x5c) ++ Sha256.digest (k.map (· ^^^ 0x36) ++ message))

theorem length_code (key message : Bytes) : (code key message).length = 32 :=
  Sha256.length_digest _

end TokenGate.Hmac
