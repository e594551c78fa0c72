import P2POverlay.Identifiers

/-!
# The cryptographic library and the functions built on it

The third-party library is a parameter: hashing, signatures, scalar
multiplication, keyed hashing and authenticated encryption are arbitrary
functions of the library's sizes. What a law needs of them is a named property of
the parameter and never part of a definition. Random octets are an argument of the
function that draws them.

Identity keys, the Diffie-Hellman step with its rejection of weak results, HKDF
and the packet nonce follow the source.
-/

namespace P2POverlay

open Octets

/-- A secret of 32 octets: a shared secret, a key of a session or a private key of X25519. -/
abbrev Key := Vector UInt8 32

/-- An Ed25519 signature. That a value has this type says nothing about who made it. -/
abbrev Signature := Vector UInt8 64

/-- A random value of a handshake. Its use for one handshake only is not part of the type. -/
abbrev Nonce := Vector UInt8 32

/-- A nonce of the AEAD, which is built from a sequence number. -/
abbrev AeadNonce := Vector UInt8 12

/-- The operations taken from the library. Scalar multiplication may report
failure, and opening a sealed message may refuse it. -/
structure Sodium where
  sha256 : Bytes → Key
  signDetached : Bytes → Vector UInt8 64 → Signature
  verifyDetached : Signature → Bytes → Key → Bool
  scalarmultBase : Key → Key
  scalarmult : Key → Key → Option Key
  hmacSha256 : Bytes → Bytes → Key
  aeadEncrypt : (plaintext aad : Bytes) → AeadNonce → Key → Bytes
  aeadDecrypt : (sealedText aad : Bytes) → AeadNonce → Key → Option Bytes

namespace Sodium

/-- Both sides of a key exchange compute the same result from the other's public
key. -/
def X25519Commutes (sodium : Sodium) : Prop :=
  ∀ left right, sodium.scalarmult left (sodium.scalarmultBase right) =
    sodium.scalarmult right (sodium.scalarmultBase left)

/-- Opening what was sealed with the same key, nonce and associated data gives the plaintext
back. Nothing is said about what was not sealed. -/
def AeadOpens (sodium : Sodium) : Prop :=
  ∀ plaintext aad nonce key,
    sodium.aeadDecrypt (sodium.aeadEncrypt plaintext aad nonce key) aad nonce key = some plaintext

/-- Sealing adds exactly the 16-octet tag. This does not depend on the key. -/
def AeadExpands (sodium : Sodium) : Prop :=
  ∀ plaintext aad nonce key,
    (sodium.aeadEncrypt plaintext aad nonce key).length = plaintext.length + 16

end Sodium

variable (sodium : Sodium)

/-- A node identifier is the hash of the raw public key. Different keys may have one
identifier if the hash has collisions. -/
def computeNodeId (publicKey : Key) : NodeID := ⟨sodium.sha256 publicKey.toList⟩

/-- A claimed identifier is accepted only for the key that hashes to it. -/
def verifyNodeId (claimed : NodeID) (publicKey : Key) : Bool :=
  claimed = computeNodeId sodium publicKey

/-- An Ed25519 identity. That the two keys belong together is not part of the type. -/
structure Keypair where
  publicKey : Key
  secretKey : Vector UInt8 64
deriving DecidableEq

namespace Keypair

/-- The identifier of the owner of a key pair, which is computed from the public key alone. -/
def nodeId (keypair : Keypair) : NodeID := computeNodeId sodium keypair.publicKey

/-- A signature with the secret key. Whether it verifies is a matter of the library. -/
def sign (keypair : Keypair) (message : Bytes) : Signature :=
  sodium.signDetached message keypair.secretKey

/-- Verification needs only the public key. It is a function of the library, with no law
assumed here. -/
def verify (signature : Signature) (message : Bytes) (publicKey : Key) : Bool :=
  sodium.verifyDetached signature message publicKey

end Keypair

/-- An ephemeral key-exchange pair. -/
structure X25519Keypair where
  publicKey : Key
  secretKey : Key
deriving DecidableEq

/-- The pair of the drawn secret. -/
def X25519Keypair.generate (secret : Key) : X25519Keypair where
  publicKey := sodium.scalarmultBase secret
  secretKey := secret

/-- The shared secret; a failed multiplication and an all-zero result are refused. So a peer
with a weak key is refused and not merely unsafe. -/
def x25519DiffieHellman (mySecretKey peerPublicKey : Key) : Option Key :=
  match sodium.scalarmult mySecretKey peerPublicKey with
  | none => none
  | some shared =>
    let diff := shared.toList.foldl (fun diff byte => diff ||| byte) 0
    if diff = 0 then none else some shared

/-- Two generated pairs agree on the shared secret, and on there being one. -/
theorem x25519DiffieHellman_commutes (commutes : sodium.X25519Commutes) (left right : Key) :
    x25519DiffieHellman sodium left (X25519Keypair.generate sodium right).publicKey =
      x25519DiffieHellman sodium right (X25519Keypair.generate sodium left).publicKey := by
  simp only [x25519DiffieHellman, X25519Keypair.generate, commutes left right]

/-- HKDF-Extract is the keyed hash of the key material under the salt; an absent
salt is 32 zero octets. -/
def hkdfExtract (salt : Option Bytes) (ikm : Bytes) : Key :=
  sodium.hmacSha256 (salt.getD (List.replicate 32 0)) ikm

/-- Append keyed-hash blocks until the requested length is reached; the last block
is cut. The block counter is an octet. -/
def hkdfExpandLoop (prk : Key) (info : Bytes) (length : Nat) (okm previous : Bytes)
    (counter : UInt8) : Bytes :=
  if _short : okm.length < length then
    let block := sodium.hmacSha256 prk.toList (previous ++ info ++ [counter])
    let toCopy := min (length - okm.length) 32
    hkdfExpandLoop prk info length (okm ++ block.toList.take toCopy) block.toList (counter + 1)
  else okm
termination_by length - okm.length
decreasing_by
  simp only [List.length_append, List.length_take, Vector.length_toList]
  omega

/-- HKDF-Expand. No result is the exception for a length above the limit. Every length up to
the limit has one. -/
def hkdfExpand (prk : Key) (info : Bytes) (length : Nat) : Option Bytes :=
  if 255 * 32 < length then none else some (hkdfExpandLoop sodium prk info length [] [] 1)

/-- The keys of the two directions of a session. The role decides which is used for sending.
-/
structure SessionKeys where
  keyAToB : Key
  keyBToA : Key
deriving DecidableEq

/-- Derive both keys from the shared secret, salted with the initiator's and then
the responder's nonce. The requested 64 octets are below the expansion limit. -/
def deriveSessionKeys (sharedSecret : Key) (nonceA nonceB : Nonce) : SessionKeys :=
  let prk := hkdfExtract sodium (some (nonceA.toList ++ nonceB.toList)) sharedSecret.toList
  let okm := (hkdfExpand sodium prk (ascii "p2p-ake-session-keys-v1") 64).getD []
  { keyAToB := array 32 okm
    keyBToA := array 32 (okm.drop 32) }

/-- Four zero octets and the sequence number in network order. Different numbers give
different nonces. -/
def constructAeadNonce (seq : UInt64) : AeadNonce :=
  array 12 (List.replicate 4 0 ++ bigEndian 8 seq.toNat)

/-- Seal a message. The tag is put behind the ciphertext. -/
def chacha20Poly1305Encrypt (plaintext aad : Bytes) (nonce : AeadNonce) (key : Key) : Bytes :=
  sodium.aeadEncrypt plaintext aad nonce key

/-- Open a sealed message; one that is shorter than a tag is refused at once. -/
def chacha20Poly1305Decrypt (sealedText aad : Bytes) (nonce : AeadNonce) (key : Key) :
    Option Bytes :=
  if sealedText.length < 16 then none else sodium.aeadDecrypt sealedText aad nonce key

/-- Different sequence numbers have different nonces. -/
theorem constructAeadNonce_injective (left right : UInt64)
    (same : constructAeadNonce left = constructAeadNonce right) : left = right := by
  have octets := congrArg Vector.toList same
  rw [constructAeadNonce, constructAeadNonce, toList_array _ _ (by simp),
    toList_array _ _ (by simp), List.take_of_length_le (by simp), List.take_of_length_le (by simp),
    List.append_cancel_left_eq] at octets
  exact UInt64.toNat.inj (bigEndian_injective 8 _ _ left.toNat_lt right.toNat_lt octets)

/-- Under its two laws, opening a sealed message passes the length check and gives
the plaintext back. -/
theorem chacha20Poly1305_opens (opens : sodium.AeadOpens) (expands : sodium.AeadExpands)
    (plaintext aad : Bytes) (nonce : AeadNonce) (key : Key) :
    chacha20Poly1305Decrypt sodium (chacha20Poly1305Encrypt sodium plaintext aad nonce key) aad
      nonce key = some plaintext := by
  have long : ¬ (sodium.aeadEncrypt plaintext aad nonce key).length < 16 := by
    rw [expands]
    omega
  rw [chacha20Poly1305Decrypt, chacha20Poly1305Encrypt, if_neg long, opens]

/-! ## A library for evaluation -/

namespace Sodium

/-- A rolling checksum, which stands for the digest of a message. -/
def checksum (bytes : Bytes) : UInt8 := bytes.foldl (fun digest byte => digest * 31 + byte) 7

/-- The tag of a message is the checksum of everything that it authenticates. -/
def checksumTag (plaintext aad : Bytes) (nonce : AeadNonce) (key : Key) : Bytes :=
  List.replicate 16 (checksum (key.toList ++ nonce.toList ++ aad ++ plaintext))

/-- A library without any security that obeys the laws, so that the model can be
evaluated on fixed inputs. A secret key starts with the public key it belongs to. -/
def evaluation : Sodium where
  sha256 := fun message => array 32 message
  signDetached := fun message secretKey => array 64 (checksum message :: secretKey.toList.take 32)
  verifyDetached := fun signature message publicKey =>
    signature.toList = (array 64 (checksum message :: publicKey.toList)).toList
  scalarmultBase := id
  scalarmult := fun secretKey publicKey => some (Vector.zipWith (· ^^^ ·) secretKey publicKey)
  hmacSha256 := fun key message => array 32 (message.reverse ++ key)
  aeadEncrypt := fun plaintext aad nonce key => plaintext ++ checksumTag plaintext aad nonce key
  aeadDecrypt := fun sealedText aad nonce key =>
    let plaintext := sealedText.take (sealedText.length - 16)
    if sealedText.drop (sealedText.length - 16) = checksumTag plaintext aad nonce key then
      some plaintext
    else none

/-- In the library of evaluations both parties get one shared secret. -/
theorem evaluation_x25519Commutes : evaluation.X25519Commutes := by
  intro left right
  have swapped : Vector.zipWith (· ^^^ ·) left right = Vector.zipWith (· ^^^ ·) right left := by
    apply Vector.ext
    intro position bound
    simp [UInt8.xor_comm]
  exact congrArg some swapped

/-- In the library of evaluations what was encrypted is opened under the same key, nonce and
additional data. -/
theorem evaluation_aeadOpens : evaluation.AeadOpens := by
  intro plaintext aad nonce key
  simp [evaluation, checksumTag]

/-- In the library of evaluations a ciphertext is as much longer than its text as the tag
is. -/
theorem evaluation_aeadExpands : evaluation.AeadExpands := by
  intro plaintext aad nonce key
  simp [evaluation, checksumTag]

end Sodium

namespace Evaluation

/-- The first party of the evaluations. -/
def alice : Keypair := ⟨Vector.replicate 32 1, Vector.replicate 64 1⟩

/-- The second party of the evaluations. Their keys differ, and so do their identifiers. -/
def bob : Keypair := ⟨Vector.replicate 32 2, Vector.replicate 64 2⟩

end Evaluation

end P2POverlay
