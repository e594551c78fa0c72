import P2POverlay.Cryptography

/-!
# Handshake messages and their transcripts

The three messages of the key exchange and the octet strings that are signed. The
responder signs its transcript, which starts with its own label and names both
identities, both ephemeral keys, both nonces and the session. The initiator signs
that transcript again behind a label of its own.

Every field of a transcript has a fixed width, so the transcript determines them
all, and the two labels keep the two signatures apart.
-/

namespace P2POverlay

open Octets

/-- The first message, from the initiator. -/
structure HandshakeInit where
  version : UInt8 := 1
  nodeId : NodeID
  identityPublicKey : Key
  ephemeralPublicKey : Key
  nonce : Nonce
deriving DecidableEq

/-- The second message, from the responder. -/
structure HandshakeResponse where
  sessionId : RequestID
  nodeId : NodeID
  identityPublicKey : Key
  ephemeralPublicKey : Key
  nonce : Nonce
  signature : Signature
deriving DecidableEq

/-- The third message, from the initiator. -/
structure HandshakeComplete where
  sessionId : RequestID
  signature : Signature
deriving DecidableEq

/-- What both labels have in common. -/
def transcriptLabel : Bytes := ascii "P2P-AKE-V1-"

/-- What the responder signs. A label of its own is in front, so it is never what an
initiator signs. -/
def computeTranscriptB (init : HandshakeInit) (sessionId : RequestID) (respNodeId : NodeID)
    (respIdentityPub respEphemeralPub : Key) (respNonce : Nonce) : Bytes :=
  ascii "P2P-AKE-V1-RESP" ++ init.nodeId.data.toList ++ init.identityPublicKey.toList ++
    init.ephemeralPublicKey.toList ++ init.nonce.toList ++ sessionId.data.toList ++
    respNodeId.data.toList ++ respIdentityPub.toList ++ respEphemeralPub.toList ++
    respNonce.toList

/-- What the initiator signs. It covers the responder's message as well. -/
def computeTranscriptA (transcriptB : Bytes) : Bytes :=
  ascii "P2P-AKE-V1-COMP" ++ transcriptB

/-- Two arrays at the front of equal octet strings are equal, and so is what
follows them. -/
theorem array_append_cancel {n : Nat} (left right : Vector UInt8 n) (leftRest rightRest : Bytes)
    (same : left.toList ++ leftRest = right.toList ++ rightRest) :
    left = right ∧ leftRest = rightRest := by
  obtain ⟨fronts, rests⟩ := List.append_inj same (by simp)
  exact ⟨Vector.toList_inj.mp fronts, rests⟩

/-- A responder transcript determines every field it was computed from. Only the
version of the first message is not part of it. -/
theorem computeTranscriptB_injective {init init' : HandshakeInit} {sessionId sessionId' : RequestID}
    {nodeId nodeId' : NodeID} {identity identity' ephemeral ephemeral' : Key}
    {nonce nonce' : Nonce}
    (same : computeTranscriptB init sessionId nodeId identity ephemeral nonce =
      computeTranscriptB init' sessionId' nodeId' identity' ephemeral' nonce') :
    init.nodeId = init'.nodeId ∧ init.identityPublicKey = init'.identityPublicKey ∧
      init.ephemeralPublicKey = init'.ephemeralPublicKey ∧ init.nonce = init'.nonce ∧
      sessionId = sessionId' ∧ nodeId = nodeId' ∧ identity = identity' ∧
      ephemeral = ephemeral' ∧ nonce = nonce' := by
  simp only [computeTranscriptB, List.append_assoc, List.append_cancel_left_eq] at same
  obtain ⟨initNode, same⟩ := array_append_cancel _ _ _ _ same
  obtain ⟨initIdentity, same⟩ := array_append_cancel _ _ _ _ same
  obtain ⟨initEphemeral, same⟩ := array_append_cancel _ _ _ _ same
  obtain ⟨initNonce, same⟩ := array_append_cancel _ _ _ _ same
  obtain ⟨session, same⟩ := array_append_cancel _ _ _ _ same
  obtain ⟨node, same⟩ := array_append_cancel _ _ _ _ same
  obtain ⟨key, same⟩ := array_append_cancel _ _ _ _ same
  obtain ⟨exchange, same⟩ := array_append_cancel _ _ _ _ same
  have nodes : nodeId = nodeId' := by
    cases nodeId
    cases nodeId'
    exact congrArg NodeID.mk node
  have inits : init.nodeId = init'.nodeId := by
    cases left : init.nodeId
    cases right : init'.nodeId
    rw [left, right] at initNode
    exact congrArg NodeID.mk initNode
  have sessions : sessionId = sessionId' := by
    cases sessionId
    cases sessionId'
    exact congrArg RequestID.mk session
  exact ⟨inits, initIdentity, initEphemeral, initNonce, sessions, nodes, key, exchange,
    Vector.toList_inj.mp same⟩

/-- An initiator transcript determines the responder transcript in it. -/
theorem computeTranscriptA_injective {left right : Bytes}
    (same : computeTranscriptA left = computeTranscriptA right) : left = right :=
  List.append_cancel_left same

/-- The label is a prefix of every responder transcript. -/
theorem label_computeTranscriptB (init : HandshakeInit) (sessionId : RequestID) (nodeId : NodeID)
    (identity ephemeral : Key) (nonce : Nonce) :
    transcriptLabel <+: computeTranscriptB init sessionId nodeId identity ephemeral nonce := by
  have label : ascii "P2P-AKE-V1-RESP" = transcriptLabel ++ ascii "RESP" := by decide
  rw [computeTranscriptB, label]
  simp only [List.append_assoc]
  exact List.prefix_append _ _

/-- The label is a prefix of every initiator transcript. -/
theorem label_computeTranscriptA (transcriptB : Bytes) :
    transcriptLabel <+: computeTranscriptA transcriptB := by
  have label : ascii "P2P-AKE-V1-COMP" = transcriptLabel ++ ascii "COMP" := by decide
  rw [computeTranscriptA, label, List.append_assoc]
  exact List.prefix_append _ _

/-- No octet string is a transcript of both kinds: the labels differ behind their
common part. -/
theorem computeTranscriptB_ne_computeTranscriptA (init : HandshakeInit) (sessionId : RequestID)
    (nodeId : NodeID) (identity ephemeral : Key) (nonce : Nonce) (transcriptB : Bytes) :
    computeTranscriptB init sessionId nodeId identity ephemeral nonce ≠
      computeTranscriptA transcriptB := by
  intro same
  rw [computeTranscriptB, computeTranscriptA] at same
  simp only [List.append_assoc] at same
  have labels := (List.append_inj same (by decide)).1
  exact absurd labels (by decide)

end P2POverlay
