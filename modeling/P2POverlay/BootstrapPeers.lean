import P2POverlay.NodeRecords
import Mathlib.Data.List.TakeWhile
import Mathlib.Data.Nat.Digits.Defs

/-!
# The peers of the bootstrap list

The command line has the bootstrap peers in one text, with commas between them. It is cut at the
commas, blanks are dropped, and empty pieces as well. Each piece is cut again at its last colon,
so a host may have colons of its own, and what follows is read as a decimal number. A piece
without a colon is skipped; one without a number behind it ends the start of the node.

A text without pieces overrides nothing: the node then connects to the peers of its settings
file. What the file says is a parameter here, and nothing is assumed about it.

What the text form of addresses writes is read back, in order and with nothing skipped, and
whatever was read from a text can be written again, unless nothing was.
-/

namespace P2POverlay

open Octets

/-! ## Numbers as text -/

/-- `std::to_string` of an unsigned number. There are no leading zeros. -/
def decimal (number : Nat) : Bytes :=
  if number = 0 then [48]
  else (Nat.digits 10 number).reverse.map fun digit => UInt8.ofNat (48 + digit)

/-- `std::isspace` in the C locale. -/
def isSpace (char : UInt8) : Bool := char.toNat = 32 ∨ 9 ≤ char.toNat ∧ char.toNat ≤ 13

/-- `std::isdigit`: the ten digits and nothing else, whatever the locale. -/
def isDecimal (char : UInt8) : Bool := 48 ≤ char.toNat ∧ char.toNat ≤ 57

/-- The number that decimal digits denote. It is not bounded here; the reader that uses it
is. -/
def readDecimal (digits : Bytes) : Nat :=
  digits.foldl (fun value char => value * 10 + (char.toNat - 48)) 0

/-- Whether there is a minus in front, and what is behind the sign. -/
def readSign (text : Bytes) : Bool × Bytes :=
  if text.head? = some 45 then (true, text.tail)
  else if text.head? = some 43 then (false, text.tail)
  else (false, text)

/-- `std::stoi`: blanks, a sign and digits are read, and what follows is ignored. It throws if
there is no digit or the number does not fit. -/
def stoi (text : Bytes) : Option Int :=
  let signed := readSign (text.dropWhile isSpace)
  let digits := signed.2.takeWhile isDecimal
  let number : Int := if signed.1 then -(readDecimal digits : Int) else readDecimal digits
  if digits = [] then none
  else if number < -2147483648 ∨ 2147483647 < number then none
  else some number

/-- The octet that is written for a digit is the one that a reader takes for it. Nothing is
assumed about where the digit stands. -/
theorem toNat_digit (digit : Nat) (small : digit < 10) :
    (UInt8.ofNat (48 + digit)).toNat = 48 + digit := by
  rw [UInt8.toNat_ofNat']
  omega

/-- Digits are read as they are written. -/
theorem readDecimal_decimal (number : Nat) : readDecimal (decimal number) = number := by
  have folded : ∀ digits : List Nat, (∀ digit ∈ digits, digit < 10) →
      digits.foldr (fun digit value => value * 10 + ((UInt8.ofNat (48 + digit)).toNat - 48)) 0 =
        Nat.ofDigits 10 digits := by
    intro digits small
    induction digits with
    | nil => rfl
    | cons digit rest inductionHypothesis =>
      rw [List.foldr_cons, Nat.ofDigits_cons, toNat_digit digit (small digit List.mem_cons_self),
        inductionHypothesis fun other member => small other (List.mem_cons_of_mem _ member)]
      omega
  unfold decimal
  split
  · rename_i zero
    rw [zero]
    rfl
  · rw [readDecimal, List.foldl_map, List.foldl_reverse, folded, Nat.ofDigits_digits]
    exact fun digit member => Nat.digits_lt_base (by decide) member

/-- A number is never written as an empty text, so a written port is always found by the
reader. -/
theorem decimal_ne_nil (number : Nat) : decimal number ≠ [] := by
  unfold decimal
  split
  · simp
  · rename_i positive
    rw [ne_eq, List.map_eq_nil_iff, List.reverse_eq_nil_iff]
    exact Nat.digits_ne_nil_iff_ne_zero.mpr positive

/-- Nothing but digits is written. -/
theorem isDecimal_decimal (number : Nat) (char : UInt8) (member : char ∈ decimal number) :
    isDecimal char = true := by
  unfold decimal at member
  split at member
  · rw [List.mem_singleton.mp member]
    decide
  · obtain ⟨digit, inside, rfl⟩ := List.mem_map.mp member
    have small := Nat.digits_lt_base (by decide) (List.mem_reverse.mp inside)
    rw [isDecimal, toNat_digit digit small, decide_eq_true_iff]
    omega

/-- A text of digits is read as the number that they denote. -/
theorem stoi_digits (digits : Bytes) (nonempty : digits ≠ [])
    (decimals : ∀ char ∈ digits, isDecimal char = true)
    (small : readDecimal digits ≤ 2147483647) : stoi digits = some (readDecimal digits : Int) := by
  cases digits with
  | nil => exact absurd rfl nonempty
  | cons first rest =>
    have digit := decimals first List.mem_cons_self
    rw [isDecimal, decide_eq_true_iff] at digit
    have unspaced : ¬ isSpace first = true := by
      rw [isSpace, decide_eq_true_iff]
      omega
    have unsigned : readSign (first :: rest) = (false, first :: rest) := by
      have noMinus : first ≠ 45 := by
        rintro rfl
        exact absurd digit.1 (by decide)
      have noPlus : first ≠ 43 := by
        rintro rfl
        exact absurd digit.1 (by decide)
      simp [readSign, noMinus, noPlus]
    have whole : (first :: rest).takeWhile isDecimal = first :: rest :=
      List.takeWhile_eq_self_iff.mpr decimals
    have fits : ¬ ((readDecimal (first :: rest) : Int) < -2147483648 ∨
        2147483647 < (readDecimal (first :: rest) : Int)) := by
      omega
    simp only [stoi, List.dropWhile_cons_of_neg unspaced, unsigned, whole, nonempty, fits,
      Bool.false_eq_true, ↓reduceIte]

/-! ## Lists of peers -/

/-- The loop over the characters, with the pieces so far and the present one. -/
def parsePeersLoop : Bytes → List Bytes → Bytes → List Bytes
  | [], peers, current => if current ≠ [] then peers ++ [current] else peers
  | char :: rest, peers, current =>
    if char = 44 then
      if current ≠ [] then parsePeersLoop rest (peers ++ [current]) []
      else parsePeersLoop rest peers current
    else if char ≠ 32 then parsePeersLoop rest peers (current ++ [char])
    else parsePeersLoop rest peers current

/-- Cut a text at its commas. Blanks are dropped wherever they stand, also inside a host. -/
def parsePeers (peersStr : Bytes) : List Bytes := parsePeersLoop peersStr [] []

/-- A text without commas and blanks. Colons are allowed. -/
def PlainText (text : Bytes) : Prop := ∀ char ∈ text, char ≠ 44 ∧ char ≠ 32

/-- Plain pieces and one more. -/
theorem plainText_concat {peers : List Bytes} {current : Bytes}
    (pieces : ∀ piece ∈ peers, PlainText piece) (present : PlainText current) :
    ∀ piece ∈ peers ++ [current], PlainText piece := by
  intro piece member
  cases List.mem_append.mp member with
  | inl earlier => exact pieces piece earlier
  | inr last => exact List.mem_singleton.mp last ▸ present

/-- Every piece is plain. -/
theorem plainText_parsePeersLoop (text : Bytes) (peers : List Bytes) (current : Bytes)
    (pieces : ∀ piece ∈ peers, PlainText piece) (present : PlainText current) :
    ∀ piece ∈ parsePeersLoop text peers current, PlainText piece := by
  induction text generalizing peers current with
  | nil =>
    rw [parsePeersLoop]
    split
    · exact plainText_concat pieces present
    · exact pieces
  | cons char rest inductionHypothesis =>
    rw [parsePeersLoop]
    split
    · split
      · exact inductionHypothesis _ [] (plainText_concat pieces present) nofun
      · exact inductionHypothesis peers current pieces present
    · rename_i noComma
      split
      · rename_i noBlank
        apply inductionHypothesis peers _ pieces
        intro other member
        cases List.mem_append.mp member with
        | inl earlier => exact present other earlier
        | inr last => exact List.mem_singleton.mp last ▸ ⟨noComma, noBlank⟩
      · exact inductionHypothesis peers current pieces present

/-- Whatever the text, its pieces are plain. -/
theorem plainText_parsePeers (text : Bytes) : ∀ piece ∈ parsePeers text, PlainText piece :=
  plainText_parsePeersLoop text [] [] nofun nofun

/-- Blanks are dropped. -/
theorem parsePeersLoop_filter (text : Bytes) (peers : List Bytes) (current : Bytes) :
    parsePeersLoop (text.filter (· ≠ 32)) peers current = parsePeersLoop text peers current := by
  induction text generalizing peers current with
  | nil => rfl
  | cons char rest inductionHypothesis =>
    by_cases blank : char = 32
    · rw [blank, List.filter_cons_of_neg (by decide), inductionHypothesis]
      simp [parsePeersLoop]
    · rw [List.filter_cons_of_pos (by simpa using blank)]
      simp only [parsePeersLoop, inductionHypothesis]

/-- A piece without commas and blanks is taken as it is. -/
theorem parsePeersLoop_piece (piece rest : Bytes) (peers : List Bytes) (current : Bytes)
    (plain : PlainText piece) :
    parsePeersLoop (piece ++ rest) peers current =
      parsePeersLoop rest peers (current ++ piece) := by
  induction piece generalizing current with
  | nil => rw [List.nil_append, List.append_nil]
  | cons char piece inductionHypothesis =>
    obtain ⟨noComma, noBlank⟩ := plain char List.mem_cons_self
    have later := inductionHypothesis (current ++ [char])
      fun other member => plain other (List.mem_cons_of_mem _ member)
    rw [List.cons_append, parsePeersLoop, if_neg noComma, if_pos noBlank, later, List.append_assoc,
      List.singleton_append]

/-- Pieces with commas between them are taken one by one. -/
theorem parsePeersLoop_intercalate (pieces : List Bytes) (peers : List Bytes)
    (plain : ∀ piece ∈ pieces, piece ≠ [] ∧ PlainText piece) :
    parsePeersLoop ([44].intercalate pieces) peers [] = peers ++ pieces := by
  induction pieces generalizing peers with
  | nil => simp [parsePeersLoop]
  | cons piece rest inductionHypothesis =>
    obtain ⟨nonempty, chars⟩ := plain piece List.mem_cons_self
    cases rest with
    | nil =>
      have alone : [44].intercalate [piece] = piece ++ [] := by simp
      rw [alone, parsePeersLoop_piece _ _ _ _ chars, List.nil_append, parsePeersLoop,
        if_pos nonempty]
    | cons next more =>
      have apart : [44].intercalate (piece :: next :: more) =
          piece ++ 44 :: [44].intercalate (next :: more) := by
        simp [List.intercalate]
      have later := inductionHypothesis (peers ++ [piece])
        fun other member => plain other (List.mem_cons_of_mem _ member)
      rw [apart, parsePeersLoop_piece _ _ _ _ chars, List.nil_append, parsePeersLoop, if_pos rfl,
        if_pos nonempty, later, List.append_assoc, List.singleton_append]

/-! ## Addresses -/

/-- The text form of an address. -/
def PeerAddress.toString (address : PeerAddress) : Bytes :=
  address.host ++ 58 :: decimal address.port.toNat

/-- `rfind`: the last position of a character. -/
def rfind (char : UInt8) (text : Bytes) : Option Nat :=
  (text.reverse.findIdx? (· == char)).map fun back => text.length - 1 - back

/-- The peers that a starting node connects to, in order, and whether it got through the list. -/
def bootstrapPeers : List Bytes → List PeerAddress × Bool
  | [] => ([], true)
  | peerStr :: rest =>
    match rfind 58 peerStr with
    | none => bootstrapPeers rest
    | some colon =>
      match stoi (peerStr.drop (colon + 1)) with
      | none => ([], false)
      | some number =>
        let later := bootstrapPeers rest
        (⟨peerStr.take colon, UInt16.ofNat (number % 65536).toNat⟩ :: later.1, later.2)

/-- The peers in the settings after the overrides of the command line: an empty list leaves
those of the settings file. The other settings do not depend on the peers. -/
def loadConfig (file bootstrapPeers : List Bytes) : List Bytes :=
  if bootstrapPeers ≠ [] then bootstrapPeers else file

/-- The peers that the program starts a node with, for the peers of the settings file and the
text behind the option of the command line, which is empty without that option. -/
def configuredPeers (file : List Bytes) (bootstrapStr : Bytes) : List Bytes :=
  loadConfig file (if bootstrapStr = [] then [] else parsePeers bootstrapStr)

/-- A text with a piece overrides the settings file, and one without leaves it. -/
theorem configuredPeers_eq (file : List Bytes) (bootstrapStr : Bytes) :
    configuredPeers file bootstrapStr =
      if parsePeers bootstrapStr = [] then file else parsePeers bootstrapStr := by
  cases bootstrapStr with
  | nil => rfl
  | cons char rest =>
    rw [configuredPeers, if_neg (List.cons_ne_nil char rest), loadConfig, ite_not]

/-- The last colon is the one in front of the digits. -/
theorem rfind_colon (host digits : Bytes) (absent : ∀ char ∈ digits, char ≠ 58) :
    rfind 58 (host ++ 58 :: digits) = some host.length := by
  have behind : digits.reverse.findIdx? (· == 58) = none := by
    rw [List.findIdx?_eq_none_iff]
    intro char member
    simpa using absent char (List.mem_reverse.mp member)
  have reversed : (host ++ 58 :: digits).reverse = digits.reverse ++ 58 :: host.reverse := by simp
  rw [rfind, reversed, List.findIdx?_append, behind, List.findIdx?_cons]
  simp

/-- The text form of addresses is read back. -/
theorem bootstrapPeers_map_toString (peers : List PeerAddress) :
    bootstrapPeers (peers.map PeerAddress.toString) = (peers, true) := by
  induction peers with
  | nil => rfl
  | cons peer rest inductionHypothesis =>
    have found : rfind 58 peer.toString = some peer.host.length := by
      apply rfind_colon
      rintro char member rfl
      have digit := isDecimal_decimal _ _ member
      exact absurd digit (by decide)
    have host : peer.toString.take peer.host.length = peer.host := List.take_left
    have digits : peer.toString.drop (peer.host.length + 1) = decimal peer.port.toNat := by
      rw [PeerAddress.toString, List.drop_append, List.drop_eq_nil_of_le (Nat.le_succ _)]
      simp
    have small := peer.port.toNat_lt
    have number : stoi (decimal peer.port.toNat) = some (peer.port.toNat : Int) := by
      have read := stoi_digits _ (decimal_ne_nil peer.port.toNat) (isDecimal_decimal _)
      rw [readDecimal_decimal] at read
      exact read (by omega)
    have port : UInt16.ofNat ((peer.port.toNat : Int) % 65536).toNat = peer.port := by
      have same : ((peer.port.toNat : Int) % 65536).toNat = peer.port.toNat := by omega
      rw [same, UInt16.ofNat_toNat]
    rw [List.map_cons, bootstrapPeers, found]
    simp only [digits, number, host, port, inductionHypothesis]

/-- The text form of an address with a plain host is plain. -/
theorem PlainText.toString {peer : PeerAddress} (plain : PlainText peer.host) :
    PlainText peer.toString := by
  intro char within
  cases List.mem_append.mp within with
  | inl host => exact plain char host
  | inr behind =>
    cases List.mem_cons.mp behind with
    | inl colon =>
      rw [colon]
      decide
    | inr digits =>
      have digit := isDecimal_decimal _ char digits
      constructor
      · rintro rfl
        exact absurd digit (by decide)
      · rintro rfl
        exact absurd digit (by decide)

/-- Addresses with plain hosts and with commas between them are cut apart again. -/
theorem parsePeers_intercalate (peers : List PeerAddress)
    (plain : ∀ peer ∈ peers, PlainText peer.host) :
    parsePeers ([44].intercalate (peers.map PeerAddress.toString)) =
      peers.map PeerAddress.toString := by
  rw [parsePeers, parsePeersLoop_intercalate, List.nil_append]
  intro piece member
  obtain ⟨peer, inside, rfl⟩ := List.mem_map.mp member
  exact ⟨by simp [PeerAddress.toString], (plain peer inside).toString⟩

/-- A node connects to plain hosts. -/
theorem plainText_bootstrapPeers (pieces : List Bytes)
    (plain : ∀ piece ∈ pieces, PlainText piece) :
    ∀ peer ∈ (bootstrapPeers pieces).1, PlainText peer.host := by
  induction pieces with
  | nil => exact nofun
  | cons piece rest inductionHypothesis =>
    have later := inductionHypothesis fun other member =>
      plain other (List.mem_cons_of_mem _ member)
    rw [bootstrapPeers]
    split
    · exact later
    · split
      · exact nofun
      · intro peer member
        cases List.mem_cons.mp member with
        | inl first =>
          rw [first]
          exact fun char inside =>
            plain piece List.mem_cons_self char (List.mem_of_mem_take inside)
        | inr behind => exact later peer behind

/-! ## Results -/

/-- Addresses with plain hosts, written with commas between them, override the settings file
and are read back; if there are none, the file decides. -/
theorem configuredPeers_intercalate (file : List Bytes) (peers : List PeerAddress)
    (plain : ∀ peer ∈ peers, PlainText peer.host) :
    bootstrapPeers (configuredPeers file ([44].intercalate (peers.map PeerAddress.toString))) =
      if peers = [] then bootstrapPeers file else (peers, true) := by
  rw [configuredPeers_eq, parsePeers_intercalate peers plain]
  cases peers with
  | nil => rfl
  | cons peer rest =>
    rw [if_neg (by simp), if_neg (List.cons_ne_nil peer rest)]
    exact bootstrapPeers_map_toString (peer :: rest)

/-- Whatever addresses are written, in their text form and with commas between them, a starting
node connects to exactly these, in order, wherever the text has blanks and whatever its
settings file says. A host has no comma and no blank; it may have colons. If no address is
written, the node connects to the peers of the settings file. -/
theorem bootstrap_peers_read_back (file : List Bytes) (peers : List PeerAddress) (text : Bytes)
    (plain : ∀ peer ∈ peers, PlainText peer.host)
    (written : text.filter (· ≠ 32) = [44].intercalate (peers.map PeerAddress.toString)) :
    bootstrapPeers (configuredPeers file text) =
      if peers = [] then bootstrapPeers file else (peers, true) := by
  have blanks : parsePeers text = parsePeers (text.filter (· ≠ 32)) :=
    (parsePeersLoop_filter text [] []).symm
  have same : configuredPeers file text = configuredPeers file (text.filter (· ≠ 32)) := by
    rw [configuredPeers_eq, configuredPeers_eq, ← blanks]
  rw [same, written]
  exact configuredPeers_intercalate file peers plain

/-- A host with colons and another one, with a blank behind the comma, at a node whose settings
file names a third one; and a text of blanks, which leaves that one. -/
theorem bootstrap_peers_read_back_blank :
    bootstrapPeers (configuredPeers [ascii "seed:1"] (ascii "::1:9001, node:7")) =
        ([⟨ascii "::1", 9001⟩, ⟨ascii "node", 7⟩], true) ∧
      bootstrapPeers (configuredPeers [ascii "seed:1"] (ascii "  ")) =
        ([⟨ascii "seed", 1⟩], true) := by
  constructor
  · apply bootstrap_peers_read_back [ascii "seed:1"] [⟨ascii "::1", 9001⟩, ⟨ascii "node", 7⟩]
    · simp only [PlainText]
      decide +kernel
    · decide +kernel
  · rw [bootstrap_peers_read_back [ascii "seed:1"] [] (ascii "  ") (by simp)
      (by decide +kernel)]
    decide +kernel

/-- Whatever text a node is given: one without pieces leaves the peers of the settings file.
Of any other text, also one with pieces that are no addresses, the peers that the node
connects to can be written as a text from which a node with any settings file reads exactly
these again, unless there are none; the text is then empty, and the file decides. -/
theorem accepted_peers_read_back (file other : List Bytes) (text : Bytes) :
    let accepted := bootstrapPeers (configuredPeers file text)
    (parsePeers text = [] → accepted = bootstrapPeers file) ∧
      (parsePeers text ≠ [] → bootstrapPeers (configuredPeers other
          ([44].intercalate (accepted.1.map PeerAddress.toString))) =
        if accepted.1 = [] then bootstrapPeers other else (accepted.1, true)) := by
  intro accepted
  constructor
  · intro nothing
    simp only [accepted, configuredPeers_eq, nothing, ↓reduceIte]
  · intro pieces
    apply configuredPeers_intercalate
    intro peer member
    have read : accepted = bootstrapPeers (parsePeers text) := by
      simp only [accepted, configuredPeers_eq, pieces, ↓reduceIte]
    rw [read] at member
    exact plainText_bootstrapPeers (parsePeers text) (plainText_parsePeers text) peer member

/-- Of a text with a piece that is skipped and a port that does not fit, one address is read
and read again. A text without an address gives none, and a node that is given what is
written of it connects to the peers of its settings file. -/
theorem accepted_peers_read_back_skipped :
    bootstrapPeers (configuredPeers [ascii "seed:1"] ([44].intercalate
        ((bootstrapPeers (configuredPeers [] (ascii "here,,a:70000"))).1.map
          PeerAddress.toString))) = ([⟨ascii "a", 4464⟩], true) ∧
      bootstrapPeers (configuredPeers [ascii "seed:1"] ([44].intercalate
        ((bootstrapPeers (configuredPeers [] (ascii "here"))).1.map
          PeerAddress.toString))) = ([⟨ascii "seed", 1⟩], true) := by
  constructor
  · rw [(accepted_peers_read_back [] [ascii "seed:1"] (ascii "here,,a:70000")).2
      (by decide +kernel)]
    decide +kernel
  · rw [(accepted_peers_read_back [] [ascii "seed:1"] (ascii "here")).2 (by decide +kernel)]
    decide +kernel

/-- A piece without a colon is skipped, and a port is cut to 16 bits. -/
example : bootstrapPeers (parsePeers (ascii "here,,a:70000,b:12x")) =
    ([⟨ascii "a", 4464⟩, ⟨ascii "b", 12⟩], true) := by
  decide +kernel

end P2POverlay
