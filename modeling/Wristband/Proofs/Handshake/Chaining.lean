import Wristband.Proofs.Cipher.Aes
import Wristband.Proofs.Cipher.Des
import Wristband.Proofs.Cipher.Permutation
import Wristband.Proofs.Handshake.Messages

/-! Messages in parts. Of the blocks so far only the last cipher block goes into the next one, so a
message may be cut between two blocks and the second part chained to the last block of the first.
Together with what a cipher refuses and what it undoes this is all that the handshakes rely on. -/

namespace Wristband

namespace Bytes

variable {size : Nat} {left right : Bytes}

private theorem lastBlock_of_length (sized : left.length = size) : lastBlock size left = left := by
  rw [lastBlock, sized, Nat.sub_self, List.drop_zero]

private theorem lastBlock_append (enough : size ≤ right.length) :
    lastBlock size (left ++ right) = lastBlock size right := by
  have behind : (left ++ right).length - size = left.length + (right.length - size) := by
    rw [List.length_append]
    omega
  rw [lastBlock, lastBlock, behind, List.drop_length_add_append]

end Bytes

namespace BlockCipher

variable {cipher : BlockCipher} {initial data message first second : Bytes}

/-- What the block after these ones is mixed with. -/
def chainedTo (cipher : BlockCipher) (initial : Bytes) (blocks : List Bytes) : Bytes :=
  blocks.foldl (fun chained block => cipher.encrypt (Bytes.xor block chained)) initial

private theorem chainEncrypt_append (cipher : BlockCipher) (initial : Bytes) (blocks others : List Bytes) :
    cipher.chainEncrypt initial (blocks ++ others) =
      cipher.chainEncrypt initial blocks ++
        cipher.chainEncrypt (cipher.chainedTo initial blocks) others := by
  induction blocks generalizing initial with
  | nil => rfl
  | cons block blocks ih =>
    rw [List.cons_append, chainEncrypt, chainEncrypt, ih, List.append_assoc]
    rfl

private theorem Invertible.lastBlock_chainEncrypt (invertible : cipher.Invertible) {block : Bytes}
    {blocks : List Bytes} (sized : initial.length = cipher.blockSize)
    (whole : ∀ other ∈ block :: blocks, other.length = cipher.blockSize) :
    Bytes.lastBlock cipher.blockSize (cipher.chainEncrypt initial (block :: blocks)) =
      cipher.chainedTo initial (block :: blocks) := by
  have enciphered := invertible.length_encrypt_xor (whole block List.mem_cons_self) sized
  induction blocks generalizing initial block with
  | nil =>
    rw [chainEncrypt, chainEncrypt, List.append_nil]
    exact Bytes.lastBlock_of_length enciphered
  | cons next blocks ih =>
    have later : ∀ other ∈ next :: blocks, other.length = cipher.blockSize :=
      fun other listed => whole other (List.mem_cons_of_mem block listed)
    have nextEnciphered :=
      invertible.length_encrypt_xor (later next List.mem_cons_self) enciphered
    have enough : cipher.blockSize ≤
        (cipher.chainEncrypt (cipher.encrypt (Bytes.xor block initial)) (next :: blocks)).length := by
      rw [chainEncrypt, List.length_append, nextEnciphered]
      exact Nat.le_add_right _ _
    rw [chainEncrypt, Bytes.lastBlock_append enough]
    exact ih enciphered later nextEnciphered

private theorem Invertible.lastBlock_message (invertible : cipher.Invertible)
    (takes : cipher.Takes initial data) :
    Bytes.lastBlock cipher.blockSize
        (cipher.chainEncrypt initial (pieces cipher.blockSize data)) =
      cipher.chainedTo initial (pieces cipher.blockSize data) := by
  have each := invertible.whole_pieces takes
  rw [pieces_eq invertible.positive takes.1] at each ⊢
  exact invertible.lastBlock_chainEncrypt takes.2.2 each

def encipher (cipher : BlockCipher) (initial data : Bytes) : Except ProtocolError Bytes :=
  cipher.encryptMessage initial data |>.mapError (.cipher ·.message)

def decipher (cipher : BlockCipher) (initial message : Bytes) : Except ProtocolError Bytes :=
  cipher.decryptMessage initial message |>.mapError (.cipher ·.message)

private theorem encipher_eq_ok : cipher.encipher initial data = .ok message ↔
    cipher.Takes initial data ∧
      cipher.chainEncrypt initial (pieces cipher.blockSize data) = message :=
  Except.mapError_eq_ok.trans encryptMessage_eq_ok

/-- One direction of a cipher. It refuses what is not some whole blocks, or is chained to anything
but one block, and keeps the length of everything else. -/
structure WholeBlocks (size : Nat) (run : Bytes → Bytes → Except ProtocolError Bytes) : Prop where
  refuses : ∀ initial data, (∃ reason, run initial data = .error (.cipher reason)) ↔
    data = [] ∨ data.length % size ≠ 0 ∨ initial.length ≠ size
  keeps : ∀ initial data, data ≠ [] → data.length % size = 0 → initial.length = size →
    ∃ result, run initial data = .ok result ∧ result.length = data.length

/-- Either direction undoes the other. A message may be cut, and its second part chained to the last
block of the first. -/
structure Chains (cipher : BlockCipher) (size : Nat) : Prop where
  enciphers : WholeBlocks size cipher.encipher
  deciphers : WholeBlocks size cipher.decipher
  undoes : ∀ initial data message,
    cipher.decipher initial message = .ok data ↔ cipher.encipher initial data = .ok message
  continues : ∀ initial first second, first ≠ [] → first.length % size = 0 →
    second ≠ [] → second.length % size = 0 →
      cipher.encipher initial (first ++ second) = do
        let front ← cipher.encipher initial first
        let back ← cipher.encipher (Bytes.lastBlock size front) second
        return front ++ back

private theorem wholeBlocks_of_checked {run : Bytes → Bytes → Except CipherError Bytes}
    {change : Bytes → Bytes → Bytes}
    (checked : ∀ {initial data result}, run initial data = .ok result ↔
      cipher.Takes initial data ∧ change initial data = result)
    (sized : ∀ {initial data}, cipher.Takes initial data →
      (change initial data).length = data.length) :
    WholeBlocks cipher.blockSize fun initial data =>
      (run initial data).mapError (.cipher ·.message) where
  refuses initial data := by
    have unfit : ¬ cipher.Takes initial data ↔ data = [] ∨ data.length % cipher.blockSize ≠ 0 ∨
        initial.length ≠ cipher.blockSize := by
      simp only [Takes, not_and_or, ne_eq, not_not]
    rw [← unfit]
    cases ran : run initial data with
    | ok result =>
      have takes := (checked.mp ran).1
      exact ⟨nofun, fun unfit => (unfit takes).elim⟩
    | error error =>
      refine ⟨fun _ takes => ?_, fun _ => ⟨_, rfl⟩⟩
      cases ran.symm.trans (checked.mpr ⟨takes, rfl⟩)
  keeps initial data some_ whole chained := by
    have takes : cipher.Takes initial data := ⟨some_, whole, chained⟩
    exact ⟨_, Except.mapError_eq_ok.mpr (checked.mpr ⟨takes, rfl⟩), sized takes⟩

private theorem Takes.append (takes : cipher.Takes initial first)
    (whole : second.length % cipher.blockSize = 0) : cipher.Takes initial (first ++ second) := by
  refine ⟨List.append_ne_nil_of_left_ne_nil takes.1 second, ?_, takes.2.2⟩
  rw [List.length_append, Nat.add_mod, takes.2.1, whole, Nat.zero_mod]

private theorem encipher_unchained (some_ : data ≠ []) (whole : data.length % cipher.blockSize = 0)
    (unsized : initial.length ≠ cipher.blockSize) :
    cipher.encipher initial data = .error (.cipher CipherError.chainingValueLength.message) := by
  have fits : ¬ (data.isEmpty = true ∨ data.length % cipher.blockSize ≠ 0) := by
    simp [some_, whole]
  rw [encipher, encryptMessage, checkMessage, if_neg fits, if_pos unsized]
  rfl

namespace Invertible

variable (invertible : cipher.Invertible)
include invertible

private theorem length_lastBlock_message (takes : cipher.Takes initial data) :
    (Bytes.lastBlock cipher.blockSize
      (cipher.chainEncrypt initial (pieces cipher.blockSize data))).length = cipher.blockSize := by
  apply Bytes.length_lastBlock
  rw [invertible.length_message takes]
  exact Nat.le_of_dvd (List.length_pos_iff.mpr takes.1) (Nat.dvd_of_mod_eq_zero takes.2.1)

private theorem encipher_append (initial : Bytes) (some_ : first ≠ [])
    (whole : first.length % cipher.blockSize = 0) (others : second ≠ [])
    (othersWhole : second.length % cipher.blockSize = 0) :
    cipher.encipher initial (first ++ second) = do
      let front ← cipher.encipher initial first
      let back ← cipher.encipher (Bytes.lastBlock cipher.blockSize front) second
      return front ++ back := by
  by_cases sized : initial.length = cipher.blockSize
  · have takes : cipher.Takes initial first := ⟨some_, whole, sized⟩
    have front := encipher_eq_ok.mpr ⟨takes, rfl⟩
    have back := encipher_eq_ok.mpr
      ⟨⟨others, othersWhole, invertible.length_lastBlock_message takes⟩, rfl⟩
    have all := encipher_eq_ok.mpr ⟨takes.append othersWhole, rfl⟩
    rw [pieces_append_pieces invertible.positive second whole, chainEncrypt_append,
      ← invertible.lastBlock_message takes] at all
    rw [all]
    refine (Except.bind_eq_ok.mpr ⟨_, front, ?_⟩).symm
    exact Except.bind_eq_ok.mpr ⟨_, back, rfl⟩
  · have allWhole : (first ++ second).length % cipher.blockSize = 0 := by
      rw [List.length_append, Nat.add_mod, whole, othersWhole, Nat.zero_mod]
    rw [encipher_unchained some_ whole sized,
      encipher_unchained (List.append_ne_nil_of_left_ne_nil some_ second) allWhole sized]
    rfl

private theorem chains : cipher.Chains cipher.blockSize where
  enciphers := wholeBlocks_of_checked encryptMessage_eq_ok invertible.length_message
  deciphers := wholeBlocks_of_checked decryptMessage_eq_ok invertible.length_plain
  undoes _ _ _ := by
    simp only [encipher, decipher, Except.mapError_eq_ok, invertible.decryptMessage_iff]
  continues initial _ _ := invertible.encipher_append initial

end Invertible

/-- Both ciphers of the handshakes, under every key. -/
theorem handshake_ciphers_chain (key : FixedBytes 16) :
    (Des.doubleKeyCipher key.val).Chains 8 ∧ (Aes.cipher key.val).Chains 16 :=
  ⟨(Des.doubleKeyCipher_invertible key.val).chains, (Aes.cipher_invertible key.property).chains⟩

end BlockCipher
end Wristband
