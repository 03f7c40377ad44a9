import Mathlib.Data.List.Basic

/-! # Decrypting a file

`DecryptFile` decodes and RSA-OAEP-decrypts an AES key, reads an IV block and ciphertext,
decrypts in CBC mode and strips the padding with `pkcs7Unpad`, which cuts as many bytes as the
last byte says and refuses only a pad longer than the data. So every correctly padded plaintext
comes back whole, and so does much that is not padded at all. Errors end the process through
`glog.Fatalf`; a file that is not two or more whole blocks ends it in a run-time panic instead.
CBC encryption of padded data decrypts back whenever the block cipher's decryption undoes it.
-/

namespace DmsApi.Crypto

/-- `pkcs7Unpad(data)`; `none` is the run-time panic of `data[length-1]` on empty data. -/
def pkcs7Unpad (data : List UInt8) : Option (Except String (List UInt8)) :=
  let length := data.length
  match data[length - 1]? with
  | none => none
  | some last =>
    let unpadding := last.toNat
    if unpadding > length then some (.error "file-decrypt: invalid padding")
    else some (.ok (data.take (length - unpadding)))

/-- Modelled from the PKCS #7 standard, as the encrypting side applies it before the blocks
`DecryptFile` reads: `p` bytes of value `p`, for the `p` in `[1, blockSize]` that completes
the last block. -/
def pkcs7Pad (blockSize : Nat) (data : List UInt8) : List UInt8 :=
  let p := blockSize - data.length % blockSize
  data ++ List.replicate p (UInt8.ofNat p)

@[simp] theorem pkcs7Unpad_nil : pkcs7Unpad [] = none := rfl

/-- What `pkcs7Unpad` does with any non-empty input, split at its last byte. -/
theorem pkcs7Unpad_append_singleton (init : List UInt8) (last : UInt8) :
    pkcs7Unpad (init ++ [last]) =
      if init.length + 1 < last.toNat then some (.error "file-decrypt: invalid padding")
      else some (.ok ((init ++ [last]).take (init.length + 1 - last.toNat))) := by
  simp only [pkcs7Unpad, List.length_append, List.length_singleton, Nat.add_sub_cancel,
    List.getElem?_concat_length, gt_iff_lt]

/-- A last byte that counts the bytes from the end of `data` on cuts exactly those off,
whatever they hold. -/
theorem pkcs7Unpad_counted {data pad : List UInt8} {last : UInt8}
    (counted : pad.length + 1 = last.toNat) : pkcs7Unpad (data ++ pad ++ [last]) = some (.ok data) := by
  have kept : (data ++ pad).length + 1 - last.toNat = data.length := by
    rw [List.length_append]; omega
  rw [pkcs7Unpad_append_singleton, if_neg (by rw [List.length_append]; omega), kept,
    List.append_assoc, List.take_left]

/-- `pkcs7Unpad` undoes PKCS #7 padding to any block size a byte can count. -/
theorem pkcs7Unpad_pkcs7Pad (blockSize : Nat) (positive : 0 < blockSize)
    (small : blockSize < 256) (data : List UInt8) :
    pkcs7Unpad (pkcs7Pad blockSize data) = some (.ok data) := by
  have within : data.length % blockSize < blockSize := Nat.mod_lt _ positive
  obtain ⟨k, padLength⟩ : ∃ k, blockSize - data.length % blockSize = k + 1 :=
    ⟨_, (Nat.succ_pred_eq_of_pos (by omega)).symm⟩
  rw [pkcs7Pad, padLength, List.replicate_succ', ← List.append_assoc]
  exact pkcs7Unpad_counted (by rw [List.length_replicate, UInt8.toNat_ofNat_of_lt (by
    show k + 1 < 256; omega)])

theorem pkcs7Unpad_pkcs7Pad_aes : 0 < 16 ∧ 16 < 256 ∧
    pkcs7Unpad (pkcs7Pad 16 [104, 105]) = some (.ok [104, 105]) :=
  ⟨by decide, by decide, pkcs7Unpad_pkcs7Pad 16 (by decide) (by decide) [104, 105]⟩

/-- `pkcs7Unpad` reads nothing but the last byte: the bytes it cuts off may hold anything, and
a last byte of zero cuts nothing. -/
theorem pkcs7Unpad_reads_last_byte_only (data pad : List UInt8) (last : UInt8)
    (counted : pad.length + 1 = last.toNat) :
    pkcs7Unpad (data ++ pad ++ [last]) = some (.ok data) ∧
      pkcs7Unpad (data ++ [0]) = some (.ok (data ++ [0])) := by
  refine ⟨pkcs7Unpad_counted counted, ?_⟩
  rw [pkcs7Unpad_append_singleton, if_neg (by simp)]
  simp

theorem pkcs7Unpad_reads_last_byte_only_single :
    [0, 0].length + 1 = (3 : UInt8).toNat ∧
      pkcs7Unpad ([104] ++ [0, 0] ++ [3]) = some (.ok [104]) ∧
      pkcs7Unpad ([104] ++ [0]) = some (.ok ([104] ++ [0])) :=
  ⟨rfl, pkcs7Unpad_reads_last_byte_only [104] [0, 0] 3 rfl⟩

/-! ## Blocks in CBC mode -/

/-- `aes.BlockSize`. -/
def blockSize : Nat := 16

/-- A `cipher.Block`: a block cipher under one key. `Encrypt` and `Decrypt` write one block
into a destination of `blockSize` bytes. -/
structure Block where
  encrypt : List UInt8 → List UInt8
  decrypt : List UInt8 → List UInt8
  length_encrypt : ∀ p, p.length = blockSize → (encrypt p).length = blockSize
  length_decrypt : ∀ c, c.length = blockSize → (decrypt c).length = blockSize

/-- The block's decryption undoes its encryption. -/
def Block.Inverts (b : Block) : Prop := ∀ p, p.length = blockSize → b.decrypt (b.encrypt p) = p

/-- `aes.NewCipher(key)`, with `aes` the cipher under each key of a size AES takes. -/
def newCipher (aes : List UInt8 → Block) (key : List UInt8) : Except String Block :=
  if key.length = 16 ∨ key.length = 24 ∨ key.length = 32 then .ok (aes key)
  else .error ("crypto/aes: invalid key size " ++ toString key.length)

/-- `subtle.XORBytes` of two blocks. -/
def xorBytes (x y : List UInt8) : List UInt8 := List.zipWith (· ^^^ ·) x y

/-- What the CBC decrypter writes for `n` blocks of `src`: each ciphertext block decrypted and
xored with the ciphertext block before it, `prev` before the first. -/
def decryptBlocks (b : Block) : Nat → List UInt8 → List UInt8 → List UInt8
  | 0, _, _ => []
  | n + 1, prev, src =>
    xorBytes (b.decrypt (src.take blockSize)) prev ++
      decryptBlocks b n (src.take blockSize) (src.drop blockSize)

/-- The run-time panics `DecryptFile` can end in. -/
inductive Panic
  /-- `encryptedData[aes.BlockSize:]` of a file shorter than a block; the slice
  `[:aes.BlockSize]` before it is checked against the capacity `os.ReadFile` leaves, at least
  512 bytes. -/
  | sliceBounds
  /-- `cipher.NewCBCDecrypter` with an IV that is not one block. -/
  | ivLength
  /-- `CryptBlocks` of a ciphertext that is not whole blocks. -/
  | inputNotFullBlocks
  /-- `data[length-1]` in `pkcs7Unpad` of an empty plaintext. -/
  | indexOutOfRange
deriving DecidableEq, Repr

/-- How `DecryptFile` ends when it does not return: `glog.Fatalf` logs its message and exits,
or the run time panics. -/
inductive Exit
  | fatal (msg : String)
  | panic (p : Panic)
deriving DecidableEq, Repr

/-- `cipher.NewCBCDecrypter(b, iv).CryptBlocks(dst, src)`, into a `dst` as long as `src`. -/
def cryptBlocks (b : Block) (iv src : List UInt8) : Except Exit (List UInt8) :=
  if iv.length ≠ blockSize then .error (.panic .ivLength)
  else if src.length % blockSize ≠ 0 then .error (.panic .inputNotFullBlocks)
  else .ok (decryptBlocks b (src.length / blockSize) iv src)

/-! ## The file -/

/-- The outside calls of `DecryptFile`, as their outcomes: base64 decoding, `rsa.DecryptOAEP`,
`os.ReadFile`, `os.WriteFile`, and `aes`, the AES cipher under each key. -/
structure DecryptIO where
  decodeString : String → Except String (List UInt8)
  decryptOAEP : List UInt8 → Except String (List UInt8)
  readFile : Except String (List UInt8)
  aes : List UInt8 → Block
  writeFile : List UInt8 → Except String Unit

/-- `if err != nil { glog.Fatalf(format+"%v", err) }` after a call. -/
def fatalf {α : Type} (format : String) (result : Except String α) : Except Exit α :=
  result.mapError fun err => .fatal (format ++ err)

/-- The end of `DecryptFile`: `pkcs7Unpad(plaintext)`, then writing what it leaves to the
output file. -/
def writeUnpadded (io : DecryptIO) (plaintext : List UInt8) : Except Exit (List UInt8) := do
  let data ← match pkcs7Unpad plaintext with
    | none => throw (.panic .indexOutOfRange)
    | some unpadded => fatalf "Error unpadding data: " unpadded
  fatalf "Error writing decrypted data to output file: " (io.writeFile data)
  pure data

/-- `DecryptFile(inputFile, outputFile, privateKey, encryptedKeyB64)`; the result is the data
written to `outputFile`, after which it returns `nil`. -/
def decryptFile (io : DecryptIO) (encryptedKeyB64 : String) : Except Exit (List UInt8) := do
  let encryptedKey ←
    fatalf "Error decoding base64 encoded key: " (io.decodeString encryptedKeyB64)
  let decryptedKey ← fatalf "Error decrypting key: " (io.decryptOAEP encryptedKey)
  let encryptedData ← fatalf "Error reading input file: " io.readFile
  if encryptedData.length < blockSize then throw (.panic .sliceBounds)
  let iv := encryptedData.take blockSize
  let ciphertext := encryptedData.drop blockSize
  let block ← fatalf "Error creating AES cipher: " (newCipher io.aes decryptedKey)
  let plaintext ← cryptBlocks block iv ciphertext
  writeUnpadded io plaintext

/-! ## What the calls return -/

theorem xor_xor_cancel (a b : UInt8) : a ^^^ b ^^^ b = a :=
  congrArg UInt8.mk ((BitVec.xor_assoc _ _ _).trans (by rw [BitVec.xor_self, BitVec.xor_zero]))

/-- Xoring a block twice with the same block gives it back. -/
theorem xorBytes_xorBytes {x y : List UInt8} (shorter : x.length ≤ y.length) :
    xorBytes (xorBytes x y) y = x := by
  induction x generalizing y with
  | nil => rfl
  | cons a x ih =>
    cases y with
    | nil => exact absurd shorter (by simp)
    | cons b y =>
      simp only [xorBytes, List.zipWith_cons_cons, xor_xor_cancel]
      exact congrArg (a :: ·) (ih (Nat.le_of_succ_le_succ shorter))

theorem length_xorBytes_block {x y : List UInt8} (hx : x.length = blockSize)
    (hy : y.length = blockSize) : (xorBytes x y).length = blockSize := by
  rw [xorBytes, List.length_zipWith, hx, hy, min_self]

theorem length_take_block {src : List UInt8} {n : Nat} (blocks : src.length = blockSize * (n + 1)) :
    (src.take blockSize).length = blockSize := by
  rw [List.length_take, blocks, Nat.mul_succ]; omega

theorem length_drop_block {src : List UInt8} {n : Nat} (blocks : src.length = blockSize * (n + 1)) :
    (src.drop blockSize).length = blockSize * n := by
  rw [List.length_drop, blocks, Nat.mul_succ, Nat.add_sub_cancel]

/-- The CBC decrypter writes one block for each block it reads. -/
theorem length_decryptBlocks (b : Block) (n : Nat) {prev src : List UInt8}
    (prevBlock : prev.length = blockSize) (blocks : src.length = blockSize * n) :
    (decryptBlocks b n prev src).length = blockSize * n := by
  induction n generalizing prev src with
  | zero => rfl
  | succ n ih =>
    have first := length_take_block blocks
    rw [decryptBlocks, List.length_append, ih first (length_drop_block blocks),
      length_xorBytes_block (b.length_decrypt _ first) prevBlock, Nat.mul_succ, Nat.add_comm]

/-- `CryptBlocks` of whole blocks under a one-block IV decrypts them all. -/
theorem cryptBlocks_of_whole (b : Block) {iv src : List UInt8} (ivBlock : iv.length = blockSize)
    (whole : src.length % blockSize = 0) :
    cryptBlocks b iv src = .ok (decryptBlocks b (src.length / blockSize) iv src) := by
  rw [cryptBlocks, if_neg (not_not.mpr ivBlock), if_neg (not_not.mpr whole)]

/-- `pkcs7Unpad` panics on the empty plaintext alone. -/
theorem pkcs7Unpad_eq_none {data : List UInt8} : pkcs7Unpad data = none ↔ data = [] := by
  refine ⟨fun panics => ?_, fun empty => empty ▸ rfl⟩
  obtain ⟨init, last, rfl⟩ | rfl := data.eq_nil_or_concat.symm
  · rw [List.concat_eq_append, pkcs7Unpad_append_singleton] at panics
    split at panics <;> cases panics
  · rfl

/-- Unpadding and writing never panics on a plaintext that is not empty: each of its errors is
logged. -/
theorem writeUnpadded_panics_iff (io : DecryptIO) (plaintext : List UInt8) :
    (∃ p, writeUnpadded io plaintext = .error (.panic p)) ↔ plaintext = [] := by
  rw [← pkcs7Unpad_eq_none]
  unfold writeUnpadded
  cases pkcs7Unpad plaintext with
  | none => exact ⟨fun _ => rfl, fun _ => ⟨.indexOutOfRange, rfl⟩⟩
  | some unpadded =>
    refine ⟨fun ⟨p, panics⟩ => ?_, fun none_eq => by cases none_eq⟩
    cases unpadded with
    | error => cases panics
    | ok data =>
      cases written : io.writeFile data <;>
        simp only [fatalf, Except.mapError, bind, Except.bind, written] at panics <;> cases panics

/-- What `DecryptFile` does once it has the key and the file. -/
theorem decryptFile_of_read {io : DecryptIO} {encryptedKeyB64 : String}
    {encryptedKey key file : List UInt8}
    (decoded : io.decodeString encryptedKeyB64 = .ok encryptedKey)
    (unwrapped : io.decryptOAEP encryptedKey = .ok key) (read : io.readFile = .ok file) :
    decryptFile io encryptedKeyB64 =
      if file.length < blockSize then .error (.panic .sliceBounds)
      else fatalf "Error creating AES cipher: " (newCipher io.aes key) >>= fun block =>
        cryptBlocks block (file.take blockSize) (file.drop blockSize) >>= writeUnpadded io := by
  simp only [decryptFile, decoded, unwrapped, read, fatalf, Except.mapError, bind, Except.bind]
  split <;> rfl

/-! ## Files the encrypting side writes -/

/-- Modelled from the definition of CBC mode, as the encrypting side applies it to `n` blocks
of `src`: each block xored with the ciphertext block before it, `prev` before the first, and
encrypted. -/
def encryptBlocks (b : Block) : Nat → List UInt8 → List UInt8 → List UInt8
  | 0, _, _ => []
  | n + 1, prev, src =>
    let c := b.encrypt (xorBytes (src.take blockSize) prev)
    c ++ encryptBlocks b n c (src.drop blockSize)

/-- CBC encryption of the whole blocks of `src` under the IV `iv`. -/
def cbcEncrypt (b : Block) (iv src : List UInt8) : List UInt8 :=
  encryptBlocks b (src.length / blockSize) iv src

theorem length_encryptBlocks (b : Block) (n : Nat) {prev src : List UInt8}
    (prevBlock : prev.length = blockSize) (blocks : src.length = blockSize * n) :
    (encryptBlocks b n prev src).length = blockSize * n := by
  induction n generalizing prev src with
  | zero => rfl
  | succ n ih =>
    have cipherBlock :=
      b.length_encrypt _ (length_xorBytes_block (length_take_block blocks) prevBlock)
    rw [encryptBlocks, List.length_append, ih cipherBlock (length_drop_block blocks), cipherBlock,
      Nat.mul_succ, Nat.add_comm]

/-- The CBC decrypter undoes CBC encryption from the same IV on. -/
theorem decryptBlocks_encryptBlocks {b : Block} (inverts : b.Inverts) (n : Nat)
    {prev src : List UInt8} (prevBlock : prev.length = blockSize)
    (blocks : src.length = blockSize * n) :
    decryptBlocks b n prev (encryptBlocks b n prev src) = src := by
  induction n generalizing prev src with
  | zero => exact (List.eq_nil_of_length_eq_zero (by rw [blocks, Nat.mul_zero])).symm
  | succ n ih =>
    have first := length_take_block blocks
    have cipherBlock := b.length_encrypt _ (length_xorBytes_block first prevBlock)
    rw [encryptBlocks, decryptBlocks, List.take_left' cipherBlock, List.drop_left' cipherBlock,
      inverts _ (length_xorBytes_block first prevBlock),
      xorBytes_xorBytes (by rw [first, prevBlock]), ih cipherBlock (length_drop_block blocks),
      List.take_append_drop]

/-- PKCS #7 padding is `p - 1` bytes and a last byte that counts them and itself. -/
theorem pkcs7Pad_counted (bs : Nat) (positive : 0 < bs) (small : bs < 256) (data : List UInt8) :
    ∃ pad last, pkcs7Pad bs data = data ++ pad ++ [last] ∧ pad.length + 1 = last.toNat := by
  have within : data.length % bs < bs := Nat.mod_lt _ positive
  obtain ⟨k, padLength⟩ : ∃ k, bs - data.length % bs = k + 1 :=
    ⟨_, (Nat.succ_pred_eq_of_pos (by omega)).symm⟩
  refine ⟨List.replicate k (UInt8.ofNat (k + 1)), UInt8.ofNat (k + 1), ?_, ?_⟩
  · rw [pkcs7Pad, padLength, List.replicate_succ', List.append_assoc]
  · rw [List.length_replicate, UInt8.toNat_ofNat_of_lt (by show k + 1 < 256; omega)]

/-- PKCS #7 padding leaves whole blocks, one more than the data fills. -/
theorem length_pkcs7Pad (bs : Nat) (positive : 0 < bs) (data : List UInt8) :
    (pkcs7Pad bs data).length = bs * (data.length / bs + 1) := by
  have within := Nat.mod_lt data.length positive
  have split := Nat.div_add_mod data.length bs
  simp only [pkcs7Pad, List.length_append, List.length_replicate, Nat.mul_succ]
  omega

theorem writeUnpadded_pkcs7Pad {io : DecryptIO} {data : List UInt8}
    (written : io.writeFile data = .ok ()) :
    writeUnpadded io (pkcs7Pad blockSize data) = .ok data := by
  obtain ⟨pad, last, padded, counted⟩ := pkcs7Pad_counted blockSize (by decide) (by decide) data
  simp only [writeUnpadded, padded, pkcs7Unpad_counted counted, fatalf, Except.mapError, bind,
    Except.bind, written]
  rfl

/-- A file holding an IV and the CBC encryption of PKCS #7 padded data under the recovered key
decrypts to that data, for any block cipher whose decryption undoes its encryption. -/
theorem decryptFile_round_trip {io : DecryptIO} {encryptedKeyB64 : String}
    {encryptedKey key iv data : List UInt8}
    (decoded : io.decodeString encryptedKeyB64 = .ok encryptedKey)
    (unwrapped : io.decryptOAEP encryptedKey = .ok key)
    (keySize : key.length = 16 ∨ key.length = 24 ∨ key.length = 32)
    (inverts : (io.aes key).Inverts) (ivBlock : iv.length = blockSize)
    (stored : io.readFile = .ok (iv ++ cbcEncrypt (io.aes key) iv (pkcs7Pad blockSize data)))
    (written : io.writeFile data = .ok ()) :
    decryptFile io encryptedKeyB64 = .ok data := by
  have padded := length_pkcs7Pad blockSize (by decide) data
  have count : (pkcs7Pad blockSize data).length / blockSize = data.length / blockSize + 1 := by
    rw [padded, Nat.mul_div_cancel_left _ (by decide)]
  have sealed : (cbcEncrypt (io.aes key) iv (pkcs7Pad blockSize data)).length =
      blockSize * (data.length / blockSize + 1) := by
    rw [cbcEncrypt, count, length_encryptBlocks _ _ ivBlock padded]
  rw [decryptFile_of_read decoded unwrapped stored,
    if_neg (by rw [List.length_append, ivBlock]; exact Nat.not_lt.mpr (Nat.le_add_right _ _)),
    List.take_left' ivBlock, List.drop_left' ivBlock]
  simp only [newCipher, if_pos keySize, fatalf, Except.mapError, bind, Except.bind]
  rw [cryptBlocks_of_whole _ ivBlock (by rw [sealed]; exact Nat.mul_mod_right _ _), sealed,
    Nat.mul_div_cancel_left _ (by decide), cbcEncrypt, count,
    decryptBlocks_encryptBlocks inverts _ ivBlock padded]
  exact writeUnpadded_pkcs7Pad written

theorem decryptFile_round_trip_xor :
    let key : List UInt8 := List.replicate 16 90
    let b : Block := ⟨fun p => xorBytes p key, fun c => xorBytes c key,
      fun _ block => length_xorBytes_block block rfl,
      fun _ block => length_xorBytes_block block rfl⟩
    let iv : List UInt8 := List.replicate 16 7
    let io : DecryptIO := ⟨fun _ => .ok [1], fun _ => .ok key,
      .ok (iv ++ cbcEncrypt b iv (pkcs7Pad blockSize [104, 105])), fun _ => b, fun _ => .ok ()⟩
    io.decodeString "AQ==" = .ok [1] ∧ io.decryptOAEP [1] = .ok key ∧
      (key.length = 16 ∨ key.length = 24 ∨ key.length = 32) ∧ (io.aes key).Inverts ∧
      iv.length = blockSize ∧
      io.readFile = .ok (iv ++ cbcEncrypt (io.aes key) iv (pkcs7Pad blockSize [104, 105])) ∧
      io.writeFile [104, 105] = .ok () ∧ decryptFile io "AQ==" = .ok [104, 105] := by
  intro key b iv io
  have inverts : (io.aes key).Inverts := fun _ block => xorBytes_xorBytes (by rw [block]; rfl)
  exact ⟨rfl, rfl, .inl rfl, inverts, rfl, rfl, rfl,
    @decryptFile_round_trip io "AQ==" [1] key iv [104, 105] rfl rfl (.inl rfl) inverts rfl rfl
      rfl⟩

/-! ## When `DecryptFile` panics -/

/-- Once it has the key and the file, `DecryptFile` panics exactly when the file is shorter
than a block, or when AES takes the key's size and the file is not two or more whole blocks; a
key of another size ends any file of a block or more in `glog.Fatalf`. -/
theorem decryptFile_panics_iff {io : DecryptIO} {encryptedKeyB64 : String}
    {encryptedKey key file : List UInt8}
    (decoded : io.decodeString encryptedKeyB64 = .ok encryptedKey)
    (unwrapped : io.decryptOAEP encryptedKey = .ok key) (read : io.readFile = .ok file) :
    ((∃ p, decryptFile io encryptedKeyB64 = .error (.panic p)) ↔
      file.length < blockSize ∨ ((key.length = 16 ∨ key.length = 24 ∨ key.length = 32) ∧
        ¬(2 * blockSize ≤ file.length ∧ file.length % blockSize = 0))) ∧
    (blockSize ≤ file.length → ¬(key.length = 16 ∨ key.length = 24 ∨ key.length = 32) →
      decryptFile io encryptedKeyB64 = .error (.fatal
        ("Error creating AES cipher: crypto/aes: invalid key size " ++ toString key.length))) := by
  rw [decryptFile_of_read decoded unwrapped read]
  refine ⟨?_, fun long keySize => ?_⟩
  · by_cases short : file.length < blockSize
    · rw [if_pos short]
      exact ⟨fun _ => .inl short, fun _ => ⟨_, rfl⟩⟩
    rw [if_neg short, or_iff_right short]
    by_cases keySize : key.length = 16 ∨ key.length = 24 ∨ key.length = 32
    · have ivBlock : (file.take blockSize).length = blockSize := by
        rw [List.length_take]; exact min_eq_left (Nat.le_of_not_lt short)
      simp only [newCipher, if_pos keySize, fatalf, Except.mapError, bind, Except.bind, true_and]
      by_cases whole : (file.drop blockSize).length % blockSize = 0
      · have plaintext := length_decryptBlocks (io.aes key) _ ivBlock
          (Nat.mul_div_cancel' (Nat.dvd_of_mod_eq_zero whole)).symm
        rw [cryptBlocks_of_whole _ ivBlock whole, writeUnpadded_panics_iff, ← List.length_eq_zero,
          plaintext, Nat.mul_div_cancel' (Nat.dvd_of_mod_eq_zero whole)]
        simp only [List.length_drop, blockSize] at whole short ⊢
        omega
      · rw [cryptBlocks, if_neg (not_not.mpr ivBlock), if_pos whole]
        refine ⟨fun _ => ?_, fun _ => ⟨_, rfl⟩⟩
        simp only [List.length_drop, blockSize] at whole short ⊢
        omega
    · simp only [newCipher, if_neg keySize, fatalf, Except.mapError, bind, Except.bind]
      exact ⟨fun ⟨_, panics⟩ => (by cases panics), fun held => absurd held.1 keySize⟩
  · rw [if_neg (Nat.not_lt.mpr long)]
    simp only [newCipher, if_neg keySize, fatalf, Except.mapError, bind, Except.bind,
      ← String.append_assoc]
    rfl

theorem decryptFile_panics_iff_lone_iv :
    let b : Block := ⟨id, id, fun _ block => block, fun _ block => block⟩
    let io : DecryptIO := ⟨fun _ => .ok [1], fun _ => .ok (List.replicate 16 90),
      .ok (List.replicate 16 7), fun _ => b, fun _ => .ok ()⟩
    let io' : DecryptIO := { io with decryptOAEP := fun _ => .ok [90, 90, 90, 90, 90] }
    io.decodeString "AQ==" = .ok [1] ∧ io.decryptOAEP [1] = .ok (List.replicate 16 90) ∧
      io.readFile = .ok (List.replicate 16 7) ∧
      ((∃ p, decryptFile io "AQ==" = .error (.panic p)) ↔
        (List.replicate 16 7).length < blockSize ∨
          (((List.replicate 16 90).length = 16 ∨ (List.replicate 16 90).length = 24 ∨
            (List.replicate 16 90).length = 32) ∧
          ¬(2 * blockSize ≤ (List.replicate 16 7).length ∧
            (List.replicate 16 7).length % blockSize = 0))) ∧
      io'.decryptOAEP [1] = .ok [90, 90, 90, 90, 90] ∧
      blockSize ≤ (List.replicate 16 7).length ∧
      ¬([90, 90, 90, 90, 90].length = 16 ∨ [90, 90, 90, 90, 90].length = 24 ∨
        [90, 90, 90, 90, 90].length = 32) ∧
      decryptFile io' "AQ==" = .error (.fatal
        ("Error creating AES cipher: crypto/aes: invalid key size " ++ toString 5)) := by
  intro b io io'
  have long : blockSize ≤ (List.replicate 16 7).length := by decide
  have keySize : ¬([90, 90, 90, 90, 90].length = 16 ∨ [90, 90, 90, 90, 90].length = 24 ∨
      [90, 90, 90, 90, 90].length = 32) := by decide
  exact ⟨rfl, rfl, rfl, (@decryptFile_panics_iff io "AQ==" [1] _ _ rfl rfl rfl).1, rfl, long,
    keySize, (@decryptFile_panics_iff io' "AQ==" [1] _ _ rfl rfl rfl).2 long keySize⟩

end DmsApi.Crypto
