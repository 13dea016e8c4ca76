import MinaMultiSig.Tx.EnvelopeReading

/-!
# Memos from texts

`set_memo_str` of `mina-tx/src/transactions/legacy_tx.rs` measures a text in
bytes and fills it up by characters. For ASCII texts of at most 32 bytes the
memo is the text with zeros behind it, and it is read as the text again; for
other short texts the copy panics.
-/

namespace MinaMultiSig
namespace Tx

section Ascii

/-- Every character of the text is an ASCII character. -/
def IsAscii (text : String) : Prop :=
  ∀ char ∈ text.toList, char.toNat < 128

instance (text : String) : Decidable (IsAscii text) :=
  inferInstanceAs (Decidable (∀ char ∈ text.toList, _))

theorem utf8Size_eq_one_iff (char : Char) :
    char.utf8Size = 1 ↔ char.toNat < 128 := by
  rw [Char.utf8Size_eq_one_iff, UInt32.le_iff_toNat_le]
  exact Nat.lt_succ_iff.symm

/-- An ASCII text has a byte for each character. -/
theorem asBytes_of_isAscii
    {text : String}
    (ascii : IsAscii text) :
    asBytes text = text.toList.map fun char => UInt8.ofNat char.toNat := by
  have encoded : ∀ char ∈ text.toList,
      String.utf8EncodeChar char = [UInt8.ofNat char.toNat] := by
    intro char member
    exact String.utf8EncodeChar_eq_singleton
      ((utf8Size_eq_one_iff char).mpr (ascii char member))
  rw [asBytes_eq_flatMap, List.flatMap_congr encoded, List.map_eq_flatMap]

/-- Only ASCII texts have as many bytes as characters. -/
theorem length_lt_utf8ByteSize_iff (text : String) :
    text.length < text.utf8ByteSize ↔ ¬IsAscii text := by
  rw [utf8ByteSize_eq_totalSize, ← String.length_toList]
  unfold IsAscii
  generalize text.toList = list
  induction list with
  | nil => simp [FixedWidth.totalSize]
  | cons head tail ih =>
      have more := FixedWidth.length_le_totalSize Char.utf8Size_pos tail
      have positive := head.utf8Size_pos
      rw [List.forall_mem_cons, not_and_or, ← ih, ← utf8Size_eq_one_iff]
      simp only [FixedWidth.totalSize, List.map_cons, List.sum_cons,
        List.length_cons] at more ⊢
      omega

/-- Bytes below 128 are the bytes of an ASCII text. -/
theorem exists_isAscii_of_bytes
    {bytes : List UInt8}
    (small : ∀ byte ∈ bytes, byte < 128) :
    ∃ text, IsAscii text ∧ asBytes text = bytes := by
  have codes : ∀ byte ∈ bytes, (Char.ofNat byte.toNat).toNat = byte.toNat :=
    fun byte _ => TextForms.toNat_ofNat_byte byte
  have ascii : IsAscii
      (String.ofList (bytes.map fun byte => Char.ofNat byte.toNat)) := by
    intro char member
    rw [String.toList_ofList] at member
    obtain ⟨byte, inBytes, rfl⟩ := List.mem_map.mp member
    rw [codes byte inBytes]
    exact small byte inBytes
  refine ⟨_, ascii, ?_⟩
  rw [asBytes_of_isAscii ascii, String.toList_ofList, List.map_map]
  conv_rhs => rw [← List.map_id bytes]
  apply List.map_congr_left
  intro byte inBytes
  rw [Function.comp_apply, codes byte inBytes, UInt8.ofNat_toNat]
  rfl

/-- A text is an ASCII text if its bytes are below 128. -/
theorem isAscii_iff_bytes (text : String) :
    IsAscii text ↔ ∀ byte ∈ asBytes text, byte < 128 := by
  constructor
  · intro ascii byte member
    rw [asBytes_of_isAscii ascii] at member
    obtain ⟨char, inText, rfl⟩ := List.mem_map.mp member
    have below := ascii char inText
    rw [UInt8.lt_iff_toNat_lt, UInt8.toNat_ofNat']
    exact (Nat.mod_le _ _).trans_lt below
  · intro small
    obtain ⟨other, ascii, bytes⟩ := exists_isAscii_of_bytes small
    rwa [asBytes_inj bytes] at ascii

end Ascii

section Setting

/-- A short text makes the memo overrun if it is no ASCII text. -/
theorem memoOverruns_iff (memo : String) :
    MemoOverruns memo ↔ memo.utf8ByteSize ≤ 32 ∧ ¬IsAscii memo := by
  unfold MemoOverruns
  rw [length_lt_utf8ByteSize_iff]

/-- The memo is the text, with a header in front and zeros behind, and it is the
only field that is set. -/
structure MemoSet
    (tx result : LegacyTransaction)
    (memo : String) : Prop where
  text : result.getMemoString = .ok memo
  bytes : result.memo.toList = 1 :: UInt8.ofNat memo.utf8ByteSize ::
    (asBytes memo ++ List.replicate (32 - memo.utf8ByteSize) 0)
  others : result = { tx with memo := result.memo }

/-- Zero characters are zero bytes. -/
theorem asBytes_append_zeros
    (text : String)
    (count : Nat) :
    asBytes (text ++ String.ofList (List.replicate count (Char.ofNat 0))) =
      asBytes text ++ List.replicate count 0 := by
  have zero : String.utf8EncodeChar (Char.ofNat 0) = [0] := by
    decide
  rw [asBytes_eq_flatMap, String.toList_append, List.flatMap_append,
    ← asBytes_eq_flatMap, String.toList_ofList]
  simp [List.flatMap_replicate, zero]

namespace LegacyTransaction

/-- A short ASCII text is set as the memo. -/
theorem exists_setMemoStr
    (tx : LegacyTransaction)
    {memo : String}
    (short : memo.utf8ByteSize ≤ 32)
    (ascii : IsAscii memo) :
    ∃ result, tx.setMemoStr memo = .ok result ∧ MemoSet tx result memo := by
  have bytes : memo.length = memo.utf8ByteSize := by
    have atLeast := (length_lt_utf8ByteSize_iff memo).not.mpr
      (not_not.mpr ascii)
    have atMost := length_le_utf8ByteSize memo
    rw [String.length_toList] at atMost
    omega
  have padded : asBytes (memo ++ String.ofList
      (List.replicate (32 - memo.length) (Char.ofNat 0))) =
        asBytes memo ++ List.replicate (32 - memo.utf8ByteSize) 0 := by
    rw [asBytes_append_zeros, bytes]
  have full : (asBytes (memo ++ String.ofList
      (List.replicate (32 - memo.length) (Char.ofNat 0)))).length = 32 := by
    rw [padded, List.length_append, length_asBytes, List.length_replicate]
    omega
  have notLong : ¬(memo.utf8ByteSize > memoBytes - memoHeaderBytes ∨
      memo.utf8ByteSize > 255) := by
    simp only [memoBytes, memoHeaderBytes]
    omega
  have set : tx.setMemoStr memo = .ok
      { tx with memo := memoOf (UInt8.ofNat memo.utf8ByteSize) _ full } := by
    unfold setMemoStr
    rw [if_neg notLong]
    exact dif_pos full
  obtain ⟨_, -, text⟩ := setMemoStr_eq_ok set
  exact ⟨_, set, text, by rw [toList_memoOf, padded], rfl⟩

/-- A memo is refused exactly if its text has more than 32 bytes. -/
theorem setMemoStr_eq_invalidMemo_iff
    (tx : LegacyTransaction)
    (memo : String) :
    (∃ message, tx.setMemoStr memo = .error (.error (.invalidMemo message))) ↔
      32 < memo.utf8ByteSize := by
  have limit : (memo.utf8ByteSize > memoBytes - memoHeaderBytes ∨
      memo.utf8ByteSize > 255) ↔ 32 < memo.utf8ByteSize := by
    simp only [memoBytes, memoHeaderBytes]
    omega
  by_cases long : 32 < memo.utf8ByteSize
  · unfold setMemoStr
    rw [if_pos (limit.mpr long)]
    exact iff_of_true ⟨_, rfl⟩ long
  refine iff_of_false ?_ long
  rintro ⟨message, refused⟩
  by_cases ascii : IsAscii memo
  · obtain ⟨result, set, -⟩ := exists_setMemoStr tx (not_lt.mp long) ascii
    rw [set] at refused
    exact absurd refused (by simp)
  · have panics := (setMemoStr_eq_panic_iff tx memo).mpr
      ((memoOverruns_iff memo).mpr ⟨not_lt.mp long, ascii⟩)
    rw [panics] at refused
    exact absurd refused (by simp)

/-- Only too long texts are refused, and all the others are set as the memo. -/
def SetsMemo (tx : LegacyTransaction) (memo : String) : Prop :=
  ((∃ message,
      tx.setMemoStr memo = .error (.error (.invalidMemo message))) ↔
    32 < memo.utf8ByteSize) ∧
  (memo.utf8ByteSize ≤ 32 →
    ∃ result, tx.setMemoStr memo = .ok result ∧ MemoSet tx result memo)

/-- A memo is set as it should be exactly if a text of at most 32 bytes is an
ASCII text, and a document is decoded without a panic exactly if it is not
complete with a short memo that is no ASCII text. -/
theorem setMemoStr_exact_iff (signer : MinaSigner) :
    (∀ tx memo, SetsMemo tx memo ↔
      (memo.utf8ByteSize ≤ 32 → IsAscii memo)) ∧
    ∀ origin json,
      (codec signer).deserialize origin json ≠ .error .panic ↔
        ¬∃ data, TransactionData.codec.deserialize origin json = .ok data ∧
          data.Complete signer ∧ data.memo.utf8ByteSize ≤ 32 ∧
            ¬IsAscii data.memo := by
  constructor
  · intro tx memo
    constructor
    · intro sets short
      by_contra notAscii
      have panics := (setMemoStr_eq_panic_iff tx memo).mpr
        ((memoOverruns_iff memo).mpr ⟨short, notAscii⟩)
      obtain ⟨result, set, -⟩ := sets.2 short
      rw [panics] at set
      exact absurd set (by simp)
    · intro ascii
      exact ⟨setMemoStr_eq_invalidMemo_iff tx memo, fun short =>
        exists_setMemoStr tx short (ascii short)⟩
  · intro origin json
    simp only [Ne, codec_eq_panic_iff, Overruns, memoOverruns_iff]

/-- A letter of two bytes is filled up to 33 bytes. -/
theorem setMemoStr_umlaut_panics :
    "ü".utf8ByteSize = 2 ∧
    setMemoStr (@newPayment TextForms.referenceSigner () () 1 1 0) "ü" =
      .error .panic := by
  decide

end LegacyTransaction

end Setting

end Tx
end MinaMultiSig
