import MinaMultiSig.Library.Outcome
import MinaMultiSig.Tx.Bs58

/-!
# Base58check texts

The checksum and the decoder of `mina-tx/src/base58.rs` with every index and
every range checked against the length of the bytes. None of them is out of
range, and the decoder is the inverse of the encoder: it accepts the texts that
the encoder makes and no others.
-/

namespace MinaMultiSig
namespace Tx

section Checked

/-- `&bytes[start..stop]`; a range outside of the bytes panics. -/
def rangeOf
    (bytes : List UInt8)
    (start stop : Nat) : Outcome Base58Error (List UInt8) :=
  if start ≤ stop ∧ stop ≤ bytes.length then
    .ok ((bytes.drop start).take (stop - start))
  else .error .panic

/-- A difference of two `usize`; a negative one panics. -/
def subUsize (first second : Nat) : Outcome Base58Error Nat :=
  if second ≤ first then .ok (first - second) else .error .panic

/-- `copy_from_slice` into four bytes; another length panics. -/
def copyFour (bytes : List UInt8) : Outcome Base58Error (List UInt8) :=
  if bytes.length = 4 then .ok bytes else .error .panic

variable (base58 : Base58)

/-- `compute_checksum` with its range checked. -/
def checkedChecksum
    (input : List UInt8) : Outcome Base58Error (List UInt8) := do
  let hash1 := base58.digest input
  let hash2 := base58.digest hash1
  copyFour (← rangeOf hash2 0 4)

/-- `from_base58_check` with its index, ranges and differences checked. -/
def checkedFromBase58Check
    (input : String)
    (expectedVersionByte : UInt8) : Outcome Base58Error (List UInt8) :=
  match base58.decode input with
  | none => .error (.error .invalidBase58)
  | some bytes =>
      if bytes.length < 5 then .error (.error .tooShort)
      else do
        let versionByte ← Outcome.ofOption bytes[0]?
        if versionByte ≠ expectedVersionByte then
          throw (.error (.invalidVersionByte expectedVersionByte versionByte))
        else
          let payloadWithVersion ← rangeOf bytes 0 (← subUsize bytes.length 4)
          let providedChecksum ←
            rangeOf bytes (← subUsize bytes.length 4) bytes.length
          let computedChecksum ← checkedChecksum base58 payloadWithVersion
          if providedChecksum ≠ computedChecksum then
            throw (.error .invalidChecksum)
          else rangeOf bytes 1 (← subUsize bytes.length 4)

end Checked

section Ranges

variable {bytes : List UInt8}

theorem rangeOf_eq_ok
    {start stop : Nat}
    (ordered : start ≤ stop)
    (inside : stop ≤ bytes.length) :
    rangeOf bytes start stop = .ok ((bytes.drop start).take (stop - start)) :=
  if_pos ⟨ordered, inside⟩

theorem rangeOf_front
    {stop : Nat}
    (inside : stop ≤ bytes.length) :
    rangeOf bytes 0 stop = .ok (bytes.take stop) := by
  rw [rangeOf_eq_ok (Nat.zero_le stop) inside, List.drop_zero, Nat.sub_zero]

theorem rangeOf_end
    {start : Nat}
    (inside : start ≤ bytes.length) :
    rangeOf bytes start bytes.length = .ok (bytes.drop start) := by
  rw [rangeOf_eq_ok inside (Nat.le_refl _),
    List.take_of_length_le (by rw [List.length_drop])]

theorem rangeOf_behindFirst
    {stop : Nat}
    (ordered : 1 ≤ stop)
    (inside : stop ≤ bytes.length) :
    rangeOf bytes 1 stop = .ok (bytes.take stop).tail := by
  rw [rangeOf_eq_ok ordered inside, ← List.drop_one, List.drop_take]

theorem subUsize_eq_ok
    {first second : Nat}
    (ordered : second ≤ first) :
    subUsize first second = .ok (first - second) :=
  if_pos ordered

variable {base58 : Base58} (lawful : base58.Lawful)

include lawful

theorem length_computeChecksum (input : List UInt8) :
    (computeChecksum base58 input).length = 4 := by
  rw [computeChecksum, List.length_take, lawful.length_digest]
  rfl

theorem checkedChecksum_eq (input : List UInt8) :
    checkedChecksum base58 input = .ok (computeChecksum base58 input) := by
  have range : rangeOf (base58.digest (base58.digest input)) 0 4 =
      .ok (computeChecksum base58 input) := by
    rw [rangeOf_eq_ok (Nat.zero_le 4) (by rw [lawful.length_digest]; decide)]
    rfl
  apply Outcome.bind_eq_ok.mpr
  exact ⟨_, range, if_pos (length_computeChecksum lawful input)⟩

/-- No index and no range of the decoder is outside of the bytes. -/
theorem checkedFromBase58Check_eq
    (input : String)
    (expectedVersionByte : UInt8) :
    checkedFromBase58Check base58 input expectedVersionByte =
      Outcome.ofExcept
        (fromBase58Check base58 input expectedVersionByte) := by
  unfold checkedFromBase58Check fromBase58Check
  cases base58.decode input with
  | none => rfl
  | some bytes =>
      by_cases short : bytes.length < 5
      · simp only [if_pos short, Outcome.ofExcept]
      obtain ⟨versionByte, rest, rfl⟩ :=
        List.exists_cons_of_length_pos (show 0 < bytes.length by omega)
      have read : (Outcome.ofOption (versionByte :: rest)[0]? :
          Outcome Base58Error UInt8) = .ok versionByte := rfl
      simp only [if_neg short, read, Outcome.ok_bind]
      by_cases other : versionByte ≠ expectedVersionByte
      · have headOther : (versionByte :: rest).headD 0 ≠ expectedVersionByte :=
          other
        rw [if_pos other, if_pos headOther]
        rfl
      have head : ¬(versionByte :: rest).headD 0 ≠ expectedVersionByte := other
      have four : 4 ≤ (versionByte :: rest).length := by omega
      have version : 1 ≤ (versionByte :: rest).length - 4 := by omega
      simp only [if_neg other, if_neg head, subUsize_eq_ok four,
        rangeOf_front (Nat.sub_le _ _), rangeOf_end (Nat.sub_le _ _),
        rangeOf_behindFirst version (Nat.sub_le _ _), checkedChecksum_eq lawful,
        Outcome.ok_bind]
      split
      · rfl
      · rfl

end Ranges

section Inverse

variable {base58 : Base58}

/-- In five bytes or more there is a byte in front of the checksum. -/
theorem take_eq_version_payload
    {bytes : List UInt8}
    (enough : 5 ≤ bytes.length) :
    bytes.take (bytes.length - 4) =
      bytes.headD 0 :: (bytes.take (bytes.length - 4)).tail := by
  obtain ⟨versionByte, rest, rfl⟩ :=
    List.exists_cons_of_length_pos (show 0 < bytes.length by omega)
  have behind : (versionByte :: rest).length - 4 = rest.length - 4 + 1 := by
    rw [List.length_cons] at enough ⊢
    omega
  rw [behind, List.take_succ_cons]
  rfl

/-- A text is decoded to a payload exactly if it is the payload's encoding. -/
theorem fromBase58Check_eq_ok_iff
    (lawful : base58.Lawful)
    {text : String}
    {versionByte : UInt8}
    {payload : List UInt8} :
    fromBase58Check base58 text versionByte = .ok payload ↔
      text = toBase58Check base58 payload versionByte := by
  constructor
  · intro decoded
    unfold fromBase58Check at decoded
    split at decoded
    next => exact absurd decoded (by simp)
    next bytes isBytes =>
      split at decoded
      next => exact absurd decoded (by simp)
      next enough =>
      dsimp only at decoded
      split at decoded
      next => exact absurd decoded (by simp)
      next version =>
      split at decoded
      next => exact absurd decoded (by simp)
      next checksum =>
        have parts := take_eq_version_payload (Nat.not_lt.mp enough)
        rw [Decidable.not_not.mp version, Except.ok.inj decoded] at parts
        have isChecksum := Decidable.not_not.mp checksum
        rw [parts] at isChecksum
        calc text = base58.encode bytes :=
              (lawful.decode_eq_some_iff text bytes).mp isBytes
          _ = base58.encode (bytes.take (bytes.length - 4) ++
                bytes.drop (bytes.length - 4)) := by
              rw [List.take_append_drop]
          _ = toBase58Check base58 payload versionByte := by
              rw [parts, isChecksum]
              rfl
  · rintro rfl
    exact fromBase58Check_toBase58Check lawful payload versionByte

/-- Payloads are told apart by their texts. -/
theorem toBase58Check_inj
    (lawful : base58.Lawful)
    {versionByte : UInt8}
    {first second : List UInt8}
    (same : toBase58Check base58 first versionByte =
      toBase58Check base58 second versionByte) :
    first = second := by
  have decoded := (fromBase58Check_eq_ok_iff lawful).mpr same
  rw [fromBase58Check_toBase58Check lawful] at decoded
  exact Except.ok.inj decoded

/-- The decoder is the inverse of the encoder: a text gives a payload exactly if
it is the text of the payload, and all other texts give an error. -/
theorem checkedFromBase58Check_inverse
    (base58 : Base58)
    (lawful : base58.Lawful)
    (text : String)
    (versionByte : UInt8) :
    (∀ payload,
      checkedFromBase58Check base58 text versionByte = .ok payload ↔
        text = toBase58Check base58 payload versionByte) ∧
      ((∀ payload, text ≠ toBase58Check base58 payload versionByte) →
        ∃ reason, checkedFromBase58Check base58 text versionByte =
          .error (.error reason)) := by
  rw [checkedFromBase58Check_eq lawful]
  constructor
  · intro payload
    rw [Outcome.ofExcept_eq_ok, fromBase58Check_eq_ok_iff lawful]
  · intro other
    cases decoded : fromBase58Check base58 text versionByte with
    | ok payload =>
        exact absurd ((fromBase58Check_eq_ok_iff lawful).mp decoded)
          (other payload)
    | error reason => exact ⟨reason, rfl⟩

/-- A memo, and a text that is too short. -/
theorem checkedFromBase58Check_inverse_memo :
    checkedFromBase58Check Base58.standard
        "72TwU3VwfWQ4a1ncZjWruEJqrUvPP5wnLrZmaauUGtwtv" memoVersionByte =
        .ok (asBytes "Hello from FROST x Rasp Devs") ∧
      ∃ reason, checkedFromBase58Check Base58.standard "abc" memoVersionByte =
        .error (.error reason) := by
  obtain ⟨decodes, -⟩ := checkedFromBase58Check_inverse Base58.standard
    Base58.standard_lawful "72TwU3VwfWQ4a1ncZjWruEJqrUvPP5wnLrZmaauUGtwtv"
    memoVersionByte
  obtain ⟨accepts, refuses⟩ := checkedFromBase58Check_inverse Base58.standard
    Base58.standard_lawful "abc" memoVersionByte
  have short : checkedFromBase58Check Base58.standard "abc" memoVersionByte =
      .error (.error .tooShort) := by
    decide +kernel
  refine ⟨(decodes _).mpr (by decide +kernel), refuses ?_⟩
  intro payload same
  have decoded := (accepts payload).mpr same
  rw [short] at decoded
  exact absurd decoded (by simp)

end Inverse

end Tx
end MinaMultiSig
