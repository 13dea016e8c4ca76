import MinaMultiSig.Frost.BluePallas
import MinaMultiSig.Tx.MessageFormat

/-!
# The bytes a message is decoded from

Every index and slice expression of `PallasMessage::deserialize` with its check
against the length of the input. All of them are covered by an earlier length
check but one: the legacy flag behind the name of a custom network is read
before the length of the input is compared with the header.
-/

namespace MinaMultiSig

namespace Tx
namespace PallasMessage

section Checked

/-- `&input[start..stop]`; a range outside of the input panics. -/
def sliceAt (input : List UInt8) (start stop : Nat) :
    MinaTxResult (List UInt8) :=
  if start ≤ stop ∧ stop ≤ input.length then
    .ok ((input.drop start).take (stop - start))
  else .error .panic

/-- A sum of two `usize` of 64 bits; an overflow panics. -/
def addUsize (first second : Nat) : MinaTxResult Nat :=
  if first + second < 2 ^ 64 then .ok (first + second) else .error .panic

/-- `deserialize_network_id` with its slice checked. -/
def checkedNetworkId
    (input : List UInt8) : MinaTxResult (NetworkId × Nat) := do
  match ← byteAt input 1 with
  | 0 => return (.testnet, 2)
  | 1 => return (.mainnet, 2)
  | 2 =>
      let nameLen := (← byteAt input 2).toNat
      if nameLen > maxPrefixLength then
        throw (.error (.deSerializationError
          "Custom network ID exceeds maximum length"))
      if input.length < 3 + nameLen then
        throw (.error (.deSerializationError
          "PallasMessage too short for custom network ID name"))
      match fromUtf8 (← sliceAt input 3 (3 + nameLen)) with
      | .ok name => return (.custom name, 3 + nameLen)
      | .error _ =>
          throw (.error (.deSerializationError
            "Invalid UTF-8 in custom network ID"))
  | _ =>
      throw (.error (.deSerializationError
        "Invalid network id in PallasMessage"))

/-- `PallasMessage::deserialize` with all its indices, slices and the sum of the
lengths checked. -/
def checkedDeserialize
    (codec : ROInputCodec)
    (input : List UInt8) : MinaTxResult PallasMessage := do
  if input.length < 3 then
    throw tooShort
  if (← byteAt input 0) ≠ pallasMessageVersion then
    throw (.error (.deSerializationError "Unsupported PallasMessage version"))
  let (networkId, offset) ← checkedNetworkId input
  let isLegacy ← deserializeIsLegacy input offset
  let headerLen := offset + 1 + 4
  if input.length < headerLen then
    throw tooShort
  let roiStart := offset + 1
  let roiLen := littleEndian
    [← byteAt input roiStart, ← byteAt input (roiStart + 1),
      ← byteAt input (roiStart + 2), ← byteAt input (roiStart + 3)]
  let dataStart := roiStart + 4
  if input.length ≠ (← addUsize dataStart roiLen) then
    throw (.error (.deSerializationError "Malformed PallasMessage length"))
  match codec.deserialize (← sliceAt input dataStart input.length) with
  | some roi =>
      return { input := roi, networkId := networkId, isLegacy := isLegacy }
  | none =>
      throw (.error (.deSerializationError "Failed to deserialize ROInput"))

end Checked

section Bounds

variable {input : List UInt8} {offset : Nat}

theorem byteAt_eq_ok (inside : offset < input.length) :
    byteAt input offset = .ok input[offset] := by
  rw [byteAt, List.getElem?_eq_getElem inside]
  rfl

/-- An index panics outside of the input. -/
theorem byteAt_eq_panic_iff :
    byteAt input offset = .error .panic ↔ input.length ≤ offset := by
  by_cases inside : offset < input.length
  · rw [byteAt_eq_ok inside]
    exact iff_of_false (by simp) (Nat.not_le.mpr inside)
  · rw [byteAt, List.getElem?_eq_none (Nat.not_lt.mp inside)]
    exact iff_of_true rfl (Nat.not_lt.mp inside)

theorem sliceAt_eq_ok
    {start stop : Nat}
    (ordered : start ≤ stop)
    (inside : stop ≤ input.length) :
    sliceAt input start stop =
      .ok ((input.drop start).take (stop - start)) :=
  if_pos ⟨ordered, inside⟩

/-- The slice of the name is covered by the check of the length before it. -/
theorem checkedNetworkId_eq (input : List UInt8) :
    checkedNetworkId input = deserializeNetworkId input := by
  unfold checkedNetworkId deserializeNetworkId
  congr 1
  funext tag
  split
  · rfl
  · rfl
  · congr 1
    funext nameLen
    by_cases long : nameLen.toNat > maxPrefixLength
    · simp only [if_pos long]
      rfl
    by_cases short : input.length < 3 + nameLen.toNat
    · simp only [if_neg long, if_pos short]
      rfl
    have slice := @sliceAt_eq_ok input 3 (3 + nameLen.toNat)
      (Nat.le_add_right _ _) (Nat.not_lt.mp short)
    rw [Nat.add_sub_cancel_left] at slice
    simp only [if_neg long, if_neg short, slice]
    rfl
  · simp

/-- The network is read without a panic from three bytes or more. -/
theorem deserializeNetworkId_ne_panic
    (enough : 3 ≤ input.length) :
    deserializeNetworkId input ≠ .error .panic := by
  intro panics
  obtain ⟨tag, -, panics⟩ := Outcome.panic_behind
    (byteAt_eq_panic_iff.not.mpr (by omega)) panics
  split at panics
  · exact absurd panics (by simp [pure, Except.pure])
  · exact absurd panics (by simp [pure, Except.pure])
  · obtain ⟨nameLen, -, panics⟩ := Outcome.panic_behind
      (byteAt_eq_panic_iff.not.mpr (by omega)) panics
    dsimp only at panics
    split at panics
    · exact absurd panics (Outcome.throw_bind_ne_panic _ _)
    split at panics
    · exact absurd panics (Outcome.throw_bind_ne_panic _ _)
    split at panics
    · exact absurd panics (by simp [pure, Except.pure])
    · exact absurd panics (Outcome.throw_ne_panic _)
  · exact absurd panics (Outcome.throw_ne_panic _)

theorem deserializeIsLegacy_eq_panic_iff :
    deserializeIsLegacy input offset = .error .panic ↔
      input.length ≤ offset := by
  unfold deserializeIsLegacy
  rw [Outcome.bind_eq_panic, byteAt_eq_panic_iff]
  apply or_iff_left
  rintro ⟨flag, -, panics⟩
  split at panics
  · exact absurd panics (by simp [pure, Except.pure])
  · exact absurd panics (by simp [pure, Except.pure])
  · exact absurd panics (Outcome.throw_ne_panic _)

/-- Four bytes that are indexed one by one. -/
theorem take_drop_four
    (enough : offset + 4 ≤ input.length) :
    (input.drop offset).take 4 =
      [input[offset], input[offset + 1], input[offset + 2],
        input[offset + 3]] := by
  apply List.ext_getElem
  · simp
    omega
  · intro index inside _
    have below : index < 4 := by
      simp at inside
      omega
    rw [List.getElem_take, List.getElem_drop]
    match index, below with
    | 0, _ => rfl
    | 1, _ => rfl
    | 2, _ => rfl
    | 3, _ => rfl

/-- Behind the legacy flag every index, slice and sum is covered by an earlier
check, so that checking them all again changes nothing. -/
theorem checkedDeserialize_eq
    (codec : ROInputCodec)
    (input : List UInt8) :
    checkedDeserialize codec input = deserialize codec input := by
  unfold checkedDeserialize deserialize
  rw [checkedNetworkId_eq]
  dsimp only
  split
  · rfl
  congr 1
  funext version
  split
  · rfl
  cases networkRead : deserializeNetworkId input with
  | error failure => rfl
  | ok network =>
  obtain ⟨networkId, offset⟩ := network
  obtain ⟨fits, isOffset, -⟩ :=
    networkBytes_of_deserializeNetworkId networkRead
  have near : offset ≤ 23 := by
    cases networkId with
    | testnet => simp [isOffset, networkBytes]
    | mainnet => simp [isOffset, networkBytes]
    | custom name =>
        have short : name.utf8ByteSize ≤ 20 := fits
        simp only [isOffset, networkBytes, List.length_cons, length_asBytes]
        omega
  change (deserializeIsLegacy input offset >>= fun isLegacy => _) =
    (deserializeIsLegacy input offset >>= fun isLegacy => _)
  congr 1
  funext isLegacy
  by_cases tooFew : input.length < offset + 1 + 4
  · rw [if_pos tooFew, if_pos tooFew]
    rfl
  rw [if_neg tooFew, if_neg tooFew]
  have enough : offset + 1 + 4 ≤ input.length := Nat.not_lt.mp tooFew
  rw [take_drop_four enough, byteAt_eq_ok (by omega), byteAt_eq_ok (by omega),
    byteAt_eq_ok (by omega), byteAt_eq_ok (by omega)]
  have fitsUsize : offset + 1 + 4 + littleEndian [input[offset + 1],
      input[offset + 1 + 1], input[offset + 1 + 2], input[offset + 1 + 3]] <
        2 ^ 64 := by
    have small := littleEndian_lt [input[offset + 1], input[offset + 1 + 1],
      input[offset + 1 + 2], input[offset + 1 + 3]]
    simp only [List.length_cons, List.length_nil] at small
    omega
  have rest : sliceAt input (offset + 1 + 4) input.length =
      .ok (input.drop (offset + 5)) := by
    rw [sliceAt_eq_ok enough (Nat.le_refl _), List.take_of_length_le (by simp)]
  rcases decoded : codec.deserialize (input.drop (offset + 5)) with _ | roi
  · simp only [bind, Except.bind, addUsize, if_pos fitsUsize, rest, decoded]
  · simp only [bind, Except.bind, addUsize, if_pos fitsUsize, rest, decoded]

/-- The input is a header for a custom network that ends behind its name. -/
def EndsBehindName (input : List UInt8) : Prop :=
  ∃ name : String, name.utf8ByteSize ≤ maxPrefixLength ∧
    input = pallasMessageVersion :: networkBytes (.custom name)

/-- Where the input ends behind the name, there is no legacy flag to read. -/
theorem deserialize_behindName
    (codec : ROInputCodec)
    {name : String}
    (short : name.utf8ByteSize ≤ maxPrefixLength) :
    deserialize codec (pallasMessageVersion :: networkBytes (.custom name)) =
      .error .panic := by
  have networkRead := @deserializeNetworkId_networkBytes (.custom name)
    short pallasMessageVersion []
  rw [List.append_nil] at networkRead
  have enough : ¬(pallasMessageVersion ::
      networkBytes (.custom name)).length < 3 := by
    simp only [networkBytes, List.length_cons]
    omega
  have flagPanics : deserializeIsLegacy
      (pallasMessageVersion :: networkBytes (.custom name))
      (1 + (networkBytes (.custom name)).length) = .error .panic := by
    apply deserializeIsLegacy_eq_panic_iff.mpr
    rw [List.length_cons, Nat.add_comm]
  unfold deserialize
  simp only [if_neg enough]
  refine Outcome.bind_eq_panic.mpr (Or.inr ⟨pallasMessageVersion, rfl, ?_⟩)
  simp only [ne_eq, not_true_eq_false, if_false]
  refine Outcome.bind_eq_panic.mpr (Or.inr ⟨_, networkRead, ?_⟩)
  exact Outcome.bind_eq_panic.mpr (Or.inl flagPanics)

/-- The legacy flag is read without a check of the length. -/
theorem deserialize_eq_panic_iff
    (codec : ROInputCodec)
    (input : List UInt8) :
    deserialize codec input = .error .panic ↔ EndsBehindName input := by
  constructor
  · intro panics
    unfold deserialize at panics
    dsimp only at panics
    split at panics
    · exact absurd panics (Outcome.throw_bind_ne_panic _ _)
    next enough =>
    obtain ⟨version, isVersion, panics⟩ := Outcome.panic_behind
      (byteAt_eq_panic_iff.not.mpr (by omega)) panics
    split at panics
    · exact absurd panics (Outcome.throw_bind_ne_panic _ _)
    next known =>
    obtain ⟨⟨networkId, offset⟩, networkRead, panics⟩ := Outcome.panic_behind
      (deserializeNetworkId_ne_panic (by omega)) panics
    obtain ⟨fits, isOffset, first, rest, rfl⟩ :=
      networkBytes_of_deserializeNetworkId networkRead
    rcases Outcome.bind_eq_panic.mp panics with
      flagPanics | ⟨isLegacy, -, panics⟩
    · have ended := deserializeIsLegacy_eq_panic_iff.mp flagPanics
      simp only [List.length_cons, List.length_append] at ended enough
      obtain rfl : rest = [] := by
        apply List.eq_nil_of_length_eq_zero
        omega
      obtain rfl : first = pallasMessageVersion :=
        (Except.ok.inj isVersion).trans (Decidable.not_not.mp known)
      cases networkId with
      | testnet => simp [networkBytes] at enough
      | mainnet => simp [networkBytes] at enough
      | custom name => exact ⟨name, fits, by rw [List.append_nil]⟩
    · dsimp only at panics
      split at panics
      · exact absurd panics (Outcome.throw_bind_ne_panic _ _)
      split at panics
      · exact absurd panics (Outcome.throw_bind_ne_panic _ _)
      split at panics
      · exact absurd panics (by simp [pure, Except.pure])
      · exact absurd panics (Outcome.throw_ne_panic _)
  · rintro ⟨name, short, rfl⟩
    exact deserialize_behindName codec short

end Bounds

end PallasMessage
end Tx

namespace Frost

open Tx

variable {ε F G : Type} [Field F]

/-- A challenge panics where its message is decoded with a panic. -/
theorem challenge_eq_panic_iff
    (curve : Coordinates G)
    (hasher : MinaHasher)
    (codec : ROInputCodec)
    (r verifyingKey : G)
    (message : List UInt8) :
    (challenge curve hasher codec r verifyingKey message :
        Outcome ε F) = .error .panic ↔
      PallasMessage.deserialize codec message = .error .panic := by
  unfold challenge
  rcases PallasMessage.deserialize codec message with (reason | _) | decoded
  · simp [Outcome.unwrapOr, bind, Except.bind, pure, Except.pure]
  · simp [Outcome.unwrapOr, bind, Except.bind]
  · simp [Outcome.unwrapOr, bind, Except.bind, pure, Except.pure]

/-- Every message has a challenge, unless it ends behind a name. The hasher is
one that takes domain strings of any length. -/
theorem exists_challenge_iff
    {curve : Coordinates G}
    {hasher : MinaHasher}
    {codec : ROInputCodec}
    {r verifyingKey : G}
    {message : List UInt8} :
    (∃ c, (challenge curve hasher codec r verifyingKey message :
        Outcome ε F) = .ok c) ↔
      ¬PallasMessage.EndsBehindName message := by
  rw [← PallasMessage.deserialize_eq_panic_iff codec]
  unfold challenge
  rcases PallasMessage.deserialize codec message with (reason | _) | decoded
  · simp [Outcome.unwrapOr, bind, Except.bind, pure, Except.pure]
  · simp [Outcome.unwrapOr, bind, Except.bind]
  · simp [Outcome.unwrapOr, bind, Except.bind, pure, Except.pure]

/-- Bytes are decoded within their bounds exactly if they are no header that
ends behind the name of a custom network, and the challenge of these and no
other messages panics. -/
theorem decoding_in_bounds_iff
    (curve : Coordinates G)
    (hasher : MinaHasher)
    (codec : ROInputCodec)
    (message : List UInt8) :
    (PallasMessage.checkedDeserialize codec message ≠ .error .panic ∧
      ∀ r verifyingKey : G,
        (challenge curve hasher codec r verifyingKey message :
          Outcome ε F) ≠ .error .panic) ↔
      ¬PallasMessage.EndsBehindName message := by
  rw [PallasMessage.checkedDeserialize_eq, Ne,
    PallasMessage.deserialize_eq_panic_iff]
  apply and_iff_left_of_imp
  intro inBounds r verifyingKey
  rw [Ne, challenge_eq_panic_iff, PallasMessage.deserialize_eq_panic_iff]
  exact inBounds

/-- Three bytes that announce an empty name. -/
theorem decoding_emptyName_panics :
    PallasMessage.checkedDeserialize ROInputCodec.reference [1, 2, 0] =
        .error .panic ∧
      PallasMessage.deserialize ROInputCodec.reference [1, 2, 0] =
        .error .panic := by
  decide

end Frost
end MinaMultiSig
