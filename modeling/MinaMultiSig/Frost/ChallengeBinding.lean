import MinaMultiSig.Frost.ThresholdSignature
import MinaMultiSig.Tx.LegacyBinding
import MinaMultiSig.Tx.MessageFormat
import MinaMultiSig.Tx.NetworkSeparation

/-!
# What a challenge binds

A challenge is the hash of a domain string, a mode and a list of field elements.
The bits of an input are packed behind the public key and the commitment without
their number, and the fields stand before them without theirs. So bytes that are
hashed as they are and the same bytes with zeros behind them may have the same
challenge.
-/

namespace MinaMultiSig

namespace Tx

section Padding

/-- One of two lists is the other one with copies of an element behind it. -/
def SameUpTo
    {α : Type}
    (filler : α)
    (first second : List α) : Prop :=
  ∃ count, first = second ++ List.replicate count filler ∨
    second = first ++ List.replicate count filler

/-- How many chunks some bits take. -/
def chunkCount (length size : Nat) : Nat :=
  (size + length - 1) / length

variable {length : Nat} (positive : 0 < length)
include positive

theorem le_chunkCount_mul (size : Nat) :
    size ≤ chunkCount length size * length := by
  have split := Nat.div_add_mod' (size + length - 1) length
  have below := Nat.mod_lt (size + length - 1) positive
  unfold chunkCount
  omega

theorem length_padded (bits : List Bool) :
    (padded length bits).length =
      chunkCount length bits.length * length := by
  have enough := le_chunkCount_mul positive bits.length
  unfold padded
  rw [List.length_append, List.length_replicate]
  exact Nat.add_sub_of_le enough

/-- Zeros behind the bits are not noticed within the last chunk. -/
theorem padded_append_zeros
    {bits : List Bool}
    {count : Nat}
    (sameCount : chunkCount length (bits.length + count) =
      chunkCount length bits.length) :
    padded length (bits ++ List.replicate count false) =
      padded length bits := by
  have enough := le_chunkCount_mul positive (bits.length + count)
  rw [sameCount] at enough
  unfold padded
  rw [List.length_append, List.length_replicate]
  change bits ++ List.replicate count false ++ List.replicate
      (chunkCount length (bits.length + count) * length -
        (bits.length + count)) false =
    bits ++ List.replicate
      (chunkCount length bits.length * length - bits.length) false
  rw [sameCount, List.append_assoc, ← List.replicate_add]
  apply congrArg fun zeros => bits ++ List.replicate zeros false
  omega

/-- The packed bits determine the number of chunks, and the bits up to zeros
behind them. -/
theorem padded_eq_iff (first second : List Bool) :
    padded length first = padded length second ↔
      chunkCount length first.length = chunkCount length second.length ∧
        SameUpTo false first second := by
  constructor
  · intro same
    have lengths := congrArg List.length same
    rw [length_padded positive, length_padded positive] at lengths
    refine ⟨Nat.eq_of_mul_eq_mul_right positive lengths, ?_⟩
    unfold padded at same
    rcases List.append_eq_append_iff.mp same with
      ⟨more, isMore, zeros⟩ | ⟨more, isMore, zeros⟩
    · have allZeros := (List.append_eq_replicate_iff.mp zeros.symm).2.1
      rw [allZeros] at isMore
      exact ⟨more.length, Or.inr isMore⟩
    · have allZeros := (List.append_eq_replicate_iff.mp zeros.symm).2.1
      rw [allZeros] at isMore
      exact ⟨more.length, Or.inl isMore⟩
  · rintro ⟨sameCount, count, rfl | rfl⟩
    · rw [List.length_append, List.length_replicate] at sameCount
      exact padded_append_zeros positive sameCount
    · rw [List.length_append, List.length_replicate] at sameCount
      exact (padded_append_zeros positive sameCount.symm).symm

end Padding

section Bytes

theorem bitsOfBytes_append (first second : List UInt8) :
    bitsOfBytes (first ++ second) =
      bitsOfBytes first ++ bitsOfBytes second :=
  List.flatMap_append

theorem bitsOfBytes_zeros (count : Nat) :
    bitsOfBytes (List.replicate count 0) =
      List.replicate (count * 8) false := by
  induction count with
  | zero => rfl
  | succ count ih =>
      rw [List.replicate_succ, Nat.succ_mul, Nat.add_comm, List.replicate_add,
        ← ih]
      rfl

/-- Zero bits behind the bits of bytes are zero bytes. -/
theorem eq_append_zeros_of_bitsOfBytes
    {first second : List UInt8}
    {count : Nat}
    (same : bitsOfBytes first =
      bitsOfBytes second ++ List.replicate count false) :
    first = second ++ List.replicate (first.length - second.length) 0 := by
  have lengths := congrArg List.length same
  rw [List.length_append, List.length_replicate, length_bitsOfBytes,
    length_bitsOfBytes] at lengths
  have whole : count = (first.length - second.length) * 8 := by
    omega
  apply bitsOfBytes_inj
  · rw [List.length_append, List.length_replicate]
    omega
  · rw [bitsOfBytes_append, bitsOfBytes_zeros, same, whole]

theorem sameUpTo_bitsOfBytes (first second : List UInt8) :
    SameUpTo false (bitsOfBytes first) (bitsOfBytes second) ↔
      SameUpTo 0 first second := by
  constructor
  · rintro ⟨count, same | same⟩
    · exact ⟨_, Or.inl (eq_append_zeros_of_bitsOfBytes same)⟩
    · exact ⟨_, Or.inr (eq_append_zeros_of_bitsOfBytes same)⟩
  · rintro ⟨count, rfl | rfl⟩
    · refine ⟨count * 8, Or.inl ?_⟩
      rw [bitsOfBytes_append, bitsOfBytes_zeros]
    · refine ⟨count * 8, Or.inr ?_⟩
      rw [bitsOfBytes_append, bitsOfBytes_zeros]

end Bytes

section Inputs

/-- The field elements the bits are packed into. -/
def ROInput.packed (input : ROInput) : List Fp :=
  (chunksOf 254 input.bits).map fun chunk => (bitsToNat chunk : Fp)

/-- The field elements of an input with others behind its fields. -/
def ROInput.fieldsWith (input : ROInput) (behind : List Fp) : List Fp :=
  input.fields ++ (behind ++ input.packed)

/-- Same fields, and same bits up to zeros behind them in the last chunk. -/
structure ROInput.SameContent (first second : ROInput) : Prop where
  fields : first.fields = second.fields
  chunks :
    chunkCount 254 first.bits.length = chunkCount 254 second.bits.length
  bits : SameUpTo false first.bits second.bits

/-- The bits that are packed into some field elements, 254 into each. -/
def bitsOfFields (fields : List Fp) : List Bool :=
  fields.flatMap fun field => natBits 254 field.val

/-- One input has more fields, the moved ones, which are hashed before the elements
behind them. The other input has these elements there, then an excess in its bits,
and then the bits of the first input, up to zeros behind them in the last chunk. -/
structure ROInput.ShiftedBy
    (behind moved excess : List Fp)
    (shorter longer : ROInput) : Prop where
  nonempty : moved ≠ []
  fields : longer.fields = shorter.fields ++ moved
  turned : moved ++ behind = behind ++ excess
  small : ∀ field ∈ excess, field.val < 2 ^ 254
  chunks : chunkCount 254 shorter.bits.length =
    excess.length + chunkCount 254 longer.bits.length
  bits : SameUpTo false shorter.bits (bitsOfFields excess ++ longer.bits)

/-- One input has in its fields what the other one has in its bits. -/
def ROInput.Shifted (behind : List Fp) (shorter longer : ROInput) : Prop :=
  ∃ moved excess, ShiftedBy behind moved excess shorter longer

/-- Two inputs are hashed as the same field elements. -/
def ROInput.Alike (behind : List Fp) (first second : ROInput) : Prop :=
  first.SameContent second ∨ Shifted behind first second ∨
    Shifted behind second first

theorem ROInput.packed_eq_iff (first second : ROInput) :
    first.packed = second.packed ↔
      chunkCount 254 first.bits.length = chunkCount 254 second.bits.length ∧
        SameUpTo false first.bits second.bits := by
  unfold packed
  rw [map_natCast_chunksOf_eq_iff]
  exact padded_eq_iff (by decide) first.bits second.bits

theorem ROInput.SameContent.fieldsWith_eq
    {first second : ROInput}
    (same : first.SameContent second)
    (behind : List Fp) :
    first.fieldsWith behind = second.fieldsWith behind := by
  have packed := (packed_eq_iff first second).mpr ⟨same.chunks, same.bits⟩
  unfold fieldsWith
  rw [same.fields, packed]

theorem length_bitsOfFields (fields : List Fp) :
    (bitsOfFields fields).length = fields.length * 254 := by
  simp [bitsOfFields, List.length_flatMap]

/-- Full chunks are counted one by one. -/
theorem chunkCount_bitsOfFields
    (fields : List Fp)
    (bits : List Bool) :
    chunkCount 254 (bitsOfFields fields ++ bits).length =
      fields.length + chunkCount 254 bits.length := by
  rw [List.length_append, length_bitsOfFields]
  unfold chunkCount
  omega

/-- A small field element is packed from its bits. -/
theorem bitsToNat_natBits
    {field : Fp}
    (small : field.val < 2 ^ 254) :
    (bitsToNat (natBits 254 field.val) : Fp) = field := by
  have fits := length_natBits 254 field.val
  have same : bitsToNat (natBits 254 field.val) = field.val := by
    apply natBits_inj _ small
    · rw [natBits_bitsToNat fits.le, fits, Nat.sub_self, List.replicate_zero,
        List.append_nil]
    · exact (bitsToNat_lt _).trans_eq (congrArg (2 ^ ·) fits)
  rw [same, ZMod.natCast_zmod_val]

/-- The elements before a packed input, packed with it. -/
theorem ROInput.packed_bitsOfFields
    {fields : List Fp}
    (small : ∀ field ∈ fields, field.val < 2 ^ 254)
    (bits : List Bool) :
    packed { fields := [], bits := bitsOfFields fields ++ bits } =
      fields ++ packed { fields := [], bits := bits } := by
  induction fields with
  | nil => rfl
  | cons field fields ih =>
      rw [List.forall_mem_cons] at small
      have split : bitsOfFields (field :: fields) ++ bits =
          natBits 254 field.val ++ (bitsOfFields fields ++ bits) := by
        rw [bitsOfFields, List.flatMap_cons, List.append_assoc]
        rfl
      have fits := length_natBits 254 field.val
      have nonempty :
          natBits 254 field.val ++ (bitsOfFields fields ++ bits) ≠ [] := by
        apply List.ne_nil_of_length_pos
        rw [List.length_append, fits]
        exact Nat.add_pos_left (by decide) _
      have rest := ih small.2
      unfold packed at rest ⊢
      rw [split, chunksOf_of_ne_nil (by decide) nonempty,
        List.take_left' fits, List.drop_left' fits, List.map_cons, rest,
        bitsToNat_natBits small.1, List.cons_append]

/-- The elements bits are packed into are small. -/
theorem ROInput.lt_of_mem_packed
    {input : ROInput}
    {field : Fp}
    (member : field ∈ input.packed) :
    field.val < 2 ^ 254 := by
  obtain ⟨chunk, isChunk, rfl⟩ := List.mem_map.mp member
  have small : bitsToNat chunk < 2 ^ 254 :=
    lt_of_mem_map_chunksOf (List.mem_map_of_mem isChunk)
  rwa [ZMod.val_natCast_of_lt (small.trans (by decide))]

/-- Where the packed bits of one input begin with some elements, its bits begin
with those of the elements. -/
theorem ROInput.packed_eq_append_iff
    (excess : List Fp)
    (shorter longer : ROInput) :
    shorter.packed = excess ++ longer.packed ↔
      (∀ field ∈ excess, field.val < 2 ^ 254) ∧
        chunkCount 254 shorter.bits.length =
          excess.length + chunkCount 254 longer.bits.length ∧
        SameUpTo false shorter.bits
          (bitsOfFields excess ++ longer.bits) := by
  constructor
  · intro same
    have small : ∀ field ∈ excess, field.val < 2 ^ 254 := by
      intro field member
      apply lt_of_mem_packed
      rw [same]
      exact List.mem_append_left _ member
    have filled := same.trans (packed_bitsOfFields small longer.bits).symm
    obtain ⟨chunks, bits⟩ := (packed_eq_iff _ _).mp filled
    exact ⟨small, chunks.trans (chunkCount_bitsOfFields _ _), bits⟩
  · rintro ⟨small, chunks, bits⟩
    apply Eq.trans _ (packed_bitsOfFields small longer.bits)
    apply (packed_eq_iff _ _).mpr
    exact ⟨chunks.trans (chunkCount_bitsOfFields _ _).symm, bits⟩

theorem ROInput.Shifted.fieldsWith_eq
    {behind : List Fp}
    {shorter longer : ROInput}
    (shifted : Shifted behind shorter longer) :
    shorter.fieldsWith behind = longer.fieldsWith behind := by
  obtain ⟨moved, excess, shifted⟩ := shifted
  have packed := (packed_eq_append_iff excess shorter longer).mpr
    ⟨shifted.small, shifted.chunks, shifted.bits⟩
  unfold fieldsWith
  rw [shifted.fields, packed, ← List.append_assoc behind, ← shifted.turned]
  simp only [List.append_assoc]

/-- What the input with more fields has in excess is empty or moved. -/
theorem ROInput.alike_of_append
    {behind moved : List Fp}
    {shorter longer : ROInput}
    (fields : longer.fields = shorter.fields ++ moved)
    (rest : behind ++ shorter.packed =
      moved ++ (behind ++ longer.packed)) :
    shorter.SameContent longer ∨ Shifted behind shorter longer := by
  by_cases none : moved = []
  · subst none
    rw [List.append_nil] at fields
    have packed := (packed_eq_iff shorter longer).mp
      (List.append_cancel_left rest)
    exact Or.inl ⟨fields.symm, packed.1, packed.2⟩
  · -- what stands behind the fields is too short to reach the packed bits
    rw [← List.append_assoc] at rest
    rcases List.append_eq_append_iff.mp rest with
      ⟨excess, turned, packed⟩ | ⟨short, turned, -⟩
    · obtain ⟨small, chunks, bits⟩ :=
        (packed_eq_append_iff excess shorter longer).mp packed
      exact Or.inr
        ⟨moved, excess, none, fields, turned, small, chunks, bits⟩
    · have lengths := congrArg List.length turned
      have positive := List.length_pos_iff.mpr none
      rw [List.length_append, List.length_append] at lengths
      omega

theorem ROInput.SameContent.symm
    {first second : ROInput}
    (same : first.SameContent second) :
    second.SameContent first := by
  refine ⟨same.fields.symm, same.chunks.symm, ?_⟩
  obtain ⟨count, zeros⟩ := same.bits
  exact ⟨count, zeros.symm⟩

theorem ROInput.fieldsWith_eq_iff
    (behind : List Fp)
    (first second : ROInput) :
    first.fieldsWith behind = second.fieldsWith behind ↔
      Alike behind first second := by
  constructor
  · intro same
    rcases List.append_eq_append_iff.mp same with
      ⟨moved, fields, rest⟩ | ⟨moved, fields, rest⟩
    · rcases alike_of_append fields rest with content | shifted
      · exact Or.inl content
      · exact Or.inr (Or.inl shifted)
    · rcases alike_of_append fields rest with content | shifted
      · exact Or.inl content.symm
      · exact Or.inr (Or.inr shifted)
  · rintro (content | shifted | shifted)
    · exact content.fieldsWith_eq behind
    · exact shifted.fieldsWith_eq
    · exact shifted.fieldsWith_eq.symm

/-- Bytes that are hashed as they are: the same up to zero bytes behind them in
the last chunk. -/
theorem ROInput.alike_appendBytes
    (behind : List Fp)
    (first second : List UInt8) :
    Alike behind (ROInput.new.appendBytes first)
        (ROInput.new.appendBytes second) ↔
      chunkCount 254 (first.length * 8) = chunkCount 254 (second.length * 8) ∧
        SameUpTo 0 first second := by
  have noFields : ∀ {shorter longer : ROInput}, longer.fields = [] →
      ¬Shifted behind shorter longer := by
    rintro shorter longer isNil ⟨moved, excess, shifted⟩
    have fields := shifted.fields
    rw [isNil] at fields
    exact shifted.nonempty (List.append_eq_nil_iff.mp fields.symm).2
  have content : (ROInput.new.appendBytes first).SameContent
      (ROInput.new.appendBytes second) ↔
        chunkCount 254 (bitsOfBytes first).length =
            chunkCount 254 (bitsOfBytes second).length ∧
          SameUpTo false (bitsOfBytes first) (bitsOfBytes second) := by
    constructor
    · intro same
      exact ⟨same.chunks, same.bits⟩
    · intro same
      exact ⟨rfl, same.1, same.2⟩
  unfold Alike
  rw [or_iff_left (noFields rfl), or_iff_left (noFields rfl), content,
    length_bitsOfBytes, length_bitsOfBytes, sameUpTo_bitsOfBytes]

end Inputs

section Domains

variable {first second : NetworkId}

/-- The domain string of the test network is short. -/
theorem intoDomainString_custom_ne_testnet (name : String) :
    NetworkId.intoDomainString (.custom name) ≠
      NetworkId.intoDomainString .testnet := by
  intro same
  have long : 20 ≤ (NetworkId.intoDomainString (.custom name)).utf8ByteSize :=
    createCustomPrefix_size (name ++ "Signature")
  rw [same] at long
  exact absurd long (by decide)

/-- Only names of 20 characters spell a domain string. -/
theorem not_spells_testnet_domain (network : NetworkId) :
    ¬Spells network (NetworkId.intoDomainString .testnet) := by
  rintro ⟨name, -, full, rfl⟩
  exact absurd full (by decide)

/-- Two networks whose names fit share a domain string if they are the same, or
if one of them spells the domain string of the other. -/
theorem intoDomainString_eq_iff
    (firstFits : first.NameFits)
    (secondFits : second.NameFits) :
    first.intoDomainString = second.intoDomainString ↔
      first = second ∨ Spells first second.intoDomainString ∨
        Spells second first.intoDomainString := by
  have mainnet : ∀ {name : String}, name.utf8ByteSize ≤ maxPrefixLength →
      (NetworkId.intoDomainString (.custom name) =
          NetworkId.intoDomainString .mainnet ↔
        Spells (.custom name) (NetworkId.intoDomainString .mainnet)) := by
    intro name fits
    have same := createCustomPrefix_eq_const_iff domainFamily.suffixEq fits
      domainFamily.mainnetBeginnings domainFamily.mainnetBecome
    rw [PrefixFamily.spells_custom]
    exact same.trans (or_iff_right List.not_mem_nil)
  cases first with
  | testnet =>
      cases second with
      | testnet => simp
      | mainnet =>
          refine iff_of_false (by decide) ?_
          simp [not_spells_testnet_domain]
      | custom name =>
          refine iff_of_false
            (intoDomainString_custom_ne_testnet name).symm ?_
          simp [not_spells_testnet_domain]
  | mainnet =>
      cases second with
      | testnet =>
          refine iff_of_false (by decide) ?_
          simp [not_spells_testnet_domain]
      | mainnet => simp
      | custom name =>
          rw [eq_comm, mainnet secondFits]
          simp
  | custom name =>
      cases second with
      | testnet =>
          refine iff_of_false (intoDomainString_custom_ne_testnet name) ?_
          simp [not_spells_testnet_domain]
      | mainnet =>
          rw [mainnet firstFits]
          simp
      | custom other =>
          have same := createCustomPrefix_eq_iff domainFamily.suffixEq
            domainFamily.notInTail domainFamily.notPad firstFits secondFits
          rw [PrefixFamily.spells_custom, PrefixFamily.spells_custom,
            NetworkId.custom.injEq]
          exact same

end Domains

end Tx

namespace Frost

open Tx

variable {ε F G : Type}

/-- What the hasher is given. -/
structure HasherInput where
  domainString : String
  isLegacy : Bool
  fields : List Fp
  deriving DecidableEq

/-- The hash of an input as a scalar. -/
def MinaHasher.scalarOf
    [Field F]
    (hasher : MinaHasher)
    (input : HasherInput) : F :=
  let scalarOutput :=
    if input.isLegacy then hasher.legacy input.domainString input.fields
    else hasher.kimchi input.domainString input.fields
  (scalarOutput.val : F)

/-- The message that bytes are hashed as. -/
def hashedMessage
    (codec : ROInputCodec)
    (message : List UInt8) : Outcome ε PallasMessage :=
  (PallasMessage.deserialize codec message).unwrapOr
    (.fromRawBytesDefault message)

/-- The public key and the abscissa of the commitment behind an input. -/
def behindInput (curve : Coordinates G) (r verifyingKey : G) : List Fp :=
  [curve.x verifyingKey, curve.y verifyingKey, curve.x r]

/-- What the challenge gives to the hasher for a message. -/
def hasherInput
    (curve : Coordinates G)
    (codec : ROInputCodec)
    (r verifyingKey : G)
    (message : List UInt8) : Outcome ε HasherInput := do
  let msg ← hashedMessage codec message
  return {
    domainString := msg.networkId.intoDomainString
    isLegacy := msg.isLegacy
    fields := hashedFields curve verifyingKey (curve.x r) msg.input }

variable (curve : Coordinates G) (codec : ROInputCodec) (r verifyingKey : G)

/-- The challenge is the hash of what the hasher is given. -/
theorem challenge_eq_hasherInput
    [Field F]
    (hasher : MinaHasher)
    (message : List UInt8) :
    (challenge curve hasher codec r verifyingKey message : Outcome ε F) =
      hasher.scalarOf <$> hasherInput curve codec r verifyingKey message := by
  unfold challenge hasherInput hashedMessage
  cases (PallasMessage.deserialize codec message).unwrapOr
      (PallasMessage.fromRawBytesDefault message) with
  | error failure => rfl
  | ok msg => rfl

section Alike

/-- The bytes are no encoded message, which is found without a panic. -/
def NotDecoded (bytes : List UInt8) : Prop :=
  ∃ reason, PallasMessage.deserialize codec bytes = .error (.error reason)

/-- Two messages are hashed alike. -/
structure MessagesAlike
    (behind : List Fp)
    (first second : PallasMessage) : Prop where
  network : first.networkId = second.networkId ∨
    Spells first.networkId second.networkId.intoDomainString ∨
    Spells second.networkId first.networkId.intoDomainString
  mode : first.isLegacy = second.isLegacy
  input : ROInput.Alike behind first.input second.input

/-- Two byte strings are hashed alike: both as they are, both as the messages
they encode, or one of them as a message of the test network. -/
inductive BytesAlike (behind : List Fp) : List UInt8 → List UInt8 → Prop
  | asTheyAre
      {first second : List UInt8}
      (firstNotDecoded : NotDecoded codec first)
      (secondNotDecoded : NotDecoded codec second)
      (chunks : chunkCount 254 (first.length * 8) =
        chunkCount 254 (second.length * 8))
      (zeros : SameUpTo 0 first second) :
      BytesAlike behind first second
  | decoded
      {first second : List UInt8}
      {message other : PallasMessage}
      (firstRead : PallasMessage.deserialize codec first = .ok message)
      (secondRead : PallasMessage.deserialize codec second = .ok other)
      (alike : MessagesAlike behind message other) :
      BytesAlike behind first second
  | firstDecoded
      {first second : List UInt8}
      {message : PallasMessage}
      (firstRead : PallasMessage.deserialize codec first = .ok message)
      (secondNotDecoded : NotDecoded codec second)
      (network : message.networkId = .testnet)
      (mode : message.isLegacy = true)
      (input : ROInput.Alike behind message.input
        (ROInput.new.appendBytes second)) :
      BytesAlike behind first second
  | secondDecoded
      {first second : List UInt8}
      {message : PallasMessage}
      (firstNotDecoded : NotDecoded codec first)
      (secondRead : PallasMessage.deserialize codec second = .ok message)
      (network : message.networkId = .testnet)
      (mode : message.isLegacy = true)
      (input : ROInput.Alike behind (ROInput.new.appendBytes first)
        message.input) :
      BytesAlike behind first second

end Alike

section Binding

variable {codec} {message other : PallasMessage} {bytes : List UInt8}

theorem hashedMessage_eq_ok :
    (hashedMessage codec bytes : Outcome ε PallasMessage) = .ok message ↔
      PallasMessage.deserialize codec bytes = .ok message ∨
        (NotDecoded codec bytes ∧
          message = .fromRawBytesDefault bytes) := by
  unfold hashedMessage NotDecoded
  rcases PallasMessage.deserialize codec bytes with (reason | _) | decoded
  · simp [Outcome.unwrapOr, eq_comm]
  · simp [Outcome.unwrapOr]
  · simp [Outcome.unwrapOr]

/-- The name of the network of a hashed message fits. -/
theorem nameFits_of_hashedMessage
    (hashed : (hashedMessage codec bytes : Outcome ε PallasMessage) =
      .ok message) :
    message.networkId.NameFits := by
  rcases hashedMessage_eq_ok.mp hashed with read | ⟨-, rfl⟩
  · exact (PallasMessage.exists_encoding_of_deserialize read).1
  · exact trivial

/-- The field elements behind an input stand before its packed bits. -/
theorem hashedFields_eq (input : ROInput) :
    hashedFields curve verifyingKey (curve.x r) input =
      input.fieldsWith (behindInput curve r verifyingKey) := by
  simp [hashedFields, ROInput.toFields, ROInput.appendField,
    ROInput.fieldsWith, ROInput.packed, behindInput]

/-- What the hasher is given for a message. -/
def hasherInputOf
    (behind : List Fp)
    (message : PallasMessage) : HasherInput :=
  { domainString := message.networkId.intoDomainString
    isLegacy := message.isLegacy
    fields := message.input.fieldsWith behind }

theorem hasherInput_eq_ok
    {input : HasherInput} :
    (hasherInput curve codec r verifyingKey bytes : Outcome ε HasherInput) =
        .ok input ↔
      ∃ message,
        (hashedMessage codec bytes : Outcome ε PallasMessage) = .ok message ∧
        hasherInputOf (behindInput curve r verifyingKey) message = input := by
  unfold hasherInput
  rw [Outcome.bind_eq_ok]
  apply exists_congr
  intro message
  apply and_congr_right
  intro _
  rw [hashedFields_eq]
  constructor
  · intro same
    exact Except.ok.inj same
  · intro same
    exact congrArg Except.ok same

/-- The hasher is given the same for two messages if they are alike. -/
theorem hasherInputOf_eq_iff
    (behind : List Fp)
    (fits : message.networkId.NameFits)
    (otherFits : other.networkId.NameFits) :
    hasherInputOf behind message = hasherInputOf behind other ↔
      MessagesAlike behind message other := by
  unfold hasherInputOf
  rw [HasherInput.mk.injEq, intoDomainString_eq_iff fits otherFits,
    ROInput.fieldsWith_eq_iff]
  constructor
  · rintro ⟨network, mode, input⟩
    exact ⟨network, mode, input⟩
  · intro alike
    exact ⟨alike.network, alike.mode, alike.input⟩

/-- Bytes that are hashed as they are belong to the test network. -/
theorem messagesAlike_raw_iff (behind : List Fp) :
    MessagesAlike behind message (.fromRawBytesDefault bytes) ↔
      message.networkId = .testnet ∧ message.isLegacy = true ∧
        ROInput.Alike behind message.input
          (ROInput.new.appendBytes bytes) := by
  constructor
  · rintro ⟨network | spells | spells, mode, input⟩
    · exact ⟨network, mode, input⟩
    · exact absurd spells (not_spells_testnet_domain _)
    · exact absurd spells (PrefixFamily.not_spells_testnet _)
  · rintro ⟨network, mode, input⟩
    exact ⟨Or.inl network, mode, input⟩

variable {first second : List UInt8}

/-- The messages that two byte strings are hashed as are alike if the byte
strings are. -/
theorem bytesAlike_iff (behind : List Fp) :
    BytesAlike codec behind first second ↔
      ∃ message other,
        (hashedMessage codec first : Outcome ε PallasMessage) = .ok message ∧
        (hashedMessage codec second : Outcome ε PallasMessage) = .ok other ∧
        MessagesAlike behind message other := by
  constructor
  · intro alike
    cases alike with
    | asTheyAre firstNot secondNot chunks zeros =>
        refine ⟨_, _, hashedMessage_eq_ok.mpr (Or.inr ⟨firstNot, rfl⟩),
          hashedMessage_eq_ok.mpr (Or.inr ⟨secondNot, rfl⟩), ?_⟩
        apply (messagesAlike_raw_iff behind).mpr
        exact ⟨rfl, rfl,
          (ROInput.alike_appendBytes behind _ _).mpr ⟨chunks, zeros⟩⟩
    | decoded firstRead secondRead alike =>
        exact ⟨_, _, hashedMessage_eq_ok.mpr (Or.inl firstRead),
          hashedMessage_eq_ok.mpr (Or.inl secondRead), alike⟩
    | firstDecoded firstRead secondNot network mode input =>
        refine ⟨_, _, hashedMessage_eq_ok.mpr (Or.inl firstRead),
          hashedMessage_eq_ok.mpr (Or.inr ⟨secondNot, rfl⟩), ?_⟩
        exact (messagesAlike_raw_iff behind).mpr ⟨network, mode, input⟩
    | secondDecoded firstNot secondRead network mode input =>
        exact ⟨_, _, hashedMessage_eq_ok.mpr (Or.inr ⟨firstNot, rfl⟩),
          hashedMessage_eq_ok.mpr (Or.inl secondRead),
          Or.inl network.symm, mode.symm, input⟩
  · rintro ⟨message, other, firstHashed, secondHashed, alike⟩
    rcases hashedMessage_eq_ok.mp firstHashed with
      firstRead | ⟨firstNot, rfl⟩
    · rcases hashedMessage_eq_ok.mp secondHashed with
        secondRead | ⟨secondNot, rfl⟩
      · exact .decoded firstRead secondRead alike
      · obtain ⟨network, mode, input⟩ :=
          (messagesAlike_raw_iff behind).mp alike
        exact .firstDecoded firstRead secondNot network mode input
    · rcases hashedMessage_eq_ok.mp secondHashed with
        secondRead | ⟨secondNot, rfl⟩
      · rcases alike with ⟨network | spells | spells, mode, input⟩
        · exact .secondDecoded firstNot secondRead network.symm mode.symm input
        · exact absurd spells (PrefixFamily.not_spells_testnet _)
        · exact absurd spells (not_spells_testnet_domain _)
      · have content := ((messagesAlike_raw_iff behind).mp alike).2.2
        obtain ⟨chunks, zeros⟩ :=
          (ROInput.alike_appendBytes behind first second).mp content
        exact .asTheyAre firstNot secondNot chunks zeros

/-- The hasher is given something different for two byte strings exactly if
they are not alike. -/
theorem challenge_binds_iff
    (curve : Coordinates G)
    (codec : ROInputCodec)
    (r verifyingKey : G)
    (first second : List UInt8) :
    (∀ input : HasherInput,
      (hasherInput curve codec r verifyingKey first : Outcome ε _) =
          .ok input →
        (hasherInput curve codec r verifyingKey second : Outcome ε _) ≠
          .ok input) ↔
      ¬BytesAlike codec (behindInput curve r verifyingKey) first second := by
  constructor
  · intro differ alike
    obtain ⟨message, other, firstHashed, secondHashed, alike⟩ :=
      (@bytesAlike_iff ε codec first second _).mp alike
    have same := (hasherInputOf_eq_iff (behindInput curve r verifyingKey)
      (nameFits_of_hashedMessage firstHashed)
      (nameFits_of_hashedMessage secondHashed)).mpr alike
    apply differ
    · exact (hasherInput_eq_ok curve r verifyingKey).mpr
        ⟨message, firstHashed, rfl⟩
    · exact (hasherInput_eq_ok curve r verifyingKey).mpr
        ⟨other, secondHashed, same.symm⟩
  · intro notAlike input firstInput secondInput
    obtain ⟨message, firstHashed, isFirst⟩ :=
      (hasherInput_eq_ok curve r verifyingKey).mp firstInput
    obtain ⟨other, secondHashed, isSecond⟩ :=
      (hasherInput_eq_ok curve r verifyingKey).mp secondInput
    apply notAlike
    apply (@bytesAlike_iff ε codec first second _).mpr
    refine ⟨message, other, firstHashed, secondHashed, ?_⟩
    apply (hasherInputOf_eq_iff (behindInput curve r verifyingKey)
      (nameFits_of_hashedMessage firstHashed)
      (nameFits_of_hashedMessage secondHashed)).mp
    rw [isFirst, isSecond]

end Binding

section LegacyTransactions

/-- Points are told apart by their coordinates. -/
def Coordinates.Separate (curve : Coordinates G) : Prop :=
  ∀ point other, curve.x point = curve.x other →
    curve.y point = curve.y other → point = other

/-- A legacy transaction, the public key and the abscissa of the commitment are
recovered from the field elements that are hashed for them. -/
theorem hashedFields_legacy_injective
    {curve : Coordinates G}
    (separate : curve.Separate) :
    Function.Injective fun (tx, pubKey, rx) =>
      hashedFields curve pubKey rx (LegacyTransaction.toRoinput tx) := by
  rintro ⟨tx, pubKey, rx⟩ ⟨otherTx, otherPubKey, otherRx⟩ same
  obtain ⟨fieldCount, bitCount⟩ := tx.length_toRoinput
  obtain ⟨otherFieldCount, otherBitCount⟩ := otherTx.length_toRoinput
  have inputs := ROInput.toFields_inj
    (by simp [ROInput.appendField, fieldCount, otherFieldCount])
    (by simp [ROInput.appendField, bitCount, otherBitCount]) same
  obtain ⟨inputs, sameRx⟩ := ROInput.appendField_inj inputs
  obtain ⟨inputs, sameY⟩ := ROInput.appendField_inj inputs
  obtain ⟨inputs, sameX⟩ := ROInput.appendField_inj inputs
  rw [LegacyTransaction.toRoinput_injective inputs, sameRx,
    separate pubKey otherPubKey sameX sameY]

/-- With pairs of field elements for points. -/
theorem hashedFields_legacy_injective_pairs :
    Function.Injective fun (tx, pubKey, rx) =>
      hashedFields (⟨Prod.fst, Prod.snd⟩ : Coordinates (Fp × Fp)) pubKey rx
        (LegacyTransaction.toRoinput tx) :=
  hashedFields_legacy_injective fun _ _ => Prod.ext

end LegacyTransactions

/-- The message of the documentation and the same with a zero byte behind it. -/
theorem challenge_hello_padded :
    asBytes "Hello Mina!" ≠ asBytes "Hello Mina!" ++ [0] ∧
      ∃ input : HasherInput,
        (hasherInput fiveCurve ROInputCodec.reference 3 2
            (asBytes "Hello Mina!") : Outcome Unit _) = .ok input ∧
          (hasherInput fiveCurve ROInputCodec.reference 3 2
            (asBytes "Hello Mina!" ++ [0]) : Outcome Unit _) = .ok input := by
  refine ⟨by decide, _, rfl, ?_⟩
  decide +kernel

end Frost

end MinaMultiSig
