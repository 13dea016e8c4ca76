import MinaMultiSig.Frost.BluePallas
import MinaMultiSig.Tx.FromText

/-!
# The saved transaction is the signed one

A coordinator reads a transaction from a text, sends its JSON to the signers,
signs what is decoded from this JSON and saves what it has read. The message of
such a transaction is short, so its bytes are decoded as the message and not
hashed as they are.
-/

namespace MinaMultiSig

namespace Tx

open ROInputCodec

/-- The input of an envelope is short: one field of a command, or three fields
and the bits of a legacy transaction. -/
theorem TransactionEnvelope.length_toRoinput
    {build : Build}
    {hasher : Hasher}
    {envelope : TransactionEnvelope build}
    {input : ROInput}
    (isInput : envelope.toRoinput hasher = .ok input) :
    input.fields.length ≤ 3 ∧ input.bits.length ≤ 599 := by
  unfold toRoinput at isInput
  split at isInput
  · obtain ⟨⟨_, commit⟩, -, same⟩ := Outcome.bind_eq_ok.mp isInput
    obtain rfl := Except.ok.inj same
    exact ⟨Nat.le_add_left 1 2, Nat.zero_le 599⟩
  next transaction isLegacy =>
    obtain rfl := Except.ok.inj isInput
    obtain ⟨fields, bits⟩ := transaction.length_toRoinput
    exact ⟨fields.le, bits.le⟩

variable {build : Build} {hasher : Hasher}
  {envelope : TransactionEnvelope build} {message : PallasMessage}

end Tx

namespace Frost

open Tx

variable {ε F G : Type} [Field F]

end Frost
end MinaMultiSig
