import MinaMultiSig.Frost.Core
import MinaMultiSig.Tx.EnvelopeReading
import MinaMultiSig.Tx.FromText

/-!
# What a participant does with a signing package

`confirm_message` of `mina-frost-client/src/participant/comms.rs` and the steps
of `participant/sign.rs` from the arguments a coordinator has sent to the
package that is signed. Only the first signing package is used.
-/

namespace MinaMultiSig
namespace Participant

open Frost Tx

/-- Why a participant does not sign. -/
inductive SignError
  | report (message : String)
  | serde (reason : SerdeError)
  | transaction (reason : MinaTxError)
  | io
  deriving DecidableEq

/-- What a coordinator sends: its signing packages and an auxiliary message. -/
structure SendSigningPackageArgs (F G : Type) [Zero F] where
  signingPackage : List (SigningPackage F G)
  auxMsg : List UInt8

/-- The terminal of the participant: whether the question can be written, and
the line that is answered. -/
structure Terminal where
  written : Bool
  line : Option String

variable {F G : Type} [Zero F] (forms : TextForms) (build : Build)

section Steps

variable (debug : TransactionEnvelope build → String)
  (errorText : SerdeError → String)

/-- The question is written, and a line is read. -/
def readAnswer (terminal : Terminal) : Outcome SignError Unit :=
  if terminal.written then
    match terminal.line with
    | none => .error (.error .io)
    | some signIt =>
        if trim signIt ≠ "y" then
          .error (.error (.report "signing cancelled"))
        else .ok ()
  else .error (.error .io)

/-- The question whether to sign is answered with `y`; it is not asked if the
participant has agreed in advance. -/
def confirmMessage
    (terminal : Terminal)
    (args : SendSigningPackageArgs F G)
    (yes : Bool) : Outcome SignError Unit := do
  if yes then return ()
  let payloadBytes ←
    match args.signingPackage.head? with
    | some package => .ok package.message
    | none => .error (.error (.report "No signing package found"))
  let transaction ←
    (TransactionEnvelope.deserialize forms build payloadBytes).mapError
      fun err => .report
        ("failed to decode signing payload as TransactionEnvelope: " ++
          errorText err ++ ". expected coordinator payload format is " ++
          "serialized TransactionEnvelope JSON bytes")
  let _ ← (transaction.confirmationText forms debug).mapError .serde
  readAnswer terminal

/-- The first signing package with the bytes of the message in place of the
transaction. -/
def signingPackageForCrypto
    (hasher : Hasher)
    (codec : ROInputCodec)
    (terminal : Terminal)
    (args : SendSigningPackageArgs F G)
    (yes : Bool) : Outcome SignError (SigningPackage F G) := do
  confirmMessage forms build debug errorText terminal args yes
  let signingPackage ← Outcome.ofOption args.signingPackage.head?
  let transaction ←
    (TransactionEnvelope.deserialize forms build
      signingPackage.message).mapError SignError.serde
  let pallasMessage ←
    (transaction.toPallasMessage hasher).mapError SignError.transaction
  let pallasMessageBytes ←
    (Outcome.ofExcept (pallasMessage.serialize codec)).mapError
      SignError.transaction
  return { signingPackage with message := pallasMessageBytes }

end Steps

/-- The participant agrees, in advance or when it is asked. -/
def Agrees (terminal : Terminal) (yes : Bool) : Prop :=
  yes = true ∨
    (terminal.written = true ∧ ∃ line ∈ terminal.line, trim line = "y")

/-- What a coordinator has to send: a package if it is not looked for, no memo
that overruns, and a well-formed transaction if the participant agrees. -/
structure Harmless
    (terminal : Terminal)
    (args : SendSigningPackageArgs F G)
    (yes : Bool) : Prop where
  present : yes = true → args.signingPackage ≠ []
  memo : ∀ package ∈ args.signingPackage.head?,
    ¬TransactionEnvelope.ReachesOverrun forms build
      (forms.json.parse package.message).value
  wellFormed : Agrees terminal yes → ∀ package ∈ args.signingPackage.head?,
    ∀ envelope, TransactionEnvelope.deserialize forms build package.message =
      .ok envelope → envelope.WellFormed

section Panics

theorem readAnswer_ne_panic (terminal : Terminal) :
    readAnswer terminal ≠ .error .panic := by
  unfold readAnswer
  split
  · split
    · simp
    · split
      · simp
      · simp
  · simp

theorem readAnswer_eq_ok_iff (terminal : Terminal) :
    readAnswer terminal = .ok () ↔
      terminal.written = true ∧
        ∃ line ∈ terminal.line, trim line = "y" := by
  unfold readAnswer
  split
  next written =>
    split
    next noLine => simp [noLine]
    next line isLine => simp [written, isLine]
  next notWritten => simp [notWritten]

variable {forms} {build} {debug : TransactionEnvelope build → String}
  {errorText : SerdeError → String} {hasher : Hasher} {codec : ROInputCodec}
  {terminal : Terminal} {args : SendSigningPackageArgs F G} {yes : Bool}
  {package : SigningPackage F G}

/-- A participant that has agreed in advance is not asked. -/
theorem confirmMessage_of_yes
    (isYes : yes = true) :
    confirmMessage forms build debug errorText terminal args yes =
      .ok () := by
  unfold confirmMessage
  rw [if_pos isYes]
  rfl

/-- Without a package the question is not asked. -/
theorem confirmMessage_of_none
    (isNo : yes = false)
    (isNone : args.signingPackage.head? = none) :
    confirmMessage forms build debug errorText terminal args yes =
      .error (.error (.report "No signing package found")) := by
  unfold confirmMessage
  rw [if_neg (by simp [isNo]), isNone]
  rfl

/-- What happens to the question for a package. -/
theorem confirmMessage_of_some
    (lawful : forms.Lawful)
    (isNo : yes = false)
    (isFirst : args.signingPackage.head? = some package) :
    (confirmMessage forms build debug errorText terminal args yes =
        .error .panic ↔
      TransactionEnvelope.deserialize forms build package.message =
        .error .panic) ∧
    (confirmMessage forms build debug errorText terminal args yes = .ok () ↔
      (∃ envelope, TransactionEnvelope.deserialize forms build
          package.message = .ok envelope) ∧
        terminal.written = true ∧ ∃ line ∈ terminal.line, trim line = "y") := by
  have asked : ∀ {envelope : TransactionEnvelope build},
      TransactionEnvelope.deserialize forms build package.message =
        .ok envelope →
      ∃ question, envelope.confirmationText forms debug = .ok question := by
    intro envelope read
    obtain ⟨text, shown, -⟩ :=
      TransactionEnvelope.display_again lawful read debug
    unfold TransactionEnvelope.confirmationText
    rw [shown]
    exact ⟨_, rfl⟩
  rw [← readAnswer_eq_ok_iff]
  unfold confirmMessage
  rw [if_neg (by simp [isNo]), isFirst]
  constructor
  · refine (Outcome.bind_eq_panic.trans (or_iff_right (by simp))).trans ?_
    simp only [Except.ok.injEq, exists_eq_left', Outcome.bind_eq_panic,
      Outcome.mapError_eq_ok, Outcome.mapError_eq_panic]
    apply or_iff_left
    rintro ⟨envelope, read, notShown | ⟨_, -, notAnswered⟩⟩
    · obtain ⟨question, isQuestion⟩ := asked read
      rw [isQuestion] at notShown
      exact absurd notShown (by simp)
    · exact readAnswer_ne_panic terminal notAnswered
  · simp only [Outcome.bind_eq_ok, Except.ok.injEq, exists_eq_left',
      Outcome.mapError_eq_ok]
    constructor
    · rintro ⟨envelope, read, _, -, answered⟩
      exact ⟨⟨envelope, read⟩, answered⟩
    · rintro ⟨⟨envelope, read⟩, answered⟩
      obtain ⟨question, isQuestion⟩ := asked read
      exact ⟨envelope, read, question, isQuestion, answered⟩

/-- Behind the question the first package is looked for. -/
theorem signingPackageForCrypto_of_none
    (isNone : args.signingPackage.head? = none)
    (confirmed : confirmMessage forms build debug errorText terminal args yes =
      .ok ()) :
    signingPackageForCrypto forms build debug errorText hasher codec terminal
      args yes = .error .panic := by
  unfold signingPackageForCrypto
  rw [confirmed, isNone]
  rfl

/-- What happens to a package behind the question. -/
theorem signingPackageForCrypto_eq_panic_of_some
    (isFirst : args.signingPackage.head? = some package)
    (confirmed : confirmMessage forms build debug errorText terminal args yes =
      .ok ()) :
    signingPackageForCrypto forms build debug errorText hasher codec terminal
        args yes = .error .panic ↔
      TransactionEnvelope.deserialize forms build package.message =
          .error .panic ∨
        ∃ envelope, TransactionEnvelope.deserialize forms build
            package.message = .ok envelope ∧ ¬envelope.WellFormed := by
  have message : ∀ {envelope : TransactionEnvelope build},
      TransactionEnvelope.deserialize forms build package.message =
        .ok envelope →
      (envelope.toPallasMessage hasher = .error .panic ↔
        ¬envelope.WellFormed) := by
    intro envelope read
    rw [← @TransactionEnvelope.exists_toPallasMessage_iff forms build hasher
      package.message envelope read]
    rcases made : envelope.toPallasMessage hasher with
      (reason | _) | message
    · exact absurd made
        (TransactionEnvelope.toPallasMessage_ne_error reason)
    · simp
    · simp
  unfold signingPackageForCrypto
  rw [confirmed, isFirst]
  change (Outcome.mapError SignError.serde
    (TransactionEnvelope.deserialize forms build package.message) >>=
      fun transaction => _) = _ ↔ _
  rw [Outcome.bind_eq_panic, Outcome.mapError_eq_panic]
  apply or_congr_right
  simp only [Outcome.mapError_eq_ok]
  apply exists_congr
  intro envelope
  apply and_congr_right
  intro read
  rw [← message read, Outcome.bind_eq_panic, Outcome.mapError_eq_panic]
  apply or_iff_left
  rintro ⟨pallasMessage, -, panics⟩
  rcases Outcome.bind_eq_panic.mp panics with written | ⟨bytes, -, returned⟩
  · exact Outcome.ofExcept_ne_panic _ (Outcome.mapError_eq_panic.mp written)
  · exact absurd returned (by simp [pure, Except.pure])

/-- A participant panics at a package if it cannot read it without a panic, or
if it agrees to an envelope that is not well formed. -/
theorem signingPackageForCrypto_eq_panic_iff
    (lawful : forms.Lawful)
    (isFirst : args.signingPackage.head? = some package) :
    signingPackageForCrypto forms build debug errorText hasher codec terminal
        args yes = .error .panic ↔
      TransactionEnvelope.deserialize forms build package.message =
          .error .panic ∨
        (Agrees terminal yes ∧
          ∃ envelope, TransactionEnvelope.deserialize forms build
            package.message = .ok envelope ∧ ¬envelope.WellFormed) := by
  cases isYes : yes with
  | true =>
      have confirmed := @confirmMessage_of_yes F G _ forms build debug
        errorText terminal args true rfl
      have agreed : Agrees terminal true := Or.inl rfl
      rw [signingPackageForCrypto_eq_panic_of_some isFirst confirmed,
        and_iff_right agreed]
  | false =>
      obtain ⟨panics, agrees⟩ := @confirmMessage_of_some F G _ forms build
        debug errorText terminal args false package lawful rfl isFirst
      rcases confirmed : confirmMessage forms build debug errorText terminal
          args false with (reason | _) | _
      · have stopped : signingPackageForCrypto forms build debug errorText
            hasher codec terminal args false = .error (.error reason) := by
          unfold signingPackageForCrypto
          rw [confirmed]
          rfl
        rw [confirmed] at panics agrees
        refine iff_of_false (by simp [stopped]) ?_
        rintro (reading | ⟨agreed, envelope, read, -⟩)
        · exact absurd (panics.mpr reading) (by simp)
        · have answered := agreed.resolve_left (by simp)
          exact absurd (agrees.mpr ⟨⟨envelope, read⟩, answered⟩) (by simp)
      · have stopped : signingPackageForCrypto forms build debug errorText
            hasher codec terminal args false = .error .panic := by
          unfold signingPackageForCrypto
          rw [confirmed]
          rfl
        exact iff_of_true stopped (Or.inl (panics.mp confirmed))
      · have agreed : Agrees terminal false :=
          Or.inr (agrees.mp confirmed).2
        rw [signingPackageForCrypto_eq_panic_of_some isFirst confirmed,
          and_iff_right agreed]

/-- A participant does not panic exactly if what the coordinator has sent is
harmless; and an envelope that is read has a message exactly if it is well
formed. -/
theorem participant_safe_iff
    (lawful : forms.Lawful)
    (debug : TransactionEnvelope build → String)
    (errorText : SerdeError → String)
    (hasher : Hasher)
    (codec : ROInputCodec)
    (terminal : Terminal)
    (args : SendSigningPackageArgs F G)
    (yes : Bool) :
    (signingPackageForCrypto forms build debug errorText hasher codec terminal
        args yes ≠ .error .panic ↔
      Harmless forms build terminal args yes) ∧
    ∀ bytes envelope,
      TransactionEnvelope.deserialize forms build bytes = .ok envelope →
        ((∃ message, envelope.toPallasMessage hasher = .ok message) ↔
          envelope.WellFormed) := by
  refine ⟨?_, fun bytes envelope read =>
    TransactionEnvelope.exists_toPallasMessage_iff read⟩
  rcases first : args.signingPackage.head? with _ | package
  · have isNil := List.head?_eq_none_iff.mp first
    cases yes with
    | true =>
        refine iff_of_false (not_not.mpr (signingPackageForCrypto_of_none first
          (confirmMessage_of_yes rfl))) ?_
        intro harmless
        exact harmless.present rfl isNil
    | false =>
        have stopped := @confirmMessage_of_none F G _ forms build debug
          errorText terminal args false rfl first
        refine iff_of_true ?_ ⟨by simp, by simp [first], by simp [first]⟩
        unfold signingPackageForCrypto
        rw [stopped]
        simp [bind, Except.bind]
  · rw [Ne, signingPackageForCrypto_eq_panic_iff lawful first,
      TransactionEnvelope.deserialize_eq_panic_iff]
    constructor
    · intro safe
      rw [not_or] at safe
      refine ⟨?_, ?_, ?_⟩
      · rintro - isNil
        rw [isNil] at first
        exact absurd first (by simp)
      · intro other isFirst
        rw [first] at isFirst
        obtain rfl := Option.some.inj isFirst
        exact safe.1
      · intro agrees other isFirst envelope read
        rw [first] at isFirst
        obtain rfl := Option.some.inj isFirst
        by_contra notWellFormed
        exact safe.2 ⟨agrees, envelope, read, notWellFormed⟩
    · rintro harmless (overruns | ⟨agrees, envelope, read, notWellFormed⟩)
      · exact harmless.memo package first overruns
      · exact notWellFormed
          (harmless.wellFormed agrees package first envelope read)

end Panics

section Examples

/-- A signing package with a message. -/
def packageOf (message : List UInt8) : SigningPackage ℚ Unit :=
  { commitments := [], message := message, distinct := by simp }

/-- The arguments for a message alone. -/
def argsOf (message : List UInt8) : SendSigningPackageArgs ℚ Unit :=
  { signingPackage := [packageOf message], auxMsg := [] }

theorem head?_argsOf (message : List UInt8) :
    (argsOf message).signingPackage.head? = some (packageOf message) := rfl

theorem eq_packageOf_of_mem_head?
    {message : List UInt8}
    {package : SigningPackage ℚ Unit}
    (isFirst : package ∈ (argsOf message).signingPackage.head?) :
    package.message = message := by
  rw [head?_argsOf] at isFirst
  rw [← Option.some.inj isFirst]
  rfl

/-- A terminal that is closed. -/
def noTerminal : Terminal :=
  { written := false, line := none }

/-- What happens to arguments of a participant that has agreed in advance. -/
def signedInAdvance
    (args : SendSigningPackageArgs ℚ Unit) :
    Outcome SignError (SigningPackage ℚ Unit) :=
  signingPackageForCrypto TextForms.reference .preMesa (fun _ => "")
    (fun _ => "") Hasher.polynomial ROInputCodec.reference noTerminal args true

theorem signedInAdvance_argsOf_iff (message : List UInt8) :
    signedInAdvance (argsOf message) = .error .panic ↔
      TransactionEnvelope.deserialize TextForms.reference .preMesa message =
          .error .panic ∨
        ∃ envelope, TransactionEnvelope.deserialize TextForms.reference .preMesa
          message = .ok envelope ∧ ¬envelope.WellFormed := by
  have agreed : Agrees noTerminal true := Or.inl rfl
  refine (signingPackageForCrypto_eq_panic_iff TextForms.reference_lawful
    (head?_argsOf message)).trans ?_
  rw [and_iff_right agreed]
  rfl

/-- The payment is harmless. -/
theorem participant_safe_payment :
    signedInAdvance (argsOf (TextForms.reference.json.toVec
        TransactionEnvelope.paymentJson)) ≠
      .error .panic := by
  have read := TransactionEnvelope.deserialize_paymentJson
  apply (participant_safe_iff TextForms.reference_lawful _ _ _ _ _ _ _).1.mpr
  refine ⟨by simp [argsOf], ?_, ?_⟩
  · intro package isFirst
    rw [← TransactionEnvelope.deserialize_eq_panic_iff,
      eq_packageOf_of_mem_head? isFirst, read]
    simp
  · intro _ package isFirst envelope isEnvelope command isCommand
    rw [eq_packageOf_of_mem_head? isFirst, read] at isEnvelope
    obtain rfl := Except.ok.inj isEnvelope
    exact absurd isCommand (by simp [TransactionEnvelope.paymentEnvelope,
      TransactionEnvelope.newLegacy])

/-- A command whose first account update has call depth one. -/
def misplacedEnvelope : TransactionEnvelope .preMesa :=
  .newZkapp .testnet
    { feePayer :=
        { body :=
            { publicKey := TextForms.knownKey
              fee := 0
              validUntil := none
              nonce := 0 }
          authorization := "" }
      accountUpdates :=
        [{ body :=
            { AccountUpdateBody.default .preMesa with
              publicKey := TextForms.knownKey
              callDepth := 1
              balanceChange := { magnitude := 0, sgn := 1 } }
           authorization := { proof := none, signature := none } }]
      memo := LegacyTransaction.memoOf 0 (List.replicate 32 0) rfl }

/-- The command as JSON. -/
def misplacedJson : Json :=
  ((TransactionEnvelope.codec TextForms.reference .preMesa).serialize
    misplacedEnvelope).toOption.getD .null

/-- The payment with a memo of one character and two bytes. -/
def accentJson : Json :=
  .object
    [("networkId", .string "testnet"),
      ("kind", .object
        [("tag", .string "Legacy"),
          ("transaction", .object
            [("to", .string TextForms.knownAddress),
              ("from", .string TextForms.knownAddress),
              ("fee", .string "100000000"), ("amount", .string "1000000000"),
              ("nonce", .string "7"), ("memo", .string "é"),
              ("valid_until", .string "4294967295"),
              ("tag", .array [.bool false, .bool false, .bool false])])])]

/-- A document that fits is what is read from its bytes. -/
theorem deserialize_toVec
    {json : Json}
    (fits : json.Fits JsonText.recursionLimit) :
    TransactionEnvelope.deserialize TextForms.reference .preMesa
        (TextForms.reference.json.toVec json) =
      (TransactionEnvelope.codec TextForms.reference .preMesa).deserialize
        .parser json := by
  unfold TransactionEnvelope.deserialize TransactionEnvelope.fromSlice
  rw [TextForms.reference_lawful.json.parse_toVec json fits]
  dsimp only
  cases (TransactionEnvelope.codec TextForms.reference .preMesa).deserialize
      .parser json with
  | ok envelope => rfl
  | error failure => rfl

theorem deserialize_misplaced :
    TransactionEnvelope.deserialize TextForms.reference .preMesa
        (TextForms.reference.json.toVec misplacedJson) =
      .ok misplacedEnvelope := by
  rw [deserialize_toVec (by decide +kernel)]
  decide +kernel

theorem deserialize_accent :
    TransactionEnvelope.deserialize TextForms.reference .preMesa
        (TextForms.reference.json.toVec accentJson) =
      .error .panic := by
  rw [deserialize_toVec (by decide +kernel)]
  decide +kernel

/-- A participant that has agreed in advance panics without a package, at a
command with a misplaced account update and at a memo that overruns. -/
theorem participant_not_safe :
    signedInAdvance { signingPackage := [], auxMsg := [] } = .error .panic ∧
    (misplacedEnvelope.toPallasMessage Hasher.polynomial = .error .panic ∧
      signedInAdvance
          (argsOf (TextForms.reference.json.toVec misplacedJson)) =
        .error .panic) ∧
    signedInAdvance (argsOf (TextForms.reference.json.toVec accentJson)) =
      .error .panic := by
  have noMessage : misplacedEnvelope.toPallasMessage Hasher.polynomial =
      .error .panic := by
    rfl
  refine ⟨rfl, ⟨noMessage, ?_⟩, ?_⟩
  · apply (signedInAdvance_argsOf_iff _).mpr
    refine Or.inr ⟨misplacedEnvelope, deserialize_misplaced, ?_⟩
    rw [← @TransactionEnvelope.exists_toPallasMessage_iff _ _
      Hasher.polynomial _ _ deserialize_misplaced, noMessage]
    simp
  · apply (signedInAdvance_argsOf_iff _).mpr
    exact Or.inl deserialize_accent

end Examples

end Participant
end MinaMultiSig
