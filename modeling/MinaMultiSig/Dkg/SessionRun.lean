import MinaMultiSig.Dkg.Numbered
import MinaMultiSig.Dkg.SessionInvariant

/-!
# Whole runs of one DKG session

One participant's session receives arbitrary payloads from the others. The log
of accepted messages runs along with the state: what a phase needs to be entered
is read off the log, and no echo is accepted twice.
-/

namespace MinaMultiSig
namespace Dkg

variable {PublicKey Identifier Round1Package Round2Package Payload : Type}
  [DecidableEq PublicKey] [DecidableEq Identifier] [DecidableEq Round1Package]

/-- A session with the messages it accepted. -/
structure SessionRun
    (PublicKey Identifier Round1Package Round2Package Payload : Type) where
  state : DKGSessionState PublicKey Identifier Round1Package Round2Package
  log : List (Msg PublicKey Payload)

section Runs

variable (membership : Membership PublicKey Identifier)
  (wire : DkgWire Payload Identifier Round1Package Round2Package)

/-- Receive a message, and log it if it is accepted. -/
def SessionRun.recv
    (run :
      SessionRun PublicKey Identifier Round1Package Round2Package Payload)
    (msg : Msg PublicKey Payload) :
    SessionRun PublicKey Identifier Round1Package Round2Package Payload :=
  match run.state.recv wire msg membership.selfIdentifier with
  | (next, .ok ()) => { state := next, log := run.log ++ [msg] }
  | (next, .error _) => { state := next, log := run.log }

/-- The runs of a participant's session; the authenticated sender of a message
is another one. -/
def sessionRuns :
    TransitionSystem
      (SessionRun PublicKey Identifier Round1Package Round2Package Payload)
      (Msg PublicKey Payload) where
  initial :=
    { state := .waitingForRound1Packages membership.pubkeys ∅, log := [] }
  step run msg :=
    if msg.sender = membership.selfPubkey then none
    else some (run.recv membership wire msg)

end Runs

/-- The echoes of one participant about another one. -/
def echoesAbout
    (wire : DkgWire Payload Identifier Round1Package Round2Package)
    (log : List (Msg PublicKey Payload))
    (key : PublicKey)
    (original : Identifier) : List (Msg PublicKey Payload) :=
  log.filter fun msg =>
    msg.sender = key ∧
      (wire.fromSliceBroadcast msg.msg).map Prod.fst = some original

/-- No participant's echo about another one was accepted twice. -/
def EchoedOnce
    (wire : DkgWire Payload Identifier Round1Package Round2Package)
    (log : List (Msg PublicKey Payload)) : Prop :=
  ∀ key original, (echoesAbout wire log key original).length ≤ 1

namespace DKGSessionState

/-- How far a session is. -/
def phase :
    DKGSessionState PublicKey Identifier Round1Package Round2Package → Nat
  | .waitingForRound1Packages _ _ => 0
  | .waitingForRound1PackagesBroadcast _ _ _ => 1
  | .waitingForRound2Packages _ _ _ => 2
  | .round2PackagesReady _ _ => 3

variable {wire : DkgWire Payload Identifier Round1Package Round2Package}
  {state next :
    DKGSessionState PublicKey Identifier Round1Package Round2Package}
  {msg : Msg PublicKey Payload} {selfIdentifier : Identifier}

/-- No message leads back to an earlier phase. -/
theorem Accepts.phase_le
    (accepts : Accepts wire selfIdentifier msg state next) :
    phase state ≤ phase next := by
  cases accepts with
  | round1 => exact Nat.zero_le _
  | broadcast =>
      unfold advanceBroadcast
      split_ifs
      · exact Nat.le_succ 1
      · exact Nat.le_refl 1
  | round2 =>
      unfold advanceRound2
      split_ifs
      · exact Nat.le_succ 2
      · exact Nat.le_refl 2

theorem phase_recv_le
    (wire : DkgWire Payload Identifier Round1Package Round2Package)
    (state :
      DKGSessionState PublicKey Identifier Round1Package Round2Package)
    (msg : Msg PublicKey Payload)
    (selfIdentifier : Identifier) :
    phase state ≤ phase (state.recv wire msg selfIdentifier).1 := by
  cases received : state.recv wire msg selfIdentifier with
  | mk next result =>
      cases result with
      | ok => exact (recv_eq_ok_iff.mp received).phase_le
      | error error =>
          cases state_of_recv_error received with
          | inl unchanged => exact unchanged ▸ Nat.le_refl _
          | inr duplicated =>
              obtain ⟨_, _, _, _, _, _, rfl, rfl, -, -⟩ := duplicated
              exact Nat.le_refl 1

omit [DecidableEq PublicKey] [DecidableEq Identifier]
  [DecidableEq Round1Package] in
/-- A session that has Round 1 Packages keeps them. -/
theorem frozen_of_round1Packages
    {packages : FiniteMap Identifier Round1Package}
    (isPackages : state.round1Packages = some packages) :
    Frozen packages state := by
  cases state with
  | waitingForRound1Packages => cases isPackages
  | waitingForRound1PackagesBroadcast => exact Option.some.inj isPackages
  | waitingForRound2Packages => exact Option.some.inj isPackages
  | round2PackagesReady => trivial

omit [DecidableEq PublicKey] [DecidableEq Identifier]
  [DecidableEq Round1Package] in
theorem Frozen.round1Packages
    {packages others : FiniteMap Identifier Round1Package}
    (frozen : Frozen packages state)
    (isOthers : state.round1Packages = some others) :
    others = packages := by
  cases state with
  | waitingForRound1Packages => cases isOthers
  | waitingForRound1PackagesBroadcast =>
      exact (Option.some.inj isOthers).symm.trans frozen
  | waitingForRound2Packages =>
      exact (Option.some.inj isOthers).symm.trans frozen
  | round2PackagesReady => cases isOthers

end DKGSessionState

section Invariant

variable {membership : Membership PublicKey Identifier}
  {wire : DkgWire Payload Identifier Round1Package Round2Package}
  {log : List (Msg PublicKey Payload)} {msg : Msg PublicKey Payload}
  {run later :
    SessionRun PublicKey Identifier Round1Package Round2Package Payload}

omit [DecidableEq Round1Package] in
theorem echoesAbout_append
    (key : PublicKey)
    (original : Identifier) :
    echoesAbout wire (log ++ [msg]) key original =
      echoesAbout wire log key original ++
        echoesAbout wire [msg] key original := by
  rw [echoesAbout, List.filter_append]
  rfl

omit [DecidableEq Round1Package] in
/-- The echoes that were received are those about the original. -/
theorem exists_mem_echoesAbout_iff
    {key : PublicKey}
    {original : Identifier} :
    (∃ echo, echo ∈ echoesAbout wire log key original) ↔
      ∃ package, ReceivedBroadcast wire log key original package := by
  simp only [echoesAbout, ReceivedBroadcast, List.mem_filter,
    decide_eq_true_eq, Option.map_eq_some_iff, Prod.exists]
  constructor
  · rintro ⟨echo, member, sent, _, package, decoded, rfl⟩
    exact ⟨package, echo, member, sent, decoded⟩
  · rintro ⟨package, echo, member, sent, decoded⟩
    exact ⟨echo, member, sent, original, package, decoded, rfl⟩

omit [DecidableEq Round1Package] in
/-- A message that is no echo adds none. -/
theorem EchoedOnce.append_of_none
    (once : EchoedOnce wire log)
    (other : wire.fromSliceBroadcast msg.msg = none) :
    EchoedOnce wire (log ++ [msg]) := by
  intro key original
  rw [echoesAbout_append]
  simpa [echoesAbout, other] using once key original

omit [DecidableEq Round1Package] in
/-- An echo that was not accepted before may be accepted. -/
theorem EchoedOnce.append_of_fresh
    {original : Identifier}
    {package : Round1Package}
    (once : EchoedOnce wire log)
    (decoded : wire.fromSliceBroadcast msg.msg = some (original, package))
    (fresh : ∀ other,
      ¬ReceivedBroadcast wire log msg.sender original other) :
    EchoedOnce wire (log ++ [msg]) := by
  intro key about
  rw [echoesAbout_append, List.length_append]
  by_cases same : msg.sender = key ∧ original = about
  · obtain ⟨rfl, rfl⟩ := same
    have none : echoesAbout wire log msg.sender original = [] := by
      rw [List.eq_nil_iff_forall_not_mem]
      intro echo member
      obtain ⟨other, received⟩ :=
        exists_mem_echoesAbout_iff.mp ⟨echo, member⟩
      exact fresh other received
    rw [none, List.length_nil, Nat.zero_add]
    exact List.length_filter_le _ [msg]
  · have different : echoesAbout wire [msg] key about = [] := by
      simpa [echoesAbout, decoded] using same
    rw [different, List.length_nil, Nat.add_zero]
    exact once key about

/-- An accepted message keeps the log free of repeated echoes. -/
theorem EchoedOnce.recv
    {state next :
      DKGSessionState PublicKey Identifier Round1Package Round2Package}
    (once : EchoedOnce wire log)
    (consistent : Consistent membership wire log state)
    (received : state.recv wire msg membership.selfIdentifier =
      (next, .ok ())) :
    EchoedOnce wire (log ++ [msg]) := by
  cases DKGSessionState.recv_eq_ok_iff.mp received with
  | round1 decoded known =>
      exact once.append_of_none (wire.broadcast_of_round1 decoded)
  | broadcast decoded known originalKnown notOwn notRedundant matching fresh =>
      obtain ⟨rfl, -, -, stored, -⟩ := consistent
      apply once.append_of_fresh decoded
      intro other received
      rw [(stored.received known).mpr received] at fresh
      exact absurd fresh (by simp)
  | round2 decoded known participates =>
      exact once.append_of_none (wire.broadcast_of_round2 decoded)

/-- State and log agree, and no echo was accepted twice. -/
theorem invariant_recv
    (invariant :
      Consistent membership wire run.log run.state ∧
        EchoedOnce wire run.log)
    (notSelf : msg.sender ≠ membership.selfPubkey) :
    Consistent membership wire (run.recv membership wire msg).log
        (run.recv membership wire msg).state ∧
      EchoedOnce wire (run.recv membership wire msg).log := by
  obtain ⟨consistent, once⟩ := invariant
  unfold SessionRun.recv
  cases received :
      run.state.recv wire msg membership.selfIdentifier with
  | mk next result =>
      cases result with
      | ok =>
          exact ⟨consistent_recv consistent notSelf received,
            once.recv consistent received⟩
      | error error =>
          exact ⟨consistent_recv_error consistent received, once⟩

theorem recv_of_step
    (stepped : (sessionRuns membership wire).step run msg = some later) :
    msg.sender ≠ membership.selfPubkey ∧
      later = run.recv membership wire msg := by
  unfold sessionRuns at stepped
  dsimp only at stepped
  split_ifs at stepped with isSelf
  exact ⟨isSelf, (Option.some.inj stepped).symm⟩

theorem state_recv (run :
    SessionRun PublicKey Identifier Round1Package Round2Package Payload) :
    (run.recv membership wire msg).state =
      (run.state.recv wire msg membership.selfIdentifier).1 := by
  unfold SessionRun.recv
  rcases run.state.recv wire msg membership.selfIdentifier with
    ⟨next, error | ok⟩ <;> rfl

theorem invariant_of_reachable
    (reachable : (sessionRuns membership wire).Reachable run) :
    Consistent membership wire run.log run.state ∧
      EchoedOnce wire run.log := by
  apply reachable.invariant
  · exact ⟨consistent_initial, fun key original => Nat.zero_le _⟩
  · intro run msg later invariant stepped
    obtain ⟨notSelf, rfl⟩ := recv_of_step stepped
    exact invariant_recv invariant notSelf

omit [DecidableEq Round1Package] in
/-- In the phases that have them the Round 1 Packages are those of all others. -/
theorem Consistent.round1Packages
    {state :
      DKGSessionState PublicKey Identifier Round1Package Round2Package}
    {packages : FiniteMap Identifier Round1Package}
    (consistent : Consistent membership wire log state)
    (isPackages : state.round1Packages = some packages) :
    packages.keys = membership.others := by
  cases state with
  | waitingForRound1Packages => cases isPackages
  | waitingForRound1PackagesBroadcast pubkeys round1Packages broadcasted =>
      obtain rfl := Option.some.inj isPackages
      obtain ⟨-, -, full, -⟩ := consistent
      exact full
  | waitingForRound2Packages pubkeys round1Packages round2Packages =>
      obtain rfl := Option.some.inj isPackages
      obtain ⟨-, -, full, -⟩ := consistent
      exact full
  | round2PackagesReady => cases isPackages

/-- The Round 1 Packages of a state are those of every later one. -/
theorem round1Packages_of_reaches
    {packages laterPackages : FiniteMap Identifier Round1Package}
    (reaches : (sessionRuns membership wire).Reaches run later)
    (isPackages : run.state.round1Packages = some packages)
    (isLater : later.state.round1Packages = some laterPackages) :
    laterPackages = packages := by
  have frozen : DKGSessionState.Frozen packages later.state := by
    apply reaches.invariant _
      (DKGSessionState.frozen_of_round1Packages isPackages)
    intro run msg later frozen stepped
    obtain ⟨-, rfl⟩ := recv_of_step stepped
    rw [state_recv]
    exact frozen.recv (Prod.mk.eta).symm
  exact frozen.round1Packages isLater

omit [DecidableEq Round1Package] in
/-- When the echo broadcast is over, one echo of each participant about each
other one was accepted, and it is the package of the latter. -/
theorem BroadcastSettled.exists_echo
    {round1Packages : FiniteMap Identifier Round1Package}
    {key : PublicKey}
    {identifier original : Identifier}
    (settled : BroadcastSettled membership wire log round1Packages)
    (once : EchoedOnce wire log)
    (notSelf : key ≠ membership.selfPubkey)
    (known : membership.pubkeys.lookup key = some identifier)
    (member : original ∈ membership.others)
    (different : original ≠ identifier) :
    ∃ echo package, echoesAbout wire log key original = [echo] ∧
      wire.fromSliceBroadcast echo.msg = some (original, package) ∧
      round1Packages.lookup original = some package := by
  obtain ⟨echo, isEcho⟩ := exists_mem_echoesAbout_iff.mpr
    (settled.all key identifier original notSelf known member different)
  have single : echoesAbout wire log key original = [echo] := by
    obtain ⟨only, isOnly⟩ := List.length_eq_one_iff.mp
      (le_antisymm (once key original)
        (List.length_pos_of_mem isEcho))
    rw [isOnly, List.mem_singleton] at isEcho
    rw [isOnly, isEcho]
  obtain ⟨logged, sent, decodes⟩ := by
    simpa only [echoesAbout, List.mem_filter, decide_eq_true_eq] using isEcho
  obtain ⟨⟨_, package⟩, decoded, rfl⟩ := Option.map_eq_some_iff.mp decodes
  exact ⟨echo, package, single, decoded,
    settled.agree known ⟨echo, logged, sent, decoded⟩⟩

/-- In every run of a participant's session with the others: no phase is entered
again; the Round 1 Packages are those of all others once the first phase is
left, and fixed; with the second round every participant's echo about every
third one was accepted once and agreed; and a finished session has the Round 2
Packages of all others. -/
theorem sessionRuns_sound
    (membership : Membership PublicKey Identifier)
    (wire : DkgWire Payload Identifier Round1Package Round2Package)
    (reachable : (sessionRuns membership wire).Reachable run) :
    (∀ msg next, (sessionRuns membership wire).step run msg = some next →
      run.state.phase ≤ next.state.phase) ∧
    (∀ packages, run.state.round1Packages = some packages →
      packages.keys = membership.others ∧
      ∀ later, (sessionRuns membership wire).Reaches run later →
        ∀ laterPackages, later.state.round1Packages = some laterPackages →
          laterPackages = packages) ∧
    (∀ pubkeys round1Packages round2Packages,
      run.state =
          .waitingForRound2Packages pubkeys round1Packages round2Packages →
        ∀ key identifier original, key ≠ membership.selfPubkey →
          membership.pubkeys.lookup key = some identifier →
            original ∈ membership.others → original ≠ identifier →
              ∃ echo package,
                echoesAbout wire run.log key original = [echo] ∧
                wire.fromSliceBroadcast echo.msg = some (original, package) ∧
                round1Packages.lookup original = some package) ∧
    ∀ round2Packages, run.state.round2Packages = some round2Packages →
      round2Packages.keys = membership.others := by
  obtain ⟨consistent, once⟩ := invariant_of_reachable reachable
  refine ⟨?_, ?_, ?_, ?_⟩
  · intro msg next stepped
    obtain ⟨-, rfl⟩ := recv_of_step stepped
    rw [state_recv]
    exact DKGSessionState.phase_recv_le wire run.state msg
      membership.selfIdentifier
  · intro packages isPackages
    refine ⟨consistent.round1Packages isPackages, ?_⟩
    intro later reaches laterPackages isLater
    exact round1Packages_of_reaches reaches isPackages isLater
  · intro pubkeys round1Packages round2Packages isState key identifier original
      notSelf known member different
    rw [isState] at consistent
    obtain ⟨-, -, -, settled, -⟩ := consistent
    exact settled.exists_echo once notSelf known member different
  · intro round2Packages isPackages
    cases isState : run.state with
    | round2PackagesReady pubkeys stored =>
        rw [isState] at isPackages consistent
        obtain rfl := Option.some.inj isPackages
        obtain ⟨-, -, -, full⟩ := consistent
        exact full
    | waitingForRound1Packages => rw [isState] at isPackages; cases isPackages
    | waitingForRound1PackagesBroadcast =>
        rw [isState] at isPackages
        cases isPackages
    | waitingForRound2Packages => rw [isState] at isPackages; cases isPackages

end Invariant

/-- The session of participant 0 of the numbered participants. -/
def numberedMembership
    (count : Nat)
    (atLeastTwo : 2 ≤ count) : Membership Nat Nat where
  pubkeys := numberedPubkeys count
  injective := injective_numberedPubkeys count
  atLeastTwo := two_le_card_numberedPubkeys atLeastTwo
  selfPubkey := 0
  selfIdentifier := 0
  self_lookup := by
    rw [lookup_numberedPubkeys, if_pos (by omega)]

/-- Participants 1 and 2 send their Round 1 Packages, one of them twice, and
echo each other's, one of them twice. -/
def echoingRun : List (Msg Nat NumberedPayload) :=
  [⟨1, .inl 6⟩, ⟨1, .inl 7⟩, ⟨2, .inl 8⟩, ⟨1, .inr (.inl (2, 8))⟩,
    ⟨1, .inr (.inl (2, 8))⟩, ⟨2, .inr (.inl (1, 7))⟩]

theorem sessionRuns_sound_echoing :
    ∃ run, (sessionRuns (numberedMembership 3 (by decide))
        (taggedWire Nat Nat Nat)).run
        (sessionRuns (numberedMembership 3 (by decide))
          (taggedWire Nat Nat Nat)).initial echoingRun = some run ∧
      run.state.phase = 2 ∧
      ∃ packages, run.state.round1Packages = some packages ∧
        packages.keys = (numberedMembership 3 (by decide)).others :=
  ⟨_, rfl, rfl, _, rfl,
    ((sessionRuns_sound (numberedMembership 3 (by decide))
      (taggedWire Nat Nat Nat) ⟨echoingRun, rfl⟩).2.1 _ rfl).1⟩

end Dkg
end MinaMultiSig
