import MinaMultiSig.Library.Transition
import Mathlib.Logic.Function.Basic
import Mathlib.Tactic.SplitIfs

/-!
# Streams and their readers

What an ordered authenticated channel is for: writers append to streams, and a
reader takes the elements of one stream meant for it, each once and in order.
Behind it the ideal form of the ciphers that give such a channel: a ciphertext
has at most one origin, and whoever holds no key can only pass on ciphertexts
that were made.
-/

/-- The streams, and what each reader has taken from the one it follows. -/
structure Streams (Stream Reader Payload : Type) where
  written : Stream → List Payload
  source : Reader → Option Stream
  received : Reader → List Payload

namespace Streams

variable {Stream Reader Payload : Type}

/-- Write to a stream, or read the next element of one. -/
inductive Action (Stream Reader Payload : Type)
  | write (stream : Stream) (payload : Payload)
  | read (reader : Reader) (stream : Stream)

/-- A reader follows the stream it started with. -/
def Follows
    (state : Streams Stream Reader Payload)
    (reader : Reader)
    (stream : Stream) : Prop :=
  ∀ other, state.source reader = some other → other = stream

variable [DecidableEq Stream] [DecidableEq Reader]

instance
    (state : Streams Stream Reader Payload)
    (reader : Reader)
    (stream : Stream) :
    Decidable (state.Follows reader stream) :=
  decidable_of_iff (∀ other ∈ state.source reader, other = stream) Iff.rfl

section System

variable (meant : Reader → Stream → Prop)
  [∀ reader stream, Decidable (meant reader stream)]

/-- A stream grows at its end, and a reader takes the next element. -/
def step
    (state : Streams Stream Reader Payload) :
    Action Stream Reader Payload → Option (Streams Stream Reader Payload)
  | .write stream payload =>
      some { state with
        written := Function.update state.written stream
          (state.written stream ++ [payload]) }
  | .read reader stream =>
      if meant reader stream ∧ state.Follows reader stream then
        (state.written stream)[(state.received reader).length]?.map
          fun payload =>
            { state with
              source := Function.update state.source reader (some stream)
              received := Function.update state.received reader
                (state.received reader ++ [payload]) }
      else none

/-- At first nothing is written and nothing read. -/
def system :
    TransitionSystem (Streams Stream Reader Payload)
      (Action Stream Reader Payload) where
  initial :=
    { written := fun _ => []
      source := fun _ => none
      received := fun _ => [] }
  step := step meant

end System

/-- The next element of a list extends a prefix of it. -/
theorem isPrefix_concat
    {written received : List Payload}
    {payload : Payload}
    (before : received <+: written)
    (next : written[received.length]? = some payload) :
    received ++ [payload] <+: written := by
  obtain ⟨rest, rfl⟩ := before
  rw [List.getElem?_append_right (Nat.le_refl _), Nat.sub_self] at next
  obtain ⟨tail, rfl⟩ : ∃ tail, rest = payload :: tail := by
    cases rest with
    | nil => simp at next
    | cons first tail => exact ⟨tail, by simpa using next⟩
  exact ⟨tail, by simp⟩

/-- Each reader holds the start of the one stream it follows. -/
structure InOrder
    (meant : Reader → Stream → Prop)
    (state : Streams Stream Reader Payload) : Prop where
  follows : ∀ reader stream, state.source reader = some stream →
    meant reader stream ∧ state.received reader <+: state.written stream
  idle : ∀ reader, state.source reader = none → state.received reader = []

variable {meant : Reader → Stream → Prop}
  [∀ reader stream, Decidable (meant reader stream)]
  {state next : Streams Stream Reader Payload}
  {action : Action Stream Reader Payload}

omit [DecidableEq Stream] [DecidableEq Reader]
  [∀ reader stream, Decidable (meant reader stream)] in
/-- What a reader has is the start of each stream it may follow. -/
theorem InOrder.isPrefix
    (inOrder : InOrder meant state)
    {reader : Reader}
    {stream : Stream}
    (follows : state.Follows reader stream) :
    state.received reader <+: state.written stream := by
  cases source : state.source reader with
  | none =>
      rw [inOrder.idle reader source]
      exact List.nil_prefix
  | some other =>
      obtain rfl := follows other source
      exact (inOrder.follows reader other source).2

theorem InOrder.step
    (inOrder : InOrder meant state)
    (stepped : step meant state action = some next) :
    InOrder meant next := by
  cases action with
  | write stream payload =>
      obtain rfl := Option.some.inj stepped
      refine ⟨?_, inOrder.idle⟩
      intro reader other source
      obtain ⟨isMeant, before⟩ := inOrder.follows reader other source
      refine ⟨isMeant, before.trans ?_⟩
      by_cases same : other = stream
      · subst same
        simp only [Function.update_self]
        exact List.prefix_append _ _
      · simp only [Function.update_of_ne same]
        exact List.prefix_refl _
  | read reader stream =>
      simp only [Streams.step] at stepped
      split_ifs at stepped with enabled
      obtain ⟨isMeant, follows⟩ := enabled
      obtain ⟨payload, isNext, rfl⟩ := Option.map_eq_some_iff.mp stepped
      have extended := isPrefix_concat (inOrder.isPrefix follows) isNext
      constructor
      · intro other otherStream source
        by_cases same : other = reader
        · subst same
          simp only [Function.update_self, Option.some.injEq] at source ⊢
          subst source
          exact ⟨isMeant, extended⟩
        · simp only [Function.update_of_ne same] at source ⊢
          exact inOrder.follows other otherStream source
      · intro other source
        by_cases same : other = reader
        · subst same
          simp at source
        · simp only [Function.update_of_ne same] at source ⊢
          exact inOrder.idle other source

theorem inOrder_of_reachable
    (reachable : (system meant).Reachable state) :
    InOrder meant state := by
  apply reachable.invariant
  · exact ⟨fun _ _ source => absurd source (by simp [system]), fun _ _ => rfl⟩
  · intro state action next inOrder stepped
    exact inOrder.step stepped

end Streams

/-- An ideal authenticated cipher: a ciphertext shows which channel, which number
and which payload it was made for, if it was made for any. -/
structure Sealing (Channel Payload Ciphertext : Type) where
  ciphertext : Channel → Nat → Payload → Ciphertext
  origin : Ciphertext → Option (Channel × Nat × Payload)
  origin_eq_some_iff : ∀ message channel number payload,
    origin message = some (channel, number, payload) ↔
      message = ciphertext channel number payload

namespace Sealing

variable {Channel Payload Ciphertext : Type}
  (sealing : Sealing Channel Payload Ciphertext)

@[simp] theorem origin_ciphertext
    (channel : Channel)
    (number : Nat)
    (payload : Payload) :
    sealing.origin (sealing.ciphertext channel number payload) =
      some (channel, number, payload) :=
  (sealing.origin_eq_some_iff _ channel number payload).mpr rfl

/-- What can be delivered without the keys of the protected channels: a
ciphertext that was posted, or one of another origin. -/
def CanDeliver
    (protectedChannel : Channel → Prop)
    (posted : List Ciphertext)
    (message : Ciphertext) : Prop :=
  message ∈ posted ∨
    ∀ made ∈ sealing.origin message, ¬protectedChannel made.1

instance
    [DecidableEq Ciphertext]
    (protectedChannel : Channel → Prop)
    [DecidablePred protectedChannel]
    (posted : List Ciphertext)
    (message : Ciphertext) :
    Decidable (sealing.CanDeliver protectedChannel posted message) :=
  inferInstanceAs (Decidable (_ ∨ _))

/-- A delivered ciphertext of a protected channel was posted. -/
theorem CanDeliver.mem_posted
    {sealing : Sealing Channel Payload Ciphertext}
    {protectedChannel : Channel → Prop}
    {posted : List Ciphertext}
    {message : Ciphertext}
    {channel : Channel}
    {number : Nat}
    {payload : Payload}
    (delivered : sealing.CanDeliver protectedChannel posted message)
    (made : sealing.origin message = some (channel, number, payload))
    (isProtected : protectedChannel channel) :
    message ∈ posted := by
  rcases delivered with isPosted | unprotected
  · exact isPosted
  · exact absurd isProtected (unprotected _ made)

end Sealing
