import Mathlib.Data.Nat.Cast.Basic
import Mathlib.Data.List.Basic
import Mathlib.Data.List.Chain
import Mathlib.Tactic.Ring
import Mathlib.Tactic.Linarith

/-!
# Packing sized values into chunks

A list of values, each with a number of bits, is packed greedily: a value is
shifted into the current chunk while the chunk stays below a bit limit, and
starts the next chunk otherwise. For lists with the same sizes the chunks
determine the values. A chunk is the concatenation of a group of values, and
there is one way to form the groups greedily.
-/

namespace BitPacking

variable {R : Type} [Semiring R] (limit : Nat)

-- The base of the shift, without a proof of its own in each definition.
local instance two_atLeastTwo : Nat.AtLeastTwo 2 :=
  ⟨le_rfl⟩

/-- The chunks of the remaining items, given the bits used in the current chunk
and its value. -/
def chunks (used : Nat) (current : R) : List (Nat × R) → List R
  | [] => [current]
  | (size, value) :: rest =>
      if used + size < limit then
        chunks (used + size) (current * 2 ^ size + value) rest
      else current :: chunks size value rest

variable {limit}

/-- Chunks of residues are the residues of the chunks. -/
theorem chunks_natCast
    (used current : Nat)
    (items : List (Nat × Nat)) :
    chunks limit used (current : R)
        (items.map fun item => (item.1, (item.2 : R))) =
      (chunks limit used current items).map Nat.cast := by
  induction items generalizing used current with
  | nil => simp [chunks]
  | cons item rest ih =>
      obtain ⟨size, value⟩ := item
      simp only [List.map_cons, chunks]
      split_ifs
      · rw [← ih]
        push_cast
        rfl
      · rw [List.map_cons, ← ih]

/-- There is a chunk even without an item. -/
theorem chunks_ne_nil
    (used : Nat)
    (current : R)
    (items : List (Nat × R)) :
    chunks limit used current items ≠ [] := by
  induction items generalizing used current with
  | nil => simp [chunks]
  | cons item rest ih =>
      rw [chunks]
      split_ifs
      · exact ih _ _
      · simp

/-- Every value fits its size, and every size fits a chunk. -/
def Bounded (limit : Nat) (items : List (Nat × Nat)) : Prop :=
  ∀ item ∈ items, item.1 < limit ∧ item.2 < 2 ^ item.1

theorem Bounded.tail
    {item : Nat × Nat}
    {rest : List (Nat × Nat)}
    (bounded : Bounded limit (item :: rest)) :
    Bounded limit rest :=
  fun other member => bounded other (List.mem_cons_of_mem _ member)

/-- Shifting a value in keeps the bits used. -/
theorem shift_lt
    {used size current value : Nat}
    (currentBound : current < 2 ^ used)
    (valueBound : value < 2 ^ size) :
    current * 2 ^ size + value < 2 ^ (used + size) := by
  calc current * 2 ^ size + value
      < current * 2 ^ size + 2 ^ size := by omega
    _ = (current + 1) * 2 ^ size := by ring
    _ ≤ 2 ^ used * 2 ^ size := Nat.mul_le_mul_right _ currentBound
    _ = 2 ^ (used + size) := (pow_add 2 used size).symm

/-- A shifted sum determines its parts. -/
theorem shift_inj
    {size first second left right : Nat}
    (leftBound : left < 2 ^ size)
    (rightBound : right < 2 ^ size)
    (same : first * 2 ^ size + left = second * 2 ^ size + right) :
    first = second ∧ left = right := by
  have quotient := congrArg (· / 2 ^ size) same
  have remainder := congrArg (· % 2 ^ size) same
  have positive : 0 < 2 ^ size := Nat.two_pow_pos size
  simp only [Nat.mul_comm _ (2 ^ size), Nat.mul_add_div positive,
    Nat.div_eq_of_lt leftBound, Nat.div_eq_of_lt rightBound, Nat.add_zero]
    at quotient
  simp only [Nat.mul_comm _ (2 ^ size), Nat.mul_add_mod,
    Nat.mod_eq_of_lt leftBound, Nat.mod_eq_of_lt rightBound] at remainder
  exact ⟨quotient, remainder⟩

/-- Every chunk stays below the limit. -/
theorem chunks_lt
    {used current chunk : Nat}
    {items : List (Nat × Nat)}
    (usedBound : used < limit)
    (currentBound : current < 2 ^ used)
    (bounded : Bounded limit items)
    (member : chunk ∈ chunks limit used current items) :
    chunk < 2 ^ (limit - 1) := by
  have whole : ∀ {bits number : Nat}, bits < limit → number < 2 ^ bits →
      number < 2 ^ (limit - 1) :=
    fun bitsBound numberBound => numberBound.trans_le
      (Nat.pow_le_pow_right (by decide) (by omega))
  induction items generalizing used current with
  | nil =>
      obtain rfl := List.mem_singleton.mp member
      exact whole usedBound currentBound
  | cons item rest ih =>
      obtain ⟨size, value⟩ := item
      obtain ⟨sizeBound, valueBound⟩ :=
        bounded (size, value) (List.mem_cons_self ..)
      simp only [chunks] at member
      split_ifs at member with fits
      · exact ih fits (shift_lt currentBound valueBound) bounded.tail member
      · rcases List.mem_cons.mp member with rfl | later
        · exact whole usedBound currentBound
        · exact ih sizeBound valueBound bounded.tail later

/-- With the same sizes, the chunks determine the values. -/
theorem chunks_inj
    {used firstCurrent secondCurrent : Nat}
    {first second : List (Nat × Nat)}
    (sizes : first.map Prod.fst = second.map Prod.fst)
    (firstBounded : Bounded limit first)
    (secondBounded : Bounded limit second)
    (same : chunks limit used firstCurrent first =
      chunks limit used secondCurrent second) :
    firstCurrent = secondCurrent ∧ first = second := by
  induction first generalizing used firstCurrent secondCurrent second with
  | nil =>
      obtain rfl := List.map_eq_nil_iff.mp sizes.symm
      exact ⟨List.singleton_inj.mp same, rfl⟩
  | cons firstItem firstRest ih =>
      cases second with
      | nil => simp at sizes
      | cons secondItem secondRest =>
          obtain ⟨size, firstValue⟩ := firstItem
          obtain ⟨otherSize, secondValue⟩ := secondItem
          rw [List.map_cons, List.map_cons] at sizes
          obtain ⟨rfl, restSizes⟩ := List.cons.inj sizes
          obtain ⟨-, firstBound⟩ :=
            firstBounded (size, firstValue) (List.mem_cons_self ..)
          obtain ⟨-, secondBound⟩ :=
            secondBounded (size, secondValue) (List.mem_cons_self ..)
          simp only [chunks] at same
          split_ifs at same
          · obtain ⟨current, rfl⟩ := ih restSizes firstBounded.tail
              secondBounded.tail same
            obtain ⟨rfl, rfl⟩ := shift_inj firstBound secondBound current
            exact ⟨rfl, rfl⟩
          · obtain ⟨current, rest⟩ := List.cons.inj same
            obtain ⟨rfl, rfl⟩ :=
              ih restSizes firstBounded.tail secondBounded.tail rest
            exact ⟨current, rfl⟩

section Groups

variable {α : Type} (size value : α → Nat)

/-- The number of bits of some items. -/
def totalSize (items : List α) : Nat :=
  (items.map size).sum

/-- The values one behind the other as one number, the first one at the top. -/
def concatenation : List α → Nat
  | [] => 0
  | item :: rest => value item * 2 ^ totalSize size rest + concatenation rest

/-- The first item of the next group does not fit into a group. -/
def Closes (limit : Nat) (group next : List α) : Prop :=
  ∀ item ∈ next.head?, limit ≤ totalSize size group + size item

/-- The items in groups below a limit, each group as long as possible. -/
structure Greedy
    (limit : Nat)
    (items : List α)
    (groups : List (List α)) : Prop where
  flatten : groups.flatten = items
  nonempty : ∀ group ∈ groups, group ≠ []
  below : ∀ group ∈ groups, totalSize size group < limit
  closed : groups.IsChain (Closes size limit)

/-- The groups of the remaining items, given the current group. -/
def groups (limit : Nat) (current : List α) : List α → List (List α)
  | [] => [current]
  | item :: rest =>
      if totalSize size current + size item < limit then
        groups limit (current ++ [item]) rest
      else current :: groups limit [item] rest

/-- The groups of some items; there is none without an item. -/
def greedyGroups (limit : Nat) : List α → List (List α)
  | [] => []
  | item :: rest => groups size limit [item] rest

variable {size value}

theorem totalSize_append (first second : List α) :
    totalSize size (first ++ second) =
      totalSize size first + totalSize size second := by
  unfold totalSize
  rw [List.map_append, List.sum_append]

@[simp] theorem totalSize_singleton (item : α) :
    totalSize size [item] = size item := by
  simp [totalSize]

theorem concatenation_append (first second : List α) :
    concatenation size value (first ++ second) =
      concatenation size value first * 2 ^ totalSize size second +
        concatenation size value second := by
  induction first with
  | nil => simp [concatenation]
  | cons item rest ih =>
      simp only [List.cons_append, concatenation]
      rw [ih, totalSize_append, pow_add]
      ring

@[simp] theorem concatenation_singleton (item : α) :
    concatenation size value [item] = value item := by
  simp [concatenation, totalSize]

theorem concatenation_lt
    {items : List α}
    (bounded : ∀ item ∈ items, value item < 2 ^ size item) :
    concatenation size value items < 2 ^ totalSize size items := by
  induction items with
  | nil => simp [concatenation, totalSize]
  | cons item rest ih =>
      obtain ⟨head, tail⟩ := List.forall_mem_cons.mp bounded
      have joined := shift_lt head (ih tail)
      rwa [← @totalSize_singleton _ size item, ← totalSize_append]
        at joined

variable {limit : Nat} {current items : List α}

/-- The first group begins with the current one. -/
theorem exists_groups_eq :
    ∃ more tail,
      groups size limit current items = (current ++ more) :: tail := by
  induction items generalizing current with
  | nil => exact ⟨[], [], by rw [groups, List.append_nil]⟩
  | cons item rest ih =>
      rw [groups]
      split_ifs
      · obtain ⟨more, tail, isGroups⟩ := @ih (current ++ [item])
        exact ⟨item :: more, tail, by rw [isGroups, List.append_assoc]; rfl⟩
      · exact ⟨[], _, by rw [List.append_nil]⟩

theorem greedy_groups
    (nonempty : current ≠ [])
    (currentBelow : totalSize size current < limit)
    (itemsBelow : ∀ item ∈ items, size item < limit) :
    Greedy size limit (current ++ items) (groups size limit current items) := by
  induction items generalizing current with
  | nil =>
      rw [groups]
      exact
        { flatten := by simp
          nonempty := by simpa using nonempty
          below := by simpa using currentBelow
          closed := List.isChain_singleton _ }
  | cons item rest ih =>
      obtain ⟨itemBelow, restBelow⟩ := List.forall_mem_cons.mp itemsBelow
      rw [groups]
      split_ifs with fits
      · have joined : current ++ item :: rest = current ++ [item] ++ rest := by
          rw [List.append_assoc]
          rfl
        rw [joined]
        apply ih (by simp) _ restBelow
        rwa [totalSize_append, totalSize_singleton]
      · have later := @ih [item] (by simp) (by simpa using itemBelow) restBelow
        obtain ⟨more, tail, isGroups⟩ :=
          @exists_groups_eq _ size limit [item] rest
        rw [isGroups] at later ⊢
        exact
          { flatten := by rw [List.flatten_cons, later.flatten]; rfl
            nonempty := List.forall_mem_cons.mpr ⟨nonempty, later.nonempty⟩
            below := List.forall_mem_cons.mpr ⟨currentBelow, later.below⟩
            closed := by
              refine List.isChain_cons_cons.mpr ⟨?_, later.closed⟩
              intro next isNext
              obtain rfl := Option.some.inj isNext
              exact Nat.not_lt.mp fits }

/-- The chunks are the concatenations of the groups. -/
theorem chunks_eq_map_groups :
    chunks limit (totalSize size current) (concatenation size value current)
        (items.map fun item => (size item, value item)) =
      (groups size limit current items).map (concatenation size value) := by
  induction items generalizing current with
  | nil => simp [chunks, groups]
  | cons item rest ih =>
      rw [List.map_cons, chunks, groups]
      split_ifs
      · rw [← ih, totalSize_append, totalSize_singleton, concatenation_append,
          totalSize_singleton, concatenation_singleton]
      · rw [List.map_cons, ← ih, totalSize_singleton, concatenation_singleton]

/-- A group that begins with the current one is found by going on from it. -/
theorem Greedy.groups_eq
    {group more : List α}
    {tail : List (List α)}
    (greedy : Greedy size limit (current ++ items) (group :: tail))
    (isGroup : group = current ++ more)
    (nonempty : current ≠ []) :
    groups size limit current items = group :: tail := by
  induction items generalizing current group more tail with
  | nil =>
      have flat := greedy.flatten
      rw [List.flatten_cons, isGroup, List.append_assoc,
        List.append_right_inj, List.append_eq_nil_iff] at flat
      obtain ⟨rfl, noMore⟩ := flat
      have noTail : tail = [] := by
        apply List.eq_nil_iff_forall_not_mem.mpr
        intro other member
        exact greedy.nonempty other (List.mem_cons_of_mem _ member)
          (List.flatten_eq_nil_iff.mp noMore other member)
      rw [groups, isGroup, noTail, List.append_nil]
  | cons item rest ih =>
      have flat := greedy.flatten
      rw [List.flatten_cons, isGroup, List.append_assoc,
        List.append_right_inj] at flat
      rw [groups]
      cases more with
      | nil =>
          rw [List.append_nil] at isGroup
          subst isGroup
          cases tail with
          | nil => exact absurd flat (by simp)
          | cons next later =>
              obtain ⟨closes, chain⟩ := List.isChain_cons_cons.mp greedy.closed
              have nextNonempty := greedy.nonempty next (by simp)
              obtain ⟨head, others, rfl⟩ :=
                List.exists_cons_of_ne_nil nextNonempty
              obtain ⟨sameHead, restFlat⟩ := List.cons.inj flat
              obtain rfl : item = head := sameHead.symm
              have full := closes item rfl
              rw [if_neg (Nat.not_lt.mpr full)]
              have laterGreedy : Greedy size limit ([item] ++ rest)
                  ((item :: others) :: later) :=
                { flatten := congrArg (item :: ·) restFlat
                  nonempty := fun other member =>
                    greedy.nonempty other (List.mem_cons_of_mem _ member)
                  below := fun other member =>
                    greedy.below other (List.mem_cons_of_mem _ member)
                  closed := chain }
              rw [ih laterGreedy rfl (by simp)]
      | cons head others =>
          obtain ⟨sameHead, restFlat⟩ := List.cons.inj flat
          obtain rfl : item = head := sameHead.symm
          have below := greedy.below group (by simp)
          rw [isGroup, totalSize_append] at below
          have fits : totalSize size current + size item < limit := by
            have headSize : size item ≤ totalSize size (item :: others) := by
              simp [totalSize]
            omega
          rw [if_pos fits]
          have joined : current ++ item :: rest =
              current ++ [item] ++ rest := by
            rw [List.append_assoc]
            rfl
          rw [joined] at greedy
          have begins : group = current ++ [item] ++ others := by
            rw [isGroup, List.append_assoc]
            rfl
          exact ih greedy begins (by simp)

/-- There is one way to form groups greedily. -/
theorem Greedy.eq_greedyGroups
    {found : List (List α)}
    (greedy : Greedy size limit items found) :
    found = greedyGroups size limit items := by
  cases found with
  | nil =>
      obtain rfl := greedy.flatten.symm
      rfl
  | cons group tail =>
      have groupNonempty := greedy.nonempty group (by simp)
      obtain ⟨head, others, rfl⟩ := List.exists_cons_of_ne_nil groupNonempty
      obtain rfl := greedy.flatten.symm
      exact (@groups_eq _ size limit [head] _ _ others tail greedy rfl
        (by simp)).symm

theorem greedy_greedyGroups
    (itemsBelow : ∀ item ∈ items, size item < limit) :
    Greedy size limit items (greedyGroups size limit items) := by
  cases items with
  | nil =>
      exact
        { flatten := rfl
          nonempty := by simp [greedyGroups]
          below := by simp [greedyGroups]
          closed := .nil }
  | cons item rest =>
      obtain ⟨itemBelow, restBelow⟩ := List.forall_mem_cons.mp itemsBelow
      have single : totalSize size [item] < limit := by
        rwa [totalSize_singleton]
      exact greedy_groups (List.cons_ne_nil item []) single restBelow

/-- Items that fit into the current chunk are shifted in together. -/
theorem chunks_append
    {used packed : Nat}
    {first second : List α}
    (fits : used + totalSize size first < limit) :
    chunks limit used packed
        ((first ++ second).map fun item => (size item, value item)) =
      chunks limit (used + totalSize size first)
        (packed * 2 ^ totalSize size first + concatenation size value first)
        (second.map fun item => (size item, value item)) := by
  induction first generalizing used packed with
  | nil => simp [totalSize, concatenation]
  | cons item rest ih =>
      have sizes : totalSize size (item :: rest) =
          size item + totalSize size rest := by
        simp [totalSize]
      rw [sizes] at fits ⊢
      have headFits : used + size item < limit := by
        omega
      rw [List.cons_append, List.map_cons, chunks, if_pos headFits,
        ih (by omega), concatenation, pow_add, Nat.add_assoc]
      congr 1
      ring

/-- The chunks of some items are the concatenations of their groups. -/
theorem chunks_eq_map_greedyGroups
    (itemsBelow : ∀ item ∈ items, size item < limit)
    (nonempty : items ≠ []) :
    chunks limit 0 0 (items.map fun item => (size item, value item)) =
      (greedyGroups size limit items).map (concatenation size value) := by
  obtain ⟨item, rest, rfl⟩ := List.exists_cons_of_ne_nil nonempty
  have fits : 0 + size item < limit := by
    rw [Nat.zero_add]
    exact itemsBelow item (by simp)
  rw [List.map_cons, chunks, if_pos fits, greedyGroups, ← chunks_eq_map_groups,
    totalSize_singleton, concatenation_singleton, Nat.zero_add, Nat.zero_mul,
    Nat.zero_add]

end Groups

end BitPacking
