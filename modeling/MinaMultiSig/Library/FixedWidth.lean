import Mathlib.Data.List.Basic
import Mathlib.Algebra.BigOperators.Group.List.Basic
import Mathlib.Algebra.GroupWithZero.Nat
import Mathlib.Algebra.Order.BigOperators.Group.List

/-!
# Padding or cutting a list to a fixed width

Elements have a size of at least one. A list that fits a limit is padded up to
it, and a longer one is cut to that many elements. When all lists carry the same
suffix, the position of the head of the suffix shows where the suffix begins,
unless the suffix has been cut off completely. This decides when two lists end
up equal.
-/

namespace FixedWidth

variable {α : Type} (size : α → Nat) (limit : Nat) (pad : α)

/-- The sum of the sizes of the elements. -/
def totalSize (list : List α) : Nat :=
  (list.map size).sum

/-- Pad a list up to the limit, or cut it to `limit` elements. -/
def padOrCut (list : List α) : List α :=
  if totalSize size list ≤ limit then
    list ++ List.replicate (limit - totalSize size list) pad
  else list.take limit

variable {size limit pad}

@[simp] theorem totalSize_append (first second : List α) :
    totalSize size (first ++ second) =
      totalSize size first + totalSize size second := by
  simp [totalSize]

theorem length_le_totalSize
    (positive : ∀ element, 0 < size element)
    (list : List α) :
    list.length ≤ totalSize size list := by
  induction list with
  | nil => simp
  | cons head tail ih =>
      have := positive head
      simp only [totalSize, List.map_cons, List.sum_cons,
        List.length_cons] at ih ⊢
      omega

/-- The result is never smaller than the limit. -/
theorem limit_le_totalSize_padOrCut
    (positive : ∀ element, 0 < size element)
    (list : List α) :
    limit ≤ totalSize size (padOrCut size limit pad list) := by
  unfold padOrCut
  split_ifs with fits
  · have padding := length_le_totalSize positive
      (List.replicate (limit - totalSize size list) pad)
    rw [List.length_replicate] at padding
    rw [totalSize_append]
    omega
  · rcases le_total limit list.length with long | short
    · have kept := length_le_totalSize positive (list.take limit)
      rwa [List.length_take, min_eq_left long] at kept
    · rw [List.take_of_length_le short]
      omega

/-- A padded list has the size of the limit. -/
theorem totalSize_padOrCut_of_le
    {list : List α}
    (unit : size pad = 1)
    (fits : totalSize size list ≤ limit) :
    totalSize size (padOrCut size limit pad list) = limit := by
  have padding : totalSize size
      (List.replicate (limit - totalSize size list) pad) =
        limit - totalSize size list := by
    simp [totalSize, unit]
  rw [padOrCut, if_pos fits, totalSize_append, padding]
  omega

/-- A list that fits, with unit elements behind it, is filled up or cut to the
size of the limit exactly if there is room for all of these or the elements of
the list have the size of units, too. -/
theorem totalSize_padOrCut_append_eq_iff
    {first second : List α}
    (positive : ∀ element, 0 < size element)
    (unit : size pad = 1)
    (units : ∀ element ∈ second, size element = 1)
    (fits : totalSize size first ≤ limit) :
    totalSize size (padOrCut size limit pad (first ++ second)) = limit ↔
      totalSize size first + second.length ≤ limit ∨
        first.length = totalSize size first := by
  have sizeOfUnits : ∀ count,
      totalSize size (second.take count) = min count second.length := by
    intro count
    have ones : (second.take count).map size =
        List.replicate (second.take count).length 1 := by
      rw [← List.map_const']
      exact List.map_congr_left fun element member =>
        units element (List.mem_of_mem_take member)
    rw [totalSize, ones, List.sum_replicate_nat, List.length_take, mul_one]
  have whole : totalSize size (first ++ second) =
      totalSize size first + second.length := by
    have all := sizeOfUnits second.length
    rw [List.take_length, min_self] at all
    rw [totalSize_append, all]
  have chars := length_le_totalSize positive first
  by_cases room : totalSize size (first ++ second) ≤ limit
  · rw [totalSize_padOrCut_of_le unit room]
    rw [whole] at room
    exact iff_of_true rfl (Or.inl room)
  · rw [padOrCut, if_neg room, List.take_append,
      List.take_of_length_le (chars.trans fits), totalSize_append, sizeOfUnits]
    rw [whole] at room
    omega

/-- What comes before the limit is kept. -/
theorem take_padOrCut_append
    {first second : List α}
    (short : first.length ≤ limit) :
    (padOrCut size limit pad (first ++ second)).take first.length = first := by
  unfold padOrCut
  split_ifs
  · rw [List.append_assoc, List.take_left]
  · rw [List.take_take, min_eq_left short, List.take_left]

/-- A full first part pushes the rest out. -/
theorem padOrCut_append_of_full
    {first second : List α}
    (positive : ∀ element, 0 < size element)
    (full : first.length = limit)
    (nonempty : second ≠ []) :
    padOrCut size limit pad (first ++ second) = first := by
  have firstSize := length_le_totalSize positive first
  have secondSize := length_le_totalSize positive second
  have secondLength := List.length_pos_of_ne_nil nonempty
  unfold padOrCut
  rw [if_neg (by rw [totalSize_append]; omega), ← full, List.take_left]

section Suffix

variable {head : α} {tail first second : List α}

/-- The head of the suffix stands right behind a first part that leaves room. -/
theorem getElem?_padOrCut_append
    (short : first.length < limit) :
    (padOrCut size limit pad (first ++ head :: tail))[first.length]? =
      some head := by
  unfold padOrCut
  split_ifs
  · simp
  · rw [List.getElem?_take_of_lt short]
    simp

/-- Behind the head of the suffix stand the rest of the suffix and padding. -/
theorem getElem?_padOrCut_append_gt
    {position : Nat}
    {element : α}
    (behind : first.length < position)
    (found :
      (padOrCut size limit pad (first ++ head :: tail))[position]? =
        some element) :
    element ∈ tail ∨ element = pad := by
  have inside : ∀ padding : List α,
      (∀ other ∈ padding, other = pad) →
        (first ++ head :: tail ++ padding)[position]? = some element →
          element ∈ tail ∨ element = pad := by
    intro padding allPad located
    rw [List.append_assoc, List.getElem?_append_right (by omega)] at located
    obtain ⟨offset, offsetEq⟩ : ∃ offset,
        position - first.length = offset + 1 :=
      ⟨position - first.length - 1, by omega⟩
    rw [offsetEq, List.cons_append, List.getElem?_cons_succ] at located
    rcases List.mem_append.mp (List.mem_of_getElem? located) with
      inTail | inPadding
    · exact Or.inl inTail
    · exact Or.inr (allPad element inPadding)
  unfold padOrCut at found
  split_ifs at found
  · exact inside _ (fun _ member => List.eq_of_mem_replicate member) found
  · have inList : (first ++ head :: tail)[position]? = some element := by
      rw [List.getElem?_take] at found
      split_ifs at found
      exact found
    refine inside [] (by simp) ?_
    rw [List.append_nil]
    exact inList

/-- Two first parts that both leave room give different results unless they are
equal. -/
theorem eq_of_padOrCut_append_eq
    (notInTail : head ∉ tail)
    (notPad : head ≠ pad)
    (firstShort : first.length < limit)
    (secondShort : second.length < limit)
    (same : padOrCut size limit pad (first ++ head :: tail) =
      padOrCut size limit pad (second ++ head :: tail)) :
    first = second := by
  have notBehind : ∀ {shorter longer : List α},
      longer.length < limit → shorter.length < longer.length →
        padOrCut size limit pad (shorter ++ head :: tail) ≠
          padOrCut size limit pad (longer ++ head :: tail) := by
    intro shorter longer room less equal
    have found :
        (padOrCut size limit pad (longer ++ head :: tail))[longer.length]? =
          some head :=
      getElem?_padOrCut_append room
    rw [← equal] at found
    rcases getElem?_padOrCut_append_gt less found with inTail | isPad
    · exact notInTail inTail
    · exact notPad isPad
  have sameLength : first.length = second.length := by
    rcases lt_trichotomy first.length second.length with less | equal | greater
    · exact absurd same (notBehind secondShort less)
    · exact equal
    · exact absurd same.symm (notBehind firstShort greater)
  have firstBack : (padOrCut size limit pad (first ++ head :: tail)).take
      first.length = first :=
    take_padOrCut_append firstShort.le
  rw [← firstBack, same, sameLength, take_padOrCut_append secondShort.le]

/-- With a common suffix two different first parts become equal exactly when one
of them fills the limit and is what the other one becomes. -/
theorem padOrCut_append_eq_iff
    (positive : ∀ element, 0 < size element)
    (notInTail : head ∉ tail)
    (notPad : head ≠ pad)
    (firstFits : first.length ≤ limit)
    (secondFits : second.length ≤ limit) :
    padOrCut size limit pad (first ++ head :: tail) =
        padOrCut size limit pad (second ++ head :: tail) ↔
      first = second ∨
      (first.length = limit ∧
        first = padOrCut size limit pad (second ++ head :: tail)) ∨
      (second.length = limit ∧
        second = padOrCut size limit pad (first ++ head :: tail)) := by
  have full : ∀ {part : List α}, part.length = limit →
      padOrCut size limit pad (part ++ head :: tail) = part :=
    fun fills => padOrCut_append_of_full positive fills (by simp)
  constructor
  · intro same
    rcases firstFits.lt_or_eq with firstShort | firstFull
    · rcases secondFits.lt_or_eq with secondShort | secondFull
      · exact Or.inl (eq_of_padOrCut_append_eq notInTail notPad firstShort
          secondShort same)
      · exact Or.inr (Or.inr ⟨secondFull, by rw [same, full secondFull]⟩)
    · exact Or.inr (Or.inl ⟨firstFull, by rw [← same, full firstFull]⟩)
  · rintro (rfl | ⟨firstFull, same⟩ | ⟨secondFull, same⟩)
    · rfl
    · rw [full firstFull, ← same]
    · rw [full secondFull, ← same]

/-- A fixed result comes from a full first part that is the result, or from a
beginning of the result that ends before the head of the suffix. -/
theorem padOrCut_append_eq_const
    {constant : List α}
    (positive : ∀ element, 0 < size element)
    (fits : first.length ≤ limit)
    (becomes : padOrCut size limit pad (first ++ head :: tail) = constant) :
    (first.length = limit ∧ first = constant) ∨
      ∃ length < limit, constant[length]? = some head ∧
        first = constant.take length ∧
        padOrCut size limit pad (constant.take length ++ head :: tail) =
          constant := by
  rcases fits.lt_or_eq with short | full
  · refine Or.inr ⟨first.length, short, ?_⟩
    have beginning : first = constant.take first.length := by
      rw [← becomes, take_padOrCut_append fits]
    refine ⟨?_, beginning, by rw [← beginning, becomes]⟩
    rw [← becomes]
    exact getElem?_padOrCut_append short
  · refine Or.inl ⟨full, ?_⟩
    rw [← becomes, padOrCut_append_of_full positive full (by simp)]

end Suffix

end FixedWidth
