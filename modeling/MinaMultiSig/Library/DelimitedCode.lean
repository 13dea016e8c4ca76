import Mathlib.Data.List.DropRight

/-!
# Codes that show where they end

A code is delimited if a value and what stands behind its code are both
recovered. Codes of one width are, and so are a code behind the code of a key
and a counted list of codes. Delimited codes are told apart even if only
fillers stand behind them.
-/

namespace DelimitedCode

variable {α β κ : Type}

/-- Values are recovered from their codes, whatever stands behind these. -/
def Delimited
    (valid : β → Prop)
    (encode : β → List α) : Prop :=
  ∀ first second rest other, valid first → valid second →
    encode first ++ rest = encode second ++ other →
      first = second ∧ rest = other

variable {valid : β → Prop} {encode : β → List α}

/-- Codes of one width are cut off by their length. -/
theorem delimited_of_width
    {width : Nat}
    (widths : ∀ value, valid value → (encode value).length = width)
    (injective : ∀ first second, valid first → valid second →
      encode first = encode second → first = second) :
    Delimited valid encode := by
  intro first second rest other firstValid secondValid same
  have lengths : (encode first).length = (encode second).length := by
    rw [widths first firstValid, widths second secondValid]
  have parts := List.append_inj same lengths
  exact ⟨injective first second firstValid secondValid parts.1, parts.2⟩

/-- The key of a value is read first, and then one of the values with that
key. -/
theorem Delimited.behind_key
    {validKey : κ → Prop}
    {encodeKey : κ → List α}
    {key : β → κ}
    (keys : Delimited validKey encodeKey)
    (values : ∀ common,
      Delimited (fun value => valid value ∧ key value = common) encode) :
    Delimited (fun value => validKey (key value) ∧ valid value)
      fun value => encodeKey (key value) ++ encode value := by
  rintro first second rest other ⟨firstKey, firstValid⟩
    ⟨secondKey, secondValid⟩ same
  rw [List.append_assoc, List.append_assoc] at same
  have sameKey := keys _ _ _ _ firstKey secondKey same
  exact values (key first) first second rest other ⟨firstValid, rfl⟩
    ⟨secondValid, sameKey.1.symm⟩ sameKey.2

/-- A known number of codes, one behind the other. -/
theorem Delimited.flatMap
    (elements : Delimited valid encode)
    (count : Nat) :
    Delimited
      (fun list => (∀ element ∈ list, valid element) ∧ list.length = count)
      (List.flatMap encode) := by
  rintro first second rest other ⟨firstValid, firstCount⟩
    ⟨secondValid, secondCount⟩ same
  induction first generalizing second count with
  | nil =>
      rw [← firstCount] at secondCount
      obtain rfl := List.eq_nil_of_length_eq_zero secondCount
      exact ⟨rfl, same⟩
  | cons head tail ih =>
      cases second with
      | nil => exact absurd (firstCount.trans secondCount.symm) (by simp)
      | cons otherHead otherTail =>
          rw [List.forall_mem_cons] at firstValid secondValid
          rw [List.flatMap_cons, List.flatMap_cons, List.append_assoc,
            List.append_assoc] at same
          obtain ⟨rfl, behind⟩ := elements _ _ _ _ firstValid.1
            secondValid.1 same
          have counts : otherTail.length = tail.length :=
            Nat.succ.inj (secondCount.trans firstCount.symm)
          obtain ⟨rfl, rests⟩ := ih tail.length otherTail firstValid.2 rfl
            secondValid.2 counts behind
          exact ⟨rfl, rests⟩

/-- Codes behind the code of their number. -/
theorem Delimited.counted
    {validCount : Nat → Prop}
    {encodeCount : Nat → List α}
    (counts : Delimited validCount encodeCount)
    (elements : Delimited valid encode) :
    Delimited
      (fun list : List β =>
        validCount list.length ∧ ∀ element ∈ list, valid element)
      fun list => encodeCount list.length ++ list.flatMap encode :=
  counts.behind_key elements.flatMap

section Fillers

variable [DecidableEq α] {filler : α}

/-- A list is what is left of it with fillers behind. -/
theorem exists_eq_append_fillers (list : List α) :
    ∃ count, list =
      list.rdropWhile (· = filler) ++ List.replicate count filler := by
  refine ⟨(list.rtakeWhile (· = filler)).length, ?_⟩
  have fillers : list.rtakeWhile (· = filler) =
      List.replicate (list.rtakeWhile (· = filler)).length filler := by
    apply List.eq_replicate_of_mem
    intro element member
    exact of_decide_eq_true
      (List.mem_rtakeWhile_imp (p := fun other => decide (other = filler))
        member)
  rw [← fillers, List.rdropWhile_append_rtakeWhile]

/-- Lists that are the same without the fillers at their ends can be filled up
to the same list. -/
theorem fill_eq_of_rdropWhile_eq
    {first second : List α}
    (same : first.rdropWhile (· = filler) =
      second.rdropWhile (· = filler)) :
    ∃ count otherCount, first ++ List.replicate count filler =
      second ++ List.replicate otherCount filler := by
  obtain ⟨otherCount, isFirst⟩ := exists_eq_append_fillers first
  obtain ⟨count, isSecond⟩ := exists_eq_append_fillers second
  refine ⟨count, otherCount, ?_⟩
  rw [isFirst, isSecond, same, List.append_assoc, List.append_assoc,
    ← List.replicate_add, ← List.replicate_add, Nat.add_comm]

end Fillers

end DelimitedCode
