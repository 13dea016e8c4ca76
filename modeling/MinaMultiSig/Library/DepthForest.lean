import Mathlib.Data.List.Basic
import Mathlib.Data.Set.Function
import Mathlib.Order.Basic

/-!
# Forests written as lists with depths

A forest is written as the list of its labels in preorder, each label with its
depth. The parser reads such a list back; a list whose depths start at zero and
grow by at most one at a time is read without loss.

The root of a forest hashes every tree as its label with its children and joins
the trees from the last one to the first. Without collisions among the hashed
queries, the root determines the hashed labels and their places.
-/

/-- A list of trees: the label and the children of the first tree, then the
other trees. -/
inductive DepthForest (α : Type)
  | nil
  | cons (label : α) (children siblings : DepthForest α)
  deriving DecidableEq

namespace DepthForest

variable {α β : Type}

section Parsing

/-- The labels in preorder, each with its depth. -/
def flatten : DepthForest α → Nat → List (α × Nat)
  | nil, _ => []
  | cons label children siblings, depth =>
      (label, depth) ::
        (children.flatten (depth + 1) ++ siblings.flatten depth)

/-- The forest with changed labels. -/
def map (change : α → β) : DepthForest α → DepthForest β
  | nil => nil
  | cons label children siblings =>
      cons (change label) (children.map change) (siblings.map change)

theorem flatten_map
    (change : α → β)
    (forest : DepthForest α)
    (depth : Nat) :
    (forest.map change).flatten depth =
      (forest.flatten depth).map fun item => (change item.1, item.2) := by
  induction forest generalizing depth with
  | nil => rfl
  | cons label children siblings childrenIh siblingsIh =>
      simp only [map, flatten, List.map_cons, List.map_append, childrenIh,
        siblingsIh]

variable (depthOf : α → Nat)

/-- Read trees at a depth off a list until a label belongs to a smaller depth;
what is left is returned. -/
def parse : Nat → List α → Nat → DepthForest α × List α
  | 0, items, _ => (nil, items)
  | _ + 1, [], _ => (nil, [])
  | fuel + 1, item :: rest, depth =>
      if depthOf item < depth then (nil, item :: rest)
      else
        let (children, behindChildren) := parse fuel rest (depth + 1)
        let (siblings, remaining) := parse fuel behindChildren depth
        (cons item children siblings, remaining)

/-- A change of the labels that keeps their depths is also made by the
parser. -/
theorem parse_map
    {otherDepthOf : β → Nat}
    {change : α → β}
    (sameDepth : ∀ item, otherDepthOf (change item) = depthOf item)
    (fuel : Nat)
    (items : List α)
    (depth : Nat) :
    parse otherDepthOf fuel (items.map change) depth =
      ((parse depthOf fuel items depth).1.map change,
        (parse depthOf fuel items depth).2.map change) := by
  induction fuel generalizing items depth with
  | zero => rfl
  | succ fuel ih =>
      cases items with
      | nil => rfl
      | cons item rest =>
          simp only [List.map_cons, parse, sameDepth]
          split_ifs
          · rfl
          · simp only [ih, map]

/-- Every depth is at most one above the depth before it, the first one at most
a given bound. -/
def Gradual (bound : Nat) : List α → Prop
  | [] => True
  | item :: rest => depthOf item ≤ bound ∧ Gradual (depthOf item + 1) rest

variable {depthOf}

/-- Gradual depths, item by item. -/
theorem gradual_iff
    {bound : Nat}
    {items : List α} :
    Gradual depthOf bound items ↔
      (∀ first, items[0]? = some first → depthOf first ≤ bound) ∧
      ∀ (index : Nat) (item next : α), items[index]? = some item →
        items[index + 1]? = some next → depthOf next ≤ depthOf item + 1 := by
  induction items generalizing bound with
  | nil => simp [Gradual]
  | cons head rest ih =>
      rw [Gradual, ih]
      constructor
      · rintro ⟨headBound, nextBound, later⟩
        refine ⟨by simpa using headBound, ?_⟩
        intro index item next isItem isNext
        cases index with
        | zero =>
            obtain rfl := Option.some.inj isItem
            exact nextBound next isNext
        | succ index => exact later index item next isItem isNext
      · rintro ⟨headBound, steps⟩
        refine ⟨headBound head rfl, ?_, ?_⟩
        · intro next isNext
          exact steps 0 head next rfl isNext
        · intro index item next isItem isNext
          exact steps (index + 1) item next isItem isNext

theorem Gradual.weaken
    {bound larger : Nat}
    {items : List α}
    (gradual : Gradual depthOf bound items)
    (atMost : bound ≤ larger) :
    Gradual depthOf larger items := by
  cases items with
  | nil => trivial
  | cons item rest => exact ⟨gradual.1.trans atMost, gradual.2⟩

/-- A part of a gradual list is gradual from any bound of its first depth. -/
theorem Gradual.of_append
    {bound start : Nat}
    {front back : List α}
    (gradual : Gradual depthOf bound (front ++ back))
    (atMost : ∀ next ∈ back.head?, depthOf next ≤ start) :
    Gradual depthOf start back := by
  induction front generalizing bound with
  | nil =>
      cases back with
      | nil => trivial
      | cons next rest => exact ⟨atMost next rfl, gradual.2⟩
  | cons item rest ih => exact ih gradual.2

/-- With enough fuel the parser reads the trees at its depth and stops at the
first label of a smaller depth. -/
theorem parse_spec
    {fuel depth : Nat}
    {items : List α}
    (enough : items.length ≤ fuel)
    (gradual : Gradual depthOf depth items) :
    ∃ front,
      items = front ++ (parse depthOf fuel items depth).2 ∧
        (parse depthOf fuel items depth).1.flatten depth =
          front.map (fun item => (item, depthOf item)) ∧
        ∀ next ∈ (parse depthOf fuel items depth).2.head?,
          depthOf next < depth := by
  induction fuel generalizing items depth with
  | zero =>
      obtain rfl := List.length_eq_zero_iff.mp (Nat.le_zero.mp enough)
      exact ⟨[], rfl, rfl, by simp [parse]⟩
  | succ fuel ih =>
      cases items with
      | nil => exact ⟨[], rfl, rfl, by simp [parse]⟩
      | cons item rest =>
          rw [parse]
          split_ifs with smaller
          · exact ⟨[], rfl, rfl, by simpa using smaller⟩
          · obtain ⟨itemBound, restGradual⟩ := gradual
            have itemDepth : depthOf item = depth := by omega
            rw [itemDepth] at restGradual
            have restEnough : rest.length ≤ fuel :=
              Nat.le_of_succ_le_succ enough
            obtain ⟨below, restEq, childrenEq, childrenStop⟩ :=
              ih restEnough restGradual
            -- behind the children comes a label of this depth or a smaller one
            have behindGradual : Gradual depthOf depth
                (parse depthOf fuel rest (depth + 1)).2 := by
              rw [restEq] at restGradual
              exact restGradual.of_append fun next isNext =>
                Nat.le_of_lt_succ (childrenStop next isNext)
            have behindEnough :
                (parse depthOf fuel rest (depth + 1)).2.length ≤ fuel := by
              have lengths := congrArg List.length restEq
              rw [List.length_append] at lengths
              omega
            obtain ⟨beside, behindEq, siblingsEq, siblingsStop⟩ :=
              ih behindEnough behindGradual
            refine ⟨item :: (below ++ beside), ?_, ?_, siblingsStop⟩
            · rw [List.cons_append, List.append_assoc, ← behindEq, ← restEq]
            · simp only [flatten, childrenEq, siblingsEq, List.map_cons,
                List.map_append, itemDepth]

/-- A list whose depths start at zero and grow by at most one is read back
without loss. -/
theorem flatten_parse
    {items : List α}
    (gradual : Gradual depthOf 0 items) :
    (parse depthOf items.length items 0).1.flatten 0 =
      items.map fun item => (item, depthOf item) := by
  obtain ⟨front, itemsEq, flattened, stops⟩ := parse_spec le_rfl gradual
  have nothingLeft : (parse depthOf items.length items 0).2 = [] := by
    cases left : (parse depthOf items.length items 0).2 with
    | nil => rfl
    | cons next rest =>
        rw [left] at stops
        exact absurd (stops next rfl) (Nat.not_lt_zero _)
  rw [nothingLeft, List.append_nil] at itemsEq
  rw [flattened, ← itemsEq]

/-- The labels in preorder. -/
def preorder : DepthForest α → List α
  | nil => []
  | cons label children siblings =>
      label :: (children.preorder ++ siblings.preorder)

variable (depthOf) in
/-- How a loop builds the trees at a depth: it ends with the list or at a
smaller depth, and otherwise takes a label, builds its children one deeper and
goes on behind them. -/
inductive Builds :
    List α → Nat → DepthForest α → List α → Prop
  | ends (depth : Nat) : Builds [] depth nil []
  | smaller
      {item : α}
      {rest : List α}
      {depth : Nat}
      (below : depthOf item < depth) :
      Builds (item :: rest) depth nil (item :: rest)
  | tree
      {item : α}
      {rest behind remaining : List α}
      {depth : Nat}
      {children siblings : DepthForest α}
      (notBelow : ¬depthOf item < depth)
      (buildsChildren : Builds rest (depth + 1) children behind)
      (buildsSiblings : Builds behind depth siblings remaining) :
      Builds (item :: rest) depth (cons item children siblings) remaining

/-- Nothing is lost, duplicated or reordered: what is built and what is left
are the list, and what is left begins with a smaller depth. -/
theorem Builds.preorder_append
    {items remaining : List α}
    {depth : Nat}
    {forest : DepthForest α}
    (builds : Builds depthOf items depth forest remaining) :
    forest.preorder ++ remaining = items ∧
      ∀ next ∈ remaining.head?, depthOf next < depth := by
  induction builds with
  | ends depth => exact ⟨rfl, by simp⟩
  | smaller below => exact ⟨rfl, by simpa using below⟩
  | tree notBelow buildsChildren buildsSiblings childrenIh siblingsIh =>
      refine ⟨?_, siblingsIh.2⟩
      rw [preorder, List.cons_append, List.append_assoc, siblingsIh.1,
        childrenIh.1]

/-- With enough fuel the parser builds its result. -/
theorem builds_parse
    {fuel depth : Nat}
    {items : List α}
    (enough : items.length ≤ fuel) :
    Builds depthOf items depth (parse depthOf fuel items depth).1
      (parse depthOf fuel items depth).2 := by
  induction fuel generalizing items depth with
  | zero =>
      rw [List.length_eq_zero_iff.mp (Nat.le_zero.mp enough)]
      exact Builds.ends depth
  | succ fuel ih =>
      cases items with
      | nil => exact Builds.ends depth
      | cons item rest =>
          unfold parse
          split
          next below => exact Builds.smaller below
          next notBelow =>
            have restEnough : rest.length ≤ fuel :=
              Nat.le_of_succ_le_succ enough
            have children := @ih (depth + 1) rest restEnough
            apply Builds.tree notBelow children
            apply ih
            have lengths := congrArg List.length children.preorder_append.1
            rw [List.length_append] at lengths
            omega

/-- Only one result is built. -/
theorem Builds.unique
    {items remaining otherRemaining : List α}
    {depth : Nat}
    {forest other : DepthForest α}
    (builds : Builds depthOf items depth forest remaining)
    (buildsOther : Builds depthOf items depth other otherRemaining) :
    forest = other ∧ remaining = otherRemaining := by
  induction builds generalizing other otherRemaining with
  | ends depth =>
      cases buildsOther with
      | ends => exact ⟨rfl, rfl⟩
  | smaller below =>
      cases buildsOther with
      | smaller => exact ⟨rfl, rfl⟩
      | tree notBelow => exact absurd below notBelow
  | tree notBelow buildsChildren buildsSiblings childrenIh siblingsIh =>
      cases buildsOther with
      | smaller below => exact absurd below notBelow
      | tree _ otherChildren otherSiblings =>
          obtain ⟨rfl, rfl⟩ := childrenIh otherChildren
          obtain ⟨rfl, rfl⟩ := siblingsIh otherSiblings
          exact ⟨rfl, rfl⟩

/-- Every node is at the depth of its label. -/
def Placed (depthOf : α → Nat) (forest : DepthForest α) (depth : Nat) : Prop :=
  ∀ node ∈ forest.flatten depth, node.2 = depthOf node.1

theorem placed_cons
    {label : α}
    {children siblings : DepthForest α}
    {depth : Nat} :
    Placed depthOf (cons label children siblings) depth ↔
      depth = depthOf label ∧ Placed depthOf children (depth + 1) ∧
        Placed depthOf siblings depth := by
  unfold Placed
  rw [flatten, List.forall_mem_cons, List.forall_mem_append]

/-- The labels of a forest in its places are a gradual list. -/
theorem gradual_preorder
    {forest : DepthForest α}
    {depth : Nat}
    {rest : List α}
    (placed : Placed depthOf forest depth)
    (gradual : Gradual depthOf depth rest) :
    Gradual depthOf depth (forest.preorder ++ rest) := by
  induction forest generalizing depth rest with
  | nil => exact gradual
  | cons label children siblings childrenIh siblingsIh =>
      have parts := placed_cons.mp placed
      rw [preorder, List.cons_append, List.append_assoc]
      constructor
      · exact Nat.le_of_eq parts.1.symm
      · rw [← parts.1]
        apply childrenIh parts.2.1
        exact (siblingsIh parts.2.2 gradual).weaken (Nat.le_succ depth)

/-- A forest in its places is built from its labels. -/
theorem builds_preorder
    {forest : DepthForest α}
    {depth : Nat}
    {rest : List α}
    (placed : Placed depthOf forest depth)
    (stops : ∀ next ∈ rest.head?, depthOf next < depth) :
    Builds depthOf (forest.preorder ++ rest) depth forest rest := by
  induction forest generalizing depth rest with
  | nil =>
      cases rest with
      | nil => exact Builds.ends depth
      | cons next rest => exact Builds.smaller (stops next rfl)
  | cons label children siblings childrenIh siblingsIh =>
      have parts := placed_cons.mp placed
      rw [preorder, List.cons_append, List.append_assoc]
      apply Builds.tree (Nat.not_lt.mpr (Nat.le_of_eq parts.1))
      · apply childrenIh parts.2.1
        intro next isNext
        cases siblings with
        | nil => exact Nat.lt_succ_of_lt (stops next isNext)
        | cons other _ _ =>
            have isOther : other = next := Option.some.inj isNext
            rw [← isOther, ← (placed_cons.mp parts.2.2).1]
            exact Nat.lt_succ_self depth
      · exact siblingsIh parts.2.2 stops

end Parsing

section Hashing

variable {Query Hash : Type} (hash : Query → Hash) (label : α → Query)
  (node stack : Hash → Hash → Query) (empty : Hash)

/-- The hash of a forest: trees are joined from the last to the first, each as
its label with the hash of its children. -/
def root : DepthForest α → Hash
  | nil => empty
  | cons item children siblings =>
      hash (stack (hash (node (hash (label item)) children.root)) siblings.root)

/-- Everything that is hashed for the root of a forest. -/
def queries : DepthForest α → List Query
  | nil => []
  | cons item children siblings =>
      let nodeQuery :=
        node (hash (label item)) (children.root hash label node stack empty)
      let stackQuery :=
        stack (hash nodeQuery) (siblings.root hash label node stack empty)
      label item :: nodeQuery :: stackQuery ::
        (children.queries ++ siblings.queries)

variable {hash label node stack empty}

/-- Without collisions the root determines the forest of hashed labels. -/
theorem root_inj
    {hashed : Set Query}
    (collisionFree : Set.InjOn hash hashed)
    (neverEmpty : ∀ query ∈ hashed, hash query ≠ empty)
    (nodeInj : ∀ {a b c d}, node a b = node c d → a = c ∧ b = d)
    (stackInj : ∀ {a b c d}, stack a b = stack c d → a = c ∧ b = d)
    {first second : DepthForest α}
    (firstHashed : ∀ query ∈ first.queries hash label node stack empty,
      query ∈ hashed)
    (secondHashed : ∀ query ∈ second.queries hash label node stack empty,
      query ∈ hashed)
    (same : first.root hash label node stack empty =
      second.root hash label node stack empty) :
    first.map label = second.map label := by
  induction first generalizing second with
  | nil =>
      cases second with
      | nil => rfl
      | cons item children siblings =>
          exact absurd same.symm
            (neverEmpty _ (secondHashed _ (by simp [queries])))
  | cons item children siblings childrenIh siblingsIh =>
      cases second with
      | nil =>
          exact absurd same (neverEmpty _ (firstHashed _ (by simp [queries])))
      | cons otherItem otherChildren otherSiblings =>
          simp only [queries, List.mem_cons, List.mem_append, forall_eq_or_imp]
            at firstHashed secondHashed
          obtain ⟨firstLabel, firstNode, firstStack, firstRest⟩ := firstHashed
          obtain ⟨secondLabel, secondNode, secondStack, secondRest⟩ :=
            secondHashed
          obtain ⟨nodeHashes, siblingRoots⟩ :=
            stackInj (collisionFree firstStack secondStack same)
          obtain ⟨labelHashes, childRoots⟩ :=
            nodeInj (collisionFree firstNode secondNode nodeHashes)
          have labels := collisionFree firstLabel secondLabel labelHashes
          have childForests := childrenIh
            (fun query asked => firstRest query (Or.inl asked))
            (fun query asked => secondRest query (Or.inl asked)) childRoots
          have siblingForests := siblingsIh
            (fun query asked => firstRest query (Or.inr asked))
            (fun query asked => secondRest query (Or.inr asked)) siblingRoots
          rw [map, map, labels, childForests, siblingForests]

end Hashing

end DepthForest
