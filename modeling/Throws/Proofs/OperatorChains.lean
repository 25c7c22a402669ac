import Throws.Proofs.Printing
import Throws.Proofs.Relocation

/-!
# Expressions as operands in a row

A printed expression is a row of operands with connectives between them, where an operand is what
stands in parentheses or binds more tightly than every connective. `Expr.spine` gives this row, and
`shapes_eq_spine` says that it is what is printed. Grouping the row by precedence gives the
expression back (`assemble_spine`): the level of each connective and the side on which an operand
stands tell where it belongs, since an operand that binds less tightly has been put in parentheses.

The calls behind an operand are taken apart in the same way (`Expr.callSpine`).
-/

namespace Throws.Surface

variable {ι κ : Type}

/-! ## Taking expressions apart -/

/-- An expression is made of two others by a connective. -/
inductive Connective.Joins : Connective → Expr ι → Expr ι → Expr ι → Prop
  | operator {op : BinaryOp} {left right : Expr ι} {loc : ι} :
      Joins (.operator op) left right (.binary op left right loc)
  | assign {target value : Expr ι} {loc : ι} :
      Joins .assign target value (.assign target value loc)

/-- An expression is made by a connective, or it binds more tightly than all of them. -/
theorem Expr.joins_induction {motive : Expr ι → Prop}
    (operand : ∀ expr : Expr ι, Connective.levels ≤ expr.level → motive expr)
    (joined : ∀ (connective : Connective) (left right expr : Expr ι),
      connective.Joins left right expr → motive left → motive right → motive expr)
    (expr : Expr ι) : motive expr := by
  induction expr using Expr.induction with
  | binary op left right loc hleft hright => exact joined _ left right _ .operator hleft hright
  | assign target value loc htarget hvalue => exact joined _ target value _ .assign htarget hvalue
  | unary => exact operand _ (Nat.le_refl _)
  | _ => exact operand _ (Nat.le_add_right _ _)

/-- The operands and connectives that are printed for an expression. -/
def Expr.spine : Expr ι → Expr ι × List (Connective × Expr ι)
  | .binary op left right _ =>
    let front := if left.level < Connective.leftLevel (.operator op) then (left, []) else left.spine
    let back :=
      if right.level < Connective.rightLevel (.operator op) then (right, []) else right.spine
    (front.1, front.2 ++ (.operator op, back.1) :: back.2)
  | .assign target value _ =>
    let front := if target.level < Connective.leftLevel .assign then (target, []) else target.spine
    let back := if value.level < Connective.rightLevel .assign then (value, []) else value.spine
    (front.1, front.2 ++ (.assign, back.1) :: back.2)
  | expr => (expr, [])

/-- The operands and connectives at a place that asks for a level: a single operand in parentheses,
if the expression binds less tightly. -/
def Expr.spineAt (level : Nat) (expr : Expr ι) : Expr ι × List (Connective × Expr ι) :=
  if expr.level < level then (expr, []) else expr.spine

/-- A connective with the operand behind it. -/
def linkShapes (link : Connective × Expr ι) : List Shape :=
  link.1.shape :: link.2.shapesAt Connective.levels

section Joins

variable {connective : Connective} {left right expr : Expr ι}

/-- The whole binds as tightly as its connective. -/
theorem Connective.Joins.level_eq (h : connective.Joins left right expr) :
    expr.level = connective.level := by
  cases h <;> rfl

/-- It is printed with the connective between its sides. -/
theorem Connective.Joins.shapes_eq (h : connective.Joins left right expr) :
    expr.shapes = left.shapesAt connective.leftLevel ++
      connective.shape :: right.shapesAt connective.rightLevel := by
  cases h <;> rfl

/-- Its operands are those of its sides, with the connective in between. -/
theorem Connective.Joins.spine_eq (h : connective.Joins left right expr) :
    expr.spine = ((left.spineAt connective.leftLevel).1,
      (left.spineAt connective.leftLevel).2 ++
        (connective, (right.spineAt connective.rightLevel).1) ::
          (right.spineAt connective.rightLevel).2) := by
  cases h <;> rfl

/-- The sides can be printed if the whole can. -/
theorem Connective.Joins.expressible (h : connective.Joins left right expr)
    (hexpr : expr.Expressible) : left.Expressible ∧ right.Expressible := by
  cases h with
  | operator =>
    cases hexpr with
    | binary hleft hright => exact ⟨hleft, hright⟩
  | assign =>
    cases hexpr with
    | assign htarget hvalue => exact ⟨htarget, hvalue⟩

end Joins

/-- Every connective has a level. -/
theorem Connective.level_lt (connective : Connective) : connective.level < Connective.levels := by
  cases connective with
  | assign => decide
  | operator op => cases op <;> decide

/-- The left side binds at least as tightly. -/
theorem Connective.leftLevel_le (connective : Connective) :
    connective.level ≤ connective.leftLevel ∧ connective.leftLevel ≤ Connective.levels := by
  cases connective with
  | assign => decide
  | operator op => cases op <;> decide

/-- So does the right side. -/
theorem Connective.rightLevel_le (connective : Connective) :
    connective.level ≤ connective.rightLevel ∧ connective.rightLevel ≤ Connective.levels := by
  cases connective with
  | assign => decide
  | operator op => cases op <;> decide

/-- An expression that binds less tightly is put in parentheses. -/
theorem Expr.shapesAt_of_lt {level : Nat} {expr : Expr ι} (h : expr.level < level) :
    expr.shapesAt level = inParens expr.shapes := by
  rw [shapesAt, enclosed, if_pos (decide_eq_true h)]

/-- Any other one is not. -/
theorem Expr.shapesAt_of_le {level : Nat} {expr : Expr ι} (h : level ≤ expr.level) :
    expr.shapesAt level = expr.shapes := by
  rw [shapesAt, enclosed, if_neg (by simpa using h)]

/-- What binds more tightly than all connectives is an operand. -/
theorem Expr.spine_of_le {expr : Expr ι} (h : Connective.levels ≤ expr.level) :
    expr.spine = (expr, []) := by
  cases expr with
  | binary op => exact absurd h (Nat.not_le.mpr (Connective.level_lt (.operator op)))
  | assign => exact absurd h (Nat.not_le.mpr (Connective.level_lt .assign))
  | _ => rfl

/-- What is put in parentheses is an operand. -/
theorem Expr.spineAt_of_lt {level : Nat} {expr : Expr ι} (h : expr.level < level) :
    expr.spineAt level = (expr, []) := if_pos h

/-- Anything else is taken apart. -/
theorem Expr.spineAt_of_le {level : Nat} {expr : Expr ι} (h : level ≤ expr.level) :
    expr.spineAt level = expr.spine := if_neg (Nat.not_lt.mpr h)

/-- What is printed is a row of operands and connectives. -/
theorem Expr.shapes_eq_spine (expr : Expr ι) :
    expr.shapes = expr.spine.1.shapesAt Connective.levels ++
      expr.spine.2.flatMap linkShapes := by
  induction expr using Expr.joins_induction with
  | operand expr hlevel =>
    rw [spine_of_le hlevel, shapesAt_of_le hlevel, List.flatMap_nil, List.append_nil]
  | joined connective left right expr hjoins ihleft ihright =>
    -- On each side the operand is in parentheses, or it is a row of its own.
    have hat : ∀ (level : Nat) (inner : Expr ι), level ≤ Connective.levels →
        inner.shapes = inner.spine.1.shapesAt Connective.levels ++
          inner.spine.2.flatMap linkShapes →
        inner.shapesAt level = (inner.spineAt level).1.shapesAt Connective.levels ++
          (inner.spineAt level).2.flatMap linkShapes := by
      intro level inner hlevel ih
      by_cases h : inner.level < level
      · rw [spineAt_of_lt h, shapesAt_of_lt h, shapesAt_of_lt (Nat.lt_of_lt_of_le h hlevel),
          List.flatMap_nil, List.append_nil]
      · rw [spineAt_of_le (Nat.not_lt.mp h), shapesAt_of_le (Nat.not_lt.mp h), ih]
    rw [hjoins.shapes_eq, hjoins.spine_eq, hat _ left connective.leftLevel_le.2 ihleft,
      hat _ right connective.rightLevel_le.2 ihright, List.flatMap_append, List.flatMap_cons,
      List.append_assoc]
    rfl

/-- The connectives that are left bind tightly enough. -/
theorem Expr.level_le_of_mem_spineAt {level : Nat} {expr : Expr ι}
    (hspine : ∀ link ∈ expr.spine.2, expr.level ≤ link.1.level) :
    ∀ link ∈ (expr.spineAt level).2, level ≤ link.1.level := by
  intro link hlink
  by_cases hlevel : expr.level < level
  · rw [spineAt_of_lt hlevel] at hlink
    exact absurd hlink List.not_mem_nil
  · rw [spineAt_of_le (Nat.not_lt.mp hlevel)] at hlink
    exact Nat.le_trans (Nat.not_lt.mp hlevel) (hspine link hlink)

/-- No connective in the row binds less tightly than the expression. -/
theorem Expr.level_le_of_mem_spine (expr : Expr ι) :
    ∀ link ∈ expr.spine.2, expr.level ≤ link.1.level := by
  induction expr using Expr.joins_induction with
  | operand expr hlevel =>
    rw [spine_of_le hlevel]
    exact List.forall_mem_nil _
  | joined connective left right expr hjoins ihleft ihright =>
    intro link hlink
    rw [hjoins.spine_eq, List.mem_append, List.mem_cons] at hlink
    rw [hjoins.level_eq]
    rcases hlink with hlink | rfl | hlink
    · exact Nat.le_trans connective.leftLevel_le.1 (level_le_of_mem_spineAt ihleft link hlink)
    · exact Nat.le_refl _
    · exact Nat.le_trans connective.rightLevel_le.1 (level_le_of_mem_spineAt ihright link hlink)

/-- The operands can be printed if the whole can. -/
theorem Expr.Expressible.spine {expr : Expr ι} (h : expr.Expressible) :
    expr.spine.1.Expressible ∧ ∀ link ∈ expr.spine.2, link.2.Expressible := by
  induction expr using Expr.joins_induction with
  | operand expr hlevel =>
    rw [spine_of_le hlevel]
    exact ⟨h, List.forall_mem_nil _⟩
  | joined connective left right expr hjoins ihleft ihright =>
    have hat : ∀ (level : Nat) (inner : Expr ι), inner.Expressible →
        (inner.spine.1.Expressible ∧ ∀ link ∈ inner.spine.2, link.2.Expressible) →
        (inner.spineAt level).1.Expressible ∧
          ∀ link ∈ (inner.spineAt level).2, link.2.Expressible := by
      intro level inner hinner ih
      by_cases hlevel : inner.level < level
      · rw [spineAt_of_lt hlevel]
        exact ⟨hinner, List.forall_mem_nil _⟩
      · rwa [spineAt_of_le (Nat.not_lt.mp hlevel)]
    obtain ⟨hleft, hright⟩ := hjoins.expressible h
    obtain ⟨hfirst, hfront⟩ := hat connective.leftLevel left hleft (ihleft hleft)
    obtain ⟨hnext, hback⟩ := hat connective.rightLevel right hright (ihright hright)
    rw [hjoins.spine_eq]
    exact ⟨hfirst, List.forall_mem_append.mpr ⟨hfront, List.forall_mem_cons.mpr ⟨hnext, hback⟩⟩⟩

/-! ## Grouping by precedence -/

section Grouping

variable {level count : Nat} {first operand : Operand ι} {connective : Connective}
  {front back rest : Chain ι}

/-- A chain is not cut where no connective has the level. -/
theorem splitAtLevel_of_ne (h : ∀ link ∈ rest, link.1.level ≠ level) :
    splitAtLevel level rest = (rest, []) := by
  induction rest with
  | nil => rfl
  | cons link rest ih =>
    obtain ⟨hlink, hrest⟩ := List.forall_mem_cons.mp h
    simp only [splitAtLevel, ih hrest, if_neg hlink]

/-- It is cut at a connective that has the level. -/
theorem splitAtLevel_append_cons (h : connective.level = level) (front back : Chain ι) :
    splitAtLevel level (front ++ (connective, operand) :: back) =
      ((splitAtLevel level front).1, (splitAtLevel level front).2 ++
        (connective, operand, (splitAtLevel level back).1) :: (splitAtLevel level back).2) := by
  induction front with
  | nil => simp only [List.nil_append, splitAtLevel, if_pos h]
  | cons link front ih =>
    rw [List.cons_append, splitAtLevel, ih]
    by_cases hlink : link.1.level = level
    · simp only [splitAtLevel, if_pos hlink, List.cons_append]
    · simp only [splitAtLevel, if_neg hlink]

/-- A single operand is all of the expression. -/
@[simp]
theorem assembleFrom_nil (count level : Nat) (first : Operand ι) :
    assembleFrom count level first [] = first := by
  induction count generalizing level with
  | zero => rfl
  | succ count ih =>
    simp only [assembleFrom, splitAtLevel, ih, List.map_nil, groupRight, groupLeft, List.foldl_nil,
      ite_self]

/-- A level without connectives is passed over. -/
theorem assembleFrom_of_ne (h : ∀ link ∈ rest, link.1.level ≠ level) :
    assembleFrom (count + 1) level first rest = assembleFrom count (level + 1) first rest := by
  simp only [assembleFrom, splitAtLevel_of_ne h, List.map_nil, groupRight, groupLeft,
    List.foldl_nil, ite_self]

/-- The levels below all connectives are passed over. -/
theorem assembleFrom_of_le {lowest : Nat} (hlevel : level ≤ lowest)
    (h : ∀ link ∈ rest, lowest ≤ link.1.level) :
    assembleFrom (count + (lowest - level)) level first rest =
      assembleFrom count lowest first rest := by
  obtain ⟨gap, rfl⟩ := Nat.exists_eq_add_of_le hlevel
  rw [Nat.add_sub_cancel_left]
  clear hlevel
  induction gap generalizing level with
  | zero => rfl
  | succ gap ih =>
    rw [← Nat.add_assoc, assembleFrom_of_ne fun link hlink => ?_]
    · have hnext : level + (gap + 1) = level + 1 + gap := by omega
      rw [hnext] at h ⊢
      exact ih h
    · have := h link hlink
      omega

/-- The last connective of a level that groups to the left joins all that is in front of it with
what is behind it. -/
theorem assembleFrom_left (hlevel : connective.level = level) (hpos : level ≠ 0)
    (hback : ∀ link ∈ back, link.1.level ≠ level) :
    assembleFrom (count + 1) level first (front ++ (connective, operand) :: back) =
      connective.join (assembleFrom (count + 1) level first front)
        (assembleFrom count (level + 1) operand back) := by
  simp only [assembleFrom, splitAtLevel_append_cons hlevel, splitAtLevel_of_ne hback, if_neg hpos,
    List.map_append, List.map_cons, List.map_nil, groupLeft, List.foldl_append, List.foldl_cons,
    List.foldl_nil]

/-- The first connective of the level that groups to the right joins what is in front of it with
all that is behind it. -/
theorem assembleFrom_right (hlevel : connective.level = 0)
    (hfront : ∀ link ∈ front, link.1.level ≠ 0) :
    assembleFrom (count + 1) 0 first (front ++ (connective, operand) :: back) =
      connective.join (assembleFrom count 1 first front)
        (assembleFrom (count + 1) 0 operand back) := by
  simp only [assembleFrom, splitAtLevel_append_cons hlevel, splitAtLevel_of_ne hfront, if_true,
    List.nil_append, List.map_cons, groupRight]

end Grouping

/-- An expression in a row, without places. -/
def Operand.unplaced (expr : Expr Unit) : Operand Unit := ⟨expr, (), ()⟩

/-- A row without places. -/
def unplacedChain (links : List (Connective × Expr Unit)) : Chain Unit :=
  links.map fun link => (link.1, .unplaced link.2)

/-- The connectives stay the same without places. -/
theorem level_le_of_mem_unplacedChain {links : List (Connective × Expr Unit)} {level : Nat}
    (h : ∀ link ∈ links, level ≤ link.1.level) :
    ∀ link ∈ unplacedChain links, level ≤ link.1.level := by
  intro link hlink
  obtain ⟨inner, hinner, rfl⟩ := List.mem_map.mp hlink
  exact h inner hinner

/-- Joining the sides gives the whole. -/
theorem Connective.Joins.join_unplaced {connective : Connective} {left right expr : Expr Unit}
    (h : connective.Joins left right expr) :
    connective.join (.unplaced left) (.unplaced right) = .unplaced expr := by
  cases h <;> rfl

/-- Grouping the row of an expression gives the expression. -/
def Assembles (expr : Expr Unit) : Prop :=
  ∀ {count level : Nat}, level + count = Connective.levels → level ≤ expr.level →
    assembleFrom count level (.unplaced expr.spine.1) (unplacedChain expr.spine.2) =
      .unplaced expr

/-- An operand at its place is a row of its own, or a single operand in parentheses. -/
theorem Assembles.assembleFrom_spineAt {expr : Expr Unit} (h : Assembles expr) {count level : Nat}
    (hcount : level + count = Connective.levels) :
    assembleFrom count level (.unplaced (expr.spineAt level).1)
      (unplacedChain (expr.spineAt level).2) = .unplaced expr := by
  by_cases hlevel : expr.level < level
  · rw [Expr.spineAt_of_lt hlevel]
    exact assembleFrom_nil _ _ _
  · rw [Expr.spineAt_of_le (Nat.not_lt.mp hlevel)]
    exact h hcount (Nat.not_lt.mp hlevel)

/-- Every expression is put together from its operands. -/
theorem assembles (expr : Expr Unit) : Assembles expr := by
  induction expr using Expr.joins_induction with
  | operand expr hoperand =>
    intro count level _ _
    rw [Expr.spine_of_le hoperand]
    exact assembleFrom_nil _ _ _
  | joined connective left right expr hjoins ihleft ihright =>
    intro count level hcount hlevel
    have hspineAt : ∀ (level : Nat) (inner : Expr Unit),
        ∀ link ∈ unplacedChain (inner.spineAt level).2, level ≤ link.1.level := fun _ inner =>
      level_le_of_mem_unplacedChain (Expr.level_le_of_mem_spineAt inner.level_le_of_mem_spine)
    have hlinks := level_le_of_mem_unplacedChain expr.level_le_of_mem_spine
    rw [hjoins.level_eq] at hlevel hlinks
    obtain ⟨more, hmore⟩ := Nat.exists_eq_add_of_lt connective.level_lt
    have hcount' : count = more + 1 + (connective.level - level) := by omega
    have hfirst : expr.spine.1 = (left.spineAt connective.leftLevel).1 := by
      rw [hjoins.spine_eq]
    have hrest : unplacedChain expr.spine.2 =
        unplacedChain (left.spineAt connective.leftLevel).2 ++
          (connective, .unplaced (right.spineAt connective.rightLevel).1) ::
            unplacedChain (right.spineAt connective.rightLevel).2 := by
      rw [hjoins.spine_eq, unplacedChain, List.map_append, List.map_cons]
      rfl
    -- Nothing in the row binds weaker than the connective between `left` and `right`.
    rw [hcount', assembleFrom_of_le hlevel hlinks, hfirst, hrest, ← hjoins.join_unplaced]
    cases connective with
    | operator op =>
      -- What stands behind it binds tighter, so that it is the last one of its level.
      have hpos : Connective.level (.operator op) ≠ 0 := by cases op <;> decide
      have hback := hspineAt (Connective.rightLevel (.operator op)) right
      rw [assembleFrom_left rfl hpos fun link hlink => Nat.ne_of_gt (hback link hlink)]
      exact congrArg₂ _ (ihleft.assembleFrom_spineAt (by omega))
        (ihright.assembleFrom_spineAt (by omega))
    | assign =>
      -- What stands before it binds tighter, so that it is the first one.
      have hfront := hspineAt (Connective.leftLevel .assign) left
      have hzero : Connective.level .assign = 0 := rfl
      rw [hzero, assembleFrom_right rfl fun link hlink => Nat.ne_of_gt (hfront link hlink)]
      exact congrArg₂ _ (ihleft.assembleFrom_spineAt (by omega))
        (ihright.assembleFrom_spineAt (by omega))

/-! ## Places do not matter -/

/-- Changes the locations of an operand. -/
def Operand.mapLoc (f : ι → κ) (operand : Operand ι) : Operand κ :=
  ⟨operand.expr.mapLoc f, f operand.own, f operand.start⟩

/-- Changes the locations of a row. -/
def mapLocChain (f : ι → κ) (chain : Chain ι) : Chain κ :=
  chain.map fun link => (link.1, link.2.mapLoc f)

section Relocation

variable (f : ι → κ)

/-- Moving what is joined moves both sides. -/
theorem Connective.mapLoc_join (connective : Connective) (left right : Operand ι) :
    (connective.join left right).mapLoc f = connective.join (left.mapLoc f) (right.mapLoc f) := by
  cases connective <;> rfl

/-- The same for a chain grouped to the left. -/
theorem mapLoc_groupLeft (first : Operand ι) (rest : Chain ι) :
    (groupLeft first rest).mapLoc f = groupLeft (first.mapLoc f) (mapLocChain f rest) := by
  induction rest generalizing first with
  | nil => rfl
  | cons link rest ih =>
    have hstep := ih (link.1.join first link.2)
    rw [Connective.mapLoc_join] at hstep
    exact hstep

/-- The same for a chain grouped to the right. -/
theorem mapLoc_groupRight (first : Operand ι) (rest : Chain ι) :
    (groupRight first rest).mapLoc f = groupRight (first.mapLoc f) (mapLocChain f rest) := by
  induction rest generalizing first with
  | nil => rfl
  | cons link rest ih =>
    have hstep := Connective.mapLoc_join f link.1 first (groupRight link.2 rest)
    rw [ih link.2] at hstep
    exact hstep

/-- A moved chain is cut in the same places. -/
theorem splitAtLevel_mapLocChain (level : Nat) (rest : Chain ι) :
    splitAtLevel level (mapLocChain f rest) =
      (mapLocChain f (splitAtLevel level rest).1,
        (splitAtLevel level rest).2.map fun part =>
          (part.1, part.2.1.mapLoc f, mapLocChain f part.2.2)) := by
  induction rest with
  | nil => rfl
  | cons link rest ih =>
    rw [mapLocChain] at ih
    simp only [mapLocChain, List.map_cons, splitAtLevel, ih]
    split <;> rfl

/-- What is put together from moved operands is moved. -/
theorem mapLoc_assembleFrom (count level : Nat) (first : Operand ι) (rest : Chain ι) :
    (assembleFrom count level first rest).mapLoc f =
      assembleFrom count level (first.mapLoc f) (mapLocChain f rest) := by
  induction count generalizing level first rest with
  | zero => rfl
  | succ count ih =>
    have hparts : mapLocChain f ((splitAtLevel level rest).2.map fun part =>
          (part.1, assembleFrom count (level + 1) part.2.1 part.2.2)) =
        ((splitAtLevel level rest).2.map fun part =>
          (part.1, part.2.1.mapLoc f, mapLocChain f part.2.2)).map fun part =>
            (part.1, assembleFrom count (level + 1) part.2.1 part.2.2) := by
      simp only [mapLocChain, List.map_map, Function.comp_def, ih]
    simp only [assembleFrom, splitAtLevel_mapLocChain]
    split
    · rw [mapLoc_groupRight, ih, hparts]
    · rw [mapLoc_groupLeft, ih, hparts]

end Relocation

/-- A row of operands is grouped to the expression that it was printed for. -/
theorem assemble_spine {expr : Expr Unit} {first : Operand ι} {rest : Chain ι}
    (hfirst : first.expr.mapLoc (fun _ => ()) = expr.spine.1)
    (hrest : rest.map (fun link => (link.1, link.2.expr.mapLoc fun _ => ())) = expr.spine.2) :
    (assemble first rest).expr.mapLoc (fun _ => ()) = expr := by
  have hfirst' : first.mapLoc (fun _ => ()) = .unplaced expr.spine.1 := by
    rw [Operand.mapLoc, hfirst]
    rfl
  have hrest' : mapLocChain (fun _ => ()) rest = unplacedChain expr.spine.2 := by
    rw [← hrest, unplacedChain, List.map_map]
    rfl
  have hassemble : (assemble first rest).mapLoc (fun _ => ()) = .unplaced expr := by
    rw [assemble, mapLoc_assembleFrom, hfirst', hrest']
    exact assembles expr (Nat.zero_add _) (Nat.zero_le _)
  exact congrArg Operand.expr hassemble

/-! ## Calls -/

/-- What is called and with which arguments, the first call first. -/
def Expr.callSpine : Expr ι → Expr ι × List (List (Expr ι))
  | .call function args _ => (function.callSpine.1, function.callSpine.2 ++ [args])
  | expr => (expr, [])

/-- The arguments of a call. -/
def argumentShapes (args : List (Expr ι)) : List Shape :=
  Terminal.lpar.shape :: listShapes (shapesOfExprs args)

/-- An expression is a call, or it is all that is called. -/
theorem Expr.call_induction {motive : Expr ι → Prop}
    (other : ∀ expr : Expr ι, expr.callSpine = (expr, []) → motive expr)
    (call : ∀ (function : Expr ι) (args : List (Expr ι)) (loc : ι),
      motive function → motive (.call function args loc)) (expr : Expr ι) : motive expr := by
  induction expr using Expr.induction with
  | call function args loc hfunction hargs => exact call function args loc hfunction
  | _ => exact other _ rfl

/-- A call is printed with the arguments of all calls behind what is called. -/
theorem Expr.shapesAt_callSpine (expr : Expr ι) :
    expr.shapesAt (Connective.levels + 1) =
      expr.callSpine.1.shapesAt (Connective.levels + 1) ++
        expr.callSpine.2.flatMap argumentShapes := by
  induction expr using Expr.call_induction with
  | other expr hspine => rw [hspine, List.flatMap_nil, List.append_nil]
  | call function args loc ih =>
    have hshapes : (Expr.call function args loc).shapesAt (Connective.levels + 1) =
        function.shapesAt (Connective.levels + 1) ++ argumentShapes args :=
      shapesAt_of_le (Nat.le_refl _)
    rw [hshapes, ih, callSpine, List.flatMap_append, List.flatMap_singleton,
      List.append_assoc]

/-- What is called is a single token or stands in parentheses. -/
theorem Expr.callSpine_cases (expr : Expr ι) :
    (∃ value loc, expr.callSpine.1 = .literal value loc) ∨
      (∃ ident loc, expr.callSpine.1 = .name ident loc) ∨
      expr.callSpine.1.level < Connective.levels + 1 := by
  induction expr using Expr.call_induction with
  | other expr hspine =>
    rw [hspine]
    cases expr with
    | literal value loc => exact .inl ⟨value, loc, rfl⟩
    | name ident loc => exact .inr (.inl ⟨ident, loc, rfl⟩)
    | call => exact absurd (congrArg Prod.snd hspine) (List.append_ne_nil_of_right_ne_nil _ nofun)
    | unary => exact .inr (.inr (Nat.lt_succ_self _))
    | binary op => exact .inr (.inr (Nat.lt_succ_of_lt (Connective.level_lt (.operator op))))
    | assign => exact .inr (.inr (Nat.lt_succ_of_lt (Connective.level_lt .assign)))
  | call function args loc ih =>
    rw [callSpine]
    exact ih

/-- Calling with all arguments in turn gives the expression back. -/
theorem Expr.foldl_callSpine (expr : Expr Unit) :
    expr.callSpine.2.foldl (fun function args => .call function args ()) expr.callSpine.1 =
      expr := by
  induction expr using Expr.call_induction with
  | other expr hspine =>
    rw [hspine]
    rfl
  | call function args loc ih =>
    rw [callSpine, List.foldl_append, ih]
    rfl

/-- What is called and the arguments can be printed if the call can. -/
theorem Expr.Expressible.callSpine {expr : Expr ι} (h : expr.Expressible) :
    expr.callSpine.1.Expressible ∧
      ∀ args ∈ expr.callSpine.2, ∀ arg ∈ args, arg.Expressible := by
  induction expr using Expr.call_induction with
  | other expr hspine =>
    rw [hspine]
    exact ⟨h, List.forall_mem_nil _⟩
  | call function args loc ih =>
    cases h with
    | call hfunction hargs =>
      obtain ⟨hcallee, hlists⟩ := ih hfunction
      rw [Expr.callSpine]
      refine ⟨hcallee, List.forall_mem_append.mpr ⟨hlists, ?_⟩⟩
      exact List.forall_mem_singleton.mpr hargs

end Throws.Surface
