import Throws.Proofs.SyntaxInduction
import Throws.Surface.Nesting

/-!
# The literals on a trail

A syntax tree has a trail for each choice of events among its literals. They are all the same trail:
take every literal as an event, by its location, and then keep those that count
(`filterMap_trailOfItems`). Keeping some of the events changes neither the order of the others nor
how far a trail can be followed (`Trail.upTo_filterMap`). So whatever is asked about the events met
within a limit can be asked about the literals met within it.
-/

namespace Throws.Trail

variable {α β : Type}

/-- The same trail with other events in place of some of its events and without the rest. -/
def filterMap (f : α → Option β) : Trail α → Trail β
  | .empty => .empty
  | .event met => (f met).elim .empty .event
  | .append first second => .append (first.filterMap f) (second.filterMap f)
  | .deeper levels part => .deeper levels (part.filterMap f)

/-- The events are those that are kept, in the same order. -/
theorem events_filterMap (f : α → Option β) (trail : Trail α) :
    (trail.filterMap f).events = trail.events.filterMap f := by
  induction trail with
  | empty => rfl
  | event met => cases h : f met <;> simp [filterMap, events, h]
  | append first second ihFirst ihSecond =>
    rw [filterMap, events, ihFirst, ihSecond, events, List.filterMap_append]
  | deeper levels part ih => exact ih

/-- What is met within some levels stays the same, and so does whether the end is reached. -/
theorem within_filterMap (f : α → Option β) (levels : Nat) (trail : Trail α) :
    (trail.filterMap f).within levels =
      ⟨(trail.within levels).events.filterMap f, (trail.within levels).isComplete⟩ := by
  induction trail generalizing levels with
  | empty => rfl
  | event met => cases h : f met <;> simp [filterMap, within, h]
  | append first second ihFirst ihSecond =>
    rw [filterMap, within, ihFirst, ihSecond, within, Reading.append, Reading.append]
    -- If the first trail cannot be followed to its end, the second one is not entered.
    cases h : (first.within levels).isComplete <;> simp [h]
  | deeper count part ih =>
    rw [filterMap, within, ih, within]
    by_cases hcount : count ≤ levels <;> simp [hcount]

/-- The same within a limit that may be missing. -/
theorem upTo_filterMap (f : α → Option β) (limit : Option Nat) (trail : Trail α) :
    (trail.filterMap f).upTo limit =
      ⟨(trail.upTo limit).events.filterMap f, (trail.upTo limit).isComplete⟩ := by
  cases limit with
  | none => exact congrArg (Reading.mk · true) (events_filterMap f trail)
  | some levels => exact within_filterMap f levels trail

/-- Trails that are put together item by item have the same events kept if those of all items
have. -/
theorem filterMap_of_cons {γ : Type} {f : α → Option β} {each : γ → Trail α} {each' : γ → Trail β}
    {all : List γ → Trail α} {all' : List γ → Trail β}
    (hnil : all [] = .empty) (hnil' : all' [] = .empty)
    (hcons : ∀ item rest, all (item :: rest) = .append (each item) (all rest))
    (hcons' : ∀ item rest, all' (item :: rest) = .append (each' item) (all' rest))
    {items : List γ} (h : ∀ item ∈ items, (each item).filterMap f = each' item) :
    (all items).filterMap f = all' items := by
  induction items with
  | nil =>
    rw [hnil, hnil']
    rfl
  | cons item rest ih =>
    obtain ⟨hitem, hrest⟩ := List.forall_mem_cons.mp h
    rw [hcons, hcons', filterMap, hitem, ih hrest]

end Throws.Trail

namespace Throws.Surface

variable {ι ε : Type}

section Types

variable {α : Type} (f : α → Option ε)

/-- There are no events in a type. -/
theorem TypeExpr.filterMap_trail (type : TypeExpr ι) : type.trail.filterMap f = type.trail := by
  induction type using TypeExpr.induction with
  | named name isConst isVolatile isRef loc => rfl
  | function params clauses loc hparams =>
    exact congrArg (Trail.deeper 3)
      (Trail.filterMap_of_cons rfl rfl (fun _ _ => rfl) (fun _ _ => rfl) hparams)

/-- There are none in several types. -/
theorem filterMap_trailOfTypes (types : List (TypeExpr ι)) :
    (trailOfTypes types).filterMap f = trailOfTypes types :=
  Trail.filterMap_of_cons rfl rfl (fun _ _ => rfl) (fun _ _ => rfl)
    fun type _ => type.filterMap_trail f

end Types

section Events

variable (event? : ι → Option ε)

/-- A literal is kept if it is an event. -/
theorem filterMap_trailOfLiteral (loc : ι) :
    (trailOfLiteral some loc).filterMap event? = trailOfLiteral event? loc := by
  unfold trailOfLiteral
  rw [Trail.filterMap]
  cases event? loc <;> rfl

/-- The events in an expression are kept among its literals. -/
theorem Expr.filterMap_trail (expr : Expr ι) :
    (expr.trail some).filterMap event? = expr.trail event? := by
  induction expr using Expr.induction with
  | literal value loc => exact congrArg (Trail.deeper 1) (filterMap_trailOfLiteral event? loc)
  | call function args loc hfunction hargs =>
    have hall : (trailOfExprs some args).filterMap event? = trailOfExprs event? args :=
      Trail.filterMap_of_cons rfl rfl (fun _ _ => rfl) (fun _ _ => rfl) hargs
    simp only [trail, Trail.filterMap, hfunction, hall]
  | _ => simp only [trail, Trail.filterMap, *]

/-- The same for an expression that may be left out. -/
theorem filterMap_trailOfOptional (value : Option (Expr ι)) :
    (trailOfOptional some value).filterMap event? = trailOfOptional event? value := by
  cases value with
  | none => rfl
  | some expr => exact expr.filterMap_trail event?

/-- The same for a local variable. -/
theorem LocalDecl.filterMap_trail (decl : LocalDecl ι) :
    (decl.trail some).filterMap event? = decl.trail event? :=
  congr (congrArg Trail.append (decl.type.filterMap_trail event?))
    (filterMap_trailOfOptional event? decl.value)

/-- The same for the first part of a `for`. -/
theorem ForInit.filterMap_trail (init : ForInit ι) :
    (init.trail some).filterMap event? = init.trail event? := by
  cases init with
  | none => rfl
  | expr value loc => exact value.filterMap_trail event?
  | decl inner => exact congrArg (Trail.deeper 1) (inner.filterMap_trail event?)

/-- The events in a statement, or in a piece of one, are kept among its literals. -/
def keptEvents : Motive ι where
  stmt stmt := (stmt.trail some).filterMap event? = stmt.trail event?
  block block := (block.trail some).filterMap event? = block.trail event?
  handler handler := (handler.trail some).filterMap event? = handler.trail event?
  branch branch := (branch.trail some).filterMap event? = branch.trail event?
  otherwise otherwise := (otherwise.trail some).filterMap event? = otherwise.trail event?

/-- They are kept if those in the pieces are. -/
theorem keptEvents_inherited : (keptEvents event?).Inherited where
  stmt stmt inside := by
    cases stmt with
    | guarded body handlers loc =>
      obtain ⟨hbody, hhandlers⟩ := inside
      simp only [keptEvents] at hbody hhandlers ⊢
      have hall : (trailOfHandlers some handlers).filterMap event? =
          trailOfHandlers event? handlers :=
        Trail.filterMap_of_cons rfl rfl (fun _ _ => rfl) (fun _ _ => rfl) hhandlers
      simp only [Stmt.trail, Trail.filterMap, hbody, hall]
    | _ =>
      simp only [Motive.Inside, keptEvents] at inside ⊢
      simp only [Stmt.trail, Trail.filterMap, Expr.filterMap_trail, LocalDecl.filterMap_trail,
        ForInit.filterMap_trail, filterMap_trailOfOptional, *]
  block statements loc hstatements := congrArg (Trail.deeper 2)
    (Trail.filterMap_of_cons rfl rfl (fun _ _ => rfl) (fun _ _ => rfl) hstatements)
  handler type binder block loc hblock := by
    simp only [keptEvents] at hblock ⊢
    cases type <;>
      simp only [Handler.trail, Trail.filterMap, hblock, TypeExpr.filterMap_trail]
  branch condition whenTrue otherwise loc hwhenTrue hotherwise := by
    simp only [keptEvents] at hwhenTrue hotherwise ⊢
    simp only [Branch.trail, Trail.filterMap, Expr.filterMap_trail, hwhenTrue, hotherwise]
  nothing := rfl
  elseBlock block hblock := hblock
  elseIf branch hbranch := hbranch

/-- The events in a declaration are kept among its literals. -/
theorem Item.filterMap_trail (item : Item ι) :
    (item.trail some).filterMap event? = item.trail event? := by
  cases item with
  | exception => rfl
  | «alias» definition =>
    exact congrArg (Trail.deeper 1) (definition.target.filterMap_trail event?)
  | function definition =>
    have hbody : (trailOfBody some definition.body).filterMap event? =
        trailOfBody event? definition.body := by
      cases definition.body with
      | none => rfl
      | some body => exact (keptEvents_inherited event?).block_holds body
    simp only [Item.trail, FunctionDef.trail, Trail.filterMap, TypeExpr.filterMap_trail,
      filterMap_trailOfTypes, hbody]

/-- Every trail of a program comes from the one that has all literals on it. -/
theorem filterMap_trailOfItems (items : List (Item ι)) :
    (trailOfItems some items).filterMap event? = trailOfItems event? items :=
  Trail.filterMap_of_cons rfl rfl (fun _ _ => rfl) (fun _ _ => rfl)
    fun item _ => item.filterMap_trail event?

/-- The events met within a limit are the literals met within it that are events. -/
theorem upTo_trailOfItems (limit : Option Nat) (items : List (Item ι)) :
    (trailOfItems event? items).upTo limit =
      ⟨((trailOfItems some items).upTo limit).events.filterMap event?,
        ((trailOfItems some items).upTo limit).isComplete⟩ := by
  rw [← filterMap_trailOfItems, Trail.upTo_filterMap]

end Events

end Throws.Surface
