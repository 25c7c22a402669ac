/-!
# Trails

Going through a tree meets events in a fixed order, and each part of the tree lies some levels below
the part that it belongs to. A `Trail` records both. Read without a limit it is the list of its
events; read within a limit it ends where it would first go down too far, and what was met before
stays.
-/

namespace Throws

/-- Events in order, with the levels at which they are met. -/
inductive Trail (ε : Type) where
  /-- Nothing happens. -/
  | empty
  /-- One event. -/
  | event (met : ε)
  /-- One trail and then another. -/
  | append (first second : Trail ε)
  /-- A trail that lies further down by a number of levels. -/
  | deeper (levels : Nat) (part : Trail ε)

namespace Trail

variable {ε : Type}

/-- All events in order. -/
def events : Trail ε → List ε
  | .empty => []
  | .event met => [met]
  | .append first second => first.events ++ second.events
  | .deeper _ part => part.events

/-- What is met on a trail before it ends. -/
structure Reading (ε : Type) where
  /-- The events met, in order. -/
  events : List ε
  /-- Whether the trail was read to its end. -/
  isComplete : Bool

/-- One reading and, if it was complete, another one behind it. -/
def Reading.append (first second : Reading ε) : Reading ε :=
  if first.isComplete then ⟨first.events ++ second.events, second.isComplete⟩ else first

/-- Reads a trail that may go down by the given number of levels. -/
def within : (levels : Nat) → Trail ε → Reading ε
  | _, .empty => ⟨[], true⟩
  | _, .event met => ⟨[met], true⟩
  | levels, .append first second => (first.within levels).append (second.within levels)
  | levels, .deeper count part =>
    if count ≤ levels then part.within (levels - count) else ⟨[], false⟩

/-- Reads a trail down to a limit, if there is one. -/
def upTo (limit : Option Nat) (trail : Trail ε) : Reading ε :=
  match limit with
  | none => ⟨trail.events, true⟩
  | some levels => trail.within levels

/-- A trail that is read to its end shows all of its events. -/
theorem events_within_of_isComplete {levels : Nat} {trail : Trail ε}
    (h : (trail.within levels).isComplete) : (trail.within levels).events = trail.events := by
  induction trail generalizing levels with
  | empty => rfl
  | event => rfl
  | append first second ihFirst ihSecond =>
    by_cases hFirst : (first.within levels).isComplete
    · simp only [within, Reading.append, hFirst, ↓reduceIte] at h ⊢
      rw [ihFirst hFirst, ihSecond h, events]
    · simp [within, Reading.append, hFirst] at h
  | deeper count part ih =>
    by_cases hCount : count ≤ levels
    · simp only [within, hCount, ↓reduceIte] at h ⊢
      rw [ih h, events]
    · simp [within, hCount] at h

end Trail

end Throws
