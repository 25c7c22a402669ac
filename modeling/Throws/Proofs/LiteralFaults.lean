import Throws.Body.Nesting
import Throws.Load
import Throws.Proofs.LiteralTrails

/-!
# Literals without a value

Loading answers with resolved units or with reports. It fails to answer in one case only, and this
case does occur in source texts: a literal that has no value is met in the tree of a text that is in
the language. A broken escape in a text, a NUL character in it or a number with too many digits is
enough.

* `literalsMet`: the literals of a text that are met before it gets too deep. A text that is not in
  the language has none.
* `readSource_eq_error_iff` and `load_eq_error_iff`: no answer is given exactly if one of the
  literals met has no value, and the first such literal tells why.
* `answers_iff_literals_have_values`: otherwise there is always an answer of the expected form.
-/

namespace Throws.Surface

/-- The literals met on the way through the tree of a text, in order, up to where it gets too deep.
There are none in a text that is not in the language. -/
def literalsMet (depth : Option Nat) (text : String) : List Token :=
  match parse text.toList with
  | .error _ => []
  | .ok (items, tokens) =>
    ((trailOfItems some items).upTo depth).events.filterMap fun index => tokens[index]?

variable {depth : Option Nat} {text : String}

/-- What goes wrong in a tree goes wrong at the first literal met that has no value. -/
theorem head?_events_upTo (depth : Option Nat) (items : List (Item Nat)) (tokens : Array Token) :
    ((trailOfItems (faultAt tokens) items).upTo depth).events.head? =
      (((trailOfItems some items).upTo depth).events.filterMap fun index =>
        tokens[index]?).findSome? Token.fault? := by
  rw [upTo_trailOfItems, ← List.head?_filterMap, List.filterMap_filterMap]
  rfl

/-- Reading fails for want of a value exactly if a literal without a value is met. -/
theorem read_eq_literal_iff {fault : LiteralFault} :
    read depth text = .error (.literal fault) ↔
      (literalsMet depth text).findSome? Token.fault? = some fault := by
  unfold read literalsMet
  cases hparse : parse text.toList with
  | error error => simp
  | ok outcome =>
    obtain ⟨items, tokens⟩ := outcome
    simp only [head?_events_upTo]
    cases hfirst : (((trailOfItems some items).upTo depth).events.filterMap fun index =>
        tokens[index]?).findSome? Token.fault? with
    | none =>
      -- The trail is complete or too deep, and neither of them is a fault.
      by_cases hcomplete : ((trailOfItems (faultAt tokens) items).upTo depth).isComplete <;>
        simp [hcomplete]
    | some first => simp

end Throws.Surface

namespace Throws.Load

open Throws.Surface Throws.Resolution

variable {depth : Option Nat}

/-- A text is answered if it gives a tree or else one report of malformed input. -/
def IsAnswered (result : Except LiteralFault (Except Diagnostic (Program Pos))) : Prop :=
  (∃ program, result = .ok (.ok program)) ∨
    ∃ diagnostic, result = .ok (.error diagnostic) ∧ diagnostic.kind = .malformedInput

/-- Loading is answered if it gives units or else at least one report. -/
def IsLoaded (result : Except LiteralFault Outcome) : Prop :=
  (∃ units, result = .ok (.loaded units)) ∨
    ∃ diagnostics, result = .ok (.failed diagnostics) ∧ diagnostics ≠ []

/-- What fails exactly with the first fault among some literals answers exactly if they all have a
value. -/
theorem forall_ne_error_iff {α : Type} {result : Except LiteralFault α} {tokens : List Token}
    (h : ∀ fault, result = .error fault ↔ tokens.findSome? Token.fault? = some fault) :
    (∀ fault, result ≠ .error fault) ↔ ∀ token ∈ tokens, token.fault? = none := by
  rw [← List.findSome?_eq_none_iff, Option.eq_none_iff_forall_ne_some]
  exact forall_congr' fun fault => not_congr (h fault)

/-! ## One text -/

theorem readSource_eq_error_iff {file text : String} {fault : LiteralFault} :
    readSource depth file text = .error fault ↔
      (literalsMet depth text).findSome? Token.fault? = some fault := by
  rw [← read_eq_literal_iff, readSource]
  cases read depth text with
  | ok program => simp
  | error error => cases error <;> simp

/-- A text is answered unless it fails for want of a value. -/
theorem isAnswered_iff {file text : String} :
    IsAnswered (readSource depth file text) ↔
      ∀ fault, readSource depth file text ≠ .error fault := by
  rw [IsAnswered, readSource]
  cases read depth text with
  | ok program => simp
  | error error => cases error <;> simp [rejection, overflow]

/-! ## Several texts -/

/-- Texts are read in order, so the first literal without a value in any of them decides. -/
theorem readAll_eq_error_iff {files : List (String × String)} {fault : LiteralFault} :
    readAll depth files = .error fault ↔
      (files.flatMap (literalsMet depth ·.2)).findSome? Token.fault? = some fault := by
  induction files with
  | nil => simp [readAll]
  | cons source rest ih =>
    obtain ⟨file, text⟩ := source
    rw [readAll, List.flatMap_cons, List.findSome?_append]
    cases hfirst : readSource depth file text with
    | error first =>
      rw [readSource_eq_error_iff.mp hfirst]
      simp [bind, Except.bind]
    | ok answer =>
      -- A text that is answered has no faults to offer, so those of the other texts decide.
      have hanswer : ∀ fault, readSource depth file text ≠ .error fault := by simp [hfirst]
      have hvalues := (forall_ne_error_iff fun _ => readSource_eq_error_iff).mp hanswer
      rw [List.findSome?_eq_none_iff.mpr hvalues, Option.none_or, ← ih]
      cases readAll depth rest with
      | error first => simp [bind, Except.bind]
      | ok others => cases answer <;> simp [bind, Except.bind, pure, Except.pure]

theorem load_eq_error_iff {files : List (String × String)} {fault : LiteralFault} :
    load depth files = .error fault ↔
      (files.flatMap (literalsMet depth ·.2)).findSome? Token.fault? = some fault := by
  rw [← readAll_eq_error_iff, load]
  cases readAll depth files with
  | error first => simp [bind, Except.bind]
  | ok sources =>
    simp only [bind, Except.bind, pure, Except.pure]
    split
    · split <;> simp
    · simp

/-- Loading is answered unless it fails for want of a value. -/
theorem isLoaded_iff {files : List (String × String)} :
    IsLoaded (load depth files) ↔ ∀ fault, load depth files ≠ .error fault := by
  rw [IsLoaded, load]
  cases readAll depth files with
  | error first => simp [bind, Except.bind]
  | ok sources =>
    simp only [bind, Except.bind, pure, Except.pure]
    split
    case isTrue =>
      split
      case isTrue => simp
      case isFalse hreports => simpa using hreports
    case isFalse hdiagnostics => simpa using hdiagnostics

/-- A text, and a list of texts, is answered exactly if every literal that is met in it has a value.
If one of them has none, there is no answer, and the first such literal tells what comes instead. -/
theorem answers_iff_literals_have_values (depth : Option Nat) :
    (∀ file text, IsAnswered (readSource depth file text) ↔
      ∀ token ∈ literalsMet depth text, token.fault? = none) ∧
    (∀ files, IsLoaded (load depth files) ↔
      ∀ source ∈ files, ∀ token ∈ literalsMet depth source.2, token.fault? = none) ∧
    ∀ files fault, load depth files = .error fault ↔
      (files.flatMap (literalsMet depth ·.2)).findSome? Token.fault? = some fault := by
  refine ⟨fun file text => ?_, fun files => ?_, fun files fault => load_eq_error_iff⟩
  · rw [isAnswered_iff, forall_ne_error_iff fun _ => readSource_eq_error_iff]
  · rw [isLoaded_iff, forall_ne_error_iff fun _ => load_eq_error_iff, List.forall_mem_flatMap]

/-- A function that calls another one with a text that ends in the middle of an escape. -/
def brokenEscape : String := "void f() \x7b g(\"\\x\"); \x7d"

/-- The same function with a complete escape. -/
def completeEscape : String := "void f() \x7b g(\"\\x41\"); \x7d"

/-- A broken escape in a text that is in the language leaves it without an answer. The text with a
complete escape in its place is answered. -/
theorem brokenEscape_is_not_answered :
    let depth := some Body.standardDepth
    ¬ IsAnswered (readSource depth "a.tc" brokenEscape) ∧
      load depth [("b.tc", completeEscape), ("a.tc", brokenEscape)] = .error .brokenText ∧
      IsAnswered (readSource depth "b.tc" completeEscape) ∧
      IsLoaded (load depth [("b.tc", completeEscape)]) := by
  intro depth
  have hbroken : (literalsMet depth brokenEscape).findSome? Token.fault? = some .brokenText := by
    decide +kernel
  have hcomplete : ∀ token ∈ literalsMet depth completeEscape, token.fault? = none := by
    decide +kernel
  obtain ⟨hone, hall, hfirst⟩ := answers_iff_literals_have_values depth
  refine ⟨fun hanswer => ?_, (hfirst _ _).mpr ?_, (hone _ _).mpr hcomplete,
    (hall _).mpr (List.forall_mem_singleton.mpr hcomplete)⟩
  · rw [List.findSome?_eq_none_iff.mpr ((hone _ _).mp hanswer)] at hbroken
    cases hbroken
  · -- The first file has no fault, so the one in the second file counts.
    rw [List.flatMap_cons, List.findSome?_append, List.findSome?_eq_none_iff.mpr hcomplete]
    simpa using hbroken

end Throws.Load
