import Throws.Proofs.TableBuilding
import Throws.Signature.Session

/-!
# The history of a registry

Whatever is done with a registry, and in whatever order, some things can be relied on. A declaration
is accepted exactly if it agrees with itself and with what is there. One that is rejected changes
nothing, whether its error is collected or raised. What was accepted stays, in its place, with its
span and its effect; all that can still happen to it is that a contract that nobody wrote gets the
written form `throws(...)`, once. And once the table is published nothing changes any more.

What one operation does is said by `step_cases`; what holds of every history follows by induction.
-/

namespace Throws

/-- A contract that is not declared agrees with one that is only if that is `throws(...)`. -/
theorem Contract.eq_universal_of_effective_eq {earlier later : Contract}
    (hearlier : earlier.isDeclared = false) (hlater : later.isDeclared = true)
    (heffective : earlier.effective = later.effective) :
    earlier = .undeclared ∧ later = .declared .universal := by
  cases earlier with
  | declared allowed => cases hearlier
  | undeclared =>
    cases later with
    | undeclared => cases hlater
    | declared allowed => exact ⟨rfl, congrArg declared heffective.symm⟩

namespace Signature

/-- Whether what is declared contradicts itself. -/
def Declared.isConflicting : Declared → Bool
  | .specifier written => written.isConflicting
  | .contract _ => false

/-- The contract that is declared. -/
def Declared.meaning : Declared → Contract
  | .specifier written => written.meaning
  | .contract known => known

/-- Where a declaration stands. Without a span of its own it stands where its specifier does. -/
def Declared.place (span : Option Span) : Declared → Span
  | .specifier written => span.getD written.span
  | .contract _ => span.getD {}

/-- What can become of an entry: its span and its effect stay, and so does its contract, unless it
was not declared and is declared as `throws(...)` now. Since it is declared then, this happens only
once. -/
structure Entry.Kept (earlier later : Entry) : Prop where
  /-- The function was first declared where it was. -/
  span_eq : later.span = earlier.span
  /-- Callers reckon with the same exceptions. -/
  effective_eq : later.contract.effective = earlier.contract.effective
  /-- At most the written form is new. -/
  contract_eq : later.contract = earlier.contract ∨
    earlier.contract = .undeclared ∧ later.contract = .declared .universal

namespace Entry.Kept

theorem refl (entry : Entry) : entry.Kept entry := ⟨rfl, rfl, .inl rfl⟩

theorem trans {first second third : Entry} (h : first.Kept second) (h' : second.Kept third) :
    first.Kept third := by
  refine ⟨h'.span_eq.trans h.span_eq, h'.effective_eq.trans h.effective_eq, ?_⟩
  rcases h'.contract_eq with heq | ⟨hundeclared, hwritten⟩
  · rw [heq]
    exact h.contract_eq
  · -- The written form is new in the second step, so the first one changed nothing.
    rcases h.contract_eq with heq | ⟨_, hdeclared⟩
    · exact .inr ⟨heq ▸ hundeclared, hwritten⟩
    · rw [hundeclared] at hdeclared
      cases hdeclared

end Entry.Kept

namespace Table

variable {table next : Table} {key : FunctionKey} {declared : Declared} {span : Option Span}

/-- Every entry of the table is kept later on. -/
def Keeps (table later : Table) : Prop :=
  ∀ key entry, table.find? key = some entry →
    ∃ entry', later.find? key = some entry' ∧ entry.Kept entry'

/-- A declaration agrees with the table: it does not contradict itself, and the function is new or
has a contract of the same effect. -/
def Admits (table : Table) (key : FunctionKey) (declared : Declared) : Prop :=
  declared.isConflicting = false ∧
    (table.contains key = false ∨ (table.lookup key).effective = declared.meaning.effective)

theorem Keeps.refl (table : Table) : table.Keeps table :=
  fun _ entry hfind => ⟨entry, hfind, .refl entry⟩

theorem Keeps.trans {later : Table} (h : table.Keeps next) (h' : next.Keeps later) :
    table.Keeps later := by
  intro key entry hfind
  obtain ⟨entry', hfind', hkept⟩ := h key entry hfind
  obtain ⟨entry'', hfind'', hkept'⟩ := h' key entry' hfind'
  exact ⟨entry'', hfind'', hkept.trans hkept'⟩

/-- A function is contained exactly if it is among those recorded. -/
theorem contains_eq_false_iff : table.contains key = false ↔ key ∉ table.keys := by
  rw [contains, Option.isSome_eq_false_iff, Option.isNone_iff_eq_none, find?_eq_none_iff]

/-- A declaration without a contradiction is recorded by its contract. -/
theorem record_of_not_conflicting (h : declared.isConflicting = false) :
    table.record key declared span =
      table.recordContract key declared.meaning (declared.place span) := by
  cases declared with
  | specifier specifier => exact checkSpecifier_bind h
  | contract contract => rfl

/-- A declaration that is recorded does not contradict itself. -/
theorem not_conflicting_of_record (h : table.record key declared span = .ok next) :
    declared.isConflicting = false := by
  cases declared with
  | specifier specifier => exact (of_checkSpecifier_bind_ok h).1
  | contract contract => rfl

/-- Recording a declaration records its contract. -/
theorem recordContract_of_record (h : table.record key declared span = .ok next) :
    table.recordContract key declared.meaning (declared.place span) = .ok next := by
  rwa [record_of_not_conflicting (not_conflicting_of_record h)] at h

/-- A declaration is recorded exactly if the table admits it. -/
theorem exists_record_iff_admits (table : Table) (key : FunctionKey) (declared : Declared)
    (span : Option Span) :
    (∃ next, table.record key declared span = .ok next) ↔ table.Admits key declared := by
  constructor
  · rintro ⟨next, h⟩
    refine ⟨not_conflicting_of_record h, ?_⟩
    have hrecorded := recorded_of_recordContract (recordContract_of_record h)
    by_cases hmem : key ∈ table.keys
    · -- Recording compares with what is there.
      exact .inr (hrecorded.agrees hmem)
    · exact .inl (contains_eq_false_iff.mpr hmem)
  · rintro ⟨hconflict, hagree⟩
    rw [record_of_not_conflicting hconflict]
    refine exists_recordContract table _ fun hmem => hagree.resolve_left fun hnew => ?_
    exact contains_eq_false_iff.mp hnew hmem

/-- Recording a declaration keeps every entry. -/
theorem Keeps.of_record (h : table.record key declared span = .ok next) : table.Keeps next := by
  intro other entry hfind
  rcases recordContract_cases (recordContract_of_record h) with
    ⟨_, rfl⟩ | ⟨earlier, hearlier, heq, ⟨hundeclared, hwritten, rfl⟩ | ⟨_, rfl⟩⟩
  · -- What is put last is not found in place of anything.
    refine ⟨entry, ?_, .refl entry⟩
    rw [find?_push, hfind, Option.some_or]
  · rw [find?_setContract, hfind]
    refine ⟨_, rfl, ?_⟩
    dsimp only
    split
    case isTrue hother =>
      subst hother
      obtain rfl : earlier = entry := Option.some.inj (hearlier.symm.trans hfind)
      exact ⟨rfl, heq.symm, .inr (Contract.eq_universal_of_effective_eq hundeclared hwritten heq)⟩
    case isFalse => exact .refl entry
  · exact ⟨entry, hfind, .refl entry⟩

/-- A declaration that is recorded settles the effect, and for a new function all of the entry. -/
theorem lookup_of_record (h : table.record key declared span = .ok next) :
    (next.lookup key).effective = declared.meaning.effective ∧
      (table.contains key = false →
        next.find? key = some { contract := declared.meaning, span := declared.place span }) := by
  have hrecord := recordContract_of_record h
  refine ⟨(recorded_of_recordContract hrecord).effective_eq, fun hnew => ?_⟩
  have hnone := find?_eq_none_iff.mpr (contains_eq_false_iff.mp hnew)
  rcases recordContract_cases hrecord with ⟨_, rfl⟩ | ⟨earlier, hearlier, _⟩
  · rw [find?_push, hnone, Option.none_or, if_pos rfl]
  · rw [hnone] at hearlier
    cases hearlier

end Table

namespace Session

variable (session : Session)

/-- The function whose declaration the operation gets accepted, if it does. -/
def accepted? : Operation → Option FunctionKey
  | .register key declared span collecting =>
    match (session.step (.register key declared span collecting)).1 with
    | .registered true => some key
    | _ => none
  | _ => none

/-- The functions whose declarations are accepted, in the order of the operations. -/
def acceptedKeys : Session → List Operation → List FunctionKey
  | _, [] => []
  | session, operation :: rest =>
    (session.accepted? operation).toList ++ acceptedKeys (session.step operation).2 rest

variable {session} {key : FunctionKey} {declared : Declared} {span : Option Span}
  {collecting : Bool} {operation : Operation}

/-- Once the table is published, a registration raises an error and changes nothing. -/
theorem step_register_of_frozen (h : session.registry.frozen = true) :
    session.step (.register key declared span collecting) = (.raised .frozen, session) := by
  simp only [step, Registry.register, h, if_true]

/-- While the table is open, a declaration that can be recorded is accepted. -/
theorem step_register_of_record {table : Table} (hopen : session.registry.frozen = false)
    (h : session.registry.table.record key declared span = .ok table) :
    session.step (.register key declared span collecting) =
      (.registered true,
        { session with registry := { session.registry with table := table } }) := by
  simp only [step, Registry.register, hopen, h, Bool.false_eq_true, if_false]

/-- While the table is open, the error of a declaration that cannot be recorded is collected or
raised, and the registry stays as it is. -/
theorem step_register_of_error {diagnostic : Diagnostic} (hopen : session.registry.frozen = false)
    (h : session.registry.table.record key declared span = .error diagnostic) :
    session.step (.register key declared span collecting) =
      if collecting then
        (.registered false, { session with collected := session.collected ++ [diagnostic] })
      else (.raised (.rejected diagnostic), session) := by
  simp only [step, Registry.register, hopen, h, Bool.false_eq_true, if_false]

/-- Every operation is of one of three kinds. It accepts a declaration while the table is open, it
publishes the table, or it leaves the registry as it is. -/
theorem step_cases (session : Session) (operation : Operation) :
    (∃ key declared span table, session.accepted? operation = some key ∧
        session.registry.frozen = false ∧
        session.registry.table.record key declared span = .ok table ∧
        (session.step operation).2.registry = { session.registry with table := table }) ∨
      (session.accepted? operation = none ∧
        (operation = .freeze ∧ (session.step operation).2.registry = session.registry.freeze ∨
          operation ≠ .freeze ∧ (session.step operation).2.registry = session.registry)) := by
  cases operation with
  | register key declared span collecting =>
    simp only [accepted?]
    cases hfrozen : session.registry.frozen with
    | true =>
      rw [step_register_of_frozen hfrozen]
      exact .inr ⟨rfl, .inr ⟨nofun, rfl⟩⟩
    | false =>
      cases hrecord : session.registry.table.record key declared span with
      | ok table =>
        rw [step_register_of_record hfrozen hrecord]
        exact .inl ⟨key, declared, span, table, rfl, rfl, hrecord, rfl⟩
      | error diagnostic =>
        rw [step_register_of_error hfrozen hrecord]
        cases collecting <;> exact .inr ⟨rfl, .inr ⟨nofun, rfl⟩⟩
  | lookup key => exact .inr ⟨rfl, .inr ⟨nofun, rfl⟩⟩
  | freeze => exact .inr ⟨rfl, .inl ⟨rfl, rfl⟩⟩

/-- No operation loses or alters an entry. -/
theorem keeps_step (session : Session) (operation : Operation) :
    session.registry.table.Keeps (session.step operation).2.registry.table := by
  rcases step_cases session operation with
    ⟨key, declared, span, table, _, _, hrecord, heq⟩ | ⟨_, ⟨_, heq⟩ | ⟨_, heq⟩⟩
  · rw [heq]
    exact .of_record hrecord
  · rw [heq]
    exact .refl _
  · rw [heq]
    exact .refl _

/-- No sequence of operations loses or alters an entry. -/
theorem keeps_run (session : Session) (operations : List Operation) :
    session.registry.table.Keeps (session.run operations).registry.table := by
  induction operations generalizing session with
  | nil => exact .refl _
  | cons operation rest ih => exact (keeps_step session operation).trans (ih _)

/-- The functions in the table stay, and one that is accepted is put last if it is new. -/
theorem keys_step {keys : List FunctionKey} (operation : Operation)
    (h : session.registry.table.keys = keys.eraseDups) :
    (session.step operation).2.registry.table.keys =
      (keys ++ (session.accepted? operation).toList).eraseDups := by
  rcases step_cases session operation with
    ⟨key, declared, span, table, haccepted, _, hrecord, heq⟩ | ⟨haccepted, ⟨_, heq⟩ | ⟨_, heq⟩⟩
  · have hrecorded := Table.recorded_of_recordContract (Table.recordContract_of_record hrecord)
    rw [heq, haccepted, Option.toList_some, hrecorded.keys_eq, h,
      Verification.eraseDups_append_singleton]
  · rw [heq, haccepted, Option.toList_none, List.append_nil]
    exact h
  · rw [heq, haccepted, Option.toList_none, List.append_nil]
    exact h

/-- The functions in the table are those that were accepted, in the order of first acceptance. -/
theorem keys_run {keys : List FunctionKey} (operations : List Operation)
    (h : session.registry.table.keys = keys.eraseDups) :
    (session.run operations).registry.table.keys =
      (keys ++ session.acceptedKeys operations).eraseDups := by
  induction operations generalizing session keys with
  | nil =>
    rw [acceptedKeys, List.append_nil]
    exact h
  | cons operation rest ih =>
    -- What was accepted so far grows along with the table, so it is kept general.
    rw [acceptedKeys, ← List.append_assoc]
    exact ih (keys_step operation h)

/-- A table stays open as long as it is not published. -/
theorem frozen_run {operations : List Operation} (h : .freeze ∉ operations) :
    (session.run operations).registry.frozen = session.registry.frozen := by
  induction operations generalizing session with
  | nil => rfl
  | cons operation rest ih =>
    have hoperation : operation ≠ .freeze := fun heq => h (heq ▸ List.mem_cons_self)
    refine (ih fun hrest => h (List.mem_cons_of_mem _ hrest)).trans ?_
    -- Accepting a declaration fills the table and publishes nothing.
    rcases step_cases session operation with
      ⟨_, _, _, _, _, _, _, heq⟩ | ⟨_, ⟨hfreeze, _⟩ | ⟨_, heq⟩⟩
    · rw [heq]
      rfl
    · exact absurd hfreeze hoperation
    · rw [heq]

end Session

/-- Whatever has been published is what is in the table. -/
def Registry.Faithful (registry : Registry) : Prop :=
  ∀ view, registry.published = some view → view = registry.table

/-- Others see what is in the table. -/
theorem Registry.Faithful.view_eq {registry : Registry} (h : registry.Faithful) :
    registry.view = registry.table := by
  unfold Registry.view
  cases hpublished : registry.published with
  | some view => exact h view hpublished
  | none => rfl

/-- What is published now is what is in the table, or else it was published before. -/
theorem Registry.Faithful.freeze {registry : Registry} (h : registry.Faithful) :
    registry.freeze.Faithful := by
  intro view hview
  cases hpublished : registry.published with
  | some earlier =>
    rw [Registry.freeze, hpublished] at hview
    exact h view (hpublished.trans hview)
  | none =>
    rw [Registry.freeze, hpublished] at hview
    exact (Option.some.inj hview).symm

namespace Session

variable {session : Session}

/-- What has been published stays what is in the table. -/
theorem faithful_step (operation : Operation) (h : session.registry.Faithful) :
    (session.step operation).2.registry.Faithful := by
  rcases step_cases session operation with
    ⟨_, _, _, _, _, hopen, _, heq⟩ | ⟨_, ⟨_, heq⟩ | ⟨_, heq⟩⟩
  · -- A declaration is only accepted while nothing is published.
    rw [heq]
    intro view hview
    rw [Registry.frozen, Option.isSome_eq_false_iff, Option.isNone_iff_eq_none] at hopen
    rw [hopen] at hview
    cases hview
  · rw [heq]
    exact h.freeze
  · rw [heq]
    exact h

/-- What has been published is what is in the table, whatever happens. -/
theorem faithful_run (operations : List Operation) (h : session.registry.Faithful) :
    (session.run operations).registry.Faithful := by
  induction operations generalizing session with
  | nil => exact h
  | cons operation rest ih => exact ih (faithful_step operation h)

/-- Publishing a table closes it. -/
theorem frozen_step_freeze (session : Session) :
    (session.step .freeze).2.registry.frozen = true := by
  change (session.registry.published.or (some session.registry.table)).isSome = true
  rw [Option.isSome_or, Option.isSome_some, Bool.or_true]

/-- A table that has been published is published as it was, and nothing changes. -/
theorem step_freeze_of_frozen (h : session.registry.frozen = true) :
    session.step .freeze = (.view session.registry.view, session) := by
  obtain ⟨view, hview⟩ := Option.isSome_iff_exists.mp h
  have hfreeze : session.registry.freeze = session.registry := by
    rw [Registry.freeze, hview, Option.some_or, ← hview]
  simp only [step, hfreeze]

/-- Once the table is published, no operation changes anything. -/
theorem run_of_frozen (operations : List Operation) (h : session.registry.frozen = true) :
    session.run operations = session := by
  induction operations with
  | nil => rfl
  | cons operation rest ih =>
    have hstep : (session.step operation).2 = session := by
      cases operation with
      | register key declared span collecting => rw [step_register_of_frozen h]
      | lookup key => rfl
      | freeze => rw [step_freeze_of_frozen h]
    rw [run, List.foldl_cons, hstep]
    exact ih

/-- How an open registry deals with a declaration: the answer, and the session afterwards. -/
structure Decided (session : Session) (key : FunctionKey) (declared : Declared)
    (span : Option Span) (collecting : Bool) (outcome : Answer × Session) : Prop where
  /-- A declaration is accepted exactly if the table admits it. -/
  accepted_iff : outcome.1 = .registered true ↔ session.registry.table.Admits key declared
  /-- One that is accepted settles the effect, and for a new function all of the entry. -/
  of_accepted : outcome.1 = .registered true → outcome.2.collected = session.collected ∧
    (outcome.2.registry.table.lookup key).effective = declared.meaning.effective ∧
    (session.registry.table.contains key = false → outcome.2.registry.table.find? key =
      some { contract := declared.meaning, span := declared.place span })
  /-- One that is not leaves the registry as it is, and its error is collected or raised. -/
  of_rejected : outcome.1 ≠ .registered true → outcome.2.registry = session.registry ∧
    ∃ diagnostic,
      (collecting = true → outcome.1 = .registered false ∧
        outcome.2.collected = session.collected ++ [diagnostic]) ∧
      (collecting = false → outcome.1 = .raised (.rejected diagnostic) ∧
        outcome.2.collected = session.collected)

/-- An open registry deals with every declaration in this way. -/
theorem decided_of_open (hopen : session.registry.frozen = false) (key : FunctionKey)
    (declared : Declared) (span : Option Span) (collecting : Bool) :
    session.Decided key declared span collecting
      (session.step (.register key declared span collecting)) := by
  have hadmits := Table.exists_record_iff_admits session.registry.table key declared span
  cases hrecord : session.registry.table.record key declared span with
  | ok table =>
    rw [step_register_of_record hopen hrecord]
    exact {
      accepted_iff := iff_of_true rfl (hadmits.mp ⟨table, hrecord⟩)
      of_accepted := fun _ => ⟨rfl, Table.lookup_of_record hrecord⟩
      of_rejected := fun h => absurd rfl h }
  | error diagnostic =>
    have hnot : ¬ session.registry.table.Admits key declared := by
      rw [← hadmits, hrecord]
      exact nofun
    rw [step_register_of_error hopen hrecord]
    -- Collecting and raising differ in the answer and in the list of errors only.
    cases collecting with
    | true =>
      exact {
        accepted_iff := iff_of_false nofun hnot
        of_accepted := nofun
        of_rejected := fun _ => ⟨rfl, diagnostic, fun _ => ⟨rfl, rfl⟩, nofun⟩ }
    | false =>
      exact {
        accepted_iff := iff_of_false nofun hnot
        of_accepted := nofun
        of_rejected := fun _ => ⟨rfl, diagnostic, nofun, fun _ => ⟨rfl, rfl⟩⟩ }

/-- What can be relied on after any history of a registry. As long as the table has not been
published, each declaration is accepted exactly if the table admits it, and changes nothing if it is
rejected. No entry is ever lost or altered, but for a contract that gets its written form. The
functions are in the order in which they were first accepted. From when the table is first published
no declaration is taken, nothing changes, it is published again as it was, and what was published
gives the same answers as the table. -/
theorem history_of_registry (history : List Operation) :
    let session : Session := run {} history
    let table := session.registry.table
    (.freeze ∉ history → ∀ key declared span collecting,
      session.Decided key declared span collecting
        (session.step (.register key declared span collecting))) ∧
    (∀ later, table.Keeps (run {} (history ++ later)).registry.table) ∧
    table.keys = (acceptedKeys {} history).eraseDups ∧
    ∀ before after, history = before ++ .freeze :: after → ∃ view,
      ((run {} before).step .freeze).1 = .view view ∧
      (∀ key declared span collecting,
        session.step (.register key declared span collecting) = (.raised .frozen, session)) ∧
      session.step .freeze = (.view view, session) ∧
      ∀ key, view.lookup key = table.lookup key ∧ view.contains key = table.contains key := by
  intro session table
  have hkeys : table.keys = ([] ++ acceptedKeys {} history).eraseDups := keys_run history rfl
  refine ⟨fun hfreeze => decided_of_open (frozen_run hfreeze), fun later => ?_, hkeys,
    fun before after hsplit => ?_⟩
  · rw [run, List.foldl_append]
    exact keeps_run session later
  · -- Nothing has changed since the table was published.
    let published : Session := ((run {} before).step .freeze).2
    have hfrozen : published.registry.frozen = true := frozen_step_freeze (run {} before)
    have hsame : session = published := by
      simp only [session, hsplit, run, List.foldl_append, List.foldl_cons]
      exact run_of_frozen after hfrozen
    have hview : published.registry.view = table := by
      have hfaithful : session.registry.Faithful := faithful_run history nofun
      rw [← hsame]
      exact hfaithful.view_eq
    refine ⟨published.registry.view, rfl, fun key declared span collecting => ?_, ?_, fun key => ?_⟩
    · rw [hsame]
      exact step_register_of_frozen hfrozen
    · rw [hsame]
      exact step_freeze_of_frozen hfrozen
    · rw [hview]
      exact ⟨rfl, rfl⟩

/-- `f` is declared without a contract and then as `throws(...)`, a third declaration of it as
`noexcept` is rejected, one of `g` contradicts itself, and another one does not. -/
def bookkeeping : List Operation := [
  .register { name := "f" } (.contract .undeclared) none true,
  .register { name := "f" } (.specifier (.throwing [] true)) none true,
  .lookup { name := "f" },
  .register { name := "f" } (.specifier .nothrow) none true,
  .register { name := "g" } (.specifier { noexcept := true, wildcard := true }) none false,
  .register { name := "g" } (.specifier .nothrow) none false]

/-- After `bookkeeping` the table is open, has `f` in its written form and then `g`, and rejects
another contract for `g`. After it is published it is closed. -/
theorem history_of_bookkeeping :
    let current : Session := run {} bookkeeping
    let closed : Session := run {} (bookkeeping ++ [.freeze, .lookup { name := "g" }])
    let other : Declared := .contract (.declared (.single "A"))
    .freeze ∉ bookkeeping ∧
      current.registry.table.items =
        [({ name := "f" }, .declared .universal), ({ name := "g" }, .declared ∅)] ∧
      current.collected.length = 1 ∧
      current.Decided { name := "g" } other none true
        (current.step (.register { name := "g" } other none true)) ∧
      (current.step (.register { name := "g" } other none true)).1 = .registered false ∧
      (run {} (bookkeeping.take 1)).registry.table.Keeps current.registry.table ∧
      current.registry.table.keys = (acceptedKeys {} bookkeeping).eraseDups ∧
      ∃ view, (current.step .freeze).1 = .view view ∧
        closed.step (.register { name := "h" } other none true) = (.raised .frozen, closed) ∧
        closed.step .freeze = (.view view, closed) ∧
        ∀ key, view.lookup key = closed.registry.table.lookup key ∧
          view.contains key = closed.registry.table.contains key := by
  intro current closed other
  have hopen : .freeze ∉ bookkeeping := by simp [bookkeeping]
  obtain ⟨hdecided, _, hkeys, _⟩ := history_of_registry bookkeeping
  obtain ⟨_, hkeeps, _, _⟩ := history_of_registry (bookkeeping.take 1)
  obtain ⟨_, _, _, hpublished⟩ :=
    history_of_registry (bookkeeping ++ [.freeze, .lookup { name := "g" }])
  obtain ⟨view, hview, hregister, hfreeze, hsame⟩ := hpublished bookkeeping _ rfl
  exact ⟨hopen, by rfl, by rfl, hdecided hopen _ other none true, by rfl,
    hkeeps (bookkeeping.drop 1), hkeys, view, hview, hregister _ other none true, hfreeze, hsame⟩

end Session

end Signature

end Throws
