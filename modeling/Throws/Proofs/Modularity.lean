import Throws.Proofs.Concerns
import Throws.Proofs.ProgramOutcome
import Throws.Proofs.TableBuilding

/-!
# Verification is modular

The report on a definition can be told from the definition itself and from the contracts that it is
concerned with. So two programs that agree on these give it the same report, whatever else they
contain. Nothing is carried over from one definition to the next, and building the table does not
look into bodies: whoever changes the body of another definition, or adds or removes functions that
the definition neither is nor calls, leaves its report as it was.
-/

namespace Throws.Verification

open Throws.Body Throws.Effect Throws.Signature

/-- Functions that differ at most in what they do and in where they stand. -/
structure SameHeader (function other : Function) : Prop where
  /-- They are the same function. -/
  key_eq : other.key = function.key
  /-- They have the same clauses. -/
  specifier_eq : other.specifier = function.specifier
  /-- Both are definitions, or neither is. -/
  isDefinition_eq : other.isDefinition = function.isDefinition

theorem SameHeader.symm {function other : Function} (h : SameHeader function other) :
    SameHeader other function :=
  ⟨h.key_eq.symm, h.specifier_eq.symm, h.isDefinition_eq.symm⟩

/-- The functions of a program before and after an edit that stays away from the given concerns.
The bodies of definitions may change and everything may stand elsewhere; functions that are none of
the concerns may be added and removed. -/
inductive EditedApart (concerns : List FunctionKey) : List Function → List Function → Prop
  | nil : EditedApart concerns [] []
  | change {function other : Function} {before after : List Function} :
      SameHeader function other → EditedApart concerns before after →
      EditedApart concerns (function :: before) (other :: after)
  | add {function : Function} {before after : List Function} :
      function.key ∉ concerns → EditedApart concerns before after →
      EditedApart concerns before (function :: after)
  | remove {function : Function} {before after : List Function} :
      function.key ∉ concerns → EditedApart concerns before after →
      EditedApart concerns (function :: before) after

/-- Every header of the function that is among the first ones is among the others. -/
def HeadersWithin (functions others : List Function) (key : FunctionKey) : Prop :=
  ∀ function ∈ functions, function.key = key → ∃ other ∈ others, SameHeader function other

section Tables

variable {functions functions' : List Function} {concerns : List FunctionKey} {key : FunctionKey}

theorem EditedApart.symm (h : EditedApart concerns functions functions') :
    EditedApart concerns functions' functions := by
  induction h with
  | nil => exact .nil
  | change hsame _ ih => exact .change hsame.symm ih
  | add hapart _ ih => exact .remove hapart ih
  | remove hapart _ ih => exact .add hapart ih

/-- An edit keeps the headers of all that is of concern. -/
theorem EditedApart.headersWithin (h : EditedApart concerns functions functions')
    (hkey : key ∈ concerns) : HeadersWithin functions functions' key := by
  induction h with
  | nil => exact List.forall_mem_nil _
  | change hsame _ ih =>
    intro function hmem hfunction
    rcases List.mem_cons.mp hmem with rfl | hmem
    · exact ⟨_, List.mem_cons_self, hsame⟩
    · obtain ⟨other, hother, hheader⟩ := ih function hmem hfunction
      exact ⟨other, List.mem_cons_of_mem _ hother, hheader⟩
  | add _ _ ih =>
    intro function hmem hfunction
    obtain ⟨other, hother, hheader⟩ := ih function hmem hfunction
    exact ⟨other, List.mem_cons_of_mem _ hother, hheader⟩
  | remove hapart _ ih =>
    intro function hmem hfunction
    rcases List.mem_cons.mp hmem with rfl | hmem
    · -- A function that was removed is not of concern.
      exact absurd (hfunction ▸ hkey) hapart
    · exact ih function hmem hfunction

/-- Whether a function settles a contract can be told from headers. -/
theorem HeadersWithin.settling (hto : HeadersWithin functions functions' key)
    (hfrom : HeadersWithin functions' functions key) :
    HeadersWithin (settling functions) (settling functions') key := by
  intro function hmem hkey
  obtain ⟨hfunction, hsettles⟩ := mem_settling_iff.mp hmem
  obtain ⟨other, hother, hsame⟩ := hto function hfunction hkey
  refine ⟨other, mem_settling_iff.mpr ⟨hother, ?_⟩, hsame⟩
  intro hdefinition declaration hdeclaration hbodyless heq
  -- A bodyless declaration on the one side has its counterpart on the other.
  have hkey' : declaration.key = key := by rw [heq, hsame.key_eq, hkey]
  obtain ⟨counterpart, hcounterpart, hsame'⟩ := hfrom declaration hdeclaration hkey'
  refine hsettles (hsame.isDefinition_eq ▸ hdefinition) counterpart hcounterpart ?_ ?_
  · rw [hsame'.isDefinition_eq, hbodyless]
  · rw [hsame'.key_eq, hkey', hkey]

/-- Tables of the same headers of a function have the same contract for it. -/
theorem lookup_eq_of_headersWithin {table table' : Table}
    (hbuild : buildTable functions = (table, [])) (hbuild' : buildTable functions' = (table', []))
    (hto : HeadersWithin functions functions' key)
    (hfrom : HeadersWithin functions' functions key) :
    table.lookup key = table'.lookup key := by
  have hreflects := (reflects_buildTable (congrArg Prod.snd hbuild)).2
  have hreflects' := (reflects_buildTable (congrArg Prod.snd hbuild')).2
  rw [hbuild] at hreflects
  rw [hbuild'] at hreflects'
  refine hreflects.lookup_eq_of_specifiers hreflects' (fun function hmem hkey => ?_)
    (fun function hmem hkey => ?_)
  · obtain ⟨other, hother, hsame⟩ := hto.settling hfrom function hmem hkey
    exact ⟨other, hother, hsame.key_eq.trans hkey, hsame.specifier_eq⟩
  · obtain ⟨other, hother, hsame⟩ := hfrom.settling hto function hmem hkey
    exact ⟨other, hother, hsame.key_eq.trans hkey, hsame.specifier_eq⟩

end Tables

/-- The report on a definition depends only on the definition and on the contracts of its own
function and of the functions that it calls. Two programs whose declarations are in order and whose
bodies can be analysed, in which the definition stands at any two positions, give it the same report
if their tables agree on these contracts. In particular they do if the one is the other after an
edit that changes bodies of other definitions, or adds or removes functions that the definition
neither is nor calls. -/
theorem report_depends_on_concerns {options options' : Options} {units units' : List SourceUnit}
    {result result' : Result} {table table' : Table} {definition : Function}
    {position position' : Nat} (h : verifyProgram options units = .ok result)
    (h' : verifyProgram options' units' = .ok result') (htable : result.signatures = some table)
    (htable' : result'.signatures = some table')
    (hdefinition : (units.flatMap (·.definitions))[position]? = some definition)
    (hdefinition' : (units'.flatMap (·.definitions))[position']? = some definition) :
    ((∀ key ∈ definition.concerns, table.lookup key = table'.lookup key) →
      ∃ report, result.reports[position]? = some report ∧
        result'.reports[position']? = some report) ∧
    (EditedApart definition.concerns (units.flatMap (·.functions))
        (units'.flatMap (·.functions)) →
      ∃ report, result.reports[position]? = some report ∧
        result'.reports[position']? = some report) := by
  obtain ⟨hbuild, hreports⟩ := verifyProgram_of_signatures h htable
  obtain ⟨hbuild', hreports'⟩ := verifyProgram_of_signatures h' htable'
  obtain ⟨report, hreport, hok⟩ := getElem?_of_verifyDefinitions hreports hdefinition
  obtain ⟨report', hreport', hok'⟩ := getElem?_of_verifyDefinitions hreports' hdefinition'
  have hcontracts : (∀ key ∈ definition.concerns, table.lookup key = table'.lookup key) →
      ∃ report, result.reports[position]? = some report ∧
        result'.reports[position']? = some report := by
    intro hagree
    -- The limits on the depth may differ, but they do not change reports.
    have hsame : verifyFunction none table.source definition =
        verifyFunction none table'.source definition :=
      verifyFunction_congr fun key hkey => by simpa using hagree key hkey
    rw [verifyFunction_none_of_ok hok, verifyFunction_none_of_ok hok'] at hsame
    exact ⟨report, hreport, Except.ok.inj hsame ▸ hreport'⟩
  refine ⟨hcontracts, fun hedited => hcontracts fun key hkey => ?_⟩
  exact lookup_eq_of_headersWithin hbuild hbuild' (hedited.headersWithin hkey)
    (hedited.symm.headersWithin hkey)

/-- A definition of `main` that is `noexcept` and calls `f`. -/
def caller : Function := {
  key := { name := "main" }
  specifier := .nothrow
  body := some (.eval (.call (some { name := "f" }) [] none {}) {}) }

/-- In a second program `g` does something else, there is one more declaration and one more
definition, and everything is distributed over two units. `caller` stands at another position, and
in both programs it is reported for the escape of `A`. -/
theorem report_caller :
    let declaration : Function := { key := { name := "f" }, specifier := .throwing ["A"] false }
    let units : List SourceUnit := [
      ⟨"a", [declaration, { key := { name := "g" }, body := some (.block [] {}) }, caller]⟩]
    let units' : List SourceUnit := [
      ⟨"b", [{ key := { name := "x" }, specifier := .nothrow }, declaration,
        { key := { name := "g" }, body := some (.rethrow {}) }]⟩,
      ⟨"c", [{ key := { name := "y" }, body := some (.block [] {}) }, caller]⟩]
    ∃ result result' report, verifyProgram {} units = .ok result ∧
      verifyProgram {} units' = .ok result' ∧
      EditedApart caller.concerns (units.flatMap (·.functions)) (units'.flatMap (·.functions)) ∧
      result.reports[1]? = some report ∧ result'.reports[2]? = some report ∧
      report.diagnostics =
        [(Problem.escape (.declared ∅) (.single "A") []).report caller] := by
  intro declaration units units'
  have hconcerns : caller.concerns = [{ name := "main" }, { name := "f" }] := by
    change { name := "main" } :: Node.callees (.eval _ _) = _
    rw [Node.callees_eq]
    change { name := "main" } :: (Node.callees (.call _ _ _ _) ++ []) = _
    rw [Node.callees_eq]
    rfl
  have hedited : EditedApart caller.concerns (units.flatMap (·.functions))
      (units'.flatMap (·.functions)) := by
    rw [hconcerns]
    refine .add (by decide) (.change ⟨rfl, rfl, rfl⟩ (.change ⟨rfl, rfl, rfl⟩ ?_))
    exact .add (by decide) (.change ⟨rfl, rfl, rfl⟩ .nil)
  obtain ⟨result, h, htable, hreport⟩ : ∃ result, verifyProgram {} units = .ok result ∧
      result.signatures = some (buildTable (units.flatMap (·.functions))).1 ∧
      result.reports[1]?.map (·.diagnostics) =
        some [(Problem.escape (.declared ∅) (.single "A") []).report caller] := ⟨_, rfl, rfl, rfl⟩
  obtain ⟨result', h', htable'⟩ : ∃ result', verifyProgram {} units' = .ok result' ∧
      result'.signatures = some (buildTable (units'.flatMap (·.functions))).1 := ⟨_, rfl, rfl⟩
  obtain ⟨_, hunaffected⟩ := report_depends_on_concerns h h' htable htable'
    (rfl : _[1]? = some caller) (rfl : _[2]? = some caller)
  obtain ⟨report, hleft, hright⟩ := hunaffected hedited
  rw [hleft] at hreport
  exact ⟨result, result', report, h, h', hedited, hleft, hright, Option.some.inj hreport⟩

end Throws.Verification
