import Mathlib.Data.List.Perm.Basic
import Throws.Proofs.CallTargets
import Throws.Proofs.PlaceAgreement

/-!
# The order of declarations does not matter

Neither the order of the files of a program nor that of the declarations in a file changes what the
declarations are resolved to, as long as nothing is reported. Where something is reported it may:
the first one of two aliases of one name counts.

Order could come in through the tables. The table of types answers the same questions in the same
way (`Reordered.agree`). The functions that can be called are listed in another order, and of
several declarations of one function the first one counts; but since functions are identified by
their types, they all say the same (`FromText.coherent`).
-/

namespace Throws.Resolution

open Throws.Body Throws.Surface

/-- The same declarations, each kind of them in any order. -/
structure SameDeclarations (program program' : Program Pos) : Prop where
  /-- The exception types. -/
  exceptions : program.exceptions.Perm program'.exceptions
  /-- The aliases. -/
  aliases : program.aliases.Perm program'.aliases
  /-- The functions. -/
  functions : program.functions.Perm program'.functions

/-- The same files in any order, each of them with the same declarations in any order. -/
def Reordered (sources sources' : List (String × Program Pos)) : Prop :=
  ∃ middle, sources.Perm middle ∧
    List.Forall₂ (fun source source' => source.1 = source'.1 ∧
      SameDeclarations source.2 source'.2) middle sources'

namespace Reordered

variable {sources sources' : List (String × Program Pos)} {depth : Option Nat}

/-- What is collected from all files is collected in another order. -/
theorem flatMap_perm {β : Type} (h : Reordered sources sources')
    {collect : String × Program Pos → List β}
    (hcollect : ∀ source source', source.1 = source'.1 → SameDeclarations source.2 source'.2 →
      (collect source).Perm (collect source')) :
    (sources.flatMap collect).Perm (sources'.flatMap collect) := by
  obtain ⟨middle, hperm, hfiles⟩ := h
  refine (hperm.flatMap_right collect).trans ?_
  clear hperm
  induction hfiles with
  | nil => exact .refl _
  | cons hfirst _ ih =>
    rw [List.flatMap_cons, List.flatMap_cons]
    exact (hcollect _ _ hfirst.1 hfirst.2).append ih

theorem files_perm (h : Reordered sources sources') :
    (sources.map (·.1)).Perm (sources'.map (·.1)) := by
  obtain ⟨middle, hperm, hfiles⟩ := h
  refine (hperm.map _).trans (List.Perm.of_eq ?_)
  rw [← List.forall₂_eq_eq_eq, List.forall₂_map_left_iff, List.forall₂_map_right_iff]
  exact hfiles.imp fun _ _ hsame => hsame.1

theorem exceptionNames_perm (h : Reordered sources sources') :
    (exceptionNames sources).Perm (exceptionNames sources') :=
  h.flatMap_perm fun _ _ _ hsame => hsame.exceptions.map _

theorem aliasDefs_perm (h : Reordered sources sources') :
    (aliasDefs sources).Perm (aliasDefs sources') := by
  refine h.flatMap_perm fun source source' hfile hsame => ?_
  rw [hfile]
  exact hsame.aliases.map _

theorem declarations_perm (h : Reordered sources sources') :
    (declarations sources).Perm (declarations sources') := by
  refine h.flatMap_perm fun source source' hfile hsame => ?_
  rw [hfile]
  exact hsame.functions.map _

/-! ## Types -/

theorem clean_ofPrograms_congr (h : Reordered sources sources') :
    (Types.ofPrograms sources).Clean depth ↔ (Types.ofPrograms sources').Clean depth := by
  rw [clean_ofPrograms_iff, clean_ofPrograms_iff, (h.aliasDefs_perm.map _).nodup_iff]
  simp only [h.aliasDefs_perm.mem_iff, h.exceptionNames_perm.mem_iff]

/-- The tables of types agree if nothing is reported for them. -/
theorem agree (h : Reordered sources sources') (hclean : (Types.ofPrograms sources).Clean depth) :
    (programTypes sources).Agree (programTypes sources') where
  contains_eq name := by
    rw [exceptions_programTypes, exceptions_programTypes, Bool.eq_iff_iff,
      List.contains_iff_mem, List.contains_iff_mem]
    exact h.exceptionNames_perm.mem_iff
  alias?_eq name := by
    have hclean' := h.clean_ofPrograms_congr.mp hclean
    refine Option.ext fun target => ?_
    simp only [alias?_programTypes_eq_some_iff hclean, alias?_programTypes_eq_some_iff hclean',
      h.aliasDefs_perm.mem_iff]
  length_eq := by
    have hclean' := h.clean_ofPrograms_congr.mp hclean
    rw [aliases_programTypes hclean, aliases_programTypes hclean', List.length_map,
      List.length_map, h.aliasDefs_perm.length_eq]

end Reordered

/-! ## Calls -/

/-- Declarations of one function say the same about it to callers. -/
def Coherent (sources : List (String × Program Pos)) : Prop :=
  ∀ declared ∈ declarations sources, ∀ declared' ∈ declarations sources,
    (headerIn sources declared.1 declared.2).value.key =
      (headerIn sources declared'.1 declared'.2).value.key →
    (headerIn sources declared.1 declared.2).value.overload =
      (headerIn sources declared'.1 declared'.2).value.overload

/-- The identity of a function tells what it returns and how many arguments it takes. -/
theorem FromText.coherent {sources : List (String × Program Pos)} (h : FromText sources) :
    Coherent sources := by
  intro declared hmem declared' hmem' hkey
  have hsignature : signatureIn sources declared.1 declared.2 =
      signatureIn sources declared'.1 declared'.2 :=
    (Signature.key_inj (spelled_signatureIn h hmem) (spelled_signatureIn h hmem')).mp hkey
  have hreturn := congrArg Signature.returnType hsignature
  have hlength := congrArg (fun signature => signature.params.length) hsignature
  simp only [signatureIn, value_resolveAll, List.length_map] at hlength
  simp only [Header.overload, hkey, source_headerIn, hlength]
  exact congrArg (Overload.mk _ · _) hreturn

/-- The functions that can be called are those that are declared. -/
theorem mem_overloads_iff {sources : List (String × Program Pos)} (h : Coherent sources)
    {overload : Overload} :
    overload ∈ (programGlobals sources).overloads ↔
      ∃ declared ∈ declarations sources,
        (headerIn sources declared.1 declared.2).value.overload = overload := by
  constructor
  · intro hmem
    obtain ⟨header, hheader, rfl⟩ := exists_header_of_mem_overloadsOf hmem
    obtain ⟨declared, hdeclared, rfl⟩ := List.mem_map.mp hheader
    exact ⟨declared, hdeclared, rfl⟩
  · rintro ⟨declared, hdeclared, rfl⟩
    -- The first declaration of the function was collected.
    have hheader : (headerIn sources declared.1 declared.2).value ∈
        (declarations sources).map fun declared => (headerIn sources declared.1 declared.2).value :=
      List.mem_map.mpr ⟨declared, hdeclared, rfl⟩
    obtain ⟨first, hfirst, hkey⟩ := exists_overload_of_mem hheader
    obtain ⟨header, hheader, rfl⟩ := exists_header_of_mem_overloadsOf hfirst
    obtain ⟨declared', hdeclared', rfl⟩ := List.mem_map.mp hheader
    exact h declared' hdeclared' declared hdeclared hkey ▸ hfirst

namespace Reordered

variable {sources sources' : List (String × Program Pos)} {depth : Option Nat}

/-- Signatures are resolved to the same. -/
theorem headerIn_eq (h : Reordered sources sources')
    (hclean : (Types.ofPrograms sources).Clean depth) : headerIn sources = headerIn sources' := by
  funext file definition
  rw [headerIn, headerIn, (h.agree hclean).header_eq]

theorem coherent (h : Reordered sources sources')
    (hclean : (Types.ofPrograms sources).Clean depth) (hcoherent : Coherent sources) :
    Coherent sources' := by
  intro declared hmem declared' hmem'
  rw [← h.headerIn_eq hclean]
  exact hcoherent declared (h.declarations_perm.mem_iff.mpr hmem) declared'
    (h.declarations_perm.mem_iff.mpr hmem')

/-- Calls have the same targets. -/
theorem call?_eq (h : Reordered sources sources') (hcoherent : Coherent sources)
    (hclean : (Types.ofPrograms sources).Clean depth) :
    (programGlobals sources).call? = (programGlobals sources').call? := by
  refine call?_congr (nodup_keys_programGlobals _) (nodup_keys_programGlobals _) fun overload => ?_
  rw [mem_overloads_iff hcoherent, mem_overloads_iff (h.coherent hclean hcoherent),
    h.headerIn_eq hclean]
  simp only [h.declarations_perm.mem_iff]

/-- Functions are resolved to the same, bodies included. -/
theorem loweredIn_eq (h : Reordered sources sources') (hcoherent : Coherent sources)
    (hclean : (Types.ofPrograms sources).Clean depth) : loweredIn sources = loweredIn sources' := by
  have hagree := h.agree hclean
  funext file definition
  rw [loweredIn, loweredIn, h.headerIn_eq hclean]
  refine lowerFunction_congr ⟨rfl, ?_, hagree.exception?_eq, h.call?_eq hcoherent hclean⟩
  exact congrFun hagree.resolve_eq _

/-- Nothing is reported for the one program exactly if nothing is reported for the other. -/
theorem clean_lowerProgram_congr (h : Reordered sources sources') (hcoherent : Coherent sources) :
    (lowerProgram sources).Clean depth ↔ (lowerProgram sources').Clean depth := by
  rw [clean_lowerProgram_iff, clean_lowerProgram_iff, ← h.clean_ofPrograms_congr]
  refine and_congr_right fun hclean => ?_
  rw [h.headerIn_eq hclean, h.loweredIn_eq hcoherent hclean]
  simp only [h.declarations_perm.mem_iff]

end Reordered

/-! ## Units -/

section Units

variable {sources : List (String × Program Pos)} {β : Type}

theorem eraseDups_of_nodup {files : List String} (h : files.Nodup) : files.eraseDups = files := by
  induction files with
  | nil => rfl
  | cons file rest ih =>
    obtain ⟨hfile, hrest⟩ := List.nodup_cons.mp h
    have hfilter : rest.filter (fun other => !other == file) = rest :=
      List.filter_eq_self.mpr fun other hother => by
        simpa using fun heq : other = file => hfile (heq ▸ hother)
    rw [List.eraseDups_cons, hfilter, ih hrest]

/-- If files have different names, then what is found in a file is what was found there. -/
theorem filter_file_flatMap {collect : String × Program Pos → List (String × β)}
    (hcollect : ∀ source, ∀ found ∈ collect source, found.1 = source.1)
    (hfiles : (sources.map (·.1)).Nodup) {source : String × Program Pos} (hmem : source ∈ sources) :
    (sources.flatMap collect).filter (·.1 == source.1) = collect source := by
  have hself : ∀ source, (collect source).filter (·.1 == source.1) = collect source :=
    fun source => List.filter_eq_self.mpr fun found hfound => by simp [hcollect source found hfound]
  have hother : ∀ other : String × Program Pos, other.1 ≠ source.1 →
      (collect other).filter (·.1 == source.1) = [] := fun other hne =>
    List.filter_eq_nil_iff.mpr fun found hfound => by simpa [hcollect other found hfound] using hne
  induction sources with
  | nil => cases hmem
  | cons first rest ih =>
    rw [List.map_cons, List.nodup_cons] at hfiles
    obtain ⟨hfirst, hrest⟩ := hfiles
    rw [List.flatMap_cons, List.filter_append]
    rcases List.mem_cons.mp hmem with rfl | hmem
    · have hnone : (rest.flatMap collect).filter (·.1 == source.1) = [] := by
        rw [List.filter_flatMap, List.flatMap_eq_nil_iff]
        intro other hother'
        exact hother other fun heq => hfirst (List.mem_map.mpr ⟨other, hother', heq⟩)
      rw [hself, hnone, List.append_nil]
    · have hne : first.1 ≠ source.1 := fun heq =>
        hfirst (List.mem_map.mpr ⟨source, hmem, heq.symm⟩)
      rw [hother first hne, List.nil_append, ih hrest hmem]

/-- If files have different names, then each unit holds the functions of its file in order. -/
theorem unitsOf_declarations (resolved : String → FunctionDef Pos → Function)
    (hfiles : (sources.map (·.1)).Nodup) :
    unitsOf (sources.map (·.1)) ((declarations sources).map fun declared =>
      (declared.1, resolved declared.1 declared.2)) =
      sources.map fun source => ⟨source.1, source.2.functions.map (resolved source.1)⟩ := by
  rw [unitsOf, eraseDups_of_nodup hfiles, List.map_map]
  refine List.map_congr_left fun source hsource => ?_
  have hfound : ((declarations sources).map fun declared =>
      (declared.1, resolved declared.1 declared.2)).filter (·.1 == source.1) =
      source.2.functions.map fun definition => (source.1, resolved source.1 definition) := by
    rw [declarations, List.map_flatMap]
    refine (filter_file_flatMap (fun other found hfound => ?_) hfiles hsource).trans ?_
    · simp only [List.map_map, List.mem_map] at hfound
      obtain ⟨definition, _, rfl⟩ := hfound
      rfl
    · rw [List.map_map]
      rfl
  simp only [Function.comp_apply, hfound, List.map_map]
  rfl

end Units

/-- If a program read from source texts is put into another order, its files as well as the
declarations in each of them, then nothing is reported afterwards exactly if nothing is reported
before. In that case there is one way to resolve each declaration, and both before and after every
unit holds what the declarations of its file are resolved to, in their order. -/
theorem declaration_order_is_irrelevant {sources sources' : List (String × Program Pos)}
    (htext : FromText sources) (hfiles : (sources.map (·.1)).Nodup)
    (h : Reordered sources sources') (depth : Option Nat) :
    ((lowerProgram sources).reports depth = [] ↔ (lowerProgram sources').reports depth = []) ∧
    ((lowerProgram sources).reports depth = [] →
      ∃ resolved : String → FunctionDef Pos → Function,
        (lowerProgram sources).value = sources.map (fun source =>
          ⟨source.1, source.2.functions.map (resolved source.1)⟩) ∧
        (lowerProgram sources').value = sources'.map (fun source =>
          ⟨source.1, source.2.functions.map (resolved source.1)⟩)) := by
  have hcoherent := htext.coherent
  rw [Logged.reports_eq_nil_iff, Logged.reports_eq_nil_iff]
  refine ⟨h.clean_lowerProgram_congr hcoherent, fun hclean => ?_⟩
  have htypes := (clean_lowerProgram_iff.mp hclean).1
  have hfiles' : (sources'.map (·.1)).Nodup := (h.files_perm.nodup_iff).mp hfiles
  let resolved (file : String) (definition : FunctionDef Pos) : Function :=
    (loweredIn sources file definition).value
  refine ⟨resolved, ?_, ?_⟩
  · rw [value_lowerProgram]
    exact unitsOf_declarations resolved hfiles
  · rw [value_lowerProgram, ← h.loweredIn_eq hcoherent htypes]
    exact unitsOf_declarations resolved hfiles'

/-- A file that declares an exception, a name for it, and a function that is defined elsewhere. -/
def declaringText : String := "exception E; using A = const E &; int f(A) throws(A);"

/-- A file that uses what the other one declares. -/
def definingText : String :=
  "int f(const E & e) throws(E) { throw g(); } E g(); void h(A a) { f(a); }"

/-- The files are swapped, and the functions of the second one are put in reverse order. In either
order nothing is reported, and the functions are resolved to the same. -/
theorem swapped_files_resolve_alike :
    ∃ declaring defining, read none declaringText = .ok declaring ∧
      read none definingText = .ok defining ∧
      let sources := [("a", declaring), ("b", defining)]
      let sources' := [("b", { defining with functions := defining.functions.reverse }),
        ("a", declaring)]
      (lowerProgram sources).reports none = [] ∧ (lowerProgram sources').reports none = [] ∧
      ∃ resolved : String → FunctionDef Pos → Function,
        (lowerProgram sources).value = sources.map (fun source =>
          ⟨source.1, source.2.functions.map (resolved source.1)⟩) ∧
        (lowerProgram sources').value = sources'.map (fun source =>
          ⟨source.1, source.2.functions.map (resolved source.1)⟩) := by
  have hquiet : ((read none declaringText).toOption.bind fun declaring =>
      (read none definingText).toOption.map fun defining =>
        ((lowerProgram [("a", declaring), ("b", defining)]).reports none).isEmpty) = some true := by
    decide +kernel
  cases hdeclaring : read none declaringText with
  | error error =>
    rw [hdeclaring] at hquiet
    cases hquiet
  | ok declaring =>
    cases hdefining : read none definingText with
    | error error =>
      rw [hdeclaring, hdefining] at hquiet
      cases hquiet
    | ok defining =>
      rw [hdeclaring, hdefining] at hquiet
      have hclean := List.isEmpty_iff.mp (Option.some.inj hquiet)
      have htext : FromText [("a", declaring), ("b", defining)] := by
        intro source hsource
        rcases List.mem_cons.mp hsource with rfl | hsource
        · exact ⟨none, declaringText, hdeclaring⟩
        · obtain rfl := List.mem_singleton.mp hsource
          exact ⟨none, definingText, hdefining⟩
      have hreordered : Reordered [("a", declaring), ("b", defining)]
          [("b", { defining with functions := defining.functions.reverse }),
            ("a", declaring)] := by
        refine ⟨_, .swap _ _ _, .cons ⟨rfl, .refl _, .refl _, ?_⟩ (.cons ⟨rfl, ?_⟩ .nil)⟩
        · exact (List.reverse_perm _).symm
        · exact ⟨.refl _, .refl _, .refl _⟩
      have hfiles : ["a", "b"].Nodup := by decide
      obtain ⟨hiff, hunits⟩ := declaration_order_is_irrelevant htext hfiles hreordered none
      exact ⟨declaring, defining, rfl, rfl, hclean, hiff.mp hclean, hunits hclean⟩

end Throws.Resolution
