import Throws.Proofs.ExceptionNames
import Throws.Proofs.RenderedTypes

/-!
# The text of a contract is read back

A declared contract is written as a clause of a signature. Behind `throws(` only names and dots are
sought, so an exception may be named like a keyword there, and the clause is read back all the same.
Elsewhere such a name is taken for the keyword, so what is sought has to be followed along the text:
`Plan.Ends` says how a plan goes on from one token to the next.

Together with the texts of types this is `rendered_types_and_contracts_read_back`.
-/

namespace Throws

open Throws.Text

namespace Surface

/-! ## Plans along a text -/

/-- A token where the given terminals are sought. -/
def Shape.among (shape : Shape) (sought : List Terminal) : Found := ⟨sought, shape.1, shape.2⟩

/-- With a token ahead and a text behind it, the plan ends with the result. -/
def Plan.Ends {ρ : Type} (plan : Plan ρ) (index : Nat) (ahead : Found) (text : List Char)
    (result : ρ) : Prop :=
  ∃ founds, plan.Path index (ahead :: founds) result ∧ Lexes text founds

namespace Plan.Ends

variable {ρ : Type} {index : Nat} {ahead : Found} {text rest : List Char} {result : ρ}

theorem done : (Plan.done result).Ends index ahead text result := ⟨[], .done, .nil _⟩

theorem look {next : Terminal → Plan ρ} (h : (next ahead.terminal).Ends index ahead text result) :
    (Plan.look next).Ends index ahead text result := by
  obtain ⟨founds, hpath, hlexes⟩ := h
  exact ⟨founds, .look hpath, hlexes⟩

theorem take {next : Lexeme → Plan ρ} {shape : Shape} {sought : List Terminal}
    (hnext : Next (shape.among sought) text rest)
    (h : (next ⟨index, ahead.text⟩).Ends (index + 1) (shape.among sought) rest result) :
    (Plan.take sought next).Ends index ahead text result := by
  obtain ⟨founds, hpath, hlexes⟩ := h
  exact ⟨shape.among sought :: founds, .take hpath, .cons hnext hlexes⟩

end Plan.Ends

theorem Next.blank {found : Found} {text rest : List Char} (h : Next found text rest) :
    Next found (' ' :: text) rest := by
  have hblank : skipped (' ' :: text) = skipped text := skipped_blank (by decide) text
  cases h with
  | endOfText hskipped => exact .endOfText (hblank.trans hskipped)
  | token hskipped hscan => exact .token (hblank.trans hskipped) hscan

theorem IsPrinted.next {shape : Shape} {sought : List Terminal} {rest : List Char}
    (h : IsPrinted shape) (hsought : shape.1 ∈ sought) (hapart : Apart shape.2 rest) :
    Next (Shape.among shape sought) (shape.2 ++ rest) rest :=
  next_of_scan (h.scan hsought) (List.forall_mem_nil _) hapart

/-- A sign that is part of no longer one is found in front of every text. -/
theorem next_sign (terminal : Terminal) {sought : List Terminal} (h : terminal ∈ closedSigns)
    (hsought : terminal ∈ sought) (rest : List Char) :
    Next (terminal.shape.among sought) (terminal.shape.2 ++ rest) rest := by
  have hspelled : ∀ terminal ∈ closedSigns,
      (spellings.find? (·.1 = terminal)).isSome = true := by decide
  exact (isPrinted_shape (hspelled terminal h)).next hsought (apart_sign h rest)

/-- No keyword is sought where entries of a `throws` clause are, so all identifiers are found. -/
theorem next_thrown {entry : Option String} {sought : List Terminal} {rest : List Char}
    (h : ∀ name ∈ entry, IsIdentifier name)
    (hsought : sought ∈ [Follow.thrown, Follow.thrownOrClose]) (hrest : Delimited rest) :
    Next (Shape.among (thrownShape entry) sought) ((thrownShape entry).2 ++ rest) rest := by
  have hspec : ∀ sought ∈ [Follow.thrown, Follow.thrownOrClose], .name ∈ sought ∧
      .ellipsis ∈ sought ∧ ∀ entry ∈ Terminal.keywords, entry.1 ∉ sought := by decide
  obtain ⟨hname, hellipsis, hkeywords⟩ := hspec sought hsought
  cases entry with
  | none => exact next_sign .ellipsis (by decide) hellipsis rest
  | some name =>
    have hscan := scan_identifier (h name rfl)
      (fun entry hentry hmem => absurd hmem (hkeywords entry hentry)) hname
    exact next_of_scan hscan (List.forall_mem_nil _)
      (apart_word (any_isWordStart_head? (h name rfl)) hrest.notAhead)

/-- What is written of a `throws` clause behind its first entry. -/
def thrownTail : List (Option String) → List Char
  | [] => [')']
  | entry :: rest => ',' :: ' ' :: ((thrownShape entry).2 ++ thrownTail rest)

theorem delimited_thrownTail (entries : List (Option String)) (rest : List Char) :
    Delimited (thrownTail entries ++ rest) := by
  cases entries with
  | nil => exact .cons (by decide) rest
  | cons entry entries => exact .cons (by decide) _

theorem listed_entries (entry : Option String) (entries : List (Option String)) :
    listed ((entry :: entries).map fun entry => (thrownShape entry).2) =
      (thrownShape entry).2 ++ thrownTail entries := by
  induction entries generalizing entry with
  | nil => rw [List.map_cons, listed_cons, List.map_nil, if_pos rfl, thrownTail]
  | cons next entries ih =>
    rw [List.map_cons, listed_cons, ih, if_neg (by simp), thrownTail]

namespace Grammar

variable {ρ : Type} {result : ρ}

/-- One entry of a `throws` clause is taken. -/
theorem ends_thrown {entry : Option String} {next : Option String → Plan ρ} {index : Nat}
    {sought : List Terminal} {shape : Shape} {text rest : List Char}
    (hnext : Next (shape.among Follow.commaOrClose) text rest)
    (h : (next entry).Ends (index + 1) (shape.among Follow.commaOrClose) rest result) :
    (thrown next).Ends index (Shape.among (thrownShape entry) sought) text result := by
  refine .look ?_
  cases entry with
  | none => exact .take hnext h
  | some name =>
    refine .take hnext ?_
    change (next (some (String.ofList name.toList))).Ends _ _ _ _
    rwa [String.ofList_toList]

section Entries

variable {next : List (Option String) → Plan ρ} {shape : Shape} {text' rest' : List Char}
  (hnext : Next (shape.among Follow.afterClause) text' rest')

include hnext in
/-- The entries of a `throws` clause are read up to its parenthesis. -/
theorem ends_moreThrown {entry : Option String} {entries : List (Option String)}
    (hentries : ∀ entry ∈ entries, ∀ name ∈ entry, IsIdentifier name) {n index : Nat}
    {found : List (Option String)} {sought : List Terminal} (hn : entries.length + 1 ≤ n)
    (h : ∀ index, (next (found.reverse ++ entry :: entries)).Ends index
      (shape.among Follow.afterClause) rest' result) :
    (thrown fun first => moreThrown n (first :: found) next).Ends index
      (Shape.among (thrownShape entry) sought) (thrownTail entries ++ text') result := by
  -- The entry ahead has been found already, where the first one is sought with other terminals.
  induction entries generalizing entry n index found sought with
  | nil =>
    obtain ⟨n, rfl⟩ := Nat.exists_eq_add_of_le' hn
    refine ends_thrown (next_sign .rpar (by decide) (by decide) text') ?_
    refine .look (.look (.take hnext ?_))
    have hfound := h (index + 1 + 1)
    rwa [← List.reverse_cons] at hfound
  | cons following entries ih =>
    obtain ⟨hfollowing, hentries⟩ := List.forall_mem_cons.mp hentries
    obtain ⟨n, rfl⟩ := Nat.exists_eq_add_of_le' hn
    rw [thrownTail, List.cons_append, List.cons_append, List.append_assoc]
    refine ends_thrown (next_sign .comma (by decide) (by decide) _) (.look ?_)
    have hentry := next_thrown hfollowing List.mem_cons_self (delimited_thrownTail entries text')
    refine .take hentry.blank (ih hentries (by simp) fun index => ?_)
    have hfound := h index
    rwa [List.reverse_cons, List.append_assoc, List.singleton_append]

include hnext in
/-- The entries of a `throws` clause are read behind its opening parenthesis. -/
theorem ends_thrownList {entry : Option String} {entries : List (Option String)}
    (hentries : ∀ entry ∈ entries, ∀ name ∈ entry, IsIdentifier name) {n index : Nat}
    (hn : entries.length + 1 ≤ n)
    (h : ∀ index, (next (entry :: entries)).Ends index (shape.among Follow.afterClause) rest'
      result) :
    (thrownList n next).Ends index (Shape.among (thrownShape entry) Follow.thrownOrClose)
      (thrownTail entries ++ text') result := by
  refine .look ?_
  cases entry with
  | none => exact ends_moreThrown hnext hentries hn h
  | some name => exact ends_moreThrown hnext hentries hn h

end Entries

/-- A set that is not empty has an entry. -/
theorem exists_entries {allowed : ExceptionSet} (h : allowed.isEmpty = false) :
    ∃ entry entries, thrownEntries allowed.names allowed.isUniversal = entry :: entries := by
  refine List.exists_cons_of_ne_nil ?_
  cases allowed with
  | universal => exact List.cons_ne_nil _ _
  | finite names =>
    have hnames : names.toList ≠ [] := List.isEmpty_eq_false_iff.mp h
    simpa [thrownEntries, ExceptionSet.names, ExceptionSet.isUniversal] using hnames

/-- A `throws` clause is read in front of the semicolon of a declaration. -/
theorem ends_clauses_throws {names : List String} {wildcard : Bool} {entry : Option String}
    {entries : List (Option String)} (hcons : thrownEntries names wildcard = entry :: entries)
    (h : ∀ name ∈ names, IsIdentifier name) {n index : Nat} (hn : names.length ≤ n)
    {sought : List Terminal} {next : Clauses Nat → Plan ρ}
    (hnext : ∀ index', (next { throws := some names, wildcard, loc := some index }).Ends index'
      (Terminal.semicolon.shape.among Follow.afterClause) [] result) :
    (clauses (n + 2) [] next).Ends index (Terminal.kwThrows.shape.among sought)
      ('(' :: ((thrownShape entry).2 ++ (thrownTail entries ++ [';']))) result := by
  have hend : Next (Terminal.semicolon.shape.among Follow.afterClause) [';'] [] :=
    next_sign .semicolon (by decide) (by decide) []
  have hentries := forall_mem_thrownEntries h wildcard
  have hlength := length_thrownEntries names wildcard
  rw [hcons, List.forall_mem_cons] at hentries
  rw [hcons, List.length_cons] at hlength
  have hmerged : Clause.mergeAll [.throws names wildcard index] =
      { throws := some names, wildcard, loc := some index } := by
    simp [Clause.mergeAll, Clause.merge]
  rw [← hmerged] at hnext
  -- The word, the parenthesis behind it, and the first entry; the semicolon ends the clauses.
  refine .look (.take (next_sign .lpar (by decide) (by decide) _) (.look ?_))
  refine .take (next_thrown hentries.1 (by decide) (delimited_thrownTail entries _)) ?_
  refine ends_thrownList hend hentries.2 (by omega) fun index' => .look ?_
  rw [← hcons, filterMap_thrownEntries, contains_thrownEntries]
  exact hnext index'

/-- The text of a declared contract is read as its clauses, with a semicolon behind it. -/
theorem exists_ends_clauses {allowed : ExceptionSet}
    (h : ∀ name ∈ allowed.names, IsIdentifier name) {n : Nat} (hn : allowed.names.length + 3 ≤ n)
    (index : Nat) :
    ∃ shape rest clauses, Next (Shape.among shape Follow.afterParams)
        ((Resolution.Ty.renderContract (.declared allowed)).toList ++ [';']) rest ∧
      clauses.mapLoc (fun _ => ()) = (Contract.declared allowed).clauses ∧
      ∀ (next : Clauses Nat → Plan ρ) (result : ρ),
        (∀ index, (next clauses).Ends index (Terminal.semicolon.shape.among Follow.afterClause) []
          result) →
        (Grammar.clauses n [] next).Ends index (Shape.among shape Follow.afterParams) rest
          result := by
  obtain ⟨n, rfl⟩ : ∃ m, n = m + 2 := Nat.exists_eq_add_of_le' (by omega)
  rw [ExceptionSet.toList_contract, Contract.clauses]
  cases hempty : allowed.isEmpty with
  | true =>
    refine ⟨Terminal.kwNoexcept.shape, [';'], { noexcept := true, loc := some index }, ?_, rfl, ?_⟩
    · exact ((isPrinted_shape rfl).next (by decide)
        (apart_word (by decide) (.cons (by decide) []))).blank
    · intro next result hnext
      exact .look (.take (next_sign .semicolon (by decide) (by decide) []) (.look (hnext _)))
  | false =>
    obtain ⟨entry, entries, hcons⟩ := exists_entries hempty
    rw [ExceptionSet.thrownText_eq, hcons, listed_entries]
    refine ⟨Terminal.kwThrows.shape,
      '(' :: ((thrownShape entry).2 ++ (thrownTail entries ++ [';'])),
      { throws := some allowed.names, wildcard := allowed.isUniversal, loc := some index },
      ?_, rfl, ?_⟩
    · rw [← List.append_assoc]
      exact ((isPrinted_shape rfl).next (by decide)
        (apart_word (by decide) (.cons (by decide) _))).blank
    · exact fun next result hnext => ends_clauses_throws hcons h (by omega) hnext

/-- A function without parameters and body, as it is read. -/
def bodiless (clauses : Clauses Nat) : FunctionDef Nat where
  name := "f"
  params := []
  returnType := .named "void" false false false 0
  clauses := clauses
  body := none
  loc := 1

/-- The declaration with a contract is read up to the end of the text. -/
theorem exists_ends_program {allowed : ExceptionSet}
    (h : ∀ name ∈ allowed.names, IsIdentifier name) {n : Nat} (hn : allowed.names.length + 6 ≤ n) :
    ∃ shape rest clauses, Next (Shape.among shape Follow.item) ("void f()".toList ++
        ((Resolution.Ty.renderContract (.declared allowed)).toList ++ [';'])) rest ∧
      clauses.mapLoc (fun _ => ()) = (Contract.declared allowed).clauses ∧
      (program n).Ends 0 (Shape.among shape Follow.item) rest [.function (bodiless clauses)] := by
  obtain ⟨n, rfl⟩ : ∃ m, n = m + 3 := Nat.exists_eq_add_of_le' (by omega)
  have hbound : allowed.names.length + 3 ≤ n + 2 := by omega
  obtain ⟨shape, rest, clauses, hclauses, hmap, hends⟩ :=
    exists_ends_clauses (ρ := List (Item Nat)) h hbound 4
  have hvoid : IsPrinted (nameShape "void") := .name (by decide)
  have hname : IsPrinted (nameShape "f") := .name (by decide)
  have hend : Next (Shape.among (.endOfText, []) Follow.item) [] [] := .endOfText rfl
  refine ⟨nameShape "void", _, clauses,
    hvoid.next (by decide) (apart_word (by decide) (.cons (by decide) _)), hmap, ?_⟩
  -- The type that is returned has no qualifiers, so its name is taken right away.
  refine .look (.look (.look (.look (.look (.take (hname.next (by decide)
    (apart_word (by decide) (.cons (by decide) _))).blank ?_)))))
  refine .look (.look (.take (next_sign .lpar (by decide) (by decide) _) ?_))
  refine .look (.take (next_sign .rpar (by decide) (by decide) _) ?_)
  refine .look (.take hclauses (hends _ _ fun index => ?_))
  exact .look (.take hend (.look .done))

end Grammar

end Surface

open Throws.Surface

/-- There are no more texts in a list than characters. -/
theorem Text.length_listed (texts : List (List Char)) :
    texts.length ≤ (listed texts).length := by
  induction texts with
  | nil => exact Nat.zero_le _
  | cons text texts ih =>
    rw [listed_cons, List.length_cons, List.length_append]
    split
    · simp_all
    · simp only [List.length_cons]
      omega

/-- There are no more exceptions in a contract than characters in its text. -/
theorem ExceptionSet.length_names_le (allowed : ExceptionSet) :
    allowed.names.length ≤ (Resolution.Ty.renderContract (.declared allowed)).toList.length := by
  cases allowed with
  | universal => exact Nat.zero_le _
  | finite names =>
    have hlength := length_listed (names.toList.map String.toList)
    rw [List.length_map] at hlength
    rw [toList_contract]
    cases hempty : (ExceptionSet.finite names).isEmpty with
    | true =>
      have hnil : names.toList = [] := List.isEmpty_iff.mp hempty
      rw [ExceptionSet.names, hnil]
      exact Nat.zero_le _
    | false =>
      simp only [Bool.false_eq_true, if_false, List.length_cons, List.length_append, thrownText,
        ExceptionSet.names]
      omega

namespace Resolution

/-- The text of a declared contract is read as its clauses. -/
theorem exists_read_declaration {allowed : ExceptionSet}
    (h : ∀ name ∈ allowed.names, IsIdentifier name) :
    ∃ program function,
      read none ("void f() " ++ (Contract.declared allowed).render ++ ";") = .ok program ∧
      program.functions = [function] ∧
      function.clauses.mapLoc (fun _ => ()) = (Contract.declared allowed).clauses := by
  have htext : ("void f() " ++ (Contract.declared allowed).render ++ ";").toList =
      "void f()".toList ++ ((Ty.renderContract (.declared allowed)).toList ++ [';']) := by
    rw [Ty.renderContract, String.toList_append, String.toList_append, String.toList_append,
      List.append_assoc]
    rfl
  -- Every name that is listed takes a call of the grammar, and it has a character in the text.
  have hbound : allowed.names.length + 6 ≤
      bound ("void f() " ++ (Contract.declared allowed).render ++ ";").toList.length := by
    have hlength := allowed.length_names_le
    rw [htext, List.length_append, List.length_append, bound]
    omega
  obtain ⟨shape, rest, clauses, hnext, hmap, founds, hpath, hlexes⟩ :=
    Grammar.exists_ends_program h hbound
  rw [← htext] at hnext
  obtain ⟨tokens, hparse, _⟩ := exists_parse_of_path rfl hpath (.cons hnext hlexes)
  refine ⟨_, _, read_of_parse hparse rfl, rfl, ?_⟩
  exact (clauses.mapLoc_mapLoc _ _).trans hmap

theorem isIdentifier_of_mem_exceptions {sources : List (String × Program Pos)}
    (h : FromText sources) : ∀ name ∈ (programTypes sources).exceptions, IsIdentifier name := by
  intro name hname
  rw [exceptions_programTypes] at hname
  obtain ⟨source, hsource, hmem⟩ := List.mem_flatMap.mp hname
  obtain ⟨definition, hdefinition, rfl⟩ := List.mem_map.mp hmem
  exact (h.spelled hsource).exceptions definition hdefinition

/-- The name of a type that no keyword is taken for. -/
def Types.IsOrdinary (types : Types) (name : String) : Prop :=
  name ∈ builtins ∨ name ∈ types.exceptions ∧ ∀ entry ∈ Terminal.keywords, entry.2 ≠ name

theorem Types.IsOrdinary.isBase {types : Types} {name : String} (h : types.IsOrdinary name) :
    types.isBase name = true := by
  rcases h with hbuiltin | ⟨hexception, _⟩
  · rw [Types.isBase, List.contains_iff_mem.mpr hbuiltin, Bool.or_true]
  · exact isBase_of_mem_exceptions hexception

theorem Types.IsOrdinary.isName {types : Types} {name : String} (h : types.IsOrdinary name)
    (hexceptions : ∀ name ∈ types.exceptions, IsIdentifier name) : IsName name := by
  have hbuiltins : ∀ name ∈ builtins, IsName name := by decide
  rcases h with hbuiltin | ⟨hexception, hkeyword⟩
  · exact hbuiltins name hbuiltin
  · exact ⟨hexceptions name hexception, hkeyword⟩

/-- In a program that was read from source texts, types and contracts have texts that are read back
as themselves. The text of a type over ordinary names is read as the target of an alias, and what is
read resolves to the type without a report. The text of a declared contract over exceptions of the
program, which may be named like keywords, is read as the clause of a declaration, and what is read
has the contract for its meaning. -/
theorem rendered_types_and_contracts_read_back {sources : List (String × Program Pos)}
    (h : FromText sources) :
    (∀ type : Ty, type.Canonical (programTypes sources).IsOrdinary →
      ∃ program definition, read none ("using T = " ++ type.render ++ ";") = .ok program ∧
        program.aliases = [definition] ∧
        ∀ file, ((programTypes sources).resolve file definition.target).value = type ∧
          ((programTypes sources).resolve file definition.target).log = []) ∧
    ∀ allowed : ExceptionSet, (∀ name ∈ allowed.names, name ∈ (programTypes sources).exceptions) →
      ∃ program function,
        read none ("void f() " ++ (Contract.declared allowed).render ++ ";") = .ok program ∧
        program.functions = [function] ∧
        ∀ file, ((programTypes sources).annotate file function.clauses).log = [] ∧
          ((programTypes sources).annotate file function.clauses).value.contract =
            .ok (.declared allowed) := by
  have hexceptions := isIdentifier_of_mem_exceptions h
  constructor
  · intro type htype
    obtain ⟨program, hread, hprogram⟩ :=
      exists_read_alias (htype.mono fun name hname => hname.isName hexceptions)
    obtain ⟨definition, rest, haliases, hdefinition, hrest⟩ :=
      List.map_eq_cons_iff.mp (congrArg Program.aliases hprogram)
    obtain rfl := List.map_eq_nil_iff.mp hrest
    have htarget := congrArg AliasDef.target hdefinition
    have hbase : type.Canonical fun name => (programTypes sources).isBase name = true :=
      htype.mono fun name hname => hname.isBase
    exact ⟨program, definition, hread, haliases, fun file => hbase.readsBack _ htarget⟩
  · intro allowed hallowed
    obtain ⟨program, function, hread, hfunctions, hclauses⟩ :=
      exists_read_declaration fun name hname => hexceptions name (hallowed name hname)
    exact ⟨program, function, hread, hfunctions, fun file => Types.annotate_clauses hclauses
      fun name hname => Types.isBase_of_mem_exceptions (hallowed name hname)⟩

/-- Two exceptions, one of them named like a keyword. -/
def keywordText : String := "exception Lost; exception const;"

/-- A function type with qualifiers, other function types and a contract in it. -/
def nestedType : Ty :=
  .function [.value { name := "Lost", isConst := true, isVolatile := true, isRef := true },
    .function [.value { name := "int", isRef := true }] (.declared ∅),
    .function [.function [] .undeclared] (.declared .universal)]
    (.declared (.ofList ["int", "Lost"]))

theorem canonical_nestedType {types : Types} (hlost : types.IsOrdinary "Lost") :
    nestedType.Canonical types.IsOrdinary := by
  have hint : types.IsOrdinary "int" := .inl (by decide)
  have hthrown : ∀ name ∈ (ExceptionSet.ofList ["int", "Lost"]).names, types.IsOrdinary name := by
    intro name hname
    have hmem : name ∈ ["int", "Lost"] := NameSet.mem_ofList.mp hname
    rcases List.mem_cons.mp hmem with rfl | hmem
    · exact hint
    · exact List.mem_singleton.mp hmem ▸ hlost
  refine .function (List.forall_mem_cons.mpr ⟨.value hlost, List.forall_mem_cons.mpr ⟨?_,
    List.forall_mem_singleton.mpr ?_⟩⟩) hthrown
  · exact .function (List.forall_mem_singleton.mpr (.value hint)) (List.forall_mem_nil _)
  · refine .function (List.forall_mem_singleton.mpr ?_) (List.forall_mem_nil _)
    exact .function (List.forall_mem_nil _) (List.forall_mem_nil _)

theorem read_back_nestedType : ∃ sources : List (String × Program Pos), FromText sources ∧
    nestedType.render = "fn(const volatile Lost&, fn(int&) noexcept, fn(fn()) throws(...)) " ++
      "throws(Lost, int)" ∧
    (Contract.declared (.ofList ["const", "Lost"])).render = "throws(Lost, const)" ∧
    (∃ program definition, read none ("using T = " ++ nestedType.render ++ ";") = .ok program ∧
      program.aliases = [definition] ∧
      ∀ file, ((programTypes sources).resolve file definition.target).value = nestedType ∧
        ((programTypes sources).resolve file definition.target).log = []) ∧
    ∃ program function, read none ("void f() " ++
        (Contract.declared (.ofList ["const", "Lost"])).render ++ ";") = .ok program ∧
      program.functions = [function] ∧
      ∀ file, ((programTypes sources).annotate file function.clauses).log = [] ∧
        ((programTypes sources).annotate file function.clauses).value.contract =
          .ok (.declared (.ofList ["const", "Lost"])) := by
  have hexceptions : (read none keywordText).toOption.map (fun program =>
      exceptionNames [("a", program)]) = some ["Lost", "const"] := by decide +kernel
  cases hread : read none keywordText with
  | error error =>
    rw [hread] at hexceptions
    cases hexceptions
  | ok program =>
    rw [hread] at hexceptions
    have htext : FromText [("a", program)] := by
      intro source hsource
      obtain rfl := List.mem_singleton.mp hsource
      exact ⟨none, keywordText, hread⟩
    have hnames : (programTypes [("a", program)]).exceptions = ["Lost", "const"] :=
      (exceptions_programTypes _).trans (Option.some.inj hexceptions)
    obtain ⟨htypes, hcontracts⟩ := rendered_types_and_contracts_read_back htext
    refine ⟨[("a", program)], htext, by decide +kernel, by decide +kernel, htypes _ ?_,
      hcontracts _ ?_⟩
    · exact canonical_nestedType (.inr ⟨hnames ▸ List.mem_cons_self, by decide⟩)
    · rw [hnames]
      decide +kernel

end Resolution

end Throws
