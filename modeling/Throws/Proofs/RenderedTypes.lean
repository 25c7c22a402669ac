import Throws.Proofs.AliasGraph
import Throws.Proofs.FunctionIdentity
import Throws.Proofs.RoundTrip

/-!
# The text of a type is read back

A resolved type is written in messages and in the identity of a function. Its text is one that the
language has for it: as the target of an alias it is read without an error, and what is read
resolves to the type it was written for.

* `Ty.spelling` is the tree that the text of a type is read to, and `Ty.Spelled.sets` says that the
  text has just the tokens of this tree. There are no blanks around parentheses, so tokens have to
  be told apart by their characters (`apart_word`, `apart_sign`).
* `exists_read_alias`: with a type like that behind it, the declaration of an alias is read.
* `Ty.Canonical.readsBack`: the tree resolves to the type, wherever its tokens stood.
-/

namespace Throws

open Throws.Text

namespace Surface

/-! ## Characters that divide tokens -/

/-- A word is divided from every character that cannot stand in one. -/
theorem Separates.word {word : List Char} {c : Char} (h : word.head?.any isWordStart = true)
    (hc : isWordPart c = false) : Separates word c where
  notWordPart := fun _ => hc
  notSpelling := by
    intro entry hentry hprefix
    -- Only keywords begin like a word, and all of their characters can stand in a word.
    rcases spellings_head entry hentry with hkeyword | hhead
    · have hmem : c ∈ entry.2.toList := hprefix.subset (List.mem_append_right _ List.mem_cons_self)
      have hpart := List.all_eq_true.mp (keywords_spec entry hkeyword).1 c hmem
      exact absurd hpart (by simp [hc])
    · obtain ⟨behind, hbehind⟩ := hprefix
      cases word with
      | nil => cases h
      | cons first more =>
        rw [← hbehind] at hhead
        exact absurd h (by simpa using hhead)
  notComment := by
    intro hslash
    rw [hslash] at h
    exact absurd h (by decide)

/-- A sign is divided from every character with which no longer sign begins. -/
theorem Separates.sign {word : List Char} {c : Char} (hpart : word.head?.any isWordPart = false)
    (hslash : word.head? ≠ some '/')
    (hspelling : ∀ entry ∈ spellings, ¬ word ++ [c] <+: entry.2.toList) : Separates word c where
  notWordPart := by
    rintro ⟨d, hd, hd'⟩
    rw [Option.mem_def.mp hd] at hpart
    exact absurd hd' (by simpa using hpart)
  notSpelling := hspelling
  notComment := fun h => absurd h hslash

/-- What goes on behind a type in a list or a declaration. -/
def Delimited (cs : List Char) : Prop := ∀ c ∈ cs.head?, c = ',' ∨ c = ')' ∨ c = ';'

theorem Delimited.cons {c : Char} (h : c = ',' ∨ c = ')' ∨ c = ';') (cs : List Char) :
    Delimited (c :: cs) := by
  rintro d ⟨⟩
  exact h

theorem apart_word {word rest : List Char} (h : word.head?.any isWordStart = true)
    (hrest : NotAhead isWordPart rest) : Apart word rest :=
  fun c hc => .inr (.word h (hrest c hc))

theorem any_isWordStart_head? {name : String} (h : IsIdentifier name) :
    name.toList.head?.any isWordStart = true := by
  obtain ⟨first, rest, hname, hstart, _⟩ := h
  rw [hname]
  exact hstart

theorem Delimited.notAhead {cs : List Char} (h : Delimited cs) : NotAhead isWordPart cs := by
  intro c hc
  rcases h c hc with rfl | rfl | rfl <;> decide

theorem delimited_listed_tail (texts : List (List Char)) (rest : List Char) :
    Delimited ((if texts = [] then [')'] else ',' :: ' ' :: listed texts) ++ rest) := by
  cases texts with
  | nil => exact .cons (by decide) rest
  | cons next more => exact .cons (by decide) _

theorem apart_reference {rest : List Char} (hrest : Delimited rest) :
    Apart Terminal.amp.shape.2 rest := by
  refine fun c hc => .inr (.sign (by decide) (by decide) ?_)
  rcases hrest c hc with rfl | rfl | rfl <;> decide

/-- The signs that are part of no longer sign. -/
def closedSigns : List Terminal := [.lpar, .rpar, .comma, .semicolon, .ellipsis]

/-- Whatever follows such a sign does not belong to it. -/
theorem apart_sign {terminal : Terminal} (h : terminal ∈ closedSigns) (rest : List Char) :
    Apart terminal.shape.2 rest := by
  have hsigns : ∀ terminal ∈ closedSigns, terminal.shape.2.head?.any isWordPart = false ∧
      terminal.shape.2.head? ≠ some '/' ∧ ∀ entry ∈ spellings,
        terminal.shape.2 <+: entry.2.toList → entry.2.toList.length ≤ terminal.shape.2.length := by
    decide
  obtain ⟨hpart, hslash, hlongest⟩ := hsigns terminal h
  refine fun c _ => .inr (.sign hpart hslash fun entry hentry hprefix => ?_)
  -- A sign that begins with this one is no longer than it, so there is no place for a character.
  have hle := hlongest entry hentry ((List.prefix_append _ _).trans hprefix)
  have hlength := hprefix.length_le
  rw [List.length_append, List.length_singleton] at hlength
  omega

/-! ## Whole texts -/

/-- A text that is parsed is read if no literal of it is faulty. -/
theorem read_of_parse {text : String} {items : List (Item Nat)} {tokens : Array Token}
    (hparse : parse text.toList = .ok (items, tokens))
    (hquiet : (trailOfItems (faultAt tokens) items).events = []) :
    read none text = .ok ((Program.ofItems items).mapLoc (positionAt tokens)) := by
  rw [read, hparse]
  simp only [Trail.upTo, hquiet]
  rfl

/-- A program is read from every text that has its tokens in a row. -/
theorem exists_read_of_renders {program : Program Unit} (h : program.Expressible) {text : String}
    (htext : Renders (program.items.flatMap Item.shapes) text.toList) :
    ∃ located, read none text = .ok located ∧ located.unlocated = program := by
  obtain ⟨items, tokens, hitems, hparse, hprinted⟩ := exists_parse_of_renders h htext
  refine ⟨_, read_of_parse hparse (events_trailOfItems (faultless_of_isPrinted hprinted) items), ?_⟩
  rw [Program.unlocated_mapLoc, Program.unlocated_ofItems, hitems, Program.ofItems_items]

/-! ## Texts that can be continued -/

/-- In front of whatever goes on behind a type, the text has the tokens in a row. -/
def Sets (shapes : List Shape) (text : List Char) : Prop :=
  ∀ rest text', Renders rest text' → Delimited text' → Renders (shapes ++ rest) (text ++ text')

theorem sets_name {name : String} (h : IsIdentifier name) :
    Sets [nameShape name] name.toList := by
  intro rest text' hrest hdelimited
  exact hrest.tight (apart_word (any_isWordStart_head? h) hdelimited.notAhead)

theorem sets_thrown {entry : Option String} (h : ∀ name ∈ entry, IsIdentifier name) :
    Sets [thrownShape entry] (thrownShape entry).2 := by
  cases entry with
  | none => exact fun rest text' hrest _ => hrest.tight (apart_sign (by decide) text')
  | some name => exact sets_name (h name rfl)

section Lists

variable {α : Type} {shapes : α → List Shape} {text : α → List Char} {as : List α}
  {rest : List Shape} {text' : List Char}

theorem renders_listTail (h : ∀ a ∈ as, Sets (shapes a) (text a)) (hrest : Renders rest text') :
    Renders (listTail (as.map shapes) ++ rest)
      ((if as.map text = [] then [')'] else ',' :: ' ' :: listed (as.map text)) ++ text') := by
  induction as with
  | nil => exact hrest.tight (apart_sign (by decide) text')
  | cons a as ih =>
    obtain ⟨ha, has⟩ := List.forall_mem_cons.mp h
    rw [List.map_cons, List.map_cons, if_neg (List.cons_ne_nil _ _), listed_cons, listTail]
    simp only [List.cons_append, List.append_assoc]
    exact (ha _ _ (ih has) (delimited_listed_tail _ _)).before_blank Terminal.comma.shape

/-- A list of texts with commas between them has the tokens of a list. -/
theorem renders_list (h : ∀ a ∈ as, Sets (shapes a) (text a)) (hrest : Renders rest text') :
    Renders (listShapes (as.map shapes) ++ rest) (listed (as.map text) ++ text') := by
  cases as with
  | nil => exact hrest.tight (apart_sign (by decide) text')
  | cons a as =>
    obtain ⟨ha, has⟩ := List.forall_mem_cons.mp h
    rw [List.map_cons, List.map_cons, listed_cons, listShapes, List.append_assoc,
      List.append_assoc]
    exact ha _ _ (renders_listTail has hrest) (delimited_listed_tail _ _)

end Lists

end Surface

open Throws.Surface

/-! ## The text of a value type -/

theorem ValueType.sets {type : ValueType} (h : IsIdentifier type.name) :
    Sets (TypeExpr.named type.name type.isConst type.isVolatile type.isRef ()).shapes
      type.render.toList := by
  obtain ⟨name, isConst, isVolatile, isRef⟩ := type
  intro rest text' hrest hdelimited
  -- From the right: first the reference, then the name, then one qualifier in front of the other.
  have hreference : Renders (optionalWord isRef .amp ++ rest)
      ((if isRef then ['&'] else []) ++ text') := by
    cases isRef with
    | true => exact hrest.tight (apart_reference hdelimited)
    | false => exact hrest
  have hname : Renders (nameShape name :: (optionalWord isRef .amp ++ rest))
      (name.toList ++ ((if isRef then ['&'] else []) ++ text')) := by
    refine hreference.tight (apart_word (any_isWordStart_head? h) ?_)
    cases isRef with
    | true => exact .cons (by decide) _
    | false => exact hdelimited.notAhead
  simp only [ValueType.toList_render, TypeExpr.shapes, List.append_assoc, List.cons_append]
  cases isConst with
  | false =>
    cases isVolatile with
    | false => exact hname
    | true => exact hname.before_blank Terminal.kwVolatile.shape
  | true =>
    cases isVolatile with
    | false => exact hname.before_blank Terminal.kwConst.shape
    | true =>
      exact (hname.before_blank Terminal.kwVolatile.shape).before_blank Terminal.kwConst.shape

/-! ## The text of a contract -/

/-- What is written of a set behind `throws(` is the list of its entries. -/
theorem ExceptionSet.thrownText_eq (allowed : ExceptionSet) :
    allowed.thrownText = listed ((thrownEntries allowed.names allowed.isUniversal).map fun entry =>
      (thrownShape entry).2) := by
  cases allowed with
  | universal => rfl
  | finite names =>
    simp only [thrownText, ExceptionSet.names, isUniversal, thrownEntries, Bool.false_eq_true,
      if_false, List.append_nil, List.map_map]
    rfl

/-- The clauses that a contract is written with. -/
def Contract.clauses : Contract → Clauses Unit
  | .undeclared => {}
  | .declared allowed =>
    if allowed.isEmpty then { noexcept := true, loc := some () }
    else { throws := some allowed.names, wildcard := allowed.isUniversal, loc := some () }

theorem Contract.sets {contract : Contract} (h : contract.Spelled) :
    Sets contract.clauses.shapes (Resolution.Ty.renderContract contract).toList := by
  intro rest text' hrest hdelimited
  cases contract with
  | undeclared => exact hrest
  | declared allowed =>
    rw [ExceptionSet.toList_contract, clauses]
    cases allowed.isEmpty with
    | true =>
      have hword : Renders (Terminal.kwNoexcept.shape :: rest) _ :=
        hrest.tight (apart_word (by decide) hdelimited.notAhead)
      exact hword.blank
    | false =>
      have hentries : ∀ entry ∈ thrownEntries allowed.names allowed.isUniversal,
          Sets [thrownShape entry] (thrownShape entry).2 := fun entry hentry =>
        sets_thrown (Grammar.forall_mem_thrownEntries h _ entry hentry)
      have hlist := renders_list hentries hrest
      rw [← ExceptionSet.thrownText_eq] at hlist
      have hopen : Renders (Terminal.lpar.shape :: _) ('(' :: (allowed.thrownText ++ text')) :=
        hlist.tight (apart_sign (by decide) _)
      have hthrows : Renders (Terminal.kwThrows.shape :: _) _ :=
        hopen.tight (apart_word (by decide) (.cons (by decide) _))
      rw [Clauses.shapes, List.append_assoc]
      exact hthrows.blank

/-! ## The text of a type -/

namespace Resolution

namespace Ty

mutual

/-- How a type is written. -/
def spelling : Ty → TypeExpr Unit
  | .value type => .named type.name type.isConst type.isVolatile type.isRef ()
  | .function params contract => .function (spellings params) contract.clauses ()

/-- How several types are written. -/
def spellings : List Ty → List (TypeExpr Unit)
  | [] => []
  | type :: rest => type.spelling :: spellings rest

end

theorem spellings_eq_map (types : List Ty) : spellings types = types.map spelling := by
  induction types with
  | nil => rw [spellings, List.map_nil]
  | cons type rest ih => rw [spellings, List.map_cons, ih]

theorem shapesOfTypes_spellings (types : List Ty) :
    shapesOfTypes (spellings types) = types.map fun type => type.spelling.shapes := by
  induction types with
  | nil => rw [spellings, shapesOfTypes, List.map_nil]
  | cons type rest ih => rw [spellings, shapesOfTypes, List.map_cons, ih]

/-- The text of a type has the tokens of its spelling. -/
theorem Spelled.sets {type : Ty} (h : type.Spelled) : Sets type.spelling.shapes type.text := by
  induction h with
  | value hname =>
    rw [text_value, spelling]
    exact ValueType.sets hname
  | @function params contract _ hcontract ih =>
    intro rest text' hrest hdelimited
    have hparams := renders_list ih (Contract.sets hcontract rest text' hrest hdelimited)
    have hopen : Renders (Terminal.lpar.shape :: _) ('(' :: _) :=
      hparams.tight (apart_sign (by decide) _)
    have hword : Renders (Terminal.kwFn.shape :: _) _ :=
      hopen.tight (apart_word (by decide) (.cons (by decide) _))
    rw [text_function, spelling, TypeExpr.shapes, shapesOfTypes_spellings]
    simp only [List.append_assoc, List.cons_append]
    exact hword

theorem Canonical.mono {known known' : String → Prop} {type : Ty} (h : type.Canonical known)
    (hknown : ∀ name, known name → known' name) : type.Canonical known' := by
  induction h with
  | value hname => exact .value (hknown _ hname)
  | function _ hnames ih => exact .function ih fun name hname => hknown _ (hnames name hname)

theorem Canonical.spelled {type : Ty} (h : type.Canonical IsIdentifier) : type.Spelled := by
  induction h with
  | value hname => exact .value hname
  | function _ hnames ih => exact .function ih hnames

theorem expressible_clauses {contract : Contract}
    (h : ∀ name ∈ contract.effective.names, IsName name) : contract.clauses.Expressible := by
  cases contract with
  | undeclared => exact ⟨fun names hnames => absurd hnames (Option.not_mem_none _), id, rfl⟩
  | declared allowed =>
    rw [Contract.clauses]
    cases allowed.isEmpty with
    | true => exact ⟨fun names hnames => absurd hnames (Option.not_mem_none _), id, rfl⟩
    | false =>
      refine ⟨fun names hnames => ?_, fun _ => rfl, rfl⟩
      obtain rfl := Option.some.inj hnames
      exact h

theorem Canonical.expressible {type : Ty} (h : type.Canonical IsName) :
    type.spelling.Expressible := by
  induction h with
  | value hname =>
    rw [spelling]
    exact .named hname
  | function _ hnames ih =>
    rw [spelling, spellings_eq_map]
    exact .function (List.forall_mem_map.mpr ih) (expressible_clauses hnames)

end Ty

/-! ## Reading the text of a type -/

/-- A declaration that gives the type a name. -/
def aliasOf (type : Ty) : Program Unit := { aliases := [⟨"T", type.spelling, ()⟩] }

theorem renders_alias {type : Ty} (h : type.Spelled) :
    Renders ((aliasOf type).items.flatMap Item.shapes)
      ("using T = " ++ type.render ++ ";").toList := by
  have hend : Renders [Terminal.semicolon.shape] [';'] :=
    (Renders.nil (List.forall_mem_nil _)).tight (apart_sign (by decide) [])
  have htype := h.sets _ _ hend (.cons (by decide) [])
  have hword := ((htype.before_blank Terminal.equal.shape).before_blank
    (nameShape "T")).before_blank Terminal.kwUsing.shape
  have htext : ("using T = " ++ type.render ++ ";").toList =
      "using T = ".toList ++ (type.text ++ [';']) := by
    rw [String.toList_append, String.toList_append, List.append_assoc]
    rfl
  have hshapes : (aliasOf type).items.flatMap Item.shapes =
      Terminal.kwUsing.shape :: nameShape "T" :: Terminal.equal.shape ::
        (type.spelling.shapes ++ [Terminal.semicolon.shape]) :=
    List.append_nil _
  rw [htext, hshapes]
  exact hword

/-- The text of a type is read as its spelling. -/
theorem exists_read_alias {type : Ty} (h : type.Canonical IsName) :
    ∃ program, read none ("using T = " ++ type.render ++ ";") = .ok program ∧
      program.unlocated = aliasOf type := by
  have hname : IsName "T" := by decide
  have hexpressible : (aliasOf type).Expressible :=
    ⟨List.forall_mem_nil _, List.forall_mem_singleton.mpr ⟨hname, h.expressible⟩,
      List.forall_mem_nil _⟩
  exact exists_read_of_renders hexpressible
    (renders_alias (h.mono fun _ hname => hname.identifier).spelled)

/-! ## Resolving a spelling -/

section Resolving

variable {types : Types} {file name : String}

theorem Types.lookup_of_isBase (h : types.isBase name = true) (span : Span) :
    types.lookup name span = .below 1 (return .plain name) :=
  follow_of_isBase h _ _ span

theorem value_resolveThrown_of_isBase (h : types.isBase name = true) (span : Span) :
    (resolveThrown types.lookup span name).value = name := by
  rw [value_resolveThrown, Types.lookup_of_isBase h]
  rfl

/-- The clauses of a contract have the contract for their meaning. -/
theorem contract_of_clauses {contract : Contract} {specifier : Specifier}
    (hthrows : specifier.throws = contract.clauses.throws)
    (hwildcard : specifier.wildcard = contract.clauses.wildcard)
    (hnoexcept : specifier.noexcept = contract.clauses.noexcept) :
    specifier.contract = .ok contract := by
  obtain ⟨throws, wildcard, noexcept, span⟩ := specifier
  obtain rfl : throws = _ := hthrows
  obtain rfl : wildcard = _ := hwildcard
  obtain rfl : noexcept = _ := hnoexcept
  cases contract with
  | undeclared => rfl
  | declared allowed =>
    rw [Contract.clauses]
    cases hempty : allowed.isEmpty with
    | true =>
      rw [ExceptionSet.isEmpty_iff.mp hempty]
      rfl
    | false =>
      cases allowed with
      | universal => rfl
      | finite names =>
        -- The names are listed in order and once each, as they are kept.
        have hnames : ExceptionSet.ofList names.toList = .finite names :=
          congrArg _ (NameSet.ext fun name => NameSet.mem_ofList)
        exact congrArg (Except.ok ∘ Contract.declared) hnames

theorem functionContract_of_contract {contract : Contract} {specifier : Specifier}
    (h : specifier.contract = .ok contract) :
    specifier.isConflicting = false ∧ functionContract specifier = contract := by
  rw [Specifier.contract] at h
  rw [functionContract]
  cases hconflict : specifier.isConflicting with
  | true =>
    rw [hconflict] at h
    cases h
  | false =>
    rw [hconflict] at h
    exact ⟨rfl, Except.ok.inj h⟩

theorem names_of_mem_clauses {contract : Contract} {names : List String}
    (h : names ∈ contract.clauses.throws) : names = contract.effective.names := by
  cases contract with
  | undeclared => cases h
  | declared allowed =>
    rw [Contract.clauses] at h
    cases hempty : allowed.isEmpty with
    | true =>
      rw [hempty] at h
      cases h
    | false =>
      rw [hempty] at h
      exact (Option.some.inj h).symm

/-- The clauses of a contract over names that stand for themselves make up the contract. -/
theorem Types.annotate_clauses {contract : Contract} {clauses : Clauses Pos}
    (hclauses : clauses.mapLoc (fun _ => ()) = contract.clauses)
    (h : ∀ name ∈ contract.effective.names, types.isBase name = true) :
    (types.annotate file clauses).log = [] ∧
      (types.annotate file clauses).value.contract = .ok contract := by
  have hthrows : clauses.throws = contract.clauses.throws := congrArg Clauses.throws hclauses
  have hbase : ∀ names ∈ clauses.throws, ∀ name ∈ names, types.isBase name = true := by
    intro names hnames
    rw [hthrows] at hnames
    rwa [names_of_mem_clauses hnames]
  constructor
  · refine log_resolveClauses_eq_nil_iff.mpr fun name hname => ?_
    cases hnames : clauses.throws with
    | none =>
      rw [hnames] at hname
      cases hname
    | some names =>
      rw [hnames] at hname
      rw [lookup_of_isBase (hbase names hnames name hname)]
      exact ⟨rfl, rfl⟩
  · have hvalue : (types.annotate file clauses).value = _ := value_resolveClauses _ _ clauses
    rw [hvalue]
    refine contract_of_clauses ?_ (congrArg Clauses.wildcard hclauses)
      (congrArg Clauses.noexcept hclauses)
    rw [← hthrows]
    cases hnames : clauses.throws with
    | none => rfl
    | some names =>
      have hresolved := List.map_congr_left fun name hname =>
        value_resolveThrown_of_isBase (hbase names hnames name hname) (spanAt? file clauses.loc)
      exact congrArg some (hresolved.trans (List.map_id' names))

/-- The type is what its spelling stands for, wherever that is written, and nothing is reported. -/
def ReadsBack (types : Types) (file : String) (type : Ty) : Prop :=
  ∀ located : TypeExpr Pos, located.mapLoc (fun _ => ()) = type.spelling →
    (types.resolve file located).value = type ∧ (types.resolve file located).log = []

theorem forall_readsBack {params : List Ty} (h : ∀ param ∈ params, ReadsBack types file param)
    {located : List (TypeExpr Pos)}
    (hlocated : located.map (·.mapLoc fun _ => ()) = params.map Ty.spelling) :
    located.map (fun type => (types.resolve file type).value) = params ∧
      ∀ type ∈ located, (types.resolve file type).log = [] := by
  induction params generalizing located with
  | nil =>
    obtain rfl := List.map_eq_nil_iff.mp hlocated
    exact ⟨rfl, List.forall_mem_nil _⟩
  | cons param params ih =>
    obtain ⟨hparam, hparams⟩ := List.forall_mem_cons.mp h
    obtain ⟨first, rest, rfl, hfirst, hrest⟩ := List.map_eq_cons_iff.mp hlocated
    obtain ⟨hvalue, hlog⟩ := hparam first hfirst
    obtain ⟨hvalues, hlogs⟩ := ih hparams hrest
    exact ⟨by rw [List.map_cons, hvalue, hvalues], List.forall_mem_cons.mpr ⟨hlog, hlogs⟩⟩

theorem Ty.Canonical.readsBack {type : Ty}
    (h : type.Canonical fun name => types.isBase name = true) : ReadsBack types file type := by
  induction h with
  | @value type hname =>
    intro located hlocated
    rw [Ty.spelling] at hlocated
    cases located with
    | function _ _ _ => cases hlocated
    | named name isConst isVolatile isRef loc =>
      rw [TypeExpr.mapLoc] at hlocated
      obtain ⟨rfl, rfl, rfl, rfl, _⟩ := TypeExpr.named.inj hlocated
      -- The name stands for itself without qualifiers, and those that are written are added.
      have hlookup := Types.lookup_of_isBase hname (spanAt file loc)
      constructor
      · rw [Types.resolve, value_resolveType_named, hlookup]
        simp [Ty.qualify, Ty.plain]
      · rw [Types.resolve, log_resolveType_eq_nil_iff, TypeExpr.parts, List.forall_mem_singleton,
          Passes, hlookup]
        exact ⟨rfl, fun _ => rfl⟩
  | @function params contract _ hnames ih =>
    intro located hlocated
    rw [Ty.spelling, Ty.spellings_eq_map] at hlocated
    cases located with
    | named _ _ _ _ _ => cases hlocated
    | function located clauses loc =>
      rw [TypeExpr.mapLoc, mapLocTypes_eq_map] at hlocated
      obtain ⟨hparams, hclauses, _⟩ := TypeExpr.function.inj hlocated
      obtain ⟨hvalues, hlogs⟩ := forall_readsBack ih hparams
      obtain ⟨hlog, hcontract⟩ : (types.annotate file clauses).log = [] ∧ _ :=
        Types.annotate_clauses hclauses hnames
      obtain ⟨hconflict, hmeaning⟩ := functionContract_of_contract hcontract
      constructor
      · rw [Types.resolve, value_resolveType_function]
        exact congrArg₂ Ty.function hvalues hmeaning
      · refine log_resolveType_eq_nil_iff.mpr (forall_mem_parts_function.mpr ⟨?_, ?_⟩)
        · rw [Passes, ← isConflicting_resolveClauses types.lookup file]
          exact ⟨log_resolveClauses_eq_nil_iff.mp hlog, hconflict⟩
        · exact fun param hparam => log_resolveType_eq_nil_iff.mp (hlogs param hparam)

end Resolving

end Resolution

end Throws
