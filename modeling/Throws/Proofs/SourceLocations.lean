import Throws.Proofs.CanonicalNames
import Throws.Proofs.ExprSites
import Throws.Proofs.LoweredProgram
import Throws.Proofs.NamePlaces
import Throws.Proofs.TokenPositions

/-!
# Locations point at the source text

A name in a tree is located where it stands in the text, and resolution turns its location into the
span of what the name becomes.

* `pointsInto_of_read`: in the tree of a text every name and every function is located where it is
  spelled, no two names are located at the same position, and calls are located where the called
  expressions are.
* `resolvedFrom_lowerExpr`: the span of a variable or of a call by name is the location of the name
  that it comes from.

The expressions in a resolved body are those in the text one by one (`exprs_lowerBody`). Together
this says for each of them which name in the file its span leads to.
-/

namespace Throws.Surface

/-! ## Trees -/

/-- The locations in a tree are positions in the text. -/
structure Program.PointsInto (program : Program Pos) (text : String) : Prop where
  /-- A name is spelled where it is located. -/
  names : ∀ ident loc, .name ident loc ∈ program.uses → Spells text loc ident
  /-- The name of a function is spelled where the function is located. -/
  functions : ∀ function ∈ program.functions, Spells text function.loc function.name
  /-- A call is located where the called expression is. -/
  calls : ∀ function args loc, .call function args loc ∈ program.uses → loc = function.loc
  /-- No two names are located at the same position. -/
  distinct : (program.uses.filterMap Expr.nameLoc?).Nodup

/-- The name of a function is among the names in the text. -/
theorem FunctionDef.name_mem_uses {program : Program Pos} {function : FunctionDef Pos}
    (h : function ∈ program.functions) : .name function.name function.loc ∈ program.uses :=
  List.mem_flatMap.mpr ⟨function, h, List.mem_cons_self⟩

/-- The token of a number that a name is located by. -/
theorem exists_token_of_shape {tokens : Array Token} {index : Nat} {ident : String}
    (h : (tokens.toList.map Token.shape)[index]? = some (.name, ident.toList)) :
    ∃ token, tokens.toList[index]? = some token ∧ token.terminal = .name ∧
      String.ofList token.text = ident ∧ positionAt tokens index = token.pos := by
  rw [List.getElem?_map] at h
  obtain ⟨token, htoken, hshape⟩ := Option.map_eq_some_iff.mp h
  obtain ⟨hterminal, htext⟩ := Prod.mk.inj hshape
  refine ⟨token, htoken, hterminal, by rw [htext, String.ofList_toList], ?_⟩
  rw [positionAt, ← Array.getElem?_toList, htoken]
  rfl

section Tokens

variable {text : String} {limit : Pos} {tokens : Array Token} {index : Nat} {uses : List (Expr Nat)}
  (hlaid : Laid text limit tokens.toList.reverse)
  (hplaced : Placed (tokens.toList.map Token.shape) index uses)

include hlaid hplaced

/-- A name that is placed at a token is spelled at the position of it. -/
theorem spells_positionAt {ident : String} {loc : Nat} (h : .name ident loc ∈ uses) :
    Spells text (positionAt tokens loc) ident := by
  obtain ⟨token, htoken, hname, rfl, hpos⟩ := exists_token_of_shape (hplaced.name ident loc h).2
  rw [hpos]
  exact hlaid.word token (List.mem_reverse.mpr (List.mem_of_getElem? htoken)) hname

/-- Positions of names grow with the numbers of their tokens, so none of them is there twice. -/
theorem nodup_positionAt : ((uses.filterMap Expr.nameLoc?).map (positionAt tokens)).Nodup := by
  refine List.pairwise_map.mpr (hplaced.ordered.imp_of_mem fun hfirst hsecond hlt => ?_)
  obtain ⟨ident, hident⟩ := exists_name_of_mem hfirst
  obtain ⟨ident', hident'⟩ := exists_name_of_mem hsecond
  obtain ⟨token, htoken, hname, _, hpos⟩ := exists_token_of_shape (hplaced.name _ _ hident).2
  obtain ⟨token', htoken', hname', _, hpos'⟩ := exists_token_of_shape (hplaced.name _ _ hident').2
  -- The tokens are laid out last first, and their numbers count from the first one.
  have hordered := List.pairwise_iff_getElem.mp (List.pairwise_reverse.mp hlaid.ordered)
  obtain ⟨hbound, rfl⟩ := List.getElem?_eq_some_iff.mp htoken
  obtain ⟨hbound', rfl⟩ := List.getElem?_eq_some_iff.mp htoken'
  rw [hpos, hpos']
  intro heq
  exact absurd (congrArg Pos.rank heq) (hordered _ _ hbound hbound' hlt hname' hname).ne

end Tokens

/-- The tree of a text points into the text. -/
theorem pointsInto_of_read {depth : Option Nat} {text : String} {program : Program Pos}
    (h : read depth text = .ok program) : program.PointsInto text := by
  obtain ⟨items, tokens, hparse, rfl⟩ := exists_parse_of_read h
  obtain ⟨_, hplaced⟩ := placed_of_parse hparse
  obtain ⟨_, hlaid⟩ := laid_of_parse hparse
  -- Every use in the tree comes from one that is located by the number of a token.
  have huses := Program.uses_mapLoc (positionAt tokens) (.ofItems items)
  have hnames : ∀ ident loc,
      .name ident loc ∈ ((Program.ofItems items).mapLoc (positionAt tokens)).uses →
      Spells text loc ident := by
    intro ident loc hmem
    obtain ⟨expr, hexpr, heq⟩ := List.mem_map.mp (huses ▸ hmem)
    cases expr with
    | name ident' index =>
      obtain ⟨rfl, rfl⟩ := Expr.name.inj heq
      exact spells_positionAt hlaid hplaced hexpr
    | _ => cases heq
  refine ⟨hnames, fun function hfunction => ?_, fun function args loc hmem => ?_, ?_⟩
  · exact hnames _ _ (FunctionDef.name_mem_uses hfunction)
  · obtain ⟨expr, hexpr, heq⟩ := List.mem_map.mp (huses ▸ hmem)
    cases expr with
    | call function' args' index =>
      obtain ⟨rfl, _, rfl⟩ := Expr.call.inj heq
      rw [hplaced.call function' args' index hexpr, Expr.loc_mapLoc]
    | _ => cases heq
  · have hlocs := nodup_positionAt hlaid hplaced
    rw [List.map_filterMap] at hlocs
    simpa [huses, List.filterMap_map, Function.comp_def, Expr.nameLoc?_mapLoc] using hlocs

/-! ## Names at expressions -/

/-- The name that an expression is or that it calls. -/
def Expr.ident? : Expr Pos → Option String
  | .name ident _ | .call (.name ident _) _ _ => some ident
  | _ => none

/-- A call of something that is not a name calls no name. -/
theorem Expr.ident?_computed {function : Expr Pos} (h : ∀ ident loc, function ≠ .name ident loc)
    (args : List (Expr Pos)) (loc : Pos) : (Expr.call function args loc).ident? = none := by
  cases function with
  | name ident loc => exact absurd rfl (h ident loc)
  | _ => rfl

/-- The names and calls in an expression inside of another one are in the other one. -/
theorem Expr.uses_subset_of_mem_pieces {expr piece : Expr Pos} (h : piece ∈ expr.pieces) :
    piece.uses ⊆ expr.uses := by
  induction expr using Expr.induction with
  | literal value loc => simp_all [Expr.pieces]
  | name ident loc => simp_all [Expr.pieces]
  | unary op operand loc hoperand => grind [Expr.pieces, Expr.uses]
  | binary op left right loc hleft hright => grind [Expr.pieces, Expr.uses]
  | assign target value loc htarget hvalue => grind [Expr.pieces, Expr.uses]
  | call function args loc hfunction hargs =>
    have hpieces : piece = .call function args loc ∨ piece ∈ function.pieces ∨
        ∃ arg ∈ args, piece ∈ arg.pieces := by
      rcases Resolution.exists_name_or_computed function with ⟨ident, loc', rfl⟩ | hcomputed
      · grind [Expr.pieces, piecesAll_eq_flatMap]
      · rw [Expr.pieces_computed hcomputed, piecesAll_eq_flatMap] at h
        simpa using h
    rw [Expr.uses, usesOfExprs_eq_flatMap]
    rcases hpieces with rfl | hpiece | ⟨arg, harg, hpiece⟩
    · rw [Expr.uses, usesOfExprs_eq_flatMap]
      exact List.Subset.refl _
    · exact List.subset_append_of_subset_left _ (hfunction hpiece)
    · grind [hargs arg harg hpiece]

/-- The names and calls at every expression of a statement, or a piece of one, are in it. -/
def heldUses : Motive Pos where
  stmt stmt := ∀ visible, ∀ site ∈ stmt.sites visible, site.expr.uses ⊆ stmt.uses
  block block := ∀ visible, ∀ site ∈ block.sites visible, site.expr.uses ⊆ block.uses
  handler handler := ∀ visible, ∀ site ∈ handler.sites visible, site.expr.uses ⊆ handler.uses
  branch branch := ∀ visible, ∀ site ∈ branch.sites visible, site.expr.uses ⊆ branch.uses
  otherwise otherwise := ∀ visible, ∀ site ∈ otherwise.sites visible,
    site.expr.uses ⊆ otherwise.uses

/-- The names and calls at an expression are in the expression around it. -/
theorem Expr.uses_subset_of_mem_sites {expr : Expr Pos} {visible : List Binding} {site : Site}
    (h : site ∈ expr.sites visible) : site.expr.uses ⊆ expr.uses := by
  obtain ⟨piece, hpiece, rfl⟩ := List.mem_map.mp h
  exact uses_subset_of_mem_pieces hpiece

/-- The same for an expression that may be left out. -/
theorem uses_subset_of_mem_optionalSites {value : Option (Expr Pos)} {visible : List Binding}
    {site : Site} (h : site ∈ optionalSites visible value) :
    site.expr.uses ⊆ usesOfOptional value := by
  cases value with
  | none => cases h
  | some expr => exact Expr.uses_subset_of_mem_sites h

/-- The same for the first part of a `for`. -/
theorem ForInit.uses_subset_of_mem_sites {init : ForInit Pos} {visible : List Binding}
    {site : Site} (h : site ∈ init.sites visible) : site.expr.uses ⊆ init.uses := by
  cases init with
  | none => cases h
  | expr value loc => exact Expr.uses_subset_of_mem_sites h
  | decl inner => exact uses_subset_of_mem_optionalSites h

/-- The same for statements in a row. -/
theorem uses_subset_of_mem_stmtsSites {stmts : List (Stmt Pos)}
    (h : ∀ stmt ∈ stmts, heldUses.stmt stmt) (visible : List Binding) :
    ∀ site ∈ stmtsSites visible stmts, site.expr.uses ⊆ usesOfStmts stmts := by
  induction stmts generalizing visible with
  | nil => exact List.forall_mem_nil _
  | cons stmt rest ih =>
    obtain ⟨hstmt, hrest⟩ := List.forall_mem_cons.mp h
    refine List.forall_mem_append.mpr ⟨fun site hsite => ?_, fun site hsite => ?_⟩
    · exact List.subset_append_of_subset_left _ (hstmt visible site hsite)
    · exact List.subset_append_of_subset_right _ (ih hrest _ site hsite)

/-- A statement has what its pieces have. -/
theorem heldUses_inherited : heldUses.Inherited where
  stmt stmt inside visible site hsite := by
    cases stmt with
    | guarded body handlers loc =>
      obtain ⟨hbody, hhandlers⟩ := inside
      simp only [heldUses] at hbody hhandlers
      grind [Stmt.sites, Stmt.uses, Resolution.handlersSites_eq_flatMap, usesOfHandlers_eq_flatMap]
    | _ =>
      simp only [Motive.Inside, heldUses] at inside
      grind [Stmt.sites, Stmt.uses, → Expr.uses_subset_of_mem_sites,
        → uses_subset_of_mem_optionalSites, → ForInit.uses_subset_of_mem_sites]
  block statements loc hstatements visible := uses_subset_of_mem_stmtsSites hstatements visible
  handler type binder block loc hblock visible := hblock _
  branch condition whenTrue otherwise loc hwhenTrue hotherwise visible site hsite := by
    have hwhenTrue := hwhenTrue visible
    have hotherwise := hotherwise visible
    grind [Branch.sites, Branch.uses, → Expr.uses_subset_of_mem_sites]
  nothing visible := List.forall_mem_nil _
  elseBlock block hblock visible := hblock visible
  elseIf branch hbranch visible := hbranch visible

/-- The names and calls at the expressions of a function are in the function. -/
theorem FunctionDef.uses_subset_of_mem_sites {definition : FunctionDef Pos} {site : Site}
    (h : site ∈ definition.sites) : site.expr.uses ⊆ definition.uses := by
  rw [FunctionDef.sites] at h
  rw [FunctionDef.uses]
  cases hbody : definition.body with
  | none => simp [hbody] at h
  | some body =>
    rw [hbody] at h
    exact List.subset_cons_of_subset _ (heldUses_inherited.block_holds body _ site h)

end Throws.Surface

namespace Throws.Body.Node

/-! ## Bodies -/

/-- The name that a node is written with and the span it has, for variables and for calls by name,
be it the name of a function or of a function value. -/
def written? : Node → Option (String × Span)
  | .variable name span | .call _ _ (some name) span
  | .indirectCall (.variable name _) _ _ span => some (name, span)
  | _ => none

/-- Whatever is written with a name has a span that is good for the name. -/
def Named (good : String → Span → Prop) (node : Node) : Prop :=
  node.Everywhere fun inner => ∀ name span, inner.written? = some (name, span) → good name span

/-- Only expressions are written with names. -/
theorem isExpr_of_written? {node : Node} {found : String × Span} (h : node.written? = some found) :
    node.isExpr = true := by
  unfold written? at h
  split at h
  case h_4 => cases h
  all_goals rfl

/-- A node that is written without a name adds nothing but itself. -/
theorem own_of_written?_eq_none {node : Node} (h : node.written? = none) : node.own = [node] := by
  unfold own
  split
  case h_1 => cases h
  case h_2 => rfl

/-- It is enough to look at the expressions of a body. -/
theorem named_of_exprs {good : String → Span → Prop} {body : Node} {nodes : List Node}
    (hexprs : body.exprs = nodes.flatMap own)
    (h : ∀ node ∈ nodes, ∀ piece ∈ node.own, ∀ name span,
      piece.written? = some (name, span) → good name span) : body.Named good := by
  intro occurrence hoccurrence name span hwritten
  have hmem : occurrence.node ∈ body.exprs :=
    List.mem_filter.mpr ⟨List.mem_map.mpr ⟨occurrence, hoccurrence, rfl⟩,
      isExpr_of_written? hwritten⟩
  rw [hexprs] at hmem
  obtain ⟨node, hnode, hpiece⟩ := List.mem_flatMap.mp hmem
  exact h node hnode _ hpiece name span hwritten

end Throws.Body.Node

namespace Throws.Resolution

open Throws.Body Throws.Surface

/-! ## Resolution -/

/-- A position in a file that has a name. -/
def spanIn (file : String) (pos : Pos) : Span :=
  { file := some file, line := some pos.line, column := some pos.column }

/-- What an expression of a file becomes, as far as names are concerned. -/
inductive ResolvedFrom (file : String) : Expr Pos → Node → Prop
  /-- A name becomes a variable that is located where the name is. -/
  | name {ident : String} {loc : Pos} :
    ResolvedFrom file (.name ident loc) (.variable ident (spanIn file loc))
  /-- A call by name becomes the call of a function, located where the name is. -/
  | call {ident : String} {loc : Pos} {args : List (Expr Pos)} {callee : Option FunctionKey}
    {nodes : List Node} : ResolvedFrom file (.call (.name ident loc) args loc)
      (.call callee nodes (some ident) (spanIn file loc))
  /-- Or it becomes the call of a function value. Then there is also a variable for the name. -/
  | valueCall {ident : String} {loc : Pos} {args : List (Expr Pos)} {contract : Contract}
    {nodes : List Node} : ResolvedFrom file (.call (.name ident loc) args loc)
      (.indirectCall (.variable ident (spanIn file loc)) contract nodes (spanIn file loc))
  /-- Or it becomes the construction of an exception. -/
  | construct {ident : String} {loc : Pos} {args : List (Expr Pos)} {type : Option ValueType}
    {nodes : List Node} : ResolvedFrom file (.call (.name ident loc) args loc)
      (.construct type nodes (spanIn file loc))
  /-- Any other expression becomes something that is not written with a name. -/
  | unnamed {expr : Expr Pos} {node : Node} (hexpr : expr.ident? = none)
    (hnode : node.written? = none) : ResolvedFrom file expr node

/-- A call of something other than a variable is not written with a name. -/
theorem written?_computedCall {type : Option Ty} {callee : Node}
    (h : ∀ name span, callee ≠ .variable name span) {args : List Node} {span : Span} :
    (computedCall type callee args span).written? = none := by
  unfold computedCall
  split
  · unfold Node.written?
    split
    case h_3 heq => exact absurd (Node.indirectCall.inj heq).1 (h _ _)
    case h_4 => rfl
    all_goals simp_all
  · rfl

section Expressions

variable (place : Place) (hfile : place.file ≠ "") (scope : Scope)

include hfile

/-- Whatever a name in front of arguments means, its location is that of the call. -/
theorem resolvedFrom_lowerNamedCall (ident : String) (loc : Pos) (args : List (Expr Pos))
    (nodes : List Node) :
    ResolvedFrom place.file (.call (.name ident loc) args loc)
      (lowerNamedCall place scope ident nodes (place.span loc)).value := by
  rw [Place.span, spanAt_eq hfile]
  unfold lowerNamedCall
  split
  · exact .valueCall
  · exact .call
  · rw [Logged.value_bind]
    cases (place.globals.types.exception? ident).value with
    | some type => exact .construct
    | none => exact .call

/-- An expression takes its span from where it stands. -/
theorem resolvedFrom_lowerExpr {expr : Expr Pos}
    (hcalls : ∀ function args loc, .call function args loc ∈ expr.uses → loc = function.loc) :
    ResolvedFrom place.file expr (lowerExpr place scope expr).value := by
  cases expr with
  | name ident loc =>
    rw [lowerExpr, Place.span, spanAt_eq hfile]
    exact .name
  | call function args loc =>
    rcases exists_name_or_computed function with ⟨ident, loc', rfl⟩ | hcomputed
    · -- The call is located where the name is, since that is what is called.
      obtain rfl : loc = loc' := hcalls (.name ident loc') args loc (by simp [Expr.uses])
      rw [value_lowerExpr_named]
      exact resolvedFrom_lowerNamedCall place hfile scope ident loc args _
    · rw [value_lowerExpr_computed place scope hcomputed]
      exact .unnamed (Expr.ident?_computed hcomputed args loc)
        (written?_computedCall (value_lowerExpr_ne_variable place scope hcomputed))
  | _ => exact .unnamed rfl rfl

end Expressions

/-! ## Programs -/

/-- The span leads to a position in the file at which the text has the name. -/
def PointsAt (file text name : String) (span : Span) : Prop :=
  ∃ pos : Pos, span = spanIn file pos ∧ Spells text pos name

/-- What comes from an expression of a text points at the name in it. -/
theorem ResolvedFrom.pointsAt {file text : String} {expr : Expr Pos} {node : Node}
    (h : ResolvedFrom file expr node)
    (hnames : ∀ ident loc, .name ident loc ∈ expr.uses → Spells text loc ident) :
    ∀ piece ∈ node.own, ∀ name span, piece.written? = some (name, span) →
      PointsAt file text name span := by
  intro piece hpiece name span hwritten
  cases h with
  | name =>
    obtain rfl := List.mem_singleton.mp hpiece
    cases hwritten
    exact ⟨_, rfl, hnames _ _ List.mem_cons_self⟩
  | call =>
    obtain rfl := List.mem_singleton.mp hpiece
    cases hwritten
    exact ⟨_, rfl, hnames _ _ List.mem_cons_self⟩
  | valueCall =>
    -- The call and the variable that is called have the same name and the same span.
    rcases List.mem_pair.mp hpiece with rfl | rfl <;> cases hwritten
    all_goals exact ⟨_, rfl, hnames _ _ List.mem_cons_self⟩
  | construct =>
    obtain rfl := List.mem_singleton.mp hpiece
    cases hwritten
  | unnamed _ hnode =>
    rw [Node.own_of_written?_eq_none hnode] at hpiece
    obtain rfl := List.mem_singleton.mp hpiece
    rw [hnode] at hwritten
    cases hwritten

/-- The expressions in a resolved body are those in the function, resolved one by one. -/
theorem exprs_of_mem_lowerBody {place : Place} {definition : FunctionDef Pos} {body : Node}
    (h : body ∈ (lowerBody place definition).value) :
    body.exprs = (definition.sites.map (lowerSite place)).flatMap Node.own := by
  have hexprs := exprs_lowerBody place definition
  rw [h] at hexprs
  rw [List.flatMap_map]
  exact hexprs

/-- Locations point at the source. In the tree of a text every name and every function is located
where the text spells it as a word, calls are located where the called expressions are, and no two
names are located at the same position.

So let the files of a program have been read from texts, and let a function be in a file that has a
name. It comes from a definition in the text of that file and has the location of it as its span.
The expressions in its body come from those in the definition one by one: a variable and a call by
name have the location of the name as their span. These spans, and that of the function, lead to the
identifier in the text. -/
theorem locations_point_at_source (depth : Option Nat) :
    (∀ text program, read depth text = .ok program → program.PointsInto text) ∧
      ∀ (files : List (String × String)) (sources : List (String × Program Pos)),
        (∀ file program, (file, program) ∈ sources →
          ∃ text, (file, text) ∈ files ∧ read depth text = .ok program) →
        ∀ unit ∈ (lowerProgram sources).value, unit.name ≠ "" → ∀ function ∈ unit.functions,
          ∃ text program definition, (unit.name, text) ∈ files ∧
            (unit.name, program) ∈ sources ∧ read depth text = .ok program ∧
            definition ∈ program.functions ∧
            (∀ site ∈ definition.sites, site.expr.uses ⊆ program.uses) ∧
            function.key.name = definition.name ∧
            function.span = spanIn unit.name definition.loc ∧
            PointsAt unit.name text function.key.name function.span ∧
            ∀ body ∈ function.body,
              (∃ nodes, body.exprs = nodes.flatMap Node.own ∧
                List.Forall₂ (ResolvedFrom unit.name) (definition.sites.map (·.expr)) nodes) ∧
              body.Named (PointsAt unit.name text) := by
  refine ⟨fun text program => pointsInto_of_read, fun files sources hread unit hunit hfile => ?_⟩
  intro function hfunction
  obtain ⟨definition, hdeclared, rfl⟩ := (mem_functions_iff hunit).mp hfunction
  obtain ⟨program, hsource, hdefinition⟩ := mem_declarations_iff.mp hdeclared
  obtain ⟨text, htext, hprogram⟩ := hread _ _ hsource
  have hpoints := pointsInto_of_read hprogram
  have huses : definition.uses ⊆ program.uses := fun expr hexpr =>
    List.mem_flatMap.mpr ⟨definition, hdefinition, hexpr⟩
  have hsites : ∀ site ∈ definition.sites, site.expr.uses ⊆ program.uses := fun site hsite =>
    List.Subset.trans (FunctionDef.uses_subset_of_mem_sites hsite) huses
  have hspan : spanAt unit.name definition.loc = spanIn unit.name definition.loc :=
    spanAt_eq hfile definition.loc
  refine ⟨text, program, definition, htext, hsource, hprogram, hdefinition, hsites, rfl, hspan,
    ⟨definition.loc, hspan, hpoints.functions definition hdefinition⟩, fun body hbody => ?_⟩
  let place : Place := ⟨programGlobals sources, unit.name⟩
  have hfrom : ∀ site ∈ definition.sites,
      ResolvedFrom unit.name site.expr (lowerSite place site) := fun site hsite =>
    resolvedFrom_lowerExpr place hfile _ fun callee args loc hmem =>
      hpoints.calls callee args loc (hsites site hsite hmem)
  have hexprs : body.exprs = (definition.sites.map (lowerSite place)).flatMap Node.own :=
    exprs_of_mem_lowerBody hbody
  refine ⟨⟨_, hexprs, ?_⟩, Node.named_of_exprs hexprs fun node hnode => ?_⟩
  · rw [List.forall₂_map_left_iff, List.forall₂_map_right_iff, List.forall₂_same]
    exact hfrom
  · -- Whatever is written with a name comes from an expression at which the text has the name.
    obtain ⟨site, hsite, rfl⟩ := List.mem_map.mp hnode
    exact (hfrom site hsite).pointsAt fun ident loc hmem =>
      hpoints.names ident loc (hsites site hsite hmem)

/-- The names in a function with their spans: its own one and those in the body. -/
def namesIn (function : Function) : List (String × Span) :=
  (function.key.name, function.span) :: function.body.elim [] (·.exprs.filterMap Node.written?)

/-- A function that calls itself, with its name in parentheses and without, and a function value.
Its name and the beginning of a comment are also in places where they mean nothing. -/
def scatteredText : String :=
  "/* f\n f */ int f(fn(int) p) \x7b\n  g(\"// f\", p); // f\n  return (f)\n    (p(f(p))); \x7d"

/-- The seven names in `scatteredText` are located at seven positions, and all of them are spelled
there. These are the spans in the resolved function, where the call of `p` comes along with the
variable that is called. -/
theorem locations_scatteredText :
    ∃ program, read none scatteredText = .ok program ∧ program.PointsInto scatteredText ∧
      program.uses.filterMap Expr.nameLoc? =
        [⟨2, 11⟩, ⟨3, 3⟩, ⟨3, 13⟩, ⟨4, 11⟩, ⟨5, 6⟩, ⟨5, 8⟩, ⟨5, 10⟩] ∧
      let units := (lowerProgram [("a", program)]).value
      units.map (·.name) = ["a"] ∧
      (units.flatMap (·.functions)).map namesIn =
        [[("f", ⟨some "a", some 2, some 11⟩), ("g", ⟨some "a", some 3, some 3⟩),
          ("p", ⟨some "a", some 3, some 13⟩), ("f", ⟨some "a", some 4, some 11⟩),
          ("p", ⟨some "a", some 5, some 6⟩), ("p", ⟨some "a", some 5, some 6⟩),
          ("f", ⟨some "a", some 5, some 8⟩), ("p", ⟨some "a", some 5, some 10⟩)]] ∧
      ∀ unit ∈ units, ∀ function ∈ unit.functions, ∃ definition ∈ program.functions,
        PointsAt "a" scatteredText function.key.name function.span ∧
        ∀ body ∈ function.body,
          (∃ nodes, body.exprs = nodes.flatMap Node.own ∧
            List.Forall₂ (ResolvedFrom "a") (definition.sites.map (·.expr)) nodes) ∧
          body.Named (PointsAt "a" scatteredText) := by
  obtain ⟨hinto, hspans⟩ := locations_point_at_source none
  have hcomputed : (read none scatteredText).toOption.map (fun program =>
      let units := (lowerProgram [("a", program)]).value
      (program.uses.filterMap Expr.nameLoc?, units.map (·.name),
        (units.flatMap (·.functions)).map namesIn)) =
      some ([⟨2, 11⟩, ⟨3, 3⟩, ⟨3, 13⟩, ⟨4, 11⟩, ⟨5, 6⟩, ⟨5, 8⟩, ⟨5, 10⟩], ["a"],
        [[("f", ⟨some "a", some 2, some 11⟩), ("g", ⟨some "a", some 3, some 3⟩),
          ("p", ⟨some "a", some 3, some 13⟩), ("f", ⟨some "a", some 4, some 11⟩),
          ("p", ⟨some "a", some 5, some 6⟩), ("p", ⟨some "a", some 5, some 6⟩),
          ("f", ⟨some "a", some 5, some 8⟩), ("p", ⟨some "a", some 5, some 10⟩)]]) := by
    decide +kernel
  cases hread : read none scatteredText with
  | error error =>
    rw [hread] at hcomputed
    cases hcomputed
  | ok program =>
    rw [hread] at hcomputed
    obtain ⟨hlocs, hcomputed⟩ := Prod.mk.inj (Option.some.inj hcomputed)
    obtain ⟨hunits, hspelled⟩ := Prod.mk.inj hcomputed
    refine ⟨program, rfl, hinto _ _ hread, hlocs, hunits, hspelled, fun unit hunit function => ?_⟩
    intro hfunction
    have hname : unit.name = "a" := by
      have hmem := List.mem_map_of_mem (f := SourceUnit.name) hunit
      rw [hunits] at hmem
      exact List.mem_singleton.mp hmem
    obtain ⟨text, program', definition, htext, hsource, _, hdefinition, _, _, _, hpoints⟩ :=
      hspans [("a", scatteredText)] [("a", program)] (fun file program' hsource => by
        obtain ⟨rfl, rfl⟩ := Prod.mk.inj (List.mem_singleton.mp hsource)
        exact ⟨scatteredText, List.mem_singleton_self _, hread⟩)
      unit hunit (by rw [hname]; decide) function hfunction
    obtain ⟨_, rfl⟩ := Prod.mk.inj (List.mem_singleton.mp htext)
    obtain ⟨_, rfl⟩ := Prod.mk.inj (List.mem_singleton.mp hsource)
    rw [hname] at hpoints
    exact ⟨definition, hdefinition, hpoints⟩

end Throws.Resolution
