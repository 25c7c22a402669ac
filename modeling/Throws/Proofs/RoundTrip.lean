import Throws.Proofs.LiteralTrails
import Throws.Proofs.ProgramReading

/-!
# Reading undoes printing

A program that can be written is read back from its printed text, locations aside
(`reading_undoes_printing`). What is left to show here is that nothing goes wrong once the text has
been parsed: every printed literal has a value, so nothing is met on the way through the tree, and
sorting the declarations by kind gives back the parts of the program.
-/

namespace Throws.Surface

variable {ι : Type}

/-! ## Nothing is met where no literal is faulty -/

/-- No literal is faulty. -/
def Faultless (fault? : ι → Option LiteralFault) : Prop := ∀ loc, fault? loc = none

theorem events_trailOfItems {fault? : ι → Option LiteralFault} (h : Faultless fault?)
    (items : List (Item ι)) : (trailOfItems fault? items).events = [] := by
  rw [← filterMap_trailOfItems, Trail.events_filterMap, List.filterMap_eq_nil_iff]
  exact fun loc _ => h loc

/-- No printed token is a faulty literal. -/
theorem faultless_of_isPrinted {tokens : Array Token}
    (h : ∀ token ∈ tokens.toList, IsPrinted token.shape) : Faultless (faultAt tokens) := by
  intro index
  rw [faultAt, Option.bind_eq_none_iff]
  intro token htoken
  exact (h token (Array.mem_toList_iff.mpr (Array.mem_of_getElem? htoken))).fault?

/-! ## Declarations and programs -/

theorem Program.unlocated_ofItems (items : List (Item ι)) :
    (Program.ofItems items).unlocated = Program.ofItems (items.map Item.unlocated) := by
  simp only [unlocated, mapLoc, ofItems, List.map_filterMap, List.filterMap_map]
  congr 2 <;> funext item <;> cases item <;> rfl

/-- The declarations of a program, sorted by kind, are the program. -/
theorem Program.ofItems_items (program : Program ι) : Program.ofItems program.items = program := by
  simp [ofItems, items, List.filterMap_append, List.filterMap_map]

/-- A program that can be written is read back from its printed text, locations aside. -/
theorem reading_undoes_printing {program : Program Unit} (h : program.Expressible) :
    ∃ located, read none program.print = .ok located ∧ located.unlocated = program := by
  obtain ⟨items, tokens, hitems, hparse, hprinted⟩ := exists_parse_of_expressible h
  refine ⟨(Program.ofItems items).mapLoc (positionAt tokens), ?_, ?_⟩
  · -- Depth does not matter without a limit, and there are no literals to stop at.
    have hquiet := events_trailOfItems (faultless_of_isPrinted hprinted) items
    rw [read, hparse]
    simp only [Trail.upTo, hquiet]
    rfl
  · rw [Program.unlocated_mapLoc, Program.unlocated_ofItems, hitems, Program.ofItems_items]

/-- Parentheses on either side of an operator, calls of a call, and a sign in front of them. -/
def product : Expr Unit :=
  .binary .star
    (.binary .minus (.name "a" ()) (.binary .minus (.name "b" ()) (.name "c" ()) ()) ())
    (.unary .minus (.call (.call (.name "f" ()) [.name "a" (), .literal (.bool true) ()] ()) [] ())
      ()) ()

/-- A handler that throws a text with a quotation mark, a backslash and a line break in it. -/
def quoting : Handler Unit :=
  .mk (some (.named "Lost" true false true ())) (some "lost")
    (.mk [.throw (.literal (.text [0x22, 0x5c, 0x0a, 0x61]) ()) ()] ()) ()

/-- An assignment to an assignment as a condition, with another condition behind `else`. -/
def deciding : Branch Unit :=
  .mk (.assign (.assign (.name "a" ()) (.name "b" ()) ())
      (.assign (.name "b" ()) (.literal (.int 10) ()) ()) ())
    (.mk [.ret (some product) ()] ())
    (.chain (.mk (.name "b" ()) (.mk [] ()) (.block (.mk [.empty ()] ())) ())) ()

/-- A program with a declaration of every kind. -/
def searching : Program Unit where
  exceptions := [⟨"Lost", ()⟩]
  aliases := [⟨"Probe", .function [.named "int" false true false (),
    .function [] { noexcept := true, loc := some () } ()]
    { throws := some ["Lost"], wildcard := true, loc := some () } (), ()⟩]
  functions := [{
    name := "seek"
    params := [⟨.named "Probe" false false true (), some "f"⟩,
      ⟨.named "int" false false false (), none⟩]
    returnType := .named "int" false false false ()
    clauses := { throws := some [], loc := some () }
    body := some (.mk [
      .decl ⟨.named "int" false false false (), "b", none, ()⟩,
      .for (.decl ⟨.named "int" false false false (), "a", some (.name "b" ()), ()⟩) none
        (some (.call (.name "f" ()) [] ())) (.mk [.guarded (.mk [.branch deciding] ())
          [quoting, .mk none none (.mk [.rethrow ()] ()) ()] ()] ()) ()] ())
    loc := () }]

theorem expressible_product : product.Expressible := by
  have hargs : ∀ arg ∈ [Expr.name "a" (), .literal (.bool true) ()], arg.Expressible :=
    List.forall_mem_cons.mpr ⟨.name (by decide), List.forall_mem_singleton.mpr (.literal (.bool _))⟩
  refine .binary (.binary (.name (by decide)) (.binary (.name (by decide)) (.name (by decide)))) ?_
  exact .unary (.call (.call (.name (by decide)) hargs) (List.forall_mem_nil _))

theorem expressible_quoting : quoting.Expressible := by
  refine .typed (.named (by decide)) (fun name hname => ?_) (.mk (List.forall_mem_singleton.mpr ?_))
  · obtain rfl := Option.some.inj hname
    decide
  · exact .throw (.literal (.text (by decide)))

theorem expressible_deciding : deciding.Expressible := by
  have hint : IsWritable (.int (10 : Nat)) := .int (by decide)
  refine .mk (.assign (.assign (.name (by decide)) (.name (by decide)))
    (.assign (.name (by decide)) (.literal hint))) (.mk (List.forall_mem_singleton.mpr ?_)) ?_
  · refine .ret fun expr hexpr => ?_
    obtain rfl := Option.some.inj hexpr
    exact expressible_product
  · exact .chain (.mk (.name (by decide)) (.mk (List.forall_mem_nil _))
      (.block (.mk (List.forall_mem_singleton.mpr .empty))))

theorem expressible_searching : searching.Expressible := by
  have hint : (TypeExpr.named "int" false false false ()).Expressible := .named (by decide)
  have hbody : ∀ stmt ∈ [Stmt.guarded (.mk [.branch deciding] ())
      [quoting, .mk none none (.mk [.rethrow ()] ()) ()] ()], stmt.Expressible := by
    refine List.forall_mem_singleton.mpr (.guarded (.mk (List.forall_mem_singleton.mpr
      (.branch expressible_deciding))) (List.cons_ne_nil _ _) ?_)
    refine List.forall_mem_cons.mpr ⟨expressible_quoting, List.forall_mem_singleton.mpr (.all ?_)⟩
    exact .mk (List.forall_mem_singleton.mpr .rethrow)
  refine ⟨List.forall_mem_singleton.mpr (by decide), List.forall_mem_singleton.mpr ⟨by decide, ?_⟩,
    List.forall_mem_singleton.mpr ⟨by decide, ?_, hint, ⟨by decide, nofun, rfl⟩, ?_⟩⟩
  · refine .function (List.forall_mem_cons.mpr ⟨.named (by decide),
      List.forall_mem_singleton.mpr (.function (List.forall_mem_nil _) ⟨nofun, nofun, rfl⟩)⟩) ?_
    exact ⟨by decide, fun _ => rfl, rfl⟩
  · refine List.forall_mem_cons.mpr ⟨⟨.named (by decide), by decide⟩,
      List.forall_mem_singleton.mpr ⟨hint, nofun⟩⟩
  · intro body hmem
    obtain rfl := Option.some.inj hmem
    refine .mk (List.forall_mem_cons.mpr ⟨.decl ⟨hint, by decide, nofun⟩,
      List.forall_mem_singleton.mpr (.for (.decl ⟨hint, by decide, ?_⟩) nofun ?_ (.mk hbody))⟩)
    · intro value hvalue
      obtain rfl := Option.some.inj hvalue
      exact .name (by decide)
    · intro step hstep
      obtain rfl := Option.some.inj hstep
      exact .call (.name (by decide)) (List.forall_mem_nil _)

theorem round_trip_searching : searching.Expressible ∧
    (searching.items.flatMap Item.shapes).map (fun shape => String.ofList shape.2) =
      ["exception", "Lost", ";", "using", "Probe", "=", "fn", "(", "volatile", "int", ",", "fn",
        "(", ")", "noexcept", ")", "throws", "(", "Lost", ",", "...", ")", ";", "int", "seek", "(",
        "Probe", "&", "f", ",", "int", ")", "throws", "(", ")", "\x7b", "int", "b", ";", "for",
        "(", "int", "a", "=", "b", ";", ";", "f", "(", ")", ")", "\x7b", "try", "\x7b", "if",
        "(", "(", "a", "=", "b", ")", "=", "b", "=", "10", ")", "\x7b", "return", "(", "a", "-",
        "(", "b", "-", "c", ")", ")", "*", "-", "f", "(", "a", ",", "true", ")", "(", ")", ";",
        "\x7d", "else", "if", "(", "b", ")", "\x7b", "\x7d", "else", "\x7b", ";", "\x7d",
        "\x7d", "catch", "(", "const", "Lost", "&", "lost", ")", "\x7b", "throw",
        "\"\\\"\\\\\\U0000000aa\"", ";", "\x7d", "catch", "(", "...", ")", "\x7b", "throw", ";",
        "\x7d", "\x7d", "\x7d"] ∧
    ∃ located, read none searching.print = .ok located ∧ located.unlocated = searching :=
  ⟨expressible_searching, rfl, reading_undoes_printing expressible_searching⟩

end Throws.Surface
