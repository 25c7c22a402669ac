import Mathlib.Data.List.Infix
import Throws.Basic
import Throws.Proofs.SetAlgebra
import Throws.Resolution.Types

/-!
# Types are told apart by their text

Functions are identified by the texts of their types, so two types must not have the same text. This
is not obvious: a function type puts commas, parentheses and words such as `noexcept` into the text,
and a type may be named `const` or `throws`.

* `Ty.Spelled.readable`: a type in front of a comma, a closing parenthesis or the end of the text
  can be read off from the left, and so can what follows it.
* `Ty.render_inj`: types with the same text are equal.
* `Ty.Spelled.closed`: in the text of a type parentheses are balanced. So the parameters in the text
  of a signature can be found from the right.
* `FunctionKey.symbol_ofTypes_inj`: functions with the same signature have the same identity.
-/

namespace Throws

open Throws.Surface

/-- The name is an identifier: letters, digits and underscores, no digit in front. -/
def IsIdentifier (name : String) : Prop :=
  ∃ first rest, name.toList = first :: rest ∧ isWordStart first = true ∧
    ∀ c ∈ rest, isWordPart c = true

namespace Text

/-- Only letters, digits and underscores, and at least one of them. -/
def IsWord (cs : List Char) : Prop := cs ≠ [] ∧ ∀ c ∈ cs, isWordPart c = true

/-- A letter or an underscore may stand anywhere in a word. -/
theorem isWordPart_of_isWordStart {c : Char} (h : isWordStart c = true) : isWordPart c = true := by
  simp only [isWordStart, isWordPart, Char.isAlphanum, Bool.or_eq_true] at h ⊢
  tauto

theorem IsWord.of_all {cs : List Char} (hne : cs ≠ []) (hall : cs.all isWordPart = true) :
    IsWord cs :=
  ⟨hne, List.all_eq_true.mp hall⟩

theorem IsWord.of_isIdentifier {name : String} (h : IsIdentifier name) : IsWord name.toList := by
  obtain ⟨first, rest, hname, hfirst, hrest⟩ := h
  rw [hname]
  refine ⟨List.cons_ne_nil _ _, fun c hc => ?_⟩
  rcases List.mem_cons.mp hc with rfl | hc
  · exact isWordPart_of_isWordStart hfirst
  · exact hrest c hc

/-- The text begins with none of the characters that satisfy `p`. -/
def NotAhead (p : Char → Bool) (cs : List Char) : Prop := ∀ c ∈ cs.head?, p c = false

theorem NotAhead.cons {p : Char → Bool} {c : Char} (h : p c = false) (cs : List Char) :
    NotAhead p (c :: cs) := by
  rintro d ⟨⟩
  exact h

/-- A word can be read off where no word goes on. -/
theorem word_append_inj {word word' rest rest' : List Char} (hword : IsWord word)
    (hword' : IsWord word') (hrest : NotAhead isWordPart rest) (hrest' : NotAhead isWordPart rest')
    (h : word ++ rest = word' ++ rest') : word = word' ∧ rest = rest' := by
  have htake : ∀ {word rest : List Char}, IsWord word → NotAhead isWordPart rest →
      (word ++ rest).takeWhile isWordPart = word := by
    intro word rest hword hrest
    rw [List.takeWhile_append_of_pos hword.2]
    cases rest with
    | nil => simp
    | cons c rest => simp [hrest c rfl]
  have heq : word = word' := by rw [← htake hword hrest, h, htake hword' hrest']
  subst heq
  exact ⟨rfl, List.append_cancel_left h⟩

/-- Words with a blank between any two of them. -/
def spaced : List (List Char) → List Char
  | [] => []
  | [word] => word
  | word :: next :: rest => word ++ ' ' :: spaced (next :: rest)

/-- Whether the character may go on with a row of words. -/
def isSpacedPart (c : Char) : Bool := isWordPart c || c == ' '

theorem NotAhead.of_isSpacedPart {cs : List Char} (h : NotAhead isSpacedPart cs) :
    NotAhead isWordPart cs ∧ ∀ rest, cs ≠ ' ' :: rest := by
  refine ⟨fun c hc => (Bool.or_eq_false_iff.mp (h c hc)).1, ?_⟩
  rintro rest rfl
  exact absurd (h ' ' rfl) (by decide)

/-- A row of words can be read off where it does not go on. -/
theorem spaced_append_inj {words words' : List (List Char)} {rest rest' : List Char}
    (hwords : ∀ word ∈ words, IsWord word) (hwords' : ∀ word ∈ words', IsWord word)
    (hne : words ≠ []) (hne' : words' ≠ []) (hrest : NotAhead isSpacedPart rest)
    (hrest' : NotAhead isSpacedPart rest') (h : spaced words ++ rest = spaced words' ++ rest') :
    words = words' ∧ rest = rest' := by
  have hblank : ∀ cs, NotAhead isWordPart (' ' :: cs) := .cons (by decide)
  obtain ⟨hstop, hgap⟩ := hrest.of_isSpacedPart
  obtain ⟨hstop', hgap'⟩ := hrest'.of_isSpacedPart
  induction words generalizing words' with
  | nil => exact absurd rfl hne
  | cons word more ih =>
    cases words' with
    | nil => exact absurd rfl hne'
    | cons word' more' =>
      obtain ⟨hword, hmore⟩ := List.forall_mem_cons.mp hwords
      obtain ⟨hword', hmore'⟩ := List.forall_mem_cons.mp hwords'
      -- What follows the first word tells whether it is the last one.
      cases more with
      | nil =>
        cases more' with
        | nil =>
          obtain ⟨rfl, rfl⟩ := word_append_inj hword hword' hstop hstop' h
          exact ⟨rfl, rfl⟩
        | cons next' more' =>
          rw [spaced, spaced, List.append_assoc] at h
          obtain ⟨_, heq⟩ := word_append_inj hword hword' hstop (hblank _) h
          exact absurd heq (hgap _)
      | cons next more =>
        cases more' with
        | nil =>
          rw [spaced, spaced, List.append_assoc] at h
          obtain ⟨_, heq⟩ := word_append_inj hword hword' (hblank _) hstop' h
          exact absurd heq.symm (hgap' _)
        | cons next' more' =>
          rw [spaced, spaced, List.append_assoc, List.append_assoc] at h
          obtain ⟨rfl, heq⟩ := word_append_inj hword hword' (hblank _) (hblank _) h
          obtain ⟨hmore, rfl⟩ := ih hmore hmore' (List.cons_ne_nil _ _) (List.cons_ne_nil _ _)
            (List.cons.inj heq).2
          exact ⟨congrArg (word :: ·) hmore, rfl⟩

/-- The text is at its end, or a list goes on or is closed there. -/
def AtDelimiter (cs : List Char) : Prop := ∀ c ∈ cs.head?, c = ',' ∨ c = ')'

theorem AtDelimiter.notAhead {p : Char → Bool} {cs : List Char} (h : AtDelimiter cs)
    (hcomma : p ',' = false) (hclose : p ')' = false) : NotAhead p cs := by
  intro c hc
  rcases h c hc with rfl | rfl
  · exact hcomma
  · exact hclose

/-- No other character is a delimiter. -/
theorem AtDelimiter.ne_cons {cs more : List Char} {c : Char} (h : AtDelimiter cs) (hcomma : c ≠ ',')
    (hclose : c ≠ ')') : cs ≠ c :: more := by
  rintro rfl
  exact (h c rfl).elim hcomma hclose

/-- The texts of several things with commas between them, up to a closing parenthesis. -/
def listed (texts : List (List Char)) : List Char := [',', ' '].intercalate texts ++ [')']

theorem toList_listed (texts : List String) :
    (", ".intercalate texts ++ ")").toList = listed (texts.map String.toList) := by
  have hseparator : ", ".toList = [',', ' '] := rfl
  have hclose : ")".toList = [')'] := rfl
  rw [String.toList_append, String.toList_intercalate, hseparator, hclose, listed]

theorem listed_nil : listed [] = [')'] := rfl

/-- Behind the first entry of a list it is closed or it goes on. -/
theorem listed_cons (text : List Char) (texts : List (List Char)) :
    listed (text :: texts) = text ++ if texts = [] then [')'] else ',' :: ' ' :: listed texts := by
  cases texts with
  | nil => simp [listed, List.intercalate]
  | cons next rest => simp [listed, List.intercalate]

theorem AtDelimiter.listed_tail (texts : List (List Char)) (rest : List Char) :
    AtDelimiter ((if texts = [] then [')'] else ',' :: ' ' :: listed texts) ++ rest) := by
  intro c hc
  cases texts with
  | nil => exact .inr (by simpa using hc.symm)
  | cons next more => exact .inl (by simpa using hc.symm)

/-- Something with a text can be read off in front of a delimiter. -/
def Readable {α : Type} (text : α → List Char) (good : α → Prop) (a : α) : Prop :=
  ∀ b rest rest', good b → AtDelimiter rest → AtDelimiter rest' →
    text a ++ rest = text b ++ rest' → a = b ∧ rest = rest'

/-- A list of things that can be read off can be read off itself. -/
theorem listed_append_inj {α : Type} {text : α → List Char} {good : α → Prop}
    (hopen : ∀ a rest, good a → (text a ++ rest).head? ≠ some ')') {items items' : List α}
    {rest rest' : List Char} (hread : ∀ a ∈ items, Readable text good a)
    (hitems : ∀ a ∈ items, good a) (hitems' : ∀ a ∈ items', good a)
    (h : listed (items.map text) ++ rest = listed (items'.map text) ++ rest') :
    items = items' ∧ rest = rest' := by
  induction items generalizing items' with
  | nil =>
    cases items' with
    | nil => exact ⟨rfl, List.append_cancel_left h⟩
    | cons b items' =>
      rw [List.map_nil, listed_nil, List.map_cons, listed_cons, List.append_assoc] at h
      exact absurd (congrArg List.head? h).symm (hopen b _ (hitems' b List.mem_cons_self))
  | cons a items ih =>
    cases items' with
    | nil =>
      rw [List.map_nil, listed_nil, List.map_cons, listed_cons, List.append_assoc] at h
      exact absurd (congrArg List.head? h) (hopen a _ (hitems a List.mem_cons_self))
    | cons b items' =>
      obtain ⟨hfirst, hothers⟩ := List.forall_mem_cons.mp hread
      obtain ⟨_, hgood⟩ := List.forall_mem_cons.mp hitems
      obtain ⟨hb, hgood'⟩ := List.forall_mem_cons.mp hitems'
      rw [List.map_cons, List.map_cons, listed_cons, listed_cons, List.append_assoc,
        List.append_assoc] at h
      obtain ⟨rfl, heq⟩ := hfirst b _ _ hb (.listed_tail _ _) (.listed_tail _ _) h
      cases items with
      | nil =>
        cases items' with
        | nil => exact ⟨rfl, by simpa using heq⟩
        | cons _ _ => simp at heq
      | cons next more =>
        cases items' with
        | nil => simp at heq
        | cons next' more' =>
          obtain ⟨hmore, rfl⟩ := ih hothers hgood hgood' (by simpa using heq)
          exact ⟨congrArg (a :: ·) hmore, rfl⟩

end Text

open Throws.Text

/-! ## Value types -/

namespace ValueType

/-- The words in the text of a type. -/
def words (type : ValueType) : List (List Char) :=
  (if type.isConst then ["const".toList] else [])
    ++ (if type.isVolatile then ["volatile".toList] else []) ++ [type.name.toList]

theorem toList_render (type : ValueType) :
    type.render.toList = spaced type.words ++ if type.isRef then ['&'] else [] := by
  obtain ⟨name, isConst, isVolatile, isRef⟩ := type
  have hconst : "const ".toList = "const".toList ++ [' '] := rfl
  have hvolatile : "volatile ".toList = "volatile".toList ++ [' '] := rfl
  have href : (if isRef then "&" else "").toList = if isRef then ['&'] else [] := by
    cases isRef <;> rfl
  simp only [render, words, String.toList_append, href]
  cases isConst <;> cases isVolatile <;> simp [hconst, hvolatile, spaced]

theorem words_ne_nil (type : ValueType) : type.words ≠ [] :=
  List.append_ne_nil_of_right_ne_nil _ (List.cons_ne_nil _ _)

theorem isWord_of_mem_words {type : ValueType} (h : IsIdentifier type.name) {word : List Char}
    (hword : word ∈ type.words) : IsWord word := by
  have hconst : IsWord "const".toList := .of_all (by decide) (by decide)
  have hvolatile : IsWord "volatile".toList := .of_all (by decide) (by decide)
  have hname := IsWord.of_isIdentifier h
  simp only [words, List.mem_append, List.mem_ite_nil_right, List.mem_singleton] at hword
  rcases hword with (⟨_, rfl⟩ | ⟨_, rfl⟩) | rfl
  · exact hconst
  · exact hvolatile
  · exact hname

/-- The words of a type tell its name and its qualifiers, even if the name is the word of a
qualifier. -/
theorem eq_of_words_eq {type type' : ValueType} (hwords : type.words = type'.words)
    (href : type.isRef = type'.isRef) : type = type' := by
  obtain ⟨name, isConst, isVolatile, isRef⟩ := type
  obtain ⟨name', isConst', isVolatile', isRef'⟩ := type'
  obtain rfl : isRef = isRef' := href
  cases isConst <;> cases isConst' <;> cases isVolatile <;> cases isVolatile' <;>
    simp_all [words, String.toList_inj]

end ValueType

/-- Behind the words of a value type comes `&` or what follows the type. -/
theorem Text.NotAhead.reference {isRef : Bool} {rest : List Char} (hrest : AtDelimiter rest) :
    NotAhead isSpacedPart ((if isRef then ['&'] else []) ++ rest) := by
  cases isRef with
  | true => exact .cons (by decide) _
  | false => exact hrest.notAhead (by decide) (by decide)

/-- A value type can be read off. -/
theorem ValueType.render_append_inj {type type' : ValueType} {rest rest' : List Char}
    (h : IsIdentifier type.name) (h' : IsIdentifier type'.name) (hrest : AtDelimiter rest)
    (hrest' : AtDelimiter rest')
    (heq : type.render.toList ++ rest = type'.render.toList ++ rest') :
    type = type' ∧ rest = rest' := by
  rw [toList_render, toList_render, List.append_assoc, List.append_assoc] at heq
  obtain ⟨hwords, htail⟩ := spaced_append_inj (fun _ => isWord_of_mem_words h)
    (fun _ => isWord_of_mem_words h') type.words_ne_nil type'.words_ne_nil (.reference hrest)
    (.reference hrest') heq
  -- A delimiter is not `&`, so the reference shows.
  have href : type.isRef = type'.isRef ∧ rest = rest' := by
    cases hr : type.isRef <;> cases hr' : type'.isRef <;> simp only [hr, hr'] at htail
    · exact ⟨rfl, htail⟩
    · exact absurd htail (hrest.ne_cons (by decide) (by decide))
    · exact absurd htail.symm (hrest'.ne_cons (by decide) (by decide))
    · exact ⟨rfl, by simpa using htail⟩
  exact ⟨eq_of_words_eq hwords href.1, href.2⟩

/-! ## Contracts -/

/-- The exceptions that the contract names have identifiers as names. -/
def Contract.Spelled (contract : Contract) : Prop :=
  ∀ name ∈ contract.effective.names, IsIdentifier name

/-- An identifier in front of a delimiter can be read off. -/
theorem IsIdentifier.readable {name : String} (h : IsIdentifier name) :
    Readable String.toList IsIdentifier name := by
  have hstop : ∀ {cs : List Char}, AtDelimiter cs → NotAhead isWordPart cs := fun hcs =>
    hcs.notAhead (by decide) (by decide)
  intro other rest rest' hother hrest hrest' heq
  obtain ⟨hname, rfl⟩ := word_append_inj (.of_isIdentifier h) (.of_isIdentifier hother)
    (hstop hrest) (hstop hrest') heq
  exact ⟨String.toList_inj.mp hname, rfl⟩

/-- A word in front does not begin with a character that cannot stand in a word. -/
theorem Text.IsWord.head?_ne {word rest : List Char} {c : Char} (h : IsWord word)
    (hc : isWordPart c = false) : (word ++ rest).head? ≠ some c := by
  cases word with
  | nil => exact absurd rfl h.1
  | cons first more =>
    intro heq
    obtain rfl : first = c := by simpa using heq
    exact absurd (h.2 first List.mem_cons_self) (by simp [hc])

namespace ExceptionSet

/-- What is written of a set behind `throws(`. -/
def thrownText : ExceptionSet → List Char
  | .universal => ['.', '.', '.', ')']
  | .finite names => listed (names.toList.map String.toList)

theorem toList_render (allowed : ExceptionSet) :
    allowed.render.toList = "throws".toList ++ '(' :: allowed.thrownText := by
  cases allowed with
  | universal => rfl
  | finite names =>
    have hthrows : "throws(".toList = "throws".toList ++ ['('] := rfl
    rw [render, thrownText, String.append_assoc, String.toList_append, toList_listed, hthrows,
      List.append_assoc, List.singleton_append]

/-- Dots do not begin a list of names. -/
theorem thrownText_universal_ne {names : NameSet} {rest rest' : List Char}
    (h : ∀ name ∈ names.toList, IsIdentifier name) :
    thrownText .universal ++ rest ≠ thrownText (.finite names) ++ rest' := by
  intro heq
  have hdot : (thrownText (.finite names) ++ rest').head? = some '.' := by
    rw [← heq]
    rfl
  rw [thrownText] at hdot
  cases hnames : names.toList with
  | nil =>
    rw [hnames] at hdot
    exact absurd (Option.some.inj hdot) (by decide)
  | cons first more =>
    rw [hnames, List.map_cons, listed_cons, List.append_assoc] at hdot
    have hfirst : IsIdentifier first := h first (hnames ▸ List.mem_cons_self)
    exact (IsWord.of_isIdentifier hfirst).head?_ne (by decide) hdot

/-- What is written behind `throws(` can be read off. -/
theorem thrownText_append_inj {allowed allowed' : ExceptionSet} {rest rest' : List Char}
    (h : ∀ name ∈ allowed.names, IsIdentifier name)
    (h' : ∀ name ∈ allowed'.names, IsIdentifier name)
    (heq : allowed.thrownText ++ rest = allowed'.thrownText ++ rest') :
    allowed = allowed' ∧ rest = rest' := by
  cases allowed with
  | universal =>
    cases allowed' with
    | universal => exact ⟨rfl, List.append_cancel_left heq⟩
    | finite names' => exact absurd heq (thrownText_universal_ne h')
  | finite names =>
    cases allowed' with
    | universal => exact absurd heq.symm (thrownText_universal_ne h)
    | finite names' =>
      obtain ⟨hnames, rfl⟩ : names.toList = names'.toList ∧ rest = rest' := listed_append_inj
        (fun name rest hname => (IsWord.of_isIdentifier hname).head?_ne (by decide))
        (fun name hname => (h name hname).readable) h h' heq
      refine ⟨congrArg finite (NameSet.ext fun name => ?_), rfl⟩
      rw [← NameSet.mem_toList, hnames, NameSet.mem_toList]

/-- What is written of a set behind the parameters of a function type: a word, and for all sets but
the empty one the exceptions. -/
theorem toList_contract (allowed : ExceptionSet) :
    (Resolution.Ty.renderContract (.declared allowed)).toList =
      ' ' :: ((if allowed.isEmpty then "noexcept".toList else "throws".toList) ++
        if allowed.isEmpty then [] else '(' :: allowed.thrownText) := by
  have hblank : " ".toList = [' '] := rfl
  rw [Resolution.Ty.renderContract, String.toList_append, hblank]
  cases hempty : allowed.isEmpty with
  | true => simp only [if_true, List.append_nil, List.cons_append, List.nil_append]
  | false =>
    simp only [Bool.false_eq_true, if_false, toList_render, List.cons_append, List.nil_append]

end ExceptionSet

open Resolution.Ty in
/-- A contract behind the parameters of a function type can be read off. -/
theorem Contract.readable {contract : Contract} (h : contract.Spelled) :
    Readable (fun contract => (renderContract contract).toList) Spelled contract := by
  -- Behind the word comes a parenthesis or what follows the contract.
  have hstop : ∀ {allowed : ExceptionSet} {rest : List Char}, AtDelimiter rest →
      NotAhead isWordPart
        ((if allowed.isEmpty then [] else '(' :: allowed.thrownText) ++ rest) := by
    intro allowed rest hrest
    cases allowed.isEmpty with
    | true => exact hrest.notAhead (by decide) (by decide)
    | false => exact .cons (by decide) _
  have hword : ∀ isEmpty : Bool,
      IsWord (if isEmpty then "noexcept".toList else "throws".toList) := by
    intro isEmpty
    cases isEmpty <;> exact .of_all (by decide) (by decide)
  have hblank : ∀ {rest : List Char} {allowed : ExceptionSet} {rest' : List Char},
      AtDelimiter rest → rest ≠ (renderContract (.declared allowed)).toList ++ rest' := by
    intro rest allowed rest' hrest
    rw [ExceptionSet.toList_contract]
    exact hrest.ne_cons (by decide) (by decide)
  intro contract' rest rest' h' hrest hrest' heq
  cases contract with
  | undeclared =>
    cases contract' with
    | undeclared => exact ⟨rfl, heq⟩
    | declared allowed' => exact absurd heq (hblank hrest)
  | declared allowed =>
    cases contract' with
    | undeclared => exact absurd heq.symm (hblank hrest')
    | declared allowed' =>
      simp only [ExceptionSet.toList_contract, List.cons_append, List.append_assoc] at heq
      obtain ⟨hwords, htail⟩ := word_append_inj (hword _) (hword _) (hstop hrest) (hstop hrest')
        (List.cons.inj heq).2
      -- The word tells whether the set is empty.
      cases hempty : allowed.isEmpty <;> cases hempty' : allowed'.isEmpty <;>
        rw [hempty, hempty'] at hwords htail
      · obtain ⟨rfl, rfl⟩ := ExceptionSet.thrownText_append_inj h h' (List.cons.inj htail).2
        exact ⟨rfl, rfl⟩
      · exact absurd hwords (by decide)
      · exact absurd hwords (by decide)
      · rw [ExceptionSet.isEmpty_iff.mp hempty, ExceptionSet.isEmpty_iff.mp hempty']
        exact ⟨rfl, htail⟩

/-! ## Types -/

namespace Resolution

namespace Ty

/-- All names in the type are identifiers. -/
inductive Spelled : Ty → Prop
  | value {type : ValueType} : IsIdentifier type.name → Spelled (.value type)
  | function {params : List Ty} {contract : Contract} :
      (∀ param ∈ params, Spelled param) → contract.Spelled → Spelled (.function params contract)

/-- The characters in the text of a type. -/
def text (type : Ty) : List Char := type.render.toList

theorem renderAll_eq_map (types : List Ty) : renderAll types = types.map render := by
  induction types with
  | nil => rw [renderAll, List.map_nil]
  | cons type rest ih => rw [renderAll, List.map_cons, ih]

theorem text_value (type : ValueType) : (Ty.value type).text = type.render.toList := by
  rw [text, render]

theorem text_function (params : List Ty) (contract : Contract) :
    (Ty.function params contract).text =
      "fn".toList ++ '(' :: (listed (params.map text) ++ (renderContract contract).toList) := by
  have hopen : "fn(".toList = "fn".toList ++ ['('] := rfl
  have htexts : (params.map render).map String.toList = params.map text := List.map_map ..
  rw [text, render, renderAll_eq_map, String.toList_append, String.append_assoc,
    String.toList_append, toList_listed, htexts, hopen]
  simp only [List.append_assoc, List.cons_append, List.nil_append]

/-- A type begins with a word. -/
theorem Spelled.head?_ne {type : Ty} (h : type.Spelled) (rest : List Char) {c : Char}
    (hc : isWordPart c = false) : (type.text ++ rest).head? ≠ some c := by
  cases h with
  | function _ _ =>
    rw [text_function, List.append_assoc]
    exact IsWord.head?_ne (.of_all (by decide) (by decide)) hc
  | value hname =>
    rename_i type
    rw [text_value, ValueType.toList_render, List.append_assoc]
    obtain ⟨word, more, hwords⟩ := List.exists_cons_of_ne_nil type.words_ne_nil
    have hword : IsWord word :=
      ValueType.isWord_of_mem_words hname (hwords ▸ List.mem_cons_self)
    rw [hwords]
    cases more with
    | nil => exact hword.head?_ne hc
    | cons next more =>
      rw [spaced, List.append_assoc]
      exact hword.head?_ne hc

/-- A function type does not read like a value type, even if that is named `fn`: no parenthesis
follows a value type. -/
theorem text_function_append_ne {params : List Ty} {contract : Contract} {type : ValueType}
    {rest rest' : List Char} (hname : IsIdentifier type.name) (hrest' : AtDelimiter rest') :
    (Ty.function params contract).text ++ rest ≠ (Ty.value type).text ++ rest' := by
  intro heq
  rw [text_function, text_value, ValueType.toList_render, List.append_assoc, List.append_assoc]
    at heq
  have hfn : ∀ word ∈ ["fn".toList], IsWord word := by
    intro word hword
    obtain rfl := List.mem_singleton.mp hword
    exact .of_all (by decide) (by decide)
  have hopen : ∀ cs, NotAhead isSpacedPart ('(' :: cs) := .cons (by decide)
  obtain ⟨_, htail⟩ := spaced_append_inj hfn
    (fun _ => ValueType.isWord_of_mem_words hname) (List.cons_ne_nil _ _) type.words_ne_nil
    (hopen _) (.reference hrest') heq
  cases href : type.isRef with
  | true =>
    rw [href] at htail
    exact absurd (List.cons.inj htail).1 (by decide)
  | false =>
    rw [href] at htail
    exact absurd htail.symm (hrest'.ne_cons (by decide) (by decide))

/-- A type can be read off in front of a delimiter. -/
theorem Spelled.readable {type : Ty} (h : type.Spelled) : Readable text Spelled type := by
  induction h with
  | value hname =>
    intro other rest rest' hother hrest hrest' heq
    cases hother with
    | function _ _ => exact absurd heq.symm (text_function_append_ne hname hrest)
    | value hname' =>
      rw [text_value, text_value] at heq
      obtain ⟨rfl, rfl⟩ := ValueType.render_append_inj hname hname' hrest hrest' heq
      exact ⟨rfl, rfl⟩
  | function hparams hcontract ih =>
    intro other rest rest' hother hrest hrest' heq
    cases hother with
    | value hname' => exact absurd heq (text_function_append_ne hname' hrest')
    | function hparams' hcontract' =>
      simp only [text_function, List.append_assoc, List.cons_append] at heq
      obtain ⟨rfl, htail⟩ := listed_append_inj (fun _ rest h => h.head?_ne rest (by decide)) ih
        hparams hparams' (List.cons.inj (List.append_cancel_left heq)).2
      obtain ⟨rfl, rfl⟩ := Contract.readable hcontract _ _ _ hcontract' hrest hrest' htail
      exact ⟨rfl, rfl⟩

/-- Types with the same text are the same. -/
theorem render_inj {type type' : Ty} (h : type.Spelled) (h' : type'.Spelled)
    (heq : type.render = type'.render) : type = type' := by
  have hend : AtDelimiter [] := fun c hc => absurd hc (by simp)
  refine (h.readable type' [] [] h' hend hend ?_).1
  rw [List.append_nil, List.append_nil, text, text, heq]

/-- Lists of types with the same texts are the same. -/
theorem renderAll_inj {types types' : List Ty} (h : ∀ type ∈ types, type.Spelled)
    (h' : ∀ type ∈ types', type.Spelled) (heq : renderAll types = renderAll types') :
    types = types' := by
  rw [renderAll_eq_map, renderAll_eq_map] at heq
  induction types generalizing types' with
  | nil => exact (List.map_eq_nil_iff.mp heq.symm).symm
  | cons type rest ih =>
    cases types' with
    | nil => exact absurd heq (by simp)
    | cons type' rest' =>
      obtain ⟨hfirst, hrest⟩ := List.cons.inj heq
      obtain ⟨htype, hmore⟩ := List.forall_mem_cons.mp h
      obtain ⟨htype', hmore'⟩ := List.forall_mem_cons.mp h'
      rw [render_inj htype htype' hfirst, ih hmore hmore' hrest]

end Ty

end Resolution

/-! ## Signatures -/

namespace Text

/-- Parentheses are balanced: each of them is closed, and none is closed that was not opened. -/
def Closed (cs : List Char) : Prop :=
  cs.count '(' = cs.count ')' ∧ ∀ rest, rest <:+ cs → rest.count '(' ≤ rest.count ')'

namespace Closed

variable {cs ds us us' : List Char}

theorem of_no_parens (hopen : '(' ∉ cs) (hclose : ')' ∉ cs) : Closed cs := by
  refine ⟨by rw [List.count_eq_zero.mpr hopen, List.count_eq_zero.mpr hclose], ?_⟩
  intro rest hrest
  rw [List.count_eq_zero.mpr fun h => hopen (hrest.subset h)]
  exact Nat.zero_le _

theorem append (hcs : Closed cs) (hds : Closed ds) : Closed (cs ++ ds) := by
  refine ⟨by rw [List.count_append, List.count_append, hcs.1, hds.1], ?_⟩
  rintro rest ⟨front, heq⟩
  rcases List.append_eq_append_iff.mp heq with ⟨back, hback, rfl⟩ | ⟨middle, _, hmiddle⟩
  · have hle := hcs.2 back ⟨front, hback.symm⟩
    have hcount := hds.1
    rw [List.count_append, List.count_append]
    omega
  · exact hds.2 rest ⟨middle, hmiddle.symm⟩

theorem parens (hcs : Closed cs) : Closed ('(' :: cs ++ [')']) := by
  refine ⟨by simp [hcs.1], ?_⟩
  rintro rest ⟨front, heq⟩
  cases front with
  | nil =>
    subst heq
    simp [hcs.1]
  | cons _ front =>
    -- A proper suffix lacks the parenthesis in front.
    obtain ⟨_, heq⟩ := List.cons.inj heq
    rcases List.append_eq_append_iff.mp heq with ⟨back, hback, rfl⟩ | ⟨middle, _, hmiddle⟩
    · have hle := hcs.2 back ⟨front, hback.symm⟩
      have hopen : [')'].count '(' = 0 := by decide
      rw [List.count_append, List.count_append]
      omega
    · have hopen : '(' ∉ rest := by
        intro hmem
        have hin : '(' ∈ [')'] := hmiddle ▸ List.mem_append_right middle hmem
        exact absurd hin (by decide)
      rw [List.count_eq_zero.mpr hopen]
      exact Nat.zero_le _

theorem intercalate {texts : List (List Char)} (h : ∀ text ∈ texts, Closed text) :
    Closed ([',', ' '].intercalate texts) := by
  induction texts with
  | nil => exact of_no_parens (by decide) (by decide)
  | cons text more ih =>
    obtain ⟨htext, hmore⟩ := List.forall_mem_cons.mp h
    cases more with
    | nil => simpa [List.intercalate] using htext
    | cons next more =>
      have hcomma : Closed [',', ' '] := of_no_parens (by decide) (by decide)
      simpa [List.intercalate] using htext.append (hcomma.append (ih hmore))

/-- If what follows one parenthesis is closed, the next one to the left is not the same. -/
theorem length_le_of_append_eq (hcs : Closed cs) (hds : Closed ds)
    (heq : us ++ '(' :: cs = us' ++ '(' :: ds) : us'.length ≤ us.length := by
  rcases List.append_eq_append_iff.mp heq with ⟨middle, rfl, hmiddle⟩ | ⟨middle, rfl, _⟩
  · cases middle with
    | nil => simp
    | cons c middle =>
      obtain ⟨_, rfl⟩ := List.cons.inj hmiddle
      have hle := hcs.2 ('(' :: ds) ⟨middle, rfl⟩
      have hcount := hds.1
      rw [List.count_cons_self, List.count_cons_of_ne (by decide)] at hle
      omega
  · simp

/-- The last parenthesis that is not closed can be found from the right. -/
theorem append_inj (hcs : Closed cs) (hds : Closed ds)
    (heq : us ++ '(' :: cs = us' ++ '(' :: ds) : us = us' ∧ cs = ds := by
  have hlength : us.length = us'.length :=
    Nat.le_antisymm (length_le_of_append_eq hds hcs heq.symm) (length_le_of_append_eq hcs hds heq)
  obtain ⟨rfl, htail⟩ := List.append_inj heq hlength
  exact ⟨rfl, (List.cons.inj htail).2⟩

end Closed

/-- There are no parentheses in words. -/
theorem IsWord.closed {word : List Char} (h : IsWord word) : Closed word :=
  .of_no_parens (fun hmem => absurd (h.2 _ hmem) (by decide))
    (fun hmem => absurd (h.2 _ hmem) (by decide))

theorem closed_spaced {words : List (List Char)} (h : ∀ word ∈ words, IsWord word) :
    Closed (spaced words) := by
  induction words with
  | nil => exact .of_no_parens (by decide) (by decide)
  | cons word more ih =>
    obtain ⟨hword, hmore⟩ := List.forall_mem_cons.mp h
    cases more with
    | nil => exact hword.closed
    | cons next more =>
      have hblank : Closed [' '] := .of_no_parens (by decide) (by decide)
      exact hword.closed.append (hblank.append (ih hmore))

/-- A word behind a blank can be found from the right. -/
theorem append_word_inj {us us' word word' : List Char} (hword : IsWord word)
    (hword' : IsWord word') (heq : us ++ ' ' :: word = us' ++ ' ' :: word') :
    us = us' ∧ word = word' := by
  have hreverse : ∀ {word : List Char}, IsWord word → IsWord word.reverse := fun h =>
    ⟨fun hnil => h.1 (List.reverse_eq_nil_iff.mp hnil),
      fun c hc => h.2 c (List.mem_reverse.mp hc)⟩
  have hblank : ∀ cs, NotAhead isWordPart (' ' :: cs) := .cons (by decide)
  have heq' : word.reverse ++ ' ' :: us.reverse = word'.reverse ++ ' ' :: us'.reverse := by
    simpa using congrArg List.reverse heq
  obtain ⟨hwords, hfront⟩ := word_append_inj (hreverse hword) (hreverse hword') (hblank _)
    (hblank _) heq'
  exact ⟨List.reverse_inj.mp (List.cons.inj hfront).2, List.reverse_inj.mp hwords⟩

end Text

theorem ExceptionSet.closed_thrownText {allowed : ExceptionSet}
    (h : ∀ name ∈ allowed.names, IsIdentifier name) : Closed ('(' :: allowed.thrownText) := by
  cases allowed with
  | universal =>
    have hdots : Closed ['.', '.', '.'] := .of_no_parens (by decide) (by decide)
    exact hdots.parens
  | finite names =>
    refine (Closed.intercalate fun text htext => ?_).parens
    obtain ⟨name, hname, rfl⟩ := List.mem_map.mp htext
    exact (IsWord.of_isIdentifier (h name hname)).closed

theorem Contract.closed_render {contract : Contract} (h : contract.Spelled) :
    Closed (Resolution.Ty.renderContract contract).toList := by
  have hnil : Closed [] := .of_no_parens (by decide) (by decide)
  have hblank : Closed [' '] := .of_no_parens (by decide) (by decide)
  cases contract with
  | undeclared => exact hnil
  | declared allowed =>
    rw [ExceptionSet.toList_contract]
    refine hblank.append ?_
    cases allowed.isEmpty with
    | true => exact Closed.append (.of_no_parens (by decide) (by decide)) hnil
    | false =>
      exact Closed.append (.of_no_parens (by decide) (by decide))
        (ExceptionSet.closed_thrownText h)

/-- Parentheses are balanced in the text of a type. -/
theorem Resolution.Ty.Spelled.closed {type : Ty} (h : type.Spelled) : Closed type.text := by
  induction h with
  | @value type hname =>
    rw [text_value, ValueType.toList_render]
    refine (closed_spaced fun _ => ValueType.isWord_of_mem_words hname).append ?_
    cases type.isRef <;> exact .of_no_parens (by decide) (by decide)
  | @function params contract _ hcontract ih =>
    have hfn : Closed "fn".toList := .of_no_parens (by decide) (by decide)
    have hparams : Closed ('(' :: listed (params.map text)) := by
      refine (Closed.intercalate fun text htext => ?_).parens
      obtain ⟨param, hparam, rfl⟩ := List.mem_map.mp htext
      exact ih param hparam
    rw [text_function]
    exact hfn.append (hparams.append (Contract.closed_render hcontract))

namespace FunctionKey

open Resolution

/-- The identity of a function with the given types. -/
def ofTypes (name : String) (params : List Ty) (returnType : Ty) : FunctionKey :=
  { name := name, paramTypes := Ty.renderAll params, returnType := returnType.render }

variable {name name' : String} {params params' : List Ty} {returnType returnType' : Ty}

/-- The identity of a function tells its name and its types. -/
theorem ofTypes_inj (hparams : ∀ param ∈ params, param.Spelled)
    (hparams' : ∀ param ∈ params', param.Spelled) (hreturn : returnType.Spelled)
    (hreturn' : returnType'.Spelled)
    (heq : ofTypes name params returnType = ofTypes name' params' returnType') :
    name = name' ∧ params = params' ∧ returnType = returnType' := by
  obtain ⟨hname, htexts, htext⟩ := FunctionKey.mk.inj heq
  exact ⟨hname, Ty.renderAll_inj hparams hparams' htexts, Ty.render_inj hreturn hreturn' htext⟩

theorem toList_symbol_ofTypes (name : String) (params : List Ty) (returnType : Ty) :
    (ofTypes name params returnType).symbol.toList =
      (returnType.text ++ ' ' :: name.toList) ++ '(' :: listed (params.map Ty.text) := by
  have hblank : " ".toList = [' '] := rfl
  have hopen : "(".toList = ['('] := rfl
  have htexts : (params.map Ty.render).map String.toList = params.map Ty.text := List.map_map ..
  rw [symbol, ofTypes, Ty.renderAll_eq_map, String.append_assoc, String.toList_append,
    toList_listed, htexts]
  simp only [Ty.text, String.toList_append, hblank, hopen, List.append_assoc, List.cons_append,
    List.nil_append]

/-- The signature of a function tells its identity. -/
theorem symbol_ofTypes_inj (hname : IsIdentifier name) (hname' : IsIdentifier name')
    (hparams : ∀ param ∈ params, param.Spelled) (hparams' : ∀ param ∈ params', param.Spelled)
    (heq : (ofTypes name params returnType).symbol = (ofTypes name' params' returnType').symbol) :
    ofTypes name params returnType = ofTypes name' params' returnType' := by
  have hclosed : ∀ {params : List Ty}, (∀ param ∈ params, param.Spelled) →
      Closed ([',', ' '].intercalate (params.map Ty.text)) := by
    intro params hparams
    refine Closed.intercalate fun text htext => ?_
    obtain ⟨param, hparam, rfl⟩ := List.mem_map.mp htext
    exact (hparams param hparam).closed
  have htexts := congrArg String.toList heq
  rw [toList_symbol_ofTypes, toList_symbol_ofTypes, listed, listed, ← List.cons_append,
    ← List.cons_append, ← List.append_assoc, ← List.append_assoc] at htexts
  -- From the right: the parameters, the name, and what is left is the return type.
  obtain ⟨hfront, hlist⟩ := (hclosed hparams).append_inj (hclosed hparams')
    (List.append_cancel_right htexts)
  obtain ⟨hreturn, hnames⟩ := append_word_inj (.of_isIdentifier hname) (.of_isIdentifier hname')
    hfront
  have hlisted : listed (params.map Ty.text) ++ [] = listed (params'.map Ty.text) ++ [] := by
    rw [listed, hlist, listed]
  obtain ⟨rfl, _⟩ := listed_append_inj
    (fun _ rest h => Ty.Spelled.head?_ne h rest (by decide))
    (fun param hparam => (hparams param hparam).readable) hparams hparams' hlisted
  obtain rfl := String.toList_inj.mp hnames
  rw [ofTypes, ofTypes, String.toList_inj.mp hreturn]

end FunctionKey

end Throws
