import Mathlib.Data.List.TakeWhile
import Throws.Proofs.TypeText
import Throws.Surface.Lexer

/-!
# Finding tokens

A token is found at the beginning of what is left of a text behind blanks and comments. How far the
text has to be looked at for it: one character behind the token decides. So a token is found again
in another text if there it is followed by the same character, by a blank, or by nothing
(`scan_append_of_follows`), and also if it is followed by a character that cannot belong to it
(`Separates`).
-/

namespace Throws.Surface

/-! ## Blanks and comments -/

/-- What is left of a text behind the blanks and comments in front. -/
def skipped (cs : List Char) : List Char := (skip .plain {} cs).2

/-- What is skipped does not depend on where the text stands. -/
theorem snd_skip_eq (gap : Gap) (pos pos' : Pos) (cs : List Char) :
    (skip gap pos cs).2 = (skip gap pos' cs).2 := by
  fun_induction skip gap pos cs generalizing pos' with
  | case1 pos cs ih =>
    rw [skip]
    exact ih _
  | case2 pos cs hcloses ih =>
    rw [skip, if_pos hcloses]
    exact ih _
  | case3 pos cs hcloses => rw [skip, if_neg hcloses]
  | case4 pos c cs hline hblock hblank ih =>
    rw [skip, if_pos hblank]
    · exact ih _
    · exact hline
    · exact hblock
  | case5 pos c cs hline hblock hblank =>
    rw [skip, if_neg hblank]
    · exact hline
    · exact hblock
  | case6 pos c cs ih =>
    rw [skip]
    exact ih _
  | case7 pos cs ih =>
    rw [skip]
    exact ih _
  | case8 pos c cs hclose ih =>
    rw [skip]
    · exact ih _
    · exact hclose
  | case9 gap pos => cases gap <;> rfl

theorem snd_skip (pos : Pos) (cs : List Char) : (skip .plain pos cs).2 = skipped cs :=
  snd_skip_eq .plain pos {} cs

theorem skipped_blank {c : Char} (h : isBlank c = true) (cs : List Char) :
    skipped (c :: cs) = skipped cs := by
  have hslash : c ≠ '/' := by
    rintro rfl
    cases h
  rw [skipped, skip, if_pos h]
  · exact snd_skip _ cs
  · exact fun _ hc => absurd hc hslash
  · exact fun _ hc => absurd hc hslash

theorem skipped_append_of_blank {gap : List Char} (h : ∀ c ∈ gap, isBlank c = true)
    (cs : List Char) : skipped (gap ++ cs) = skipped cs := by
  induction gap with
  | nil => rfl
  | cons c gap ih =>
    obtain ⟨hblank, hgap⟩ := List.forall_mem_cons.mp h
    rw [List.cons_append, skipped_blank hblank, ih hgap]

/-- Nothing is skipped in front of a token. -/
theorem skipped_eq_self {c : Char} {cs : List Char} (hblank : isBlank c = false)
    (hline : c = '/' → cs.head? ≠ some '/') (hblock : c = '/' → cs.head? ≠ some '*') :
    skipped (c :: cs) = c :: cs := by
  rw [skipped, skip, if_neg (by simp [hblank])]
  · rintro rest rfl rfl
    exact hline rfl rfl
  · rintro rest rfl rfl
    exact hblock rfl rfl

/-! ## What the scanners look at -/

/-- What a word is where the given terminals are sought. -/
def wordTerminal (sought : List Terminal) (word : List Char) : Terminal :=
  ((Terminal.keywords.find? fun entry =>
    sought.contains entry.1 && entry.2.toList == word).map (·.1)).getD .name

theorem scanWord_cons (sought : List Terminal) (c : Char) (cs : List Char) :
    scanWord sought (c :: cs) =
      if sought.contains .name && isWordStart c then
        some (wordTerminal sought ((c :: cs).takeWhile isWordPart),
          (c :: cs).takeWhile isWordPart)
      else none := by
  simp only [scanWord, wordTerminal]
  split
  · split
    case h_1 hfind =>
      rw [hfind]
      rfl
    case h_2 hfind =>
      rw [hfind]
      rfl
  · rfl

/-- The signs and keywords that a text may begin with. -/
def spellings : List (Terminal × String) := Terminal.keywords ++ Terminal.punctuation

theorem mem_spellings_of_scanFixed {sought : List Terminal} {cs text : List Char}
    {terminal : Terminal} (h : scanFixed sought cs = some (terminal, text)) :
    ∃ entry ∈ spellings, entry.1 = terminal ∧ entry.2.toList = text ∧ terminal ∈ sought ∧
      text <+: cs := by
  obtain ⟨⟨terminal', spelling⟩, hfind, heq⟩ := Option.map_eq_some_iff.mp h
  obtain ⟨rfl, rfl⟩ := Prod.mk.inj heq
  have hfound := List.find?_some hfind
  simp only [Bool.and_eq_true, List.contains_iff_mem, List.isPrefixOf_iff_prefix] at hfound
  exact ⟨_, List.mem_of_find?_eq_some hfind, rfl, rfl, hfound⟩

/-- No spelling is empty, or goes on by more than one character where another one ends; none has a
blank in it. -/
theorem spellings_spec : ∀ entry ∈ spellings, entry.2.toList ≠ [] ∧
    (∀ c ∈ entry.2.toList, isBlank c = false ∧ c ≠ '"') ∧
    ∀ other ∈ spellings, entry.2.toList <+: other.2.toList →
      other.2.toList.length ≤ entry.2.toList.length + 1 := by
  -- The characters are checked by a function, so that only those of the spellings are looked at.
  have hspec : ∀ entry ∈ spellings, entry.2.toList ≠ [] ∧
      (entry.2.toList.all fun c => isBlank c = false ∧ c ≠ '"') = true ∧
      ∀ other ∈ spellings, entry.2.toList <+: other.2.toList →
        other.2.toList.length ≤ entry.2.toList.length + 1 := by
    decide +kernel
  intro entry hentry
  obtain ⟨hne, hchars, hother⟩ := hspec entry hentry
  exact ⟨hne, fun c hc => of_decide_eq_true (List.all_eq_true.mp hchars c hc), hother⟩

/-- What is in front of a text in quotes is found without a look behind it. -/
theorem stringTail_append {cs tail : List Char} (h : stringTail cs = some tail) :
    ∃ rest, cs = tail ++ rest ∧ tail ≠ [] ∧
      ∀ rest', stringTail (tail ++ rest') = some tail := by
  fun_induction stringTail cs generalizing tail with
  | case1 cs =>
    obtain rfl := Option.some.inj h
    exact ⟨cs, rfl, List.cons_ne_nil _ _, fun _ => rfl⟩
  | case2 cs => cases h
  | case3 c cs hline ih =>
    obtain ⟨inner, hinner, rfl⟩ := Option.map_eq_some_iff.mp h
    obtain ⟨rest, rfl, _, hrest⟩ := ih hinner
    refine ⟨rest, rfl, List.cons_ne_nil _ _, fun rest' => ?_⟩
    simp [stringTail, hline, hrest rest']
  | case4 cs hquote hescape => cases h
  | case5 c cs hquote hescape hline ih =>
    obtain ⟨inner, hinner, rfl⟩ := Option.map_eq_some_iff.mp h
    obtain ⟨rest, rfl, hne, hrest⟩ := ih hinner
    refine ⟨rest, rfl, List.cons_ne_nil _ _, fun rest' => ?_⟩
    obtain ⟨d, ds, rfl⟩ := List.exists_cons_of_ne_nil hne
    -- A backslash would have taken the next character with it.
    have hplain : c ≠ '\\' := fun hc => hescape d (ds ++ rest) hc rfl
    rw [List.cons_append, stringTail, if_neg hline, hrest rest', Option.map_some]
    · exact hquote
    · exact fun _ _ hc => absurd hc hplain
  | case6 => cases h

/-! ## Looking again -/

/-- A word that ends in front of one text ends in front of another. -/
structure EndsAlike (word rest rest' : List Char) : Prop where
  /-- No letter or digit goes on with it. -/
  takeWhile_eq : ∀ {p : Char → Bool}, p = isWordPart ∨ p = Char.isDigit →
    (word ++ rest).takeWhile p = word → (word ++ rest').takeWhile p = word
  /-- If it is a keyword or sign, no other one begins there in its place. -/
  of_prefix : ∀ entry ∈ spellings, entry.2.toList = word → ∀ other ∈ spellings,
    other.2.toList <+: word ++ rest' → other.2.toList <+: word ++ rest

/-- Behind a token, the same character as in another text, a blank, or nothing. -/
def Follows (rest rest' : List Char) : Prop :=
  rest'.head? = rest.head? ∨ ∀ c ∈ rest'.head?, isBlank c = true

/-- A character that cannot belong to the word in front of it. -/
structure Separates (word : List Char) (c : Char) : Prop where
  /-- It goes on with no word. -/
  notWordPart : (∃ d ∈ word.head?, isWordPart d = true) → isWordPart c = false
  /-- It goes on with no sign. -/
  notSpelling : ∀ entry ∈ spellings, ¬ word ++ [c] <+: entry.2.toList
  /-- It does not make a comment of a slash. -/
  notComment : word.head? = some '/' → c ≠ '/' ∧ c ≠ '*'

/-- Behind a word, nothing, a blank, or a character that cannot belong to it. -/
def Apart (word rest : List Char) : Prop :=
  ∀ c ∈ rest.head?, isBlank c = true ∨ Separates word c

variable {sought : List Terminal} {word text rest rest' : List Char} {terminal : Terminal}

theorem takeWhile_append_of_follows {p : Char → Bool}
    (hblank : ∀ c, isBlank c = true → p c = false) (text : List Char)
    (hfollows : Follows rest rest') (h : (text ++ rest).takeWhile p = text) :
    (text ++ rest').takeWhile p = text := by
  have hall : ∀ c ∈ text, p c = true := fun c hc => List.mem_takeWhile_imp (h.symm ▸ hc)
  rw [List.takeWhile_append_of_pos hall, List.append_right_eq_self] at h ⊢
  cases rest' with
  | nil => rfl
  | cons d ds =>
    -- The next character does not belong to the token, as a blank or as before.
    have hd : p d = false := by
      rcases hfollows with hsame | hblanks
      · cases rest with
        | nil => cases hsame
        | cons c cs =>
          obtain rfl : d = c := Option.some.inj hsame
          cases hp : p d with
          | false => rfl
          | true => rw [List.takeWhile_cons_of_pos hp] at h; cases h
      · exact hblank d (hblanks d rfl)
    rw [List.takeWhile_cons_of_neg (by simp [hd])]

theorem isWordPart_of_isBlank (c : Char) (h : isBlank c = true) : isWordPart c = false := by
  simp only [isBlank, Bool.or_eq_true, beq_iff_eq] at h
  rcases h with (((rfl | rfl) | rfl) | rfl) | rfl <;> decide

theorem isDigit_of_isBlank (c : Char) (h : isBlank c = true) : c.isDigit = false := by
  simp only [isBlank, Bool.or_eq_true, beq_iff_eq] at h
  rcases h with (((rfl | rfl) | rfl) | rfl) | rfl <;> decide

/-- Whether there is a word can be told from the first character. -/
theorem scanWord_eq_none_iff {c : Char} {cs : List Char} :
    scanWord sought (c :: cs) = none ↔ (sought.contains .name && isWordStart c) = false := by
  rw [scanWord_cons]
  split <;> simp_all

theorem scanInt_eq_none_iff {c : Char} {cs : List Char} :
    scanInt sought (c :: cs) = none ↔ (sought.contains .int && c.isDigit) = false := by
  rw [scanInt]
  split <;> simp_all

theorem scanWord_append {c : Char} {cs : List Char} (hends : EndsAlike (c :: cs) rest rest')
    (h : scanWord sought (c :: cs ++ rest) = some (terminal, c :: cs)) :
    scanWord sought (c :: cs ++ rest') = some (terminal, c :: cs) := by
  rw [List.cons_append, scanWord_cons] at h ⊢
  split at h
  case isTrue hword =>
    obtain ⟨hterminal, htext⟩ := Prod.mk.inj (Option.some.inj h)
    have htext' : (c :: (cs ++ rest')).takeWhile isWordPart = c :: cs :=
      hends.takeWhile_eq (.inl rfl) htext
    rw [if_pos hword, htext', ← hterminal, htext]
  case isFalse => cases h

theorem scanInt_append {c : Char} {cs : List Char} (hends : EndsAlike (c :: cs) rest rest')
    (h : scanInt sought (c :: cs ++ rest) = some (terminal, c :: cs)) :
    scanInt sought (c :: cs ++ rest') = some (terminal, c :: cs) := by
  rw [List.cons_append, scanInt] at h ⊢
  split at h
  case isTrue hint =>
    obtain ⟨hterminal, htext⟩ := Prod.mk.inj (Option.some.inj h)
    have htext' : (c :: (cs ++ rest')).takeWhile Char.isDigit = c :: cs :=
      hends.takeWhile_eq (.inr rfl) htext
    rw [if_pos hint, htext', ← hterminal]
  case isFalse => cases h

theorem scanString_append_of_some (h : scanString sought (text ++ rest) = some (terminal, text))
    (rest' : List Char) : scanString sought (text ++ rest') = some (terminal, text) := by
  unfold scanString at h
  split at h
  case h_1 cs hcs =>
    split at h
    case isTrue hsought =>
      obtain ⟨tail, htail, heq⟩ := Option.map_eq_some_iff.mp h
      obtain ⟨rfl, rfl⟩ := Prod.mk.inj heq
      obtain ⟨_, _, _, hagain⟩ := stringTail_append htail
      rw [List.cons_append, scanString, if_pos hsought, hagain rest', Option.map_some]
    case isFalse => cases h
  case h_2 => cases h

/-- Where there is no quote in front there is no text in quotes. -/
theorem scanString_eq_none {c : Char} (h : c ≠ '"') (cs : List Char) :
    scanString sought (c :: cs) = none := by
  unfold scanString
  split
  case h_1 heq => exact absurd (List.cons.inj heq).1 h
  case h_2 => rfl

/-- A spelling reaches at most one character over the end of another one, so it is not in front of a
text only because of what follows. -/
theorem prefix_append_of_follows {entry other : Terminal × String} (hentry : entry ∈ spellings)
    (hother : other ∈ spellings) (hfollows : Follows rest rest')
    (h : other.2.toList <+: entry.2.toList ++ rest') :
    other.2.toList <+: entry.2.toList ++ rest := by
  rcases List.prefix_or_prefix_of_prefix h (List.prefix_append _ rest') with hshort | ⟨more, hmore⟩
  · exact hshort.trans (List.prefix_append _ rest)
  · have hlength := (spellings_spec entry hentry).2.2 other hother ⟨more, hmore⟩
    rw [← hmore, List.length_append] at hlength
    rw [← hmore, List.prefix_append_right_inj] at h ⊢
    match more, h, hmore with
    | [], _, _ => exact List.nil_prefix
    | [d], h, hmore =>
      -- The character is the next one in the text.
      obtain ⟨ds, rfl⟩ : ∃ ds, rest' = d :: ds := ⟨_, h.choose_spec.symm⟩
      rcases hfollows with hsame | hblanks
      · cases rest with
        | nil => cases hsame
        | cons c cs =>
          obtain rfl : d = c := Option.some.inj hsame
          exact ⟨cs, rfl⟩
      · have hnot := ((spellings_spec other hother).2.1 d (by rw [← hmore]; simp)).1
        rw [hblanks d rfl] at hnot
        cases hnot
    | _ :: _ :: _, _, _ => simp at hlength

theorem Follows.endsAlike (h : Follows rest rest') (word : List Char) :
    EndsAlike word rest rest' where
  takeWhile_eq := by
    rintro p (rfl | rfl)
    · exact takeWhile_append_of_follows isWordPart_of_isBlank word h
    · exact takeWhile_append_of_follows isDigit_of_isBlank word h
  of_prefix := by
    rintro entry hentry rfl other hother
    exact prefix_append_of_follows hentry hother h

/-- A word is not continued by what stands apart from it. -/
theorem Apart.endsAlike (h : Apart word rest) (hne : word ≠ []) : EndsAlike word [] rest := by
  cases rest with
  | nil => exact ⟨fun _ => id, fun _ _ _ _ _ => id⟩
  | cons c cs =>
    obtain ⟨d, ds, rfl⟩ := List.exists_cons_of_ne_nil hne
    rcases h c rfl with hblank | hseparates
    · refine Follows.endsAlike (.inr fun e he => ?_) _
      obtain rfl := Option.some.inj he
      exact hblank
    refine ⟨fun {p} hp htext => ?_, fun entry hentry hspelling other hother hprefix => ?_⟩
    · -- A digit is a letter of a word as well, so that neither kind goes on.
      have hpart : ∀ e, p e = true → isWordPart e = true := by
        rcases hp with rfl | rfl
        · exact fun _ => id
        · intro e hdigit
          simp [isWordPart, Char.isAlphanum, hdigit]
      rw [List.append_nil] at htext
      have hall : ∀ e ∈ d :: ds, p e = true := fun e he => List.mem_takeWhile_imp (htext.symm ▸ he)
      have hc : p c = false := by
        rw [Bool.eq_false_iff]
        intro htrue
        have hnot := hseparates.notWordPart ⟨d, rfl, hpart d (hall d List.mem_cons_self)⟩
        rw [hpart c htrue] at hnot
        cases hnot
      rw [List.takeWhile_append_of_pos hall, List.takeWhile_cons_of_neg (by simp [hc]),
        List.append_nil]
    · rw [List.append_nil]
      rcases List.prefix_or_prefix_of_prefix hprefix (List.prefix_append _ (c :: cs)) with
        hshort | ⟨more, hmore⟩
      · exact hshort
      · cases more with
        | nil => rw [← hmore, List.append_nil]
        | cons e es =>
          rw [← hmore, List.prefix_append_right_inj] at hprefix
          obtain rfl : e = c := (List.cons_prefix_cons.mp hprefix).1
          refine absurd ⟨es, ?_⟩ (hseparates.notSpelling other hother)
          rw [← hmore, List.append_assoc, List.singleton_append]

theorem scanFixed_append (hends : EndsAlike text rest rest')
    (h : scanFixed sought (text ++ rest) = some (terminal, text)) :
    scanFixed sought (text ++ rest') = some (terminal, text) := by
  obtain ⟨⟨terminal', spelling⟩, hfind, heq⟩ := Option.map_eq_some_iff.mp h
  obtain ⟨rfl, rfl⟩ := Prod.mk.inj heq
  refine Option.map_eq_some_iff.mpr ⟨(terminal', spelling), ?_, rfl⟩
  obtain ⟨hfound, before, after, hsplit, hbefore⟩ := List.find?_eq_some_iff_append.mp hfind
  refine List.find?_eq_some_iff_append.mpr ⟨?_, before, after, hsplit, fun other hother => ?_⟩
  · simp only [Bool.and_eq_true, List.isPrefixOf_iff_prefix] at hfound ⊢
    exact ⟨hfound.1, List.prefix_append _ _⟩
  · -- What is not in front of the first text is not in front of the second one.
    have hnot := hbefore other hother
    simp only [Bool.not_eq_true', Bool.eq_false_iff, ne_eq, Bool.and_eq_true, not_and,
      List.isPrefixOf_iff_prefix] at hnot ⊢
    intro hsought hprefix
    have hmem : ∀ entry ∈ before ++ (terminal', spelling) :: after, entry ∈ spellings := by
      intro entry hentry
      rw [spellings, hsplit]
      exact hentry
    exact hnot hsought (hends.of_prefix _ (hmem (terminal', spelling) (by simp)) rfl other
      (hmem other (by simp [hother])) hprefix)

theorem exists_prefix_of_scan {cs : List Char} (h : scan sought cs = some (terminal, text)) :
    text ≠ [] ∧ text <+: cs := by
  simp only [scan, Option.or_eq_some_iff] at h
  -- A word, a number, a string or a fixed spelling, each with its own way to end.
  rcases h with (hword | ⟨_, hint⟩) | ⟨_, hstring | ⟨_, hfixed⟩⟩
  · cases cs with
    | nil => cases hword
    | cons c cs =>
      rw [scanWord_cons] at hword
      split at hword
      case isTrue hstart =>
        obtain ⟨_, rfl⟩ := Prod.mk.inj (Option.some.inj hword)
        have hpart := Text.isWordPart_of_isWordStart (Bool.and_eq_true_iff.mp hstart).2
        exact ⟨by simp [List.takeWhile_cons_of_pos hpart], List.takeWhile_prefix _⟩
      case isFalse => cases hword
  · cases cs with
    | nil => cases hint
    | cons c cs =>
      rw [scanInt] at hint
      split at hint
      case isTrue hstart =>
        obtain ⟨_, rfl⟩ := Prod.mk.inj (Option.some.inj hint)
        have hdigit := (Bool.and_eq_true_iff.mp hstart).2
        exact ⟨by simp [List.takeWhile_cons_of_pos hdigit], List.takeWhile_prefix _⟩
      case isFalse => cases hint
  · unfold scanString at hstring
    split at hstring
    case h_1 rest =>
      split at hstring
      case isTrue =>
        obtain ⟨tail, htail, heq⟩ := Option.map_eq_some_iff.mp hstring
        obtain ⟨_, rfl⟩ := Prod.mk.inj heq
        obtain ⟨behind, rfl, _⟩ := stringTail_append htail
        exact ⟨List.cons_ne_nil _ _, behind, rfl⟩
      case isFalse => cases hstring
    case h_2 => cases hstring
  · obtain ⟨entry, hentry, _, rfl, _, hprefix⟩ := mem_spellings_of_scanFixed hfixed
    exact ⟨(spellings_spec entry hentry).1, hprefix⟩

/-- A token is found again wherever it ends. -/
theorem scan_append_of_endsAlike (hends : EndsAlike text rest rest')
    (h : scan sought (text ++ rest) = some (terminal, text)) :
    scan sought (text ++ rest') = some (terminal, text) := by
  obtain ⟨c, cs, rfl⟩ := List.exists_cons_of_ne_nil (exists_prefix_of_scan h).1
  simp only [scan, Option.or_eq_some_iff, Option.or_eq_none_iff] at h ⊢
  rcases h with (hword | ⟨hword, hint⟩) | ⟨⟨hword, hint⟩, hrest⟩
  · exact .inl (.inl (scanWord_append hends hword))
  · -- The first character tells that there is no word.
    rw [List.cons_append, scanWord_eq_none_iff] at hword
    refine .inl (.inr ⟨?_, scanInt_append hends hint⟩)
    rwa [List.cons_append, scanWord_eq_none_iff]
  · rw [List.cons_append, scanWord_eq_none_iff] at hword
    rw [List.cons_append, scanInt_eq_none_iff] at hint
    refine .inr ⟨⟨?_, ?_⟩, ?_⟩
    · rwa [List.cons_append, scanWord_eq_none_iff]
    · rwa [List.cons_append, scanInt_eq_none_iff]
    rcases hrest with hstring | ⟨_, hfixed⟩
    · exact .inl (scanString_append_of_some hstring rest')
    · refine .inr ⟨?_, scanFixed_append hends hfixed⟩
      obtain ⟨entry, hentry, _, htext, _⟩ := mem_spellings_of_scanFixed hfixed
      have hquote := ((spellings_spec entry hentry).2.1 c (by rw [htext]; simp)).2
      exact scanString_eq_none hquote _

/-- A token is found again if it is followed by the same character, by a blank, or by nothing. -/
theorem scan_append_of_follows (hfollows : Follows rest rest')
    (h : scan sought (text ++ rest) = some (terminal, text)) :
    scan sought (text ++ rest') = some (terminal, text) :=
  scan_append_of_endsAlike (hfollows.endsAlike text) h

/-- A token is found in front of what stands apart from it. -/
theorem scan_append_of_apart (hapart : Apart word rest)
    (h : scan sought word = some (terminal, word)) :
    scan sought (word ++ rest) = some (terminal, word) := by
  refine scan_append_of_endsAlike (hapart.endsAlike (exists_prefix_of_scan h).1) ?_
  rwa [List.append_nil]

/-! ## Slashes and stars -/

/-- A character with which no word, number or text in quotes begins can only begin a spelling. -/
theorem mem_spellings_of_scan {c : Char} {cs : List Char} (hstart : isWordStart c = false)
    (hdigit : c.isDigit = false) (hquote : c ≠ '"')
    (h : scan sought (c :: cs) = some (terminal, text)) :
    terminal ∈ sought ∧ ∃ entry ∈ spellings, entry.1 = terminal ∧ entry.2.toList = text ∧
      entry.2.toList.head? = some c := by
  have hword : scanWord sought (c :: cs) = none := scanWord_eq_none_iff.mpr (by simp [hstart])
  have hint : scanInt sought (c :: cs) = none := scanInt_eq_none_iff.mpr (by simp [hdigit])
  have hstring : scanString sought (c :: cs) = none := scanString_eq_none hquote cs
  rw [scan, hword, hint, hstring] at h
  obtain ⟨entry, hentry, rfl, rfl, hsought, more, hmore⟩ := mem_spellings_of_scanFixed h
  refine ⟨hsought, entry, hentry, rfl, rfl, ?_⟩
  obtain ⟨d, ds, hspelling⟩ := List.exists_cons_of_ne_nil (spellings_spec entry hentry).1
  rw [hspelling, List.cons_append] at hmore
  rw [hspelling, List.head?_cons, (List.cons.inj hmore).1]

theorem eq_of_scan_slash {cs : List Char} (h : scan sought ('/' :: cs) = some (terminal, text)) :
    terminal = .slash ∧ text = ['/'] := by
  obtain ⟨_, entry, hentry, rfl, rfl, hhead⟩ :=
    mem_spellings_of_scan (by decide) (by decide) (by decide) h
  have hspec : ∀ entry ∈ spellings, entry.2.toList.head? = some '/' →
      entry.1 = .slash ∧ entry.2.toList = ['/'] := by
    decide +kernel
  exact hspec entry hentry hhead

/-- No token begins with a blank. -/
theorem isBlank_of_scan {c : Char} {cs : List Char}
    (h : scan sought (c :: cs) = some (terminal, text)) : isBlank c = false := by
  rw [Bool.eq_false_iff]
  intro hblank
  have hstart : isWordStart c = false := by
    rw [Bool.eq_false_iff]
    intro hstart
    have hpart := Text.isWordPart_of_isWordStart hstart
    rw [isWordPart_of_isBlank c hblank] at hpart
    cases hpart
  have hquote : c ≠ '"' := by
    rintro rfl
    cases hblank
  obtain ⟨_, entry, hentry, _, _, hhead⟩ :=
    mem_spellings_of_scan hstart (isDigit_of_isBlank c hblank) hquote h
  have hsign := ((spellings_spec entry hentry).2.1 c (List.mem_of_mem_head? hhead)).1
  rw [hblank] at hsign
  cases hsign

/-- Nothing of a token is skipped in front of what stands apart from it. -/
theorem skipped_of_apart (h : scan sought word = some (terminal, word)) (hapart : Apart word rest) :
    skipped (word ++ rest) = word ++ rest := by
  obtain ⟨c, cs, rfl⟩ := List.exists_cons_of_ne_nil (exists_prefix_of_scan h).1
  -- A slash is a token of its own, so what follows it is at the beginning of the rest.
  have hnext : ∀ d, isBlank d = false → d = '/' ∨ d = '*' → c = '/' →
      (cs ++ rest).head? ≠ some d := by
    rintro d hd hcomment rfl hhead
    obtain ⟨_, heq⟩ := eq_of_scan_slash h
    obtain rfl : cs = [] := (List.cons.inj heq).2
    rcases hapart d hhead with hblank | hseparates
    · rw [hblank] at hd
      cases hd
    · obtain ⟨hslash, hstar⟩ := hseparates.notComment rfl
      exact hcomment.elim hslash hstar
  exact skipped_eq_self (isBlank_of_scan h) (hnext '/' (by decide) (.inl rfl))
    (hnext '*' (by decide) (.inr rfl))

theorem star_mem_of_scan {cs : List Char} (h : scan sought ('*' :: cs) = some (terminal, text)) :
    .star ∈ sought := by
  obtain ⟨hsought, entry, hentry, rfl, _, hhead⟩ :=
    mem_spellings_of_scan (by decide) (by decide) (by decide) h
  have hspec : ∀ entry ∈ spellings, entry.2.toList.head? = some '*' → entry.1 = .star := by
    decide +kernel
  rwa [hspec entry hentry hhead] at hsought

end Throws.Surface
