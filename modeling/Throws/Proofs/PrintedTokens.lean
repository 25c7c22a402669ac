import Mathlib.Algebra.Group.Nat.Defs
import Throws.Proofs.Printing
import Throws.Proofs.TokenTrace

/-!
# Printed tokens are found again

Each token of a printed text is one of four kinds: a name, a number, a text in quotes, or a keyword
or sign. Where a token of its kind is sought, it is found again (`IsPrinted.scan`), and a printed
literal has the value that was printed (`evalInt_toDigits`, `evalString_quoted`).
-/

namespace Throws.Surface

/-- A token as it is printed. -/
inductive IsPrinted : Shape → Prop
  | name {name : String} : IsName name → IsPrinted (nameShape name)
  | int {value : Nat} : (Nat.toDigits 10 value).length ≤ maxDigits →
      IsPrinted (.int, Nat.toDigits 10 value)
  | text {points : List Nat} : (∀ point ∈ points, point < 0x110000) →
      IsPrinted (.string, quoted points)
  | fixed {entry : Terminal × String} : entry ∈ spellings → IsPrinted (entry.1, entry.2.toList)

/-- Every fixed spelling can be printed. -/
theorem isPrinted_shape {terminal : Terminal}
    (h : (spellings.find? (·.1 = terminal)).isSome = true) : IsPrinted terminal.shape := by
  obtain ⟨entry, hentry⟩ := Option.isSome_iff_exists.mp h
  have hterminal : entry.1 = terminal := by simpa using List.find?_some hentry
  have hshape : terminal.shape = (entry.1, entry.2.toList) := by
    rw [Terminal.shape, hentry, hterminal]
    rfl
  rw [hshape]
  exact .fixed (List.mem_of_find?_eq_some hentry)

/-- So can every connective. -/
theorem isPrinted_connective (connective : Connective) : IsPrinted connective.shape := by
  cases connective with
  | assign => exact isPrinted_shape rfl
  | operator op =>
    have hmem : ∀ op : BinaryOp, (op.terminal, op.symbol) ∈ spellings := by
      intro op
      cases op <;> decide
    exact .fixed (hmem op)

/-- So can every sign. -/
theorem isPrinted_unary (op : UnaryOp) : IsPrinted op.shape := by
  cases op <;> exact isPrinted_shape rfl

/-- So can a literal that is writable. -/
theorem isPrinted_literal {value : Literal} (h : IsWritable value) :
    IsPrinted (literalShape value) := by
  cases h with
  | int hlength => exact .int hlength
  | text hpoints => exact .text hpoints
  | bool value => cases value <;> exact isPrinted_shape rfl

/-! ## Numbers -/

/-- A number is what its digits say. -/
theorem evalInt_toDigits {value : Nat} (h : (Nat.toDigits 10 value).length ≤ maxDigits) :
    evalInt (Nat.toDigits 10 value) = .ok (.int value) := by
  have hdecimal : decimal (Nat.toDigits 10 value) = value := by
    simp only [decimal, Nat.mul_comm _ 10]
    rw [← Nat.ofDigitChars_eq_foldl, Nat.ofDigitChars_ten_toDigits]
  rw [evalInt, if_neg (Nat.not_lt.mpr h), hdecimal]

/-! ## Texts in quotes -/

/-- There are as many digits as asked for. -/
theorem length_hexDigits (width value : Nat) (rest : List Char) :
    (Text.hexDigits width value rest).length = width + rest.length := by
  induction width generalizing value rest with
  | zero => exact (Nat.zero_add _).symm
  | succ width ih =>
    rw [Text.hexDigits, ih, List.length_cons]
    omega

/-- Reading the digits gives the number back. -/
theorem foldlM_hexDigits (width value acc : Nat) (rest : List Char) :
    (Text.hexDigits width value rest).foldlM
        (fun value c => (Text.hexValue? c).map (value * 16 + ·)) acc =
      rest.foldlM (fun value c => (Text.hexValue? c).map (value * 16 + ·))
        (acc * 16 ^ width + value % 16 ^ width) := by
  induction width generalizing value rest with
  | zero => simp [Text.hexDigits, Nat.mod_one]
  | succ width ih =>
    have hdigit : ∀ digit < 16, Text.hexValue? (Text.hexDigit digit) = some digit := by
      decide +kernel
    have hvalue : (acc * 16 ^ width + value / 16 % 16 ^ width) * 16 + value % 16 =
        acc * 16 ^ (width + 1) + value % 16 ^ (width + 1) := by
      rw [Nat.pow_succ, Nat.mul_comm (16 ^ width) 16, Nat.mod_mul, Nat.mul_left_comm]
      omega
    rw [Text.hexDigits, ih, List.foldlM_cons, hdigit _ (Nat.mod_lt _ (by omega)), ← hvalue]
    rfl

/-- So does an escape with eight of them. -/
theorem hexEscape?_hexDigits {point : Nat} (h : point < 0x110000) (rest : List Char) :
    hexEscape? 8 (Text.hexDigits 8 point [] ++ rest) = some point := by
  have hlength : (Text.hexDigits 8 point []).length = 8 := length_hexDigits 8 point []
  have hnumber : Text.hexNumber? (Text.hexDigits 8 point []) = some point := by
    rw [Text.hexNumber?, foldlM_hexDigits, Nat.mod_eq_of_lt (by omega)]
    simp
  rw [hexEscape?, List.take_left' hlength, hlength, if_pos rfl, hnumber]
  simp [h]

/-- There is nothing among them but digits. -/
theorem mem_hexDigits {width value : Nat} {rest : List Char} {c : Char}
    (h : c ∈ Text.hexDigits width value rest) :
    c ∈ rest ∨ ∃ digit < 16, c = Text.hexDigit digit := by
  induction width generalizing value rest with
  | zero => exact .inl h
  | succ width ih =>
    rcases ih h with hmem | hdigit
    · rcases List.mem_cons.mp hmem with rfl | hmem
      · exact .inr ⟨value % 16, Nat.mod_lt _ (by omega), rfl⟩
      · exact .inl hmem
    · exact .inr hdigit

/-- A character that stands for itself in quotes. -/
def IsPlainChar (c : Char) : Prop := c ≠ '"' ∧ c ≠ '\\' ∧ c ≠ '\n' ∧ c ≠ '\r' ∧ c ≠ '\x00'

instance (c : Char) : Decidable (IsPlainChar c) := inferInstanceAs (Decidable (_ ∧ _))

/-- All of them are plain. -/
theorem isPlainChar_hexDigits {point : Nat} {c : Char} (h : c ∈ Text.hexDigits 8 point []) :
    IsPlainChar c := by
  have hdigit : ∀ digit < 16, IsPlainChar (Text.hexDigit digit) := by decide +kernel
  rcases mem_hexDigits h with hmem | ⟨digit, hlt, rfl⟩
  · exact absurd hmem List.not_mem_nil
  · exact hdigit digit hlt

/-- A plain point is a plain character. -/
theorem isPlainChar_ofNat {point : Nat} (h : isPlain point = true) :
    (Char.ofNat point).toNat = point ∧ IsPlainChar (Char.ofNat point) := by
  have hspec : ∀ point < 0x7f, isPlain point = true →
      (Char.ofNat point).toNat = point ∧ IsPlainChar (Char.ofNat point) := by
    decide +kernel
  refine hspec point ?_ h
  simp only [isPlain, Bool.and_eq_true, decide_eq_true_eq] at h
  omega

/-- The three ways to write a code point. -/
theorem escaped_cases (point : Nat) :
    (∃ c, escaped point = [c] ∧ c.toNat = point ∧ IsPlainChar c) ∨
      (∃ c, escaped point = ['\\', c] ∧ c.toNat = point ∧ (c = '"' ∨ c = '\\')) ∨
      escaped point = '\\' :: 'U' :: Text.hexDigits 8 point [] := by
  unfold escaped
  split
  case isTrue hplain => exact .inl ⟨_, rfl, isPlainChar_ofNat hplain⟩
  case isFalse =>
    split
    case isTrue hquote => exact .inr (.inl ⟨'"', rfl, hquote.symm, .inl rfl⟩)
    case isFalse =>
      split
      case isTrue hbackslash => exact .inr (.inl ⟨'\\', rfl, hbackslash.symm, .inr rfl⟩)
      case isFalse => exact .inr (.inr rfl)

/-- What has been read of an escape is passed over. -/
theorem unescape_append (front rest : List Char) :
    unescape front.length (front ++ rest) = unescape 0 rest := by
  induction front with
  | nil => rfl
  | cons c front ih =>
    rw [List.length_cons, List.cons_append, unescape]
    exact ih

/-- Reading an escaped point gives it back. -/
theorem unescape_escaped {point : Nat} (h : point < 0x110000) (rest : List Char) :
    unescape 0 (escaped point ++ rest) = (unescape 0 rest).map (point :: ·) := by
  rcases escaped_cases point with ⟨c, heq, rfl, hplain⟩ | ⟨c, heq, rfl, rfl | rfl⟩ | heq
  · rw [heq, List.singleton_append, unescape, if_neg hplain.2.2.2.1]
    exact fun hc => absurd hc hplain.2.1
  · rw [heq]
    rfl
  · rw [heq]
    rfl
  · have hescape : escapeOf? 'U' (Text.hexDigits 8 point [] ++ rest) = some ⟨[point], 9⟩ := by
      rw [escapeOf?, hexEscape?_hexDigits h]
      rfl
    have hskip : unescape 9 ('U' :: (Text.hexDigits 8 point [] ++ rest)) = unescape 0 rest := by
      have hlength : ('U' :: Text.hexDigits 8 point []).length = 9 := by
        rw [List.length_cons, length_hexDigits, List.length_nil]
      rw [← hlength]
      exact unescape_append ('U' :: Text.hexDigits 8 point []) rest
    rw [heq, List.cons_append, List.cons_append, unescape, hescape, Option.bind_some, hskip]
    rfl

/-- So does reading several of them. -/
theorem unescape_flatMap_escaped {points : List Nat} (h : ∀ point ∈ points, point < 0x110000) :
    unescape 0 (points.flatMap escaped) = some points := by
  induction points with
  | nil => rfl
  | cons point points ih =>
    obtain ⟨hpoint, hpoints⟩ := List.forall_mem_cons.mp h
    rw [List.flatMap_cons, unescape_escaped hpoint, ih hpoints, Option.map_some]

/-- No escape has a NUL in it. -/
theorem nul_not_mem_escaped (point : Nat) : '\x00' ∉ escaped point := by
  intro hmem
  rcases escaped_cases point with ⟨c, heq, _, hplain⟩ | ⟨c, heq, _, rfl | rfl⟩ | heq
  · rw [heq, List.mem_singleton] at hmem
    exact hplain.2.2.2.2 hmem.symm
  · rw [heq] at hmem
    simp at hmem
  · rw [heq] at hmem
    simp at hmem
  · rw [heq] at hmem
    rcases List.mem_cons.mp hmem with hc | hmem
    · cases hc
    rcases List.mem_cons.mp hmem with hc | hmem
    · cases hc
    exact (isPlainChar_hexDigits hmem).2.2.2.2 rfl

/-- A quoted text is what it quotes. -/
theorem evalString_quoted {points : List Nat} (h : ∀ point ∈ points, point < 0x110000) :
    evalString (quoted points) = .ok (.text points) := by
  have hnul : '\x00' ∉ quoted points := by
    simp [quoted, nul_not_mem_escaped]
  have hbody : ((quoted points).drop 1).dropLast = points.flatMap escaped := by
    rw [quoted, List.drop_one, List.tail_cons, List.dropLast_concat]
  rw [evalString, if_neg (by simpa using hnul), hbody, unescape_flatMap_escaped h]

/-- Characters that stand for themselves do not close a text in quotes. -/
theorem stringTail_append_of_plain {front : List Char} (h : ∀ c ∈ front, IsPlainChar c)
    (cs : List Char) : stringTail (front ++ cs) = (stringTail cs).map (front ++ ·) := by
  induction front with
  | nil => simp
  | cons c front ih =>
    obtain ⟨hplain, hfront⟩ := List.forall_mem_cons.mp h
    rw [List.cons_append, stringTail, if_neg hplain.2.2.1, ih hfront, Option.map_map]
    · rfl
    · exact hplain.1
    · exact fun _ _ hc => absurd hc hplain.2.1

/-- The end of a text is not sought inside an escape. -/
theorem stringTail_escaped (point : Nat) (cs : List Char) :
    stringTail (escaped point ++ cs) = (stringTail cs).map (escaped point ++ ·) := by
  rcases escaped_cases point with ⟨c, heq, _, hplain⟩ | ⟨c, heq, _, rfl | rfl⟩ | heq
  · rw [heq]
    exact stringTail_append_of_plain (by simpa using hplain) cs
  · rw [heq]
    rfl
  · rw [heq]
    rfl
  · have hdigits : ∀ c ∈ Text.hexDigits 8 point [], IsPlainChar c := fun c => isPlainChar_hexDigits
    rw [heq, List.cons_append, List.cons_append, stringTail, if_neg (by decide),
      stringTail_append_of_plain hdigits, Option.map_map]
    rfl

/-- It is found at the closing quote. -/
theorem stringTail_quoted (points : List Nat) :
    stringTail (points.flatMap escaped ++ ['"']) = some (points.flatMap escaped ++ ['"']) := by
  induction points with
  | nil => rfl
  | cons point points ih =>
    rw [List.flatMap_cons, List.append_assoc, stringTail_escaped, ih, Option.map_some]

/-! ## Finding printed tokens -/

variable {sought : List Terminal}

/-- No keyword or sign is the beginning of one that stands behind it in the list. -/
theorem pairwise_spellings :
    spellings.Pairwise fun entry other => ¬ entry.2.toList <+: other.2.toList := by
  decide +kernel

/-- A word is scanned to its end. -/
theorem scanWord_of_isWord {c : Char} {cs : List Char} (hname : .name ∈ sought)
    (hstart : isWordStart c = true) (hall : ∀ d ∈ c :: cs, isWordPart d = true) :
    scanWord sought (c :: cs) = some (wordTerminal sought (c :: cs), c :: cs) := by
  rw [scanWord_cons, if_pos (by simp [hname, hstart]), List.takeWhile_eq_self_iff.mpr hall]

/-- An identifier is found as a name if it is not one of the keywords that are sought. -/
theorem scan_identifier {name : String} (h : IsIdentifier name)
    (hkeyword : ∀ entry ∈ Terminal.keywords, entry.1 ∈ sought → entry.2 ≠ name)
    (hsought : .name ∈ sought) : scan sought name.toList = some (nameShape name) := by
  obtain ⟨first, rest, hcons, hstart, hrest⟩ := h
  have hall : ∀ d ∈ first :: rest, isWordPart d = true :=
    List.forall_mem_cons.mpr ⟨Text.isWordPart_of_isWordStart hstart, hrest⟩
  have hterminal : wordTerminal sought name.toList = .name := by
    have hnone : Terminal.keywords.find? (fun entry =>
        sought.contains entry.1 && entry.2.toList == name.toList) = none := by
      rw [List.find?_eq_none]
      intro entry hentry hfound
      simp only [Bool.and_eq_true, beq_iff_eq, List.contains_iff_mem] at hfound
      exact hkeyword entry hentry hfound.1 (String.toList_inj.mp hfound.2)
    rw [wordTerminal, hnone]
    rfl
  have hword := scanWord_of_isWord hsought hstart hall
  rw [← hcons, hterminal] at hword
  rw [scan, hword]
  rfl

/-- No word starts with a digit. -/
theorem isWordStart_of_isDigit {c : Char} (h : c.isDigit = true) : isWordStart c = false := by
  rw [Char.isDigit, Bool.and_eq_true, decide_eq_true_eq, decide_eq_true_eq] at h
  have hlower : c.isLower = false := Bool.and_eq_false_iff.mpr
    (.inl (decide_eq_false fun hge => absurd (UInt32.le_trans hge h.2) (by decide)))
  have hupper : c.isUpper = false := decide_eq_false fun hbetween =>
    absurd (UInt32.le_trans hbetween.1 h.2) (by decide)
  have halpha : c.isAlpha = false := Bool.or_eq_false_iff.mpr ⟨hupper, hlower⟩
  have hunderscore : (c == '_') = false := by
    rw [beq_eq_false_iff_ne]
    rintro rfl
    exact absurd h.2 (by decide)
  rw [isWordStart, halpha, hunderscore]
  rfl

/-- A number is scanned to its end. -/
theorem scan_toDigits (value : Nat) (hsought : .int ∈ sought) :
    scan sought (Nat.toDigits 10 value) = some (.int, Nat.toDigits 10 value) := by
  have hdigits : ∀ c ∈ Nat.toDigits 10 value, c.isDigit = true := fun c hc =>
    Nat.isDigit_of_mem_toDigits (by omega) (Nat.le_refl _) hc
  obtain ⟨c, cs, hcons⟩ := List.exists_cons_of_ne_nil (Nat.toDigits_ne_nil (n := value) (b := 10))
  rw [hcons] at hdigits ⊢
  have hc := hdigits c List.mem_cons_self
  have hword : scanWord sought (c :: cs) = none :=
    scanWord_eq_none_iff.mpr (by simp [isWordStart_of_isDigit hc])
  rw [scan, hword, scanInt, if_pos (by simp [hsought, hc]),
    List.takeWhile_eq_self_iff.mpr hdigits]
  rfl

/-- A quoted text is scanned to its end. -/
theorem scan_quoted (points : List Nat) (hsought : .string ∈ sought) :
    scan sought (quoted points) = some (.string, quoted points) := by
  have hword : scanWord sought (quoted points) = none :=
    scanWord_eq_none_iff.mpr (by simp [isWordStart])
  have hint : scanInt sought (quoted points) = none := scanInt_eq_none_iff.mpr (by simp)
  have hstring : scanString sought (quoted points) = some (.string, quoted points) := by
    rw [quoted, scanString, if_pos (by simpa using hsought), stringTail_quoted]
    rfl
  rw [scan, hword, hint, hstring]
  rfl

/-- A fixed spelling is scanned to its end. -/
theorem scanFixed_spelling {entry : Terminal × String} (h : entry ∈ spellings)
    (hsought : entry.1 ∈ sought) :
    scanFixed sought entry.2.toList = some (entry.1, entry.2.toList) := by
  obtain ⟨before, after, hsplit⟩ := List.append_of_mem h
  refine Option.map_eq_some_iff.mpr ⟨entry, ?_, rfl⟩
  refine List.find?_eq_some_iff_append.mpr ⟨by simp [hsought], before, after, hsplit, ?_⟩
  -- A spelling that is tried before this one is no part of it.
  intro other hother
  have hpairwise := pairwise_spellings
  rw [hsplit, List.pairwise_append] at hpairwise
  have hnot := hpairwise.2.2 other hother entry List.mem_cons_self
  rw [← List.isPrefixOf_iff_prefix, Bool.not_eq_true] at hnot
  simp [hnot]

/-- A keyword is told from a name where it is sought. -/
theorem wordTerminal_keyword {entry : Terminal × String} (h : entry ∈ Terminal.keywords)
    (hsought : entry.1 ∈ sought) : wordTerminal sought entry.2.toList = entry.1 := by
  have hpairwise : Terminal.keywords.Pairwise fun entry other =>
      entry.2.toList ≠ other.2.toList := by
    refine List.Pairwise.imp ?_ (List.pairwise_append.mp pairwise_spellings).1
    intro entry other hnot heq
    rw [heq] at hnot
    exact hnot List.prefix_rfl
  obtain ⟨before, after, hsplit⟩ := List.append_of_mem h
  have hfind : Terminal.keywords.find? (fun other =>
      sought.contains other.1 && other.2.toList == entry.2.toList) = some entry := by
    refine List.find?_eq_some_iff_append.mpr ⟨by simp [hsought], before, after, hsplit, ?_⟩
    intro other hother
    rw [hsplit, List.pairwise_append] at hpairwise
    have hnot := hpairwise.2.2 other hother entry List.mem_cons_self
    simp [hnot]
  rw [wordTerminal, hfind]
  rfl

/-- Keywords are words. -/
theorem keywords_spec : ∀ entry ∈ Terminal.keywords,
    entry.2.toList.all isWordPart = true ∧ entry.2.toList.head?.any isWordStart = true := by
  decide +kernel

/-- Other fixed spellings do not begin like words. -/
theorem spellings_head : ∀ entry ∈ spellings, entry ∈ Terminal.keywords ∨
    entry.2.toList.head?.any isWordStart = false := by
  decide +kernel

/-- None of them begins with a digit. -/
theorem spellings_head_isDigit : ∀ entry ∈ spellings,
    entry.2.toList.head?.any Char.isDigit = false := by
  decide +kernel

/-- Each of them is scanned to its end, whatever else may begin there. -/
theorem scan_spelling {entry : Terminal × String} (h : entry ∈ spellings)
    (hsought : entry.1 ∈ sought) : scan sought entry.2.toList = some (entry.1, entry.2.toList) := by
  obtain ⟨hne, hchars, _⟩ := spellings_spec entry h
  have hfixed := scanFixed_spelling h hsought
  have hdigit := spellings_head_isDigit entry h
  have hhead := spellings_head entry h
  obtain ⟨c, cs, hcons⟩ := List.exists_cons_of_ne_nil hne
  rw [hcons] at hfixed hdigit hhead hchars ⊢
  have hint : scanInt sought (c :: cs) = none :=
    scanInt_eq_none_iff.mpr (by simpa using fun _ => hdigit)
  have hstring : scanString sought (c :: cs) = none :=
    scanString_eq_none (hchars c List.mem_cons_self).2 cs
  by_cases hword : entry ∈ Terminal.keywords ∧ .name ∈ sought
  · obtain ⟨hall, hstart⟩ := keywords_spec entry hword.1
    have hterminal := wordTerminal_keyword hword.1 hsought
    rw [hcons] at hall hstart hterminal
    rw [scan, scanWord_of_isWord hword.2 hstart (List.all_eq_true.mp hall), hterminal]
    rfl
  · have hnone : scanWord sought (c :: cs) = none := by
      rw [scanWord_eq_none_iff, Bool.and_eq_false_iff]
      rcases hhead with hkeyword | hstart
      · exact .inl (by simpa using fun hname => hword ⟨hkeyword, hname⟩)
      · exact .inr hstart
    rw [scan, hnone, hint, hstring, hfixed]
    rfl

/-- A printed token is found where its kind is sought. -/
theorem IsPrinted.scan {shape : Shape} (h : IsPrinted shape) (hsought : shape.1 ∈ sought) :
    scan sought shape.2 = some shape := by
  cases h with
  | name hname =>
    exact scan_identifier hname.identifier (fun entry hentry _ => hname.not_keyword entry hentry)
      hsought
  | int _ => exact scan_toDigits _ hsought
  | text _ => exact scan_quoted _ hsought
  | fixed hentry => exact scan_spelling hentry hsought

/-- What is printed is not empty. -/
theorem IsPrinted.ne_nil {shape : Shape} (h : IsPrinted shape) : shape.2 ≠ [] := by
  have hscan : Surface.scan [shape.1] shape.2 = some (shape.1, shape.2) := h.scan List.mem_cons_self
  exact (exists_prefix_of_scan hscan).1

/-- There is nothing wrong with a printed literal. -/
theorem IsPrinted.fault? {token : Token} (h : IsPrinted token.shape) : token.fault? = none := by
  obtain ⟨terminal, text, pos⟩ := token
  generalize hshape : Token.shape ⟨terminal, text, pos⟩ = shape at h
  cases h with
  | name _ =>
    obtain ⟨rfl, rfl⟩ := Prod.mk.inj hshape
    rfl
  | int hlength =>
    obtain ⟨rfl, rfl⟩ := Prod.mk.inj hshape
    simp only [Token.fault?, evalInt_toDigits hlength]
  | text hpoints =>
    obtain ⟨rfl, rfl⟩ := Prod.mk.inj hshape
    simp only [Token.fault?, evalString_quoted hpoints]
  | fixed hentry =>
    obtain ⟨rfl, rfl⟩ := Prod.mk.inj hshape
    have hspec : ∀ entry ∈ spellings, entry.1 ≠ .int ∧ entry.1 ≠ .string := by decide
    obtain ⟨hint, hstring⟩ := hspec _ hentry
    unfold Token.fault?
    split
    case h_1 heq => exact absurd heq hint
    case h_2 heq => exact absurd heq hstring
    case h_3 => rfl

end Throws.Surface
