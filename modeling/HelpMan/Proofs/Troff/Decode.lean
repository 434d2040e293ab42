import HelpMan.Proofs.Troff.Lines

/-!
# Reading escaped text back

Escaping replaces each character on its own (`escapeList` is a `flatMap`), so it is a
homomorphism of texts (`escape_append`) that never escapes what a replacement wrote. The four
replacements all start with a backslash and differ in the character after it, and a character
kept as itself (`isPlain`) is never a backslash: the replacements and the kept characters form a
prefix code. So an escaped text can be read back left to right, one piece at a time
(`unescapeList`): a backslash must begin one of the four replacements, and a grave accent, an
apostrophe or a hyphen may stand only inside one. Reading gives back exactly the text that was
escaped and refuses every text that is not an escaped one (`unescape_eq_some_iff`), so escaping
is injective (`escape_injective`).

The main statement is `escape_one_pass_injective`.
-/

namespace HelpMan.Troff

/-- Whether escaping keeps a character as it is. -/
def isPlain (c : Char) : Bool := c != '\\' && c != '`' && c != '\'' && c != '-'

/-- Reads an escaped text back, one piece at a time: a backslash and what follows it name one
of the four replacements, and any other character stands for itself. A backslash that begins no
replacement, and a grave accent, apostrophe or hyphen outside one, are refused. -/
def unescapeList : List Char → Option (List Char)
  | [] => some []
  | '\\' :: '\\' :: rest => ('\\' :: ·) <$> unescapeList rest
  | '\\' :: '\'' :: rest => ('`' :: ·) <$> unescapeList rest
  | '\\' :: '*' :: '(' :: 'A' :: 'q' :: rest => ('\'' :: ·) <$> unescapeList rest
  | '\\' :: '-' :: rest => ('-' :: ·) <$> unescapeList rest
  | c :: rest => if isPlain c then (c :: ·) <$> unescapeList rest else none

/-- Reads an escaped text back. -/
def unescape (t : String) : Option String := (unescapeList t.toList).map String.ofList

example : unescape "don\\*(Aqt use \\'rm \\-rf\\' \\\\o/" = some "don't use `rm -rf` \\o/" := by decide
example : unescape "a-b" = none := by decide

/-! ## One piece at a time -/

theorem escapeChar_plain {c : Char} (h : isPlain c = true) : escapeChar c = [c] := by
  simp only [isPlain, Bool.and_eq_true, bne_iff_ne, ne_eq] at h
  exact escapeChar_of_plain h.1.1.1 h.1.1.2 h.1.2 h.2

theorem unescapeList_plain {c : Char} (h : isPlain c = true) (rest : List Char) :
    unescapeList (c :: rest) = (c :: ·) <$> unescapeList rest := by
  have hb : c ≠ '\\' := by simp_all [isPlain]
  -- a character that is not a backslash falls through to the last pattern
  rw [unescapeList.eq_def]
  split <;> simp_all

/-- Reading the replacement of a character gives the character back, and reading goes on
right after it. -/
theorem unescapeList_escapeChar_append (c : Char) (rest : List Char) :
    unescapeList (escapeChar c ++ rest) = (c :: ·) <$> unescapeList rest := by
  by_cases h : isPlain c = true
  · rw [escapeChar_plain h, List.singleton_append, unescapeList_plain h]
  · simp only [isPlain, Bool.and_eq_true, bne_iff_ne, ne_eq, not_and, Decidable.not_not] at h
    by_cases h1 : c = '\\'
    · subst h1; rfl
    by_cases h2 : c = '`'
    · subst h2; rfl
    by_cases h3 : c = '\''
    · subst h3; rfl
    have h4 : c = '-' := h ⟨⟨h1, h2⟩, h3⟩
    subst h4; rfl

/-! ## Reading back is the inverse of escaping -/

theorem unescapeList_escapeList (s : List Char) : unescapeList (escapeList s) = some s := by
  induction s with
  | nil => rfl
  | cons c s ih => rw [escapeList_cons, unescapeList_escapeChar_append, ih]; rfl

/-- A text that reads back is the escaped form of what it reads as. -/
theorem eq_escapeList_of_unescapeList {t s : List Char} (h : unescapeList t = some s) : t = escapeList s := by
  fun_induction unescapeList t generalizing s with
  | case1 => simp_all
  | case2 rest ih | case3 rest ih | case4 rest ih | case5 rest ih =>
    obtain ⟨u, hu, rfl⟩ := Option.map_eq_some_iff.1 h
    simp [ih hu, escapeChar]
  | case6 c rest _ _ _ _ hplain ih =>
    obtain ⟨u, hu, rfl⟩ := Option.map_eq_some_iff.1 h
    rw [escapeList_cons, escapeChar_plain hplain, ih hu]
    rfl
  | case7 => simp at h

theorem unescapeList_eq_some_iff {t s : List Char} : unescapeList t = some s ↔ t = escapeList s :=
  ⟨eq_escapeList_of_unescapeList, fun h => h ▸ unescapeList_escapeList s⟩

/-! ## Texts -/

theorem escape_append (s t : String) : escape (s ++ t) = escape s ++ escape t := by
  simp only [escape, String.toList_append, escapeList_append, String.ofList_append]

theorem escape_singleton_plain {c : Char} (h : isPlain c = true) :
    escape (String.singleton c) = String.singleton c := by
  simp only [escape, String.toList_singleton, escapeList_cons, escapeList_nil, List.append_nil,
    escapeChar_plain h]
  rfl

/-- Reading back accepts exactly the escaped texts, and gives the text each was escaped from. -/
theorem unescape_eq_some_iff {t s : String} : unescape t = some s ↔ t = escape s := by
  constructor
  · intro h
    obtain ⟨u, hu, rfl⟩ := Option.map_eq_some_iff.1 h
    rw [escape, String.toList_ofList, ← unescapeList_eq_some_iff.1 hu, String.ofList_toList]
  · rintro rfl
    simp [unescape, toList_escape, unescapeList_escapeList]

theorem escape_injective : Function.Injective escape := by
  intro s t h
  have hs : unescape (escape s) = some s := unescape_eq_some_iff.2 rfl
  rw [h, unescape_eq_some_iff.2 rfl] at hs
  exact (Option.some.inj hs).symm

/-- **Escaping is a one-pass, injective homomorphism.** It escapes a text piece by piece; it
replaces a backslash by two, a grave accent by a backslash and an apostrophe, an apostrophe by
the `Aq` string, a hyphen by the minus escape, and keeps every other character; and reading an
escaped text back left to right gives the text it came from and refuses every text that is not
an escaped one, so no two texts have the same escaped form. -/
theorem escape_one_pass_injective :
    (∀ s t : String, escape (s ++ t) = escape s ++ escape t) ∧
    (escape "\\" = "\\\\" ∧ escape "`" = "\\'" ∧ escape "'" = "\\*(Aq" ∧ escape "-" = "\\-" ∧
      ∀ c, isPlain c = true → escape (String.singleton c) = String.singleton c) ∧
    (∀ t s : String, unescape t = some s ↔ t = escape s) ∧
    Function.Injective escape :=
  ⟨escape_append, ⟨by decide, by decide, by decide, by decide, fun _ => escape_singleton_plain⟩,
    fun _ _ => unescape_eq_some_iff, escape_injective⟩

end HelpMan.Troff
