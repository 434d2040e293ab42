import HelpMan.Troff.Escape
import HelpMan.Text.Lines

/-!
# Pages as lines

A troff page is a sequence of lines of three kinds. A request is a dot, the request's name
and its arguments, each after a space, bare or between double quotes; a comment is a dot,
a backslash and a double quote before its body; a text line is its body. A page is written
as its lines, each ended by a line feed (`render`).

Writing distributes over the lines (`render_cons`, `render_append`), so a page built from
blocks is written block by block.

A line of output that starts with a dot or an apostrophe is read by troff as a control line.
A page keeps the structure of its lines (`Faithful`) when every control line of its output
is a whole request or comment line of the page, and every argument of a request stays one
argument. The output lines of a page are those of its lines in order (`output_render`), so
in the text of such a page every control line is a request or comment of the page
(`control_line_of_faithful`). A page keeps its structure iff each of its lines is sound
(`faithful_iff`): a request or a comment holds no line feed, a quoted argument no quote and a
bare one no space, and no line of a text starts with a control character.

Escaping keeps line feeds, quotes and spaces (`mem_escape`, `splitOn_escapeList`) and puts a
control character first only where the text starts with a dot (`startsControl_escapeList`):
an escaped text is sound iff none of its lines starts with a dot (`sound_text_escape`).
-/

namespace HelpMan.Troff

/-- An argument of a request: bare, or between double quotes. -/
inductive Arg where
  | bare (s : String)
  | quoted (s : String)
  deriving DecidableEq, Repr

/-- A line of a page. -/
inductive Line where
  | request (name : String) (args : List Arg)
  | comment (body : String)
  | text (body : String)
  deriving DecidableEq, Repr

/-- The text of an argument. -/
def Arg.render : Arg → String
  | .bare s => s
  | .quoted s => "\"" ++ s ++ "\""

/-- The text of a line, without its line feed. -/
def Line.render : Line → String
  | .request name args => "." ++ name ++ String.join (args.map fun a => " " ++ a.render)
  | .comment body => ".\\\"" ++ body
  | .text body => body

/-- The text of a page: its lines, each ended by a line feed. -/
def render (ls : List Line) : String := String.join (ls.map fun l => l.render ++ "\n")

@[simp] theorem render_nil : render [] = "" := rfl

@[simp] theorem render_cons (l : Line) (ls : List Line) : render (l :: ls) = l.render ++ "\n" ++ render ls := by
  simp [render, String.join_cons]

@[simp] theorem render_append (ls ls' : List Line) : render (ls ++ ls') = render ls ++ render ls' := by
  simp [render, String.join_append]

theorem render_flatMap {α : Type} (f : α → List Line) (xs : List α) :
    render (xs.flatMap f) = String.join (xs.map fun x => render (f x)) := by
  induction xs with
  | nil => rfl
  | cons x xs ih => simp [ih, String.join_cons]

/-! ## Output lines -/

open Text

/-- Whether an output line starts with a control character: a dot or an apostrophe. -/
def startsControl : List Char → Bool
  | '.' :: _ => true
  | '\'' :: _ => true
  | _ => false

/-- The output lines that a line of a page writes: one, unless its text holds line feeds. -/
def Line.output (L : Line) : List (List Char) := splitOn '\n' L.render.toList

/-- Whether a line is a request or a comment, that is, written as a control line. -/
def Line.isControl : Line → Bool
  | .text _ => false
  | _ => true

/-- An argument that stays one argument: a quoted one holds no quote, a bare one no space, and
neither a line feed. -/
def Arg.Intact : Arg → Prop
  | .bare s => ' ' ∉ s.toList ∧ '\n' ∉ s.toList
  | .quoted s => '"' ∉ s.toList ∧ '\n' ∉ s.toList

/-- A line that writes what its kind says: a request or comment on one output line with its
arguments intact, a text with no output line that starts with a control character. -/
def Line.Sound : Line → Prop
  | .request name args => '\n' ∉ name.toList ∧ ∀ a ∈ args, a.Intact
  | .comment body => '\n' ∉ body.toList
  | .text body => ∀ l ∈ splitOn '\n' body.toList, startsControl l = false

instance : DecidablePred Arg.Intact := fun a => by
  cases a <;> unfold Arg.Intact <;> infer_instance

instance : DecidablePred Line.Sound := fun L => by
  cases L <;> unfold Line.Sound <;> infer_instance

@[simp] theorem sound_request (name : String) (args : List Arg) :
    (Line.request name args).Sound ↔ '\n' ∉ name.toList ∧ ∀ a ∈ args, a.Intact := Iff.rfl

@[simp] theorem sound_comment (body : String) : (Line.comment body).Sound ↔ '\n' ∉ body.toList := Iff.rfl

/-- A page keeps the structure of its lines: every output line that starts with a control
character is a whole request or comment line of the page, and the arguments of every request
are intact. -/
def Faithful (ls : List Line) : Prop :=
  ∀ L ∈ ls, (∀ l ∈ L.output, startsControl l = true → L.isControl = true ∧ l = L.render.toList) ∧
    ∀ name args, L = .request name args → ∀ a ∈ args, a.Intact

theorem splitOn_of_not_mem {sep : Char} {cs : List Char} (h : sep ∉ cs) : splitOn sep cs = [cs] := by
  induction cs with
  | nil => rfl
  | cons c cs ih =>
    have hc : c ≠ sep := fun e => h (e ▸ List.mem_cons_self)
    have ih := ih fun hs => h (List.mem_cons_of_mem _ hs)
    simp [splitOn, hc, ih]

@[simp] theorem splitOn_nil (sep : Char) : splitOn sep [] = [[]] := rfl

theorem splitOn_eq_cons (sep : Char) (cs : List Char) : ∃ l ls, splitOn sep cs = l :: ls :=
  List.exists_cons_of_ne_nil (splitOn_ne_nil sep cs)

/-- Cutting a text at a separator cuts it into the pieces before and after. -/
theorem splitOn_append_sep (sep : Char) (a b : List Char) :
    splitOn sep (a ++ sep :: b) = splitOn sep a ++ splitOn sep b := by
  induction a with
  | nil => simp [splitOn]
  | cons c a ih =>
    by_cases hc : c = sep
    · simp [splitOn, hc, ih]
    · obtain ⟨l, ls, hl⟩ := splitOn_eq_cons sep a
      simp [splitOn, hc, ih, hl]

/-- Text without the separator in front of a text joins the first piece of that text. -/
theorem splitOn_append_of_not_mem {sep : Char} {a : List Char} (b : List Char) (h : sep ∉ a)
    {l : List Char} {ls : List (List Char)} (hb : splitOn sep b = l :: ls) :
    splitOn sep (a ++ b) = (a ++ l) :: ls := by
  induction a with
  | nil => simpa using hb
  | cons c a ih =>
    have hc : c ≠ sep := fun e => h (e ▸ List.mem_cons_self)
    simp [splitOn, hc, ih fun hs => h (List.mem_cons_of_mem _ hs)]

/-- The output lines of a page are those of its lines, in order, and the empty text after the
last line feed. -/
theorem output_render (ls : List Line) : splitOn '\n' (render ls).toList = ls.flatMap Line.output ++ [[]] := by
  induction ls with
  | nil => rfl
  | cons L ls ih =>
    rw [render_cons, String.toList_append, String.toList_append, show "\n".toList = ['\n'] from rfl,
      List.append_assoc, List.singleton_append, splitOn_append_sep, ih, List.flatMap_cons, List.append_assoc]
    rfl

/-- The first piece of a text that starts with a character other than the separator starts
with that character. -/
theorem splitOn_cons_of_ne {sep c : Char} (cs : List Char) (h : c ≠ sep) :
    ∃ rest ps, splitOn sep (c :: cs) = (c :: rest) :: ps := by
  obtain ⟨l, ls, hs⟩ := splitOn_eq_cons sep cs
  exact ⟨l, ls, by simp [splitOn, h, hs]⟩

/-- A text that starts with a dot writes no control line but itself iff it is one line. -/
theorem control_pieces_iff (cs : List Char) :
    (∀ l ∈ splitOn '\n' ('.' :: cs), startsControl l = true → l = '.' :: cs) ↔ '\n' ∉ '.' :: cs := by
  constructor
  · intro h
    obtain ⟨rest, ps, hs⟩ := splitOn_cons_of_ne cs (show '.' ≠ '\n' by decide)
    have hfirst : '.' :: rest ∈ splitOn '\n' ('.' :: cs) := hs ▸ List.mem_cons_self
    have hwhole := h _ hfirst rfl
    rw [hwhole] at hfirst
    exact not_mem_of_mem_splitOn hfirst
  · intro h l hl _
    rw [splitOn_of_not_mem h] at hl
    exact List.mem_singleton.mp hl

theorem newline_not_mem_arg {a : Arg} (h : a.Intact) : '\n' ∉ (" " ++ a.render).toList := by
  cases a <;> simp_all [Arg.Intact, Arg.render]

/-- A request is written on one line iff its name and arguments hold no line feed. -/
theorem newline_not_mem_request (name : String) (args : List Arg) :
    '\n' ∉ (Line.request name args).render.toList ↔
      '\n' ∉ name.toList ∧ ∀ a ∈ args, '\n' ∉ (" " ++ a.render).toList := by
  simp [Line.render, String.toList_join]

/-- Each line keeps its own structure iff it is sound. -/
theorem line_faithful_iff (L : Line) :
    ((∀ l ∈ L.output, startsControl l = true → L.isControl = true ∧ l = L.render.toList) ∧
      ∀ name args, L = .request name args → ∀ a ∈ args, a.Intact) ↔ L.Sound := by
  cases L with
  | text body => simp [Line.output, Line.render, Line.isControl, Line.Sound]
  | comment body =>
    have hr : (Line.comment body).render.toList = '.' :: ('\\' :: '"' :: body.toList) := by
      simp [Line.render]
    simp only [Line.output, Line.isControl, hr, true_and, control_pieces_iff, Line.Sound]
    simp
  | request name args =>
    obtain ⟨cs, hcs⟩ : ∃ cs, (Line.request name args).render.toList = '.' :: cs :=
      ⟨(name ++ String.join (args.map fun a => " " ++ a.render)).toList, by simp [Line.render]⟩
    simp only [Line.output, Line.isControl, hcs, true_and, control_pieces_iff, Line.Sound]
    rw [← hcs, newline_not_mem_request]
    constructor
    · rintro ⟨⟨hname, -⟩, hargs⟩
      exact ⟨hname, hargs name args rfl⟩
    · rintro ⟨hname, hargs⟩
      refine ⟨⟨hname, fun a ha => newline_not_mem_arg (hargs a ha)⟩, ?_⟩
      rintro _ _ ⟨rfl, rfl⟩
      exact hargs

/-- A page keeps the structure of its lines iff every line of it is sound. -/
theorem faithful_iff (ls : List Line) : Faithful ls ↔ ∀ L ∈ ls, L.Sound :=
  forall₂_congr fun L _ => line_faithful_iff L

/-- In the text of a page that keeps its structure, every line that starts with a control
character is a whole request or comment line of the page. -/
theorem control_line_of_faithful {ls : List Line} (h : Faithful ls) {l : List Char}
    (hl : l ∈ splitOn '\n' (render ls).toList) (hc : startsControl l = true) :
    ∃ L ∈ ls, L.isControl = true ∧ l = L.render.toList := by
  rw [output_render, List.mem_append, List.mem_flatMap, List.mem_singleton] at hl
  rcases hl with ⟨L, hL, hlL⟩ | rfl
  · exact ⟨L, hL, (h L hL).1 l hlL hc⟩
  · cases hc

/-! ## Escaped text -/

/-- Whether a line of text starts with a dot. -/
def dotted (l : List Char) : Bool := l.head? == some '.'

/-- Whether some line of a text starts with a dot. -/
def hasDotLine (s : String) : Bool := (splitOn '\n' s.toList).any dotted

@[simp] theorem startsControl_nil : startsControl [] = false := rfl

@[simp] theorem startsControl_cons (c : Char) (cs : List Char) :
    startsControl (c :: cs) = (c == '.' || c == '\'') := by
  unfold startsControl
  split <;> simp_all

theorem startsControl_append {a : List Char} (b : List Char) (h : a ≠ []) :
    startsControl (a ++ b) = startsControl a := by
  obtain ⟨c, cs, rfl⟩ := List.exists_cons_of_ne_nil h
  simp

@[simp] theorem escapeList_nil : escapeList [] = [] := rfl

@[simp] theorem escapeList_cons (c : Char) (cs : List Char) :
    escapeList (c :: cs) = escapeChar c ++ escapeList cs :=
  List.flatMap_cons

theorem toList_escape (s : String) : (escape s).toList = escapeList s.toList :=
  String.toList_ofList

theorem escapeChar_ne_nil (c : Char) : escapeChar c ≠ [] := by
  unfold escapeChar
  split <;> simp

/-- A character that no replacement writes is in an escaped text iff it is in the text. -/
theorem mem_escapeList {c : Char} (h : c ∉ ['\\', '`', '\'', '-', '*', '(', 'A', 'q']) (cs : List Char) :
    c ∈ escapeList cs ↔ c ∈ cs := by
  induction cs with
  | nil => simp
  | cons d cs ih =>
    have hd : c ∈ escapeChar d ↔ c = d := by
      unfold escapeChar
      split <;> simp_all
    simp [hd, ih]

/-- Quotes, spaces and line feeds are kept by escaping and never written by it. -/
@[simp] theorem mem_escape {c : Char} (h : c ∉ ['\\', '`', '\'', '-', '*', '(', 'A', 'q']) (s : String) :
    c ∈ (escape s).toList ↔ c ∈ s.toList := by
  rw [toList_escape, mem_escapeList h]

@[simp] theorem quote_mem_escape (s : String) : '"' ∈ (escape s).toList ↔ '"' ∈ s.toList :=
  mem_escape (by decide) s

@[simp] theorem space_mem_escape (s : String) : ' ' ∈ (escape s).toList ↔ ' ' ∈ s.toList :=
  mem_escape (by decide) s

@[simp] theorem newline_mem_escape (s : String) : '\n' ∈ (escape s).toList ↔ '\n' ∈ s.toList :=
  mem_escape (by decide) s

/-- Escaping never puts a control character first but a dot it keeps. -/
theorem startsControl_escapeList (cs : List Char) : startsControl (escapeList cs) = dotted cs := by
  cases cs with
  | nil => rfl
  | cons c cs =>
    rw [escapeList_cons, startsControl_append _ (escapeChar_ne_nil c)]
    unfold escapeChar
    split <;> simp_all [dotted]

theorem startsControl_escapeList_append {cs : List Char} (rest : List Char) (h : cs ≠ []) :
    startsControl (escapeList cs ++ rest) = dotted cs := by
  obtain ⟨c, cs, rfl⟩ := List.exists_cons_of_ne_nil h
  rw [startsControl_append _ (by simp [escapeChar_ne_nil]), startsControl_escapeList]

/-- Escaping keeps the line feeds: the lines of an escaped text are its lines, escaped. -/
theorem splitOn_escapeList (cs : List Char) : splitOn '\n' (escapeList cs) = (splitOn '\n' cs).map escapeList := by
  induction cs with
  | nil => rfl
  | cons c cs ih =>
    by_cases hc : c = '\n'
    · subst hc
      simp [escapeChar, splitOn, ih]
    · obtain ⟨l, ls, hl⟩ := splitOn_eq_cons '\n' cs
      have hc' : '\n' ∉ escapeChar c := by
        unfold escapeChar
        split <;> simp_all [eq_comm]
      have hsplit : splitOn '\n' (escapeList cs) = escapeList l :: ls.map escapeList := by
        rw [ih, hl, List.map_cons]
      rw [escapeList_cons, splitOn_append_of_not_mem _ hc' hsplit]
      simp [splitOn, hc, hl]

/-- An escaped text set as a line writes no control line iff no line of it starts with a dot. -/
@[simp] theorem sound_text_escape (s : String) : (Line.text (escape s)).Sound ↔ hasDotLine s = false := by
  simp [Line.Sound, hasDotLine, toList_escape, splitOn_escapeList, startsControl_escapeList]

/-- A lead-in without line feeds followed by an escaped text writes no control line iff the
lead-in does not start with one and no later line of the text starts with a dot. -/
theorem sound_text_lead {a : List Char} (s : String) (ha : '\n' ∉ a) (hne : a ≠ []) :
    (Line.text (String.ofList a ++ escape s)).Sound ↔
      startsControl a = false ∧ (splitOn '\n' s.toList).tail.any dotted = false := by
  obtain ⟨l, ls, hl⟩ := splitOn_eq_cons '\n' s.toList
  have hsplit : splitOn '\n' (escapeList s.toList) = escapeList l :: ls.map escapeList := by
    rw [splitOn_escapeList, hl, List.map_cons]
  simp [Line.Sound, toList_escape, splitOn_append_of_not_mem _ ha hsplit, startsControl_append _ hne, hl,
    startsControl_escapeList]

/-- A text on one line that does not start with a control character is sound. -/
@[simp] theorem sound_text_of_one_line {body : String} (h : '\n' ∉ body.toList) (hs : startsControl body.toList = false) :
    (Line.text body).Sound := by
  simp [Line.Sound, splitOn_of_not_mem h, hs]

@[simp] theorem intact_quoted (s : String) : (Arg.quoted s).Intact ↔ '"' ∉ s.toList ∧ '\n' ∉ s.toList := Iff.rfl

@[simp] theorem intact_bare (s : String) : (Arg.bare s).Intact ↔ ' ' ∉ s.toList ∧ '\n' ∉ s.toList := Iff.rfl

theorem not_mem_intercalate {c : Char} {sep : List Char} {xs : List (List Char)} (hs : c ∉ sep)
    (hx : ∀ x ∈ xs, c ∉ x) : c ∉ sep.intercalate xs := by
  induction xs with
  | nil => simp
  | cons x xs ih =>
    have ih := ih fun y hy => hx y (List.mem_cons_of_mem _ hy)
    cases xs with
    | nil => simpa using hx x List.mem_cons_self
    | cons y ys =>
      rw [List.intercalate_cons_cons]
      simp only [List.mem_append, not_or]
      exact ⟨⟨hx x List.mem_cons_self, hs⟩, ih⟩

end HelpMan.Troff
