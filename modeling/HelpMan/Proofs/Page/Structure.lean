import HelpMan.Proofs.Page.Layout
import HelpMan.Proofs.Help.Grammar

/-!
# What keeps a page's structure

Text set into a page is escaped, and escaping keeps dots, quotes, spaces and line feeds
(`Troff.mem_escape`, `Troff.splitOn_escapeList`). So the lines of a page keep the structure
its templates give them (`Troff.Faithful`) only as long as the values set into them are clean
(`Layout.Clean`): no line of a text that can start an output line starts with a dot, no value
set in a quoted argument holds a quote or a line feed, and no value set in a bare argument a
space or a line feed. The condition is exact (`Layout.page_sound_iff`), and it carries over
to every page the generator writes (`Layout.generate_faithful_iff`).

The flags of an option entry never hold a line feed (`Help.newline_not_mem_flags`), so the
options section keeps its structure whatever its flags are.
-/

namespace HelpMan.Help

open Text

/-! ## Option flags are one line -/

/-- No entry read so far, the open one included, has a line feed in its flags. -/
def FlagsOneLine (st : List OptionEntry × Option OptionEntry) : Prop :=
  ∀ o ∈ st.1 ++ st.2.toList, '\n' ∉ o.flags.toList

theorem optionStep_flagsOneLine {st : List OptionEntry × Option OptionEntry} {raw : List Char}
    (h : FlagsOneLine st) (hraw : '\n' ∉ raw) : FlagsOneLine (optionStep st raw) := by
  obtain ⟨done, cur⟩ := st
  unfold optionStep
  dsimp only
  split
  · exact h
  · -- a line that opens an entry: its flags are the trimmed line
    rename_i rest hline
    intro o ho
    simp only [Option.toList_some, List.mem_append, List.mem_singleton] at ho
    rcases ho with ho | rfl
    · exact h o (by simpa using ho)
    · rw [String.toList_ofList, ← hline]
      exact fun hc => hraw (mem_of_mem_trimBlank hc)
  · -- a description line keeps the open entry's flags
    split
    · intro o ho
      exact h o (by simpa using ho)
    · rename_i o
      intro o' ho'
      simp only [Option.toList_some, List.mem_append, List.mem_singleton] at ho'
      rcases ho' with ho' | rfl
      · exact h o' (by simp [ho'])
      · exact h o (by simp)

theorem foldl_optionStep_flagsOneLine {pieces : List (List Char)} (hp : ∀ p ∈ pieces, '\n' ∉ p)
    {st : List OptionEntry × Option OptionEntry} (h : FlagsOneLine st) :
    FlagsOneLine (pieces.foldl optionStep st) := by
  induction pieces generalizing st with
  | nil => exact h
  | cons p ps ih =>
    exact ih (fun q hq => hp q (List.mem_cons_of_mem _ hq)) (optionStep_flagsOneLine h (hp p List.mem_cons_self))

/-- Every option entry's flags lie on one line. -/
theorem newline_not_mem_flags {text : String} {o : OptionEntry} (ho : o ∈ parseOptions text) :
    '\n' ∉ o.flags.toList := by
  have hrun : FlagsOneLine ((splitOn '\n' text.toList).foldl optionStep ([], none)) :=
    foldl_optionStep_flagsOneLine (fun _ hp => not_mem_of_mem_splitOn hp) (by simp [FlagsOneLine])
  exact hrun o ho

end HelpMan.Help

namespace HelpMan.Page.Layout

open Help Troff Text

theorem forall_mem_ite {α : Type} {p : Prop} [Decidable p] {xs ys : List α} {P : α → Prop} :
    (∀ x ∈ (if p then xs else ys), P x) ↔ (p → ∀ x ∈ xs, P x) ∧ (¬p → ∀ x ∈ ys, P x) := by
  split <;> simp_all

/-! ## The parts -/

theorem preamble_sound (command stamp : String) :
    (∀ L ∈ preamble command stamp, L.Sound) ↔ '\n' ∉ command.toList ∧ '\n' ∉ stamp.toList := by
  simp [preamble]

theorem toList_name (r : Request) : (name r).toList =
    escapeList r.command.toList ++ if r.subcommand = "" then [] else '\\' :: '-' :: escapeList r.subcommand.toList := by
  unfold name
  split <;> simp [toList_escape]

theorem mem_name {c : Char} (h : c ∉ ['\\', '`', '\'', '-', '*', '(', 'A', 'q']) (r : Request) :
    c ∈ (name r).toList ↔ c ∈ r.command.toList ∨ r.subcommand ≠ "" ∧ c ∈ r.subcommand.toList := by
  rw [toList_name]
  split <;> simp_all [mem_escapeList h]

/-- The name line starts with a control character iff the utility's name starts with a dot. -/
theorem startsControl_name (r : Request) :
    startsControl ((name r).toList ++ " \\-\\- ".toList) = dotted r.command.toList := by
  rw [toList_name]
  cases hc : r.command.toList with
  | nil => split <;> simp [dotted]
  | cons c cs => rw [List.append_assoc, startsControl_escapeList_append _ (List.cons_ne_nil c cs)]

theorem nameLine_sound (r : Request) (summary : String) (h : '\n' ∉ (name r).toList) :
    (Line.text (name r ++ " \\-\\- " ++ escape summary)).Sound ↔
      dotted r.command.toList = false ∧ (splitOn '\n' summary.toList).tail.any dotted = false := by
  have hlead : name r ++ " \\-\\- " = String.ofList ((name r).toList ++ " \\-\\- ".toList) := by simp
  rw [hlead, sound_text_lead summary (by simpa using h) (by simp), startsControl_name]

theorem titleLine_sound (name date version title : String) :
    (Line.request "TH" [.bare name, .bare "1", .quoted date, .quoted version, .quoted title]).Sound ↔
      (' ' ∉ name.toList ∧ '\n' ∉ name.toList) ∧ ('"' ∉ date.toList ∧ '\n' ∉ date.toList) ∧
      ('"' ∉ version.toList ∧ '\n' ∉ version.toList) ∧ ('"' ∉ title.toList ∧ '\n' ∉ title.toList) := by
  simp

/-- The title line and the name section keep their structure iff the page's name holds no space
or line feed, the date, version and title no quote or line feed, the utility's name does not
start with a dot and no line of the summary after its first does. -/
theorem head_sound (r : Request) (date summary : String) :
    (∀ L ∈ head (name r) date (escape (version r)) (escape r.title) (escape summary), L.Sound) ↔
      ((' ' ∉ r.command.toList ∧ '\n' ∉ r.command.toList) ∧
        (r.subcommand ≠ "" → ' ' ∉ r.subcommand.toList ∧ '\n' ∉ r.subcommand.toList)) ∧
      ('"' ∉ date.toList ∧ '\n' ∉ date.toList) ∧ ('"' ∉ (version r).toList ∧ '\n' ∉ (version r).toList) ∧
      ('"' ∉ r.title.toList ∧ '\n' ∉ r.title.toList) ∧
      dotted r.command.toList = false ∧ (splitOn '\n' summary.toList).tail.any dotted = false := by
  have hname : (' ' ∉ (name r).toList ∧ '\n' ∉ (name r).toList) ↔
      (' ' ∉ r.command.toList ∧ '\n' ∉ r.command.toList) ∧
        (r.subcommand ≠ "" → ' ' ∉ r.subcommand.toList ∧ '\n' ∉ r.subcommand.toList) := by
    rw [mem_name (by decide), mem_name (by decide)]
    grind
  have hheading : (heading "NAME").Sound := by simp [heading]
  rw [head, List.forall_mem_cons, List.forall_mem_cons, List.forall_mem_singleton, titleLine_sound, ← hname]
  simp only [hheading, true_and, quote_mem_escape, newline_mem_escape]
  constructor
  · rintro ⟨⟨hn, hd, hv, ht⟩, hline⟩
    exact ⟨hn, hd, hv, ht, (nameLine_sound r summary hn.2).mp hline⟩
  · rintro ⟨hn, hd, hv, ht, hline⟩
    exact ⟨⟨hn, hd, hv, ht⟩, (nameLine_sound r summary hn.2).mpr hline⟩

theorem synopsis_sound (command : String) :
    (∀ L ∈ synopsis (escape command), L.Sound) ↔ '"' ∉ command.toList ∧ '\n' ∉ command.toList := by
  simp [synopsis, heading]

theorem subSynopsis_sound (command subcommand : String) :
    (∀ L ∈ subSynopsis (escape command) (escape subcommand), L.Sound) ↔
      ('"' ∉ command.toList ∧ '\n' ∉ command.toList) ∧ ('"' ∉ subcommand.toList ∧ '\n' ∉ subcommand.toList) := by
  simp [subSynopsis, heading]
  grind

/-- An option's paragraph keeps its structure iff no line of its description starts with a
dot: its flags are one line that starts with a font escape. -/
theorem option_sound {o : OptionEntry} (hf : '\n' ∉ o.flags.toList) :
    (∀ L ∈ option o, L.Sound) ↔ ∀ l ∈ o.description, hasDotLine l = false := by
  have hflags : (Line.text ("\\fB" ++ escape o.flags ++ "\\fR")).Sound :=
    sound_text_of_one_line (by simpa using hf) (by simp)
  simp only [option, List.forall_mem_cons, List.forall_mem_append, List.forall_mem_map, hflags,
    sound_text_escape]
  simp

theorem overviewItem_sound (command : String) (c : Command) :
    (∀ L ∈ overviewItem command c, L.Sound) ↔
      ('"' ∉ command.toList ∧ '\n' ∉ command.toList) ∧ '"' ∉ c.name.toList ∧ '\n' ∉ c.name.toList ∧
        hasDotLine c.description = false := by
  simp [overviewItem]
  grind

theorem tagged_sound (tag body : String) :
    (∀ L ∈ tagged (escape tag) (escape body), L.Sound) ↔
      '"' ∉ tag.toList ∧ '\n' ∉ tag.toList ∧ hasDotLine body = false := by
  simp [tagged, and_assoc]

theorem link_sound (ref : String) : (∀ L ∈ link ref, L.Sound) ↔ ' ' ∉ ref.toList ∧ '\n' ∉ ref.toList := by
  simp [link]

@[simp] theorem sound_heading (title : String) :
    (heading title).Sound ↔ '"' ∉ title.toList ∧ '\n' ∉ title.toList := by
  simp [heading]

theorem options_sound (text : String) :
    (∀ o ∈ parseOptions text, ∀ L ∈ option o, L.Sound) ↔
      ∀ o ∈ parseOptions text, ∀ l ∈ o.description, hasDotLine l = false :=
  forall₂_congr fun _ ho => option_sound (newline_not_mem_flags ho)

/-- The see-also line is one line that starts with a font escape once no name in it holds a
line feed. -/
theorem seeAlso_sound {command : String} {cs : List Command} (hc : '\n' ∉ command.toList)
    (hn : ∀ c ∈ cs, '\n' ∉ c.name.toList) :
    (Line.text (", ".intercalate (references command cs))).Sound := by
  have href : ∀ x ∈ references command cs, '\n' ∉ x.toList := by
    intro x hx
    unfold references at hx
    split at hx
    · simp_all [reference]
    · obtain ⟨c, hc', rfl⟩ := List.mem_map.mp hx
      simp [reference, hc, hn c hc']
  obtain ⟨first, rest, hrefs⟩ : ∃ first rest, references command cs = reference first :: rest := by
    unfold references
    split
    · exact ⟨_, _, rfl⟩
    · obtain ⟨c, cs', rfl⟩ := List.exists_cons_of_ne_nil ‹cs ≠ []›
      exact ⟨_, _, rfl⟩
  apply sound_text_of_one_line
  · rw [String.toList_intercalate]
    exact not_mem_intercalate (by decide) (by simpa using href)
  · rw [String.toList_intercalate, hrefs, List.map_cons]
    simp [reference, List.intercalate_cons_cons_left]

/-! ## The page -/

/-- The values set into a page that keep the structure its templates give it: no value set in
a bare argument holds a space or a line feed, no value set in a quoted argument a quote or a
line feed, and no line of a text that can start an output line starts with a dot. -/
structure Clean (r : Request) (H : Record) (E : List EnvVar) (now : Clock.Reading) (fs : List FileEntry) :
    Prop where
  command : ' ' ∉ r.command.toList ∧ '"' ∉ r.command.toList ∧ '\n' ∉ r.command.toList ∧
    dotted r.command.toList = false
  subcommand : r.subcommand ≠ "" →
    ' ' ∉ r.subcommand.toList ∧ '"' ∉ r.subcommand.toList ∧ '\n' ∉ r.subcommand.toList
  versionText : '"' ∉ (version r).toList ∧ '\n' ∉ (version r).toList
  title : '"' ∉ r.title.toList ∧ '\n' ∉ r.title.toList
  stamp : '\n' ∉ now.stamp.toList
  date : '"' ∉ now.date.toList ∧ '\n' ∉ now.date.toList
  summary : (splitOn '\n' (H.text .summary).toList).tail.any dotted = false
  details : hasDotLine (H.text .details) = false
  options : H.has .options = true →
    ∀ o ∈ parseOptions (H.text .options), ∀ l ∈ o.description, hasDotLine l = false
  commands : ∀ c ∈ H.commands, '"' ∉ c.name.toList ∧ '\n' ∉ c.name.toList ∧ hasDotLine c.description = false
  environment : ∀ v ∈ E, '"' ∉ v.name.toList ∧ '\n' ∉ v.name.toList ∧
    hasDotLine v.description.trimBlank = false
  files : r.files ≠ "" → ∀ f ∈ fs, '"' ∉ f.path.toList ∧ '\n' ∉ f.path.toList ∧ hasDotLine f.description = false
  also : ∀ a ∈ r.also, ' ' ∉ a.toList ∧ '\n' ∉ a.toList

section Page

variable {r : Request} {H : Record} {E : List EnvVar} {now : Clock.Reading} {fs : List FileEntry}

/-- Every line of a page has a property iff every line of each of its parts has it. -/
theorem forall_mem_page {P : Line → Prop} :
    (∀ L ∈ page r H E now fs, P L) ↔
      (∀ L ∈ preamble r.command now.stamp, P L) ∧
      (∀ L ∈ head (name r) now.date (escape (version r)) (escape r.title) (escape (H.text .summary)), P L) ∧
      (r.subcommand = "" → ∀ L ∈ synopsis (escape r.command), P L) ∧
      (r.subcommand ≠ "" → ∀ L ∈ subSynopsis (escape r.command) (escape r.subcommand), P L) ∧
      P (heading "DESCRIPTION") ∧ (H.text .details ≠ "" → P (.text (escape (H.text .details)))) ∧
      (H.has .options = true → P (heading "OPTIONS") ∧ ∀ o ∈ parseOptions (H.text .options), ∀ L ∈ option o, P L) ∧
      (H.commands ≠ [] →
        P (heading "COMMAND OVERVIEW") ∧ ∀ c ∈ H.commands, ∀ L ∈ overviewItem r.command c, P L) ∧
      (E ≠ [] → P (heading "ENVIRONMENT") ∧
        ∀ v ∈ E, ∀ L ∈ tagged (escape v.name) (escape v.description.trimBlank), P L) ∧
      (r.files ≠ "" → P (heading "FILES") ∧ ∀ f ∈ fs, ∀ L ∈ tagged (escape f.path) (escape f.description), P L) ∧
      P (heading "SEE ALSO") ∧ P (.text (", ".intercalate (references r.command H.commands))) ∧
      ∀ a ∈ r.also, ∀ L ∈ link a, P L := by
  simp only [page, List.forall_mem_append, List.forall_mem_cons, forall_mem_ite, List.forall_mem_flatMap,
    List.not_mem_nil, false_implies, implies_true, and_true, true_and, ne_eq, and_assoc]

/-- **Exactness.** The lines of a page are all sound iff the values set into it are clean. -/
theorem page_sound_iff : (∀ L ∈ page r H E now fs, L.Sound) ↔ Clean r H E now fs := by
  simp only [forall_mem_page, preamble_sound, head_sound, synopsis_sound, subSynopsis_sound, sound_heading,
    options_sound, overviewItem_sound, tagged_sound, link_sound, sound_text_escape]
  constructor
  · rintro ⟨⟨-, hstamp⟩, ⟨⟨hcmd, hsub⟩, hdate, hver, htitle, hdot, hsum⟩, hsyn, hsubsyn, -, hdet, hopt, hcmds,
      henv, hfiles, -, -, halso⟩
    -- the utility's name is quoted in whichever synopsis the page has
    have hquote : '"' ∉ r.command.toList := by
      by_cases hs : r.subcommand = ""
      · exact (hsyn hs).1
      · exact (hsubsyn hs).1.1
    -- an empty details text has no line that starts with a dot
    have hdetails : hasDotLine (H.text .details) = false := by
      by_cases hd : H.text .details = ""
      · rw [hd]
        rfl
      · exact hdet hd
    exact {
      command := ⟨hcmd.1, hquote, hcmd.2, hdot⟩
      subcommand := fun hs => ⟨(hsub hs).1, (hsubsyn hs).2.1, (hsub hs).2⟩
      versionText := hver
      title := htitle
      stamp := hstamp
      date := hdate
      summary := hsum
      details := hdetails
      options := fun hh => (hopt hh).2
      commands := fun c hc => ((hcmds (List.ne_nil_of_mem hc)).2 c hc).2
      environment := fun v hv => (henv (List.ne_nil_of_mem hv)).2 v hv
      files := fun hf => (hfiles hf).2
      also := halso }
  · intro hc
    have hcommand : '"' ∉ r.command.toList ∧ '\n' ∉ r.command.toList := ⟨hc.command.2.1, hc.command.2.2.1⟩
    -- the headings are literals; every other part is read off one field of `Clean`
    refine ⟨⟨hcommand.2, hc.stamp⟩, ?head, fun _ => hcommand, fun hs => ⟨hcommand, (hc.subcommand hs).2⟩, by simp,
      fun _ => hc.details, fun hh => ⟨by simp, hc.options hh⟩,
      fun _ => ⟨by simp, fun c hm => ⟨hcommand, hc.commands c hm⟩⟩, fun _ => ⟨by simp, hc.environment⟩,
      fun hf => ⟨by simp, hc.files hf⟩, by simp, ?seeAlso, hc.also⟩
    case head =>
      have hname : r.subcommand ≠ "" → ' ' ∉ r.subcommand.toList ∧ '\n' ∉ r.subcommand.toList :=
        fun hs => ⟨(hc.subcommand hs).1, (hc.subcommand hs).2.2⟩
      exact ⟨⟨⟨hc.command.1, hcommand.2⟩, hname⟩, hc.date, hc.versionText, hc.title, hc.command.2.2.2, hc.summary⟩
    -- the see-also line is one line once no name in it holds a line feed
    case seeAlso => exact seeAlso_sound hcommand.2 fun c hm => (hc.commands c hm).2.1

end Page

/-! ## The generator -/

section Generate

variable {σ : Type} {g : Generator σ} {src : String → String → σ → HelpAnswer × σ} {r : Request} {s : σ}
  {h : String} {fs : List FileEntry}

/-- **The written page.** The page the generator writes keeps the structure its templates give
it exactly when the values set into it are clean. -/
theorem generate_faithful_iff (hcmd : r.command ≠ "") (hsrc : g.source = some src)
    (hh : (src r.command r.subcommand s).1.result = .ok h) (hf : parseFiles r.files = .ok fs) :
    (g.generate r .accepts s).1.written = Troff.render (page r (Help.parse h) g.environment g.now fs) ∧
      (Faithful (page r (Help.parse h) g.environment g.now fs) ↔
        Clean r (Help.parse h) g.environment g.now fs) :=
  ⟨(generate_accepts hcmd hsrc hh hf).2, (faithful_iff _).trans page_sound_iff⟩

/-- A help text whose details have a line that starts with a dot: the page written for it
carries that line as a request of its own. -/
theorem generate_faithful_iff_dotted_details :
    "widget" ≠ "" ∧ parseFiles "" = .ok [] ∧
    let t := "summary:\nmanage widgets\ndetails:\nwidget keeps track of widgets.\n.SH INJECTED\n'br"
    let g : Generator Unit := ⟨some (constantSource t), [], Log.Logger.discard, Clock.Reading.ofSeconds 0 "0s"⟩
    let r : Request := ⟨"widget", "", "", "", "", []⟩
    (g.generate r .accepts ()).1.written = Troff.render (page r (Help.parse t) g.environment g.now []) ∧
      ¬Faithful (page r (Help.parse t) g.environment g.now []) := by
  refine ⟨by decide, rfl, ?_⟩
  obtain ⟨hw, hiff⟩ := generate_faithful_iff (g := ⟨some (constantSource
    "summary:\nmanage widgets\ndetails:\nwidget keeps track of widgets.\n.SH INJECTED\n'br"), [],
    Log.Logger.discard, Clock.Reading.ofSeconds 0 "0s"⟩) (r := ⟨"widget", "", "", "", "", []⟩) (s := ())
    (by decide) rfl rfl rfl
  refine ⟨hw, fun hfaithful => ?_⟩
  have hdetails := (hiff.mp hfaithful).details
  revert hdetails
  decide +kernel

end Generate

end HelpMan.Page.Layout
