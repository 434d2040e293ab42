import HelpMan.Page.Generate
import HelpMan.Proofs.Troff.Lines

/-!
# The layout of a page

A page is a sequence of parts, each a block of lines (`Layout.page`):

* the preamble: comments that name the utility and the moment, and the `Aq` string;
* the title line with the page's name, the date, the escaped version (`0.0.1` when the
  request names none) and the escaped title, and the name section with the escaped summary;
* the synopsis of the utility, or of its subcommand when the request names one;
* the description heading, with the escaped details when they are not empty;
* the options section, with one paragraph per option entry, when the help text has an
  options header at all, even one with nothing under it;
* the command overview when the help text lists commands, the environment when the table
  has entries, and the files when the request gives a files list;
* the see-also section, with one reference per command and the utility's own page when
  there is none;
* one link per extra reference.

The generator writes exactly this page (`generate_writes_layout`): the parts depend on the
help text only through its summary, details, options section and commands, so two help
texts that agree on these give the same page. What a generation hands its destination, and
how it ends, is read off the help source's answer, the page and the destination alone
(`generate_outputs`).
-/

namespace HelpMan.Page.Layout

open Help Troff

/-! ## The parts -/

/-- A section heading. -/
def heading (title : String) : Line := .request "SH" [.quoted title]

/-- A paragraph tagged in italics. -/
def tagged (tag body : String) : List Line := [.request "TP" [], .request "I" [.quoted tag], .text body]

/-- The comments that open a page, and the definition of the `Aq` string. -/
def preamble (command stamp : String) : List Line :=
  [.comment ("Man page for " ++ command), .comment "",
   .comment " Large parts of this file are autogenerated from the output of",
   .comment ("     \"" ++ command ++ " help commands\""), .comment ("     \"" ++ command ++ " help <command>\""),
   .comment "", .comment (" Generation time: " ++ stamp), .comment "", .text "",
   .request "ie" [.bare "\\n(.g", .bare ".ds", .bare "Aq", .bare "\\(aq"],
   .request "el" [.bare ".ds", .bare "Aq", .bare "'"]]

/-- The title line and the name section. -/
def head (name date version title summary : String) : List Line :=
  [.request "TH" [.bare name, .bare "1", .quoted date, .quoted version, .quoted title],
   heading "NAME", .text (name ++ " \\-\\- " ++ summary)]

/-- The synopsis of a utility with commands. -/
def synopsis (command : String) : List Line :=
  [heading "SYNOPSIS", .request "B" [.quoted command], .request "I" [.quoted "command"], .text "[",
   .request "I" [.quoted "command_options"], .text "]", .request "br" [], .request "B" [.quoted command],
   .request "B" [.quoted "help"], .request "br" [], .request "B" [.quoted command], .request "B" [.quoted "help"],
   .request "I" [.quoted "command"]]

/-- The synopsis of a subcommand. -/
def subSynopsis (command subcommand : String) : List Line :=
  [heading "SYNOPSIS", .request "B" [.quoted (command ++ " " ++ subcommand)], .text "[",
   .request "I" [.quoted "options"], .text "]", .request "br" [],
   .request "B" [.quoted (command ++ " " ++ subcommand)], .request "B" [.quoted "help"]]

/-- The paragraph of one option entry: the flags in bold, the description indented. -/
def option (o : OptionEntry) : List Line :=
  .request "PP" [] :: .text ("\\fB" ++ escape o.flags ++ "\\fR") :: .request "RS" [.bare "4"] ::
    (o.description.map fun l => .text (escape l)) ++ [.request "RE" []]

/-- The tagged paragraph of one command of the overview. -/
def overviewItem (command : String) (c : Command) : List Line :=
  [.request "TP" [], .request "B" [.quoted (escape command ++ " " ++ escape c.name)], .text (escape c.description)]

/-- A reference to a page of section one. -/
def reference (page : String) : String := "\\fB" ++ escape page ++ "\\fR(1)"

/-- The pages the see-also section refers to: each command's, or the utility's own. -/
def references (command : String) (cs : List Command) : List String :=
  if cs = [] then [reference command] else cs.map fun c => reference (command ++ "-" ++ c.name)

/-- A link to an extra reference. -/
def link (ref : String) : List Line := [.request "UR" [.bare (escape ref)], .request "UE" []]

/-! ## The page -/

/-- The version a request asks for, `0.0.1` when it names none. -/
def version (r : Request) : String := if r.version = "" then "0.0.1" else r.version

/-- The page's name: the utility, or the utility and the subcommand joined by a minus, escaped. -/
def name (r : Request) : String :=
  if r.subcommand = "" then escape r.command else escape r.command ++ "\\-" ++ escape r.subcommand

/-- The page for a request, a parsed help text, an environment table, a moment and the entries
of the request's files list. -/
def page (r : Request) (H : Record) (E : List EnvVar) (now : Clock.Reading) (fs : List FileEntry) : List Line :=
  preamble r.command now.stamp ++
  head (name r) now.date (escape (version r)) (escape r.title) (escape (H.text .summary)) ++
  (if r.subcommand = "" then synopsis (escape r.command) else subSynopsis (escape r.command) (escape r.subcommand)) ++
  heading "DESCRIPTION" :: (if H.text .details = "" then [] else [.text (escape (H.text .details))]) ++
  (if H.has .options then heading "OPTIONS" :: (parseOptions (H.text .options)).flatMap option else []) ++
  (if H.commands = [] then [] else heading "COMMAND OVERVIEW" :: H.commands.flatMap (overviewItem r.command)) ++
  (if E = [] then [] else
    heading "ENVIRONMENT" :: E.flatMap fun v => tagged (escape v.name) (escape v.description.trimBlank)) ++
  (if r.files = "" then [] else heading "FILES" :: fs.flatMap fun f => tagged (escape f.path) (escape f.description)) ++
  [heading "SEE ALSO", .text (", ".intercalate (references r.command H.commands))] ++
  r.also.flatMap link

/-- The see-also section names one page per command, and one page when there is none. -/
theorem length_references (command : String) (cs : List Command) :
    (references command cs).length = max 1 cs.length := by
  unfold references
  split
  · subst_vars
    rfl
  · rename_i h
    have : 1 ≤ cs.length := List.length_pos_iff.mpr h
    simp only [List.length_map]
    omega

/-! ## The blocks the page is written from -/

section Blocks

/-! Each template below is compared with the lines it writes character by character: the two cut
their literals in different places, but spell the same text. -/

variable (p : Params)

set_option maxRecDepth 8000 in
theorem preamble_eq : Page.preamble p = Troff.render (preamble p.rawCommand p.timestamp) := by
  unfold Page.preamble preamble
  refine String.toList_inj.mp ?_
  simp [Line.render, Arg.render]

theorem head_eq : Page.head p = Troff.render (head p.page p.datestamp p.version p.title p.summary) := by
  unfold Page.head head heading
  refine String.toList_inj.mp ?_
  simp [Line.render, Arg.render]

theorem synopsis_eq : Page.synopsis p = Troff.render (synopsis p.command) := by
  unfold Page.synopsis synopsis heading
  refine String.toList_inj.mp ?_
  simp [Line.render, Arg.render]

theorem subcommandSynopsis_eq : Page.subcommandSynopsis p = Troff.render (subSynopsis p.command p.subcommand) := by
  unfold Page.subcommandSynopsis subSynopsis heading
  refine String.toList_inj.mp ?_
  simp [Line.render, Arg.render]

/-- The description heading and text, followed by the options section when there is one. -/
theorem description_eq : Page.description p =
    Troff.render (heading "DESCRIPTION" :: if p.description = "" then [] else [.text p.description]) ++
      (if p.hasOptions then Troff.render [heading "OPTIONS"] ++ p.options else "") := by
  unfold Page.description heading
  refine String.toList_inj.mp ?_
  by_cases hd : p.description = "" <;> by_cases ho : p.hasOptions <;> simp [hd, ho, Line.render, Arg.render]

end Blocks

section Formatters

theorem render_map_text (f : String → String) (xs : List String) :
    Troff.render (xs.map fun x => .text (f x)) = String.join (xs.map fun x => f x ++ "\n") := by
  induction xs with
  | nil => rfl
  | cons x xs ih => simp [ih, String.join_cons, Line.render]

theorem optionBlock_eq (o : OptionEntry) : optionBlock o = Troff.render (option o) := by
  unfold optionBlock option
  refine String.toList_inj.mp ?_
  simp [render_map_text, Line.render, Arg.render]

theorem taggedItem_eq (tag body : String) : taggedItem tag body = Troff.render (tagged tag body) := by
  unfold taggedItem tagged
  refine String.toList_inj.mp ?_
  simp [Line.render, Arg.render]

theorem heading_line (title : String) : (heading title).render ++ "\n" = ".SH \"" ++ title ++ "\"\n" := by
  unfold heading
  refine String.toList_inj.mp ?_
  simp [Line.render, Arg.render]

theorem link_eq (ref : String) : Troff.render (link ref) = ".UR " ++ escape ref ++ "\n.UE\n" := by
  unfold link
  refine String.toList_inj.mp ?_
  simp [Line.render, Arg.render]

theorem formatOptions_eq (text : String) (present : Bool) : formatOptions text present =
    if present then (Troff.render ((parseOptions text).flatMap option), true) else ("", false) := by
  unfold formatOptions
  simp only [render_flatMap, ← optionBlock_eq]

theorem formatFiles_eq (fs : List FileEntry) : formatFiles fs = Troff.render (if fs = [] then [] else
    heading "FILES" :: fs.flatMap fun f => tagged (escape f.path) (escape f.description)) := by
  unfold formatFiles
  cases fs with
  | nil => rfl
  | cons f fs =>
    simp only [List.isEmpty_cons, Bool.false_eq_true, if_false, reduceCtorEq, render_cons, heading_line,
      render_flatMap, taggedItem_eq]
    simp

theorem formatEnvironment_eq (E : List EnvVar) : formatEnvironment E = Troff.render (if E = [] then [] else
    heading "ENVIRONMENT" :: E.flatMap fun v => tagged (escape v.name) (escape v.description.trimBlank)) := by
  unfold formatEnvironment
  cases E with
  | nil => rfl
  | cons v E =>
    simp only [List.isEmpty_cons, Bool.false_eq_true, if_false, reduceCtorEq, render_cons, heading_line,
      render_flatMap, taggedItem_eq]
    simp

theorem overviewItem_eq (command : String) (c : Command) : Troff.render (overviewItem command c) =
    ".TP\n" ++ ".B \"" ++ escape command ++ " " ++ escape c.name ++ "\"\n" ++ escape c.description ++ "\n" := by
  unfold overviewItem
  refine String.toList_inj.mp ?_
  simp [Line.render, Arg.render]

theorem formatCommandOverview_eq (command : String) (cs : List Command) : formatCommandOverview command cs =
    Troff.render (if cs = [] then [] else heading "COMMAND OVERVIEW" :: cs.flatMap (overviewItem command)) := by
  unfold formatCommandOverview
  cases cs with
  | nil => rfl
  | cons c cs =>
    simp only [List.isEmpty_cons, Bool.false_eq_true, if_false, reduceCtorEq, render_cons, heading_line,
      render_flatMap, overviewItem_eq]
    simp

theorem manRef_eq_reference : manRef = reference := rfl

theorem formatSeeAlso_eq (command : String) (cs : List Command) : formatSeeAlso command cs =
    Troff.render [heading "SEE ALSO", .text (", ".intercalate (references command cs))] := by
  unfold formatSeeAlso
  rw [render_cons, heading_line]
  cases cs <;> simp [references, manRef_eq_reference, Line.render, String.append_assoc]

theorem formatAlso_eq (refs : List String) : formatAlso refs = Troff.render (refs.flatMap link) := by
  unfold formatAlso
  simp only [render_flatMap, link_eq]

end Formatters


/-! ## From the request to the page -/

theorem escape_eq_empty_iff {s : String} : escape s = "" ↔ s = "" := by
  have hc : ∀ c, escapeChar c ≠ [] := by
    intro c
    unfold escapeChar
    split <;> simp
  constructor
  · intro h
    have hl : escapeList s.toList = [] := by
      rw [← String.toList_ofList (l := escapeList s.toList)]
      exact String.toList_eq_nil_iff.mpr h
    cases hs : s.toList with
    | nil => exact String.toList_eq_nil_iff.mp hs
    | cons c cs =>
      rw [hs, escapeList, List.flatMap_cons] at hl
      exact absurd (List.append_eq_nil_iff.mp hl).1 (hc c)
  · rintro rfl
    rfl

theorem length_parseFileLines {n : Nat} {ls : List (List Char)} {fs : List FileEntry}
    (h : parseFileLines n ls = .ok fs) : fs.length = ls.length := by
  induction ls generalizing n fs with
  | nil =>
    simp only [parseFileLines, Except.ok.injEq] at h
    subst h
    rfl
  | cons l ls ih =>
    simp only [parseFileLines] at h
    split at h
    · cases h
    · cases hr : parseFileLines (n + 1) ls with
      | error e => rw [hr] at h; cases h
      | ok fs' =>
        rw [hr] at h
        simp only [Except.map, Except.ok.injEq] at h
        subst h
        simp [ih hr]

/-- A files list has entries iff it is not empty. -/
theorem parseFiles_eq_nil_iff {list : String} {fs : List FileEntry} (h : parseFiles list = .ok fs) :
    fs = [] ↔ list = "" := by
  unfold parseFiles at h
  split at h
  · rename_i he
    simp only [Except.ok.injEq] at h
    simp [← h, he]
  · rename_i he
    have hlen := length_parseFileLines h
    have hne := Text.splitOn_ne_nil '\n' list.toList
    constructor
    · intro hf
      subst hf
      exact absurd (List.length_eq_zero_iff.mp hlen.symm) hne
    · intro hl
      exact absurd hl he

/-- The parameters of a page whose files list reads. -/
theorem make_eq {r : Request} {H : Record} {now : Clock.Reading} {fs : List FileEntry}
    (hf : parseFiles r.files = .ok fs) : Params.make r H now = .ok
      { rawCommand := r.command, command := escape r.command, subcommand := escape r.subcommand,
        title := escape r.title, version := escape (version r), summary := escape (H.text .summary),
        description := escape (H.text .details), options := (formatOptions (H.text .options) (H.has .options)).1,
        hasOptions := (formatOptions (H.text .options) (H.has .options)).2, examples := escape (H.text .examples),
        hasExamples := H.has .examples && H.text .examples != "", files := fs, timestamp := now.stamp,
        datestamp := now.date } := by
  simp only [Params.make, hf]
  rfl

section Make

variable {r : Request} {H : Record} {now : Clock.Reading} {fs : List FileEntry} {p : Params}

/-- What the parameters of a page hold. -/
theorem make_fields (hf : parseFiles r.files = .ok fs) (hp : Params.make r H now = .ok p) :
    p.rawCommand = r.command ∧ p.command = escape r.command ∧ p.subcommand = escape r.subcommand ∧
    p.title = escape r.title ∧ p.version = escape (version r) ∧ p.summary = escape (H.text .summary) ∧
    p.description = escape (H.text .details) ∧ p.hasOptions = H.has .options ∧
    p.options = (if H.has .options then Troff.render ((parseOptions (H.text .options)).flatMap option) else "") ∧
    p.files = fs ∧ p.timestamp = now.stamp ∧ p.datestamp = now.date := by
  rw [make_eq hf, Except.ok.injEq] at hp
  subst hp
  refine ⟨rfl, rfl, rfl, rfl, rfl, rfl, rfl, ?_, ?_, rfl, rfl, rfl⟩
  · rw [formatOptions_eq]
    split <;> simp_all
  · rw [formatOptions_eq]
    split <;> simp_all

/-- The page's name is the request's. -/
theorem page_make (hf : parseFiles r.files = .ok fs) (hp : Params.make r H now = .ok p) : p.page = name r := by
  obtain ⟨-, hc, hs, -⟩ := make_fields hf hp
  simp only [Params.page, name, hc, hs, escape_eq_empty_iff]

/-- The synopsis is the subcommand's exactly when the request names a subcommand. -/
theorem synopsis_make (hf : parseFiles r.files = .ok fs) (hp : Params.make r H now = .ok p) :
    (if p.hasSubcommand then subcommandSynopsis p else Page.synopsis p) = Troff.render
      (if r.subcommand = "" then synopsis (escape r.command) else subSynopsis (escape r.command) (escape r.subcommand)) := by
  obtain ⟨-, hc, hs, -⟩ := make_fields hf hp
  by_cases hsub : r.subcommand = ""
  · have hn : p.hasSubcommand = false := by simp [Params.hasSubcommand, hs, hsub, escape_eq_empty_iff]
    rw [hn, if_neg Bool.false_ne_true, synopsis_eq, hc, if_pos hsub]
  · have hn : p.hasSubcommand = true := by simp [Params.hasSubcommand, hs, escape_eq_empty_iff, hsub]
    rw [hn, if_pos rfl, subcommandSynopsis_eq, hc, hs, if_neg hsub]

/-- The description section shows the details when they are not empty, and the options section
follows it when the help text has an options header. -/
theorem description_make (hf : parseFiles r.files = .ok fs) (hp : Params.make r H now = .ok p) :
    Page.description p =
      Troff.render (heading "DESCRIPTION" :: if H.text .details = "" then [] else [.text (escape (H.text .details))]) ++
      Troff.render (if H.has .options then heading "OPTIONS" :: (parseOptions (H.text .options)).flatMap option else []) := by
  obtain ⟨-, -, -, -, -, -, hd, ho, hopt, -⟩ := make_fields hf hp
  rw [description_eq, hd, ho, hopt]
  simp only [escape_eq_empty_iff]
  cases H.has .options <;> simp [render_cons, String.append_assoc]

/-- The files section is there exactly when the request gives a files list. -/
theorem files_make (hf : parseFiles r.files = .ok fs) (hp : Params.make r H now = .ok p) :
    formatFiles p.files = Troff.render (if r.files = "" then [] else
      heading "FILES" :: fs.flatMap fun f => tagged (escape f.path) (escape f.description)) := by
  obtain ⟨-, -, -, -, -, -, -, -, -, hfs, -⟩ := make_fields hf hp
  rw [hfs, formatFiles_eq]
  simp only [parseFiles_eq_nil_iff hf]

/-- The page rendered from the parameters of a request is the request's layout. -/
theorem render_make (hf : parseFiles r.files = .ok fs) (hp : Params.make r H now = .ok p) (E : List EnvVar) :
    Page.render p H.commands E r.also = Troff.render (page r H E now fs) := by
  obtain ⟨hraw, -, -, ht, hv, hsum, -, -, -, -, hstamp, hdate⟩ := make_fields hf hp
  rw [Page.render, preamble_eq, head_eq, synopsis_make hf hp, description_make hf hp, page_make hf hp, hraw,
    hstamp, hdate, ht, hv, hsum, formatCommandOverview_eq, formatEnvironment_eq, files_make hf hp,
    formatSeeAlso_eq, formatAlso_eq]
  simp only [page, render_append, String.append_assoc]

end Make

/-! ## The generator -/

section Generate

variable {σ : Type} {g : Generator σ} {src : String → String → σ → HelpAnswer × σ} {r : Request} {st : σ}
  {h : String} {fs : List FileEntry}

/-- Reading a help text and rendering it gives the layout, once the files list reads. -/
theorem pageOf_eq (hf : parseFiles r.files = .ok fs) :
    (pageOf g r h).2 = .ok (Troff.render (page r (Help.parse h) g.environment g.now fs)) := by
  have hp : Params.make r (Help.parse h) g.now = _ := make_eq hf
  simp only [pageOf, hp]
  rw [render_make hf hp]

/-- What the destination gets and how a generation ends, once the request names a utility and
the generator has a help source: the help source's failure, the failure of reading the page,
the destination's refusal, or the whole page. -/
theorem generate_outputs {sink : Sink} (hcmd : r.command ≠ "") (hsrc : g.source = some src) :
    ((g.generate r sink st).1.written, (g.generate r sink st).1.result) =
      match (src r.command r.subcommand st).1.result with
      | .error e => ("", .error e)
      | .ok h =>
        match (pageOf g r h).2, sink with
        | .error e, _ => ("", .error e)
        | .ok _, .refuses reason => ("", .error (.wrap "failed to write man page" (.plain reason)))
        | .ok page, .accepts => (page, .ok ()) := by
  unfold Generator.generate
  simp only [hcmd, if_false, hsrc]
  rcases src r.command r.subcommand st with ⟨answer, st'⟩
  rcases answer.result with e | h
  · rfl
  · dsimp only
    rcases pageOf g r h with ⟨parsed, e | page⟩
    · rfl
    · cases sink <;> rfl

/-- A generation whose help source answers and whose files list reads hands the whole layout to
a destination that accepts it. -/
theorem generate_accepts (hcmd : r.command ≠ "") (hsrc : g.source = some src)
    (hh : (src r.command r.subcommand st).1.result = .ok h) (hf : parseFiles r.files = .ok fs) :
    (g.generate r .accepts st).1.result = .ok () ∧
    (g.generate r .accepts st).1.written = Troff.render (page r (Help.parse h) g.environment g.now fs) := by
  have hend : ((g.generate r .accepts st).1.written, (g.generate r .accepts st).1.result) = _ :=
    generate_outputs hcmd hsrc
  rw [hh] at hend
  dsimp only at hend
  rw [pageOf_eq hf, Prod.mk.injEq] at hend
  exact ⟨hend.2, hend.1⟩

/-- Two parsed help texts agree on all that a page shows of them: the summary, the details, the
options section and whether it is there, and the commands. -/
def SamePage (H H' : Record) : Prop :=
  H.text .summary = H'.text .summary ∧ H.text .details = H'.text .details ∧ H.has .options = H'.has .options ∧
    H.text .options = H'.text .options ∧ H.commands = H'.commands

/-- The layout depends on the help text only through what `SamePage` compares. -/
theorem page_congr {H H' : Record} (hs : SamePage H H') (r : Request) (E : List EnvVar) (now : Clock.Reading)
    (fs : List FileEntry) : page r H E now fs = page r H' E now fs := by
  obtain ⟨h₁, h₂, h₃, h₄, h₅⟩ := hs
  simp only [page, h₁, h₂, h₃, h₄, h₅]

/-- **The generator writes the layout.** For a request that names a utility, a help source that
answers and a files list that reads, the destination gets exactly the layout of the request and
the parsed help text, whose see-also section names `max 1 n` pages for `n` commands; a help
source that answers with another text that agrees on summary, details, options and commands
gives the same page. -/
theorem generate_writes_layout (hcmd : r.command ≠ "") (hsrc : g.source = some src)
    (hh : (src r.command r.subcommand st).1.result = .ok h) (hf : parseFiles r.files = .ok fs) :
    (g.generate r .accepts st).1.result = .ok () ∧
    (g.generate r .accepts st).1.written = Troff.render (page r (Help.parse h) g.environment g.now fs) ∧
    (references r.command (Help.parse h).commands).length = max 1 (Help.parse h).commands.length ∧
    ∀ (src' : String → String → σ → HelpAnswer × σ) (st' : σ) (h' : String),
      (src' r.command r.subcommand st').1.result = .ok h' → SamePage (Help.parse h) (Help.parse h') →
      ({ g with source := some src' }.generate r .accepts st').1.written = (g.generate r .accepts st).1.written := by
  obtain ⟨hr, hw⟩ := generate_accepts hcmd hsrc hh hf
  refine ⟨hr, hw, length_references _ _, fun src' st' h' hh' hs => ?_⟩
  obtain ⟨-, hw'⟩ := generate_accepts (g := { g with source := some src' }) hcmd rfl hh' hf
  rw [hw', hw, page_congr hs]

end Generate

/-- A help source that answers every request with the same text. -/
def constantSource (text : String) (_ _ : String) (st : Unit) : HelpAnswer × Unit := (⟨.ok text, ""⟩, st)

theorem generate_writes_layout_widget :
    "widget" ≠ "" ∧
    (⟨some (constantSource "summary:\nwidget things"), [], Log.Logger.discard, Clock.Reading.ofSeconds 0 "0s"⟩ :
      Generator Unit).source = some (constantSource "summary:\nwidget things") ∧
    (constantSource "summary:\nwidget things" "widget" "" ()).1.result = .ok "summary:\nwidget things" ∧
    parseFiles "" = .ok [] ∧
    let g : Generator Unit :=
      ⟨some (constantSource "summary:\nwidget things"), [], Log.Logger.discard, Clock.Reading.ofSeconds 0 "0s"⟩
    let r : Request := ⟨"widget", "", "", "", "", []⟩
    (g.generate r .accepts ()).1.result = .ok () ∧
    (g.generate r .accepts ()).1.written =
      Troff.render (page r (Help.parse "summary:\nwidget things") g.environment g.now []) ∧
    (references r.command (Help.parse "summary:\nwidget things").commands).length =
      max 1 (Help.parse "summary:\nwidget things").commands.length ∧
    ∀ (src' : String → String → Unit → HelpAnswer × Unit) (st' : Unit) (h' : String),
      (src' r.command r.subcommand st').1.result = .ok h' →
      SamePage (Help.parse "summary:\nwidget things") (Help.parse h') →
      ({ g with source := some src' }.generate r .accepts st').1.written = (g.generate r .accepts ()).1.written :=
  ⟨by decide, rfl, rfl, rfl, generate_writes_layout (by decide) rfl rfl rfl⟩

end HelpMan.Page.Layout
