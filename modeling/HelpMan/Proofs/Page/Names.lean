import HelpMan.Proofs.Page.Layout
import HelpMan.Proofs.Help.Commands
import HelpMan.Proofs.Troff.Decode

/-!
# The names of a utility's pages

A utility's page and the pages of its subcommands refer to each other, and each of three places
names a subcommand's page its own way: the parent's see-also section escapes the utility and the
subcommand joined by a hyphen (`Troff.manRef`), the subcommand's page prints the escaped utility
and subcommand joined by the minus escape (`Params.page`), and the page's file joins the raw names
(`filename`). They agree because escaping is a homomorphism that writes a hyphen as the minus
escape (`Layout.escape_join`), and because every command a help text lists has a name
(`Help.name_ne_empty_of_mem_commands`), so its page is a subcommand's page.

The main statement is `Layout.subcommand_page_names_agree`.
-/

namespace HelpMan.Page.Layout

open Help Troff

/-! ## Three ways to name a subcommand's page -/

/-- Escaping two names joined by a hyphen joins the escaped names by the minus escape. -/
theorem escape_join (a b : String) : escape (a ++ "-" ++ b) = escape a ++ "\\-" ++ escape b := by
  rw [escape_append, escape_append, show escape "-" = "\\-" by decide]

/-- A subcommand's page is named by the utility and the subcommand joined by a hyphen, escaped. -/
theorem name_of_subcommand {r : Request} (h : r.subcommand ≠ "") :
    name r = escape (r.command ++ "-" ++ r.subcommand) := by
  rw [name, if_neg h, escape_join]

/-- A subcommand's file is named by the utility and the subcommand joined by a hyphen. -/
theorem filename_of_subcommand {c n : String} (h : n ≠ "") : filename c n = c ++ "-" ++ n ++ ".1" := by
  rw [filename, if_neg h]

/-- Parameters are made only for a request whose files list reads. -/
theorem exists_parseFiles_of_make {r : Request} {H : Record} {now : Clock.Reading} {p : Params}
    (hp : Params.make r H now = .ok p) : ∃ fs, parseFiles r.files = .ok fs := by
  cases hfiles : parseFiles r.files with
  | ok fs => exact ⟨fs, rfl⟩
  | error e => simp [Params.make, hfiles] at hp

/-- The name a page prints is the request's. -/
theorem page_eq_name {r : Request} {H : Record} {now : Clock.Reading} {p : Params}
    (hp : Params.make r H now = .ok p) : p.page = name r := by
  obtain ⟨fs, hf⟩ := exists_parseFiles_of_make hp
  exact page_make hf hp

/-- The see-also section of a utility that lists commands refers to each command's page. -/
theorem references_of_ne_nil {c : String} {cs : List Command} (h : cs ≠ []) :
    references c cs = cs.map fun d => manRef (c ++ "-" ++ d.name) := by
  rw [references, if_neg h, manRef_eq_reference]

/-- **The names of a utility's subcommand pages agree.** For every command that the utility's
help text lists, and the parameters of any page generated for that subcommand: the reference to it
in the utility's see-also section is the name the page prints in bold, with its section; the page's
file is that name before escaping, with the section as extension; and the tag of its entry in the
utility's command overview is the first line of the page's synopsis. A subcommand page whose help
lists no commands refers back to the utility's page, by the name that page prints. All of this rests
on escaping two names joined by a hyphen as the escaped names joined by the minus escape. -/
theorem subcommand_page_names_agree {c h : String} {cmd : Command} (hcmd : cmd ∈ (parse h).commands)
    {r : Request} (hc : r.command = c) (hn : r.subcommand = cmd.name) {H : Record} {now : Clock.Reading}
    {p : Params} (hp : Params.make r H now = .ok p) :
    manRef (c ++ "-" ++ cmd.name) ∈ references c (parse h).commands ∧
    manRef (c ++ "-" ++ cmd.name) = "\\fB" ++ p.page ++ "\\fR(1)" ∧
    filename c cmd.name = c ++ "-" ++ cmd.name ++ ".1" ∧ escape (c ++ "-" ++ cmd.name) = p.page ∧
    (overviewItem c cmd)[1]? = (subSynopsis p.command p.subcommand)[1]? ∧
    (H.commands = [] → ∀ (parent : Request) (H₀ : Record) (now₀ : Clock.Reading) (q : Params),
      parent.command = c → parent.subcommand = "" → Params.make parent H₀ now₀ = .ok q →
      references r.command H.commands = ["\\fB" ++ q.page ++ "\\fR(1)"]) ∧
    ∀ a b : String, escape (a ++ "-" ++ b) = escape a ++ "\\-" ++ escape b := by
  have hne : cmd.name ≠ "" := name_ne_empty_of_mem_commands hcmd
  -- the name the page prints is the joined names, escaped
  have hpage : p.page = escape (c ++ "-" ++ cmd.name) := by
    rw [page_eq_name hp, name_of_subcommand (by rw [hn]; exact hne), hc, hn]
  obtain ⟨fs, hf⟩ := exists_parseFiles_of_make hp
  obtain ⟨-, hpc, hps, -⟩ := make_fields hf hp
  refine ⟨?_, ?_, filename_of_subcommand hne, hpage.symm, ?_, ?_, escape_join⟩
  · rw [references_of_ne_nil (List.ne_nil_of_mem hcmd)]
    exact List.mem_map_of_mem hcmd
  · rw [manRef, hpage]
  · simp [overviewItem, subSynopsis, hpc, hps, hc, hn]
  · intro hnil parent H₀ now₀ q hqc hqs hq
    rw [hnil, references, if_pos rfl, page_eq_name hq, name, if_pos hqs, hqc, hc]
    rfl

/-- The `deploy` command of `widget`: its page is named `widget\-deploy` and written to
`widget-deploy.1`. -/
theorem subcommand_page_names_agree_deploy :
    let h := "commands:\n  deploy  ship widgets"
    let cmd : Command := ⟨"deploy", "ship widgets"⟩
    let r : Request := ⟨"widget", "deploy", "", "", "", []⟩
    let now : Clock.Reading :=
      ⟨"1970-01-01 00:00:00 +0000", "1970-01-01", "00:00:00", "Jan 1970", "1-Jan-1970", "0s"⟩
    let p : Params := ⟨"widget", "widget", "deploy", "", "0.0.1", "", "", "", false, "", false, [],
      "1970-01-01 00:00:00 +0000", "1970-01-01"⟩
    cmd ∈ (parse h).commands ∧ r.command = "widget" ∧ r.subcommand = cmd.name ∧
    Params.make r Record.empty now = .ok p ∧
    manRef ("widget" ++ "-" ++ cmd.name) ∈ references "widget" (parse h).commands ∧
    manRef ("widget" ++ "-" ++ cmd.name) = "\\fB" ++ p.page ++ "\\fR(1)" ∧
    filename "widget" cmd.name = "widget" ++ "-" ++ cmd.name ++ ".1" ∧
    escape ("widget" ++ "-" ++ cmd.name) = p.page ∧
    (overviewItem "widget" cmd)[1]? = (subSynopsis p.command p.subcommand)[1]? ∧
    (Record.empty.commands = [] → ∀ (parent : Request) (H₀ : Record) (now₀ : Clock.Reading) (q : Params),
      parent.command = "widget" → parent.subcommand = "" → Params.make parent H₀ now₀ = .ok q →
      references r.command Record.empty.commands = ["\\fB" ++ q.page ++ "\\fR(1)"]) ∧
    ∀ a b : String, escape (a ++ "-" ++ b) = escape a ++ "\\-" ++ escape b := by
  intro h cmd r now p
  have hcmd : cmd ∈ (parse h).commands := by decide +kernel
  have hp : Params.make r Record.empty now = .ok p := by decide +kernel
  exact ⟨hcmd, rfl, rfl, hp, subcommand_page_names_agree (c := "widget") (r := r) hcmd rfl rfl hp⟩

end HelpMan.Page.Layout
