import TypeAnnotation.Proofs.BatchDocument

/-! # Whether invalid entries are isolated

An entry that is left out is reported in markup that holds its name and quotes its text. If that
cannot be shown, as with a tag that closes nothing, the run breaks off at the report and writes no
document at all, for the other entries neither. Without tags the entries left out make no difference
to the document.
-/
namespace TypeAnnotation.Command

/-- A text that is no annotation is reported if its error can be shown. -/
theorem normalize_outcome_of_error (s : Settings) (screen : Screen) {source : String}
    {error : SyntaxError} (h : Expr.parse source = .error error) :
    (normalize s source).outcomeOn screen =
      match screen.paragraph ("[red]Invalid annotation:[/] " ++ error.message) with
      | .ok text => { exit := 1, stdout := text }
      | .error fault => { exit := 1, escaped := some fault } := by
  rw [normalize, normalizeText_of_parse_eq_error h]
  simp only [Report.outcomeOn, Outcome.ofWritings, Writing.text]
  cases screen.paragraph ("[red]Invalid annotation:[/] " ++ error.message) with
  | error fault => rfl
  | ok text => simp [Outcome.behind, Writing.channel, Status.code]

namespace Batch

def mappingOf (entries : List (String × Yaml.Value)) : Yaml.Value :=
  .mapping (entries.map fun entry => (.string entry.1, entry.2))

/-- The standard output is what it is without the entries that are left out, and nothing escapes. -/
def Isolated (screen : Screen) (s : Settings) (entries : List (String × Yaml.Value)) : Prop :=
  ((ofValue s (mappingOf entries)).outcomeOn screen).stdout =
      ((ofValue s (mappingOf (entries.filter fun entry => !isInvalid entry.2))).outcomeOn
        screen).stdout ∧
    ((ofValue s (mappingOf entries)).outcomeOn screen).escaped = none

def reported : Yaml.Value → Except Text.NumeralError String
  | .string source => .ok source
  | value => value.display

/-- No tag begins in the name or in what a report shows of the value. -/
def Unmarked (entry : String × Yaml.Value) : Prop :=
  Markup.WithoutTags entry.1.toList ∧
    ∃ shown, reported entry.2 = .ok shown ∧ Markup.WithoutTags shown.toList

theorem namedEntries_mappingOf (entries : List (String × Yaml.Value)) :
    namedEntries (entries.map fun entry => (.string entry.1, entry.2)) = .ok entries := by
  induction entries with
  | nil => rfl
  | cons entry rest ih =>
    rw [List.map_cons, namedEntries, ih]
    rfl

theorem ofValue_mappingOf (s : Settings) (entries : List (String × Yaml.Value)) :
    ofValue s (mappingOf entries) = ofEntries s entries := by
  have hentries : entries? (mappingOf entries) = some (.ok entries) :=
    congrArg some (namedEntries_mappingOf entries)
  rw [ofValue, hentries]

theorem isolated_iff_reportable {s : Settings} (hs : s.format ≠ .table) (screen : Screen)
    (entries : List (String × Yaml.Value)) :
    Isolated screen s entries ↔ Reportable screen s entries := by
  have hvalid : (fun entry : String × Yaml.Value => !isInvalid entry.2) =
      fun entry => (descriptors? entry.2).isSome := by
    funext entry
    rw [isInvalid_eq, Option.not_isNone]
  rw [Isolated, ofValue_mappingOf, ofValue_mappingOf, hvalid]
  constructor
  · rintro ⟨-, hescaped⟩
    by_contra h
    obtain ⟨reports, fault, houtcome⟩ := outcome_of_not_reportable hs h
    rw [houtcome] at hescaped
    cases hescaped
  · intro h
    have hwrites := writes_of_reportable hs h
    exact ⟨hwrites.valid_only, hwrites.escaped⟩

/-- What is wrong with a value is its text or that it is none. -/
theorem normalizeValue_eq_error {value : Yaml.Value} {c : Complaint}
    (h : normalizeValue value = .error c) :
    (∃ source error, value = .string source ∧ Expr.parse source = .error error ∧
        c = .syntaxError error) ∨ (c = .notText value ∧ reported value = value.display) := by
  cases value with
  | string source =>
    left
    simp only [normalizeValue, normalizeText] at h
    cases hp : Expr.parse source with
    | error error =>
      rw [hp] at h
      exact ⟨source, error, rfl, hp, (Except.error.inj h).symm⟩
    | ok e =>
      rw [hp] at h
      cases h
  | _ => exact .inr ⟨(Except.error.inj h).symm, rfl⟩

theorem exists_message_withoutTags {value : Yaml.Value} {c : Complaint}
    (hc : normalizeValue value = .error c) {shown : String} (hshown : reported value = .ok shown)
    (h : Markup.WithoutTags shown.toList) :
    ∃ message, c.message = .ok message ∧ Markup.WithoutTags message.toList := by
  rcases normalizeValue_eq_error hc with ⟨source, error, rfl, hp, rfl⟩ | ⟨rfl, hdisplay⟩
  · obtain rfl := Except.ok.inj hshown
    exact ⟨error.message, rfl, Expr.withoutTags_message hp h⟩
  · refine ⟨"expected an annotation string, got " ++ shown, ?_, ?_⟩
    · rw [Complaint.message, ← hdisplay, hshown]
      rfl
    · rw [String.toList_append]
      exact h.prepend (by decide)

/-- A report has tags only where the name or the value has. -/
theorem Unmarked.exists_text {entry : String × Yaml.Value} (h : Unmarked entry) {screen : Screen}
    (hscreen : screen.ReadsTags) {c : Complaint} (hc : normalizeValue entry.2 = .error c)
    (s : Settings) : ∃ text, (complain s entry.1 c).text screen = .ok text := by
  obtain ⟨hname, shown, hshown, hvalue⟩ := h
  obtain ⟨message, hmessage, hplain⟩ := exists_message_withoutTags hc hshown hvalue
  have hsaid : Markup.WithoutTags (": ".toList ++ message.toList) := hplain.prepend (by decide)
  have hline : Markup.WithoutTags (entry.1 ++ ": " ++ message).toList := by
    rw [String.append_assoc, String.toList_append, String.toList_append]
    exact hname.append hsaid fun d hd => by
      obtain rfl := Option.some.inj hd
      decide
  rw [exists_text_complain_iff]
  refine ⟨message, hmessage, hscreen.closed _ ?_⟩
  rw [Markup.tagsFrom_entry, hline.tagsFrom_eq_nil]

/-- The entries left out are isolated from the others exactly if every report on one can be shown.
Otherwise the run breaks off without a document. On a screen that reads tags, a report without tags
can be shown, and none whose first tag is a closing one; the terminal can show all reports whose tags
can be followed. It is the same with the error of a single annotation. -/
theorem isolated_iff {s : Settings} (hs : s.format ≠ .table) (screen : Screen) :
    (∀ entries, Isolated screen s entries ↔
      ∀ entry ∈ entries, ∀ c, normalizeValue entry.2 = .error c → ∃ message,
        c.message = .ok message ∧
          screen.Shows ("  [red]x[/] " ++ (entry.1 ++ ": " ++ message))) ∧
    (∀ entries, ¬ Isolated screen s entries → ∃ reports fault,
      (ofValue s (mappingOf entries)).outcomeOn screen =
        { exit := 1, stderr := reports, escaped := some fault }) ∧
    (screen.ReadsTags →
      (∀ entries, (∀ entry ∈ entries, isInvalid entry.2 = true → Unmarked entry) →
        Isolated screen s entries) ∧
      (∀ entries, ∀ entry ∈ entries, ∀ c message name rest,
        normalizeValue entry.2 = .error c → c.message = .ok message →
        Markup.tagsFrom 0 (entry.1 ++ ": " ++ message).toList = ('/' :: name) :: rest →
        ¬ Isolated screen s entries) ∧
      ∀ source error, Expr.parse source = .error error → Markup.WithoutTags source.toList →
        ∃ text, (normalize s source).outcomeOn screen = { exit := 1, stdout := text }) ∧
    (∀ entries, (∀ entry ∈ entries, ∀ c, normalizeValue entry.2 = .error c → ∃ message,
        c.message = .ok message ∧ Markup.Showable (entry.1 ++ ": " ++ message)) →
      Isolated .terminal s entries) ∧
    ∀ source error, Expr.parse source = .error error →
      (normalize s source).outcomeOn screen =
        match screen.paragraph ("[red]Invalid annotation:[/] " ++ error.message) with
        | .ok text => { exit := 1, stdout := text }
        | .error fault => { exit := 1, escaped := some fault } := by
  have hreports : ∀ entries, Isolated screen s entries ↔
      ∀ entry ∈ entries, ∀ c, normalizeValue entry.2 = .error c → ∃ message,
        c.message = .ok message ∧
          screen.Shows ("  [red]x[/] " ++ (entry.1 ++ ": " ++ message)) := by
    intro entries
    simp only [isolated_iff_reportable hs, Reportable, exists_text_complain_iff]
  refine ⟨hreports, ?breaks, fun hscreen => ⟨?unmarked, ?closing, ?single⟩, ?terminal,
    fun _ _ => normalize_outcome_of_error s screen⟩
  case breaks =>
    intro entries h
    rw [isolated_iff_reportable hs] at h
    rw [ofValue_mappingOf]
    exact outcome_of_not_reportable hs h
  case unmarked =>
    intro entries h
    rw [isolated_iff_reportable hs]
    intro entry hentry c hc
    have hinvalid : isInvalid entry.2 = true := by rw [isInvalid, hc]
    exact (h entry hentry hinvalid).exists_text hscreen hc s
  case closing =>
    intro entries entry hentry c message name rest hc hmessage htags h
    obtain ⟨found, hfound, hshows⟩ := (hreports entries).mp h entry hentry c hc
    obtain rfl := Except.ok.inj (hmessage.symm.trans hfound)
    refine hscreen.unmatched _ name rest ?_ hshows
    rw [Markup.tagsFrom_entry, htags]
  case single =>
    intro source error h hsource
    have hplain := Expr.withoutTags_message h hsource
    obtain ⟨text, htext⟩ : screen.Shows ("[red]Invalid annotation:[/] " ++ error.message) := by
      apply hscreen.closed
      rw [Markup.tagsFrom_invalid, hplain.tagsFrom_eq_nil]
    refine ⟨text, ?_⟩
    rw [normalize_outcome_of_error s screen h, htext]
  case terminal =>
    intro entries h
    rw [isolated_iff_reportable hs]
    intro entry hentry c hc
    obtain ⟨message, hmessage, hshowable⟩ := h entry hentry c hc
    rw [exists_text_complain_iff]
    refine ⟨message, hmessage, Screen.terminal_shows ?_⟩
    rwa [Markup.isStyle_red.showable_iff (Markup.tagsFrom_entry _)]

/-- On the terminal an empty value is left out without any harm, and so is an opening tag in a name,
but not a closing one. A single annotation without tags is reported. -/
theorem isolated_iff_null :
    let s : Settings := { format := .json }
    let entries := [("a", Yaml.Value.string "int"), ("b", .null)]
    let error : SyntaxError := ⟨.unexpectedCharacter '&', 0, "&"⟩
    s.format ≠ .table ∧ Screen.terminal.ReadsTags ∧
      (∀ entry ∈ entries, isInvalid entry.2 = true → Unmarked entry) ∧
      Isolated .terminal s entries ∧ Isolated .terminal s [("[red]", .null)] ∧
      ¬ Isolated .terminal s [("[/x]", .null)] ∧ Expr.parse "&" = .error error ∧
      Markup.WithoutTags "&".toList ∧
      ∃ text, (normalize s "&").outcomeOn .terminal = { exit := 1, stdout := text } := by
  intro s entries error
  have hs : s.format ≠ .table := by decide
  have hunmarked : ∀ entry ∈ entries, isInvalid entry.2 = true → Unmarked entry := by
    intro entry hentry hinvalid
    rcases List.mem_cons.mp hentry with rfl | hentry
    · rw [isInvalid_eq, descriptors?_string (Expr.describeText_of_parse Expr.parse_int)] at hinvalid
      cases hinvalid
    obtain rfl := List.mem_singleton.mp hentry
    exact ⟨Markup.withoutTags_of_not_mem (by decide), "None", rfl,
      Markup.withoutTags_of_not_mem (by decide)⟩
  have hnull : ∀ c, normalizeValue .null = .error c →
      c.message = .ok "expected an annotation string, got None" := by
    intro c hc
    obtain rfl := Except.error.inj hc
    rfl
  have hred : Markup.Showable ("[red]" ++ ": " ++ "expected an annotation string, got None") :=
    (Markup.showable_iff _).mpr ⟨["red"], by decide +kernel, by decide +kernel⟩
  have hparse : Expr.parse "&" = .error error :=
    Expr.parse_of_beginsNothing rfl ⟨by decide, by decide, by decide, by decide⟩
  have hplain : Markup.WithoutTags "&".toList := Markup.withoutTags_of_not_mem (by decide)
  obtain ⟨-, -, htags, hterminal, -⟩ := isolated_iff hs .terminal
  obtain ⟨hisolated, hclosing, hsingle⟩ := htags Screen.readsTags_terminal
  refine ⟨hs, Screen.readsTags_terminal, hunmarked, hisolated entries hunmarked, ?_, ?_, hparse,
    hplain, hsingle "&" error hparse hplain⟩
  · apply hterminal
    intro entry hentry c hc
    obtain rfl := List.mem_singleton.mp hentry
    exact ⟨_, hnull c hc, hred⟩
  · exact hclosing _ ("[/x]", .null) List.mem_cons_self (.notText .null) _ ['x'] [] rfl
      (hnull _ rfl) (by decide +kernel)

def slashError : SyntaxError := ⟨.unexpectedCharacter '[', 0, "[/x]"⟩

theorem parse_slash : Expr.parse "[/x]" = .error slashError :=
  Expr.parse_of_beginsNothing rfl ⟨by decide, by decide, by decide, by decide⟩

/-- A closing tag as the text of one entry takes the document of the others with it, and breaks off
the report of a single annotation. -/
theorem not_isolated_slash :
    let s : Settings := { format := .json }
    let entries := [("a", Yaml.Value.string "int"), ("b", .string "[/x]")]
    ¬ Isolated .terminal s entries ∧
      (ofValue s (mappingOf entries)).outcome =
        { exit := 1, escaped := some (.markup (.unmatched "[/x]" 58)) } ∧
      (normalize s "[/x]").outcome =
        { exit := 1, escaped := some (.markup (.unmatched "[/x]" 71)) } := by
  intro s entries
  have hslash : normalizeValue (.string "[/x]") = .error (.syntaxError slashError) := by
    rw [normalizeValue, normalizeText_of_parse_eq_error parse_slash]
  have hreport : (complain s "b" (.syntaxError slashError)).text .terminal =
      .error (.markup (.unmatched "[/x]" 58)) := by
    decide +kernel
  have hbefore : ∀ entry ∈ [("a", Yaml.Value.string "int")],
      entryWritings s entry.1 entry.2 = [] := by
    intro entry hentry
    obtain rfl := List.mem_singleton.mp hentry
    exact entryWritings_int "a"
  have hwhole : (ofValue s (mappingOf entries)).outcome =
      { exit := 1, escaped := some (.markup (.unmatched "[/x]" 58)) } := by
    rw [ofValue_mappingOf]
    exact outcome_of_fault hbefore hslash hreport []
  have hsingle : Screen.terminal.paragraph ("[red]Invalid annotation:[/] " ++ slashError.message) =
      .error (.markup (.unmatched "[/x]" 71)) := by
    decide +kernel
  refine ⟨?_, hwhole, ?_⟩
  · rintro ⟨-, hescaped⟩
    rw [Report.outcome] at hwhole
    rw [hwhole] at hescaped
    cases hescaped
  · rw [Report.outcome, normalize_outcome_of_error s .terminal parse_slash, hsingle]

end Batch

end TypeAnnotation.Command
