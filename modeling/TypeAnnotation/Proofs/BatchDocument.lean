import Mathlib.Data.List.Nodup
import Mathlib.Data.List.Range
import TypeAnnotation.Command.Batch
import TypeAnnotation.Command.Normalize
import TypeAnnotation.Proofs.Composition
import TypeAnnotation.Proofs.DescriptorDocument
import TypeAnnotation.Proofs.JoinedAnnotation
import TypeAnnotation.Proofs.Screens
import TypeAnnotation.Proofs.Tiling

/-! # The document of many annotations

The document holds the annotations that can be read and nothing of the others. A name stands where
its first annotation does and has the descriptors of its last. All reports and notes go to the other
channel, so that the document is all that is written to the standard output, and it reads back as
those descriptors, provided that every report can be shown. Otherwise there is no document.
-/
namespace TypeAnnotation

/-- A text is refused at its first character if nothing begins there. -/
theorem Expr.parse_of_beginsNothing {text : String} {c : Char} {after : List Char}
    (htext : text.toList = c :: after) (h : BeginsNothing c after) :
    Expr.parse text = .error ⟨.unexpectedCharacter c, 0, text⟩ := by
  rw [Expr.parse, Token.scan, htext, Token.scanFrom_nothing h]
  rfl

namespace Command

theorem channel_logWritings {notes : List Note} {w : Writing} (h : w ∈ logWritings notes)
    (screen : Screen) : w.channel = .stderr ∧ ∃ text, w.text screen = .ok text := by
  obtain ⟨note, -, rfl⟩ := List.mem_map.mp h
  exact ⟨rfl, _, rfl⟩

theorem channel_log {α : Type} (s : Settings) (result : Logged α) (screen : Screen) :
    ∀ w ∈ s.log result, w.channel = .stderr ∧ ∃ text, w.text screen = .ok text := by
  intro w h
  unfold Settings.log at h
  split at h
  · exact channel_logWritings h screen
  · cases h

/-- A format for documents writes every document, and reports beside it. -/
theorem Format.of_ne_table {format : Format} (h : format ≠ .table) :
    format.reports = .stderr ∧ ∀ document, ∃ text, format.writeDocument? document = some text := by
  cases format with
  | table => exact absurd rfl h
  | json => exact ⟨rfl, fun _ => ⟨_, rfl⟩⟩
  | yaml => exact ⟨rfl, fun _ => ⟨_, rfl⟩⟩

theorem spacelessClasses_of_describeText {source : String} {ds : List Descriptor}
    (h : describeText source = .ok ds) : SpacelessClasses ds := by
  cases hp : Expr.parse source with
  | error e =>
    rw [describeText, normalizeText_of_parse_eq_error hp] at h
    cases h
  | ok e =>
    rw [Expr.describeText_of_parse hp] at h
    obtain rfl := Except.ok.inj h
    exact Expr.not_mem_class_of_parse hp (by decide)

/-- Alone, an annotation is written as the list of its descriptors, which reads back as them. -/
theorem normalize_outcome {s : Settings} (hs : s.format ≠ .table) (screen : Screen)
    {source : String} {ds : List Descriptor} (h : describeText source = .ok ds) :
    ((normalize s source).outcomeOn screen).exit = 0 ∧
      ((normalize s source).outcomeOn screen).escaped = none ∧
      (s.format.readDocument? ((normalize s source).outcomeOn screen).stdout).bind
        descriptorsOf? = some ds := by
  obtain ⟨-, hdocument⟩ := Format.of_ne_table hs
  have hspaceless := spacelessClasses_of_describeText h
  cases hn : normalizeText source with
  | error e =>
    rw [describeText, hn] at h
    cases h
  | ok result =>
    rw [describeText, hn] at h
    obtain rfl := Except.ok.inj h
    obtain ⟨text, htext⟩ := hdocument (documentOf result.value)
    obtain ⟨notes, hnotes⟩ := Outcome.ofWritings_append_ok (channel_log s result screen) .success
      [present s.format source result.value]
    have houtcome : (normalize s source).outcomeOn screen =
        Outcome.behind .stderr notes { exit := 0, stdout := text } := by
      simp only [Report.outcomeOn, normalize, hn]
      rw [hnotes]
      simp only [present, htext, Outcome.ofWritings, Writing.text, Writing.channel, Outcome.behind,
        String.append_empty]
      rfl
    rw [houtcome]
    exact ⟨rfl, rfl, Format.read_documentOf hspaceless htext⟩

namespace Batch

/-! ## The annotations among the entries -/

/-- The descriptors of a value that is an annotation. -/
def descriptors? : Yaml.Value → Option (List Descriptor)
  | .string source => (describeText source).toOption
  | _ => none

/-- The entries that are annotations, with their descriptors. -/
def annotated (entries : List (String × Yaml.Value)) : List (String × List Descriptor) :=
  entries.filterMap fun entry => (descriptors? entry.2).map (entry.1, ·)

theorem descriptors?_string {source : String} {ds : List Descriptor}
    (h : describeText source = .ok ds) : descriptors? (.string source) = some ds := by
  rw [descriptors?, h]
  rfl

/-- Annotations are the values that can be normalized. -/
theorem descriptors?_eq (value : Yaml.Value) :
    descriptors? value = (normalizeValue value).toOption.map (·.result.value) := by
  cases value with
  | string source =>
    rw [descriptors?, normalizeValue, describeText]
    cases normalizeText source <;> rfl
  | _ => rfl

theorem descriptors?_of_error {value : Yaml.Value} {c : Complaint}
    (h : normalizeValue value = .error c) : descriptors? value = none := by
  rw [descriptors?_eq, h]
  rfl

theorem descriptors?_of_ok {value : Yaml.Value} {n : Normalized}
    (h : normalizeValue value = .ok n) : descriptors? value = some n.result.value := by
  rw [descriptors?_eq, h]
  rfl

/-- The entries that are left out are the ones without descriptors. -/
theorem isInvalid_eq (value : Yaml.Value) : isInvalid value = (descriptors? value).isNone := by
  unfold isInvalid
  cases h : normalizeValue value with
  | error c => rw [descriptors?_of_error h]; rfl
  | ok n => rw [descriptors?_of_ok h]; rfl

theorem annotated_cons (entry : String × Yaml.Value) (rest : List (String × Yaml.Value)) :
    annotated (entry :: rest) =
      match descriptors? entry.2 with
      | some ds => (entry.1, ds) :: annotated rest
      | none => annotated rest := by
  rw [annotated, List.filterMap_cons]
  cases descriptors? entry.2 <;> rfl

/-- Entries that are left out make no difference to the others. -/
theorem annotated_filter (entries : List (String × Yaml.Value)) :
    annotated (entries.filter fun entry => (descriptors? entry.2).isSome) = annotated entries := by
  rw [annotated, annotated, List.filterMap_filter]
  refine List.filterMap_congr fun entry _ => ?_
  cases descriptors? entry.2 <;> rfl

/-! ## The results under their names -/

/-- The results with those of one more annotation. -/
def enter (results : List (String × List Descriptor)) (row : String × List Descriptor) :
    List (String × List Descriptor) :=
  put row.1 row.2 results

theorem collect_eq (results : List (String × List Descriptor)) (entry : String × Yaml.Value) :
    collect (results.map resultEntry) entry =
      match descriptors? entry.2 with
      | some ds => (enter results (entry.1, ds)).map resultEntry
      | none => results.map resultEntry := by
  unfold collect
  cases h : normalizeValue entry.2 with
  | error c => rw [descriptors?_of_error h]
  | ok n =>
    rw [descriptors?_of_ok h]
    exact put_map documentOf entry.1 n.result.value results

theorem foldl_collect (entries : List (String × Yaml.Value))
    (results : List (String × List Descriptor)) :
    entries.foldl collect (results.map resultEntry) =
      ((annotated entries).foldl enter results).map resultEntry := by
  induction entries generalizing results with
  | nil => rfl
  | cons entry rest ih =>
    rw [List.foldl_cons, collect_eq, annotated_cons]
    cases descriptors? entry.2 with
    | none => exact ih results
    | some ds => exact ih _

theorem document_eq (entries : List (String × Yaml.Value)) :
    document entries = resultsDocument ((annotated entries).foldl enter []) := by
  rw [document, resultsDocument, ← foldl_collect]
  rfl

structure Collected (rows results : List (String × List Descriptor)) : Prop where
  names : results.map (·.1) = (rows.map (·.1)).eraseDups
  distinct : (results.map (·.1)).Nodup
  last : ∀ name, results.lookup name = rows.reverse.lookup name

theorem Collected.concat {rows results : List (String × List Descriptor)}
    (h : Collected rows results) (row : String × List Descriptor) :
    Collected (rows ++ [row]) (enter results row) := by
  have hkeys : (enter results row).map (·.1) =
      if row.1 ∈ results.map (·.1) then results.map (·.1) else results.map (·.1) ++ [row.1] :=
    map_fst_put row.1 row.2 results
  have hmem : row.1 ∈ results.map (·.1) ↔ row.1 ∈ rows.map (·.1) := by
    rw [h.names, List.mem_eraseDups]
  refine ⟨?names, ?distinct, ?last⟩
  case names =>
    rw [hkeys, List.map_append, List.eraseDups_append, ← h.names]
    by_cases hrow : row.1 ∈ rows.map (·.1)
    · have hold : [row.1].removeAll (rows.map (·.1)) = [] := by simpa [List.removeAll] using hrow
      rw [if_pos (hmem.mpr hrow), List.map_singleton, hold, List.eraseDups_nil, List.append_nil]
    · have hnew : [row.1].removeAll (rows.map (·.1)) = [row.1] := by
        simpa [List.removeAll] using hrow
      rw [if_neg (mt hmem.mp hrow), List.map_singleton, hnew]
      rfl
  case distinct =>
    rw [hkeys]
    split
    · exact h.distinct
    · rename_i hrow
      rw [← List.concat_eq_append]
      exact List.Nodup.concat hrow h.distinct
  case last =>
    intro name
    rw [enter, lookup_put, List.reverse_append, List.reverse_singleton, List.singleton_append,
      List.lookup_cons]
    by_cases hname : name = row.1
    · simp [hname]
    · have hne : (name == row.1) = false := beq_false_of_ne hname
      rw [if_neg hname, h.last, hne]

theorem collected (rows : List (String × List Descriptor)) :
    Collected rows (rows.foldl enter []) := by
  -- The induction is from the end: the last row decides what stands under its name.
  induction rows using List.reverseRecOn with
  | nil => exact ⟨rfl, List.nodup_nil, fun _ => rfl⟩
  | append_singleton rows row ih =>
    rw [List.foldl_append]
    exact ih.concat row

theorem forall_mem_enter {P : List Descriptor → Prop} {rows : List (String × List Descriptor)}
    (h : ∀ row ∈ rows, P row.2) : ∀ row ∈ rows.foldl enter [], P row.2 := by
  have hput : ∀ (name : String) (ds : List Descriptor) (results : List (String × List Descriptor)),
      ∀ row ∈ put name ds results, row.2 = ds ∨ row ∈ results := by
    intro name ds results
    induction results with
    | nil => simp [put]
    | cons entry rest ih => grind [put]
  induction rows using List.reverseRecOn with
  | nil =>
    intro other hother
    cases hother
  | append_singleton rows row ih =>
    rw [List.foldl_append]
    intro other hother
    rcases hput row.1 row.2 _ other hother with hlast | hold
    · rw [hlast]
      exact h row (by simp)
    · exact ih (fun row hrow => h row (List.mem_append_left _ hrow)) other hold

theorem mem_annotated {entries : List (String × Yaml.Value)} {row : String × List Descriptor}
    (h : row ∈ annotated entries) : SpacelessClasses row.2 := by
  obtain ⟨entry, -, hentry⟩ := List.mem_filterMap.mp h
  obtain ⟨ds, hds, rfl⟩ := Option.map_eq_some_iff.mp hentry
  obtain ⟨name, value⟩ := entry
  cases value with
  | string source =>
    cases hsource : describeText source with
    | error e =>
      rw [descriptors?, hsource] at hds
      cases hds
    | ok found =>
      rw [descriptors?, hsource] at hds
      obtain rfl := Option.some.inj hds
      exact spacelessClasses_of_describeText hsource
  | _ => cases hds

/-- A name of its own goes to the end. -/
theorem put_of_not_mem {name : String} {ds : List Descriptor}
    {results : List (String × List Descriptor)} (h : name ∉ results.map (·.1)) :
    put name ds results = results ++ [(name, ds)] := by
  induction results with
  | nil => rfl
  | cons entry rest ih =>
    rw [List.map_cons, List.mem_cons, not_or] at h
    have hne : entry.1 ≠ name := fun heq => h.1 heq.symm
    rw [put, if_neg hne, ih h.2, List.cons_append]

/-- Names that are all different keep their rows as they stand. -/
theorem foldl_enter_of_nodup {rows : List (String × List Descriptor)}
    (h : (rows.map (·.1)).Nodup) : rows.foldl enter [] = rows := by
  induction rows using List.reverseRecOn with
  | nil => rfl
  | append_singleton rows row ih =>
    rw [List.map_append, List.map_singleton, ← List.concat_eq_append, List.nodup_concat] at h
    rw [List.foldl_append, ih h.2, List.foldl_cons, List.foldl_nil, enter, put_of_not_mem h.1]

theorem names_sublist (entries : List (String × Yaml.Value)) :
    ((annotated entries).map (·.1)).Sublist (entries.map (·.1)) := by
  induction entries with
  | nil => exact .slnil
  | cons entry rest ih =>
    rw [annotated_cons]
    cases descriptors? entry.2 with
    | none => exact ih.cons _
    | some ds => exact ih.cons_cons _

theorem repr_injective : Function.Injective Nat.repr := by
  intro m n h
  have hdigits : Nat.toDigits 10 m = Nat.toDigits 10 n := by
    rwa [Nat.repr_eq_ofList_toDigits, Nat.repr_eq_ofList_toDigits, String.ofList_inj] at h
  calc
    m = Nat.ofDigitChars 10 (Nat.toDigits 10 m) 0 := Nat.ofDigitChars_ten_toDigits.symm
    _ = Nat.ofDigitChars 10 (Nat.toDigits 10 n) 0 := by rw [hdigits]
    _ = n := Nat.ofDigitChars_ten_toDigits

/-- The places in a list are names that are all different. -/
theorem nodup_places (items : List Yaml.Value) :
    ((items.zipIdx.map fun item => (toString item.2, item.1)).map (·.1)).Nodup := by
  have hnames : (items.zipIdx.map fun item => (toString item.2, item.1)).map (·.1) =
      (items.zipIdx.map (·.2)).map Nat.repr := by
    rw [List.map_map, List.map_map]
    rfl
  rw [hnames, List.zipIdx_map_snd]
  exact (List.nodup_range' 1).map repr_injective

/-! ## What a run writes -/

def Reportable (screen : Screen) (s : Settings) (entries : List (String × Yaml.Value)) : Prop :=
  ∀ entry ∈ entries, ∀ c, normalizeValue entry.2 = .error c →
    ∃ text, (complain s entry.1 c).text screen = .ok text

/-- A report can be shown if what it says can. -/
theorem exists_text_complain_iff (screen : Screen) (s : Settings) (name : String) (c : Complaint) :
    (∃ text, (complain s name c).text screen = .ok text) ↔
      ∃ message, c.message = .ok message ∧
        screen.Shows ("  [red]x[/] " ++ (name ++ ": " ++ message)) := by
  unfold complain
  cases c.message with
  | error error =>
    constructor
    · rintro ⟨text, htext⟩
      cases htext
    · rintro ⟨message, hmessage, -⟩
      cases hmessage
  | ok message =>
    refine ⟨fun h => ⟨message, rfl, h⟩, ?_⟩
    rintro ⟨found, hfound, hshows⟩
    obtain rfl := Except.ok.inj hfound
    exact hshows

/-- Before the document there are notes and reports only. -/
theorem mem_entryWritings {s : Settings} (hs : s.format ≠ .table) {name : String}
    {value : Yaml.Value} {w : Writing} (h : w ∈ entryWritings s name value) (screen : Screen) :
    w.channel = .stderr ∧
      ((∃ text, w.text screen = .ok text) ∨
        ∃ c, normalizeValue value = .error c ∧ w = complain s name c) := by
  unfold entryWritings at h
  split at h
  · rename_i c hc
    obtain rfl := List.mem_singleton.mp h
    refine ⟨?_, .inr ⟨c, hc, rfl⟩⟩
    unfold complain
    cases c.message <;> exact (Format.of_ne_table hs).1
  · rw [if_neg hs, List.append_nil] at h
    obtain ⟨hchannel, htext⟩ := channel_log s _ screen w h
    exact ⟨hchannel, .inl htext⟩

/-- The writings of the entries, one after another, and then the document. -/
theorem writings_ofEntries (s : Settings) (entries : List (String × Yaml.Value)) :
    (ofEntries s entries).writings =
      (entries.flatMap fun entry => entryWritings s entry.1 entry.2) ++ closing s.format entries :=
  rfl

theorem outcome_closing {s : Settings} (hs : s.format ≠ .table) (screen : Screen)
    (entries : List (String × Yaml.Value)) (status : Status) :
    ∃ text, s.format.writeDocument? (document entries) = some text ∧
      Outcome.ofWritings screen status (closing s.format entries) =
        { exit := status.code, stdout := text } := by
  obtain ⟨text, htext⟩ := (Format.of_ne_table hs).2 (document entries)
  refine ⟨text, htext, ?_⟩
  rw [closing, htext]
  simp [Outcome.ofWritings, Writing.text, Writing.channel, Outcome.behind]

/-- If every report can be shown, all but the document goes to the other channel. -/
theorem outcome_of_reportable {s : Settings} (hs : s.format ≠ .table) {screen : Screen}
    {entries : List (String × Yaml.Value)} (h : Reportable screen s entries) :
    ∃ text reports, s.format.writeDocument? (document entries) = some text ∧
      (ofEntries s entries).outcomeOn screen =
        { exit := if entries.any (isInvalid ·.2) then 1 else 0, stdout := text,
          stderr := reports } := by
  have hwritings : ∀ w ∈ entries.flatMap fun entry => entryWritings s entry.1 entry.2,
      w.channel = .stderr ∧ ∃ text, w.text screen = .ok text := by
    intro w hw
    obtain ⟨entry, hentry, hw⟩ := List.mem_flatMap.mp hw
    obtain ⟨hchannel, htext | ⟨c, hc, rfl⟩⟩ := mem_entryWritings hs hw screen
    · exact ⟨hchannel, htext⟩
    · exact ⟨hchannel, h entry hentry c hc⟩
  obtain ⟨text, htext, hclosing⟩ := outcome_closing hs screen entries
    (if entries.any (isInvalid ·.2) then .failure else .success)
  obtain ⟨reports, hreports⟩ := Outcome.ofWritings_append_ok hwritings
    (if entries.any (isInvalid ·.2) then .failure else .success) (closing s.format entries)
  refine ⟨text, reports, htext, ?_⟩
  rw [Report.outcomeOn, writings_ofEntries, ofEntries, hreports, hclosing, Outcome.behind]
  cases entries.any (isInvalid ·.2) <;> simp [Status.code]

/-- One report that cannot be shown breaks the run off, and nothing reaches the standard output. -/
theorem outcome_of_not_reportable {s : Settings} (hs : s.format ≠ .table) {screen : Screen}
    {entries : List (String × Yaml.Value)} (h : ¬ Reportable screen s entries) :
    ∃ reports fault, (ofEntries s entries).outcomeOn screen =
      { exit := 1, stderr := reports, escaped := some fault } := by
  have hchannel : ∀ w ∈ entries.flatMap fun entry => entryWritings s entry.1 entry.2,
      w.channel = .stderr := by
    intro w hw
    obtain ⟨entry, -, hw⟩ := List.mem_flatMap.mp hw
    exact (mem_entryWritings hs hw screen).1
  have hbreaks : ∃ w ∈ entries.flatMap fun entry => entryWritings s entry.1 entry.2,
      ∃ fault, w.text screen = .error fault := by
    simp only [Reportable, not_forall] at h
    obtain ⟨entry, hentry, c, hc, htext⟩ := h
    have hmem : complain s entry.1 c ∈ entryWritings s entry.1 entry.2 := by
      rw [entryWritings, hc]
      exact List.mem_singleton_self _
    refine ⟨complain s entry.1 c, List.mem_flatMap.mpr ⟨entry, hentry, hmem⟩, ?_⟩
    cases hw : (complain s entry.1 c).text screen with
    | error fault => exact ⟨fault, rfl⟩
    | ok text => exact absurd ⟨text, hw⟩ htext
  obtain ⟨reports, fault, hreports⟩ := Outcome.ofWritings_append_error hchannel hbreaks
    (if entries.any (isInvalid ·.2) then .failure else .success) (closing s.format entries)
  refine ⟨reports, fault, ?_⟩
  rw [Report.outcomeOn, writings_ofEntries, ofEntries, hreports]
  simp [Outcome.behind]

/-- What a run over entries leaves behind: their results as one document, which reads back as them,
and nothing else on the standard output, and a status that says whether any were left out. -/
structure Writes (screen : Screen) (s : Settings) (entries : List (String × Yaml.Value))
    (results : List (String × List Descriptor)) (o : Outcome) : Prop where
  collected : Collected (annotated entries) results
  stdout : s.format.writeDocument? (resultsDocument results) = some o.stdout
  reads : (s.format.readDocument? o.stdout).bind resultsOf? = some results
  exit : o.exit = if entries.any fun entry => (descriptors? entry.2).isNone then 1 else 0
  escaped : o.escaped = none
  valid_only : o.stdout = ((ofEntries s
    (entries.filter fun entry => (descriptors? entry.2).isSome)).outcomeOn screen).stdout

theorem document_filter (entries : List (String × Yaml.Value)) :
    document (entries.filter fun entry => (descriptors? entry.2).isSome) = document entries := by
  rw [document_eq, document_eq, annotated_filter]

/-- Entries that are annotations leave nothing to report. -/
theorem reportable_filter (screen : Screen) (s : Settings)
    (entries : List (String × Yaml.Value)) :
    Reportable screen s (entries.filter fun entry => (descriptors? entry.2).isSome) := by
  intro entry hentry c hc
  have hsome := (List.mem_filter.mp hentry).2
  rw [descriptors?_of_error hc] at hsome
  cases hsome

theorem writes_of_reportable {s : Settings} (hs : s.format ≠ .table) {screen : Screen}
    {entries : List (String × Yaml.Value)} (h : Reportable screen s entries) :
    Writes screen s entries ((annotated entries).foldl enter [])
      ((ofEntries s entries).outcomeOn screen) := by
  obtain ⟨text, reports, htext, houtcome⟩ := outcome_of_reportable hs h
  obtain ⟨alone, none, halone, houtcome'⟩ :=
    outcome_of_reportable hs (reportable_filter screen s entries)
  rw [document_filter, htext] at halone
  obtain rfl := Option.some.inj halone
  rw [document_eq] at htext
  have hinvalid : entries.any (isInvalid ·.2) =
      entries.any fun entry => (descriptors? entry.2).isNone :=
    List.any_congr rfl fun entry => isInvalid_eq entry.2
  have hspaceless : ∀ row ∈ (annotated entries).foldl enter [], SpacelessClasses row.2 :=
    forall_mem_enter fun row hrow => mem_annotated hrow
  refine ⟨collected _, ?_, ?_, ?_, ?_, ?_⟩
  · rw [houtcome, htext]
  · rw [houtcome]
    exact Format.read_resultsDocument hspaceless htext
  · rw [houtcome, hinvalid]
  · rw [houtcome]
  · rw [houtcome, houtcome']

/-- The remark on a value that is no collection of annotations. -/
theorem outcome_of_no_entries (s : Settings) {screen : Screen} {value : Yaml.Value}
    (h : entries? value = none) :
    (ofValue s value).outcomeOn screen =
      match screen.paragraph "[red]Expected a mapping or a list of annotations.[/]" with
      | .ok text => { exit := 1, stdout := text }
      | .error fault => { exit := 1, escaped := some fault } := by
  rw [ofValue, h]
  simp only [Report.outcomeOn, Outcome.ofWritings, Writing.text]
  cases screen.paragraph "[red]Expected a mapping or a list of annotations.[/]" with
  | error fault => rfl
  | ok text => simp [Outcome.behind, Writing.channel, Status.code]

theorem terminal_remark : Screen.terminal.paragraph
    "[red]Expected a mapping or a list of annotations.[/]" =
      .ok "Expected a mapping or a list of annotations.\n" := by
  decide +kernel

theorem outcome_of_unnamed (s : Settings) (screen : Screen)
    {pairs : List (Yaml.Value × Yaml.Value)} {error : Text.NumeralError}
    (h : namedEntries pairs = .error error) :
    (ofValue s (.mapping pairs)).outcomeOn screen =
      { exit := 1, escaped := some (.numeral error) } := by
  have hentries : entries? (.mapping pairs) = some (.error error) := congrArg some h
  rw [ofValue, hentries]
  exact Outcome.ofWritings_cons_error rfl

/-- A run that can name its entries and show its reports writes one document, which reads back as the
results of the entries that are annotations. Those of a list have a name each, and under every name
stands what its last annotation would be written as alone. Otherwise, and for any other value, there
is no document. -/
theorem ofValue_writes_annotations {s : Settings} (hs : s.format ≠ .table) (screen : Screen) :
    (∀ items : List Yaml.Value,
      let entries := items.zipIdx.map fun item => (toString item.2, item.1)
      Reportable screen s entries →
        Writes screen s entries (annotated entries) ((ofValue s (.list items)).outcomeOn screen)) ∧
    (∀ pairs entries, namedEntries pairs = .ok entries → Reportable screen s entries →
      ∃ results, Writes screen s entries results ((ofValue s (.mapping pairs)).outcomeOn screen)) ∧
    (∀ source ds, describeText source = .ok ds →
      ((normalize s source).outcomeOn screen).exit = 0 ∧
        ((normalize s source).outcomeOn screen).escaped = none ∧
        (s.format.readDocument? ((normalize s source).outcomeOn screen).stdout).bind
          descriptorsOf? = some ds) ∧
    (∀ entries, ¬ Reportable screen s entries → ∃ reports fault,
      (ofEntries s entries).outcomeOn screen =
        { exit := 1, stderr := reports, escaped := some fault }) ∧
    (∀ pairs error, namedEntries pairs = .error error →
      (ofValue s (.mapping pairs)).outcomeOn screen =
        { exit := 1, escaped := some (.numeral error) }) ∧
    ∀ value : Yaml.Value, (∀ items, value ≠ .list items) → (∀ pairs, value ≠ .mapping pairs) →
      ((ofValue s value).outcomeOn screen).exit = 1 ∧
        (ofValue s value).outcome =
          { exit := 1, stdout := "Expected a mapping or a list of annotations.\n" } := by
  refine ⟨?list, ?mapping, fun _ _ => normalize_outcome hs screen,
    fun _ => outcome_of_not_reportable hs, fun _ _ => outcome_of_unnamed s screen, ?other⟩
  case list =>
    intro items entries h
    have hnames : ((annotated entries).map (·.1)).Nodup :=
      (nodup_places items).sublist (names_sublist entries)
    rw [← foldl_enter_of_nodup hnames]
    exact writes_of_reportable hs h
  case mapping =>
    intro pairs entries hentries h
    have hfound : entries? (.mapping pairs) = some (.ok entries) := congrArg some hentries
    rw [ofValue, hfound]
    exact ⟨_, writes_of_reportable hs h⟩
  case other =>
    intro value hlist hmapping
    have hnone : entries? value = none := by
      cases value with
      | list items => exact absurd rfl (hlist items)
      | mapping pairs => exact absurd rfl (hmapping pairs)
      | _ => rfl
    refine ⟨?_, ?_⟩
    · rw [outcome_of_no_entries s hnone]
      cases screen.paragraph "[red]Expected a mapping or a list of annotations.[/]" <;> rfl
    · rw [Report.outcome, outcome_of_no_entries s hnone, terminal_remark]

/-- A name that comes twice, before an entry that is left out. -/
theorem ofValue_writes_annotations_twice :
    let s : Settings := { format := .json }
    let pairs : List (Yaml.Value × Yaml.Value) :=
      [(.int 1, .string "int"), (.string "1", .string "Foo[]"), (.string "b", .null)]
    let entries := [("1", Yaml.Value.string "int"), ("1", .string "Foo[]"), ("b", .null)]
    let o := (ofValue s (.mapping pairs)).outcome
    s.format ≠ .table ∧ namedEntries pairs = .ok entries ∧ Reportable .terminal s entries ∧
      ∃ results, Writes .terminal s entries results o ∧
        (s.format.readDocument? o.stdout).bind resultsOf? = some results ∧
        results.map (·.1) = ["1"] ∧
        results.lookup "1" = some (Expr.named "Foo[]").normalize.value := by
  intro s pairs entries o
  have hs : s.format ≠ .table := by decide
  have hint := descriptors?_string (Expr.describeText_of_parse Expr.parse_int)
  have hfoos := descriptors?_string (Expr.describeText_of_parse Expr.parse_foos)
  have hone : Yaml.Value.name (.int 1) = .ok "1" := by
    have hsmall : (1 : Int).natAbs < 10 ^ Text.mostDigits := Nat.one_lt_pow (by decide) (by decide)
    rw [Yaml.Value.name, Yaml.Value.display, Text.writeInt, Nat.pow_eq, if_pos hsmall]
    · rfl
    all_goals exact nofun
  have hnamed : namedEntries pairs = .ok entries := by
    rw [namedEntries, hone]
    rfl
  have hreports : Reportable .terminal s entries := by
    intro entry hentry c hc
    have hnone := descriptors?_of_error hc
    rcases List.mem_cons.mp hentry with rfl | hentry
    · rw [hint] at hnone
      cases hnone
    rcases List.mem_cons.mp hentry with rfl | hentry
    · rw [hfoos] at hnone
      cases hnone
    obtain rfl := List.mem_singleton.mp hentry
    obtain rfl := Except.error.inj hc
    rw [exists_text_complain_iff]
    refine ⟨_, rfl, Screen.terminal_shows ?_⟩
    rw [Markup.isStyle_red.showable_iff (Markup.tagsFrom_entry _)]
    exact (Markup.withoutTags_of_not_mem (by decide)).showable
  have hrows : annotated entries =
      [("1", (Expr.named "int").normalize.value), ("1", (Expr.named "Foo[]").normalize.value)] := by
    rw [annotated_cons, hint, annotated_cons, hfoos]
    rfl
  obtain ⟨results, hwrites⟩ :=
    (ofValue_writes_annotations hs .terminal).2.1 pairs entries hnamed hreports
  have hcollected : Collected (annotated entries) results := hwrites.collected
  rw [hrows] at hcollected
  exact ⟨hs, hnamed, hreports, results, hwrites, hwrites.reads, hcollected.names,
    hcollected.last "1"⟩

/-- Behind entries for which nothing is written, a report that cannot be shown is all there is. -/
theorem outcome_of_fault {s : Settings} {screen : Screen} {before : List (String × Yaml.Value)}
    (hbefore : ∀ entry ∈ before, entryWritings s entry.1 entry.2 = []) {name : String}
    {value : Yaml.Value} {c : Complaint} (hc : normalizeValue value = .error c) {fault : Fault}
    (h : (complain s name c).text screen = .error fault) (rest : List (String × Yaml.Value)) :
    (ofEntries s (before ++ (name, value) :: rest)).outcomeOn screen =
      { exit := 1, escaped := some fault } := by
  have hnothing : (before.flatMap fun entry => entryWritings s entry.1 entry.2) = [] :=
    List.flatMap_eq_nil_iff.mpr hbefore
  have hreport : entryWritings s name value = [complain s name c] := by rw [entryWritings, hc]
  rw [Report.outcomeOn, writings_ofEntries, List.flatMap_append, hnothing, List.flatMap_cons,
    hreport]
  exact Outcome.ofWritings_cons_error h

/-- Nothing is written for an annotation without notes before the document. -/
theorem entryWritings_int (name : String) :
    entryWritings { format := .json } name (.string "int") = [] := by
  rw [entryWritings, normalizeValue, normalizeText_of_parse Expr.parse_int]
  rfl

def colorError : SyntaxError := ⟨.unexpectedCharacter '[', 0, "[rgb(,,)]"⟩

theorem parse_color : Expr.parse "[rgb(,,)]" = .error colorError :=
  Expr.parse_of_beginsNothing rfl
    ⟨by decide, by decide, by decide, by decide⟩

/-- No report is faulty markup, but a colour without numbers in one takes the document with it. -/
theorem no_document_color :
    let s : Settings := { format := .json }
    let entries := [("a", Yaml.Value.string "int"), ("b", .string "[rgb(,,)]")]
    let o := (ofValue s (.mapping
      [(.string "a", .string "int"), (.string "b", .string "[rgb(,,)]")])).outcome
    (∀ entry ∈ entries, ∀ c, normalizeValue entry.2 = .error c → ∀ fault,
        (complain s entry.1 c).text .terminal = .error fault → fault.title = "ValueError") ∧
      (annotated entries).map (·.1) = ["a"] ∧
      o = { exit := 1, escaped := some (.markup (.numeral (.illegible 10 []))) } ∧
      (s.format.readDocument? o.stdout).bind resultsOf? = none := by
  intro s entries o
  have hint := descriptors?_string (Expr.describeText_of_parse Expr.parse_int)
  have hcolor : normalizeValue (.string "[rgb(,,)]") = .error (.syntaxError colorError) := by
    rw [normalizeValue, normalizeText_of_parse_eq_error parse_color]
  have hreport : (complain s "b" (.syntaxError colorError)).text .terminal =
      .error (.markup (.numeral (.illegible 10 []))) := by
    decide +kernel
  have hbefore : ∀ entry ∈ [("a", Yaml.Value.string "int")],
      entryWritings s entry.1 entry.2 = [] := by
    intro entry hentry
    obtain rfl := List.mem_singleton.mp hentry
    exact entryWritings_int "a"
  have houtcome : o = { exit := 1, escaped := some (.markup (.numeral (.illegible 10 []))) } :=
    outcome_of_fault hbefore hcolor hreport []
  refine ⟨?_, ?_, houtcome, ?_⟩
  · intro entry hentry c hc fault hfault
    rcases List.mem_cons.mp hentry with rfl | hentry
    · rw [descriptors?_of_error hc] at hint
      cases hint
    obtain rfl := List.mem_singleton.mp hentry
    obtain rfl := Except.error.inj (hcolor.symm.trans hc)
    obtain rfl := Except.error.inj (hreport.symm.trans hfault)
    rfl
  · rw [annotated_cons, hint, annotated_cons, descriptors?_of_error hcolor]
    rfl
  · rw [houtcome]
    have hread : Document.Json.read "" = none := by
      rw [Document.Json.read, Document.Json.Part.read]
      rfl
    exact congrArg (Option.bind · resultsOf?) hread

end Batch

end Command

end TypeAnnotation
