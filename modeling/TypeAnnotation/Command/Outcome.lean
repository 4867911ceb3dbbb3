import TypeAnnotation.Layout.Table
import TypeAnnotation.Markup
import TypeAnnotation.Yaml.Fault

/-! # What a command does

A command writes pieces of text, one after another, and ends with a status. Where a piece cannot be
shown, such as markup with a closing tag that closes nothing, the command breaks off there.
-/
namespace TypeAnnotation.Command

inductive Channel
  | stdout
  | stderr
deriving DecidableEq, Repr

inductive Status
  | success
  | failure
  | misuse
deriving DecidableEq, Repr

def Status.code : Status → Nat
  | success => 0
  | failure => 1
  | misuse => 2

/-- What breaks a command off: markup that cannot be shown, a number that has no text, or a scalar
that has no value. -/
inductive Fault
  | markup (error : Markup.Error)
  | numeral (error : Text.NumeralError)
  | scalar (fault : Yaml.Fault)
deriving DecidableEq, Repr

namespace Fault

def title : Fault → String
  | markup (.unmatched _ _) | markup (.handler _) => "MarkupError"
  | markup (.numeral _) | numeral _ => "ValueError"
  | scalar fault => fault.title

def message : Fault → String
  | markup error => error.message
  | numeral error => error.message
  | scalar fault => fault.message

end Fault

/-- A piece of text that is written: as it stands, as a paragraph of markup, or as a table with
markup in it. A broken one could not even be put together. -/
inductive Writing
  | verbatim (channel : Channel) (text : String)
  | paragraph (channel : Channel) (markup : String)
  | table (channel : Channel) (table : Layout.Table String)
  | broken (channel : Channel) (fault : Fault)
deriving Repr

/-- How markup is shown. -/
structure Screen where
  paragraph : String → Except Fault String
  table : Layout.Table String → Except Fault String

namespace Screen

def terminalWidth : Nat := 80

def joinLines (lines : List (List Char)) : String :=
  String.ofList (lines.flatMap (· ++ ['\n']))

def checkStyles (found : Option Text.NumeralError) : Except Fault Unit :=
  match found with
  | some error => .error (.markup (.numeral error))
  | none => .ok ()

/-- A terminal without colours. Styles are read when the lines are known, and leave no trace. -/
def terminal : Screen where
  paragraph markup := do
    let r ← (Markup.plain markup).mapError .markup
    let lines := Layout.paragraph terminalWidth r.text
    checkStyles (r.fault? (lines.length ≠ 1))
    return joinLines lines
  table t := do
    let t ← (t.mapTexts Markup.plain).mapError .markup
    let shown := t.map (·.text)
    checkStyles (t.title.fault? ((shown.titleLines terminalWidth).length ≠ 1))
    checkStyles ((t.columns.flatMap fun c => c.header :: c.cells).findSome? (·.fault? false))
    return joinLines (shown.render terminalWidth)

end Screen

namespace Writing

def channel : Writing → Channel
  | verbatim channel _ | paragraph channel _ | table channel _ | broken channel _ => channel

def text (screen : Screen) : Writing → Except Fault String
  | verbatim _ text => .ok text
  | paragraph _ markup => screen.paragraph markup
  | table _ t => screen.table t
  | broken _ fault => .error fault

end Writing

structure Report where
  writings : List Writing
  status : Status
deriving Repr

/-- What is seen of a command from outside. -/
structure Outcome where
  exit : Nat
  stdout : String := ""
  stderr : String := ""
  escaped : Option Fault := none
deriving DecidableEq, Repr

namespace Outcome

def behind (channel : Channel) (text : String) (o : Outcome) : Outcome :=
  match channel with
  | .stdout => { o with stdout := text ++ o.stdout }
  | .stderr => { o with stderr := text ++ o.stderr }

/-- The outcome of writing pieces and ending with a status. -/
def ofWritings (screen : Screen) (status : Status) : List Writing → Outcome
  | [] => { exit := status.code }
  | w :: rest =>
    match w.text screen with
    | .ok text => (ofWritings screen status rest).behind w.channel text
    | .error fault => { exit := Status.failure.code, escaped := some fault }

section
variable {screen : Screen} {status : Status}

theorem ofWritings_cons_ok {w : Writing} {rest : List Writing} {text : String}
    (h : w.text screen = .ok text) :
    ofWritings screen status (w :: rest) = (ofWritings screen status rest).behind w.channel text := by
  simp only [ofWritings, h]

theorem ofWritings_cons_error {w : Writing} {rest : List Writing} {fault : Fault}
    (h : w.text screen = .error fault) :
    ofWritings screen status (w :: rest) = { exit := 1, escaped := some fault } := by
  simp only [ofWritings, h]
  rfl

theorem behind_behind (channel : Channel) (first second : String) (o : Outcome) :
    (o.behind channel second).behind channel first = o.behind channel (first ++ second) := by
  cases channel <;> simp [behind, String.append_assoc]

theorem behind_empty (channel : Channel) (o : Outcome) : o.behind channel "" = o := by
  cases channel <;> simp [behind]

/-- Pieces that can all be written to one channel are written there one after another. -/
theorem ofWritings_append_ok {channel : Channel} {ws : List Writing}
    (h : ∀ w ∈ ws, w.channel = channel ∧ ∃ text, w.text screen = .ok text) (status : Status)
    (rest : List Writing) :
    ∃ text, ofWritings screen status (ws ++ rest) =
      (ofWritings screen status rest).behind channel text := by
  induction ws with
  | nil => exact ⟨"", (behind_empty channel _).symm⟩
  | cons w ws ih =>
    obtain ⟨hw, hws⟩ := List.forall_mem_cons.mp h
    obtain ⟨rfl, first, hfirst⟩ := hw
    obtain ⟨others, hothers⟩ := ih hws
    refine ⟨first ++ others, ?_⟩
    rw [List.cons_append, ofWritings_cons_ok hfirst, hothers, behind_behind]

/-- One piece that cannot be written breaks the command off, whatever was to come after it. -/
theorem ofWritings_append_error {channel : Channel} {ws : List Writing}
    (hc : ∀ w ∈ ws, w.channel = channel) (h : ∃ w ∈ ws, ∃ fault, w.text screen = .error fault)
    (status : Status) (rest : List Writing) :
    ∃ text fault, ofWritings screen status (ws ++ rest) =
      Outcome.behind channel text { exit := 1, escaped := some fault } := by
  induction ws with
  | nil => simp at h
  | cons w ws ih =>
    obtain ⟨rfl, hws⟩ := List.forall_mem_cons.mp hc
    cases hw : w.text screen with
    | error e =>
      refine ⟨"", e, ?_⟩
      rw [List.cons_append, ofWritings_cons_error hw, behind_empty]
    | ok first =>
      have hlater : ∃ w ∈ ws, ∃ e, w.text screen = .error e := by
        obtain ⟨v, hv, e, he⟩ := h
        rcases List.mem_cons.mp hv with rfl | hv
        · rw [hw] at he
          cases he
        · exact ⟨v, hv, e, he⟩
      obtain ⟨others, e, hothers⟩ := ih hws hlater
      refine ⟨first ++ others, e, ?_⟩
      rw [List.cons_append, ofWritings_cons_ok hw, hothers, behind_behind]

end

end Outcome

def Report.outcomeOn (screen : Screen) (r : Report) : Outcome :=
  Outcome.ofWritings screen r.status r.writings

def Report.outcome (r : Report) : Outcome := r.outcomeOn .terminal

end TypeAnnotation.Command
