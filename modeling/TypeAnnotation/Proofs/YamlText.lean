import TypeAnnotation.Proofs.JsonText
import TypeAnnotation.Proofs.YamlQuotes

/-! # Reading YAML

A document in block style can be told from its text: reading the text gives the document back, be its
keys what they may. Only strings further inside may have no spaces, since the columns have no bound
and a folded line that begins beyond the line width is folded again.
-/
namespace TypeAnnotation.Document

namespace Yaml

open TypeAnnotation.Yaml (isGapOrEnd)

/-! ## The reader -/

def startsItem : List Char → Bool
  | '-' :: rest => isGapOrEnd (rest.headD ' ')
  | _ => false

def readKey (column : Nat) : List Char → Option (String × List Char)
  | '?' :: ' ' :: rest =>
    match readScalar (column + 2) rest with
    | some (.string key, after) =>
      match nextLine? column after with
      | some (':' :: rest) => some (key, rest)
      | _ => none
    | _ => none
  | text =>
    match readScalar column text with
    | some (.string key, ':' :: rest) => some (key, rest)
    | _ => none

/-- What is read: a document that stands at a column, the items or the entries of one, of which
there is at least one, or what stands behind the colon of an entry. -/
inductive Block
  | node
  | items
  | entries
  | value

def Block.read (block : Block) (column : Nat) (text : List Char) :
    Option (Document × List Char) :=
  match block with
  | node =>
    match text with
    | '[' :: ']' :: rest => some (.list [], rest)
    | '\x7b' :: '\x7d' :: rest => some (.mapping [], rest)
    | _ =>
      if startsItem text then Block.items |>.read column text
      else if (readKey column text).isSome then Block.entries |>.read column text
      else readScalar column text
  | items =>
    match text with
    | '-' :: ' ' :: rest => do
      let (item, rest) ← Block.node |>.read (column + 2) rest
      match (nextLine? column rest).filter startsItem with
      | some line => do
        let (more, rest) ← Block.items |>.read column line
        return (more.withItem item, rest)
      | none => return (.list [item], rest)
    | _ => none
  | entries => do
    let (key, rest) ← readKey column text
    let (document, rest) ← Block.value |>.read column rest
    match nextLine? column rest with
    | some line => do
      let (more, rest) ← Block.entries |>.read column line
      return (more.withEntry key document, rest)
    | none => return (.mapping [(key, document)], rest)
  | value =>
    match text with
    | ' ' :: rest => Block.node |>.read (column + 2) rest
    | _ =>
      match nextLine? column text, nextLine? (column + 2) text with
      | some line, _ => Block.items |>.read column line
      | none, some line => Block.node |>.read (column + 2) line
      | none, none => none
partial_fixpoint

/-- The document that a whole text says, with a line feed at its end. -/
def read (text : String) : Option Document :=
  match Block.node.read 0 text.toList with
  | some (document, ['\n']) => some document
  | _ => none

/-! ## What stands behind a block -/

structure Below (column : Nat) (rest : List Char) : Prop where
  head : rest = [] ∨ rest.head? = some '\n'
  lines : ∀ n, column ≤ n → nextLine? n rest = none

theorem Below.mono {column n : Nat} {rest : List Char} (h : Below column rest) (hn : column ≤ n) :
    Below n rest :=
  ⟨h.head, fun m hm => h.lines m (hn.trans hm)⟩

theorem Below.endsScalar {column : Nat} {rest : List Char} (h : Below column rest) :
    EndsScalar column rest :=
  .inr ⟨h.head, h.lines column (Nat.le_refl column)⟩

theorem nextLine?_eq_none {n column : Nat} (h : n ≠ column) {c : Char} (hc : c ≠ ' ')
    (rest : List Char) : nextLine? column ('\n' :: (List.replicate n ' ' ++ c :: rest)) = none := by
  unfold nextLine?
  split
  · rename_i heq
    obtain rfl := (List.cons.inj heq).2
    split
    · rename_i next line hdrop
      rw [if_neg]
      rintro ⟨htake, hnext, -⟩
      rcases Nat.lt_or_gt_of_ne h with hlt | hgt
      · have hplace := congrArg (·[n]?) htake
        simp [hlt] at hplace
        exact hc hplace
      · have hplace := congrArg List.head? hdrop
        rw [List.head?_drop, List.getElem?_append_left (by simpa using hgt)] at hplace
        simp [hgt] at hplace
        exact hnext hplace.symm
    · rfl
  · rfl

def BeginsLine (written : List Char) : Prop := ∃ c after, written = c :: after ∧ c ≠ ' ' ∧ c ≠ '\n'

def lineAt (column : Nat) (text : List Char) : List Char :=
  '\n' :: (List.replicate column ' ' ++ text)

theorem lineAt_append (column : Nat) (text rest : List Char) :
    lineAt column text ++ rest = lineAt column (text ++ rest) := by
  simp [lineAt]

namespace BeginsLine
variable {written : List Char} (h : BeginsLine written)
include h

theorem nextLine?_lineAt (n : Nat) (rest : List Char) :
    nextLine? n (lineAt n (written ++ rest)) = some (written ++ rest) := by
  obtain ⟨c, after, rfl, hspace, hbreak⟩ := h
  exact nextLine?_eq_some n hspace hbreak (after ++ rest)

theorem nextLine?_eq_none {n column : Nat} (hn : n ≠ column) (rest : List Char) :
    nextLine? column (lineAt n (written ++ rest)) = none := by
  obtain ⟨c, after, rfl, hspace, -⟩ := h
  exact Yaml.nextLine?_eq_none hn hspace (after ++ rest)

/-- The line stands below the columns behind its own. -/
theorem below (n : Nat) (rest : List Char) : Below (n + 1) (lineAt n (written ++ rest)) :=
  ⟨.inr rfl, fun m hm => h.nextLine?_eq_none (by omega) rest⟩

end BeginsLine

theorem below_end : Below 0 ['\n'] := by
  refine ⟨.inr rfl, fun n _ => ?_⟩
  simp [nextLine?]

/-! ## Steps of the reader -/

section
variable {column : Nat} {d : Document} {text rest : List Char}

theorem node_items (h : startsItem text = true) :
    Block.node.read column text = Block.items.read column text := by
  rw [Block.read]
  · rw [if_pos h]
  all_goals
    rintro rest rfl
    cases h

theorem node_entries {c : Char} {after : List Char} (htext : text = c :: after) (hlist : c ≠ '[')
    (hmapping : c ≠ '\x7b') (hitem : startsItem text = false)
    (hkey : (readKey column text).isSome = true) :
    Block.node.read column text = Block.entries.read column text := by
  rw [Block.read]
  · rw [hitem, if_neg Bool.false_ne_true, if_pos hkey]
  · rintro rest rfl
    exact hlist (List.cons.inj htext).1.symm
  · rintro rest rfl
    exact hmapping (List.cons.inj htext).1.symm

theorem startsItem_append {column : Nat} {d : Document} {written : List Char}
    (h : Writes column d written) (rest : List Char) : startsItem (written ++ rest) = false := by
  obtain ⟨c, after, rfl, -, -, -, -, hmark⟩ := h.begins
  rw [List.cons_append]
  unfold startsItem
  split
  · rename_i heq
    obtain ⟨rfl, rfl⟩ := List.cons.inj heq
    have hgap := hmark (.inl rfl)
    cases after with
    | nil => exact absurd hgap (by decide)
    | cons next after => exact hgap
  · rfl

/-- A scalar is no key that is marked. -/
theorem readKey_append {written : List Char} (h : Writes column d written) (rest : List Char) :
    readKey column (written ++ rest) =
      match readScalar column (written ++ rest) with
      | some (.string key, ':' :: rest) => some (key, rest)
      | _ => none := by
  obtain ⟨c, after, rfl, -, -, -, -, hmark⟩ := h.begins
  rw [List.cons_append, readKey]
  rintro after' heq
  obtain ⟨rfl, hafter⟩ := List.cons.inj heq
  have hgap := hmark (.inr rfl)
  cases after with
  | nil => exact absurd hgap (by decide)
  | cons next after =>
    obtain ⟨rfl, -⟩ := List.cons.inj hafter
    rw [List.headD_cons] at hgap
    exact absurd hgap (by decide)

/-- A scalar with no colon behind it is a document of its own. -/
theorem node_scalar {written : List Char} (h : Writes column d written) (hrest : Below column rest) :
    Block.node.read column (written ++ rest) = some (d, rest) := by
  have hread := h.reads rest hrest.endsScalar
  have hkey : readKey column (written ++ rest) = none := by
    rw [readKey_append h, hread]
    split
    · rename_i heq
      obtain ⟨-, rfl⟩ := Prod.mk.inj (Option.some.inj heq)
      rcases hrest.head with hnil | hhead
      · cases hnil
      · cases hhead
    · rfl
  have hitem := startsItem_append h rest
  obtain ⟨c, after, rfl, -, -, hlist, hmapping, -⟩ := h.begins
  rw [Block.read]
  · rw [hitem, if_neg Bool.false_ne_true, hkey, Option.isSome_none, if_neg Bool.false_ne_true, hread]
  · intro rest' heq
    exact hlist (List.cons.inj heq).1
  · intro rest' heq
    exact hmapping (List.cons.inj heq).1

theorem items_last {item : Document} (hitem : Block.node.read (column + 2) text = some (item, rest))
    (hrest : ∀ line, nextLine? column rest = some line → startsItem line = false) :
    Block.items.read column ('-' :: ' ' :: text) = some (.list [item], rest) := by
  have hline : (nextLine? column rest).filter startsItem = none := by
    rw [Option.filter_eq_none_iff]
    intro line hline
    rw [hrest line hline]
    exact Bool.false_ne_true
  rw [Block.read, hitem]
  simp only [bind, Option.bind, hline, pure]

theorem items_cons {item : Document} {items : List Document} {after line : List Char}
    (hitem : Block.node.read (column + 2) text = some (item, after))
    (hline : nextLine? column after = some line) (hmark : startsItem line = true)
    (hitems : Block.items.read column line = some (.list items, rest)) :
    Block.items.read column ('-' :: ' ' :: text) = some (.list (item :: items), rest) := by
  have hnext : (nextLine? column after).filter startsItem = some line := by
    rw [hline, Option.filter_some, if_pos hmark]
  rw [Block.read, hitem]
  simp only [bind, Option.bind, hnext, hitems, pure, withItem]

theorem entries_last {key : String} {value : List Char}
    (hkey : readKey column text = some (key, value))
    (hvalue : Block.value.read column value = some (d, rest)) (hrest : nextLine? column rest = none) :
    Block.entries.read column text = some (.mapping [(key, d)], rest) := by
  rw [Block.read, hkey]
  simp only [bind, Option.bind, hvalue, hrest, pure]

theorem entries_cons {key : String} {value after line : List Char}
    {entries : List (String × Document)} (hkey : readKey column text = some (key, value))
    (hvalue : Block.value.read column value = some (d, after))
    (hline : nextLine? column after = some line)
    (hentries : Block.entries.read column line = some (.mapping entries, rest)) :
    Block.entries.read column text = some (.mapping ((key, d) :: entries), rest) := by
  rw [Block.read, hkey]
  simp only [bind, Option.bind, hvalue, hline, hentries, pure, withEntry]

end

/-! ## Keys -/

structure WritesKey (n : Nat) (key : String) (p : Pen) (written : List Char) : Prop where
  text : (writeKey n key p).text = p.text ++ written
  pen : (writeKey n key p).Ended ∨ (writeKey n key p).AtMark n
  reads : ∀ rest, isGapOrEnd (rest.headD ' ') = true →
    readKey n (written ++ rest) = some (key, rest)
  begins : ∃ c after, written = c :: after ∧ c ≠ ' ' ∧ c ≠ '\n' ∧ c ≠ '[' ∧ c ≠ '\x7b'
  noItem : ∀ rest, startsItem (written ++ rest) = false

section
variable {n : Nat} {key : String} (hfit : n + 2 < lineWidth ∨ ' ' ∉ key.toList) {p : Pen}
  (hp : p.AtColumn n)
include hfit hp

theorem exists_writesKey_simple (hsimple : isSimpleKey key = true) :
    ∃ written, WritesKey n key p written := by
  have hwrite : writeKey n key p = (writeString false (n + 2) key p).closeMark ':' := by
    rw [writeKey, hp.toIndent]
    exact if_pos hsimple
  obtain ⟨written, hwrites, htext, -⟩ := exists_writeString_unfolded hfit p
  have hgap : p.gap = [] := by rw [Pen.gap, hp.afterSpace, if_pos rfl]
  rw [hgap, List.nil_append] at htext
  refine ⟨written ++ [':'], ?_, .inl ?_, ?_, ?_, ?_⟩
  · rw [hwrite, Pen.text_closeMark, htext, List.append_assoc]
  · rw [hwrite]
    exact Pen.ended_closeMark _ _
  · intro rest hrest
    rw [List.append_assoc, List.singleton_append, readKey_append (hwrites n),
      (hwrites n).reads _ (.inl ⟨rest, rfl, hrest⟩)]
    rfl
  · obtain ⟨c, after, rfl, hspace, hbreak, hlist, hmapping, -⟩ := (hwrites n).begins
    exact ⟨c, after ++ [':'], rfl, hspace, hbreak, hlist, hmapping⟩
  · intro rest
    rw [List.append_assoc]
    exact startsItem_append (hwrites n) _

/-- Another key is marked, and its colon stands on a line of its own. -/
theorem exists_writesKey_marked (hsimple : ¬ isSimpleKey key = true) :
    ∃ written, WritesKey n key p written := by
  have hwrite : writeKey n key p =
      ((writeString true (n + 2) key (p.indentMark '?')).toIndent n).indentMark ':' := by
    rw [writeKey, hp.toIndent]
    exact if_neg hsimple
  obtain ⟨hquestion, hmark⟩ := hp.indentMark '?'
  obtain ⟨written, hwrites, htext, hended⟩ := exists_writeString true (n + 2) hfit (p.indentMark '?')
  have hgap : (p.indentMark '?').gap = [' '] := by
    rw [Pen.gap, hmark.afterSpace, if_neg Bool.false_ne_true]
  rw [hgap, hquestion] at htext
  have hline := Pen.text_toIndent (n := n) (.inl hended.indenting)
  obtain ⟨hcolon, hat⟩ := (Pen.atColumn_toIndent hended.indenting n).indentMark ':'
  have hbegins : BeginsLine [':'] := ⟨':', [], rfl, by decide, by decide⟩
  refine ⟨'?' :: ' ' :: (written ++ lineAt n [':']), ?_, .inr ?_, ?_, ?_, fun rest => rfl⟩
  · rw [hwrite, hcolon, hline, htext]
    simp [lineAt]
  · rwa [hwrite]
  · intro rest _
    have hbelow := hbegins.below n rest
    have hread := hwrites.reads _ (hbelow.mono (Nat.le_succ (n + 1))).endsScalar
    have hnext := hbegins.nextLine?_lineAt n rest
    rw [List.singleton_append] at hread hnext
    simp only [List.cons_append, List.append_assoc, lineAt_append, List.nil_append, readKey, hread,
      hnext]
  · exact ⟨'?', _, rfl, by decide, by decide, by decide, by decide⟩

theorem exists_writesKey : ∃ written, WritesKey n key p written := by
  by_cases hsimple : isSimpleKey key = true
  · exact exists_writesKey_simple hfit hp hsimple
  · exact exists_writesKey_marked hfit hp hsimple

end

end Yaml

/-! ## Spaces -/

mutual

/-- No string in the document has a space in it. -/
def Spaceless : Document → Prop
  | .null | .bool _ => True
  | .string s => ' ' ∉ s.toList
  | .list items => SpacelessItems items
  | .mapping entries => SpacelessEntries entries

def SpacelessItems : List Document → Prop
  | [] => True
  | item :: items => item.Spaceless ∧ SpacelessItems items

def SpacelessEntries : List (String × Document) → Prop
  | [] => True
  | (key, value) :: entries => (' ' ∉ key.toList ∧ value.Spaceless) ∧ SpacelessEntries entries

end

def FitEntries (column : Nat) (entries : List (String × Document)) : Prop :=
  ∀ entry ∈ entries, (column + 2 < Yaml.lineWidth ∨ ' ' ∉ entry.1.toList) ∧ entry.2.Spaceless

theorem SpacelessEntries.fit {entries : List (String × Document)} (h : SpacelessEntries entries)
    (column : Nat) : FitEntries column entries := by
  induction entries with
  | nil => simp [FitEntries]
  | cons entry entries ih =>
    obtain ⟨⟨hkey, hvalue⟩, hentries⟩ := h
    exact List.forall_mem_cons.mpr ⟨⟨.inr hkey, hvalue⟩, ih hentries⟩

namespace Yaml

open TypeAnnotation.Yaml (isGapOrEnd)

/-! ## The whole document -/

/-- What stands at the column but one behind a mark reads back as the document. -/
structure Stands (n : Nat) (d : Document) (written : List Char) : Prop where
  reads : ∀ rest, Below (n + 1) rest → Block.node.read (n + 2) (written ++ rest) = some (d, rest)
  begins : BeginsLine written

def EndsItems (n : Nat) (rest : List Char) : Prop :=
  ∀ line, nextLine? n rest = some line → startsItem line = false

structure Follows (n : Nat) (d : Document) (written : List Char) : Prop where
  reads : ∀ rest, Below (n + 1) rest → EndsItems n rest →
    Block.value.read n (written ++ rest) = some (d, rest)
  begins : written.head? = some ' ' ∨ written.head? = some '\n'

theorem Stands.follows {n : Nat} {d : Document} {written : List Char} (h : Stands n d written) :
    Follows n d (' ' :: written) := by
  refine ⟨fun rest hrest _ => ?_, .inl rfl⟩
  rw [List.cons_append, Block.read]
  exact h.reads rest hrest

theorem Writes.stands {n : Nat} {d : Document} {written : List Char}
    (h : Writes (n + 2) d written) : Stands n d written := by
  refine ⟨fun rest hrest => node_scalar h (hrest.mono (Nat.le_succ (n + 1))), ?_⟩
  obtain ⟨c, after, rfl, hspace, hbreak, -⟩ := h.begins
  exact ⟨c, after, rfl, hspace, hbreak⟩

def isFlat : Document → Bool
  | .list (_ :: _) | .mapping (_ :: _) => false
  | _ => true

section
variable (n : Nat) {d : Document} {p : Pen}

theorem stands_word {word : List Char} (hplain : allowsPlain word = true) (hne : word ≠ [])
    (hresolve : resolve word = some d) (hgap : p.gap = [' ']) :
    Stands n d word ∧ (writePlain false 0 word p).text = p.text ++ ' ' :: word ∧
      (writePlain false 0 word p).Ended := by
  have hwrites := (plainly_of_allowsPlain hplain).writes hne hresolve (.self (n + 2) word)
  obtain ⟨htext, hended⟩ := text_writePlain 0 word p
  rw [hgap] at htext
  exact ⟨hwrites.stands, htext, hended⟩

/-- A collection without members is its two brackets. -/
theorem stands_brackets {c last : Char} (hspace : c ≠ ' ') (hbreak : c ≠ '\n')
    (hread : ∀ rest, Block.node.read (n + 2) (c :: last :: rest) = some (d, rest))
    (hgap : p.gap = [' ']) :
    Stands n d [c, last] ∧
      ((p.spaced [c]).closeMark last).text = p.text ++ ' ' :: [c, last] ∧
      ((p.spaced [c]).closeMark last).Ended := by
  refine ⟨⟨fun rest _ => hread rest, c, [last], rfl, hspace, hbreak⟩, ?_, Pen.ended_closeMark _ _⟩
  rw [Pen.text_closeMark, Pen.text_spaced, hgap]
  simp

theorem exists_write_flat (hflat : isFlat d = true) (hd : d.Spaceless) (inMapping : Bool)
    (hp : p.afterSpace = false) :
    ∃ written, Stands n d written ∧
      (write (some n) inMapping p d).text = p.text ++ ' ' :: written ∧
      (write (some n) inMapping p d).Ended := by
  have hgap : p.gap = [' '] := by rw [Pen.gap, hp, if_neg Bool.false_ne_true]
  cases d with
  | null =>
    rw [write]
    exact ⟨"null".toList, stands_word n (by decide) (by decide) rfl hgap⟩
  | bool b =>
    rw [write]
    cases b with
    | false => exact ⟨"false".toList, stands_word n (by decide) (by decide) rfl hgap⟩
    | true => exact ⟨"true".toList, stands_word n (by decide) (by decide) rfl hgap⟩
  | string s =>
    obtain ⟨written, hwrites, htext, hended⟩ := exists_writeString true (n + 2) (.inr hd) p
    rw [hgap] at htext
    rw [write]
    exact ⟨written, hwrites.stands, htext, hended⟩
  | list items =>
    cases items with
    | nil =>
      rw [write]
      exact ⟨_, stands_brackets n (by decide) (by decide) (fun rest => by rw [Block.read]) hgap⟩
    | cons item items => cases hflat
  | mapping entries =>
    cases entries with
    | nil =>
      rw [write]
      exact ⟨_, stands_brackets n (by decide) (by decide) (fun rest => by rw [Block.read]) hgap⟩
    | cons entry entries => cases hflat

end

structure StandItems (n : Nat) (items : List Document) (written : List Char) : Prop where
  reads : ∀ rest, Below (n + 1) rest → EndsItems n rest →
    Block.items.read n (written ++ rest) = some (.list items, rest)
  begins : ∃ after, written = '-' :: ' ' :: after

structure StandEntries (n : Nat) (entries : List (String × Document)) (written : List Char) : Prop where
  reads : ∀ rest, Below n rest →
    Block.entries.read n (written ++ rest) = some (.mapping entries, rest)
  begins : ∃ c after, written = c :: after ∧ c ≠ ' ' ∧ c ≠ '\n' ∧ c ≠ '[' ∧ c ≠ '\x7b'
  noItem : ∀ rest, startsItem (written ++ rest) = false
  key : ∀ rest, (readKey n (written ++ rest)).isSome = true

theorem Below.endsItems {n : Nat} {rest : List Char} (h : Below n rest) : EndsItems n rest := by
  intro line hline
  rw [h.lines n (Nat.le_refl n)] at hline
  cases hline

theorem StandItems.node {n : Nat} {items : List Document} {written : List Char}
    (h : StandItems n items written) {rest : List Char} (hrest : Below n rest) :
    Block.node.read n (written ++ rest) = some (.list items, rest) := by
  have hread := h.reads rest (hrest.mono (Nat.le_succ n)) hrest.endsItems
  obtain ⟨after, rfl⟩ := h.begins
  rw [node_items rfl]
  exact hread

theorem StandEntries.node {n : Nat} {entries : List (String × Document)} {written : List Char}
    (h : StandEntries n entries written) {rest : List Char} (hrest : Below n rest) :
    Block.node.read n (written ++ rest) = some (.mapping entries, rest) := by
  obtain ⟨c, after, rfl, -, -, hlist, hmapping⟩ := h.begins
  rw [node_entries List.cons_append hlist hmapping (h.noItem rest) (h.key rest)]
  exact h.reads rest hrest

theorem StandItems.beginsLine {n : Nat} {items : List Document} {written : List Char}
    (h : StandItems n items written) : BeginsLine written := by
  obtain ⟨after, rfl⟩ := h.begins
  exact ⟨'-', _, rfl, by decide, by decide⟩

theorem StandEntries.beginsLine {n : Nat} {entries : List (String × Document)}
    {written : List Char} (h : StandEntries n entries written) : BeginsLine written := by
  obtain ⟨c, after, rfl, hspace, hbreak, -⟩ := h.begins
  exact ⟨c, after, rfl, hspace, hbreak⟩

theorem StandItems.stands {n : Nat} {items : List Document} {written : List Char}
    (h : StandItems (n + 2) items written) : Stands n (.list items) written := by
  exact ⟨fun rest hrest => h.node (hrest.mono (Nat.le_succ (n + 1))), h.beginsLine⟩

theorem StandEntries.stands {n : Nat} {entries : List (String × Document)} {written : List Char}
    (h : StandEntries (n + 2) entries written) : Stands n (.mapping entries) written := by
  exact ⟨fun rest hrest => h.node (hrest.mono (Nat.le_succ (n + 1))), h.beginsLine⟩

/-- A list may begin on the next line at the column of the key. -/
theorem StandItems.follows {n : Nat} {items : List Document} {written : List Char}
    (h : StandItems n items written) : Follows n (.list items) (lineAt n written) := by
  refine ⟨fun rest hrest hends => ?_, .inr rfl⟩
  rw [lineAt_append, lineAt, Block.read]
  · rw [← lineAt, h.beginsLine.nextLine?_lineAt]
    exact h.reads rest hrest hends
  · intro after heq
    exact absurd (List.cons.inj heq).1 (by decide)

theorem StandEntries.follows {n : Nat} {entries : List (String × Document)} {written : List Char}
    (h : StandEntries (n + 2) entries written) :
    Follows n (.mapping entries) (lineAt (n + 2) written) := by
  refine ⟨fun rest hrest _ => ?_, .inr rfl⟩
  rw [lineAt_append, lineAt, Block.read]
  · rw [← lineAt, h.beginsLine.nextLine?_lineAt, h.beginsLine.nextLine?_eq_none (by omega)]
    exact h.node (hrest.mono (Nat.le_succ (n + 1)))
  · intro after heq
    exact absurd (List.cons.inj heq).1 (by decide)

theorem writeItems_toIndent {n : Nat} {p : Pen} (h : (p.toIndent n).AtColumn n) (item : Document)
    (items : List Document) :
    writeItems n p (item :: items) = writeItems n (p.toIndent n) (item :: items) := by
  rw [writeItems, writeItems, h.toIndent]

theorem writeEntries_toIndent {n : Nat} {p : Pen} (h : (p.toIndent n).AtColumn n)
    (entry : String × Document) (entries : List (String × Document)) :
    writeEntries n p (entry :: entries) = writeEntries n (p.toIndent n) (entry :: entries) := by
  rw [writeEntries, writeEntries, writeKey, writeKey, h.toIndent]

theorem write_list (n : Nat) (inMapping : Bool) (p : Pen) (item : Document)
    (items : List Document) :
    write (some n) inMapping p (.list (item :: items)) =
      writeItems (if inMapping && !p.indenting then n else n + 2) p (item :: items) := by
  rw [write]
  exact List.cons_ne_nil item items

theorem write_mapping (n : Nat) (inMapping : Bool) (p : Pen) (entry : String × Document)
    (entries : List (String × Document)) :
    write (some n) inMapping p (.mapping (entry :: entries)) =
      writeEntries (n + 2) p (entry :: entries) := by
  rw [write]
  exact List.cons_ne_nil entry entries

/-- An item of a list, with more items on the lines behind it. -/
theorem StandItems.cons {n : Nat} {item : Document} {items : List Document}
    {written others : List Char} (h : Stands n item written) (hitems : StandItems n items others) :
    StandItems n (item :: items) ('-' :: ' ' :: (written ++ lineAt n others)) := by
  refine ⟨fun rest hrest hends => ?_, _, rfl⟩
  have hitem := h.reads _ (hitems.beginsLine.below n rest)
  have hmark : startsItem (others ++ rest) = true := by
    obtain ⟨after, rfl⟩ := hitems.begins
    rfl
  simp only [List.cons_append, List.append_assoc, lineAt_append]
  exact items_cons hitem (hitems.beginsLine.nextLine?_lineAt n rest) hmark
    (hitems.reads rest hrest hends)

theorem StandItems.single {n : Nat} {item : Document} {written : List Char}
    (h : Stands n item written) : StandItems n [item] ('-' :: ' ' :: written) :=
  ⟨fun rest hrest hends => items_last (h.reads rest hrest) hends, _, rfl⟩

section
variable {n : Nat} {key : String} {d : Document} {p : Pen} {name written : List Char}

theorem Follows.beginsGap (h : Follows n d written) (rest : List Char) :
    isGapOrEnd ((written ++ rest).headD ' ') = true := by
  rcases h.begins with hhead | hhead
  all_goals
    obtain ⟨after, rfl⟩ := List.head?_eq_some_iff.mp hhead
    rfl

theorem StandEntries.single (hname : WritesKey n key p name) (h : Follows n d written) :
    StandEntries n [(key, d)] (name ++ written) := by
  have hkey : ∀ rest, readKey n (name ++ written ++ rest) = some (key, written ++ rest) := by
    intro rest
    rw [List.append_assoc]
    exact hname.reads _ (h.beginsGap rest)
  obtain ⟨c, after, rfl, hbegins⟩ := hname.begins
  refine ⟨fun rest hrest => ?_, ⟨c, after ++ written, rfl, hbegins⟩, fun rest => ?_, fun rest => ?_⟩
  · have hvalue := h.reads rest (hrest.mono (Nat.le_succ n)) hrest.endsItems
    exact entries_last (hkey rest) hvalue (hrest.lines n (Nat.le_refl n))
  · rw [List.append_assoc]
    exact hname.noItem _
  · rw [hkey]
    rfl

theorem StandEntries.cons {entries : List (String × Document)} {others : List Char}
    (hname : WritesKey n key p name) (h : Follows n d written)
    (hentries : StandEntries n entries others) :
    StandEntries n ((key, d) :: entries) (name ++ (written ++ lineAt n others)) := by
  have hkey : ∀ rest, readKey n (name ++ (written ++ lineAt n others) ++ rest) =
      some (key, written ++ (lineAt n (others ++ rest))) := by
    intro rest
    rw [List.append_assoc, List.append_assoc, lineAt_append]
    exact hname.reads _ (h.beginsGap _)
  obtain ⟨c, after, rfl, hbegins⟩ := hname.begins
  refine ⟨fun rest hrest => ?_, ⟨c, _, rfl, hbegins⟩, fun rest => ?_, fun rest => ?_⟩
  · have hline := hentries.beginsLine.nextLine?_lineAt n rest
    have hends : EndsItems n (lineAt n (others ++ rest)) := by
      intro line hnext
      rw [hline] at hnext
      obtain rfl := Option.some.inj hnext
      exact hentries.noItem rest
    have hvalue := h.reads _ (hentries.beginsLine.below n rest) hends
    exact entries_cons (hkey rest) hvalue hline (hentries.reads rest hrest)
  · rw [List.append_assoc]
    exact hname.noItem _
  · rw [hkey]
    rfl

end

/-- The document reads back where it is written inside of a collection: behind a mark it begins on
the line of the mark, behind the colon of a key on the next line unless it is flat. -/
structure ReadsBack (n : Nat) (d : Document) : Prop where
  marked : ∀ inMapping p, Pen.AtMark n p → ∃ written, Stands n d written ∧
    (write (some n) inMapping p d).text = p.text ++ ' ' :: written ∧
    (write (some n) inMapping p d).Ended
  behind : ∀ p, Pen.Ended p → ∃ written, Follows n d written ∧
    (write (some n) true p d).text = p.text ++ written ∧ (write (some n) true p d).Ended

/-- The value of an entry, whichever way its key is written. -/
theorem ReadsBack.value {n : Nat} {d : Document} (h : ReadsBack n d) {p : Pen}
    (hp : p.Ended ∨ p.AtMark n) :
    ∃ written, Follows n d written ∧ (write (some n) true p d).text = p.text ++ written ∧
      (write (some n) true p d).Ended := by
  rcases hp with hp | hp
  · exact h.behind p hp
  · obtain ⟨written, hstands, hwritten⟩ := h.marked true p hp
    exact ⟨_, hstands.follows, hwritten⟩

theorem readsBack_of_isFlat {d : Document} (hflat : isFlat d = true) (hd : d.Spaceless) (n : Nat) :
    ReadsBack n d := by
  refine ⟨fun inMapping p hp => exists_write_flat n hflat hd inMapping hp.afterSpace, ?_⟩
  intro p hp
  obtain ⟨written, hstands, hwritten⟩ := exists_write_flat n hflat hd true hp.afterSpace
  exact ⟨_, hstands.follows, hwritten⟩

mutual

theorem readsBack (n : Nat) : ∀ d : Document, d.Spaceless → ReadsBack n d
  | .null, hd => readsBack_of_isFlat rfl hd n
  | .bool _, hd => readsBack_of_isFlat rfl hd n
  | .string _, hd => readsBack_of_isFlat rfl hd n
  | .list [], hd => readsBack_of_isFlat rfl hd n
  | .mapping [], hd => readsBack_of_isFlat rfl hd n
  | .list (item :: items), hd => by
    -- Behind a mark the items stand two columns further, behind a key at its own column.
    refine ⟨fun inMapping p hp => ?_, fun p hp => ?_⟩
    · obtain ⟨hspace, hcolumn⟩ := hp.toIndent
      obtain ⟨written, hstand, htext, hended⟩ :=
        exists_writeItems (n + 2) (item :: items) (List.cons_ne_nil _ _) hd _ hcolumn
      rw [write_list, hp.indenting, Bool.not_true, Bool.and_false, if_neg Bool.false_ne_true,
        writeItems_toIndent hcolumn, htext, hspace, List.append_assoc]
      exact ⟨written, hstand.stands, rfl, hended⟩
    · have hcolumn := Pen.atColumn_toIndent hp.indenting n
      obtain ⟨written, hstand, htext, hended⟩ :=
        exists_writeItems n (item :: items) (List.cons_ne_nil _ _) hd _ hcolumn
      rw [write_list, hp.indenting, Bool.not_false, Bool.and_self, if_pos rfl,
        writeItems_toIndent hcolumn, htext, Pen.text_toIndent (.inl hp.indenting),
        List.append_assoc]
      exact ⟨_, hstand.follows, rfl, hended⟩
  | .mapping (entry :: entries), hd => by
    have hfit := SpacelessEntries.fit hd (n + 2)
    refine ⟨fun inMapping p hp => ?_, fun p hp => ?_⟩
    · obtain ⟨hspace, hcolumn⟩ := hp.toIndent
      obtain ⟨written, hstand, htext, hended⟩ := exists_writeEntries (n + 2) (entry :: entries)
        (List.cons_ne_nil _ _) hfit _ hcolumn
      rw [write_mapping, writeEntries_toIndent hcolumn, htext, hspace, List.append_assoc]
      exact ⟨written, hstand.stands, rfl, hended⟩
    · have hcolumn := Pen.atColumn_toIndent hp.indenting (n + 2)
      obtain ⟨written, hstand, htext, hended⟩ := exists_writeEntries (n + 2) (entry :: entries)
        (List.cons_ne_nil _ _) hfit _ hcolumn
      rw [write_mapping, writeEntries_toIndent hcolumn, htext,
        Pen.text_toIndent (.inl hp.indenting), List.append_assoc]
      exact ⟨_, hstand.follows, rfl, hended⟩

theorem exists_writeItems (n : Nat) : ∀ (items : List Document), items ≠ [] →
    SpacelessItems items → ∀ p : Pen, p.AtColumn n →
    ∃ written, StandItems n items written ∧ (writeItems n p items).text = p.text ++ written ∧
      (writeItems n p items).Ended
  | [item], _, hitems, p, hp => by
    obtain ⟨hdash, hmark⟩ := hp.indentMark '-'
    obtain ⟨written, hstands, htext, hended⟩ := (readsBack n item hitems.1).marked false _ hmark
    rw [writeItems, writeItems, hp.toIndent, htext, hdash, List.append_assoc]
    exact ⟨_, .single hstands, rfl, hended⟩
  | item :: next :: items, _, hitems, p, hp => by
    obtain ⟨hdash, hmark⟩ := hp.indentMark '-'
    obtain ⟨written, hstands, htext, hended⟩ := (readsBack n item hitems.1).marked false _ hmark
    have hcolumn := Pen.atColumn_toIndent hended.indenting n
    obtain ⟨others, hothers, hrest, hafter⟩ := exists_writeItems n (next :: items)
      (List.cons_ne_nil _ _) hitems.2 _ hcolumn
    rw [writeItems, hp.toIndent, writeItems_toIndent hcolumn, hrest,
      Pen.text_toIndent (.inl hended.indenting), htext, hdash]
    refine ⟨_, .cons hstands hothers, ?_, hafter⟩
    simp [lineAt]

theorem exists_writeEntries (n : Nat) : ∀ (entries : List (String × Document)), entries ≠ [] →
    FitEntries n entries → ∀ p : Pen, p.AtColumn n →
    ∃ written, StandEntries n entries written ∧
      (writeEntries n p entries).text = p.text ++ written ∧ (writeEntries n p entries).Ended
  | [(key, d)], _, hentries, p, hp => by
    obtain ⟨hkey, hd⟩ := hentries (key, d) List.mem_cons_self
    obtain ⟨name, hname⟩ := exists_writesKey hkey hp
    obtain ⟨written, hfollows, htext, hended⟩ := (readsBack n d hd).value hname.pen
    rw [writeEntries, writeEntries, htext, hname.text, List.append_assoc]
    exact ⟨_, .single hname hfollows, rfl, hended⟩
  | (key, d) :: next :: entries, _, hentries, p, hp => by
    obtain ⟨⟨hkey, hd⟩, hentries⟩ := List.forall_mem_cons.mp hentries
    obtain ⟨name, hname⟩ := exists_writesKey hkey hp
    obtain ⟨written, hfollows, htext, hended⟩ := (readsBack n d hd).value hname.pen
    have hcolumn := Pen.atColumn_toIndent hended.indenting n
    obtain ⟨others, hothers, hrest, hafter⟩ := exists_writeEntries n (next :: entries)
      (List.cons_ne_nil _ _) hentries _ hcolumn
    rw [writeEntries, writeEntries_toIndent hcolumn, hrest,
      Pen.text_toIndent (.inl hended.indenting), htext, hname.text]
    refine ⟨_, .cons hname hfollows hothers, ?_, hafter⟩
    simp [lineAt]

end

/-- The pen with which a text begins. -/
theorem Pen.atColumn_start : Pen.AtColumn 0 {} := ⟨rfl, rfl, rfl⟩

theorem read_of_write {d : Document} {written : List Char}
    (htext : (write none false {} d).text = written) (hended : (write none false {} d).Ended)
    (hread : Block.node.read 0 (written ++ ['\n']) = some (d, ['\n'])) : read d.toYaml = some d := by
  have hline := Pen.text_toIndent (n := 0) (.inl hended.indenting)
  rw [htext, List.replicate_zero] at hline
  have htoList : d.toYaml.toList = written ++ ['\n'] := by
    rw [toYaml, String.toList_ofList]
    exact hline
  rw [read, htoList, hread]
  rfl

/-- The text of a mapping reads back as the mapping, whatever its keys are. -/
theorem read_toYaml_mapping {entries : List (String × Document)} (h : FitEntries 0 entries) :
    read (Document.mapping entries).toYaml = some (.mapping entries) := by
  cases entries with
  | nil =>
    have htext : (write none false {} (.mapping [])).text = ['\x7b', '\x7d'] := by rw [write]; rfl
    have hended : (write none false {} (.mapping [])).Ended := by rw [write]; exact ⟨rfl, rfl⟩
    refine read_of_write htext hended ?_
    rw [List.cons_append, List.singleton_append, Block.read]
  | cons entry entries =>
    have hwrite : write none false {} (.mapping (entry :: entries)) =
        writeEntries 0 {} (entry :: entries) := by
      rw [write]
      exact List.cons_ne_nil entry entries
    obtain ⟨written, hstand, htext, hended⟩ :=
      exists_writeEntries 0 (entry :: entries) (List.cons_ne_nil _ _) h _ Pen.atColumn_start
    rw [← hwrite] at htext hended
    exact read_of_write htext hended (hstand.node below_end)

theorem read_toYaml_list {items : List Document} (h : SpacelessItems items) :
    read (Document.list items).toYaml = some (.list items) := by
  cases items with
  | nil =>
    have htext : (write none false {} (.list [])).text = ['[', ']'] := by rw [write]; rfl
    have hended : (write none false {} (.list [])).Ended := by rw [write]; exact ⟨rfl, rfl⟩
    refine read_of_write htext hended ?_
    rw [List.cons_append, List.singleton_append, Block.read]
  | cons item items =>
    have hwrite : write none false {} (.list (item :: items)) = writeItems 0 {} (item :: items) := by
      rw [write]
      exact List.cons_ne_nil item items
    obtain ⟨written, hstand, htext, hended⟩ :=
      exists_writeItems 0 (item :: items) (List.cons_ne_nil _ _) h _ Pen.atColumn_start
    rw [← hwrite] at htext hended
    exact read_of_write htext hended (hstand.node below_end)

end Yaml

end TypeAnnotation.Document
