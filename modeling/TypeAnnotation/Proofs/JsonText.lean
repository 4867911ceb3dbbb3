import Mathlib.Data.List.Basic
import TypeAnnotation.Document.Json
import TypeAnnotation.Proofs.HexDigits

/-! # Reading JSON

A document can be told from its text: reading the text gives the document back, whatever stands
behind it. Blanks are skipped wherever they may stand, and characters beyond the basic plane are put
together from their UTF-16 units.
-/
namespace TypeAnnotation.Document.Json

/-! ## The reader -/

def isBlank (c : Char) : Bool := c == ' ' || c == '\n' || c == '\t' || c == '\r'

def skipBlanks (text : List Char) : List Char := text.dropWhile isBlank

def unescape? : Char → Option Char
  | '"' => some '"'
  | '\\' => some '\\'
  | '/' => some '/'
  | 'b' => some '\x08'
  | 'f' => some '\x0c'
  | 'n' => some '\n'
  | 'r' => some '\r'
  | 't' => some '\t'
  | _ => none

/-- The units up to the closing quotation mark, and what stands behind it. A character that is not
escaped stands for itself, beyond the basic plane too. -/
def readUnits : List Char → Option (List Nat × List Char)
  | [] => none
  | '"' :: rest => some ([], rest)
  | '\\' :: 'u' :: a :: b :: c :: d :: rest => do
    let unit ← Text.hexNumber? [a, b, c, d]
    let (units, rest) ← readUnits rest
    return (unit :: units, rest)
  | '\\' :: letter :: rest => do
    let meant ← unescape? letter
    let (units, rest) ← readUnits rest
    return (meant.toNat :: units, rest)
  | c :: rest =>
    if c.toNat < 0x20 then none
    else do
      let (units, rest) ← readUnits rest
      return (c.toNat :: units, rest)

/-- The characters that units stand for. A high surrogate needs a low one behind it. -/
def joinUnits : List Nat → List Char
  | high :: low :: rest =>
    if 0xd800 ≤ high && high < 0xdc00 && 0xdc00 ≤ low && low < 0xe000 then
      Char.ofNat (0x10000 + 0x400 * (high - 0xd800) + (low - 0xdc00)) :: joinUnits rest
    else Char.ofNat high :: joinUnits (low :: rest)
  | [unit] => [Char.ofNat unit]
  | [] => []

def readString (text : List Char) : Option (String × List Char) :=
  (readUnits text).map fun (units, rest) => (String.ofList (joinUnits units), rest)

/-- What is read: a value, or the items of a list or the entries of a mapping, of which there is at
least one, up to the closing bracket. -/
inductive Part
  | value
  | items
  | entries

end TypeAnnotation.Document.Json

namespace TypeAnnotation.Document

def withItem (others item : Document) : Document :=
  match others with
  | .list items => .list (item :: items)
  | _ => others

def withEntry (others : Document) (key : String) (value : Document) : Document :=
  match others with
  | .mapping entries => .mapping ((key, value) :: entries)
  | _ => others

namespace Json

def Part.read (part : Part) (text : List Char) : Option (Document × List Char) :=
  match part with
  | value =>
    match skipBlanks text with
    | 'n' :: 'u' :: 'l' :: 'l' :: rest => some (.null, rest)
    | 't' :: 'r' :: 'u' :: 'e' :: rest => some (.bool true, rest)
    | 'f' :: 'a' :: 'l' :: 's' :: 'e' :: rest => some (.bool false, rest)
    | '"' :: rest => (readString rest).map fun (s, rest) => (.string s, rest)
    | '[' :: rest =>
      match skipBlanks rest with
      | ']' :: rest => some (.list [], rest)
      | _ => Part.items |>.read rest
    | '\x7b' :: rest =>
      match skipBlanks rest with
      | '\x7d' :: rest => some (.mapping [], rest)
      | _ => Part.entries |>.read rest
    | _ => none
  | items => do
    let (item, rest) ← Part.value |>.read text
    match skipBlanks rest with
    | ',' :: rest => do
      let (more, rest) ← Part.items |>.read rest
      return (more.withItem item, rest)
    | ']' :: rest => return (.list [item], rest)
    | _ => none
  | entries =>
    match skipBlanks text with
    | '"' :: rest => do
      let (key, rest) ← readString rest
      match skipBlanks rest with
      | ':' :: rest => do
        let (document, rest) ← Part.value |>.read rest
        match skipBlanks rest with
        | ',' :: rest => do
          let (more, rest) ← Part.entries |>.read rest
          return (more.withEntry key document, rest)
        | '\x7d' :: rest => return (.mapping [(key, document)], rest)
        | _ => none
      | _ => none
    | _ => none
partial_fixpoint

/-- The document that a whole text says. -/
def read (text : String) : Option Document :=
  match Part.value.read text.toList with
  | some (document, rest) => if (skipBlanks rest).isEmpty then some document else none
  | none => none

/-! ## Strings -/

def unitsOf (c : Char) : List Nat :=
  if c.toNat < 0x10000 then [c.toNat]
  else [0xd800 + (c.toNat - 0x10000) / 0x400, 0xdc00 + (c.toNat - 0x10000) % 0x400]

theorem joinUnits_append (c : Char) (units : List Nat) :
    joinUnits (unitsOf c ++ units) = c :: joinUnits units := by
  have hvalid : c.toNat < 0xd800 ∨ 0xdfff < c.toNat ∧ c.toNat < 0x110000 := c.valid
  unfold unitsOf
  split
  · rename_i hbasic
    -- A character of the basic plane is no surrogate.
    have hplain : ¬ (0xd800 ≤ c.toNat ∧ c.toNat < 0xdc00) := by omega
    cases units with
    | nil => simp [joinUnits]
    | cons unit units =>
      have hhigh : (decide (0xd800 ≤ c.toNat) && decide (c.toNat < 0xdc00)) = false := by
        simpa using hplain
      simp [joinUnits, hhigh]
  · rename_i hbeyond
    have hhigh : 0xd800 ≤ 0xd800 + (c.toNat - 0x10000) / 0x400 ∧
        0xd800 + (c.toNat - 0x10000) / 0x400 < 0xdc00 := by omega
    have hlow : 0xdc00 ≤ 0xdc00 + (c.toNat - 0x10000) % 0x400 ∧
        0xdc00 + (c.toNat - 0x10000) % 0x400 < 0xe000 := by omega
    have hcode : 0x10000 + 0x400 * (0xd800 + (c.toNat - 0x10000) / 0x400 - 0xd800) +
        (0xdc00 + (c.toNat - 0x10000) % 0x400 - 0xdc00) = c.toNat := by omega
    simp only [List.cons_append, List.nil_append, joinUnits, hhigh, hlow, decide_true,
      Bool.and_self, if_true, hcode, Char.ofNat_toNat]

theorem readUnits_unit {n : Nat} (h : n < 0x10000) (rest : List Char) :
    readUnits (unit n ++ rest) = (readUnits rest).map fun (units, rest) => (n :: units, rest) := by
  have hlength : (Text.hexDigits 4 n).length = 4 := Text.length_hexDigits (by decide) h
  have hnumber := Text.hexNumber?_lower 4 n
  obtain ⟨a, b, c, d, hdigits⟩ := List.length_eq_four.mp hlength
  rw [hdigits] at hnumber
  rw [unit, hdigits]
  simp only [List.cons_append, List.nil_append, readUnits, hnumber]
  cases readUnits rest <;> rfl

theorem readUnits_letter {letter meant : Char} (h : unescape? letter = some meant)
    (rest : List Char) :
    readUnits ('\\' :: letter :: rest) =
      (readUnits rest).map fun (units, rest) => (meant.toNat :: units, rest) := by
  have hletter : letter ≠ 'u' := by
    rintro rfl
    cases h
  rw [readUnits]
  · rw [h]
    cases readUnits rest <;> rfl
  · intro a b c d rest hu
    exact absurd hu hletter

theorem readUnits_plain {c : Char} (hquote : c ≠ '"') (hback : c ≠ '\\') (hc : 0x20 ≤ c.toNat)
    (rest : List Char) :
    readUnits (c :: rest) =
      (readUnits rest).map fun (units, rest) => (c.toNat :: units, rest) := by
  rw [readUnits]
  · rw [if_neg (Nat.not_lt.mpr hc)]
    cases readUnits rest <;> rfl
  · exact hquote
  · intro a b c d rest hu
    exact absurd hu hback
  · intro letter rest hu
    exact absurd hu hback

/-- An escaped character is read as its units. -/
theorem readUnits_escapeChar (c : Char) (rest : List Char) :
    readUnits (escapeChar c ++ rest) =
      (readUnits rest).map fun (units, rest) => (unitsOf c ++ units, rest) := by
  have hnamed : ∀ letter meant, unescape? letter = some meant → meant.toNat < 0x10000 → c = meant →
      readUnits ('\\' :: letter :: rest) =
        (readUnits rest).map fun (units, rest) => (unitsOf c ++ units, rest) := by
    rintro letter meant hletter hc rfl
    rw [readUnits_letter hletter, unitsOf, if_pos hc]
    rfl
  unfold escapeChar
  dsimp only
  split
  · rename_i hmark
    rw [Bool.or_eq_true, beq_iff_eq, beq_iff_eq] at hmark
    rcases hmark with rfl | rfl
    · exact hnamed '"' '"' rfl (by decide) rfl
    · exact hnamed '\\' '\\' rfl (by decide) rfl
  rename_i hmark
  rw [Bool.or_eq_true, beq_iff_eq, beq_iff_eq, not_or] at hmark
  split
  · rename_i h
    exact hnamed 'n' '\n' rfl (by decide) (beq_iff_eq.mp h)
  split
  · rename_i h
    exact hnamed 'r' '\r' rfl (by decide) (beq_iff_eq.mp h)
  split
  · rename_i h
    exact hnamed 't' '\t' rfl (by decide) (beq_iff_eq.mp h)
  split
  · rename_i h
    exact hnamed 'f' '\x0c' rfl (by decide) (Char.toNat_inj.mp (beq_iff_eq.mp h))
  split
  · rename_i h
    exact hnamed 'b' '\x08' rfl (by decide) (Char.toNat_inj.mp (beq_iff_eq.mp h))
  split
  · rename_i hprintable
    rw [Bool.and_eq_true, decide_eq_true_eq, decide_eq_true_eq] at hprintable
    have hbasic : c.toNat < 0x10000 := by omega
    rw [List.singleton_append, readUnits_plain hmark.1 hmark.2 hprintable.1, unitsOf, if_pos hbasic]
    rfl
  split
  · rename_i hbasic
    rw [readUnits_unit hbasic, unitsOf, if_pos hbasic]
    rfl
  · rename_i hbeyond
    have hvalid : c.toNat < 0xd800 ∨ 0xdfff < c.toNat ∧ c.toNat < 0x110000 := c.valid
    rw [List.append_assoc, readUnits_unit (by omega), readUnits_unit (by omega), unitsOf,
      if_neg hbeyond, Option.map_map]
    rfl

theorem readUnits_flatMap (cs rest : List Char) :
    readUnits (cs.flatMap escapeChar ++ '"' :: rest) = some (cs.flatMap unitsOf, rest) := by
  induction cs with
  | nil => rfl
  | cons c cs ih =>
    rw [List.flatMap_cons, List.append_assoc, readUnits_escapeChar, ih]
    rfl

theorem joinUnits_flatMap (cs : List Char) : joinUnits (cs.flatMap unitsOf) = cs := by
  induction cs with
  | nil => rfl
  | cons c cs ih => rw [List.flatMap_cons, joinUnits_append, ih]

theorem toList_quote (s : String) :
    (quote s).toList = '"' :: (s.toList.flatMap escapeChar ++ ['"']) := by
  simp [quote]

theorem readString_quote (s : String) (rest : List Char) :
    readString (s.toList.flatMap escapeChar ++ '"' :: rest) = some (s, rest) := by
  simp only [readString, readUnits_flatMap, Option.map_some, joinUnits_flatMap,
    String.ofList_toList]

/-! ## Lists and mappings -/

theorem skipBlanks_cons {c : Char} (h : isBlank c = false) (rest : List Char) :
    skipBlanks (c :: rest) = c :: rest := by
  rw [skipBlanks, List.dropWhile_cons, h]
  rfl

theorem skipBlanks_newline (level : Nat) (rest : List Char) :
    skipBlanks ((newline level).toList ++ rest) = skipBlanks rest := by
  have hblank : ∀ n, skipBlanks (List.replicate n ' ' ++ rest) = skipBlanks rest := by
    intro n
    induction n with
    | zero => rfl
    | succ n ih => exact ih
  simp only [newline, String.toList_append, String.toList_ofList, List.append_assoc]
  exact hblank (2 * level)

theorem read_newline (level : Nat) (rest : List Char) :
    Part.value.read ((newline level).toList ++ rest) = Part.value.read rest := by
  rw [Part.read, skipBlanks_newline, ← Part.read]

theorem read_quote (s : String) (rest : List Char) :
    Part.value.read ((quote s).toList ++ rest) = some (.string s, rest) := by
  rw [toList_quote, List.cons_append, List.append_assoc, Part.read, skipBlanks_cons (by decide)]
  simp [readString_quote]

def joined (level : Nat) (parts : List String) : List Char :=
  (("," ++ newline level).intercalate parts).toList

theorem joined_singleton (level : Nat) (part : String) : joined level [part] = part.toList := by
  simp [joined]

theorem joined_cons_cons (level : Nat) (part next : String) (parts : List String) :
    joined level (part :: next :: parts) =
      part.toList ++ ',' :: ((newline level).toList ++ joined level (next :: parts)) := by
  simp [joined, String.toList_intercalate]

/-- The parts begin as the first one does. -/
theorem exists_joined_eq_cons {part : String} {c : Char} {tail : List Char}
    (h : part.toList = c :: tail) (level : Nat) (parts : List String) :
    ∃ after, joined level (part :: parts) = c :: after := by
  cases parts with
  | nil => exact ⟨tail, by rw [joined_singleton, h]⟩
  | cons next parts => exact ⟨_, by rw [joined_cons_cons, h]; rfl⟩

theorem toList_block (opening closing : String) (level : Nat) (part : String)
    (parts : List String) :
    (block opening closing level (part :: parts)).toList = opening.toList ++
      ((newline (level + 1)).toList ++ (joined (level + 1) (part :: parts) ++
        ((newline level).toList ++ closing.toList))) := by
  simp [block, joined]

theorem toList_block_nil (opening closing : String) (level : Nat) :
    (block opening closing level []).toList = opening.toList ++ closing.toList := by
  rw [block, String.toList_append]

/-- A document begins with something that is neither a blank nor a closing bracket. -/
theorem exists_render_eq_cons (level : Nat) (d : Document) :
    ∃ c tail, (render level d).toList = c :: tail ∧ isBlank c = false ∧ c ≠ ']' := by
  cases d with
  | null => exact ⟨'n', _, by rw [render]; rfl, by decide, by decide⟩
  | bool b =>
    cases b with
    | false => exact ⟨'f', _, by rw [render]; rfl, by decide, by decide⟩
    | true => exact ⟨'t', _, by rw [render]; rfl, by decide, by decide⟩
  | string s => exact ⟨'"', _, by rw [render, toList_quote], by decide, by decide⟩
  | list items =>
    cases items with
    | nil =>
      exact ⟨'[', _, by rw [render, renderItems, toList_block_nil]; rfl, by decide, by decide⟩
    | cons item items =>
      exact ⟨'[', _, by rw [render, renderItems, toList_block]; rfl, by decide, by decide⟩
  | mapping entries =>
    cases entries with
    | nil =>
      exact ⟨'\x7b', _, by rw [render, renderEntries, toList_block_nil]; rfl, by decide, by decide⟩
    | cons entry entries =>
      exact ⟨'\x7b', _, by rw [render, renderEntries, toList_block]; rfl, by decide, by decide⟩

/-- The items of a list are read behind its bracket unless the list ends there. -/
theorem read_list {text rest : List Char} {c : Char} (h : skipBlanks text = c :: rest)
    (hc : c ≠ ']') : Part.value.read ('[' :: text) = Part.items.read text := by
  rw [Part.read, skipBlanks_cons (by decide)]
  simp only
  split
  · rename_i heq
    rw [h] at heq
    exact absurd (List.cons.inj heq).1 hc
  · rfl

theorem read_mapping {text rest : List Char} {c : Char} (h : skipBlanks text = c :: rest)
    (hc : c ≠ '\x7d') : Part.value.read ('\x7b' :: text) = Part.entries.read text := by
  rw [Part.read, skipBlanks_cons (by decide)]
  simp only
  split
  · rename_i heq
    rw [h] at heq
    exact absurd (List.cons.inj heq).1 hc
  · rfl

theorem read_item_comma {text after tail rest : List Char} {item : Document} {items : List Document}
    (hitem : Part.value.read text = some (item, after)) (hafter : skipBlanks after = ',' :: tail)
    (hitems : Part.items.read tail = some (.list items, rest)) :
    Part.items.read text = some (.list (item :: items), rest) := by
  rw [Part.read, hitem]
  simp only [bind, Option.bind, hafter, hitems, pure, withItem]

theorem read_item_last {text after rest : List Char} {item : Document}
    (hitem : Part.value.read text = some (item, after)) (hafter : skipBlanks after = ']' :: rest) :
    Part.items.read text = some (.list [item], rest) := by
  rw [Part.read, hitem]
  simp only [bind, Option.bind, hafter, pure]

theorem read_entry_comma {text after value tail final rest : List Char} {key : String}
    {d : Document} {entries : List (String × Document)} (hkey : skipBlanks text = '"' :: after)
    (hname : readString after = some (key, ':' :: value))
    (hvalue : Part.value.read value = some (d, tail)) (htail : skipBlanks tail = ',' :: final)
    (hentries : Part.entries.read final = some (.mapping entries, rest)) :
    Part.entries.read text = some (.mapping ((key, d) :: entries), rest) := by
  rw [Part.read, hkey]
  simp only [bind, Option.bind, hname, skipBlanks_cons (c := ':') (by decide), hvalue, htail,
    hentries, pure, withEntry]

theorem read_entry_last {text after value tail rest : List Char} {key : String} {d : Document}
    (hkey : skipBlanks text = '"' :: after) (hname : readString after = some (key, ':' :: value))
    (hvalue : Part.value.read value = some (d, tail)) (htail : skipBlanks tail = '\x7d' :: rest) :
    Part.entries.read text = some (.mapping [(key, d)], rest) := by
  rw [Part.read, hkey]
  simp only [bind, Option.bind, hname, skipBlanks_cons (c := ':') (by decide), hvalue, htail, pure]

/-- So do the parts on lines of their own, once the blanks before them are skipped. -/
theorem exists_skipBlanks_joined {part : String} {c : Char} {tail : List Char}
    (h : part.toList = c :: tail) (hblank : isBlank c = false) (level : Nat) (parts : List String)
    (rest : List Char) :
    ∃ after, skipBlanks ((newline level).toList ++ (joined level (part :: parts) ++ rest)) =
      c :: after := by
  obtain ⟨after, hafter⟩ := exists_joined_eq_cons h level parts
  exact ⟨_, by rw [skipBlanks_newline, hafter, List.cons_append, skipBlanks_cons hblank]⟩

theorem read_space (rest : List Char) : Part.value.read (' ' :: rest) = Part.value.read rest := by
  have hskip : skipBlanks (' ' :: rest) = skipBlanks rest := rfl
  rw [Part.read, hskip, ← Part.read]

/-! ## The whole document -/

mutual

theorem read_render : ∀ (d : Document) (level : Nat) (rest : List Char),
    Part.value.read ((render level d).toList ++ rest) = some (d, rest)
  | .null, level, rest => by
    rw [render, Part.read]
    rfl
  | .bool false, level, rest => by
    rw [render, Part.read]
    rfl
  | .bool true, level, rest => by
    rw [render, Part.read]
    rfl
  | .string s, level, rest => by
    rw [render]
    exact read_quote s rest
  | .list [], level, rest => by
    rw [render, renderItems, toList_block_nil, Part.read]
    rfl
  | .list (item :: items), level, rest => by
    have hitems := read_items (item :: items) (List.cons_ne_nil _ _) (level + 1) level rest
    obtain ⟨c, tail, hhead, hblank, hc⟩ := exists_render_eq_cons (level + 1) item
    obtain ⟨after, hskip⟩ := exists_skipBlanks_joined hhead hblank (level + 1)
      (renderItems (level + 1) items) ((newline level).toList ++ ']' :: rest)
    rw [← renderItems] at hskip
    rw [render, renderItems, toList_block, ← renderItems]
    simp only [List.append_assoc]
    exact (read_list hskip hc).trans hitems
  | .mapping [], level, rest => by
    rw [render, renderEntries, toList_block_nil, Part.read]
    rfl
  | .mapping ((key, d) :: entries), level, rest => by
    have hentries :=
      read_entries ((key, d) :: entries) (List.cons_ne_nil _ _) (level + 1) level rest
    have hhead : ∃ tail, (quote key ++ ": " ++ render (level + 1) d).toList = '"' :: tail := by
      rw [String.toList_append, String.toList_append, toList_quote]
      exact ⟨_, rfl⟩
    obtain ⟨tail, hhead⟩ := hhead
    obtain ⟨after, hskip⟩ := exists_skipBlanks_joined hhead (by decide) (level + 1)
      (renderEntries (level + 1) entries) ((newline level).toList ++ '\x7d' :: rest)
    rw [← renderEntries] at hskip
    rw [render, renderEntries, toList_block, ← renderEntries]
    simp only [List.append_assoc]
    exact (read_mapping hskip (by decide)).trans hentries

theorem read_items : ∀ (items : List Document), items ≠ [] → ∀ (level outer : Nat)
    (rest : List Char),
    Part.items.read ((newline level).toList ++ (joined level (renderItems level items) ++
      ((newline outer).toList ++ ']' :: rest))) = some (.list items, rest)
  | [item], _, level, outer, rest => by
    have hitem := read_render item level ((newline outer).toList ++ ']' :: rest)
    rw [renderItems, renderItems, joined_singleton]
    rw [← read_newline level] at hitem
    exact read_item_last hitem (by rw [skipBlanks_newline]; rfl)
  | item :: next :: items, _, level, outer, rest => by
    have hitems := read_items (next :: items) (List.cons_ne_nil _ _) level outer rest
    have hitem := read_render item level (',' :: ((newline level).toList ++
      (joined level (renderItems level (next :: items)) ++ ((newline outer).toList ++ ']' :: rest))))
    rw [← read_newline level] at hitem
    rw [renderItems, renderItems, joined_cons_cons, ← renderItems]
    simp only [List.append_assoc, List.cons_append]
    exact read_item_comma hitem (skipBlanks_cons (by decide) _) hitems

theorem read_entries : ∀ (entries : List (String × Document)), entries ≠ [] →
    ∀ (level outer : Nat) (rest : List Char),
    Part.entries.read ((newline level).toList ++ (joined level (renderEntries level entries) ++
      ((newline outer).toList ++ '\x7d' :: rest))) = some (.mapping entries, rest)
  | [(key, d)], _, level, outer, rest => by
    have hvalue := read_render d level ((newline outer).toList ++ '\x7d' :: rest)
    rw [← read_space] at hvalue
    rw [renderEntries, renderEntries, joined_singleton]
    simp only [String.toList_append, toList_quote, List.cons_append, List.append_assoc,
      List.nil_append]
    refine read_entry_last (by rw [skipBlanks_newline]; exact skipBlanks_cons (by decide) _)
      (readString_quote key _) hvalue (by rw [skipBlanks_newline]; rfl)
  | (key, d) :: (next, value) :: entries, _, level, outer, rest => by
    have hentries := read_entries ((next, value) :: entries) (List.cons_ne_nil _ _) level outer rest
    have hvalue := read_render d level (',' :: ((newline level).toList ++
      (joined level (renderEntries level ((next, value) :: entries)) ++
        ((newline outer).toList ++ '\x7d' :: rest))))
    rw [← read_space] at hvalue
    rw [renderEntries, renderEntries, joined_cons_cons, ← renderEntries]
    simp only [String.toList_append, toList_quote, List.cons_append, List.append_assoc,
      List.nil_append]
    exact read_entry_comma (by rw [skipBlanks_newline]; exact skipBlanks_cons (by decide) _)
      (readString_quote key _) hvalue (skipBlanks_cons (by decide) _) hentries

end

/-- The text of a document, with a line feed behind it, reads back as the document. -/
theorem read_toJson (d : Document) : read (d.toJson ++ "\n") = some d := by
  rw [read, toJson, String.toList_append, read_render]
  rfl

end Json

end TypeAnnotation.Document
