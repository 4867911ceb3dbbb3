import Mathlib.Data.List.TakeWhile
import TypeAnnotation.SyntaxError

/-! # How lexemes are spelled

A text spells a row of lexemes if it consists of their characters with white space between them,
where no name is followed by a character that would go on with it. Scanning a text finds the row
that it spells. Two texts spell their rows one after the other if no name runs on across the seam.
-/
namespace TypeAnnotation
open Lexeme Token

/-- The characters of a whole name. -/
def NameChars : List Char → Prop
  | [] => False
  | c :: cs =>
    startsName c = true ∧ Text.isBlank c = false ∧ ∀ d ∈ cs, continuesName d = true

instance : DecidablePred NameChars
  | [] => isFalse id
  | c :: cs => decidable_of_iff
      (startsName c = true ∧ Text.isBlank c = false ∧ cs.all continuesName = true)
      (by rw [NameChars, List.all_eq_true])

def EndsName (cs : List Char) : Prop := ∀ c ∈ cs.head?, continuesName c = false

/-- The lexemes that a text is written for. -/
inductive Spells : List Char → List Lexeme → Prop
  | nil : Spells [] []
  | blank {c : Char} {cs : List Char} {w : List Lexeme} (hc : Text.isBlank c = true)
    (h : Spells cs w) : Spells (c :: cs) w
  | brackets {cs : List Char} {w : List Lexeme} (h : Spells cs w) :
    Spells ('[' :: ']' :: cs) (brackets :: w)
  | mark {c : Char} {l : Lexeme} {cs : List Char} {w : List Lexeme} (hl : ofMark? c = some l)
    (h : Spells cs w) : Spells (c :: cs) (l :: w)
  | name {n cs : List Char} {w : List Lexeme} (hn : NameChars n) (he : EndsName cs)
    (h : Spells cs w) : Spells (n ++ cs) (name (String.ofList n) :: w)

namespace Token

/-! ## One step of the scanner -/

theorem scanFrom_nil (p : Nat) : scanFrom p [] = .ok [] := by
  rw [scanFrom.eq_def]

theorem scanFrom_brackets (p : Nat) (cs : List Char) :
    scanFrom p ('[' :: ']' :: cs) = (⟨brackets, p⟩ :: ·) <$> scanFrom (p + 2) cs := by
  rw [scanFrom.eq_def]
  rfl

theorem scanFrom_cons {c : Char} (hc : c ≠ '[') (p : Nat) (cs : List Char) :
    scanFrom p (c :: cs) =
      if Text.isBlank c then scanFrom (p + 1) cs
      else if startsName c then
        (⟨name (String.ofList (c :: cs.takeWhile continuesName)), p⟩ :: ·) <$>
          scanFrom (p + (c :: cs.takeWhile continuesName).length) (cs.dropWhile continuesName)
      else match ofMark? c with
        | some mark => (⟨mark, p⟩ :: ·) <$> scanFrom (p + 1) cs
        | none => .error (c, p) := by
  rw [scanFrom.eq_def]
  split
  · rename_i h
    cases h
  · rename_i h
    exact absurd (List.cons.inj h).1 hc
  · rename_i h
    obtain ⟨rfl, rfl⟩ := List.cons.inj h
    rfl

theorem scanFrom_blank {c : Char} (hc : Text.isBlank c = true) (p : Nat) (cs : List Char) :
    scanFrom p (c :: cs) = scanFrom (p + 1) cs := by
  have hb : c ≠ '[' := by
    rintro rfl
    exact absurd hc (by decide)
  rw [scanFrom_cons hb, if_pos hc]

/-- The marks of punctuation are neither white space nor part of a name. -/
theorem not_name_of_ofMark? {c : Char} {l : Lexeme} (h : ofMark? c = some l) :
    c ≠ '[' ∧ Text.isBlank c = false ∧ startsName c = false ∧ continuesName c = false := by
  unfold ofMark? at h
  split at h <;> first | decide | exact nomatch h

theorem ofMark?_ne_name (c : Char) (n : String) : ofMark? c ≠ some (name n) := by
  unfold ofMark?
  split <;> nofun

theorem scanFrom_mark {c : Char} {l : Lexeme} (hl : ofMark? c = some l) (p : Nat)
    (cs : List Char) :
    scanFrom p (c :: cs) = (⟨l, p⟩ :: ·) <$> scanFrom (p + 1) cs := by
  obtain ⟨hb, hblank, hname, -⟩ := not_name_of_ofMark? hl
  rw [scanFrom_cons hb, hblank, hname, hl]
  rfl

theorem takeWhile_append_of_endsName {n cs : List Char}
    (hn : ∀ d ∈ n, continuesName d = true) (he : EndsName cs) :
    (n ++ cs).takeWhile continuesName = n ∧ (n ++ cs).dropWhile continuesName = cs := by
  rw [List.takeWhile_append_of_pos hn, List.dropWhile_append_of_pos hn]
  cases cs with
  | nil => simp
  | cons c cs => simp [he c rfl]

theorem scanFrom_name {n cs : List Char} (hn : NameChars n) (he : EndsName cs) (p : Nat) :
    scanFrom p (n ++ cs) =
      (⟨name (String.ofList n), p⟩ :: ·) <$> scanFrom (p + n.length) cs := by
  cases n with
  | nil => exact hn.elim
  | cons c n =>
    obtain ⟨hstart, hblank, hcont⟩ := hn
    have hb : c ≠ '[' := by
      rintro rfl
      exact absurd hstart (by decide)
    obtain ⟨htake, hdrop⟩ := takeWhile_append_of_endsName hcont he
    rw [List.cons_append, scanFrom_cons hb, hblank, hstart, htake, hdrop]
    rfl

end Token

/-! ## Scanning finds what is spelled -/

theorem Spells.scanFrom {cs : List Char} {w : List Lexeme} (h : Spells cs w) (p : Nat) :
    ∃ tokens, scanFrom p cs = .ok tokens ∧ tokens.map lexeme = w := by
  induction h generalizing p with
  | nil => exact ⟨[], scanFrom_nil p, rfl⟩
  | blank hc _ ih =>
    obtain ⟨tokens, hs, rfl⟩ := ih (p + 1)
    exact ⟨tokens, by rw [scanFrom_blank hc, hs], rfl⟩
  | brackets _ ih =>
    obtain ⟨tokens, hs, rfl⟩ := ih (p + 2)
    exact ⟨_, by rw [scanFrom_brackets, hs]; rfl, rfl⟩
  | mark hl _ ih =>
    obtain ⟨tokens, hs, rfl⟩ := ih (p + 1)
    exact ⟨_, by rw [scanFrom_mark hl, hs]; rfl, rfl⟩
  | @name n cs w hn he _ ih =>
    obtain ⟨tokens, hs, rfl⟩ := ih (p + n.length)
    exact ⟨_, by rw [scanFrom_name hn he, hs]; rfl, rfl⟩

theorem endsName_dropWhile (cs : List Char) : EndsName (cs.dropWhile continuesName) := by
  intro c hc
  have hnot := List.head?_dropWhile_not continuesName cs
  rw [Option.mem_def.mp hc] at hnot
  exact hnot

/-- A token before the others in what scanning comes to. -/
theorem exists_of_map_cons_eq_ok {t : Token} {found : Except (Char × Nat) (List Token)}
    {tokens : List Token} (h : (t :: ·) <$> found = .ok tokens) :
    ∃ rest, found = .ok rest ∧ tokens = t :: rest := by
  cases found with
  | error => cases h
  | ok rest => exact ⟨rest, rfl, (Except.ok.inj h).symm⟩

theorem spells_of_scanFrom {p : Nat} {cs : List Char} {tokens : List Token}
    (h : scanFrom p cs = .ok tokens) : Spells cs (tokens.map lexeme) := by
  fun_induction scanFrom p cs generalizing tokens with
  | case1 =>
    obtain rfl := Except.ok.inj h
    exact .nil
  | case2 p rest ih =>
    obtain ⟨others, hs, rfl⟩ := exists_of_map_cons_eq_ok h
    exact .brackets (ih hs)
  | case3 p c rest hb hc ih => exact .blank hc (ih h)
  | case4 p c rest hb hc hs n =>
    rename_i ih
    obtain ⟨others, hothers, rfl⟩ := exists_of_map_cons_eq_ok h
    have hn : NameChars (c :: rest.takeWhile continuesName) :=
      ⟨hs, by simpa using hc, fun d hd => List.mem_takeWhile_imp hd⟩
    have hspells := Spells.name hn (endsName_dropWhile rest) (ih hothers)
    rwa [List.cons_append, List.takeWhile_append_dropWhile] at hspells
  | case5 p c rest hb hc hs l hl ih =>
    obtain ⟨others, hothers, rfl⟩ := exists_of_map_cons_eq_ok h
    exact .mark hl (ih hothers)
  | case6 => cases h

/-- A text is scanned as a row of lexemes exactly if it spells them. -/
theorem spells_iff (cs : List Char) (w : List Lexeme) :
    Spells cs w ↔ ∃ tokens, scanFrom 0 cs = .ok tokens ∧ tokens.map lexeme = w := by
  constructor
  · intro h
    exact h.scanFrom 0
  · rintro ⟨tokens, h, rfl⟩
    exact spells_of_scanFrom h

/-- A text spells one row of lexemes at most. -/
theorem Spells.unique {cs : List Char} {v w : List Lexeme} (hv : Spells cs v) (hw : Spells cs w) :
    v = w := by
  obtain ⟨tokens, hs, rfl⟩ := (spells_iff cs v).mp hv
  obtain ⟨tokens', hs', rfl⟩ := (spells_iff cs w).mp hw
  rw [Except.ok.inj (hs.symm.trans hs')]

/-! ## Names and seams -/

/-- The names that a text spells are whole names. -/
theorem Spells.nameChars {cs : List Char} {w : List Lexeme} (h : Spells cs w) {n : String}
    (hn : .name n ∈ w) : NameChars n.toList := by
  induction h with
  | nil => cases hn
  | blank _ _ ih => exact ih hn
  | brackets _ ih => exact ih (by simpa using hn)
  | mark hl _ ih =>
    rcases List.mem_cons.mp hn with rfl | hn
    · exact absurd hl (ofMark?_ne_name _ n)
    · exact ih hn
  | @name m cs w hm he _ ih =>
    rcases List.mem_cons.mp hn with hn | hn
    · rw [Lexeme.name.inj hn, String.toList_ofList]
      exact hm
    · exact ih hn

theorem Spells.eq_nil {w : List Lexeme} (h : Spells [] w) : w = [] := by
  generalize hcs : ([] : List Char) = cs at h
  cases h with
  | nil => rfl
  | blank | brackets | mark => cases hcs
  | name hn =>
    rw [(List.append_eq_nil_iff.mp hcs.symm).1] at hn
    exact hn.elim

theorem EndsName.append {cs ds : List Char} (hc : EndsName cs) (hd : cs = [] → EndsName ds) :
    EndsName (cs ++ ds) := by
  cases cs with
  | nil => exact hd rfl
  | cons c cs => exact hc

/-- Texts one after the other spell their lexemes one after the other, unless a name at the end of
the first would go on. -/
theorem Spells.append {cs ds : List Char} {v w : List Lexeme} (h : Spells cs v)
    (hseam : ∀ n, v.getLast? = some (.name n) → EndsName ds) (hd : Spells ds w) :
    Spells (cs ++ ds) (v ++ w) := by
  have hlast : ∀ {l : Lexeme} {u : List Lexeme},
      (∀ n, (l :: u).getLast? = some (.name n) → EndsName ds) →
      ∀ n, u.getLast? = some (.name n) → EndsName ds := by
    intro l u hseam n hn
    refine hseam n ?_
    rw [List.getLast?_cons, hn]
    rfl
  induction h with
  | nil => exact hd
  | blank hc _ ih => exact .blank hc (ih hseam)
  | brackets _ ih => exact .brackets (ih (hlast hseam))
  | mark hl _ ih => exact .mark hl (ih (hlast hseam))
  | @name n cs u hn he h ih =>
    rw [List.append_assoc]
    refine .name hn (he.append fun hcs => ?_) (ih (hlast hseam))
    subst hcs
    rw [h.eq_nil] at hseam
    exact hseam _ rfl

theorem endsName_cons {c : Char} (h : continuesName c = false) (cs : List Char) :
    EndsName (c :: cs) := by
  intro d hd
  obtain rfl := Option.some.inj hd
  exact h

/-- A mark between two texts keeps them apart. -/
theorem Spells.append_mark {cs ds : List Char} {c : Char} {l : Lexeme} {v w : List Lexeme}
    (h : Spells cs v) (hl : ofMark? c = some l) (hd : Spells ds w) :
    Spells (cs ++ c :: ds) (v ++ l :: w) :=
  h.append (fun _ _ => endsName_cons (not_name_of_ofMark? hl).2.2.2 ds) (.mark hl hd)

/-- A text that is one name and nothing else. -/
def Token.IsName (n : String) : Prop := scan n = .ok [⟨.name n, 0⟩]

theorem Token.scan_eq_ok_iff (text : String) (tokens : List Token) :
    scan text = .ok tokens ↔ Token.scanFrom 0 text.toList = .ok tokens := by
  rw [scan]
  cases Token.scanFrom 0 text.toList <;> simp [Except.mapError]

theorem Token.isName_iff (n : String) : IsName n ↔ NameChars n.toList := by
  rw [IsName, scan_eq_ok_iff]
  constructor
  · intro h
    exact (spells_of_scanFrom h).nameChars List.mem_cons_self
  · intro h
    have he : EndsName [] := nofun
    have hs := scanFrom_name h he 0
    rw [List.append_nil, scanFrom_nil, String.ofList_toList] at hs
    exact hs

theorem Token.IsName.ne_empty {n : String} (hn : IsName n) : n ≠ "" := by
  rintro rfl
  exact absurd ((isName_iff "").mp hn) (by decide)

/-- Every character of a name can go on with one. -/
theorem NameChars.continuesName {cs : List Char} (h : NameChars cs) {c : Char} (hc : c ∈ cs) :
    continuesName c = true := by
  cases cs with
  | nil => exact h.elim
  | cons d cs =>
    rcases List.mem_cons.mp hc with rfl | hc
    · simp [Token.continuesName, h.1]
    · exact h.2.2 c hc

/-- Brackets are no part of a name. -/
theorem not_mem_of_nameChars {cs : List Char} (h : NameChars cs) : ']' ∉ cs :=
  fun hmem => absurd (h.continuesName hmem) (by decide)

theorem EndsName.of_append {cs ds : List Char} (h : EndsName (cs ++ ds)) : EndsName cs := by
  cases cs with
  | nil => nofun
  | cons c cs => exact h

/-- A mark is a lexeme wherever it stands, so the texts on its two sides are spelled apart. -/
theorem Spells.of_append_mark {cs ds : List Char} {c : Char} {l : Lexeme} {w : List Lexeme}
    (hl : ofMark? c = some l) (h : Spells (cs ++ c :: ds) w) :
    ∃ u v, w = u ++ l :: v ∧ Spells cs u ∧ Spells ds v := by
  obtain ⟨hbracket, hblank, -, hcontinues⟩ := not_name_of_ofMark? hl
  generalize htext : cs ++ c :: ds = text at h
  induction h generalizing cs with
  | nil => simp at htext
  | @blank b text w hb h ih =>
    cases cs with
    | nil =>
      obtain ⟨rfl, rfl⟩ := List.cons.inj htext
      rw [hb] at hblank
      cases hblank
    | cons d cs =>
      obtain ⟨rfl, hrest⟩ := List.cons.inj htext
      obtain ⟨u, v, rfl, hu, hv⟩ := ih hrest
      exact ⟨u, v, rfl, .blank hb hu, hv⟩
  | @brackets text w h ih =>
    match cs with
    | [] => exact absurd (List.cons.inj htext).1 hbracket
    | [d] =>
      obtain rfl : c = ']' := (List.cons.inj (List.cons.inj htext).2).1
      cases hl
    | d :: d' :: cs =>
      obtain ⟨rfl, htail⟩ := List.cons.inj htext
      obtain ⟨rfl, hrest⟩ := List.cons.inj htail
      obtain ⟨u, v, rfl, hu, hv⟩ := ih hrest
      exact ⟨.brackets :: u, v, rfl, .brackets hu, hv⟩
  | @mark m l' text w hm h ih =>
    cases cs with
    | nil =>
      obtain ⟨rfl, rfl⟩ := List.cons.inj htext
      obtain rfl := Option.some.inj (hl.symm.trans hm)
      exact ⟨[], w, rfl, .nil, h⟩
    | cons d cs =>
      obtain ⟨rfl, hrest⟩ := List.cons.inj htext
      obtain ⟨u, v, rfl, hu, hv⟩ := ih hrest
      exact ⟨l' :: u, v, rfl, .mark hm hu, hv⟩
  | @name n text w hn he h ih =>
    -- The mark is no part of the name, so that the name ends before it.
    have hmem : c ∉ n := fun hc => by simp [hn.continuesName hc] at hcontinues
    obtain ⟨rest, rfl, hrest⟩ : ∃ rest, cs = n ++ rest ∧ rest ++ c :: ds = text := by
      rcases List.append_eq_append_iff.mp htext with ⟨rest, rfl, hrest⟩ | ⟨rest, rfl, hrest⟩
      · cases rest with
        | nil => exact ⟨[], by simp, hrest⟩
        | cons d rest =>
          obtain ⟨rfl, -⟩ := List.cons.inj hrest
          simp at hmem
      · exact ⟨rest, rfl, hrest.symm⟩
    obtain ⟨u, v, rfl, hu, hv⟩ := ih hrest
    exact ⟨_ :: u, v, rfl, .name hn (EndsName.of_append (hrest ▸ he)) hu, hv⟩

end TypeAnnotation
