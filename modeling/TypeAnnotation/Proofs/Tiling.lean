import TypeAnnotation.Proofs.Spelling

/-! # How tokens lie in a text

The tokens of a text lie in it one after the other, each as a slice of the text at its place, and
all that is between them is white space. Names are whole: none is followed by a character that
would go on with it. There is one such row of tokens at most, and scanning finds it. A text without
one has a first character that begins nothing, and scanning stops there.
-/
namespace TypeAnnotation
open Lexeme

/-! ## The characters of one token -/

namespace Lexeme

theorem eq_name_of_kind_eq {l : Lexeme} (h : l.kind = "name") : ∃ n, l = name n := by
  cases l with
  | name n => exact ⟨n, rfl⟩
  | _ => exact absurd h (by decide)

/-- What can be a token: a bracket pair, a mark of punctuation or a whole name. -/
def WellSpelled (l : Lexeme) : Prop :=
  l.kind = "array" ∧ l.value = "[]" ∨
    l.kind = l.value ∧ l.value ∈ ["|", "?", "(", ")", "<", ">", ","] ∨
    l.kind = "name" ∧ NameChars l.value.toList

inductive SpelledBy : Lexeme → List Char → Prop
  | brackets : SpelledBy brackets ['[', ']']
  | mark {c : Char} {l : Lexeme} (hl : ofMark? c = some l) : SpelledBy l [c]
  | name {c : Char} {n : List Char} (hn : NameChars (c :: n)) :
    SpelledBy (name (String.ofList (c :: n))) (c :: n)

theorem WellSpelled.spelledBy {l : Lexeme} (h : l.WellSpelled) : SpelledBy l l.value.toList := by
  cases l with
  | brackets => exact .brackets
  | name n =>
    rcases h with ⟨hk, -⟩ | ⟨hk, hv⟩ | ⟨-, hn⟩
    · simp [kind] at hk
    · obtain rfl : "name" = n := hk
      simp [value] at hv
    · rw [value] at hn ⊢
      cases hc : n.toList with
      | nil =>
        rw [hc] at hn
        exact hn.elim
      | cons c cs =>
        rw [hc] at hn
        have hspelled := SpelledBy.name hn
        rwa [← hc, String.ofList_toList, hc] at hspelled
  | bar | question | openGroup | closeGroup | openGeneric | closeGeneric | comma => exact .mark rfl

namespace SpelledBy
variable {l l' : Lexeme} {u v : List Char}

theorem eq_value (h : SpelledBy l u) : u = l.value.toList := by
  cases h with
  | brackets => rfl
  | @mark c l hl =>
    unfold ofMark? at hl
    split at hl <;> cases hl <;> rfl
  | name => rw [value, String.toList_ofList]

theorem wellSpelled (h : SpelledBy l u) : l.WellSpelled := by
  cases h with
  | brackets => exact .inl ⟨rfl, rfl⟩
  | @mark c l hl =>
    unfold ofMark? at hl
    split at hl <;> cases hl <;> exact .inr (.inl (by decide))
  | name hn => exact .inr (.inr ⟨rfl, by rwa [value, String.toList_ofList]⟩)

theorem length_pos (h : SpelledBy l u) : 0 < u.length := by
  cases h <;> simp

end SpelledBy

end Lexeme

structure BeginsNothing (c : Char) (after : List Char) : Prop where
  isBlank_eq : Text.isBlank c = false
  startsName_eq : Token.startsName c = false
  not_mark : c ∉ ['|', '?', '(', ')', '<', '>', ',']
  not_pair : ¬ (c = '[' ∧ after.head? = some ']')

theorem ofMark?_eq_none_iff {c : Char} :
    ofMark? c = none ↔ c ∉ ['|', '?', '(', ')', '<', '>', ','] := by
  unfold ofMark?
  split <;> simp_all

namespace Lexeme.SpelledBy
variable {l l' : Lexeme} {u v rest rest' cs : List Char} {c : Char}

/-- A token begins with a character that begins something and is no white space. -/
theorem begins (h : SpelledBy l u) (hu : u ++ rest = c :: cs) :
    Text.isBlank c = false ∧ ¬ BeginsNothing c cs := by
  cases h with
  | brackets =>
    obtain ⟨rfl, rfl⟩ := List.cons.inj hu
    exact ⟨by decide, fun hc => hc.not_pair ⟨rfl, rfl⟩⟩
  | mark hl =>
    obtain ⟨rfl, rfl⟩ := List.cons.inj hu
    refine ⟨(Token.not_name_of_ofMark? hl).2.1, fun hc => ?_⟩
    rw [ofMark?_eq_none_iff.mpr hc.not_mark] at hl
    cases hl
  | name hn =>
    obtain ⟨rfl, rfl⟩ := List.cons.inj hu
    exact ⟨hn.2.1, fun hc => absurd hn.1 (by simp [hc.startsName_eq])⟩

/-- The tokens that two texts begin with are the same if the texts are, and if names are whole. -/
theorem eq_of_append_eq (h : SpelledBy l u) (h' : SpelledBy l' v)
    (hr : l.kind = "name" → EndsName rest) (hr' : l'.kind = "name" → EndsName rest')
    (huv : u ++ rest = v ++ rest') : l = l' := by
  cases h with
  | brackets =>
    cases h' with
    | brackets => rfl
    | mark hl =>
      obtain ⟨rfl, -⟩ := List.cons.inj huv
      cases hl
    | name hn =>
      obtain ⟨rfl, -⟩ := List.cons.inj huv
      exact absurd hn.1 (by decide)
  | mark hl =>
    cases h' with
    | brackets =>
      obtain ⟨rfl, -⟩ := List.cons.inj huv
      cases hl
    | mark hl' =>
      obtain ⟨rfl, -⟩ := List.cons.inj huv
      exact Option.some.inj (hl.symm.trans hl')
    | name hn =>
      obtain ⟨rfl, -⟩ := List.cons.inj huv
      exact absurd hn.1 (by simp [(Token.not_name_of_ofMark? hl).2.2.1])
  | name hn =>
    cases h' with
    | brackets =>
      obtain ⟨rfl, -⟩ := List.cons.inj huv
      exact absurd hn.1 (by decide)
    | mark hl =>
      obtain ⟨rfl, -⟩ := List.cons.inj huv
      exact absurd hn.1 (by simp [(Token.not_name_of_ofMark? hl).2.2.1])
    | name hn' =>
      have htake := (Token.takeWhile_append_of_endsName (fun _ => hn.continuesName) (hr rfl)).1
      have htake' := (Token.takeWhile_append_of_endsName (fun _ => hn'.continuesName) (hr' rfl)).1
      rw [← htake, ← htake', huv]

end Lexeme.SpelledBy

/-- Every text begins with white space, with a token, or with a character that begins nothing, if
it has any. Induction on what comes after. -/
@[elab_as_elim]
theorem text_induction {P : List Char → Prop} (nil : P [])
    (blank : ∀ c rest, Text.isBlank c = true → P rest → P (c :: rest))
    (token : ∀ l u rest, SpelledBy l u → (l.kind = "name" → EndsName rest) → P rest → P (u ++ rest))
    (nothing : ∀ c rest, BeginsNothing c rest → P (c :: rest)) (text : List Char) : P text := by
  fun_induction Token.scanFrom 0 text with
  | case1 => exact nil
  | case2 p rest ih =>
    have hkind : Lexeme.brackets.kind ≠ "name" := by decide
    exact token _ ['[', ']'] rest .brackets (fun hk => absurd hk hkind) ih
  | case3 p c rest hb hc ih => exact blank c rest hc ih
  | case4 p c rest hb hc hs n ih =>
    have hn : NameChars (c :: rest.takeWhile Token.continuesName) :=
      ⟨hs, by simpa using hc, fun d hd => List.mem_takeWhile_imp hd⟩
    have hnamed := token _ _ _ (.name hn) (fun _ => endsName_dropWhile rest) ih
    rwa [List.cons_append, List.takeWhile_append_dropWhile] at hnamed
  | case5 p c rest hb hc hs l hl ih =>
    refine token l [c] rest (.mark hl) (fun hk => ?_) ih
    obtain ⟨n, rfl⟩ := eq_name_of_kind_eq hk
    exact absurd hl (Token.ofMark?_ne_name c n)
  | case6 p c rest hb hc hs hl =>
    refine nothing c rest ⟨by simpa using hc, by simpa using hs, ofMark?_eq_none_iff.mp hl, ?_⟩
    rintro ⟨rfl, hpair⟩
    obtain ⟨after, rfl⟩ := List.head?_eq_some_iff.mp hpair
    exact hb after rfl rfl

/-! ## The tokens of a text -/

namespace Token

def stop (t : Token) : Nat := t.position + t.lexeme.value.length

structure Tiles (text : List Char) (start : Nat) (tokens : List Token) : Prop where
  start_le : ∀ t ∈ tokens, start ≤ t.position
  ordered : tokens.Pairwise fun s t => s.stop ≤ t.position
  slice : ∀ t ∈ tokens,
    (text.drop t.position).take t.lexeme.value.length = t.lexeme.value.toList
  wellSpelled : ∀ t ∈ tokens, t.lexeme.WellSpelled
  whole : ∀ t ∈ tokens, t.lexeme.kind = "name" → ∀ c ∈ text[t.stop]?, continuesName c = false
  blank : ∀ i, start ≤ i → (∀ t ∈ tokens, i < t.position ∨ t.stop ≤ i) →
    ∀ c ∈ text[i]?, Text.isBlank c = true

section Tiles
variable {text u rest : List Char} {p : Nat} {tokens : List Token} {t : Token} {l : Lexeme}
  {c : Char}

theorem stop_eq (hl : SpelledBy l u) (p : Nat) : (⟨l, p⟩ : Token).stop = p + u.length := by
  rw [stop, hl.eq_value, String.length_toList]

theorem position_lt_stop (h : t.lexeme.WellSpelled) : t.position < t.stop := by
  have hpos := h.spelledBy.length_pos
  rw [String.length_toList] at hpos
  rw [stop]
  omega

theorem Tiles.value_append (h : Tiles text p tokens) (ht : t ∈ tokens) :
    t.lexeme.value.toList ++ text.drop t.stop = text.drop t.position := by
  rw [← h.slice t ht, stop, ← List.drop_drop, List.take_append_drop]

theorem Tiles.endsName (h : Tiles text p tokens) (ht : t ∈ tokens)
    (hk : t.lexeme.kind = "name") : EndsName (text.drop t.stop) := by
  intro c hc
  rw [List.head?_drop] at hc
  exact h.whole t ht hk c hc

theorem Tiles.stop_le (h : Tiles text p tokens) (ht : t ∈ tokens) : t.stop ≤ text.length := by
  have hpos := position_lt_stop (h.wellSpelled t ht)
  have hlen := congrArg List.length (h.value_append ht)
  rw [List.length_append, List.length_drop, List.length_drop, String.length_toList] at hlen
  rw [stop] at hpos ⊢
  omega

theorem Tiles.apart {s : Token} (h : Tiles text p tokens) (hs : s ∈ tokens) (ht : t ∈ tokens) :
    s = t ∨ s.stop ≤ t.position ∨ t.stop ≤ s.position := by
  obtain ⟨u, v, rfl⟩ := List.append_of_mem hs
  obtain ⟨-, hv, huv⟩ := List.pairwise_append.mp h.ordered
  rcases List.mem_append.mp ht with ht | ht
  · exact .inr (.inr (huv t ht s List.mem_cons_self))
  · rcases List.mem_cons.mp ht with rfl | ht
    · exact .inl rfl
    · exact .inr (.inl (List.rel_of_pairwise_cons hv ht))

/-- What is no white space is part of a token, so that the first token begins there. -/
theorem Tiles.exists_first (h : Tiles text p tokens) (hd : text.drop p = c :: rest)
    (hc : Text.isBlank c = false) :
    ∃ l others, tokens = ⟨l, p⟩ :: others ∧ Tiles text (⟨l, p⟩ : Token).stop others := by
  have hcovered : ∃ t ∈ tokens, t.position ≤ p ∧ p < t.stop := by
    by_contra hnone
    have hblank : Text.isBlank c = true := by
      refine h.blank p le_rfl (fun t ht => ?_) c ?_
      · by_contra hin
        exact hnone ⟨t, ht, by omega⟩
      · rw [← List.head?_drop, hd]
        rfl
    rw [hc] at hblank
    cases hblank
  obtain ⟨⟨l, q⟩, ht, hle, hlt⟩ := hcovered
  obtain rfl : q = p := le_antisymm hle (h.start_le _ ht)
  obtain ⟨before, others, rfl⟩ := List.append_of_mem ht
  obtain rfl : before = [] := by
    cases before with
    | nil => rfl
    | cons s before =>
      have hs : s ∈ s :: before ++ ⟨l, q⟩ :: others := List.mem_cons_self
      have hstop : s.stop ≤ q := (List.pairwise_append.mp h.ordered).2.2 s (by simp) ⟨l, q⟩ (by simp)
      have := h.start_le s hs
      have := position_lt_stop (h.wellSpelled s hs)
      omega
  have hmem : ∀ t ∈ others, t ∈ ⟨l, q⟩ :: others := fun t ht => List.mem_cons_of_mem _ ht
  rw [List.nil_append] at h
  obtain ⟨hfirst, hordered⟩ := List.pairwise_cons.mp h.ordered
  refine ⟨l, others, rfl, hfirst, hordered, fun t ht => h.slice t (hmem t ht),
    fun t ht => h.wellSpelled t (hmem t ht), fun t ht => h.whole t (hmem t ht), ?_⟩
  intro i hi hout
  refine h.blank i (by omega) fun t ht => ?_
  rcases List.mem_cons.mp ht with rfl | ht
  · exact .inr hi
  · exact hout t ht

theorem tiles_nil (hd : text.drop p = []) : Tiles text p tokens ↔ tokens = [] := by
  constructor
  · intro h
    refine List.eq_nil_iff_forall_not_mem.mpr fun t ht => ?_
    have hslice := h.slice t ht
    have hpos := (h.wellSpelled t ht).spelledBy.length_pos
    have hlen : text.length ≤ t.position :=
      (List.drop_eq_nil_iff.mp hd).trans (h.start_le t ht)
    rw [← hslice, List.drop_eq_nil_of_le hlen, List.take_nil] at hpos
    exact absurd hpos (by simp)
  · rintro rfl
    refine ⟨nofun, .nil, nofun, nofun, nofun, fun i hi _ c hc => ?_⟩
    have hlen : text.length ≤ i := (List.drop_eq_nil_iff.mp hd).trans hi
    rw [List.getElem?_eq_none hlen] at hc
    cases hc

theorem tiles_blank (hd : text.drop p = c :: rest) (hc : Text.isBlank c = true) :
    Tiles text p tokens ↔ Tiles text (p + 1) tokens := by
  constructor
  · intro h
    refine ⟨fun t ht => ?_, h.ordered, h.slice, h.wellSpelled, h.whole,
      fun i hi => h.blank i (by omega)⟩
    refine Nat.lt_of_le_of_ne (h.start_le t ht) fun hp => ?_
    have hvalue := h.value_append ht
    rw [← hp, hd] at hvalue
    have hbegins := ((h.wellSpelled t ht).spelledBy.begins hvalue).1
    rw [hc] at hbegins
    cases hbegins
  · intro h
    refine ⟨fun t ht => Nat.le_of_succ_le (h.start_le t ht), h.ordered, h.slice, h.wellSpelled,
      h.whole, fun i hi hout d hi' => ?_⟩
    rcases hi.eq_or_lt with rfl | hlt
    · rw [← List.head?_drop, hd] at hi'
      exact Option.some.inj hi' ▸ hc
    · exact h.blank i hlt hout d hi'

theorem tiles_token (hl : SpelledBy l u) (hd : text.drop p = u ++ rest)
    (he : l.kind = "name" → EndsName rest) :
    Tiles text p tokens ↔ ∃ others, tokens = ⟨l, p⟩ :: others ∧ Tiles text (p + u.length) others := by
  have hstop := stop_eq hl p
  have hrest : text.drop (p + u.length) = rest := by rw [← List.drop_drop, hd, List.drop_left]
  constructor
  · intro h
    obtain ⟨c, cs, hc⟩ := List.exists_cons_of_length_pos hl.length_pos
    have hfirst : text.drop p = c :: (cs ++ rest) := by rw [hd, hc, List.cons_append]
    obtain ⟨l', others, rfl, hothers⟩ := h.exists_first hfirst (hl.begins (hd.symm.trans hfirst)).1
    have hmem : (⟨l', p⟩ : Token) ∈ ⟨l', p⟩ :: others := List.mem_cons_self
    have hspelled := (h.wellSpelled _ hmem).spelledBy
    obtain rfl : l' = l := hspelled.eq_of_append_eq hl (h.endsName hmem) he
      ((h.value_append hmem).trans hd)
    exact ⟨others, rfl, hstop ▸ hothers⟩
  · rintro ⟨others, rfl, h⟩
    refine ⟨?_, List.pairwise_cons.mpr ⟨fun t ht => hstop ▸ h.start_le t ht, h.ordered⟩, ?_, ?_, ?_,
      fun i hi hout => ?_⟩
    · intro t ht
      rcases List.mem_cons.mp ht with rfl | ht
      · exact le_rfl
      · exact (Nat.le_add_right p _).trans (h.start_le t ht)
    · intro t ht
      rcases List.mem_cons.mp ht with rfl | ht
      · rw [← String.length_toList, ← hl.eq_value, hd, List.take_left]
      · exact h.slice t ht
    · intro t ht
      rcases List.mem_cons.mp ht with rfl | ht
      · exact hl.wellSpelled
      · exact h.wellSpelled t ht
    · intro t ht hk
      rcases List.mem_cons.mp ht with rfl | ht
      · intro c hc
        rw [hstop, ← List.head?_drop, hrest] at hc
        exact he hk c hc
      · exact h.whole t ht hk
    · obtain ⟨hfirst, hothers⟩ := List.forall_mem_cons.mp hout
      rcases hfirst with hlt | hle
      · exact absurd hi (by simpa using hlt)
      · exact h.blank i (hstop ▸ hle) hothers

theorem not_tiles (hd : text.drop p = c :: rest) (hc : BeginsNothing c rest) :
    ¬ Tiles text p tokens := by
  intro h
  obtain ⟨l, others, rfl, -⟩ := h.exists_first hd hc.isBlank_eq
  have hmem : (⟨l, p⟩ : Token) ∈ ⟨l, p⟩ :: others := List.mem_cons_self
  exact ((h.wellSpelled _ hmem).spelledBy.begins ((h.value_append hmem).trans hd)).2 hc

end Tiles

/-! ## Scanning finds the tokens -/

section Scan
variable {text u rest : List Char} {p q : Nat} {tokens : List Token} {l : Lexeme} {c : Char}

theorem scanFrom_token (hl : SpelledBy l u) (he : l.kind = "name" → EndsName rest) (p : Nat) :
    scanFrom p (u ++ rest) = (⟨l, p⟩ :: ·) <$> scanFrom (p + u.length) rest := by
  cases hl with
  | brackets => exact scanFrom_brackets p rest
  | mark hl => exact scanFrom_mark hl p rest
  | name hn => exact scanFrom_name hn (he rfl) p

theorem scanFrom_nothing (hc : BeginsNothing c rest) (p : Nat) :
    scanFrom p (c :: rest) = .error (c, p) := by
  rw [scanFrom.eq_def]
  split
  · rename_i h
    cases h
  · rename_i h
    obtain ⟨rfl, rfl⟩ := List.cons.inj h
    exact absurd ⟨rfl, rfl⟩ hc.not_pair
  · rename_i h
    obtain ⟨rfl, rfl⟩ := List.cons.inj h
    rw [hc.isBlank_eq, hc.startsName_eq, ofMark?_eq_none_iff.mpr hc.not_mark]
    rfl

theorem map_cons_eq_ok_iff {t : Token} {found : Except (Char × Nat) (List Token)} :
    (t :: ·) <$> found = .ok tokens ↔ ∃ others, tokens = t :: others ∧ found = .ok others := by
  constructor
  · intro h
    obtain ⟨others, hfound, rfl⟩ := exists_of_map_cons_eq_ok h
    exact ⟨others, rfl, hfound⟩
  · rintro ⟨others, rfl, rfl⟩
    rfl

theorem map_cons_eq_error_iff {t : Token} {found : Except (Char × Nat) (List Token)}
    {stop : Char × Nat} : (t :: ·) <$> found = .error stop ↔ found = .error stop := by
  cases found <;> simp [Functor.map, Except.map]

/-- Scanning a text from some place on finds the one row of tokens that the rest of it is. -/
theorem scanFrom_eq_ok_iff_tiles (hd : text.drop p = rest) :
    scanFrom p rest = .ok tokens ↔ Tiles text p tokens := by
  induction rest using text_induction generalizing p tokens with
  | nil =>
    rw [scanFrom_nil, tiles_nil hd]
    exact ⟨fun h => (Except.ok.inj h).symm, fun h => h ▸ rfl⟩
  | blank c rest hc ih =>
    rw [scanFrom_blank hc, tiles_blank hd hc]
    exact ih (by rw [← List.drop_drop, hd]; rfl)
  | token l u rest hl he ih =>
    have hrest : text.drop (p + u.length) = rest := by rw [← List.drop_drop, hd, List.drop_left]
    rw [scanFrom_token hl he, map_cons_eq_ok_iff, tiles_token hl hd he]
    simp only [ih hrest]
  | nothing c rest hc =>
    rw [scanFrom_nothing hc]
    exact iff_of_false nofun (not_tiles hd hc)

/-- Where scanning stops, a character begins nothing. What is before it was scanned, and no name
there ends right before a character that would have gone on with it. -/
theorem exists_of_scanFrom_eq_error (h : scanFrom p text = .error (c, q)) :
    ∃ u rest tokens, text = u ++ c :: rest ∧ q = p + u.length ∧ scanFrom p u = .ok tokens ∧
      BeginsNothing c rest ∧
      (continuesName c = true → ∀ t ∈ tokens, t.lexeme.kind = "name" → t.stop ≠ q) := by
  induction text using text_induction generalizing p with
  | nil =>
    rw [scanFrom_nil] at h
    cases h
  | blank b rest hb ih =>
    rw [scanFrom_blank hb] at h
    obtain ⟨u, after, tokens, rfl, rfl, hu, hc, hwhole⟩ := ih h
    refine ⟨b :: u, after, tokens, rfl, ?_, by rwa [scanFrom_blank hb], hc, hwhole⟩
    rw [List.length_cons]
    omega
  | token l v rest hl he ih =>
    rw [scanFrom_token hl he, map_cons_eq_error_iff] at h
    obtain ⟨u, after, tokens, rfl, rfl, hu, hc, hwhole⟩ := ih h
    refine ⟨v ++ u, after, ⟨l, p⟩ :: tokens, by simp, by simp [Nat.add_assoc], ?_, hc, ?_⟩
    · rw [scanFrom_token hl fun hk => (he hk).of_append, hu]
      rfl
    · intro hcont
      refine List.forall_mem_cons.mpr ⟨fun hk => ?_, hwhole hcont⟩
      cases u with
      | nil => simp [he hk c rfl] at hcont
      | cons d u =>
        rw [stop_eq hl, List.length_cons]
        omega
  | nothing d rest hd =>
    rw [scanFrom_nothing hd] at h
    obtain ⟨rfl, rfl⟩ := Prod.mk.inj (Except.error.inj h)
    exact ⟨[], rest, [], rfl, rfl, scanFrom_nil _, hd, fun _ => nofun⟩

/-- Two texts one after the other are scanned one after the other, unless a name at the end of the
first goes on in the second. -/
theorem scanFrom_append (hu : scanFrom p u = .ok tokens) (hq : q = p + u.length)
    (hseam : ∀ t ∈ tokens, t.lexeme.kind = "name" → t.stop = q → EndsName rest) :
    scanFrom p (u ++ rest) = (tokens ++ ·) <$> scanFrom q rest := by
  induction u using text_induction generalizing p tokens with
  | nil =>
    obtain rfl : q = p := hq
    rw [scanFrom_nil] at hu
    obtain rfl := Except.ok.inj hu
    exact (id_map (scanFrom q rest)).symm
  | blank b u hb ih =>
    rw [scanFrom_blank hb] at hu
    rw [List.cons_append, scanFrom_blank hb]
    rw [List.length_cons] at hq
    exact ih hu (by omega) hseam
  | token l v u hl he ih =>
    rw [scanFrom_token hl he] at hu
    obtain ⟨others, rfl, hothers⟩ := map_cons_eq_ok_iff.mp hu
    rw [List.length_append] at hq
    have hends : l.kind = "name" → EndsName (u ++ rest) := by
      intro hk
      refine (he hk).append fun hnil => hseam _ List.mem_cons_self hk ?_
      rw [stop_eq hl, hq, hnil]
      rfl
    rw [List.append_assoc, scanFrom_token hl hends,
      ih hothers (by omega) fun t ht => hseam t (List.mem_cons_of_mem _ ht)]
    cases scanFrom q rest <;> rfl
  | nothing d u hd =>
    rw [scanFrom_nothing hd] at hu
    cases hu

/-- There scanning stops. -/
theorem scanFrom_append_nothing (hu : scanFrom p u = .ok tokens) (hq : q = p + u.length)
    (hc : BeginsNothing c rest)
    (hwhole : continuesName c = true → ∀ t ∈ tokens, t.lexeme.kind = "name" → t.stop ≠ q) :
    scanFrom p (u ++ c :: rest) = .error (c, q) := by
  have hseam : ∀ t ∈ tokens, t.lexeme.kind = "name" → t.stop = q → EndsName (c :: rest) := by
    intro t ht hk hstop
    refine endsName_cons (Bool.eq_false_iff.mpr fun hcont => ?_) rest
    exact hwhole hcont t ht hk hstop
  rw [scanFrom_append hu hq hseam, scanFrom_nothing hc]
  rfl

end Scan

theorem scan_eq_ok_iff_tiles (text : String) (tokens : List Token) :
    scan text = .ok tokens ↔ Tiles text.toList 0 tokens := by
  rw [scan_eq_ok_iff, scanFrom_eq_ok_iff_tiles List.drop_zero]

theorem scan_ofList_eq_ok_iff (cs : List Char) (tokens : List Token) :
    scan (String.ofList cs) = .ok tokens ↔ scanFrom 0 cs = .ok tokens := by
  rw [scan_eq_ok_iff, String.toList_ofList]

/-- The text is scanned as far as to this place. The character there begins nothing and goes on
with no name that ends there. -/
structure RefusedAt (text : String) (place : Nat) (c : Char) : Prop where
  here : text.toList[place]? = some c
  beginsNothing : BeginsNothing c (text.toList.drop (place + 1))
  before : ∃ tokens, scan (String.ofList (text.toList.take place)) = .ok tokens ∧
    (continuesName c = true → ∀ t ∈ tokens, t.lexeme.kind = "name" → t.stop ≠ place)

theorem scanFrom_eq_error_iff (text : String) (c : Char) (place : Nat) :
    scanFrom 0 text.toList = .error (c, place) ↔ RefusedAt text place c := by
  constructor
  · intro h
    obtain ⟨u, rest, tokens, htext, rfl, hu, hc, hwhole⟩ := exists_of_scanFrom_eq_error h
    rw [Nat.zero_add] at hwhole ⊢
    refine ⟨by simp [htext], by simpa [htext] using hc, tokens, ?_, hwhole⟩
    rw [scan_ofList_eq_ok_iff, htext, List.take_left]
    exact hu
  · rintro ⟨hhere, hc, tokens, hu, hwhole⟩
    obtain ⟨hlt, hget⟩ := List.getElem?_eq_some_iff.mp hhere
    rw [scan_ofList_eq_ok_iff] at hu
    have hlen : place = 0 + (text.toList.take place).length := by
      rw [List.length_take]
      omega
    have hstop := scanFrom_append_nothing hu hlen hc hwhole
    rwa [← hget, ← List.drop_eq_getElem_cons hlt, List.take_append_drop, hget] at hstop

theorem scan_eq_error_iff (text : String) (error : SyntaxError) :
    scan text = .error error ↔
      ∃ place c, RefusedAt text place c ∧ error = ⟨.unexpectedCharacter c, place, text⟩ := by
  simp only [← scanFrom_eq_error_iff, scan]
  cases scanFrom 0 text.toList with
  | ok tokens => simp [Except.mapError]
  | error stop =>
    obtain ⟨c, place⟩ := stop
    constructor
    · intro h
      exact ⟨place, c, rfl, (Except.error.inj h).symm⟩
    · rintro ⟨q, d, h, rfl⟩
      obtain ⟨rfl, rfl⟩ := Prod.mk.inj (Except.error.inj h)
      rfl

/-- A text is scanned as a row of tokens exactly if it consists of them and of white space between
them. It is refused at a character exactly if what is before that is scanned and the character can
neither begin anything there nor go on with a name. Of the two one happens, and in one way only. -/
theorem scan_exactly (text : String) :
    (∀ tokens, scan text = .ok tokens ↔ Tiles text.toList 0 tokens) ∧
    (∀ error, scan text = .error error ↔
      ∃ place c, RefusedAt text place c ∧ error = ⟨.unexpectedCharacter c, place, text⟩) ∧
    ((∃! tokens, Tiles text.toList 0 tokens) ∧ (∀ place c, ¬ RefusedAt text place c) ∨
      (∀ tokens, ¬ Tiles text.toList 0 tokens) ∧ ∃! place, ∃ c, RefusedAt text place c) := by
  refine ⟨scan_eq_ok_iff_tiles text, scan_eq_error_iff text, ?_⟩
  simp only [← scan_eq_ok_iff_tiles, scan_eq_ok_iff, ← scanFrom_eq_error_iff]
  cases scanFrom 0 text.toList with
  | ok tokens => exact .inl ⟨⟨tokens, rfl, fun _ h => (Except.ok.inj h).symm⟩, fun _ _ => nofun⟩
  | error stop =>
    obtain ⟨c, place⟩ := stop
    refine .inr ⟨fun _ => nofun, place, ⟨c, rfl⟩, ?_⟩
    rintro q ⟨d, h⟩
    exact (Prod.mk.inj (Except.error.inj h)).2.symm

end Token

end TypeAnnotation
