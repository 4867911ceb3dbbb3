import TypeAnnotation.Proofs.Acceptance
import TypeAnnotation.Proofs.Tiling

/-! # White space between tokens

White space may come in at the ends of an annotation, before and after each of its tokens, and in
the gaps between them. It is scanned as the same tokens, those after the white space further on, and
read as the same expression or refused for the same reason. Only white space beyond ASCII must not
come right after a name, as it goes on with the name.
-/
namespace TypeAnnotation
open Lexeme Token

/-! ## Tokens at other places -/

def Token.relocate (move : Nat → Nat) (t : Token) : Token := { t with position := move t.position }

def SyntaxError.relocate (move : Nat → Nat) (text : String) (error : SyntaxError) : SyntaxError :=
  { error with position := move error.position, text := text }

section Relocate
variable {move : Nat → Nat} {text moved : String}

theorem Token.map_lexeme_relocate (move : Nat → Nat) (tokens : List Token) :
    (tokens.map (relocate move)).map lexeme = tokens.map lexeme := by
  rw [List.map_map]
  rfl

theorem Token.next_relocate (move : Nat → Nat) (rest : List Token) :
    next (rest.map (relocate move)) = next rest := by
  rw [next, map_lexeme_relocate, next]

theorem SyntaxError.at_relocate (h : move text.length = moved.length) (tokens rest : List Token)
    (reason : Reason) :
    SyntaxError.at moved (tokens.map (Token.relocate move)) (rest.map (Token.relocate move)) reason =
      (SyntaxError.at text tokens rest reason).relocate move moved := by
  have hplace : placeOf moved (rest.map (Token.relocate move)) = move (placeOf text rest) := by
    cases rest with
    | nil => exact h.symm
    | cons => rfl
  rw [SyntaxError.at, SyntaxError.at, List.isEmpty_map, hplace]
  rfl

theorem Expr.outcome_relocate (move : Nat → Nat) (tokens : List Token) :
    (readAlternatives (tokens.map (relocate move))).outcome =
      ((readAlternatives tokens).outcome.map (Prod.map id (List.map (relocate move)))).mapError
        (Prod.map id (List.map (relocate move))) := by
  obtain ⟨used, rest, rfl, ⟨es, hes, hc, hread⟩ | ⟨reason, hr, hread⟩⟩ :=
    readAlternatives_cases tokens
  · rw [← next_relocate move] at hc
    rw [hread, List.map_append]
    exact hes.read (map_lexeme_relocate move used) hc
  · rw [hread, List.map_append]
    exact hr.read (map_lexeme_relocate move used) (next_relocate move rest)

/-- The reader looks at the places of tokens only to say where it stopped. -/
theorem Expr.ofTokens_relocate (h : move text.length = moved.length) (tokens : List Token) :
    ofTokens moved (tokens.map (relocate move)) =
      (ofTokens text tokens).mapError (SyntaxError.relocate move moved) := by
  rw [ofTokens_eq_ofOutcome, ofTokens_eq_ofOutcome, outcome_relocate]
  cases (readAlternatives tokens).outcome with
  | error stopped =>
    obtain ⟨reason, rest⟩ := stopped
    exact congrArg Except.error (SyntaxError.at_relocate h tokens rest reason)
  | ok read =>
    obtain ⟨es, rest⟩ := read
    cases rest with
    | nil => rfl
    | cons token rest =>
      exact congrArg Except.error (SyntaxError.at_relocate h tokens (token :: rest) _)

end Relocate

/-! ## Characters that come in -/

def Text.insertAt (text : String) (place : Nat) (more : String) : String :=
  String.ofList (text.toList.take place ++ (more.toList ++ text.toList.drop place))

def Text.moveFrom (place count position : Nat) : Nat :=
  if place ≤ position then position + count else position

theorem Text.moveFrom_length {text : String} {place : Nat} (h : place ≤ text.length) (w : String) :
    moveFrom place w.length text.length = (insertAt text place w).length := by
  rw [moveFrom, if_pos h, insertAt, String.length_ofList]
  simp only [List.length_append, List.length_take, List.length_drop, String.length_toList]
  omega

namespace Token

section Scan
variable {u v w cs : List Char} {place p q : Nat} {tokens : List Token} {c : Char}

/-- White space goes on with a name exactly if it is beyond ASCII. -/
theorem continuesName_eq_false_iff (hc : Text.isBlank c = true) :
    continuesName c = false ↔ c.toNat < 0x80 := by
  have hascii : ∀ n < 0x80, Text.isBlank (Char.ofNat n) = true →
      continuesName (Char.ofNat n) = false := by decide +kernel
  constructor
  · intro h
    by_contra hge
    have hle : c.toNat ≤ 0xffff := by
      simp only [Text.isBlank, Bool.or_eq_true, Bool.and_eq_true, decide_eq_true_eq,
        beq_iff_eq] at hc
      omega
    have hstarts : startsName c = true := by
      rw [startsName, Bool.or_eq_true, Bool.and_eq_true, decide_eq_true_eq, decide_eq_true_eq]
      exact .inr ⟨by omega, hle⟩
    rw [continuesName, hstarts] at h
    cases h
  · intro h
    have hn := hascii c.toNat h
    rw [Char.ofNat_toNat] at hn
    exact hn hc

theorem scanFrom_blanks (hw : ∀ c ∈ w, Text.isBlank c = true) (p : Nat) (v : List Char) :
    scanFrom p (w ++ v) = scanFrom (p + w.length) v := by
  induction w generalizing p with
  | nil => rfl
  | cons c w ih =>
    obtain ⟨hc, hw⟩ := List.forall_mem_cons.mp hw
    rw [List.cons_append, scanFrom_blank hc, ih hw, List.length_cons, Nat.add_assoc,
      Nat.add_comm 1]

theorem scanFrom_add (h : scanFrom p cs = .ok tokens) (hp : place ≤ p) (count : Nat) :
    scanFrom (p + count) cs = .ok (tokens.map (relocate (Text.moveFrom place count))) := by
  induction cs using text_induction generalizing p tokens with
  | nil =>
    rw [scanFrom_nil] at h ⊢
    obtain rfl := Except.ok.inj h
    rfl
  | blank c cs hc ih =>
    rw [scanFrom_blank hc] at h ⊢
    rw [Nat.add_right_comm]
    exact ih h (Nat.le_succ_of_le hp)
  | token l x cs hl he ih =>
    rw [scanFrom_token hl he] at h ⊢
    obtain ⟨others, rfl, hothers⟩ := map_cons_eq_ok_iff.mp h
    have hplace : Text.moveFrom place count p = p + count := if_pos hp
    rw [Nat.add_right_comm, ih hothers (by omega), List.map_cons, relocate, hplace]
    rfl
  | nothing c cs hc =>
    rw [scanFrom_nothing hc] at h
    cases h

/-- A place inside no token parts the tokens in those of the text before it and those of the text
after it. -/
theorem exists_of_scanFrom_append (h : scanFrom p (u ++ v) = .ok tokens) (hq : q = p + u.length)
    (hout : ∀ t ∈ tokens, q ≤ t.position ∨ t.stop ≤ q) :
    ∃ before after, tokens = before ++ after ∧ scanFrom p u = .ok before ∧
      scanFrom q v = .ok after := by
  generalize htext : u ++ v = text at h
  induction text using text_induction generalizing p u tokens with
  | nil =>
    obtain ⟨rfl, rfl⟩ := List.append_eq_nil_iff.mp htext
    exact ⟨[], tokens, rfl, scanFrom_nil p, hq ▸ h⟩
  | blank c rest hc ih =>
    cases u with
    | nil =>
      obtain rfl : v = c :: rest := htext
      exact ⟨[], tokens, rfl, scanFrom_nil p, hq ▸ h⟩
    | cons d u =>
      obtain ⟨rfl, rfl⟩ := List.cons.inj htext
      rw [scanFrom_blank hc] at h ⊢
      rw [List.length_cons] at hq
      exact ih (by omega) hout rfl h
  | token l x rest hl he ih =>
    by_cases hu : u = []
    · subst hu
      obtain rfl : v = x ++ rest := htext
      exact ⟨[], tokens, rfl, scanFrom_nil p, hq ▸ h⟩
    · rw [scanFrom_token hl he] at h
      obtain ⟨others, rfl, hothers⟩ := map_cons_eq_ok_iff.mp h
      obtain ⟨hfirst, hout⟩ := List.forall_mem_cons.mp hout
      -- The place is not at the beginning of the first token, so it is after it.
      have hlen : x.length ≤ u.length := by
        have hpos := List.length_pos_of_ne_nil hu
        have hlt : p < q := by omega
        have hbefore : p + x.length ≤ q := stop_eq hl p ▸ hfirst.resolve_left (Nat.not_le.mpr hlt)
        omega
      obtain ⟨u, rfl⟩ := List.prefix_of_prefix_length_le ⟨rest, rfl⟩ ⟨v, htext⟩ hlen
      rw [List.append_assoc] at htext
      obtain rfl := List.append_cancel_left htext
      rw [List.length_append] at hq
      obtain ⟨before, after, rfl, hbefore, hafter⟩ := ih (by omega) hout rfl hothers
      refine ⟨_ :: before, after, rfl, ?_, hafter⟩
      rw [scanFrom_token hl fun hk => (he hk).of_append, hbefore]
      rfl
  | nothing c rest hc =>
    rw [scanFrom_nothing hc] at h
    cases h

end Scan

section Seam
variable {text w : String} {place : Nat} {tokens : List Token} {t : Token}

/-- The places at the ends of a text, at the ends of its tokens, and before what is part of none. -/
inductive Seam (text : String) (tokens : List Token) : Nat → Prop
  | start : Seam text tokens 0
  | stop : Seam text tokens text.length
  | before {t : Token} (ht : t ∈ tokens) : Seam text tokens t.position
  | after {t : Token} (ht : t ∈ tokens) : Seam text tokens t.stop
  | gap {place : Nat} (hlt : place < text.length)
    (hout : ∀ t ∈ tokens, place < t.position ∨ t.stop ≤ place) : Seam text tokens place

/-- They are the places in the text that are inside no token. -/
theorem seam_iff (hscan : scan text = .ok tokens) :
    Seam text tokens place ↔
      place ≤ text.length ∧ ∀ t ∈ tokens, place ≤ t.position ∨ t.stop ≤ place := by
  have htiles := (scan_eq_ok_iff_tiles text tokens).mp hscan
  have hstop : ∀ t ∈ tokens, t.stop ≤ text.length := by
    intro t ht
    rw [← String.length_toList]
    exact htiles.stop_le ht
  have hpos : ∀ t ∈ tokens, t.position < t.stop := fun t ht =>
    position_lt_stop (htiles.wellSpelled t ht)
  constructor
  · intro h
    cases h with
    | start => exact ⟨Nat.zero_le _, fun t _ => .inl (Nat.zero_le _)⟩
    | stop => exact ⟨le_rfl, fun t ht => .inr (hstop t ht)⟩
    | @before s hs =>
      refine ⟨(hpos s hs).le.trans (hstop s hs), fun t ht => ?_⟩
      have := hpos s hs
      rcases htiles.apart hs ht with rfl | hst | hts
      · exact .inl le_rfl
      · exact .inl (by omega)
      · exact .inr hts
    | @after s hs =>
      refine ⟨hstop s hs, fun t ht => ?_⟩
      have := hpos s hs
      rcases htiles.apart hs ht with rfl | hst | hts
      · exact .inr le_rfl
      · exact .inl hst
      · exact .inr (by omega)
    | gap hlt hout => exact ⟨hlt.le, fun t ht => (hout t ht).imp_left Nat.le_of_lt⟩
  · rintro ⟨hle, hout⟩
    rcases hle.eq_or_lt with rfl | hlt
    · exact .stop
    · by_cases hfirst : ∃ t ∈ tokens, t.position = place
      · obtain ⟨t, ht, rfl⟩ := hfirst
        exact .before ht
      · refine .gap hlt fun t ht => (hout t ht).imp_left fun hp => ?_
        exact lt_of_le_of_ne hp fun heq => hfirst ⟨t, ht, heq.symm⟩

theorem relocate_moveFrom_of_lt (h : t.position < place) (count : Nat) :
    t.relocate (Text.moveFrom place count) = t := by
  rw [relocate, Text.moveFrom, if_neg (by omega)]

theorem map_relocate_moveFrom {u : List Char} (hu : scanFrom 0 u = .ok tokens)
    (hle : u.length ≤ place) (count : Nat) :
    tokens.map (relocate (Text.moveFrom place count)) = tokens := by
  refine (List.map_congr_left fun t ht => ?_).trans (List.map_id tokens)
  have htiles := (scanFrom_eq_ok_iff_tiles List.drop_zero).mp hu
  have hpos := position_lt_stop (htiles.wellSpelled t ht)
  have hstop := htiles.stop_le ht
  exact relocate_moveFrom_of_lt (by omega) count

/-- White space that comes in outside of the tokens leaves them as they are, unless it goes on with
a name. -/
theorem scan_insertAt_iff (hscan : scan text = .ok tokens) (hp : Seam text tokens place)
    (hw : ∀ c ∈ w.toList, Text.isBlank c = true) :
    scan (Text.insertAt text place w) = .ok (tokens.map (relocate (Text.moveFrom place w.length))) ↔
      ∀ t ∈ tokens, t.lexeme.kind = "name" → t.stop = place →
        ∀ c ∈ w.toList.head?, c.toNat < 0x80 := by
  have htiles := (scan_eq_ok_iff_tiles text tokens).mp hscan
  obtain ⟨hle, hout⟩ := (seam_iff hscan).mp hp
  have hlen : (text.toList.take place).length = place := by
    rw [List.length_take, String.length_toList]
    omega
  constructor
  · -- The name still ends where the white space begins, and what comes next goes on with no name.
    rintro h t ht hk rfl c hc
    have hpos := position_lt_stop (htiles.wellSpelled t ht)
    have htiles' := (scan_eq_ok_iff_tiles _ _).mp h
    have hmem : t ∈ tokens.map (relocate (Text.moveFrom t.stop w.length)) :=
      List.mem_map.mpr ⟨t, ht, relocate_moveFrom_of_lt hpos w.length⟩
    have hnext : (Text.insertAt text t.stop w).toList[t.stop]? = some c := by
      rw [Text.insertAt, String.toList_ofList, List.getElem?_append_right hlen.le, hlen,
        Nat.sub_self, ← List.head?_eq_getElem?, List.head?_append, Option.mem_def.mp hc]
      rfl
    have hends := htiles'.whole t hmem hk c hnext
    exact (continuesName_eq_false_iff (hw c (List.mem_of_mem_head? hc))).mp hends
  · intro hname
    rw [scan_eq_ok_iff, ← List.take_append_drop place text.toList] at hscan
    obtain ⟨before, after, rfl, hbefore, hafter⟩ :=
      exists_of_scanFrom_append hscan (by omega) hout
    have hends : ∀ t ∈ before, t.lexeme.kind = "name" → t.stop = place →
        EndsName (w.toList ++ text.toList.drop place) := by
      intro t ht hk hstop
      have hmem : t ∈ before ++ after := List.mem_append_left after ht
      refine EndsName.append (fun c hc => ?_) fun _ => hstop ▸ htiles.endsName hmem hk
      have hascii := hname t hmem hk hstop c hc
      exact (continuesName_eq_false_iff (hw c (List.mem_of_mem_head? hc))).mpr hascii
    rw [scan_eq_ok_iff, Text.insertAt, String.toList_ofList,
      scanFrom_append hbefore (by omega) hends, scanFrom_blanks hw, String.length_toList,
      scanFrom_add hafter le_rfl, List.map_append, map_relocate_moveFrom hbefore hlen.le]
    rfl

end Seam

end Token

/-- White space that comes in outside of the tokens, and not beyond ASCII right after a name, says
nothing. -/
theorem Expr.parse_insertAt {text w : String} {place : Nat} {tokens : List Token}
    (hscan : scan text = .ok tokens) (hp : Seam text tokens place)
    (hw : ∀ c ∈ w.toList, Text.isBlank c = true)
    (hname : ∀ t ∈ tokens, t.lexeme.kind = "name" → t.stop = place →
      ∀ c ∈ w.toList.head?, c.toNat < 0x80) :
    scan (Text.insertAt text place w) =
      .ok (tokens.map (Token.relocate (Text.moveFrom place w.length))) ∧
    parse (Text.insertAt text place w) =
      (parse text).mapError (SyntaxError.relocate (Text.moveFrom place w.length)
        (Text.insertAt text place w)) ∧
    Text.moveFrom place w.length text.length = (Text.insertAt text place w).length := by
  have hmoved := (scan_insertAt_iff hscan hp hw).mpr hname
  have hlength := Text.moveFrom_length ((seam_iff hscan).mp hp).1 w
  refine ⟨hmoved, ?_, hlength⟩
  rw [parse, parse, hmoved, hscan]
  exact ofTokens_relocate hlength tokens

/-- A name, a space, a space that could have gone on with the name, and a bar with nothing after. -/
theorem Expr.parse_insertAt_open_bar :
    scan "a|" = .ok [⟨.name "a", 0⟩, ⟨.bar, 1⟩] ∧ Seam "a|" [⟨.name "a", 0⟩, ⟨.bar, 1⟩] 1 ∧
      scan "a \u00a0|" = .ok [⟨.name "a", 0⟩, ⟨.bar, 3⟩] ∧
      parse "a|" = .error ⟨.expectedTypeName, 2, "a|"⟩ ∧
      parse "a \u00a0|" = .error ⟨.expectedTypeName, 4, "a \u00a0|"⟩ := by
  have hname : NameChars ['a'] := by decide
  have hscan : scan "a|" = .ok [⟨.name "a", 0⟩, ⟨.bar, 1⟩] := by
    rw [scan_eq_ok_iff]
    refine (scanFrom_name hname (endsName_cons (by decide) []) 0).trans ?_
    rw [scanFrom_mark rfl, scanFrom_nil]
    rfl
  have hseam : Seam "a|" [⟨.name "a", 0⟩, ⟨.bar, 1⟩] 1 := .after List.mem_cons_self
  have hparse : parse "a|" = .error ⟨.expectedTypeName, 2, "a|"⟩ := by
    have hstops : Grammar.UnionStops [.name "a", .bar] none .expectedTypeName :=
      .more (.named "a" 0 fun _ => by decide) (.one (.start nofun))
    have hread : (readAlternatives ([⟨.name "a", 0⟩, ⟨.bar, 1⟩] ++ [])).outcome =
        .error (.expectedTypeName, []) := hstops.read rfl rfl
    rw [parse, hscan]
    exact (ofTokens_eq_ofOutcome _ _).trans (congrArg _ hread)
  have hmore : Text.insertAt "a|" 1 " \u00a0" = "a \u00a0|" := by decide
  have hblank : ∀ c ∈ " \u00a0".toList, Text.isBlank c = true := by
    intro c (hc : c ∈ [' ', '\u00a0'])
    rcases List.mem_pair.mp hc with rfl | rfl <;> decide
  obtain ⟨hmoved, hparsed, -⟩ := parse_insertAt hscan hseam hblank fun _ _ _ _ c hc => by
    obtain rfl : ' ' = c := Option.some.inj hc
    decide
  rw [hmore] at hmoved hparsed
  rw [hparse] at hparsed
  exact ⟨hscan, hseam, hmoved, hparse, hparsed⟩

end TypeAnnotation
