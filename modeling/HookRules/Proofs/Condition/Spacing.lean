/-
Blanks beside tokens change nothing.

`Widened` puts blanks into a text that can be cut into tokens: at its start, at
its end and between any two tokens, and nowhere else. What is to be shown is that
every token is cut off from the wider text as it was. Its own characters are the
same, so all depends on what follows it, and there either nothing has changed or
a blank stands now, which ends every lexeme (`Ends.of_widened`). A point is the
exception: it belongs to an integer before it if a digit follows, so behind an
integer two characters matter and not one.

# Compiling

The tokens of the wider text have the lexemes of the others and stand elsewhere.
Places ascend along a text and end before its end, so one function takes each
token, and the end, to where it is now (`exists_move`), and a condition is read
alike at moved places.
-/
import HookRules.Proofs.Condition.Compilation
import HookRules.Proofs.Condition.Placement
import HookRules.Proofs.Condition.Spelling

namespace HookRules

namespace Condition

namespace Lexer

-- ================================================================== insertion

/-- Blanks are inserted before, behind and between the tokens of a text. -/
inductive Widened : List Char → List Char → Prop where
  | nil : Widened [] []
  /-- A blank is inserted where no token stands. -/
  | insert {c : Char} {cs cs' : List Char} (hc : Text.isBlank c = true)
      (h : Widened cs cs') : Widened cs (c :: cs')
  /-- A blank of the text stays. -/
  | blank {c : Char} {cs cs' : List Char} (hc : Text.isBlank c = true)
      (h : Widened cs cs') : Widened (c :: cs) (c :: cs')
  /-- A token of the text stays. -/
  | token {l : Lexeme} {text rest rest' : List Char}
      (hnext : next (text ++ rest) = .ok (l, rest)) (h : Widened rest rest') :
      Widened (text ++ rest) (text ++ rest')

/-- A lexeme that is cut off is written by the characters before the rest. -/
theorem spells_of_next {l : Lexeme} {text rest : List Char}
    (h : next (text ++ rest) = .ok (l, rest)) : Spells l text ∧ Ends l rest := by
  obtain ⟨text', hsplit, hspells, hends⟩ := next_sound h
  cases List.append_cancel_right hsplit
  exact ⟨hspells, hends⟩

/-- A text that falls into blanks and tokens may be left as it is. -/
theorem Cut.widened {p : Nat} {cs : List Char} {ts : List Token}
    (h : Cut p cs ts) : Widened cs cs := by
  induction h with
  | nil => exact .nil
  | blank hc _ ih => exact .blank hc ih
  | token hspells hends _ ih => exact .token (next_spelled hspells hends) ih

/-- A wider text starts with a blank, or with what the text starts with. -/
theorem Widened.head {cs cs' : List Char} (h : Widened cs cs') :
    (∃ c ∈ cs'.head?, Text.isBlank c = true) ∨ cs'.head? = cs.head? := by
  cases h with
  | nil => exact Or.inr rfl
  | insert hc _ => exact Or.inl ⟨_, rfl, hc⟩
  | blank hc _ => exact Or.inr rfl
  | token hnext _ =>
      obtain ⟨c, more, rfl, -⟩ := (spells_of_next hnext).1.head
      exact Or.inr rfl

/-- What ends an integer does so in a wider text. -/
theorem EndsInteger.of_widened {rest rest' : List Char} (h : Widened rest rest')
    (hends : EndsInteger rest) : EndsInteger rest' := by
  constructor
  · intro c hc
    rcases h.head with ⟨d, hd, hblank⟩ | hsame
    · cases hc.symm.trans hd
      exact isDigit_of_continuesWord (continuesWord_of_isBlank hblank)
    · exact hends.digit c (hsame ▸ hc)
  · intro d more hpoint
    cases h with
    | nil => cases hpoint
    | insert hc _ | blank hc _ =>
        cases hpoint
        cases hc
    | @token l text after after' hnext h =>
        obtain ⟨c, tail, rfl, -⟩ := (spells_of_next hnext).1.head
        rw [List.cons_append] at hpoint
        obtain ⟨rfl, htail⟩ := List.cons.inj hpoint
        -- the token is the point alone, and stood there before
        have hdot : next ('.' :: (tail ++ after)) = .ok (.dot, tail ++ after) :=
          rfl
        have hself : tail ++ after = after :=
          congrArg Prod.snd (Except.ok.inj (hdot.symm.trans hnext))
        rw [List.append_left_eq_self.mp hself, List.nil_append] at htail
        subst htail
        rcases h.head with ⟨e, he, hblank⟩ | hsame
        · cases he
          exact isDigit_of_continuesWord (continuesWord_of_isBlank hblank)
        · obtain ⟨more, rfl⟩ := List.head?_eq_some_iff.mp hsame.symm
          refine hends.point d more ?_
          rw [List.cons_append, hself]

/-- A lexeme that ends in a text ends in a wider one. -/
theorem Ends.of_widened {l : Lexeme} {rest rest' : List Char}
    (h : Widened rest rest') (hends : Ends l rest) : Ends l rest' := by
  rcases h.head with ⟨c, hc, hblank⟩ | hsame
  · obtain ⟨more, rfl⟩ := List.head?_eq_some_iff.mp hc
    exact .of_isBlank hblank l more
  · cases l with
    | num n =>
        cases n with
        | int _ => exact EndsInteger.of_widened h hends
        | float _ => exact fun c hc => hends c (hsame ▸ hc)
    | lt | gt | bang => exact fun hc => hends (hsame ▸ hc)
    | word _ => exact fun c hc => hends c (hsame ▸ hc)
    | _ => trivial

-- ======================================================================= cuts

/-- Tokens start inside the text. -/
theorem Cut.within {p : Nat} {cs : List Char} {ts : List Token}
    (h : Cut p cs ts) : ∀ t ∈ ts, t.position < p + byteLength cs := by
  induction h with
  | nil => exact nofun
  | blank _ _ ih =>
      intro t ht
      have hwithin := ih t ht
      rw [byteLength]
      omega
  | token hspells _ _ ih =>
      obtain ⟨c, more, rfl, -⟩ := hspells.head
      have hsize := c.utf8Size_pos
      intro t ht
      rw [byteLength_append, byteLength]
      rcases List.mem_cons.mp ht with rfl | ht
      · dsimp only
        omega
      · have hwithin := ih t ht
        rw [byteLength] at hwithin
        omega

/-- A text is blank just if it has no tokens. -/
theorem Cut.all_isBlank {p : Nat} {cs : List Char} {ts : List Token}
    (h : Cut p cs ts) : cs.all Text.isBlank = ts.isEmpty := by
  induction h with
  | nil => rfl
  | blank hc _ ih => rw [List.all_cons, hc, ih, Bool.true_and]
  | token hspells _ _ _ =>
      obtain ⟨c, more, rfl, hc⟩ := hspells.head
      rw [List.cons_append, List.all_cons, hc]
      rfl

/-- A text and a wider one fall into tokens with the same lexemes. -/
theorem Widened.cut {cs cs' : List Char} (h : Widened cs cs') (p p' : Nat) :
    ∃ ts ts', Cut p cs ts ∧ Cut p' cs' ts'
      ∧ ts'.map (·.lexeme) = ts.map (·.lexeme) := by
  induction h generalizing p p' with
  | nil => exact ⟨[], [], .nil, .nil, rfl⟩
  | @insert c _ _ hc _ ih =>
      obtain ⟨ts, ts', hcut, hcut', hsame⟩ := ih p (p' + c.utf8Size)
      exact ⟨ts, ts', hcut, .blank hc hcut', hsame⟩
  | @blank c _ _ hc _ ih =>
      obtain ⟨ts, ts', hcut, hcut', hsame⟩ := ih (p + c.utf8Size) (p' + c.utf8Size)
      exact ⟨ts, ts', .blank hc hcut, .blank hc hcut', hsame⟩
  | @token l text _ _ hnext h ih =>
      obtain ⟨hspells, hends⟩ := spells_of_next hnext
      obtain ⟨ts, ts', hcut, hcut', hsame⟩ :=
        ih (p + byteLength text) (p' + byteLength text)
      refine ⟨⟨l, p⟩ :: ts, ⟨l, p'⟩ :: ts', .token hspells hends hcut,
        .token hspells (hends.of_widened h) hcut', ?_⟩
      rw [List.map_cons, List.map_cons, hsame]

/-- The bytes of the characters of a text are those of the text. -/
theorem byteLength_toList (s : String) :
    byteLength s.toList = s.utf8ByteSize := by
  have hlist : ∀ cs, byteLength cs = (String.ofList cs).utf8ByteSize := by
    intro cs
    induction cs with
    | nil => rfl
    | cons c cs ih => simp [byteLength, ih]
  rw [hlist, String.ofList_toList]

end Lexer

/-- A text is blank just if it is cut into no tokens. -/
theorem isBlankText_of_tokens {source : String} {ts : List Token}
    (h : tokenize source = .ok ts) : Text.isBlankText source = ts.isEmpty :=
  (tokenize_ok_iff.mp h).all_isBlank

/-- Tokens start before the end of the text. -/
theorem tokenize_within {source : String} {ts : List Token}
    (h : tokenize source = .ok ts) :
    ∀ t ∈ ts, t.position < source.utf8ByteSize := by
  intro t ht
  rw [← Lexer.byteLength_toList, ← Nat.zero_add (Lexer.byteLength _)]
  exact (tokenize_ok_iff.mp h).within t ht

-- ===================================================================== places

/-- Tokens at ascending places before an end are taken to any tokens with the
same lexemes, and the end to any end, by one move. -/
theorem exists_move {ts ts' : List Token}
    (hascending : ts.Pairwise fun t u => t.position < u.position)
    {finish : Nat} (hbefore : ∀ t ∈ ts, t.position < finish)
    (hsame : ts'.map (·.lexeme) = ts.map (·.lexeme)) (finish' : Nat) :
    ∃ g : Nat → Nat, g finish = finish' ∧ ts.map (Token.move g) = ts' := by
  induction ts generalizing ts' with
  | nil => exact ⟨fun _ => finish', rfl, (List.map_eq_nil_iff.mp hsame).symm⟩
  | cons t ts ih =>
      obtain ⟨hlater, hascending⟩ := List.pairwise_cons.mp hascending
      obtain ⟨ht, hbefore⟩ := List.forall_mem_cons.mp hbefore
      obtain ⟨⟨l, p⟩, us, rfl, rfl, hrest⟩ := List.map_eq_cons_iff.mp hsame
      obtain ⟨g, hfinish, hmove⟩ := ih hascending hbefore hrest
      -- the first place is none of the others
      refine ⟨Function.update g t.position p, ?_, ?_⟩
      · rw [Function.update_of_ne (Nat.ne_of_gt ht), hfinish]
      · have hothers : ∀ u ∈ ts,
            u.move (Function.update g t.position p) = u.move g := by
          intro u hu
          rw [Token.move, Token.move,
            Function.update_of_ne (Nat.ne_of_gt (hlater u hu))]
        rw [List.map_cons, List.map_congr_left hothers, hmove, Token.move,
          Function.update_self]

/-- Places of two texts that belong together: where tokens of the same number
stand, or where both texts end. -/
inductive SamePlace (source source' : String) (ts ts' : List Token) :
    Nat → Nat → Prop where
  | token {i : Nat} {t t' : Token} (h : ts[i]? = some t) (h' : ts'[i]? = some t') :
      SamePlace source source' ts ts' t.position t'.position
  | finish : SamePlace source source' ts ts' source.utf8ByteSize source'.utf8ByteSize

/-- Texts with the same lexemes are read alike, but for the places of faults, and
these belong together. -/
theorem parse_of_same_lexemes {source source' : String} {ts ts' : List Token}
    (hts : tokenize source = .ok ts) (hts' : tokenize source' = .ok ts')
    (hsame : ts'.map (·.lexeme) = ts.map (·.lexeme)) :
    ∃ g, parse source' = Parser.shift g id (parse source)
      ∧ ∀ f, parse source = .error f →
        SamePlace source source' ts ts' f.position (g f.position) := by
  obtain ⟨g, hfinish, hmove⟩ := exists_move (tokenize_ascending hts)
    (tokenize_within hts) hsame source'.utf8ByteSize
  refine ⟨g, ?_, fun f hread => ?_⟩
  · rw [parse_of_tokens hts, parse_of_tokens hts', ← hfinish, ← hmove]
    exact parseTokens_move g source.utf8ByteSize ts
  · rw [parse_of_tokens hts] at hread
    rcases parseTokens_place hread with hend | ⟨t, ht, hat⟩
    · rw [hend, hfinish]
      exact .finish
    · obtain ⟨i, hi⟩ := List.getElem?_of_mem ht
      have hi' : ts'[i]? = some (t.move g) := by
        rw [← hmove, List.getElem?_map, hi]
        rfl
      rw [← hat]
      exact .token hi hi'

/-- Causes that differ at most in the place of a fault of the text. -/
inductive Cause.Matches (same : Nat → Nat → Prop) : Cause → Cause → Prop where
  | syntaxError (fault : SyntaxFault) {p p' : Nat} (h : same p p') :
      Matches same (.syntaxError ⟨fault, p⟩) (.syntaxError ⟨fault, p'⟩)
  | unknownFunction (name : String) :
      Matches same (.unknownFunction name) (.unknownFunction name)
  | unknownVariable (name : String) :
      Matches same (.unknownVariable name) (.unknownVariable name)

theorem Symbol.fault_matches (same : Nat → Nat → Prop) (s : Symbol) :
    s.fault.Matches same s.fault := by
  cases s with
  | «variable» name => exact .unknownVariable name
  | function name => exact .unknownFunction name

-- ================================================================ compilation

/-- Blanks before, behind and between its tokens do not change what a condition
is. The wider text is cut into the same lexemes and compiled to the same tree, or
it is refused for the same reason, and if that is a fault of the text, then at
the token where the fault was, or at the end if it was there. -/
theorem compile_widened (source source' : String)
    (h : Lexer.Widened source.toList source'.toList) :
    ∃ ts ts', tokenize source = .ok ts ∧ tokenize source' = .ok ts'
      ∧ ts'.map (·.lexeme) = ts.map (·.lexeme)
      ∧ ((∃ program, compile source = .ok ⟨source, program⟩
          ∧ compile source' = .ok ⟨source', program⟩)
        ∨ ∃ cause cause', compile source = .error ⟨source, cause⟩
          ∧ compile source' = .error ⟨source', cause'⟩
          ∧ cause.Matches (SamePlace source source' ts ts') cause') := by
  obtain ⟨ts, ts', hcut, hcut', hsame⟩ := h.cut 0 0
  have hts := tokenize_ok_iff.mpr hcut
  have hts' := tokenize_ok_iff.mpr hcut'
  refine ⟨ts, ts', hts, hts', hsame, ?_⟩
  obtain ⟨g, hparse, hplace⟩ := parse_of_same_lexemes hts hts' hsame
  have hblank : Text.isBlankText source' = Text.isBlankText source := by
    rw [isBlankText_of_tokens hts, isBlankText_of_tokens hts',
      ← List.isEmpty_map (f := (·.lexeme)), hsame, List.isEmpty_map]
  cases hb : Text.isBlankText source with
  | true =>
      exact Or.inl ⟨none, compile_blank hb, compile_blank (hblank.trans hb)⟩
  | false =>
      have hb' := hblank.trans hb
      cases hread : parse source with
      | error f =>
          rw [hread] at hparse
          exact Or.inr ⟨.syntaxError f, .syntaxError (f.move g),
            compile_syntaxError hb hread, compile_syntaxError hb' hparse,
            .syntaxError f.fault (hplace f hread)⟩
      | ok e =>
          rw [hread] at hparse
          by_cases hknown : ∀ s ∈ e.symbols, s.Known
          · exact Or.inl ⟨some e, compile_known hb hread hknown,
              compile_known hb' hparse hknown⟩
          · obtain ⟨before, s, after, hsymbols, hs, hfirst⟩ :=
              Symbol.exists_first_unknown hknown
            exact Or.inr ⟨s.fault, s.fault,
              compile_unknown hb hread hsymbols hfirst hs,
              compile_unknown hb' hparse hsymbols hfirst hs,
              s.fault_matches _⟩

/-- A word that is one too many is so wherever it stands. -/
theorem compile_of_two_words :
    Lexer.Widened "a b".toList " a  b".toList
      ∧ ∃ ts ts' place, tokenize "a b" = .ok ts ∧ tokenize " a  b" = .ok ts'
        ∧ compile " a  b" = .error
          ⟨" a  b", .syntaxError ⟨.leftover (.word "b"), place⟩⟩
        ∧ SamePlace "a b" " a  b" ts ts' 2 place := by
  have hb : Lexer.Widened ['b'] ['b'] :=
    @Lexer.Widened.token (.word "b") ['b'] [] [] (by decide +kernel) .nil
  have ha : Lexer.Widened ['a', ' ', 'b'] ['a', ' ', ' ', 'b'] :=
    @Lexer.Widened.token (.word "a") ['a'] [' ', 'b'] [' ', ' ', 'b']
      (by decide +kernel) (.insert (by decide) (.blank (by decide) hb))
  have hwide : Lexer.Widened "a b".toList " a  b".toList :=
    .insert (by decide) ha
  have hfault : compile "a b" = .error
      ⟨"a b", .syntaxError ⟨.leftover (.word "b"), 2⟩⟩ := by
    cbv
  obtain ⟨ts, ts', hts, hts', -, ⟨program, hok, -⟩ | hrefused⟩ :=
    compile_widened "a b" " a  b" hwide
  · rw [hfault] at hok
    cases hok
  · obtain ⟨cause, cause', hcause, hcause', hmatches⟩ := hrefused
    cases hfault.symm.trans hcause
    cases hmatches with
    | syntaxError _ hplace => exact ⟨hwide, ts, ts', _, hts, hts', hcause', hplace⟩

end Condition

end HookRules
