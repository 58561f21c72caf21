/-
Every place that is reported is one where the text can be cut.

`Leaves` says that a text can be cut at a byte, and what is left of it there. It
is the whole of the matter: what is left over is left over between two characters
(`Leaves.isValid`), so it is enough to follow a text along as the loop takes
characters away from it, and to say of each place what is left at that place.

# Tokens

At a token its own characters are left, and what the token does not go on into
(`Cut.leaves`).

# Faults

`Faulty` says of what is left how it cannot be cut into tokens. A string is
reported where it starts, because it may run over the rest of the text, unless
the text ends in a backslash, and then that is where the fault is. Everything
else is reported where a lexeme should start (`tokensWith_fault`). A fault of
tokens is at one of them or at the end, so nothing is left to show of it.
-/
import HookRules.Proofs.Condition.Spacing

namespace HookRules

namespace Condition

namespace Lexer

open Json (Digits)

-- ============================================================== what is left

/-- A text that starts at byte `p` has `rest` left at byte `q`. -/
def Leaves (p : Nat) (cs : List Char) (q : Nat) (rest : List Char) : Prop :=
  ∃ front, cs = front ++ rest ∧ q = p + byteLength front

variable {p q : Nat} {c : Char} {cs rest : List Char}

/-- At its start all of a text is left. -/
theorem Leaves.start (p : Nat) (cs : List Char) : Leaves p cs p cs :=
  ⟨[], rfl, rfl⟩

/-- What is left behind some characters is left of the text that they start. -/
theorem Leaves.append {text : List Char}
    (h : Leaves (p + byteLength text) cs q rest) : Leaves p (text ++ cs) q rest := by
  obtain ⟨front, rfl, rfl⟩ := h
  refine ⟨text ++ front, (List.append_assoc _ _ _).symm, ?_⟩
  rw [byteLength_append, Nat.add_assoc]

theorem Leaves.cons (h : Leaves (p + c.utf8Size) cs q rest) :
    Leaves p (c :: cs) q rest :=
  show Leaves p ([c] ++ cs) q rest from h.append

/-- An end of a text is left as many bytes on as it is shorter. -/
theorem Leaves.of_suffix (h : rest <:+ cs) (p : Nat) :
    Leaves p cs (p + (byteLength cs - byteLength rest)) rest := by
  obtain ⟨front, rfl⟩ := h
  refine ⟨front, rfl, ?_⟩
  rw [byteLength_append, Nat.add_sub_cancel]

/-- Where something is left of a text its bytes can be cut between characters. -/
theorem Leaves.isValid {source : String} (h : Leaves 0 source.toList q rest) :
    (⟨q⟩ : String.Pos.Raw).IsValid source := by
  obtain ⟨front, hsource, rfl⟩ := h
  refine String.Pos.Raw.isValid_iff_exists_append.mpr
    ⟨String.ofList front, String.ofList rest, ?_, ?_⟩
  · rw [← String.ofList_append, ← hsource, String.ofList_toList]
  · rw [String.rawEndPos, ← byteLength_toList, String.toList_ofList, Nat.zero_add]

-- ==================================================================== tokens

/-- At the place of a token the token is left, and what ends it. -/
theorem Cut.leaves {ts : List Token} (h : Cut p cs ts) :
    ∀ t ∈ ts, ∃ text rest, Leaves p cs t.position (text ++ rest)
      ∧ Spells t.lexeme text ∧ Ends t.lexeme rest := by
  induction h with
  | nil => exact nofun
  | blank _ _ ih =>
      intro t ht
      obtain ⟨text, rest, hleaves, hwritten⟩ := ih t ht
      exact ⟨text, rest, hleaves.cons, hwritten⟩
  | @token p l text rest ts hspells hends _ ih =>
      intro t ht
      rcases List.mem_cons.mp ht with rfl | ht
      · exact ⟨text, rest, .start p _, hspells, hends⟩
      · obtain ⟨text', rest', hleaves, hwritten⟩ := ih t ht
        exact ⟨text', rest', hleaves.append, hwritten⟩

-- ==================================================================== faults

/-- No sign stands at the start of a text. -/
def NoSign (cs : List Char) : Prop := ∀ s ∈ signs, ¬ s.1 <+: cs

/-- A text in which a string that was opened before it is not closed. -/
inductive Unclosed (quote : Char) : List Char → Prop where
  | nil : Unclosed quote []
  | plain {c : Char} {text : List Char} (hquote : c ≠ quote) (hslash : c ≠ '\\')
      (h : Unclosed quote text) : Unclosed quote (c :: text)
  | escaped (c : Char) {text : List Char} (h : Unclosed quote text) :
      Unclosed quote ('\\' :: c :: text)

/-- How the text that is left where a fault is cannot be cut into tokens. -/
inductive Faulty : SyntaxFault → List Char → Prop where
  | loneEquals {cs : List Char} (hsign : NoSign ('=' :: cs)) :
      Faulty .loneEquals ('=' :: cs)
  | strayCharacter {c : Char} {cs : List Char} (hquote : ¬ IsQuote c)
      (hdigit : c.isDigit = false) (hword : startsWord c = false)
      (hsign : NoSign (c :: cs)) : Faulty (.strayCharacter c) (c :: cs)
  /-- A string is open to the end of the text. -/
  | unterminatedString {quote : Char} {text : List Char} (hquote : IsQuote quote)
      (h : Unclosed quote text) : Faulty .unterminatedString (quote :: text)
  /-- A string is open and the text ends before what is escaped. -/
  | danglingEscape : Faulty .danglingEscape ['\\']
  | largeInteger (ds : Digits) {rest : List Char} (hends : EndsInteger rest)
      (h : ¬ ds.value < Nat.pow 2 63) :
      Faulty (.badNumber (String.ofList ds.chars)) (ds.chars ++ rest)
  | largeFraction (whole fraction : Digits) {rest : List Char}
      (hends : ∀ c ∈ rest.head?, c.isDigit = false)
      (h : Decimal.nearest? false (Decimal.ofDigits (whole.chars ++ fraction.chars))
        (-(fraction.chars.length : Int)) = none) :
      Faulty (.badNumber (String.ofList (whole.chars ++ '.' :: fraction.chars)))
        (whole.chars ++ '.' :: (fraction.chars ++ rest))

/-- Where a sign stands a lexeme is cut off, if not that sign then a longer
one. -/
theorem next_of_sign {s : List Char × Lexeme} (hs : s ∈ signs)
    (rest : List Char) : ∃ found, next (s.1 ++ rest) = .ok found := by
  by_cases hlonger : rest.head? = some '='
  · obtain ⟨more, rfl⟩ := List.head?_eq_some_iff.mp hlonger
    fin_cases hs <;> exact ⟨_, rfl⟩
  · have hends : Ends s.2 rest := by
      fin_cases hs <;> first | exact trivial | exact hlonger
    exact ⟨_, next_sign hs hends⟩

/-- A string that is not read to its end is open to the end of the text, or ends
in a backslash. -/
theorem stringBody_fault {quote : Char} {whole : List Char} {fault : SyntaxFault}
    (h : stringBody quote whole cs = .error (fault, rest)) :
    fault = .unterminatedString ∧ rest = whole ∧ Unclosed quote cs
      ∨ fault = .danglingEscape ∧ rest = ['\\'] ∧ rest <:+ cs := by
  fun_induction stringBody quote whole cs with
  | case1 =>
      cases h
      exact Or.inl ⟨rfl, rfl, .nil⟩
  | case2 =>
      cases h
      exact Or.inr ⟨rfl, rfl, List.suffix_rfl⟩
  | case3 c more ih =>
      rcases Parser.error_of_bind h with h | ⟨_, -, h⟩
      · rcases ih h with ⟨hfault, hrest, hopen⟩ | ⟨hfault, hrest, hend⟩
        · exact Or.inl ⟨hfault, hrest, .escaped c hopen⟩
        · exact Or.inr ⟨hfault, hrest,
            hend.trans ((List.suffix_cons _ _).trans (List.suffix_cons _ _))⟩
      · cases h
  | case4 more => cases h
  | case5 c more hdangling hescape hne ih =>
      rcases Parser.error_of_bind h with h | ⟨_, -, h⟩
      · rcases ih h with ⟨hfault, hrest, hopen⟩ | ⟨hfault, hrest, hend⟩
        · refine Or.inl ⟨hfault, hrest, .plain hne ?_ hopen⟩
          intro hslash
          cases more with
          | nil => exact hdangling hslash rfl
          | cons d more => exact hescape _ _ hslash rfl
        · exact Or.inr ⟨hfault, hrest, hend.trans (List.suffix_cons _ _)⟩
      · cases h

/-- A number that is refused is too large, and is reported where it starts. -/
theorem number_fault (hc : c.isDigit = true) {fault : SyntaxFault}
    (h : number (c :: cs) = .error (fault, rest)) :
    rest = c :: cs ∧ Faulty fault rest := by
  rcases fraction_or_integer hc cs with ⟨whole, fraction, rest', hsplit, hends⟩
    | ⟨ds, rest', hsplit, hends⟩
  · rw [hsplit] at h ⊢
    rw [number_float whole fraction hends] at h
    split at h
    · cases h
    · next hnone =>
        cases h
        exact ⟨rfl, .largeFraction whole fraction hends hnone⟩
  · rw [hsplit] at h ⊢
    rw [number_int ds hends] at h
    split at h
    · cases h
    · next hbound =>
        cases h
        exact ⟨rfl, .largeInteger ds hends hbound⟩

/-- Where no lexeme is cut off the text is faulty, and what is left there is an
end of it. -/
theorem next_fault {fault : SyntaxFault} (hne : cs ≠ [])
    (h : next cs = .error (fault, rest)) : rest <:+ cs ∧ Faulty fault rest := by
  have hsign : NoSign cs := by
    rintro s hs ⟨more, hmore⟩
    obtain ⟨found, hfound⟩ := next_of_sign hs more
    rw [hmore, h] at hfound
    cases hfound
  unfold next at h
  split at h
  case h_1 => exact absurd rfl hne
  case h_20 c cs _ _ _ _ _ _ _ _ _ _ _ _ _ _ _ _ _ _ =>
    split at h
    · next hquote =>
        rcases Parser.error_of_bind h with h | ⟨_, -, h⟩
        · rcases stringBody_fault h with ⟨rfl, rfl, hopen⟩ | ⟨rfl, rfl, hend⟩
          · exact ⟨List.suffix_rfl, .unterminatedString hquote hopen⟩
          · exact ⟨hend.trans (List.suffix_cons _ _), .danglingEscape⟩
        · cases h
    · next hquote =>
        split at h
        · next hdigit =>
            rcases Parser.error_of_bind h with h | ⟨_, -, h⟩
            · obtain ⟨rfl, hfaulty⟩ := number_fault hdigit h
              exact ⟨List.suffix_rfl, hfaulty⟩
            · cases h
        · next hdigit =>
            split at h
            · cases h
            · next hword =>
                split at h
                · next hequals =>
                    cases h
                    subst hequals
                    exact ⟨List.suffix_rfl, .loneEquals hsign⟩
                · cases h
                  exact ⟨List.suffix_rfl, .strayCharacter hquote
                    (Bool.eq_false_iff.mpr hdigit) (Bool.eq_false_iff.mpr hword)
                    hsign⟩
  all_goals cases h

/-- With fuel enough for its characters, a text that is refused is faulty where
the fault is. -/
theorem tokensWith_fault {fuel : Nat} {e : SyntaxError}
    (hfuel : cs.length ≤ fuel) (h : tokensWith fuel p cs = .error e) :
    ∃ rest, Leaves p cs e.position rest ∧ Faulty e.fault rest := by
  induction fuel generalizing p cs with
  | zero =>
      rw [List.length_eq_zero_iff.mp (Nat.le_zero.mp hfuel), tokensWith] at h
      cases h
  | succ fuel ih =>
      cases cs with
      | nil =>
          rw [tokensWith] at h
          cases h
      | cons c cs =>
          have hshort : cs.length ≤ fuel := Nat.le_of_succ_le_succ hfuel
          rcases tokensWith_cons h with ⟨-, h⟩ | ⟨_, rest, hnext, hfault⟩
            | ⟨l, rest, hnext, h⟩
          · obtain ⟨rest, hleaves, hfaulty⟩ := ih hshort h
            exact ⟨rest, hleaves.cons, hfaulty⟩
          · cases hfault
            obtain ⟨hend, hfaulty⟩ := next_fault (List.cons_ne_nil c cs) hnext
            exact ⟨rest, .of_suffix hend p, hfaulty⟩
          · have hend : rest <:+ cs := next_suffix hnext
            rcases Parser.error_of_bind h with h | ⟨_, -, h⟩
            · obtain ⟨left, hleaves, hfaulty⟩ := ih (hend.length_le.trans hshort) h
              obtain ⟨text, htext⟩ := hend.trans (List.suffix_cons c cs)
              rw [← htext, byteLength_append, Nat.add_sub_cancel] at hleaves
              rw [← htext]
              exact ⟨left, hleaves.append, hfaulty⟩
            · cases h

end Lexer

-- =================================================================== sources

/-- The bytes of a text where it can be cut between characters. -/
def IsBoundary (source : String) (p : Nat) : Prop :=
  p ≤ source.utf8ByteSize ∧ (⟨p⟩ : String.Pos.Raw).IsValid source

instance (source : String) (p : Nat) : Decidable (IsBoundary source p) :=
  inferInstanceAs (Decidable (_ ∧ _))

/-- The lexeme of a token is written at its place, and ends there. -/
def Token.StandsIn (source : String) (t : Token) : Prop :=
  ∃ text rest, Lexer.Leaves 0 source.toList t.position (text ++ rest)
    ∧ Lexer.Spells t.lexeme text ∧ Lexer.Ends t.lexeme rest

/-- At the place of a fault the text is faulty in this way. -/
def SyntaxError.StandsIn (source : String) (e : SyntaxError) : Prop :=
  ∃ rest, Lexer.Leaves 0 source.toList e.position rest
    ∧ Lexer.Faulty e.fault rest

theorem isBoundary_of_leaves {source : String} {p : Nat} {rest : List Char}
    (h : Lexer.Leaves 0 source.toList p rest) : IsBoundary source p :=
  ⟨h.isValid.le_utf8ByteSize, h.isValid⟩

theorem Token.StandsIn.isBoundary {source : String} {t : Token}
    (h : t.StandsIn source) : IsBoundary source t.position := by
  obtain ⟨_, _, hleaves, -⟩ := h
  exact isBoundary_of_leaves hleaves

theorem SyntaxError.StandsIn.isBoundary {source : String} {e : SyntaxError}
    (h : e.StandsIn source) : IsBoundary source e.position := by
  obtain ⟨_, hleaves, -⟩ := h
  exact isBoundary_of_leaves hleaves

theorem isBoundary_end (source : String) :
    IsBoundary source source.utf8ByteSize := by
  have hleaves : Lexer.Leaves 0 source.toList source.utf8ByteSize [] := by
    refine ⟨source.toList, (List.append_nil _).symm, ?_⟩
    rw [Nat.zero_add, Lexer.byteLength_toList]
  exact isBoundary_of_leaves hleaves

/-- Every token of a text stands where it says. -/
theorem tokenize_standsIn {source : String} {ts : List Token}
    (h : tokenize source = .ok ts) : ∀ t ∈ ts, t.StandsIn source :=
  (tokenize_ok_iff.mp h).leaves

/-- So does the fault of a text that is not cut into tokens. -/
theorem tokenize_error_standsIn {source : String} {e : SyntaxError}
    (h : tokenize source = .error e) : e.StandsIn source :=
  Lexer.tokensWith_fault (Nat.le_refl _) h

/-- A condition is refused for a fault of its text, or else at one of its tokens
or at its end. -/
theorem parse_place {source : String} {e : SyntaxError}
    (h : parse source = .error e) :
    tokenize source = .error e
      ∨ ∃ ts, tokenize source = .ok ts
        ∧ (e.position = source.utf8ByteSize
          ∨ ∃ t ∈ ts, t.position = e.position) := by
  rcases Parser.error_of_bind h with hcut | ⟨ts, hts, hread⟩
  · exact Or.inl hcut
  · exact Or.inr ⟨ts, hts, parseTokens_place hread⟩

/-- The places that reading a condition reports. Tokens stand at ascending bytes
before the end of the text, where their lexemes are written. A fault stands where
the text is faulty, at a token, or at the end. At every one of these bytes the
text can be cut between characters. -/
theorem places_are_boundaries (source : String) :
    (∀ ts, tokenize source = .ok ts →
      (ts.Pairwise fun t u => t.position < u.position)
        ∧ ∀ t ∈ ts, t.position < source.utf8ByteSize
          ∧ IsBoundary source t.position ∧ t.StandsIn source)
    ∧ (∀ e, tokenize source = .error e →
      IsBoundary source e.position ∧ e.StandsIn source)
    ∧ ∀ e, parse source = .error e →
      IsBoundary source e.position
        ∧ (tokenize source = .error e
          ∨ ∃ ts, tokenize source = .ok ts
            ∧ (e.position = source.utf8ByteSize
              ∨ ∃ t ∈ ts, t.position = e.position)) := by
  refine ⟨fun ts hts => ⟨tokenize_ascending hts, fun t ht => ?_⟩,
    fun e he => ?_, fun e he => ?_⟩
  · have hstands := tokenize_standsIn hts t ht
    exact ⟨tokenize_within hts t ht, hstands.isBoundary, hstands⟩
  · have hstands := tokenize_error_standsIn he
    exact ⟨hstands.isBoundary, hstands⟩
  · refine ⟨?_, parse_place he⟩
    rcases parse_place he with hcut | ⟨ts, hts, hend | ⟨t, ht, hplace⟩⟩
    · exact (tokenize_error_standsIn hcut).isBoundary
    · rw [hend]
      exact isBoundary_end source
    · rw [← hplace]
      exact (tokenize_standsIn hts t ht).isBoundary

/-- Letters of two bytes before an operator, in a string that stays open, before
a string too many and before an end that comes too early. -/
theorem places_among_wide_letters :
    (∃ ts, tokenize "'é' == 'ü'" = .ok ts
      ∧ (ts.Pairwise fun t u => t.position < u.position)
      ∧ ts.map (·.position) = [0, 5, 8]
      ∧ ∀ t ∈ ts, IsBoundary "'é' == 'ü'" t.position)
    ∧ (tokenize "'é' == 'ü" = .error ⟨.unterminatedString, 8⟩
      ∧ IsBoundary "'é' == 'ü" 8)
    ∧ (parse "'é' 'ü'" = .error ⟨.leftover (.str "ü"), 5⟩
      ∧ IsBoundary "'é' 'ü'" 5)
    ∧ parse "'é' ==" = .error ⟨.expected .value none, 7⟩
    ∧ IsBoundary "'é' ==" 7 := by
  have hcut : tokenize "'é' == 'ü'"
      = .ok [⟨.str "é", 0⟩, ⟨.eq, 5⟩, ⟨.str "ü", 8⟩] := by
    cbv
  have hopen : tokenize "'é' == 'ü" = .error ⟨.unterminatedString, 8⟩ := by cbv
  have hmany : parse "'é' 'ü'" = .error ⟨.leftover (.str "ü"), 5⟩ := by cbv
  have hearly : parse "'é' ==" = .error ⟨.expected .value none, 7⟩ := by cbv
  obtain ⟨hascending, hwithin⟩ := (places_are_boundaries _).1 _ hcut
  exact ⟨⟨_, hcut, hascending, rfl, fun t ht => (hwithin t ht).2.1⟩,
    ⟨hopen, ((places_are_boundaries _).2.1 _ hopen).1⟩,
    ⟨hmany, ((places_are_boundaries _).2.2 _ hmany).1⟩,
    hearly, ((places_are_boundaries _).2.2 _ hearly).1⟩

-- Inside of a letter a text cannot be cut.
example : ¬ IsBoundary "é" 1 := by decide

end Condition

end HookRules
