/-
Where tokens stand.

Each lexeme takes at least one character from the text, so what is cut off next
starts at a later byte (`next_suffix`, `byteLength_le_of_suffix`). Along the
tokens of a text the positions ascend, and the first of some tokens is the one
that stands leftmost.
-/
import HookRules.Proofs.Condition.Soundness
import Mathlib.Data.List.TakeDrop

namespace HookRules

namespace Condition

namespace Lexer

-- ========================================================== what is left over

/-- What follows the longest run of some characters is an end of the text after
the first of them. -/
theorem span_suffix {p : Char → Bool} {c : Char} (hc : p c = true)
    (cs : List Char) : ((c :: cs).span p).2 <:+ cs := by
  rw [List.span_eq_takeWhile_dropWhile, List.dropWhile_cons_of_pos hc]
  exact List.dropWhile_suffix p

/-- What starts a word continues it. -/
theorem continuesWord_of_startsWord {c : Char} (h : startsWord c = true) :
    continuesWord c = true := by
  unfold startsWord Text.isLetter at h
  unfold continuesWord Text.isLetterOrNumber
  split at h
  · next hascii =>
      rw [if_pos hascii]
      simp only [Char.isAlphanum, Bool.or_eq_true] at h ⊢
      exact h.imp_left Or.inl
  · next hascii =>
      rw [if_neg hascii]
      simp only [Bool.or_eq_true] at h ⊢
      exact h.imp_left Or.inl

theorem stringBody_suffix {quote : Char} {whole cs body rest : List Char}
    (h : stringBody quote whole cs = .ok (body, rest)) : rest <:+ cs := by
  fun_induction stringBody quote whole cs generalizing body with
  | case1 => cases h
  | case2 => cases h
  | case3 c more ih =>
      obtain ⟨⟨_, _⟩, hbody, hret⟩ := Parser.ok_of_bind h
      cases hret
      exact (ih hbody).trans
        ((List.suffix_cons _ _).trans (List.suffix_cons _ _))
  | case4 c more =>
      cases h
      exact List.suffix_cons _ _
  | case5 c more _ _ _ ih =>
      obtain ⟨⟨_, _⟩, hbody, hret⟩ := Parser.ok_of_bind h
      cases hret
      exact (ih hbody).trans (List.suffix_cons _ _)

theorem number_suffix {c : Char} {cs rest : List Char} {n : Number}
    (hc : c.isDigit = true) (h : number (c :: cs) = .ok (n, rest)) :
    rest <:+ cs := by
  have hwhole := span_suffix hc cs
  unfold number at h
  split at h
  next whole after hspan =>
    rw [hspan] at hwhole
    have hinteger : (if Decimal.ofDigits whole < Nat.pow 2 63
        then .ok (.int (Decimal.ofDigits whole), after)
        else .error (.badNumber (String.ofList whole), c :: cs) : Step _)
          = .ok (n, rest) → rest <:+ cs := by
      intro heq
      split at heq
      · cases heq
        exact hwhole
      · cases heq
    dsimp only at h
    split at h
    · split at h
      · next d more hd =>
          have hfraction := span_suffix hd more
          split at h
          · cases h
            exact hfraction.trans ((List.suffix_cons _ _).trans
              ((List.suffix_cons _ _).trans hwhole))
          · cases h
      · exact hinteger h
    · exact hinteger h

/-- A lexeme takes the first character of the text, if no more. -/
theorem next_suffix {cs rest : List Char} {l : Lexeme}
    (h : next cs = .ok (l, rest)) : rest <:+ cs.tail := by
  unfold next at h
  split at h
  case h_1 => cases h
  -- signs of two characters
  case h_2 | h_3 | h_4 | h_5 | h_6 | h_7 | h_8 =>
    cases h
    exact List.suffix_cons _ _
  -- signs of one
  case h_9 | h_10 | h_11 | h_12 | h_13 | h_14 | h_15 | h_16 | h_17 | h_18
      | h_19 =>
    cases h
    exact List.suffix_rfl
  -- texts, numbers and words
  case h_20 =>
    split at h
    · obtain ⟨⟨_, _⟩, hbody, hret⟩ := Parser.ok_of_bind h
      cases hret
      exact stringBody_suffix hbody
    · split at h
      · next hdigit =>
          obtain ⟨⟨_, _⟩, hnumber, hret⟩ := Parser.ok_of_bind h
          cases hret
          exact number_suffix hdigit hnumber
      · split at h
        · next hword =>
            cases h
            exact span_suffix (continuesWord_of_startsWord hword) _
        · split at h
          · cases h
          · cases h

-- ============================================================== positions

theorem byteLength_le_of_suffix {cs rest : List Char} (h : rest <:+ cs) :
    byteLength rest ≤ byteLength cs := by
  obtain ⟨front, rfl⟩ := h
  induction front with
  | nil => exact Nat.le_refl _
  | cons c front ih => exact Nat.le_trans ih (Nat.le_add_left _ _)

/-- What the loop does at a character. It goes on behind a blank, it ends where no
lexeme is cut off, and it goes on behind a lexeme. -/
theorem tokensWith_cons {fuel position : Nat} {c : Char} {cs : List Char}
    {result : Except SyntaxError (List Token)}
    (h : tokensWith (fuel + 1) position (c :: cs) = result) :
    Text.isBlank c = true ∧ tokensWith fuel (position + c.utf8Size) cs = result
      ∨ (∃ fault rest, next (c :: cs) = .error (fault, rest)
        ∧ result = .error
          ⟨fault, position + (byteLength (c :: cs) - byteLength rest)⟩)
      ∨ ∃ l rest, next (c :: cs) = .ok (l, rest)
        ∧ (do
          let tokens ← tokensWith fuel
            (position + (byteLength (c :: cs) - byteLength rest)) rest
          return ⟨l, position⟩ :: tokens) = result := by
  unfold tokensWith at h
  split at h
  · next hblank => exact Or.inl ⟨hblank, h⟩
  · dsimp only at h
    split at h
    · next fault rest hnext => exact Or.inr (Or.inl ⟨fault, rest, hnext, h.symm⟩)
    · next l rest hnext => exact Or.inr (Or.inr ⟨l, rest, hnext, h⟩)

/-- The tokens of a text stand one after the other from where it starts. -/
theorem tokensWith_places {fuel position : Nat} {cs : List Char}
    {ts : List Token} (h : tokensWith fuel position cs = .ok ts) :
    (∀ t ∈ ts, position ≤ t.position)
      ∧ ts.Pairwise fun t u => t.position < u.position := by
  induction fuel generalizing position cs ts with
  | zero =>
      cases cs with
      | nil =>
          cases h
          exact ⟨nofun, List.Pairwise.nil⟩
      | cons c cs => cases h
  | succ fuel ih =>
      cases cs with
      | nil =>
          cases h
          exact ⟨nofun, List.Pairwise.nil⟩
      | cons c cs =>
          rcases tokensWith_cons h with ⟨-, h⟩ | ⟨_, _, -, hfault⟩
            | ⟨l, rest, hnext, h⟩
          · obtain ⟨hafter, hpairs⟩ := ih h
            exact ⟨fun t ht => Nat.le_of_add_right_le (hafter t ht), hpairs⟩
          · cases hfault
          · obtain ⟨more, hmore, hret⟩ := Parser.ok_of_bind h
            cases hret
            obtain ⟨hafter, hpairs⟩ := ih hmore
            have hrest : byteLength rest ≤ byteLength cs :=
              byteLength_le_of_suffix (next_suffix hnext)
            have hlater : position
                < position + (byteLength (c :: cs) - byteLength rest) := by
              have hsize := c.utf8Size_pos
              rw [byteLength]
              omega
            refine ⟨?_, List.pairwise_cons.mpr ⟨?_, hpairs⟩⟩
            · intro t ht
              rcases List.mem_cons.mp ht with rfl | ht
              · exact Nat.le_refl _
              · exact Nat.le_trans (Nat.le_of_lt hlater) (hafter t ht)
            · intro t ht
              exact Nat.lt_of_lt_of_le hlater (hafter t ht)

end Lexer

/-- The positions of the tokens of a condition ascend. -/
theorem tokenize_ascending {source : String} {ts : List Token}
    (h : tokenize source = .ok ts) :
    ts.Pairwise fun t u => t.position < u.position :=
  (Lexer.tokensWith_places h).2

end Condition

end HookRules
