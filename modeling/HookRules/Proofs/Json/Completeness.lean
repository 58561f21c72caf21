/-
Every JSON text is read.

The reader is a machine that takes the tokens of a text. `Runs` says that it gets
from one state to another by the characters in between, and it is built from the end
of a text to its start: a blank changes nothing, a token is one step (`Runs.token`).

# The invariant

What a phrase does to the machine does not depend on what is open around it
(`Phrase.IsRead`). A value takes a machine that waits for one to where the value is
finished, whatever follows, if what follows ends a number; items and fields take it
from the open bracket to the closing one, where the parts that were there before come
first. That each phrase of the grammar does so is the induction of
`isRead_of_spells`, one case for each rule. The frames on the stack and the levels of
the value share the bound of the reader, so the machine can always open what the
value needs.
-/
import HookRules.Json.Reader
import HookRules.Proofs.Json.Grammar

namespace HookRules

namespace Json

-- ==================================================================== tokens

namespace Token

/-- A string is read to what it spells. -/
theorem string?_chars {s cs : List Char} (h : SpellsChars s cs)
    (rest : List Char) : string? (cs ++ '"' :: rest) = some (s, rest) := by
  induction h with
  | nil => rfl
  | plain hquote hescape hcontrol h ih =>
      rw [List.cons_append, string?, if_neg (Nat.not_lt.mpr hcontrol), ih]
      · rfl
      · exact hquote
      · exact fun _ _ _ _ _ h => absurd h hescape
      · exact fun _ _ h => absurd h hescape
  | @short e c s cs he h ih =>
      have hu : e ≠ 'u' := by rintro rfl; cases he
      rw [List.cons_append, List.cons_append, string?, he, ih]
      · rfl
      · exact fun _ _ _ _ _ h => absurd h hu
  | @code a b c d n s cs hn hwhole h ih =>
      simp only [List.cons_append]
      rw [string?, hn]
      dsimp only
      rw [if_neg (by omega), if_neg (by omega), ih]
      rfl
  | pair hhi hfirst hlo hsecond h ih =>
      simp only [List.cons_append]
      rw [string?, hhi]
      dsimp only
      rw [if_pos hfirst]
      simp only [hlo]
      rw [if_pos hsecond, ih]
      rfl

/-- A sign or a digit starts no other token. -/
theorem next?_of_numeral {c : Char} (hc : c = '-' ∨ c.isDigit = true)
    (cs : List Char) :
    next? (c :: cs) = (number? (c :: cs)).map fun (n, r) => (.num n, r) := by
  unfold next?
  split
  all_goals first
    | rfl
    | next heq =>
        obtain ⟨rfl, -⟩ := List.cons.inj heq
        exact absurd hc (by decide)

/-- A number is a token by itself. -/
theorem next?_number (l : Numeral) {n : Number} (h : l.number? = some n)
    {rest : List Char} (hrest : EndsNumber rest) :
    next? (l.chars ++ rest) = some (.num n, rest) := by
  have hnumber := l.number?_chars hrest
  obtain ⟨c, cs, hchars, hc⟩ := l.chars_eq_cons
  rw [hchars, List.cons_append] at hnumber ⊢
  rw [next?_of_numeral hc, hnumber, h]
  rfl

end Token

-- =================================================================== the runs

/-- A text is cut into these tokens, with fuel for each character. -/
def Scans (cs : List Char) (tokens : List Token) : Prop :=
  ∀ fuel, cs.length ≤ fuel → Token.scanWith fuel cs = some tokens

/-- The machine gets from one state to another by some text. -/
def Runs (st : Reader.State) (cs : List Char) (final : Reader.State) : Prop :=
  ∃ tokens, Scans cs tokens ∧ tokens.foldlM Reader.State.step st = some final

namespace Runs

variable {st st' final : Reader.State} {cs rest : List Char}

theorem nil (st : Reader.State) : Runs st [] st := by
  refine ⟨[], ?_, rfl⟩
  intro fuel _
  cases fuel <;> rfl

/-- Blanks change nothing. -/
theorem space {b : List Char} (hb : IsSpace b) (h : Runs st rest final) :
    Runs st (b ++ rest) final := by
  obtain ⟨tokens, hscan, hsteps⟩ := h
  refine ⟨tokens, ?_, hsteps⟩
  induction b with
  | nil => exact hscan
  | cons c b ih =>
      obtain ⟨hc, hb⟩ := List.forall_mem_cons.mp hb
      intro fuel hfuel
      cases fuel with
      | zero => cases hfuel
      | succ fuel =>
          rw [List.cons_append, Token.scanWith, if_pos hc]
          exact ih hb fuel (Nat.le_of_succ_le_succ hfuel)

/-- A token is one step. -/
theorem token {c : Char} {w : List Char} {t : Token}
    (ht : Token.next? (c :: w ++ rest) = some (t, rest))
    (hc : Token.isSpace c = false) (hstep : st.step t = some st')
    (h : Runs st' rest final) : Runs st (c :: w ++ rest) final := by
  obtain ⟨tokens, hscan, hsteps⟩ := h
  refine ⟨t :: tokens, ?_, ?_⟩
  · intro fuel hfuel
    cases fuel with
    | zero => cases hfuel
    | succ fuel =>
        have hlength : rest.length ≤ fuel := by
          rw [List.cons_append, List.length_cons, List.length_append] at hfuel
          omega
        rw [List.cons_append] at ht ⊢
        rw [Token.scanWith, hc, if_neg Bool.false_ne_true, ht]
        dsimp only
        rw [hscan fuel hlength]
        rfl
  · rw [List.foldlM_cons, hstep]
    exact hsteps

/-- A token of one character. -/
theorem sign {c : Char} {t : Token} (ht : Token.next? (c :: rest) = some (t, rest))
    (hc : Token.isSpace c = false) (hstep : st.step t = some st')
    (h : Runs st' rest final) : Runs st (c :: rest) final :=
  .token (w := []) ht hc hstep h

/-- A string is one token. -/
theorem string {s : String} {ks : List Char} (hs : SpellsChars s.toList ks)
    (hstep : st.step (.str s) = some st') (h : Runs st' rest final) :
    Runs st ('"' :: (ks ++ '"' :: rest)) final := by
  have ht : Token.next? ('"' :: (ks ++ ['"']) ++ rest)
      = some (.str s, rest) := by
    rw [List.cons_append, List.append_assoc, List.singleton_append, Token.next?,
      Token.string?_chars hs, Option.map_some]
    dsimp only
    rw [String.ofList_toList]
  have hrun := Runs.token ht rfl hstep h
  rwa [List.cons_append, List.append_assoc, List.singleton_append] at hrun

end Runs

-- ============================================================ the invariant

open Reader (State Frame Expect maxNesting)

/-- The machine waits for a value. -/
def Reader.State.WantsValue (st : State) : Prop :=
  st.expect = .value ∨ st.expect = .item

/-- The machine waits for a name. -/
def Reader.Expect.IsName (e : Expect) : Prop := e = .name ∨ e = .nextName

theorem Reader.State.WantsValue.step {st : State} (h : st.WantsValue) {t : Token}
    (ht : t ≠ .closeBracket) : st.step t = st.startValue t := by
  obtain ⟨stack, expect, last⟩ := st
  unfold Reader.State.step
  rcases h with rfl | rfl
  · rfl
  · cases t with
    | closeBracket => exact absurd rfl ht
    | _ => rfl

theorem Reader.State.push_of_lt {st : State} (h : st.stack.length < maxNesting)
    (f : Frame) (e : Expect) :
    st.push f e = some { st with stack := f :: st.stack, expect := e } :=
  if_pos h

/-- What the machine does with a phrase, as long as it may open what is in it. -/
def Phrase.IsRead : Phrase → List Char → Prop
  | .value v, cs | .padded v, cs =>
    ∀ ⦃n : Nat⦄ ⦃st : State⦄ ⦃rest : List Char⦄ ⦃final : State⦄,
      v.NestsWithin n → n + st.stack.length ≤ maxNesting → st.WantsValue →
      EndsNumber rest → Runs (st.finish v) rest final →
      Runs st (cs ++ rest) final
  | .field name v, cs =>
    ∀ ⦃n : Nat⦄ ⦃done other tail e last⦄ ⦃rest : List Char⦄ ⦃final : State⦄,
      v.NestsWithin n → n + tail.length < maxNesting → e.IsName →
      EndsNumber rest → Runs ⟨.fields done name :: tail, .next, v⟩ rest final →
      Runs ⟨.fields done other :: tail, e, last⟩ (cs ++ rest) final
  | .items vs, cs =>
    ∀ ⦃n : Nat⦄ ⦃done tail e last⦄ ⦃rest : List Char⦄ ⦃final : State⦄,
      (∀ v ∈ vs, v.NestsWithin n) → n + tail.length < maxNesting →
      (e = .value ∨ e = .item) →
      Runs ⟨tail, .next, .arr (done.reverse ++ vs)⟩ rest final →
      Runs ⟨.items done :: tail, e, last⟩ (cs ++ ']' :: rest) final
  | .fields fs, cs =>
    ∀ ⦃n : Nat⦄ ⦃done other tail e last⦄ ⦃rest : List Char⦄ ⦃final : State⦄,
      (∀ f ∈ fs, f.2.NestsWithin n) → n + tail.length < maxNesting →
      e.IsName → Runs ⟨tail, .next, .obj (done.reverse ++ fs)⟩ rest final →
      Runs ⟨.fields done other :: tail, e, last⟩ (cs ++ '}' :: rest) final

theorem isSpace_of_isDigit {c : Char} (h : c.isDigit = true) :
    Token.isSpace c = false := by
  unfold Token.isSpace
  simp only [Bool.or_eq_false_iff, beq_eq_false_iff_ne]
  refine ⟨⟨⟨?_, ?_⟩, ?_⟩, ?_⟩
  all_goals
    rintro rfl
    cases h

theorem EndsNumber.space {b rest : List Char} (hb : IsSpace b)
    (h : EndsNumber rest) : EndsNumber (b ++ rest) := by
  cases b with
  | nil => exact h
  | cons c b =>
      have hc := hb c (List.mem_cons_self ..)
      refine .cons ?_ ?_ ?_ ?_ _
      · by_contra hdigit
        rw [isSpace_of_isDigit (Bool.eq_true_of_not_eq_false hdigit)] at hc
        cases hc
      · rintro rfl; cases hc
      · rintro rfl; cases hc
      · rintro rfl; cases hc

theorem EndsNumber.comma (rest : List Char) : EndsNumber (',' :: rest) :=
  .cons rfl (by decide) (by decide) (by decide) rest

theorem EndsNumber.bracket (rest : List Char) : EndsNumber (']' :: rest) :=
  .cons rfl (by decide) (by decide) (by decide) rest

theorem EndsNumber.brace (rest : List Char) : EndsNumber ('}' :: rest) :=
  .cons rfl (by decide) (by decide) (by decide) rest

section Phrases

variable {st : State} {rest : List Char} {final : State}

/-- A value of one token. -/
theorem Runs.scalar {c : Char} {w : List Char} {t : Token} {v : Json}
    (ht : Token.next? (c :: w ++ rest) = some (t, rest))
    (hc : Token.isSpace c = false)
    (hv : st.startValue t = some (st.finish v)) (hopen : t ≠ .closeBracket)
    (hst : st.WantsValue) (h : Runs (st.finish v) rest final) :
    Runs st (c :: w ++ rest) final :=
  .token ht hc ((hst.step hopen).trans hv) h

/-- An array or object is opened, if there is room for it. -/
theorem Runs.opening {c : Char} {t : Token} {f : Frame} {e : Expect}
    (ht : Token.next? (c :: rest) = some (t, rest))
    (hc : Token.isSpace c = false) (hv : st.startValue t = st.push f e)
    (hopen : t ≠ .closeBracket) (hroom : st.stack.length < maxNesting)
    (hst : st.WantsValue) (h : Runs ⟨f :: st.stack, e, st.last⟩ rest final) :
    Runs st (c :: rest) final :=
  .sign ht hc (((hst.step hopen).trans hv).trans (st.push_of_lt hroom f e)) h

end Phrases

/-- Every phrase is read. -/
theorem isRead_of_spells {p : Phrase} {cs : List Char} (h : Spells p cs) :
    p.IsRead cs := by
  induction h with
  | null =>
      intro n st rest final _ _ hst _ h
      exact .scalar (t := .null) rfl rfl rfl nofun hst h
  | true =>
      intro n st rest final _ _ hst _ h
      exact .scalar (t := .bool true) rfl rfl rfl nofun hst h
  | false =>
      intro n st rest final _ _ hst _ h
      exact .scalar (t := .bool false) rfl rfl rfl nofun hst h
  | num l hl =>
      intro n st rest final _ _ hst hrest h
      have ht := Token.next?_number l hl hrest
      obtain ⟨c, w, hchars, hc⟩ := l.chars_eq_cons
      have hspace : Token.isSpace c = false := by
        rcases hc with rfl | hdigit
        · rfl
        · exact isSpace_of_isDigit hdigit
      rw [hchars] at ht ⊢
      exact .scalar ht hspace rfl nofun hst h
  | str hs =>
      intro n st rest final _ _ hst _ h
      simp only [List.cons_append, List.append_assoc, List.nil_append]
      exact .string hs (hst.step nofun) h
  | noItems hb =>
      intro n st rest final hn hstack hst _ h
      simp only [List.cons_append, List.append_assoc, List.nil_append]
      cases n with
      | zero => exact absurd hn id
      | succ n =>
          refine .opening rfl rfl rfl nofun (by omega) hst (.space hb ?_)
          exact .sign rfl rfl rfl h
  | arr hvs ih =>
      intro n st rest final hn hstack hst _ h
      simp only [List.cons_append, List.append_assoc, List.nil_append]
      cases n with
      | zero => exact absurd hn id
      | succ n =>
          refine .opening rfl rfl rfl nofun (by omega) hst ?_
          exact ih hn (by omega) (Or.inr rfl) h
  | noFields hb =>
      intro n st rest final hn hstack hst _ h
      simp only [List.cons_append, List.append_assoc, List.nil_append]
      cases n with
      | zero => exact absurd hn id
      | succ n =>
          refine .opening rfl rfl rfl nofun (by omega) hst (.space hb ?_)
          exact .sign rfl rfl rfl h
  | obj hfs ih =>
      intro n st rest final hn hstack hst _ h
      simp only [List.cons_append, List.append_assoc, List.nil_append]
      cases n with
      | zero => exact absurd hn id
      | succ n =>
          refine .opening rfl rfl rfl nofun (by omega) hst ?_
          exact ih hn (by omega) (Or.inl rfl) h
  | padded hb hv hd ih =>
      intro n st rest final hn hstack hst hrest h
      simp only [List.append_assoc]
      exact .space hb (ih hn hstack hst (hrest.space hd) (.space hd h))
  | @field name v b ks d cs hb hname hd hv ih =>
      intro n done other tail e last rest final hn hstack he hrest h
      simp only [List.cons_append, List.append_assoc]
      have hstep : State.step ⟨.fields done other :: tail, e, last⟩ (.str name)
          = some ⟨.fields done name :: tail, .colon, last⟩ := by
        rcases he with rfl | rfl <;> rfl
      refine .space hb (.string hname hstep (.space hd (.sign rfl rfl rfl ?_)))
      exact ih hn hstack (Or.inl rfl) hrest h
  | lastItem hv ih =>
      intro n done tail e last rest final hn hstack he h
      refine ih (hn _ (List.mem_singleton_self _)) hstack he
        (.bracket rest) (.sign rfl rfl rfl ?_)
      rw [List.reverse_cons]
      exact h
  | item hv hrest ih ihrest =>
      intro n done tail e last rest final hn hstack he h
      obtain ⟨hv, hvs⟩ := List.forall_mem_cons.mp hn
      rw [List.append_assoc, List.cons_append]
      refine ih hv hstack he (.comma _) (.sign rfl rfl rfl ?_)
      refine ihrest hvs hstack (Or.inl rfl) ?_
      rw [List.reverse_cons, List.append_assoc]
      exact h
  | lastField hf ih =>
      intro n done other tail e last rest final hn hstack he h
      refine ih (hn _ (List.mem_singleton_self _)) hstack he (.brace rest)
        (.sign rfl rfl rfl ?_)
      rw [List.reverse_cons]
      exact h
  | moreFields hf hrest ih ihrest =>
      intro n done other tail e last rest final hn hstack he h
      obtain ⟨hv, hfs⟩ := List.forall_mem_cons.mp hn
      rw [List.append_assoc, List.cons_append]
      refine ih hv hstack he (.comma _) (.sign rfl rfl rfl ?_)
      refine ihrest hfs hstack (Or.inr rfl) ?_
      rw [List.reverse_cons, List.append_assoc]
      exact h

/-- A text that spells a value is read to that value, fields as they were written,
if it does not go deeper than the reader. -/
theorem written?_of_spells {v : Json} {cs : List Char}
    (h : Spells (.padded v) cs) (hv : v.NestsWithin maxNesting) :
    written? (String.ofList cs) = some v := by
  have hrun : Runs ⟨[], .value, .null⟩ (cs ++ []) ⟨[], .next, v⟩ :=
    isRead_of_spells h hv (Nat.le_refl _) (Or.inl rfl) .nil (.nil _)
  rw [List.append_nil] at hrun
  obtain ⟨tokens, hscan, hsteps⟩ := hrun
  unfold written? Token.scan
  rw [String.toList_ofList, hscan _ (Nat.le_refl _)]
  dsimp only [Option.bind_eq_bind, Option.bind_some]
  rw [hsteps]
  rfl

end Json

end HookRules
