/-
Filling a template as one scan.

What is filled into a template is told without the function that does it. A scan
cuts a text into pieces: characters that are copied and placeholders
(`IsScan`). A placeholder has identifiers for its names, and a character is
copied only if no placeholder starts there, so the placeholders of a scan are
those that are found when the text is searched from left to right. A text has one
scan and no other (`IsScan.unique`), because what starts at a place is a
placeholder in at most one way (`placeholder?_eq_some_iff`).

The scan is of the template alone. A context decides what each placeholder is
replaced by, but not which pieces there are, and so nothing that is inserted can
become a placeholder or be part of one (`fill_replaces_placeholders`).

A template that opens no placeholder is given back unread. Its scan copies every
character (`isScan_map_copied`), so this is what replacing its pieces would give,
and `fill_eq_flatMap` tells filling in one way for all templates.
-/
import HookRules.Condition.Eval
import HookRules.Template
import Mathlib.Data.List.TakeDrop
import Mathlib.Data.List.TakeWhile

namespace HookRules

namespace Template

-- ================================================================= identifiers

/-- The letters of identifiers. -/
def IsLetter (c : Char) : Prop :=
  ('a' ≤ c ∧ c ≤ 'z') ∨ ('A' ≤ c ∧ c ≤ 'Z') ∨ c = '_'

/-- The digits of identifiers. -/
def IsDigit (c : Char) : Prop := '0' ≤ c ∧ c ≤ '9'

/-- A letter, followed by letters and digits. -/
def IsIdentifier (cs : List Char) : Prop :=
  ∃ c rest, cs = c :: rest ∧ IsLetter c ∧ ∀ d ∈ rest, IsLetter d ∨ IsDigit d

theorem startsName_iff (c : Char) : startsName c = true ↔ IsLetter c := by
  unfold startsName Char.isAlpha Char.isUpper Char.isLower IsLetter
  simp only [Bool.or_eq_true, Bool.and_eq_true, decide_eq_true_eq, beq_iff_eq]
  rw [or_comm (a := 'A'.val ≤ _ ∧ _), or_assoc]
  rfl

theorem continuesName_iff (c : Char) :
    continuesName c = true ↔ IsLetter c ∨ IsDigit c := by
  rw [← startsName_iff]
  unfold continuesName startsName Char.isAlphanum Char.isDigit IsDigit
  simp only [Bool.or_eq_true, Bool.and_eq_true, decide_eq_true_eq]
  rw [or_right_comm]
  rfl

/-- A name at the front of a text is an identifier that what follows does not
continue. -/
theorem name?_eq_some_iff {text name rest : List Char} :
    name? text = some (name, rest)
      ↔ IsIdentifier name ∧ text = name ++ rest
        ∧ ∀ c ∈ rest.head?, continuesName c = false := by
  constructor
  · intro h
    cases text with
    | nil => cases h
    | cons c cs =>
        rw [name?] at h
        split at h
        · next hstart =>
            rw [List.span_eq_takeWhile_dropWhile] at h
            obtain ⟨rfl, rfl⟩ := Prod.mk.inj (Option.some.inj h)
            have hletter := (startsName_iff c).mp hstart
            have hcontinues : continuesName c = true :=
              (continuesName_iff c).mpr (Or.inl hletter)
            refine ⟨⟨c, cs.takeWhile continuesName, ?_, hletter, ?_⟩,
              List.takeWhile_append_dropWhile.symm, ?_⟩
            · rw [List.takeWhile_cons_of_pos hcontinues]
            · intro d hd
              exact (continuesName_iff d).mp (List.mem_takeWhile_imp hd)
            · intro d hd
              have hstop := List.head?_dropWhile_not continuesName (c :: cs)
              rw [Option.mem_def.mp hd] at hstop
              exact hstop
        · cases h
  · rintro ⟨⟨c, cs, rfl, hletter, hcs⟩, rfl, hstop⟩
    have hinside : ∀ d ∈ c :: cs, continuesName d = true := by
      intro d hd
      rcases List.mem_cons.mp hd with rfl | hd
      · exact (continuesName_iff d).mpr (Or.inl hletter)
      · exact (continuesName_iff d).mpr (hcs d hd)
    have hrest : rest.takeWhile continuesName = []
        ∧ rest.dropWhile continuesName = rest := by
      cases rest with
      | nil => exact ⟨rfl, rfl⟩
      | cons d rest =>
          have hd : ¬ continuesName d = true := by
            rw [hstop d rfl]
            decide
          exact ⟨List.takeWhile_cons_of_neg hd, List.dropWhile_cons_of_neg hd⟩
    rw [List.cons_append, name?, if_pos ((startsName_iff c).mpr hletter),
      List.span_eq_takeWhile_dropWhile, ← List.cons_append,
      List.takeWhile_append_of_pos hinside, List.dropWhile_append_of_pos hinside,
      hrest.1, hrest.2, List.append_nil]

-- ================================================================= placeholders

/-- The text of a placeholder after its name. -/
def fieldPart : Option (List Char) → List Char
  | none => []
  | some field => '.' :: field

/-- A placeholder as it stands in a template. -/
def Placeholder.written (p : Placeholder) : List Char :=
  '$' :: '\x7b' :: (p.name ++ (fieldPart p.field ++ ['\x7d']))

/-- The names of a placeholder are identifiers. -/
structure Placeholder.WellFormed (p : Placeholder) : Prop where
  name : IsIdentifier p.name
  field : ∀ field, p.field = some field → IsIdentifier field

theorem Placeholder.length_written (p : Placeholder) :
    p.written.length = p.length := by
  obtain ⟨name, field⟩ := p
  cases field <;> simp [written, fieldPart, length] <;> omega

/-- What starts a text is a placeholder in at most one way, and `placeholder?`
finds it. -/
theorem placeholder?_eq_some_iff {text : List Char} {p : Placeholder} :
    placeholder? text = some p ↔ p.WellFormed ∧ p.written <+: text := by
  constructor
  · intro h
    unfold placeholder? at h
    split at h
    · next rest =>
        split at h
        · next name tail hname =>
            cases h
            obtain ⟨hid, rfl, -⟩ := name?_eq_some_iff.mp hname
            exact ⟨⟨hid, nofun⟩, tail, by simp [Placeholder.written, fieldPart]⟩
        · next name rest' hname =>
            obtain ⟨hid, rfl, -⟩ := name?_eq_some_iff.mp hname
            split at h
            · next field tail hfield =>
                cases h
                obtain ⟨hfid, rfl, -⟩ := name?_eq_some_iff.mp hfield
                refine ⟨⟨hid, ?_⟩, tail,
                  by simp [Placeholder.written, fieldPart]⟩
                rintro _ ⟨⟩
                exact hfid
            · cases h
        · cases h
    · cases h
  · rintro ⟨⟨hid, hfid⟩, tail, rfl⟩
    obtain ⟨name, field⟩ := p
    cases field with
    | none =>
        have hname : name? (name ++ '\x7d' :: tail)
            = some (name, '\x7d' :: tail) := by
          refine name?_eq_some_iff.mpr ⟨hid, rfl, ?_⟩
          rintro _ ⟨⟩
          decide
        simp [Placeholder.written, fieldPart, placeholder?, hname]
    | some field =>
        have hfield : name? (field ++ '\x7d' :: tail)
            = some (field, '\x7d' :: tail) := by
          refine name?_eq_some_iff.mpr ⟨hfid field rfl, rfl, ?_⟩
          rintro _ ⟨⟩
          decide
        have hname : name? (name ++ '.' :: (field ++ '\x7d' :: tail))
            = some (name, '.' :: (field ++ '\x7d' :: tail)) := by
          refine name?_eq_some_iff.mpr ⟨hid, rfl, ?_⟩
          rintro _ ⟨⟩
          decide
        simp [Placeholder.written, fieldPart, placeholder?, hname, hfield]

-- ======================================================================= scans

/-- A part of a template. -/
inductive Piece where
  | copied (c : Char)
  | placeholder (p : Placeholder)

/-- A part as it stands in the template. -/
def Piece.written : Piece → List Char
  | .copied c => [c]
  | .placeholder p => p.written

/-- How a value is shown in a text: nothing for null, a text as it is, and
anything else as compact JSON. -/
def shown : Json → List Char
  | .null => []
  | .str s => s.toList
  | v => v.chars

/-- The steps of the path that a placeholder spells. -/
def Placeholder.steps (p : Placeholder) : List Condition.Segment :=
  (p.field.map fun field => .key (String.ofList field)).toList

/-- What a part is replaced by: a placeholder by the value of its path. -/
def Piece.filled (ctx : Fields) : Piece → List Char
  | .copied c => [c]
  | .placeholder p =>
      shown (Condition.resolve ctx (String.ofList p.name) p.steps)

/-- Pieces that a search for placeholders from left to right cuts a text into. -/
structure IsScan (pieces : List Piece) (text : List Char) : Prop where
  written : pieces.flatMap Piece.written = text
  wellFormed : ∀ p, .placeholder p ∈ pieces → p.WellFormed
  /-- No placeholder starts at a character that is copied. -/
  leftmost : ∀ before c after, pieces = before ++ .copied c :: after →
    ∀ p : Placeholder, p.WellFormed →
      ¬ p.written <+: c :: after.flatMap Piece.written

namespace IsScan

variable {pieces : List Piece} {text : List Char}

theorem nil : IsScan [] [] :=
  ⟨rfl, nofun, fun before _ _ h => by cases before <;> cases h⟩

/-- A scan goes on to the left with a character at which no placeholder
starts. -/
theorem copied {c : Char} (h : IsScan pieces text)
    (hc : placeholder? (c :: text) = none) :
    IsScan (.copied c :: pieces) (c :: text) := by
  refine ⟨?_, ?_, ?_⟩
  · rw [List.flatMap_cons, h.written]
    rfl
  · intro p hp
    rcases List.mem_cons.mp hp with hp | hp
    · cases hp
    · exact h.wellFormed p hp
  · intro before d after hsplit p hp
    cases before with
    | nil =>
        obtain ⟨hd, rfl⟩ := List.cons.inj hsplit
        cases hd
        rw [h.written]
        intro hprefix
        rw [placeholder?_eq_some_iff.mpr ⟨hp, hprefix⟩] at hc
        cases hc
    | cons b before =>
        exact h.leftmost before d after (List.cons.inj hsplit).2 p hp

/-- A scan goes on to the left with a placeholder. -/
theorem placeholder {p : Placeholder} (h : IsScan pieces text)
    (hp : p.WellFormed) :
    IsScan (.placeholder p :: pieces) (p.written ++ text) := by
  refine ⟨?_, ?_, ?_⟩
  · rw [List.flatMap_cons, h.written]
    rfl
  · intro q hq
    rcases List.mem_cons.mp hq with hq | hq
    · cases hq
      exact hp
    · exact h.wellFormed q hq
  · intro before c after hsplit q hq
    cases before with
    | nil => cases hsplit
    | cons b before =>
        exact h.leftmost before c after (List.cons.inj hsplit).2 q hq

/-- What follows the first piece of a scan is the scan of what follows it. -/
theorem tail {piece : Piece} (h : IsScan (piece :: pieces) text) :
    IsScan pieces (pieces.flatMap Piece.written) := by
  refine ⟨rfl, fun p hp => h.wellFormed p (List.mem_cons_of_mem _ hp), ?_⟩
  intro before c after hsplit
  exact h.leftmost (piece :: before) c after (congrArg (piece :: ·) hsplit)

/-- The first piece of a scan is the placeholder that starts the text, or the
first character if there is none. -/
theorem head {piece : Piece} (h : IsScan (piece :: pieces) text) :
    (∃ p, piece = .placeholder p ∧ placeholder? text = some p)
      ∨ ∃ c, piece = .copied c ∧ text.head? = some c
        ∧ placeholder? text = none := by
  have htext := h.written
  rw [List.flatMap_cons] at htext
  cases piece with
  | placeholder p =>
      refine Or.inl ⟨p, rfl, placeholder?_eq_some_iff.mpr ?_⟩
      exact ⟨h.wellFormed p (List.mem_cons_self ..), _, htext⟩
  | copied c =>
      refine Or.inr ⟨c, rfl, ?_, ?_⟩
      · rw [← htext]
        rfl
      · cases hp : placeholder? text with
        | none => rfl
        | some p =>
            obtain ⟨hwell, hprefix⟩ := placeholder?_eq_some_iff.mp hp
            rw [← htext] at hprefix
            exact absurd hprefix (h.leftmost [] c pieces rfl p hwell)

/-- A text has one scan. -/
theorem unique {other : List Piece} (h : IsScan pieces text)
    (hother : IsScan other text) : other = pieces := by
  have hnonempty : ∀ {piece : Piece} {rest : List Piece},
      ¬ IsScan (piece :: rest) [] := by
    intro piece rest hscan
    rcases hscan.head with ⟨p, -, hp⟩ | ⟨c, -, hc, -⟩
    · cases hp
    · cases hc
  induction pieces generalizing other text with
  | nil =>
      obtain rfl : [] = text := h.written
      cases other with
      | nil => rfl
      | cons piece rest => exact absurd hother hnonempty
  | cons piece pieces ih =>
      cases other with
      | nil =>
          obtain rfl : [] = text := hother.written
          exact absurd h hnonempty
      | cons piece' rest =>
          -- the text decides about the first piece
          obtain rfl : piece' = piece := by
            rcases h.head with ⟨p, rfl, hp⟩ | ⟨c, rfl, hc, hnone⟩
            · rcases hother.head with ⟨q, rfl, hq⟩ | ⟨d, -, -, hnone⟩
              · rw [Option.some.inj (hq.symm.trans hp)]
              · cases hnone.symm.trans hp
            · rcases hother.head with ⟨q, -, hq⟩ | ⟨d, rfl, hd, -⟩
              · cases hnone.symm.trans hq
              · rw [Option.some.inj (hd.symm.trans hc)]
          have hrest : rest.flatMap Piece.written
              = pieces.flatMap Piece.written :=
            List.append_cancel_left (hother.written.trans h.written.symm)
          have htail := hother.tail
          rw [hrest] at htail
          rw [ih h.tail htail]

end IsScan

-- ===================================================================== filling

/-- The value of a placeholder is that of its path. -/
theorem value?_eq_resolve (p : Placeholder) (ctx : Fields) :
    (p.value? ctx).getD .null
      = Condition.resolve ctx (String.ofList p.name) p.steps := by
  obtain ⟨name, field⟩ := p
  unfold Placeholder.value? Placeholder.steps Condition.resolve
  cases field with
  | none => cases Fields.get? ctx (String.ofList name) <;> rfl
  | some field =>
      cases Fields.get? ctx (String.ofList name) with
      | none => rfl
      | some v =>
          -- only an object has fields, for a placeholder and for a path
          cases v with
          | obj fs =>
              show (Fields.get? fs (String.ofList field)).getD .null
                = ((Fields.get? fs (String.ofList field)).bind some).getD .null
              rw [Option.bind_fun_some]
          | _ => rfl

theorem insertion_eq_shown (v : Option Json) :
    insertion v = shown (v.getD .null) := by
  cases v with
  | none => rfl
  | some v => cases v <;> rfl

theorem fillFrom_skip (ctx : Fields) (n : Nat) (text : List Char) :
    fillFrom ctx n text = fillFrom ctx 0 (text.drop n) := by
  induction n generalizing text with
  | zero => rw [List.drop_zero]
  | succ n ih =>
      cases text with
      | nil => rfl
      | cons c text =>
          rw [fillFrom, List.drop_succ_cons]
          exact ih text

/-- A placeholder at the front is replaced, and filling goes on after it. -/
theorem fillFrom_placeholder (ctx : Fields) {p : Placeholder}
    (hp : p.WellFormed) (text : List Char) :
    fillFrom ctx 0 (p.written ++ text)
      = (Piece.placeholder p).filled ctx ++ fillFrom ctx 0 text := by
  have hfound : placeholder? (p.written ++ text) = some p :=
    placeholder?_eq_some_iff.mpr ⟨hp, List.prefix_append _ _⟩
  have hlength := p.length_written
  obtain ⟨c, cs, hcs⟩ : ∃ c cs, p.written = c :: cs := ⟨_, _, rfl⟩
  rw [hcs, List.cons_append] at hfound ⊢
  rw [hcs, List.length_cons] at hlength
  rw [fillFrom, hfound]
  dsimp only
  rw [insertion_eq_shown, value?_eq_resolve, fillFrom_skip, ← hlength,
    Nat.add_sub_cancel, List.drop_left]
  rfl

theorem fillFrom_copied (ctx : Fields) {c : Char} {text : List Char}
    (h : placeholder? (c :: text) = none) :
    fillFrom ctx 0 (c :: text) = c :: fillFrom ctx 0 text := by
  rw [fillFrom, h]

/-- A text has a scan, and filling the text replaces the pieces of the scan, in
every context. -/
theorem exists_scan (text : List Char) :
    ∃ pieces, IsScan pieces text
      ∧ ∀ ctx, fillFrom ctx 0 text = pieces.flatMap (Piece.filled ctx) := by
  -- a placeholder takes more than one character, so the induction is on length
  induction hn : text.length using Nat.strong_induction_on generalizing text with
  | _ n ih =>
      cases text with
      | nil => exact ⟨[], .nil, fun _ => rfl⟩
      | cons c text =>
          cases hfound : placeholder? (c :: text) with
          | none =>
              have hlt : text.length < n := by
                rw [← hn, List.length_cons]
                omega
              obtain ⟨pieces, hscan, hfill⟩ := ih _ hlt text rfl
              refine ⟨.copied c :: pieces, hscan.copied hfound, fun ctx => ?_⟩
              rw [fillFrom_copied ctx hfound, hfill ctx]
              rfl
          | some p =>
              obtain ⟨hp, rest, hrest⟩ := placeholder?_eq_some_iff.mp hfound
              have hlt : rest.length < n := by
                have hlength := congrArg List.length hrest
                rw [List.length_append, hn, p.length_written,
                  Placeholder.length] at hlength
                omega
              obtain ⟨pieces, hscan, hfill⟩ := ih _ hlt rest rfl
              rw [← hrest]
              refine ⟨.placeholder p :: pieces, hscan.placeholder hp,
                fun ctx => ?_⟩
              rw [fillFrom_placeholder ctx hp, hfill ctx]
              rfl

/-- A text without the two characters that open a placeholder is copied. -/
theorem isScan_map_copied {text : List Char}
    (h : ¬ ['$', '\x7b'] <:+: text) : IsScan (text.map .copied) text := by
  induction text with
  | nil => exact .nil
  | cons c text ih =>
      refine (ih fun hopens => h (hopens.trans (List.suffix_cons ..).isInfix)).copied ?_
      cases hfound : placeholder? (c :: text) with
      | none => rfl
      | some p =>
          obtain ⟨-, hprefix⟩ := placeholder?_eq_some_iff.mp hfound
          have hopens : ['$', '\x7b'] <+: p.written := ⟨_, rfl⟩
          exact absurd (hopens.trans hprefix).isInfix h

/-- Looking for an opened placeholder finds the two characters side by side,
wherever they stand. -/
theorem opens_iff (text : List Char) :
    opens text = true ↔ ['$', '\x7b'] <:+: text := by
  induction text with
  | nil => simp [opens]
  | cons c text ih =>
      rw [opens, Bool.or_eq_true, List.isPrefixOf_iff_prefix, ih,
        List.infix_cons_iff]

/-- Filling replaces the pieces of the scan of a template, also where the scan is
not made because no placeholder is opened. -/
theorem fill_eq_flatMap {template : String} {pieces : List Piece}
    (h : IsScan pieces template.toList) (ctx : Fields) :
    fill template ctx = String.ofList (pieces.flatMap (Piece.filled ctx)) := by
  unfold fill
  split
  · obtain ⟨found, hfound, hfill⟩ := exists_scan template.toList
    rw [hfill ctx, h.unique hfound]
  · next hopens =>
      have hcopied := isScan_map_copied (mt (opens_iff _).mpr hopens)
      rw [hcopied.unique h, List.flatMap_map]
      show template = String.ofList (template.toList.flatMap fun c => [c])
      rw [List.flatMap_singleton', String.ofList_toList]

/-- Filling a template is one scan from left to right. The template alone says
which pieces there are, and there is one way to cut it. Every character that is
not part of a placeholder is copied. A placeholder is replaced by the value of
the path that it spells, as it is shown in a text, and what it is replaced by is
not looked at again. A template in which no placeholder is opened is copied as it
is. -/
theorem fill_replaces_placeholders (template : String) :
    ∃ pieces, IsScan pieces template.toList
      ∧ (∀ other, IsScan other template.toList → other = pieces)
      ∧ (∀ ctx, fill template ctx
        = String.ofList (pieces.flatMap (Piece.filled ctx)))
      ∧ (¬ ['$', '\x7b'] <:+: template.toList →
        pieces = template.toList.map .copied
          ∧ ∀ ctx, fill template ctx = template) := by
  obtain ⟨pieces, hscan, -⟩ := exists_scan template.toList
  refine ⟨pieces, hscan, fun other => hscan.unique, fill_eq_flatMap hscan,
    fun hopens => ⟨(isScan_map_copied hopens).unique hscan, fun ctx => ?_⟩⟩
  exact if_neg (mt (opens_iff _).mp hopens)

/-- A value that looks like a placeholder stays as it is, a placeholder can stand
right after characters that open none, and three names make none. -/
theorem fill_of_openers :
    let template := "é$\x7ba\x7d$\x7b$\x7bb.c\x7d$\x7ba.b.c\x7d"
    let ctx : Fields := [("a", .str "$\x7bb\x7d"),
      ("b", .obj [("c", .arr [.null])])]
    (∃ pieces, IsScan pieces template.toList
      ∧ fill template ctx = String.ofList (pieces.flatMap (Piece.filled ctx)))
    ∧ fill template ctx = "é$\x7bb\x7d$\x7b[null]$\x7ba.b.c\x7d"
    ∧ ¬ ['$', '\x7b'] <:+: "5$ \x7ba\x7d".toList
    ∧ fill "5$ \x7ba\x7d" ctx = "5$ \x7ba\x7d" := by
  intro template ctx
  obtain ⟨pieces, hscan, -, hfilled, -⟩ := fill_replaces_placeholders template
  obtain ⟨_, -, -, -, hplain⟩ := fill_replaces_placeholders "5$ \x7ba\x7d"
  have hopens : ¬ ['$', '\x7b'] <:+: "5$ \x7ba\x7d".toList := by
    decide
  exact ⟨⟨pieces, hscan, hfilled ctx⟩, by decide +kernel, hopens,
    (hplain hopens).2 ctx⟩

end Template

end HookRules
