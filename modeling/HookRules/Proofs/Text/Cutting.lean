/-
Output that is cut to a number of bytes.

# Where a cut is made

Output that is too long is cut where the steps back from the limit end, at a
place between two characters (`boundaryBefore`). The start of the text is one, so
the steps end. The place that they end at is the last one that is not behind the
limit (`le_boundaryBefore`).

# What a cut leaves

What is left is told without the steps, by taking characters from the front as
long as they fit (`takeBytes`). So either all of them are taken, or there is a
first one that does not fit any more, and what was taken are those in front of it
(`takeBytes_cases`). Everything else follows from these two cases, without going
through the characters again: what was taken fits, whatever else fits from the
start of the text lies inside it, and less than one character of the limit stays
unused. It ends where the steps back end, because the end of every start of the
text that fits is such a place (`byteCount_takeBytes`), and so it is what a cut
leaves (`decodeUpTo_eq`).

The text that is cut is what the bytes are read as. It can be longer than the
bytes are, and what is left of it is text, so reading its bytes again gives it
back (`decodeUpTo_text`).
-/
import HookRules.Proofs.Text.Decoding

namespace HookRules

namespace Text

-- ========================================================== characters that fit

/-- The number of bytes of characters. -/
def byteCount (cs : List Char) : Nat := (cs.map Char.utf8Size).sum

/-- Bytes of characters are counted one after the other. -/
theorem byteCount_append (cs ds : List Char) :
    byteCount (cs ++ ds) = byteCount cs + byteCount ds := by
  unfold byteCount
  rw [List.map_append, List.sum_append]

theorem byteCount_singleton (c : Char) : byteCount [c] = c.utf8Size :=
  List.sum_singleton

/-- The characters of a text take the bytes that the text takes. -/
theorem byteCount_toList (s : String) : byteCount s.toList = s.utf8ByteSize := by
  have hsize : s.utf8ByteSize = (bytes s).length := rfl
  rw [hsize, bytes_eq, List.length_flatMap]
  simp only [String.length_utf8EncodeChar, byteCount]

/-- The characters at the start of a text that take at most `limit` bytes, and
whether some were left out. -/
def takeBytes : Nat → List Char → List Char × Bool
  | _, [] => ([], false)
  | limit, c :: cs =>
    if c.utf8Size ≤ limit then
      let (kept, cut) := takeBytes (limit - c.utf8Size) cs
      (c :: kept, cut)
    else ([], true)

/-- The characters are taken up to the first one that does not fit. -/
theorem takeBytes_cases (limit : Nat) (cs : List Char) :
    (byteCount cs ≤ limit ∧ takeBytes limit cs = (cs, false))
      ∨ ∃ kept c rest, cs = kept ++ c :: rest
        ∧ takeBytes limit cs = (kept, true)
        ∧ byteCount kept ≤ limit
        ∧ limit < byteCount kept + c.utf8Size := by
  induction cs generalizing limit with
  | nil => exact Or.inl ⟨Nat.zero_le _, rfl⟩
  | cons c cs ih =>
      have hcount : ∀ ds, byteCount (c :: ds) = c.utf8Size + byteCount ds :=
        fun ds => List.sum_cons
      by_cases hfits : c.utf8Size ≤ limit
      · rw [takeBytes, if_pos hfits]
        rcases ih (limit - c.utf8Size) with ⟨hall, htake⟩
          | ⟨kept, d, rest, hcs, htake, hkept, hnext⟩
        · refine Or.inl ⟨?_, by rw [htake]⟩
          rw [hcount]
          omega
        · refine Or.inr ⟨c :: kept, d, rest, by rw [hcs, List.cons_append],
            by rw [htake], ?_, ?_⟩
          · rw [hcount]
            omega
          · rw [hcount]
            omega
      · refine Or.inr ⟨[], c, cs, rfl, ?_, Nat.zero_le _, ?_⟩
        · rw [takeBytes, if_neg hfits]
        · show limit < 0 + c.utf8Size
          omega

variable {limit : Nat} {cs : List Char}

/-- What is taken is a start of the text, so nothing in it is changed. -/
theorem takeBytes_isPrefix (limit : Nat) (cs : List Char) :
    (takeBytes limit cs).1 <+: cs := by
  rcases takeBytes_cases limit cs with ⟨-, htake⟩
    | ⟨kept, c, rest, hcs, htake, -, -⟩
  · rw [htake]
  · rw [htake, hcs]
    exact List.prefix_append kept _

/-- What is taken fits the limit. -/
theorem byteCount_takeBytes_le (limit : Nat) (cs : List Char) :
    byteCount (takeBytes limit cs).1 ≤ limit := by
  rcases takeBytes_cases limit cs with ⟨hall, htake⟩
    | ⟨kept, c, rest, -, htake, hkept, -⟩
  · rw [htake]
    exact hall
  · rw [htake]
    exact hkept

/-- Characters from the start of the text that fit are among those taken. -/
theorem prefix_takeBytes {ds : List Char} (h : ds <+: cs)
    (hfits : byteCount ds ≤ limit) : ds <+: (takeBytes limit cs).1 := by
  rcases takeBytes_cases limit cs with ⟨-, htake⟩
    | ⟨kept, c, rest, hcs, htake, -, hnext⟩
  · rw [htake]
    exact h
  · rw [htake]
    have hone : kept ++ [c] <+: cs := ⟨rest, by rw [hcs, List.append_assoc]; rfl⟩
    have htoo : limit < byteCount (kept ++ [c]) := by
      rw [byteCount_append, byteCount_singleton]
      exact hnext
    rcases List.prefix_or_prefix_of_prefix h hone with hin | ⟨more, hmore⟩
    · rcases List.prefix_concat_iff.mp hin with rfl | hin
      · omega
      · exact hin
    · -- more than what was taken together with the next character
      rw [← hmore, byteCount_append] at hfits
      omega

/-- Something was left out if and only if not all was taken. -/
theorem takeBytes_cut_iff (limit : Nat) (cs : List Char) :
    (takeBytes limit cs).2 = true ↔ (takeBytes limit cs).1 ≠ cs := by
  rcases takeBytes_cases limit cs with ⟨-, htake⟩
    | ⟨kept, c, rest, hcs, htake, -, -⟩
  · rw [htake]
    simp
  · rw [htake, hcs]
    simp

/-- Less than a character of the limit is unused if something was left out. -/
theorem lt_of_takeBytes_cut (h : (takeBytes limit cs).2 = true) :
    limit < byteCount (takeBytes limit cs).1 + 4 := by
  rcases takeBytes_cases limit cs with ⟨-, htake⟩
    | ⟨kept, c, rest, -, htake, -, hnext⟩
  · rw [htake] at h
    cases h
  · rw [htake]
    exact hnext.trans_le (Nat.add_le_add_left c.utf8Size_le_four _)

-- ================================================================== boundaries

/-- A number of bytes is a place between characters if some start of the text
takes it. -/
theorem isValid_iff_isPrefix (s : String) (n : Nat) :
    (⟨n⟩ : String.Pos.Raw).IsValid s
      ↔ ∃ ds, ds <+: s.toList ∧ byteCount ds = n := by
  have hcount : ∀ ds, (String.ofList ds).utf8ByteSize = byteCount ds := by
    intro ds
    rw [← byteCount_toList, String.toList_ofList]
  rw [String.Pos.Raw.isValid_iff_exists_take_toList]
  constructor
  · rintro ⟨i, hi⟩
    exact ⟨s.toList.take i, List.take_prefix i _, (hi.trans (hcount _)).symm⟩
  · rintro ⟨ds, hds, rfl⟩
    refine ⟨ds.length, ?_⟩
    rw [← List.prefix_iff_eq_take.mp hds]
    exact (hcount ds).symm

/-- The walk goes back and never forward. -/
theorem boundaryBefore_le (s : String) (n : Nat) : boundaryBefore s n ≤ n := by
  induction n with
  | zero => exact le_refl 0
  | succ n ih =>
      unfold boundaryBefore
      split
      · exact le_refl _
      · exact Nat.le_succ_of_le ih

/-- It ends at a boundary: the start of the text is one, so there is always one
to be found. -/
theorem boundaryBefore_isValid (s : String) (n : Nat) :
    (⟨boundaryBefore s n⟩ : String.Pos.Raw).IsValid s := by
  induction n with
  | zero => exact String.Pos.Raw.isValid_zero
  | succ n ih =>
      unfold boundaryBefore
      split
      · assumption
      · exact ih

/-- No place between characters is passed over. -/
theorem le_boundaryBefore {s : String} {m n : Nat}
    (h : (⟨m⟩ : String.Pos.Raw).IsValid s) (hle : m ≤ n) :
    m ≤ boundaryBefore s n := by
  induction n with
  | zero => exact hle
  | succ n ih =>
      unfold boundaryBefore
      split
      · exact hle
      · next hno =>
          have hne : m ≠ n + 1 := by
            rintro rfl
            exact hno h
          exact ih (by omega)

/-- What was taken ends where the steps back from the limit end. -/
theorem byteCount_takeBytes (s : String) (limit : Nat) :
    byteCount (takeBytes limit s.toList).1 = boundaryBefore s limit := by
  apply Nat.le_antisymm
  · refine le_boundaryBefore ((isValid_iff_isPrefix s _).mpr ?_)
      (byteCount_takeBytes_le limit _)
    exact ⟨_, takeBytes_isPrefix limit _, rfl⟩
  · obtain ⟨ds, hds, hcount⟩ :=
      (isValid_iff_isPrefix s _).mp (boundaryBefore_isValid s limit)
    have hfits : byteCount ds ≤ limit :=
      hcount.trans_le (boundaryBefore_le s limit)
    obtain ⟨more, hmore⟩ := prefix_takeBytes hds hfits
    rw [← hcount, ← hmore, byteCount_append]
    exact Nat.le_add_right _ _

-- ================================================================= cut output

/-- The start of a text up to the end of some of its characters has just
these. -/
theorem extract_front (kept rest : List Char) :
    String.Pos.Raw.extract (String.ofList (kept ++ rest)) ⟨0⟩ ⟨byteCount kept⟩
      = String.ofList kept := by
  have hlen : byteCount kept = String.utf8Len kept := by
    rw [← String.utf8ByteSize_ofList, ← byteCount_toList, String.toList_ofList]
  have h := String.extract_of_valid [] kept rest
  rw [String.utf8Len_nil, Nat.zero_add, List.nil_append] at h
  rw [hlen]
  exact h

/-- Stepping back from the limit leaves the characters that fit, taken from the
front. -/
theorem decodeUpTo_eq (limit : Nat) (bs : List UInt8) :
    decodeUpTo limit bs = (String.ofList (takeBytes limit (decode bs)).1,
      (takeBytes limit (decode bs)).2) := by
  have hplace := byteCount_takeBytes (String.ofList (decode bs)) limit
  have hsize := byteCount_toList (String.ofList (decode bs))
  rw [String.toList_ofList] at hplace hsize
  unfold decodeUpTo
  dsimp only
  rcases takeBytes_cases limit (decode bs) with ⟨hall, htake⟩
    | ⟨kept, c, rest, hsplit, htake, -, hnext⟩
  · rw [htake, if_pos (hsize ▸ hall)]
  · have hlong : ¬ (String.ofList (decode bs)).utf8ByteSize ≤ limit := by
      rw [← hsize, hsplit, List.append_cons, byteCount_append, byteCount_append,
        byteCount_singleton]
      omega
    rw [htake] at hplace ⊢
    rw [if_neg hlong, ← hplace, hsplit, extract_front]

/-- The cut that walks back from the limit leaves the same characters as taking
them from the start while they fit. -/
theorem toList_decodeUpTo (limit : Nat) (bs : List UInt8) :
    (decodeUpTo limit bs).1.toList = (takeBytes limit (decode bs)).1 := by
  rw [decodeUpTo_eq, String.toList_ofList]

/-- Output is told to be cut if characters were left out. -/
theorem isCut_decodeUpTo (limit : Nat) (bs : List UInt8) :
    (decodeUpTo limit bs).2 = (takeBytes limit (decode bs)).2 := by
  rw [decodeUpTo_eq]

/-- The size of what is left, counted in the characters that were taken. -/
theorem utf8ByteSize_decodeUpTo (limit : Nat) (bs : List UInt8) :
    (decodeUpTo limit bs).1.utf8ByteSize
      = byteCount (takeBytes limit (decode bs)).1 := by
  rw [← byteCount_toList, toList_decodeUpTo]

end Text

open Text

/-- What is left of output that is cut, for any bytes and any limit.

It is the longest start of the text of the bytes, in whole characters, that takes
at most the limit, and it ends at the last place between two characters that is
not behind the limit. Output is told to be cut if and only if something is
missing, and then fewer than four bytes of the limit are unused. Cutting what is
left again, with the same limit or a greater one, changes nothing, and a greater
limit leaves at least as much of the output. -/
theorem cut_output_is_longest_start (bs : List UInt8) (limit : Nat) :
    let whole := String.ofList (decode bs)
    let kept := (decodeUpTo limit bs).1
    let isCut := (decodeUpTo limit bs).2
    kept.toList <+: whole.toList
      ∧ kept.utf8ByteSize ≤ limit
      ∧ (∀ s : String, s.toList <+: whole.toList → s.utf8ByteSize ≤ limit →
        s.toList <+: kept.toList)
      ∧ kept.utf8ByteSize = boundaryBefore whole limit
      ∧ (isCut = true ↔ kept ≠ whole)
      ∧ (isCut = true → limit < kept.utf8ByteSize + 4)
      ∧ ∀ more, limit ≤ more →
        decodeUpTo more (bytes kept) = (kept, false)
          ∧ kept.toList <+: (decodeUpTo more bs).1.toList := by
  intro whole kept isCut
  have hwhole : whole.toList = decode bs := String.toList_ofList
  have hkept : kept.toList = (takeBytes limit (decode bs)).1 :=
    toList_decodeUpTo limit bs
  have hcut : isCut = (takeBytes limit (decode bs)).2 :=
    isCut_decodeUpTo limit bs
  have hsize : kept.utf8ByteSize ≤ limit := by
    rw [utf8ByteSize_decodeUpTo]
    exact byteCount_takeBytes_le limit _
  refine ⟨?_, hsize, ?_, ?_, ?_, ?_, ?_⟩
  · rw [hkept, hwhole]
    exact takeBytes_isPrefix limit _
  · intro s hs hfits
    rw [hwhole] at hs
    rw [hkept]
    exact prefix_takeBytes hs ((byteCount_toList s).trans_le hfits)
  · rw [utf8ByteSize_decodeUpTo, ← hwhole]
    exact byteCount_takeBytes whole limit
  · have hsame : kept ≠ whole ↔ kept.toList ≠ whole.toList :=
      not_congr String.toList_inj.symm
    rw [hsame, hkept, hwhole, hcut]
    exact takeBytes_cut_iff limit _
  · intro hmissing
    rw [hcut] at hmissing
    rw [utf8ByteSize_decodeUpTo]
    exact lt_of_takeBytes_cut hmissing
  · intro more hmore
    refine ⟨decodeUpTo_text (hsize.trans hmore), ?_⟩
    show kept.toList <+: _
    rw [hkept, toList_decodeUpTo]
    exact prefix_takeBytes (takeBytes_isPrefix limit _)
      ((byteCount_takeBytes_le limit _).trans hmore)

/-- Of five bytes, the first of which is no text, one character is left: the next
one would end behind the limit, although its first byte is still in front of it. -/
theorem cut_output_of_broken_byte :
    let bs : List UInt8 := [0xFF, 0xE2, 0x82, 0xAC, 0x41]
    decodeUpTo 5 bs = ("\uFFFD", true)
      ∧ "\uFFFD".toList <+: "\uFFFD€A".toList
      ∧ boundaryBefore "\uFFFD€A" 5 = 3
      ∧ decodeUpTo 6 (bytes "\uFFFD") = ("\uFFFD", false)
      ∧ "\uFFFD".toList <+: (decodeUpTo 6 bs).1.toList := by
  intro bs
  have hcut : decodeUpTo 5 bs = ("\uFFFD", true) := by decide +kernel
  have hwhole : String.ofList (decode bs) = "\uFFFD€A" := by decide +kernel
  obtain ⟨hstart, -, -, hplace, -, -, hmore⟩ := cut_output_is_longest_start bs 5
  rw [hcut, hwhole] at hstart hplace
  rw [hcut] at hmore
  exact ⟨hcut, hstart, hplace.symm, hmore 6 (by decide)⟩

end HookRules
