import MusicLabel.Python.DateText

/-
  `re.match(pattern, s)` for the patterns of the release validator: a
  sequence of character sets, each repeated between a least and a
  greatest number of times, anchored at the start by `re.match` and at
  the end by `$`.

  The engine matches a repeat greedily: it counts how many characters
  of the set follow, at most the greatest number, and when the rest of
  the pattern fails it gives them back one at a time down to the least
  number. `$` without `MULTILINE` matches at the end of the text or
  before a newline that ends it. The pattern matches when some way of
  matching its repeats ends where `$` matches, so the answer depends
  only on the set of those ways: the text splits into one fitting part
  per repeat, followed by nothing or by one newline.

  Correctness is proven by:
    * `Regex.mem_matchRepeat`: the ends of the matches of one repeat
    * `Regex.mem_matchSeq`: the ends of the matches of a sequence
    * `Regex.fullMatch_iff`: the texts a pattern matches

  Main declarations:
    * `Regex.Repeat`, `Regex.Fits`
    * `Regex.matchRepeat`, `Regex.matchSeq`, `Regex.fullMatch`
-/

------------------------------------------------------------
-- The Matcher
------------------------------------------------------------

namespace MusicLabel

namespace Regex

open Strptime

/- A set written `[...]` or `\d`: the union of its classes. -/
def accepts (set : List CharClass) (c : Char) : Bool :=
  set.any fun k => k.accepts c

/- A set repeated greedily between `lo` and `hi` times. -/
structure Repeat where
  set : List CharClass
  lo : Nat
  hi : Nat

/- The ends of the matches of a repeat at the start of `cs`, the longest first. -/
def matchRepeat (item : Repeat) (cs : List Char) : List (List Char) :=
  let count := min item.hi (cs.takeWhile (accepts item.set)).length
  (List.range (count + 1 - item.lo)).map fun back => cs.drop (count - back)

/- The ends of the matches of a sequence of repeats, in the order the engine tries them. -/
def matchSeq : List Repeat → List Char → List (List Char)
  | [], cs => [cs]
  | item :: items, cs => (matchRepeat item cs).flatMap (matchSeq items)

/- `$` without `MULTILINE`: the end of the text, or a newline that ends it. -/
def atEnd (rest : List Char) : Bool :=
  rest = [] || rest = ['\n']

/- `re.match("^" + pattern + "$", s) is not None`, for `pattern` a sequence of repeats. -/
def fullMatch (items : List Repeat) (s : String) : Bool :=
  (matchSeq items s.data).any atEnd

/- A part a repeat can match: its length is in range and the set takes each character. -/
def Fits (item : Repeat) (part : List Char) : Prop :=
  item.lo ≤ part.length ∧ part.length ≤ item.hi ∧ ∀ c ∈ part, accepts item.set c

end Regex

end MusicLabel

------------------------------------------------------------
-- The Texts a Pattern Matches
------------------------------------------------------------

namespace MusicLabel

namespace Regex

/- The run a set takes is at least as long as any part of accepted characters it starts with. -/
theorem length_le_takeWhile
    {p : Char → Bool}
    {part rest : List Char}
    (h : ∀ c ∈ part, p c) :
    part.length ≤ ((part ++ rest).takeWhile p).length := by
  rw [List.takeWhile_append_of_pos h, List.length_append]
  omega

/- Every character within the run a set takes is accepted. -/
theorem forall_take_of_le_takeWhile
    {p : Char → Bool}
    {cs : List Char}
    {k : Nat}
    (h : k ≤ (cs.takeWhile p).length) :
    ∀ c ∈ cs.take k, p c := by
  obtain ⟨after, hAfter⟩ := List.takeWhile_prefix p (l := cs)
  intro c hc
  rw [← hAfter, List.take_append_of_le_length h] at hc
  exact List.mem_takeWhile_imp (List.mem_of_mem_take hc)

/- The greedy engine tries every end a fitting part leaves, and no other. -/
theorem mem_matchRepeat
    {item : Repeat}
    {cs rest : List Char} :
    rest ∈ matchRepeat item cs ↔ ∃ part, cs = part ++ rest ∧ Fits item part := by
  have hRun := (List.takeWhile_prefix (accepts item.set) (l := cs)).length_le
  simp only [matchRepeat, List.mem_map, List.mem_range]
  constructor
  · rintro ⟨back, hBack, rfl⟩
    have hCount := min_le_right item.hi (cs.takeWhile (accepts item.set)).length
    refine ⟨cs.take (_ - back), (List.take_append_drop _ cs).symm, ?_, ?_,
      forall_take_of_le_takeWhile (by omega)⟩
    · rw [List.length_take]
      omega
    · rw [List.length_take]
      omega
  · rintro ⟨part, rfl, hLo, hHi, hAccepts⟩
    have hPart := @length_le_takeWhile _ part rest hAccepts
    refine ⟨min item.hi ((part ++ rest).takeWhile (accepts item.set)).length - part.length,
      by omega, ?_⟩
    rw [show min item.hi ((part ++ rest).takeWhile (accepts item.set)).length -
        (min item.hi ((part ++ rest).takeWhile (accepts item.set)).length - part.length) =
          part.length by omega, List.drop_left]

/- The ends of the matches of a sequence are what one fitting part per repeat leaves. -/
theorem mem_matchSeq
    {items : List Repeat}
    {cs rest : List Char} :
    rest ∈ matchSeq items cs ↔
      ∃ parts, cs = parts.flatten ++ rest ∧ List.Forall₂ Fits items parts := by
  induction items generalizing cs with
  | nil =>
      simp only [matchSeq, List.mem_singleton, List.forall₂_nil_left_iff]
      constructor
      · rintro rfl
        exact ⟨[], rfl, rfl⟩
      · rintro ⟨_, hcs, rfl⟩
        exact hcs.symm
  | cons item items ih =>
      simp only [matchSeq, List.mem_flatMap, mem_matchRepeat, ih, List.forall₂_cons_left_iff]
      constructor
      · rintro ⟨mid, ⟨part, rfl, hFits⟩, parts, rfl, hRest⟩
        exact ⟨part :: parts, by simp, part, parts, hFits, hRest, rfl⟩
      · rintro ⟨_, rfl, part, parts, hFits, hRest, rfl⟩
        exact ⟨parts.flatten ++ rest, ⟨part, by simp, hFits⟩, parts, rfl, hRest⟩

/-
  A pattern matches exactly the texts that split into one fitting part
  per repeat, followed by nothing or by one newline.
-/
theorem fullMatch_iff
    (items : List Repeat)
    (s : String) :
    fullMatch items s = true ↔
      ∃ parts tail, s.data = parts.flatten ++ tail ∧ List.Forall₂ Fits items parts ∧
        (tail = [] ∨ tail = ['\n']) := by
  simp only [fullMatch, List.any_eq_true, mem_matchSeq, atEnd, Bool.or_eq_true,
    decide_eq_true_eq]
  constructor
  · rintro ⟨tail, ⟨parts, hData, hFits⟩, hTail⟩
    exact ⟨parts, tail, hData, hFits, hTail⟩
  · rintro ⟨parts, tail, hData, hFits, hTail⟩
    exact ⟨tail, ⟨parts, hData, hFits⟩, hTail⟩

end Regex

end MusicLabel
