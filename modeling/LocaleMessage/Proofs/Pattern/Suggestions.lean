import LocaleMessage.Proofs.Pattern.Refusing
import LocaleMessage.Proofs.Text.EditDistance

/-! Which keywords are suggested for a word that is none. They are those within reach of a few
edits, nearest first, and keywords that are as near as each other in the order in which all keywords
are listed. How many edits may be made depends on the bytes of the word and not on its
characters. -/
namespace LocaleMessage.Pattern

open String (utf8Len)

namespace Keyword

/-- The least number of edits that make the keyword out of the word. Letters of either case are
different here. -/
def distance (word : List Char) (k : Keyword) : Nat :=
  Text.editDistance word k.text.toList

theorem isLeast_distance (word : List Char) (k : Keyword) :
    IsLeast {n | Text.Edits n word k.text.toList} (distance word k) :=
  Text.isLeast_editDistance word k.text.toList

/-- The keyword is nearer to the word than the other, or as near and listed before it. So two
keywords are never level. -/
def Precedes (word : List Char) (k other : Keyword) : Prop :=
  distance word k < distance word other ∨
    distance word k = distance word other ∧ all.idxOf k < all.idxOf other

/-- These are all keywords up to a distance from the word, the word itself left out, in order. -/
structure Ranked (word : List Char) (limit : Nat) (near : List Keyword) : Prop where
  mem_iff (k : Keyword) : k ∈ near ↔ 1 ≤ distance word k ∧ distance word k ≤ limit
  pairwise : near.Pairwise (Precedes word)

variable {word : List Char} {limit : Nat} {near : List Keyword}

theorem mem_all (k : Keyword) : k ∈ all := by
  cases k with
  | format f => cases f <;> decide
  | clause c => cases c <;> decide

theorem pairwise_all : all.Pairwise fun k other => all.idxOf k < all.idxOf other := by
  decide

theorem mem_atDistance {k : Keyword} : k ∈ atDistance word limit ↔ distance word k = limit := by
  simp [atDistance, distance, mem_all]

theorem ranked_zero (word : List Char) : Ranked word 0 [] where
  mem_iff k := by
    simp only [List.not_mem_nil, false_iff]
    omega
  pairwise := .nil

/-- The keywords that are one edit farther away come behind those that are nearer. This is how the
program collects them. -/
theorem Ranked.succ (h : Ranked word limit near) :
    Ranked word (limit + 1) (near ++ atDistance word (limit + 1)) where
  mem_iff k := by
    rw [List.mem_append, h.mem_iff, mem_atDistance]
    omega
  pairwise := by
    have hSame : (atDistance word (limit + 1)).Pairwise (Precedes word) := by
      refine (pairwise_all.filter _).imp_of_mem fun hk hOther hListed => Or.inr ⟨?_, hListed⟩
      exact (mem_atDistance.mp hk).trans (mem_atDistance.mp hOther).symm
    refine List.pairwise_append.mpr ⟨h.pairwise, hSame, fun k hk other hOther => Or.inl ?_⟩
    have hNear := ((h.mem_iff k).mp hk).2
    rw [mem_atDistance.mp hOther]
    omega

/-- The order leaves no choice: two such lists have the same members and are sorted alike. -/
theorem Ranked.unique {other : List Keyword} (h : Ranked word limit near)
    (hOther : Ranked word limit other) : near = other := by
  have hNodup {near : List Keyword} (h : Ranked word limit near) : near.Nodup := by
    refine h.pairwise.imp fun {k other} hPrecedes hSame => ?_
    subst hSame
    exact hPrecedes.elim (Nat.lt_irrefl _) fun hListed => Nat.lt_irrefl _ hListed.2
  have hPerm : near.Perm other := (List.perm_ext_iff_of_nodup (hNodup h) (hNodup hOther)).mpr
    fun k => (h.mem_iff k).trans (hOther.mem_iff k).symm
  refine hPerm.eq_of_pairwise (fun k other _ _ hPrecedes hFollows => ?_) h.pairwise hOther.pairwise
  unfold Precedes at hPrecedes hFollows
  omega

/-- How far a keyword may be from a word of this length. Whether characters or bytes are counted is
left open here. -/
def distanceLimit (length : Nat) : Nat :=
  if length ≤ 3 then 1 else 2

/-- The first three of the keywords up to the distance, and none for an empty word, which would be
near to short keywords. -/
def Closest (word : List Char) (limit : Nat) (suggested : List Keyword) : Prop :=
  (word = [] → suggested = []) ∧
    (word ≠ [] → ∃ near, Ranked word limit near ∧ suggested = near.take 3)

/-- The keywords within reach are suggested, where the reach goes by the bytes of the word. -/
theorem closest_suggestions (word : List Char) :
    Closest word (distanceLimit (utf8Len word)) (suggestions word) := by
  have hOne := (ranked_zero word).succ
  refine ⟨fun hEmpty => by simp [suggestions, hEmpty], fun hNonempty => ?_⟩
  rw [suggestions, if_neg (by simpa using hNonempty), String.utf8ByteSize_ofList, distanceLimit]
  split_ifs
  · exact ⟨_, hOne, rfl⟩
  · exact ⟨_, hOne.succ, rfl⟩

theorem length_le_utf8Len (word : List Char) : word.length ≤ utf8Len word := by
  induction word with
  | nil => simp
  | cons c word ih =>
      have hSize := c.utf8Size_pos
      rw [List.length_cons, String.utf8Len_cons]
      omega

/-- Counting characters comes to the same unless the word has three of them at most and more than
three bytes. -/
theorem distanceLimit_utf8Len_iff (word : List Char) :
    distanceLimit (utf8Len word) = distanceLimit word.length ↔
      (word.length ≤ 3 → utf8Len word ≤ 3) := by
  have hLength := length_le_utf8Len word
  unfold distanceLimit
  split_ifs <;> omega

end Keyword

mutual

/-- A keyword is missed only where none stands, at every depth. The three statements go by recursion
on the refusal. -/
theorem RefusesMessage.leading?_eq_none : {scope : Scope} → {input : List Char} →
    {failure : Failure} → RefusesMessage scope input failure →
      failure.problem = .expected .keyword → Keyword.leading? failure.rest = none
  | _, _, _, .unopened _ _, hProblem => nomatch hProblem
  | _, _, _, .argument _ _ hArgument, hProblem => hArgument.leading?_eq_none hProblem

theorem RefusesArgument.leading?_eq_none : {scope : Scope} → {input : List Char} →
    {failure : Failure} → RefusesArgument scope input failure →
      failure.problem = .expected .keyword → Keyword.leading? failure.rest = none
  | _, _, _, .noKeyword _ _ _ _ hNone, _ => hNone
  | _, _, _, .branches _ _ _ hBranches, hProblem => hBranches.leading?_eq_none hProblem
  | _, _, _, .unfinished _ _ _ _ _ hUnfinished, hProblem => by
      cases hUnfinished <;> cases hProblem
  | _, _, _, .noId _ _ _, hProblem | _, _, _, .brokenId _ _ _, hProblem
  | _, _, _, .afterId _ _ _ _ _, hProblem | _, _, _, .afterKeyword _ _ _ _ _ _, hProblem
  | _, _, _, .noStyle _ _ _ _, hProblem | _, _, _, .afterStyle _ _ _ _ _ _, hProblem
  | _, _, _, .noBranches _, hProblem | _, _, _, .noOffset _ _ _ _ _ _, hProblem =>
      nomatch hProblem

theorem RefusesBranches.leading?_eq_none : {scope : Scope} → {input : List Char} →
    {failure : Failure} → RefusesBranches scope input failure →
      failure.problem = .expected .keyword → Keyword.leading? failure.rest = none
  | _, _, _, .message _ _ _ hMessage, hProblem => hMessage.leading?_eq_none hProblem
  | _, _, _, .comma _ _, hProblem | _, _, _, .noSelector _ _, hProblem
  | _, _, _, .brokenSelector _ _ _, hProblem | _, _, _, .afterSelector _ _ _ _ _, hProblem
  | _, _, _, .unclosed _ _ _ _, hProblem => nomatch hProblem

end

/-- Where no keyword was found, the suggestions are the closest keywords to the word that stands at
the place of the error; all other errors have none. -/
theorem suggestions_of_parse {pattern : String} {e : SyntaxError} (h : parse pattern = .error e) :
    ∃ consumed rest, consumed ++ rest = pattern.toList ∧ e.position.offset = utf8Len consumed ∧
      (e.expected = some .keyword → Keyword.leading? rest = none ∧
        Keyword.Closest (Text.leadingWord rest)
          (Keyword.distanceLimit (utf8Len (Text.leadingWord rest))) e.suggestions) ∧
      (e.expected ≠ some .keyword → e.suggestions = []) := by
  obtain ⟨failure, consumed, hRefused, hSplit, rfl, hPosition⟩ := exists_refusal_of_parse h
  have hExpected : (failure.locate pattern.toList).expected = some .keyword ↔
      failure.problem = .expected .keyword := by
    cases hProblem : failure.problem <;> simp [SyntaxError.expected, Failure.locate, hProblem]
  refine ⟨consumed, failure.rest, hSplit, ?_, fun hKeyword => ?_, fun hOther => ?_⟩
  · rw [hPosition, Text.offset_after]
  · refine ⟨hRefused.leading?_eq_none (hExpected.mp hKeyword), ?_⟩
    have hSuggested : (failure.locate pattern.toList).suggestions =
        Keyword.suggestions (Text.leadingWord failure.rest) := if_pos (hExpected.mp hKeyword)
    rw [hSuggested]
    exact Keyword.closest_suggestions _
  · exact if_neg (hOther ∘ hExpected.mpr)

/-- A word of three characters and four bytes has a suggestion that is two edits away. -/
theorem suggestions_of_parse_bytes : ∃ e, parse "\x7bn, tïe\x7d" = .error e ∧
    e.expected = some .keyword ∧ e.suggestions = [.format .time] ∧
    Keyword.distance "tïe".toList (.format .time) = 2 := by
  have hParse : parse "\x7bn, tïe\x7d" = .error (Failure.locate
      ⟨.expected .keyword, ['t', 'ï', 'e', '\x7d']⟩ "\x7bn, tïe\x7d".toList) := by
    unfold parse
    simp only [String.reduceToList]
    rfl
  exact ⟨_, hParse, rfl, by decide +kernel, by decide⟩

end LocaleMessage.Pattern
