import LocaleMessage.Text.EditDistance
import Mathlib.Order.Bounds.Basic

/-! The table of distances holds least numbers of edits. Its rows give the recurrence for a first
character, one edit changes the distance by one at most, and so no edits are fewer than it says. -/
namespace LocaleMessage.Text

/-- Inserting, deleting or replacing one character of a word, wherever it stands. Replacing a
character by itself is an edit, too. -/
inductive Edit : List Char → List Char → Prop where
  | insert (before after : List Char) (c : Char) : Edit (before ++ after) (before ++ c :: after)
  | delete (before after : List Char) (c : Char) : Edit (before ++ c :: after) (before ++ after)
  | replace (before after : List Char) (c d : Char) :
      Edit (before ++ c :: after) (before ++ d :: after)

/-- Exactly `n` edits that lead from one word to another. The words in between may be longer or
shorter than both. -/
inductive Edits : Nat → List Char → List Char → Prop where
  | zero (word : List Char) : Edits 0 word word
  | succ {n : Nat} {start middle finish : List Char} (prior : Edits n start middle)
      (last : Edit middle finish) : Edits (n + 1) start finish

variable {start middle finish : List Char}

/-- What is edited behind a first character may be edited with it. The first character stays as it
is. -/
theorem Edit.cons (c : Char) (h : Edit start finish) : Edit (c :: start) (c :: finish) := by
  cases h with
  | insert before after d => exact .insert (c :: before) after d
  | delete before after d => exact .delete (c :: before) after d
  | replace before after d e => exact .replace (c :: before) after d e

theorem Edits.cons {n : Nat} (c : Char) (h : Edits n start finish) :
    Edits n (c :: start) (c :: finish) := by
  induction h with
  | zero => exact .zero _
  | succ _ last ih => exact .succ ih (last.cons c)

/-- Edits to a word and edits from it add up. Nothing is saved even where they undo each other. -/
theorem Edits.trans {m n : Nat} (first : Edits m start middle) (second : Edits n middle finish) :
    Edits (m + n) start finish := by
  induction second with
  | zero => exact first
  | succ _ last ih => exact .succ (ih first) last

/-- Edits are counted from their end; one more may come in front as well. -/
theorem Edits.head {n : Nat} (first : Edit start middle) (others : Edits n middle finish) :
    Edits (n + 1) start finish := by
  rw [Nat.add_comm]
  exact Edits.trans (.succ (.zero start) first) others

/-- Below each distance of a row stand those to the shorter suffixes. So one row has all that the
next one is made of. -/
theorem distanceRow_cons (as : List Char) (b : Char) (bs : List Char) :
    distanceRow as (b :: bs) = editDistance as (b :: bs) :: distanceRow as bs := by
  induction as with
  | nil => simp [editDistance, distanceRow, List.range_succ]
  | cons a as ih => rw [editDistance, distanceRow, distanceRow, ih, nextRow, List.headD_cons]

theorem distanceRow_nil (as : List Char) : distanceRow as [] = [as.length] := by
  induction as with
  | nil => rfl
  | cons a as ih => simp [distanceRow, nextRow, ih]

theorem headD_distanceRow (as bs : List Char) :
    (distanceRow as bs).headD 0 = editDistance as bs := rfl

theorem editDistance_nil_left (bs : List Char) : editDistance [] bs = bs.length := by
  simp [editDistance, distanceRow, List.range_succ]

theorem editDistance_nil_right (as : List Char) : editDistance as [] = as.length := by
  rw [editDistance, distanceRow_nil, List.headD_cons]

/-- The first characters are kept or replaced, or the first one is deleted, or the second one is
inserted. The rows of the program compute just this, from the ends of the words. -/
theorem editDistance_cons_cons (a b : Char) (as bs : List Char) :
    editDistance (a :: as) (b :: bs) =
      min (editDistance as bs + if a = b then 0 else 1)
        (min (editDistance as (b :: bs) + 1) (editDistance (a :: as) bs + 1)) := by
  rw [editDistance, distanceRow, distanceRow_cons, nextRow, List.headD_cons, headD_distanceRow,
    ← distanceRow, headD_distanceRow]

theorem editDistance_cons_left_le (a : Char) (as bs : List Char) :
    editDistance (a :: as) bs ≤ editDistance as bs + 1 := by
  cases bs with
  | nil => simp [editDistance_nil_right]
  | cons b bs =>
      rw [editDistance_cons_cons]
      omega

theorem editDistance_cons_right_le (as : List Char) (b : Char) (bs : List Char) :
    editDistance as (b :: bs) ≤ editDistance as bs + 1 := by
  cases as with
  | nil => simp [editDistance_nil_left]
  | cons a as =>
      rw [editDistance_cons_cons]
      omega

theorem editDistance_cons_cons_le (a b : Char) (as bs : List Char) :
    editDistance (a :: as) (b :: bs) ≤ editDistance as bs + 1 := by
  rw [editDistance_cons_cons]
  split_ifs <;> omega

theorem edits_nil_left (bs : List Char) : Edits (editDistance [] bs) [] bs := by
  rw [editDistance_nil_left]
  induction bs with
  | nil => exact .zero []
  | cons b bs ih => exact .succ ih (.insert [] bs b)

/-- Where so many edits are enough for a word, they are for a word that has one more character in
front. -/
theorem edits_cons_left {as : List Char} (h : ∀ bs, Edits (editDistance as bs) as bs) (a : Char)
    (bs : List Char) : Edits (editDistance (a :: as) bs) (a :: as) bs := by
  have hDelete (bs : List Char) : Edits (editDistance as bs + 1) (a :: as) bs :=
    .head (.delete [] as a) (h bs)
  induction bs with
  | nil =>
      rw [editDistance_nil_right, List.length_cons, ← editDistance_nil_right as]
      exact hDelete []
  | cons b bs ih =>
      have hFirst : Edits (editDistance as bs + if a = b then 0 else 1) (a :: as) (b :: bs) := by
        split_ifs with hSame
        · exact hSame ▸ (h bs).cons a
        · exact .succ ((h bs).cons a) (.replace [] bs a b)
      have hInsert : Edits (editDistance (a :: as) bs + 1) (a :: as) (b :: bs) :=
        .succ ih (.insert [] bs b)
      -- The least of the three numbers is one of them.
      obtain hMin | hMin | hMin :
          editDistance (a :: as) (b :: bs) = editDistance as bs + (if a = b then 0 else 1) ∨
            editDistance (a :: as) (b :: bs) = editDistance as (b :: bs) + 1 ∨
            editDistance (a :: as) (b :: bs) = editDistance (a :: as) bs + 1 := by
        rw [editDistance_cons_cons]
        omega
      · rw [hMin]
        exact hFirst
      · rw [hMin]
        exact hDelete (b :: bs)
      · rw [hMin]
        exact hInsert

/-- So many edits are enough. The induction is on the first word, with all second words at once. -/
theorem edits_editDistance (as bs : List Char) : Edits (editDistance as bs) as bs := by
  induction as generalizing bs with
  | nil => exact edits_nil_left bs
  | cons a as ih => exact edits_cons_left ih a bs

/-- A deletion at the front brings the word no nearer than by one, by induction on the
other word. -/
theorem editDistance_le_cons_right (as : List Char) (b : Char) (bs : List Char) :
    editDistance as bs ≤ editDistance as (b :: bs) + 1 := by
  induction as with
  | nil =>
      simp only [editDistance_nil_left, List.length_cons]
      omega
  | cons a as ih =>
      have hDelete := editDistance_cons_left_le a as bs
      rw [editDistance_cons_cons]
      omega

/-- Another first character makes a difference of one at most, in either direction, as the two may
be exchanged. -/
theorem editDistance_replace_le (as : List Char) (b c : Char) (bs : List Char) :
    editDistance as (b :: bs) ≤ editDistance as (c :: bs) + 1 := by
  induction as with
  | nil => simp [editDistance_nil_left]
  | cons a as ih =>
      have hBoth := editDistance_cons_cons_le a b as bs
      have hDelete := editDistance_cons_left_le a as (b :: bs)
      have hInsert := editDistance_cons_right_le (a :: as) b bs
      rw [editDistance_cons_cons a c]
      omega

/-- What one edit does to the distances from all words it does as well with the same character in
front. -/
theorem editDistance_cons_le_of_le (h : ∀ as, editDistance as finish ≤ editDistance as start + 1)
    (b : Char) (as : List Char) :
    editDistance as (b :: finish) ≤ editDistance as (b :: start) + 1 := by
  induction as with
  | nil =>
      have hNil := h []
      simp only [editDistance_nil_left, List.length_cons] at hNil ⊢
      omega
  | cons a as ih =>
      have hShorter := h as
      have hLonger := h (a :: as)
      rw [editDistance_cons_cons, editDistance_cons_cons]
      omega

/-- The same holds with any text in front, by induction on it. So an edit may be looked at where it
happens. -/
theorem editDistance_append_le (h : ∀ as, editDistance as finish ≤ editDistance as start + 1)
    (before as : List Char) :
    editDistance as (before ++ finish) ≤ editDistance as (before ++ start) + 1 := by
  induction before generalizing as with
  | nil => exact h as
  | cons b before ih => exact editDistance_cons_le_of_le ih b as

/-- One edit leads away from a word by one at most. This is shown at the front of a word first and
then behind any beginning. -/
theorem Edit.editDistance_le (h : Edit start finish) (as : List Char) :
    editDistance as finish ≤ editDistance as start + 1 := by
  cases h with
  | insert before after c =>
      exact editDistance_append_le (fun as => editDistance_cons_right_le as c after) before as
  | delete before after c =>
      exact editDistance_append_le (fun as => editDistance_le_cons_right as c after) before as
  | replace before after c d =>
      exact editDistance_append_le (fun as => editDistance_replace_le as d c after) before as

theorem editDistance_self (word : List Char) : editDistance word word = 0 := by
  induction word with
  | nil => rfl
  | cons c word ih =>
      rw [editDistance_cons_cons, ih]
      simp

/-- Fewer edits are not enough, since each of them leads away by one at most. -/
theorem Edits.editDistance_le {n : Nat} (h : Edits n start finish) :
    editDistance start finish ≤ n := by
  induction h with
  | zero word => exact (editDistance_self word).le
  | succ _ last ih => exact (last.editDistance_le _).trans (Nat.succ_le_succ ih)

/-- The distance of two words is the least number of edits that lead from one to the other. So it
does not depend on how it is computed. -/
theorem isLeast_editDistance (as bs : List Char) :
    IsLeast {n | Edits n as bs} (editDistance as bs) :=
  ⟨edits_editDistance as bs, fun _ h => h.editDistance_le⟩

end LocaleMessage.Text
