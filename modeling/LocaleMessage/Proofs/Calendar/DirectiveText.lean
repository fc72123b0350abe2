import LocaleMessage.Calendar.DirectiveText

/-! Layouts written as text and read back. Copied text comes back character by character, all other
directives as they were. -/
namespace LocaleMessage.Calendar

/-- The directive as it is read back, with a directive for each character that is copied. All others
come back as they were. -/
def Directive.characters : Directive → Layout
  | text copied => copied.map fun c => .text [c]
  | directive => [directive]

/-- Only three, six or nine digits of a fraction can be asked for in text. -/
def Directive.Readable : Directive → Prop
  | fractionDigits digits _ => digits ∈ [3, 6, 9]
  | _ => True

theorem Directive.render_characters (dt : DateTime) (d : Directive) :
    Layout.render d.characters dt = d.render dt := by
  cases d with
  | text copied =>
      simp only [characters, Layout.render, List.flatMap_map, render]
      exact List.flatMap_singleton' copied
  | _ => exact List.append_nil _

theorem Layout.render_append (dt : DateTime) (first second : Layout) :
    Layout.render (first ++ second) dt = first.render dt ++ second.render dt :=
  List.flatMap_append

/-- Both layouts write the same. They need not be equal, since copied text is read back one
character at a time. -/
theorem Layout.render_characters (dt : DateTime) (l : Layout) :
    Layout.render (l.flatMap Directive.characters) dt = l.render dt := by
  induction l with
  | nil => rfl
  | cons d l ih =>
      rw [List.flatMap_cons, render_append, ih, Directive.render_characters]
      rfl

/-- The text is read as the layout within every bound that is long enough. The bound is the one that
the reader is given to come to an end. -/
def Reads (text : List Char) (l : Layout) : Prop :=
  ∀ bound, text.length ≤ bound → readLayout bound text = some l

theorem Reads.nil : Reads [] [] := by
  intro bound _
  cases bound <;> rfl

theorem Reads.copied {c : Char} {rest : List Char} {l : Layout} (hc : c ≠ '%')
    (h : Reads rest l) : Reads (c :: rest) (.text [c] :: l) := by
  intro bound hBound
  cases bound with
  | zero => contradiction
  | succ bound =>
      rw [readLayout, h bound (Nat.le_of_succ_le_succ hBound)]
      · rfl
      · exact hc

/-- Behind a percent sign stands a directive, which is read as a whole wherever its end is found. -/
theorem Reads.directive {code rest : List Char} {directives l : Layout}
    (hCode : readDirective (code ++ rest) = some (directives, rest)) (h : Reads rest l) :
    Reads ('%' :: code ++ rest) (directives ++ l) := by
  intro bound hBound
  cases bound with
  | zero => contradiction
  | succ bound =>
      have hRest : rest.length ≤ bound := by
        simp only [List.cons_append, List.length_cons, List.length_append] at hBound
        omega
      simp [readLayout, hCode, h bound hRest]

/-- A directive that is no text stands behind a percent sign, and reading finds its end. -/
theorem Directive.readDirective_toText {d : Directive} (hReadable : d.Readable)
    (hText : ∀ copied, d ≠ .text copied) :
    ∃ code, d.toText = '%' :: code ∧
      ∀ rest, readDirective (code ++ rest) = some (d.characters, rest) := by
  cases d with
  | text copied => exact absurd rfl (hText copied)
  | field f padding => cases f <;> cases padding <;> exact ⟨_, rfl, fun _ => rfl⟩
  | name n => cases n <;> exact ⟨_, rfl, fun _ => rfl⟩
  | fraction => exact ⟨_, rfl, fun _ => rfl⟩
  | fractionDigits digits point =>
      simp only [Readable, List.mem_cons, List.not_mem_nil, or_false] at hReadable
      rcases hReadable with rfl | rfl | rfl <;> cases point <;> exact ⟨_, rfl, fun _ => rfl⟩

theorem Reads.text (copied : List Char) {rest : List Char} {l : Layout} (h : Reads rest l) :
    Reads ((Directive.text copied).toText ++ rest) ((Directive.text copied).characters ++ l) := by
  induction copied with
  | nil => exact h
  | cons c copied ih =>
      by_cases hPercent : c = '%'
      · subst hPercent
        have hDoubled : readDirective (['%'] ++ ((Directive.text copied).toText ++ rest)) =
            some ([.text ['%']], (Directive.text copied).toText ++ rest) := rfl
        have hReads := Reads.directive hDoubled ih
        exact hReads
      · have hCons : (Directive.text (c :: copied)).toText =
            c :: (Directive.text copied).toText := by
          simp [Directive.toText, hPercent]
        rw [hCons]
        exact Reads.copied hPercent ih

/-- A directive that can be asked for in text is read back in front of anything. -/
theorem Directive.reads {d : Directive} (hReadable : d.Readable) {rest : List Char} {l : Layout}
    (h : Reads rest l) : Reads (d.toText ++ rest) (d.characters ++ l) := by
  by_cases hText : ∃ copied, d = .text copied
  · obtain ⟨copied, rfl⟩ := hText
    exact Reads.text copied h
  · obtain ⟨code, hCode, hRead⟩ :=
      readDirective_toText hReadable fun copied hEq => hText ⟨copied, hEq⟩
    rw [hCode]
    exact Reads.directive (hRead rest) h

/-- Layouts are read back from their text, character by character where text is copied. Fractions
that cannot be asked for in text are left out. -/
theorem Layout.ofText?_toText {l : Layout} (h : ∀ d ∈ l, d.Readable) :
    ofText? l.toText = some (l.flatMap Directive.characters) := by
  suffices hReads : Reads l.toText (l.flatMap Directive.characters) from
    hReads l.toText.length (Nat.le_refl _)
  induction l with
  | nil => exact Reads.nil
  | cons d l ih =>
      obtain ⟨hReadable, hOthers⟩ := List.forall_mem_cons.mp h
      exact Directive.reads hReadable (ih hOthers)

end LocaleMessage.Calendar
