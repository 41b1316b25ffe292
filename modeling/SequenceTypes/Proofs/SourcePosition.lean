import SequenceTypes.Diagnostic.Location

/-! Source positions. A byte offset stands for the last character boundary at or before it, which a short
search finds; its line counts the newlines before that boundary, its column the characters since the last
of them. Going forward in a text the positions grow, one character at a time, in the order of lines first
and columns then. -/

namespace SequenceTypes

/-- The search of a boundary from an offset: after so many bytes gone back it stands at `b`. No rule goes
back from offset 0. -/
inductive BoundarySearch (query : String) : Nat → Nat → query.Pos → Prop
  | found (b : query.Pos) : BoundarySearch query b.offset.byteIdx 0 b
  | back {offset steps : Nat} {b : query.Pos} (hinside : ¬ (String.Pos.Raw.mk (offset + 1)).IsValid query)
      (hrest : BoundarySearch query offset steps b) : BoundarySearch query (offset + 1) (steps + 1) b

/-- The greatest boundary that is at most a byte offset, and at most the end of the text. -/
structure IsFloor (query : String) (offset : Nat) (b : query.Pos) : Prop where
  le : b.offset.byteIdx ≤ min offset query.utf8ByteSize
  greatest : ∀ p : query.Pos, p.offset.byteIdx ≤ min offset query.utf8ByteSize → p ≤ b

variable {query : String}

theorem exists_boundarySearch (query : String) (offset : Nat) :
    ∃ steps, BoundarySearch query offset steps (floorPosition query offset) := by
  fun_induction floorPosition query offset with
  | case1 offset hvalid => exact ⟨0, .found ⟨⟨offset⟩, hvalid⟩⟩
  | case2 offset hinside ih =>
      obtain ⟨steps, hsteps⟩ := ih
      cases offset with
      | zero => exact absurd String.Pos.Raw.isValid_zero hinside
      | succ offset => exact ⟨steps + 1, .back hinside hsteps⟩

namespace BoundarySearch

variable {offset steps : Nat} {b : query.Pos}

theorem offset_add_steps (h : BoundarySearch query offset steps b) : b.offset.byteIdx + steps = offset := by
  induction h with
  | found b => rfl
  | back _ _ ih => rw [← Nat.add_assoc, ih]

theorem le_of_le (h : BoundarySearch query offset steps b) {p : query.Pos} (hp : p.offset.byteIdx ≤ offset) :
    p ≤ b := by
  induction h with
  | found b => exact hp
  | @back offset _ _ hinside _ ih =>
      -- the offset gone back from is no boundary, so it is not where `p` stands
      have hne : p.offset.byteIdx ≠ offset + 1 := fun heq => hinside (heq ▸ p.isValid)
      exact ih (Nat.le_of_lt_succ (Nat.lt_of_le_of_ne hp hne))

/-- A character has at most four bytes, so at most three are gone back. -/
theorem steps_le (h : BoundarySearch query offset steps b) (hoffset : offset ≤ query.utf8ByteSize) :
    steps ≤ 3 := by
  have hsum := h.offset_add_steps
  by_cases hend : b = query.endPos
  · have hb : b.offset.byteIdx = query.utf8ByteSize := by rw [hend]; rfl
    omega
  · have hnext : offset < (b.next hend).offset.byteIdx :=
      Nat.lt_of_not_le fun hle => Std.not_le.2 String.Pos.lt_next (h.le_of_le hle)
    have hsize := (b.get hend).utf8Size_le_four
    rw [String.Pos.byteIdx_offset_next] at hnext
    omega

theorem isFloor (h : BoundarySearch query (min offset query.utf8ByteSize) steps b) :
    IsFloor query offset b :=
  ⟨h.offset_add_steps ▸ Nat.le_add_right _ _, fun _ => h.le_of_le⟩

end BoundarySearch

namespace IsFloor

variable {o₁ o₂ : Nat} {b₁ b₂ : query.Pos}

theorem mono (h₁ : IsFloor query o₁ b₁) (h₂ : IsFloor query o₂ b₂) (ho : o₁ ≤ o₂) : b₁ ≤ b₂ :=
  h₂.greatest b₁ (by have := h₁.le; omega)

theorem eq (h₁ : IsFloor query o₁ b₁) (h₂ : IsFloor query o₁ b₂) : b₁ = b₂ :=
  Std.le_antisymm (h₁.mono h₂ (Nat.le_refl _)) (h₂.mono h₁ (Nat.le_refl _))

end IsFloor

theorem isFloor_floorPosition (query : String) (offset : Nat) :
    IsFloor query offset (floorPosition query (min offset query.utf8ByteSize)) :=
  have ⟨_, hsearch⟩ := exists_boundarySearch query (min offset query.utf8ByteSize)
  hsearch.isFloor

theorem textBefore_splits {offset : Nat} {b : query.Pos} (hb : IsFloor query offset b) :
    ∃ rest, b.Splits (textBefore query offset) rest := by
  rw [textBefore, (isFloor_floorPosition query offset).eq hb]
  exact ⟨_, b.splits⟩

/-- The line and column of a boundary. The text before it is cut after its last newline: the line counts
the newlines, the column the characters after the cut. -/
def MarksPlace (b : query.Pos) (place : Nat × Nat) : Prop :=
  ∃ lines last rest : String, b.Splits (lines ++ last) rest ∧
    (lines = "" ∨ ∃ before, lines = before ++ "\n") ∧ '\n' ∉ last.toList ∧
    place.1 = (lines ++ last).toList.count '\n' + 1 ∧ place.2 = last.length + 1

theorem exists_lastLine (cs : List Char) : ∃ lines last : List Char, cs = lines ++ last ∧
    (lines = [] ∨ ∃ before, lines = before ++ ['\n']) ∧ '\n' ∉ last ∧
    (lineColumnAfter cs).2 = last.length + 1 := by
  refine ⟨(cs.reverse.dropWhile (· ≠ '\n')).reverse, (cs.reverse.takeWhile (· ≠ '\n')).reverse,
    ?_, ?_, ?_, ?_⟩
  · rw [← List.reverse_append, List.takeWhile_append_dropWhile, List.reverse_reverse]
  · have hhead := List.head?_dropWhile_not (· ≠ '\n') cs.reverse
    cases hdrop : cs.reverse.dropWhile (· ≠ '\n') with
    | nil => exact .inl rfl
    | cons c before =>
        rw [hdrop] at hhead
        have hc : c = '\n' := by simpa using hhead
        exact .inr ⟨before.reverse, by rw [hc, List.reverse_cons]⟩
  · intro hnewline
    have := List.all_takeWhile (p := (· ≠ '\n')) (l := cs.reverse)
    simpa using List.all_eq_true.1 this '\n' (List.mem_reverse.1 hnewline)
  · rw [List.length_reverse]
    rfl

theorem marksPlace_of_splits {b : query.Pos} {text rest : String} (hb : b.Splits text rest) :
    MarksPlace b (lineColumnAfter text.toList) := by
  obtain ⟨lines, last, htext, hlines, hlast, hcolumn⟩ := exists_lastLine text.toList
  have hcut : text = String.ofList lines ++ String.ofList last := by
    rw [← String.ofList_append, ← htext, String.ofList_toList]
  refine ⟨String.ofList lines, String.ofList last, rest, hcut ▸ hb, ?_, ?_, ?_, ?_⟩
  · rcases hlines with rfl | ⟨before, rfl⟩
    · exact .inl rfl
    · exact .inr ⟨String.ofList before, String.ofList_append⟩
  · rwa [String.toList_ofList]
  · rw [← hcut]
    rfl
  · rw [hcolumn, String.length_ofList]

/-- One character more: a newline starts the next line, any other character moves one column on. -/
theorem lineColumnAfter_append_singleton (cs : List Char) (c : Char) :
    lineColumnAfter (cs ++ [c]) = if c = '\n' then ((lineColumnAfter cs).1 + 1, 1)
      else ((lineColumnAfter cs).1, (lineColumnAfter cs).2 + 1) := by
  split
  · next hc => simp [lineColumnAfter, hc]
  · next hc => simp [lineColumnAfter, hc]

theorem lineColumnAfter_lt_append_singleton (cs : List Char) (c : Char) :
    Prod.Lex (· < ·) (· < ·) (lineColumnAfter cs) (lineColumnAfter (cs ++ [c])) := by
  rw [lineColumnAfter_append_singleton, Prod.lex_def]
  split
  · exact .inl (Nat.lt_succ_self _)
  · exact .inr ⟨rfl, Nat.lt_succ_self _⟩

theorem lineColumnAfter_lt_append (cs : List Char) {more : List Char} (hmore : more ≠ []) :
    Prod.Lex (· < ·) (· < ·) (lineColumnAfter cs) (lineColumnAfter (cs ++ more)) := by
  induction more generalizing cs with
  | nil => exact absurd rfl hmore
  | cons c more ih =>
      have hstep := lineColumnAfter_lt_append_singleton cs c
      by_cases hnil : more = []
      · subst hnil
        exact hstep
      · have hrest := ih (cs ++ [c]) hnil
        rw [List.append_assoc, List.singleton_append, Prod.lex_def] at hrest
        rw [Prod.lex_def] at hstep ⊢
        omega

theorem lineColumn_eq_of_isFloor {o₁ o₂ : Nat} {b : query.Pos} (h₁ : IsFloor query o₁ b)
    (h₂ : IsFloor query o₂ b) : lineColumn query o₁ = lineColumn query o₂ := by
  obtain ⟨_, hsplit₁⟩ := textBefore_splits h₁
  obtain ⟨_, hsplit₂⟩ := textBefore_splits h₂
  rw [lineColumn, hsplit₁.eq_left hsplit₂, lineColumn]

theorem lineColumn_lt_of_lt {o₁ o₂ : Nat} {b₁ b₂ : query.Pos} (h₁ : IsFloor query o₁ b₁)
    (h₂ : IsFloor query o₂ b₂) (hlt : b₁ < b₂) :
    Prod.Lex (· < ·) (· < ·) (lineColumn query o₁) (lineColumn query o₂) := by
  obtain ⟨_, hsplit₁⟩ := textBefore_splits h₁
  obtain ⟨_, hsplit₂⟩ := textBefore_splits h₂
  obtain ⟨more, hmore, htext, -⟩ := (hsplit₁.lt_iff_exists_eq_append hsplit₂).1 hlt
  rw [lineColumn, lineColumn, htext, String.toList_append]
  exact lineColumnAfter_lt_append _ fun hnil => hmore (String.toList_eq_nil_iff.1 hnil)

/-- Source positions are faithful. From an offset, cut off at the end of the text, the search goes back at
most three bytes, never below 0, to the greatest boundary that is not past it, and the line and column are
those of the boundary. Positions keep the order of offsets, strictly just where the boundaries differ. -/
theorem lineColumn_faithful (query : String) :
    (∀ offset, ∃ b steps, floorPosition query (min offset query.utf8ByteSize) = b ∧
      BoundarySearch query (min offset query.utf8ByteSize) steps b ∧ steps ≤ 3 ∧
      IsFloor query offset b ∧ MarksPlace b (lineColumn query offset)) ∧
    ∀ o₁ o₂ b₁ b₂, IsFloor query o₁ b₁ → IsFloor query o₂ b₂ → o₁ ≤ o₂ →
      Prod.Lex (· < ·) (· ≤ ·) (lineColumn query o₁) (lineColumn query o₂) ∧
      (Prod.Lex (· < ·) (· < ·) (lineColumn query o₁) (lineColumn query o₂) ↔ b₁ ≠ b₂) := by
  constructor
  · intro offset
    obtain ⟨steps, hsearch⟩ := exists_boundarySearch query (min offset query.utf8ByteSize)
    obtain ⟨_, hsplit⟩ := textBefore_splits hsearch.isFloor
    exact ⟨_, steps, rfl, hsearch, hsearch.steps_le (Nat.min_le_right _ _), hsearch.isFloor,
      marksPlace_of_splits hsplit⟩
  · intro o₁ o₂ b₁ b₂ h₁ h₂ ho
    by_cases hb : b₁ = b₂
    · subst hb
      rw [lineColumn_eq_of_isFloor h₁ h₂, Prod.lex_def, Prod.lex_def]
      exact ⟨.inr ⟨rfl, Nat.le_refl _⟩, iff_of_false (by omega) (fun hne => hne rfl)⟩
    · have hlt := lineColumn_lt_of_lt h₁ h₂ (Std.lt_of_le_of_ne (h₁.mono h₂ ho) hb)
      refine ⟨?_, iff_of_true hlt hb⟩
      rw [Prod.lex_def] at hlt ⊢
      omega

/-- Offsets inside the two-byte character and inside the three-byte one after the newline. -/
theorem lineColumn_grows_across_characters : ∃ b₁ b₂ : ("é\n€x" : String).Pos,
    IsFloor "é\n€x" 1 b₁ ∧ IsFloor "é\n€x" 5 b₂ ∧ b₁ ≠ b₂ ∧
    Prod.Lex (· < ·) (· < ·) (lineColumn "é\n€x" 1) (lineColumn "é\n€x" 5) := by
  have hvalid : (String.Pos.Raw.mk 3).IsValid "é\n€x" := by decide +kernel
  have h₁ : IsFloor "é\n€x" 1 ("é\n€x" : String).startPos :=
    BoundarySearch.isFloor (.back (by decide +kernel) (.found ("é\n€x" : String).startPos))
  have h₂ : IsFloor "é\n€x" 5 ⟨⟨3⟩, hvalid⟩ :=
    BoundarySearch.isFloor (.back (by decide +kernel) (.back (by decide +kernel) (.found ⟨⟨3⟩, hvalid⟩)))
  have hne : ("é\n€x" : String).startPos ≠ ⟨⟨3⟩, hvalid⟩ :=
    fun heq => absurd (congrArg (·.offset.byteIdx) heq) (show 0 ≠ 3 by decide)
  exact ⟨_, _, h₁, h₂, hne, (((lineColumn_faithful "é\n€x").2 1 5 _ _ h₁ h₂ (by decide)).2).2 hne⟩

end SequenceTypes
