import SequenceTypes.Diagnostic.Failure

/-! The text of messages. A template is a row of pieces with placeholders between them, and filling it puts
the first operand into the first gap, the second into the second, and so on, whatever the operands contain.
Operands that are longer than the limit are cut. The mark of the cut takes three characters, so a limit
below three is kept only by the operands that need no cut. -/

namespace SequenceTypes

namespace Template

/-- The pieces of a template between its placeholders. -/
def pieces (template : String) : List String := (template.split '%').toList.map (·.copy)

/-- A first piece and the pieces after it, each with an operand before it, or with nothing once the operands
are used up. -/
def alternate (first : String) (rest operands : List String) : String :=
  first ++ String.join (rest.mapIdx fun n piece => operands.getD n "" ++ piece)

theorem pieces_intercalate {first : String} {rest : List String}
    (hplain : ∀ piece ∈ first :: rest, '%' ∉ piece.toList) :
    pieces ("%".intercalate (first :: rest)) = first :: rest := by
  have hsplit := String.toList_split_intercalate hplain
  rwa [if_neg (List.cons_ne_nil first rest)] at hsplit

theorem exists_eq_intercalate (cs : List Char) :
    ∃ first rest, String.ofList cs = "%".intercalate (first :: rest) ∧
      ∀ piece ∈ first :: rest, '%' ∉ piece.toList := by
  induction cs with
  | nil => exact ⟨"", [], rfl, by simp⟩
  | cons c cs ih =>
      obtain ⟨first, rest, hcs, hplain⟩ := ih
      have hcons : String.ofList (c :: cs) = String.singleton c ++ "%".intercalate (first :: rest) := by
        rw [← hcs, ← String.toList_inj]
        simp
      by_cases hc : c = '%'
      · -- a placeholder ends an empty piece
        refine ⟨"", first :: rest, ?_, by simpa using hplain⟩
        rw [hcons, hc, String.intercalate_cons_cons]
        rfl
      · refine ⟨String.singleton c ++ first, rest, ?_, ?_⟩
        · rw [hcons, String.intercalate_cons_append]
        · rw [List.forall_mem_cons] at hplain ⊢
          exact ⟨by simpa [Ne.symm hc] using hplain.1, hplain.2⟩

theorem count_intercalate {first : String} {rest : List String}
    (hplain : ∀ piece ∈ first :: rest, '%' ∉ piece.toList) :
    ("%".intercalate (first :: rest)).toList.count '%' = rest.length := by
  induction rest generalizing first with
  | nil =>
      rw [String.intercalate_singleton]
      exact List.count_eq_zero.2 (hplain first List.mem_cons_self)
  | cons piece rest ih =>
      rw [List.forall_mem_cons] at hplain
      rw [String.intercalate_cons_cons, String.toList_append, String.toList_append, List.count_append,
        List.count_append, ih hplain.2, List.count_eq_zero.2 hplain.1, Nat.zero_add, Nat.add_comm]
      rfl

theorem fillChars_plain_append {cs : List Char} (hplain : '%' ∉ cs) (ds : List Char)
    (operands : List String) : fillChars (cs ++ ds) operands = cs ++ fillChars ds operands := by
  induction cs with
  | nil => rfl
  | cons c cs ih =>
      rw [List.mem_cons, not_or] at hplain
      have hstep : fillChars (c :: (cs ++ ds)) operands = c :: fillChars (cs ++ ds) operands :=
        if_neg (Ne.symm hplain.1)
      rw [List.cons_append, hstep, ih hplain.2, List.cons_append]

theorem fill_plain_append {piece : String} (hplain : '%' ∉ piece.toList) (template : String)
    (operands : List String) : fill (piece ++ template) operands = piece ++ fill template operands := by
  rw [fill, String.toList_append, fillChars_plain_append hplain, String.ofList_append,
    String.ofList_toList, fill]

/-- A placeholder takes one operand, if there is one. -/
theorem fill_placeholder_append (template : String) (operands : List String) :
    fill ("%" ++ template) operands = operands.headD "" ++ fill template operands.tail := by
  rw [fill, String.toList_append]
  cases operands with
  | nil =>
      rw [List.headD_nil, String.empty_append]
      rfl
  | cons operand operands =>
      show String.ofList (operand.toList ++ fillChars template.toList operands) = _
      rw [String.ofList_append, String.ofList_toList]
      rfl

theorem fill_intercalate {first : String} {rest : List String}
    (hplain : ∀ piece ∈ first :: rest, '%' ∉ piece.toList) (operands : List String) :
    fill ("%".intercalate (first :: rest)) operands = alternate first rest operands := by
  induction rest generalizing first operands with
  | nil =>
      have hfill := fill_plain_append (hplain first List.mem_cons_self) "" operands
      rw [String.append_empty] at hfill
      rw [String.intercalate_singleton, hfill]
      rfl
  | cons piece rest ih =>
      rw [List.forall_mem_cons] at hplain
      rw [String.intercalate_cons_cons, String.append_assoc, fill_plain_append hplain.1,
        fill_placeholder_append, ih hplain.2, alternate, alternate, List.mapIdx_cons, String.join_cons,
        String.append_assoc]
      cases operands <;> rfl

theorem alternate_take (first : String) (rest operands : List String) :
    alternate first rest (operands.take rest.length) = alternate first rest operands := by
  have hrest : (rest.mapIdx fun n piece => (operands.take rest.length).getD n "" ++ piece) =
      rest.mapIdx fun n piece => operands.getD n "" ++ piece := by
    rw [List.mapIdx_eq_mapIdx_iff]
    intro n hn
    rw [List.getD_eq_getElem?_getD, List.getElem?_take_of_lt hn, List.getD_eq_getElem?_getD]
  rw [alternate, hrest, alternate]

theorem exists_pieces (template : String) :
    ∃ first rest, pieces template = first :: rest ∧ rest.length = template.toList.count '%' ∧
      ∀ operands, fill template operands = alternate first rest operands := by
  obtain ⟨first, rest, hcut, hplain⟩ := exists_eq_intercalate template.toList
  rw [String.ofList_toList] at hcut
  rw [hcut]
  exact ⟨first, rest, pieces_intercalate hplain, (count_intercalate hplain).symm, fill_intercalate hplain⟩

/-- Filling is positional. The placeholders cut a template into one piece more than there are placeholders,
and the filled template is these pieces with an operand in each gap, as it is: the operands are not searched
for placeholders, gaps without operand stay empty, and operands without gap do not matter. -/
theorem fill_positional (template : String) :
    ∃ first rest, pieces template = first :: rest ∧ rest.length = template.toList.count '%' ∧
      ∀ operands, fill template operands = alternate first rest operands ∧
        fill template (operands.take rest.length) = fill template operands := by
  obtain ⟨first, rest, hpieces, hcount, hfill⟩ := exists_pieces template
  refine ⟨first, rest, hpieces, hcount, fun operands => ⟨hfill operands, ?_⟩⟩
  rw [hfill, hfill, alternate_take]

example : fill "%: % and %." ["100%", "%%"] = "100%: %% and ." := by decide

end Template

/-- A text within the limit is shown as it is. Of any other as many characters are kept as leave room for the
mark of the cut. -/
theorem cut_cases (limit : Nat) (text : String) :
    (text.length ≤ limit ∧ cut limit text = text) ∨
      limit < text.length ∧ ∃ kept : String, kept.toList <+: text.toList ∧ kept.length = limit - 3 ∧
        cut limit text = kept ++ "..." := by
  unfold cut
  split
  · next hle => exact .inl ⟨hle, rfl⟩
  · next hgt =>
      refine .inr ⟨Nat.lt_of_not_le hgt, String.ofList (text.toList.take (limit - 3)), ?_, ?_, rfl⟩
      · rw [String.toList_ofList]
        exact List.take_prefix _ _
      · rw [String.length_ofList, List.length_take, String.length_toList]
        omega

theorem length_cut_le_iff (limit : Nat) (text : String) :
    (cut limit text).length ≤ limit ↔ text.length ≤ limit ∨ 3 ≤ limit := by
  rcases cut_cases limit text with ⟨hle, hcut⟩ | ⟨hlt, kept, -, hkept, hcut⟩
  · rw [hcut]
    exact iff_of_true hle (.inl hle)
  · have hmark : (cut limit text).length = limit - 3 + 3 := by
      rw [hcut, String.length_append, hkept]
      rfl
    omega

namespace Draft

theorem foldl_operand (d : Draft) (texts : List String) :
    texts.foldl operand d = { d with operands := d.operands ++ texts.map (cut d.limit) } := by
  induction texts generalizing d with
  | nil => rw [List.map_nil, List.append_nil, List.foldl_nil]
  | cons text texts ih =>
      rw [List.foldl_cons, ih, List.map_cons]
      show { d with operands := d.operands ++ [cut d.limit text] ++ texts.map (cut d.limit) } = _
      rw [List.append_assoc, List.singleton_append]

/-- A message is the template of its kind with the operands as they are shown under the limit. An operand
within the limit is shown in full, any other by a beginning of it and three dots. What is shown is within
the limit exactly if the operand is or the limit has room for the dots. -/
theorem limited_message_exact (kind : ErrorKind) (limit : Nat) (texts : List String) :
    (∃ first rest, Template.pieces kind.template = first :: rest ∧
      (texts.foldl operand ((new kind).withLimit limit)).build.message =
        Template.alternate first rest (texts.map (cut limit))) ∧
    ∀ text : String,
      ((text.length ≤ limit ∧ cut limit text = text) ∨
        limit < text.length ∧ ∃ kept : String, kept.toList <+: text.toList ∧ kept.length = limit - 3 ∧
          cut limit text = kept ++ "...") ∧
      ((cut limit text).length ≤ limit ↔ text.length ≤ limit ∨ 3 ≤ limit) := by
  refine ⟨?_, fun text => ⟨cut_cases limit text, length_cut_le_iff limit text⟩⟩
  obtain ⟨first, rest, hpieces, -, hfill⟩ := Template.exists_pieces kind.template
  refine ⟨first, rest, hpieces, ?_⟩
  rw [foldl_operand]
  exact hfill _

/-- Under a limit of two characters a prefix of three is shown by three. -/
theorem message_exceeds_small_limit :
    ¬ ∃ shown : String, shown.length ≤ 2 ∧
      (["abc"].foldl operand ((new .unknownPrefix).withLimit 2)).build.message =
        "No namespace declared for prefix '" ++ shown ++ "'." := by
  rintro ⟨shown, hshown, hmessage⟩
  have hdots : (["abc"].foldl operand ((new .unknownPrefix).withLimit 2)).build.message =
      "No namespace declared for prefix '" ++ "..." ++ "'." := by decide +kernel
  rw [hdots, String.append_left_inj, String.append_right_inj] at hmessage
  rw [← hmessage] at hshown
  exact absurd hshown (by decide)

end Draft
end SequenceTypes
