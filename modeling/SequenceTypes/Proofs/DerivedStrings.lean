import SequenceTypes.Proofs.CastAgreement
import SequenceTypes.Proofs.DigitText

/-! Casting along the types derived from `xs:string`. The words of a text are not changed by the facets
that normalize white space, so normalizing for a type after normalizing for its parent is the same as
normalizing for the type alone. Patterns narrow down the tree. Reading a text as a type is therefore
reading it as any of the ancestors first, and what has been read is read by the ancestors as it is. -/

namespace SequenceTypes

open Traversal

namespace Text

/-- The text before the first separator is a piece of its own. -/
theorem fields_append {isSeparator : Char → Bool} {f : List Char} {sep : Char}
    (hf : ∀ c ∈ f, isSeparator c = false) (hsep : isSeparator sep) (rest : List Char) :
    fields isSeparator (f ++ sep :: rest) = f :: fields isSeparator rest := by
  induction f with
  | nil => rw [List.nil_append, fields, if_pos hsep]
  | cons c f ih =>
      obtain ⟨hc, hf⟩ := List.forall_mem_cons.1 hf
      rw [List.cons_append, fields, ih hf, hc]
      rfl

/-- What a word is: a piece without space that is not empty. -/
theorem isWord_of_mem_words {cs w : List Char} (hw : w ∈ words cs) :
    w ≠ [] ∧ ∀ c ∈ w, isSpace c = false := by
  obtain ⟨hfield, hne⟩ := List.mem_filter.1 hw
  exact ⟨of_decide_eq_true hne, fun c hc => not_isSeparator_of_mem_fields hfield hc⟩

/-- Words joined by blanks are taken apart again. -/
theorem words_intercalate {ws : List (List Char)}
    (hws : ∀ w ∈ ws, w ≠ [] ∧ ∀ c ∈ w, isSpace c = false) : words ([' '].intercalate ws) = ws := by
  induction ws with
  | nil => rfl
  | cons w ws ih =>
      obtain ⟨⟨hne, hspace⟩, hws⟩ := List.forall_mem_cons.1 hws
      cases ws with
      | nil =>
          rw [List.intercalate_singleton, words, fields_of_forall hspace]
          simp [hne]
      | cons x ws =>
          have hrest := ih hws
          rw [words] at hrest ⊢
          rw [List.intercalate_cons_cons, List.append_assoc, List.singleton_append,
            fields_append hspace rfl, List.filter_cons_of_pos (by simpa using hne), hrest]

theorem words_collapse (cs : List Char) : words (collapse cs) = words cs :=
  words_intercalate fun _ hw => isWord_of_mem_words hw

/-- The facet `collapse` is idempotent. -/
theorem collapse_collapse (cs : List Char) : collapse (collapse cs) = collapse cs := by
  rw [collapse, words_collapse, collapse]

theorem fields_replaceSpaces (cs : List Char) : fields isSpace (replaceSpaces cs) = fields isSpace cs := by
  induction cs with
  | nil => rfl
  | cons c cs ih =>
      rw [replaceSpaces] at ih
      rw [replaceSpaces, List.map_cons]
      by_cases hc : isSpace c
      · have hblank : isSpace ' ' := rfl
        rw [if_pos hc, fields, fields, if_pos hc, if_pos hblank, ih]
      · rw [if_neg hc, fields, fields, if_neg hc, if_neg hc, ih]

/-- The facet `replace` before the facet `collapse` makes no difference. -/
theorem collapse_replaceSpaces (cs : List Char) : collapse (replaceSpaces cs) = collapse cs := by
  rw [collapse, words, fields_replaceSpaces, collapse, words]

end Text

namespace Cast

/-- The text of a value of `xs:string` or of a type derived from it that is made from some text. -/
def stringText? (t : AtomicType) (cs : List Char) : Option (List Char) :=
  if t = .string then some cs else derivedText? t cs

variable {t u : AtomicType} {cs ds : List Char}

theorem stringText?_eq (ht : t.isStringLike) (hne : t ≠ .string) (hspace : t ≠ .normalizedString) :
    stringText? t cs =
      if t.matchesPattern (Text.collapse cs) then some (Text.collapse cs) else none := by
  rw [stringText?, if_neg hne]
  cases t with
  | string => exact absurd rfl hne
  | normalizedString => exact absurd rfl hspace
  | token | language | nmtoken | name | ncname => rfl
  | _ => cases ht

/-- What has been read meets the facets of the type. -/
theorem admitsText_of_stringText? (ht : t.isStringLike) (h : stringText? t cs = some ds) :
    t.admitsText ds := by
  by_cases hstring : t = .string
  · subst hstring
    rfl
  by_cases hspace : t = .normalizedString
  · subst hspace
    obtain rfl : Text.replaceSpaces cs = ds := Option.some.inj h
    have hidem : Text.replaceSpaces (Text.replaceSpaces cs) = Text.replaceSpaces cs := by
      simp only [Text.replaceSpaces, List.map_map]
      refine List.map_congr_left fun c _ => ?_
      by_cases hc : Text.isSpace c <;> simp [hc]
    simp [AtomicType.admitsText, AtomicType.isNormalized, AtomicType.matchesPattern, hidem]
  · rw [stringText?_eq ht hstring hspace] at h
    obtain ⟨hpattern, heq⟩ := Option.ite_none_right_eq_some.1 h
    cases heq
    have hnormal : t.isNormalized (Text.collapse cs) := by
      cases t with
      | string => exact absurd rfl hstring
      | normalizedString => exact absurd rfl hspace
      | token | language | nmtoken | name | ncname =>
          exact decide_eq_true (Text.collapse_collapse cs)
      | _ => cases ht
    rw [AtomicType.admitsText, hnormal, hpattern]
    rfl

/-- Text that meets the facets of a type is read as it is. -/
theorem stringText?_of_admitsText (ht : t.isStringLike) (hds : t.admitsText ds) :
    stringText? t ds = some ds := by
  rw [stringText?]
  split
  · rfl
  · next hne => exact derivedText?_of_admitsText ht hne hds

/-- Reading text as a type is reading it as the parent first. -/
theorem stringText?_parent (hp : t.parent? = some u) (hu : u.isStringLike) (cs : List Char) :
    stringText? t cs = (stringText? u cs).bind (stringText? t) := by
  cases t with
  | normalizedString =>
      cases hp
      rfl
  | token =>
      cases hp
      show some (Text.collapse cs) = some (Text.collapse (Text.replaceSpaces cs))
      rw [Text.collapse_replaceSpaces]
  | language | nmtoken | name =>
      cases hp
      have hread : stringText? .token cs = some (Text.collapse cs) := rfl
      rw [hread, Option.bind_some, stringText?_eq rfl (by decide) (by decide),
        stringText?_eq rfl (by decide) (by decide), Text.collapse_collapse]
  | ncname =>
      cases hp
      have hname : stringText? .name cs =
          if Text.isName (Text.collapse cs) then some (Text.collapse cs) else none := rfl
      have hncname : ∀ es, stringText? .ncname es =
          if Text.isNCName (Text.collapse es) then some (Text.collapse es) else none := fun _ => rfl
      rw [hname, hncname]
      -- the pattern of the parent cannot fail where that of the type matches
      by_cases h : Text.isNCName (Text.collapse cs)
      · rw [if_pos h, if_pos (Text.isName_of_isNCName h), Option.bind_some, hncname,
          Text.collapse_collapse, if_pos h]
      · rw [if_neg h]
        split
        · rw [Option.bind_some, hncname, Text.collapse_collapse, if_neg h]
        · rfl
  | anyAtomic | nmtokens => cases hp
  | _ =>
      cases hp
      cases hu

/-- Reading text as a type is reading it as any of the ancestors first. -/
theorem stringText?_of_subtypeOf (htu : t.subtypeOf u) (hu : u.isStringLike) (cs : List Char) :
    stringText? t cs = (stringText? u cs).bind (stringText? t) := by
  revert hu cs
  refine AtomicType.of_subtypeOf
    (P := fun u => u.isStringLike → ∀ cs, stringText? t cs = (stringText? u cs).bind (stringText? t))
    ?_ htu ?_
  · intro a p hp ih hstring cs
    have ha : a.isStringLike :=
      AtomicType.subtypeOf_iff_mem.2 (AtomicType.mem_ancestors_iff.2
        (Or.inr ⟨p, hp, AtomicType.subtypeOf_iff_mem.1 hstring⟩))
    calc stringText? t cs
        = (stringText? a cs).bind (stringText? t) := ih ha cs
      _ = ((stringText? p cs).bind (stringText? a)).bind (stringText? t) := by
          rw [stringText?_parent hp hstring]
      _ = (stringText? p cs).bind fun es => (stringText? a es).bind (stringText? t) :=
          Option.bind_assoc _ _ _
      _ = (stringText? p cs).bind (stringText? t) := by
          congr 1
          funext es
          exact (ih ha es).symm
  · intro ht cs
    cases h : stringText? t cs with
    | none => rfl
    | some ds => exact (stringText?_of_admitsText ht (admitsText_of_stringText? ht h)).symm

end Cast

namespace AtomicType

variable {t u : AtomicType} {a : AtomicValue} {ctx : StaticContext}

theorem convert_eq_stringText? (ht : t.isStringLike) (ctx : StaticContext) (a : AtomicValue) :
    Cast.convert ctx t a = Cast.orNotRepresentable t a.stringValue
      ((Cast.stringText? t a.stringValue.toList).map fun ds => .string t (String.ofList ds)) := by
  cases t with
  | string =>
      show Except.ok (AtomicValue.string .string a.stringValue) = .ok (.string .string _)
      rw [String.ofList_toList]
  | normalizedString | token | language | nmtoken | name | ncname => rfl
  | _ => cases ht

/-- A value of another type is cast to `xs:string` or a type derived from it by reading its text. -/
theorem cast_eq_ok_iff_stringText? (ht : t.isStringLike) (hne : a.type ≠ t) {r : List AtomicValue} :
    t.cast ctx a = .ok r ↔
      ∃ ds, Cast.stringText? t a.stringValue.toList = some ds ∧ r = [.string t (String.ofList ds)] := by
  have hconcrete : t.isAbstract = false ∧ t.isListLike = false := by
    cases t with
    | string | normalizedString | token | language | nmtoken | name | ncname => exact ⟨rfl, rfl⟩
    | _ => cases ht
  rw [cast_of_type_ne hconcrete.1 hconcrete.2 hne, map_eq_ok_iff, convert_eq_stringText? ht]
  constructor
  · rintro ⟨b, hb, rfl⟩
    obtain ⟨ds, hds, rfl⟩ := Option.map_eq_some_iff.1 (Cast.orNotRepresentable_eq_ok_iff.1 hb)
    exact ⟨ds, hds, rfl⟩
  · rintro ⟨ds, hds, rfl⟩
    rw [hds]
    exact ⟨_, rfl, rfl⟩

theorem cast_string_eq_ok_iff (ht : t.isStringLike) (hne : u ≠ t) {text : String}
    {r : List AtomicValue} :
    t.cast ctx (.string u text) = .ok r ↔
      ∃ ds, Cast.stringText? t text.toList = some ds ∧ r = [.string t (String.ofList ds)] :=
  cast_eq_ok_iff_stringText? (a := .string u text) ht hne

/-- Untyped data and strings are read alike; a string that stays one is kept. -/
theorem cast_text_eq_ok_iff (ht : t.isStringLike) {text : String}
    (ha : a = .untyped text ∨ a = .string .string text) {r : List AtomicValue} :
    t.cast ctx a = .ok r ↔
      ∃ ds, Cast.stringText? t text.toList = some ds ∧ r = [.string t (String.ofList ds)] := by
  rcases ha with rfl | rfl
  · refine cast_eq_ok_iff_stringText? ht ?_
    rintro rfl
    cases ht
  · by_cases hne : string = t
    · subst hne
      have hkept : string.cast ctx (.string .string text) = .ok [.string .string text] :=
        cast_of_type_eq rfl
      rw [hkept, Cast.stringText?, if_pos rfl]
      simp only [Option.some.injEq, exists_eq_left', String.ofList_toList, Except.ok.injEq]
      exact eq_comm
    · exact cast_string_eq_ok_iff ht hne

/-- Casting text to a type derived from `xs:string` yields a value that each ancestor takes with its text,
and is the same as casting it to the ancestor first. -/
theorem cast_through_ancestor {x : AtomicValue} {text : String}
    (hx : x = .untyped text ∨ x = .string .string text) (hu : u.isStringLike)
    (hsub : t.subtypeOf u) (hne : t ≠ u) (ctx ctx' : StaticContext) :
    (∀ r, t.cast ctx x = .ok r →
      ∃ s, r = [.string t s] ∧ u.cast ctx' (.string t s) = .ok [.string u s]) ∧
    (∀ s, t.cast ctx x = .ok [.string t s] ↔
      ∃ y, u.cast ctx' x = .ok [y] ∧ t.cast ctx' y = .ok [.string t s]) := by
  have ht : t.isStringLike := subtypeOf_trans hsub hu
  constructor
  · intro r hr
    obtain ⟨ds, hds, rfl⟩ := (cast_text_eq_ok_iff ht hx).1 hr
    have hadmits := admitsText_mono hsub (Cast.admitsText_of_stringText? ht hds)
    refine ⟨String.ofList ds, rfl, (cast_string_eq_ok_iff hu hne).2 ⟨ds, ?_, rfl⟩⟩
    rw [String.toList_ofList]
    exact Cast.stringText?_of_admitsText hu hadmits
  · intro s
    rw [cast_text_eq_ok_iff ht hx, Cast.stringText?_of_subtypeOf hsub hu]
    constructor
    · rintro ⟨ds, hds, heq⟩
      obtain ⟨es, hes, hds⟩ := Option.bind_eq_some_iff.1 hds
      refine ⟨_, (cast_text_eq_ok_iff hu hx).2 ⟨es, hes, rfl⟩,
        (cast_string_eq_ok_iff ht hne.symm).2 ⟨ds, ?_, heq⟩⟩
      rw [String.toList_ofList]
      exact hds
    · rintro ⟨y, hy, hs⟩
      obtain ⟨es, hes, heq⟩ := (cast_text_eq_ok_iff hu hx).1 hy
      cases heq
      obtain ⟨ds, hds, heq⟩ := (cast_string_eq_ok_iff ht hne.symm).1 hs
      rw [String.toList_ofList] at hds
      exact ⟨ds, Option.bind_eq_some_iff.2 ⟨es, hes, hds⟩, heq⟩

/-- A name between tabs and line ends is read as a name without colon, and is kept as a name. -/
theorem cast_name_through_ancestors :
    let x : AtomicValue := .untyped "\t na\u0301-1.b\r\n"
    AtomicType.ncname.cast .initial x = .ok [.string .ncname "na\u0301-1.b"] ∧
    AtomicType.name.cast .initial (.string .ncname "na\u0301-1.b") = .ok [.string .name "na\u0301-1.b"] ∧
    ∃ y, AtomicType.normalizedString.cast .initial x = .ok [y] ∧
      AtomicType.ncname.cast .initial y = .ok [.string .ncname "na\u0301-1.b"] := by
  intro x
  have htext : Cast.stringText? .ncname "\t na\u0301-1.b\r\n".toList = some "na\u0301-1.b".toList := by
    decide +kernel
  have hread : AtomicType.ncname.cast .initial x = .ok [.string .ncname "na\u0301-1.b"] :=
    (cast_text_eq_ok_iff rfl (Or.inl rfl)).2 ⟨_, htext, by rw [String.ofList_toList]⟩
  refine ⟨hread, ?_, ?_⟩
  · obtain ⟨s, heq, hcast⟩ := (cast_through_ancestor (t := ncname) (u := name)
      (Or.inl rfl) rfl rfl (by decide) .initial .initial).1 _ hread
    cases heq
    exact hcast
  · exact ((cast_through_ancestor (t := ncname) (u := normalizedString)
      (Or.inl rfl) rfl rfl (by decide) .initial .initial).2 _).1 hread

end AtomicType
end SequenceTypes
