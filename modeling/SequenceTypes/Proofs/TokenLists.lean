import SequenceTypes.Proofs.DerivedStrings

/-! Lists of tokens. A text is taken apart into its tokens, which are its longest runs without space, and each
of them has to be a name token; a text without tokens is refused. What is read are the tokens in the order
of the text, so that joining them gives the collapsed text. Since no name token holds a space, the collapsed
text is a name token itself exactly if there is one token and it is one. -/

namespace SequenceTypes

open Traversal

namespace Text

/-- A text that consists of tokens in this order: each is a run of characters without space that is not
empty and ends with the text or before a space, and there may be space before, between and after them. -/
inductive Tokens : List Char → List (List Char) → Prop where
  | space {gap : List Char} (hgap : ∀ c ∈ gap, isSpace c) : Tokens gap []
  | token {gap w rest : List Char} {ws : List (List Char)} (hgap : ∀ c ∈ gap, isSpace c) (hne : w ≠ [])
      (hw : ∀ c ∈ w, isSpace c = false) (hend : ∀ c ∈ rest.head?, isSpace c) (h : Tokens rest ws) :
      Tokens (gap ++ w ++ rest) (w :: ws)

variable {cs gap w : List Char} {ws : List (List Char)} {c : Char}

theorem Tokens.cons_space (hc : isSpace c) (h : Tokens cs ws) : Tokens (c :: cs) ws := by
  cases h with
  | space hgap => exact .space (List.forall_mem_cons.2 ⟨hc, hgap⟩)
  | token hgap hne hw hend h => exact .token (List.forall_mem_cons.2 ⟨hc, hgap⟩) hne hw hend h

/-- A character without space before a text extends its first token, or is a token of its own. -/
theorem Tokens.cons_char (hc : isSpace c = false) (h : Tokens cs ws) : ∃ vs, Tokens (c :: cs) vs := by
  have hnone : ∀ d ∈ ([] : List Char), isSpace d := by simp
  have hsingle : ∀ d ∈ [c], isSpace d = false := by simpa using hc
  cases h with
  | space hgap =>
      refine ⟨_, .token hnone (List.cons_ne_nil c []) hsingle ?_ (.space hgap)⟩
      intro d hd
      exact hgap d (List.mem_of_mem_head? hd)
  | @token gap w rest ws hgap hne hw hend h =>
      cases gap with
      | nil => exact ⟨_, .token hnone (List.cons_ne_nil c w) (List.forall_mem_cons.2 ⟨hc, hw⟩) hend h⟩
      | cons d gap =>
          refine ⟨_, .token hnone (List.cons_ne_nil c []) hsingle ?_ (.token hgap hne hw hend h)⟩
          simpa using hgap d List.mem_cons_self

theorem exists_tokens (cs : List Char) : ∃ ws, Tokens cs ws := by
  induction cs with
  | nil => exact ⟨[], .space (by simp)⟩
  | cons c cs ih =>
      obtain ⟨ws, h⟩ := ih
      cases hc : isSpace c with
      | true => exact ⟨ws, h.cons_space hc⟩
      | false => exact h.cons_char hc

theorem words_cons_space (hc : isSpace c) (cs : List Char) : words (c :: cs) = words cs := by
  rw [words, fields, if_pos hc, List.filter_cons_of_neg (by simp), words]

theorem words_append_space (hgap : ∀ c ∈ gap, isSpace c) (cs : List Char) :
    words (gap ++ cs) = words cs := by
  induction gap with
  | nil => rfl
  | cons c gap ih =>
      obtain ⟨hc, hgap⟩ := List.forall_mem_cons.1 hgap
      rw [List.cons_append, words_cons_space hc, ih hgap]

theorem words_append_token {rest : List Char} (hne : w ≠ []) (hw : ∀ c ∈ w, isSpace c = false)
    (hend : ∀ c ∈ rest.head?, isSpace c) : words (w ++ rest) = w :: words rest := by
  cases rest with
  | nil =>
      rw [List.append_nil, words, fields_of_forall hw, List.filter_cons_of_pos (by simpa using hne)]
      rfl
  | cons c rest =>
      have hc : isSpace c := hend c rfl
      rw [words_cons_space hc, words, fields_append hw hc, List.filter_cons_of_pos (by simpa using hne),
        words]

/-- The words of a text are its tokens. -/
theorem words_of_tokens (h : Tokens cs ws) : words cs = ws := by
  induction h with
  | space hgap =>
      have hwords := words_append_space hgap []
      rwa [List.append_nil] at hwords
  | token hgap hne hw hend _ ih =>
      rw [List.append_assoc, words_append_space hgap, words_append_token hne hw hend, ih]

theorem tokens_words (cs : List Char) : Tokens cs (words cs) := by
  obtain ⟨ws, h⟩ := exists_tokens cs
  rwa [words_of_tokens h]

/-- The collapsed text is a name token if there is one word, and it is a name token: a blank between two
words is no character of a name. -/
theorem isNmtoken_collapse_iff : isNmtoken (collapse cs) ↔ ∃ w, words cs = [w] ∧ isNmtoken w := by
  have hblank : isNameChar ' ' = false := by decide +kernel
  rw [collapse]
  rcases words cs with _ | ⟨w, _ | ⟨v, ws⟩⟩
  · simp [isNmtoken]
  · simp
  · refine iff_of_false (fun h => ?_) (by simp)
    rw [isNmtoken, Bool.and_eq_true, List.all_eq_true] at h
    have hmem : ' ' ∈ [' '].intercalate (w :: v :: ws) := by
      rw [List.intercalate_cons_cons]
      simp
    rw [h.2 _ hmem] at hblank
    cases hblank

end Text

namespace Cast

variable {ctx : StaticContext} {x : AtomicValue} {w : List Char} {ws : List (List Char)}
  {r : List AtomicValue}

def tokenValue (w : List Char) : AtomicValue := .string .nmtoken (String.ofList w)

theorem convert_word_eq_ok_iff (hne : w ≠ []) (hw : ∀ c ∈ w, Text.isSpace c = false) {b : AtomicValue} :
    convert ctx .nmtoken (.string .string (String.ofList w)) = .ok b ↔
      Text.isNmtoken w ∧ b = tokenValue w := by
  have htext : stringText? .nmtoken w = if Text.isNmtoken w then some w else none := by
    rw [stringText?_eq rfl (by decide) (by decide), Text.collapse_of_forall hne hw]
    rfl
  rw [AtomicType.convert_eq_stringText? rfl, orNotRepresentable_eq_ok_iff, AtomicValue.stringValue,
    String.toList_ofList, htext]
  by_cases hmatch : Text.isNmtoken w
  · rw [if_pos hmatch, and_iff_right hmatch, Option.map_some, Option.some.injEq]
    exact eq_comm
  · rw [if_neg hmatch]
    simp [hmatch]

/-- The words of a text are read one by one, and one that is no name token spoils all. -/
theorem toTokens_eq_ok_iff (hx : x.isTextual) :
    toTokens ctx .nmtokens x = .ok r ↔
      Text.words x.stringValue.toList ≠ [] ∧ (∀ w ∈ Text.words x.stringValue.toList, Text.isNmtoken w) ∧
        r = (Text.words x.stringValue.toList).map tokenValue := by
  rw [toTokens, if_pos hx]
  split
  · next hnil =>
      refine iff_of_false (fun h => ?_) fun h => h.1 hnil
      cases h
  · next hne =>
      have hread : ∀ w ∈ Text.words x.stringValue.toList, ∀ b,
          convert ctx .nmtoken (.string .string (String.ofList w)) = .ok b ↔
            Text.isNmtoken w ∧ b = tokenValue w := by
        intro w hw b
        obtain ⟨hword, hspace⟩ := Text.isWord_of_mem_words hw
        exact convert_word_eq_ok_iff hword hspace
      have hmap : (∀ w ∈ Text.words x.stringValue.toList, Text.isNmtoken w) →
          (Text.words x.stringValue.toList).mapM (fun w =>
            convert ctx .nmtoken (.string .string (String.ofList w))) =
              .ok ((Text.words x.stringValue.toList).map tokenValue) := by
        intro hall
        apply mapM_eq_ok_of_forall
        intro w hw
        exact (hread w hw _).2 ⟨hall w hw, rfl⟩
      constructor
      · intro h
        have hall : ∀ w ∈ Text.words x.stringValue.toList, Text.isNmtoken w := by
          intro w hw
          obtain ⟨n, hn, rfl⟩ := List.getElem_of_mem hw
          obtain ⟨b, _, hb⟩ := (getElem?_of_mapM h).2 n hn
          exact ((hread _ hw b).1 hb).1
        exact ⟨hne, hall, Except.ok.inj (h.symm.trans (hmap hall))⟩
      · rintro ⟨_, hall, rfl⟩
        exact hmap hall

end Cast

namespace AtomicType

variable {x : AtomicValue} {r : List AtomicValue}

theorem type_ne_nmtokens (hx : x.isTextual) (hwf : x.isWellFormed) : x.type ≠ .nmtokens := by
  cases x with
  | untyped _ =>
      intro h
      cases h
  | string t _ =>
      rintro rfl
      cases hwf
  | _ => cases hx

theorem nmtokens_cast_eq_ok_iff (hx : x.isTextual) (hwf : x.isWellFormed) (ctx : StaticContext) :
    nmtokens.cast ctx x = .ok r ↔
      Text.words x.stringValue.toList ≠ [] ∧ (∀ w ∈ Text.words x.stringValue.toList, Text.isNmtoken w) ∧
        r = (Text.words x.stringValue.toList).map Cast.tokenValue := by
  rw [cast, if_neg (type_ne_nmtokens hx hwf), if_neg (by decide), if_pos (by decide)]
  exact Cast.toTokens_eq_ok_iff hx

/-- A well-formed text is read as a name token if its collapsed form is one; what is a name token already is
kept, and is its own collapsed form. -/
theorem nmtoken_cast_eq_ok_iff (hx : x.isTextual) (hwf : x.isWellFormed) (ctx : StaticContext) :
    nmtoken.cast ctx x = .ok r ↔
      Text.isNmtoken (Text.collapse x.stringValue.toList) ∧
        r = [Cast.tokenValue (Text.collapse x.stringValue.toList)] := by
  by_cases htype : x.type = .nmtoken
  · rw [cast_of_type_eq htype]
    cases x with
    | string t text =>
        cases htype
        rw [AtomicValue.isWellFormed, admitsText, Bool.and_eq_true, Bool.and_eq_true] at hwf
        obtain ⟨_, hspace, hpattern⟩ := hwf
        have hcollapse : Text.collapse text.toList = text.toList := of_decide_eq_true hspace
        have hmatch : Text.isNmtoken text.toList := hpattern
        rw [AtomicValue.stringValue, hcollapse, and_iff_right hmatch, Cast.tokenValue, String.ofList_toList,
          Except.ok.injEq]
        exact eq_comm
    | untyped _ => cases htype
    | _ => cases hx
  · rw [cast_eq_ok_iff_stringText? rfl htype, Cast.stringText?_eq rfl (by decide) (by decide), matchesPattern]
    by_cases hmatch : Text.isNmtoken (Text.collapse x.stringValue.toList)
    · rw [if_pos hmatch, and_iff_right hmatch]
      simp [Cast.tokenValue]
    · rw [if_neg hmatch]
      simp [hmatch]

/-- A cast to the list type reads the tokens of a text in order, all of which have to be name tokens; a cast
to `xs:NMTOKEN` is the same where there is one token, and fails otherwise. -/
theorem cast_to_tokens_exact (hx : x.isTextual) (hwf : x.isWellFormed) (ctx : StaticContext) :
    ∃ ws, Text.Tokens x.stringValue.toList ws ∧
      ((nmtokens.cast ctx x).isOk ↔ ws ≠ [] ∧ ∀ w ∈ ws, Text.isNmtoken w) ∧
      (∀ r, nmtokens.cast ctx x = .ok r →
        r = ws.map (fun w => .string .nmtoken (String.ofList w)) ∧
        [' '].intercalate (r.map (·.stringValue.toList)) = Text.collapse x.stringValue.toList) ∧
      (∀ r, nmtoken.cast ctx x = .ok r ↔ ∃ b, r = [b] ∧ nmtokens.cast ctx x = .ok [b]) := by
  have hlist : ∀ r, nmtokens.cast ctx x = .ok r ↔ _ := fun r => nmtokens_cast_eq_ok_iff hx hwf ctx
  refine ⟨_, Text.tokens_words _, ?_, ?_, ?_⟩
  · rw [isOk_iff_exists]
    constructor
    · rintro ⟨r, hr⟩
      obtain ⟨hne, hall, _⟩ := (hlist r).1 hr
      exact ⟨hne, hall⟩
    · rintro ⟨hne, hall⟩
      exact ⟨_, (hlist _).2 ⟨hne, hall, rfl⟩⟩
  · intro r hr
    obtain ⟨_, _, rfl⟩ := (hlist r).1 hr
    refine ⟨rfl, ?_⟩
    have htexts : ((Text.words x.stringValue.toList).map Cast.tokenValue).map (·.stringValue.toList) =
        Text.words x.stringValue.toList := by
      rw [List.map_map]
      exact List.map_id'' (fun w => String.toList_ofList) _
    rw [htexts, Text.collapse]
  · intro r
    rw [nmtoken_cast_eq_ok_iff hx hwf, Text.isNmtoken_collapse_iff]
    constructor
    · rintro ⟨⟨w, hwords, hmatch⟩, rfl⟩
      refine ⟨_, rfl, (hlist _).2 ?_⟩
      rw [Text.collapse, hwords, List.intercalate_singleton]
      exact ⟨List.cons_ne_nil w [], by simpa using hmatch, rfl⟩
    · rintro ⟨b, rfl, hb⟩
      obtain ⟨_, hall, heq⟩ := (hlist _).1 hb
      obtain ⟨w, hwords, rfl⟩ := List.map_eq_singleton_iff.1 heq.symm
      rw [Text.collapse, hwords, List.intercalate_singleton]
      exact ⟨⟨w, rfl, hall w (by simp [hwords])⟩, rfl⟩

/-- A token list with spaces of all kinds, and a name token that needs no reading. -/
theorem cast_to_tokens_of_text_and_token :
    let text : AtomicValue := .untyped "\t na\u0301-1.b  \r\n:2 "
    let token : AtomicValue := .string .nmtoken "7-up"
    nmtokens.cast .initial text = .ok [.string .nmtoken "na\u0301-1.b", .string .nmtoken ":2"] ∧
    (∀ r, nmtoken.cast .initial text ≠ .ok r) ∧
    nmtokens.cast .initial token = .ok [token] := by
  intro text token
  obtain ⟨ws, htokens, hok, hresult, hsingle⟩ := cast_to_tokens_exact (x := text) rfl rfl .initial
  have hws : ws = ["na\u0301-1.b".toList, ":2".toList] :=
    (Text.words_of_tokens htokens).symm.trans (by decide +kernel)
  subst hws
  have hread : nmtokens.cast .initial text =
      .ok [.string .nmtoken "na\u0301-1.b", .string .nmtoken ":2"] := by
    obtain ⟨r, hr⟩ := isOk_iff_exists.1
      (hok.2 ⟨List.cons_ne_nil _ _, List.all_eq_true.1 (by decide +kernel)⟩)
    rw [hr, (hresult r hr).1]
    simp
  obtain ⟨_, _, _, _, htoken⟩ := cast_to_tokens_exact (x := token) rfl (by decide +kernel) .initial
  refine ⟨hread, fun r hr => ?_, ?_⟩
  · obtain ⟨b, rfl, hb⟩ := (hsingle r).1 hr
    cases hread.symm.trans hb
  · obtain ⟨b, hb, hcast⟩ := (htoken [token]).1 (cast_of_type_eq rfl)
    cases hb
    exact hcast

end AtomicType
end SequenceTypes
