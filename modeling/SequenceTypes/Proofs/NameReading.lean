import SequenceTypes.Proofs.DerivedStrings

/-! Names written and read back. A lexical name is an `NCName`, or two of them with a colon between, and
what it stands for depends on the context. A name that was read with a prefix, or in no namespace, is
written as it was read, so it is read back. A name without prefix in the default namespace is written with
its URI in braces, which is no lexical name. -/

namespace SequenceTypes

open Traversal

namespace Text

theorem isNCNameChar_of_mem {cs : List Char} {c : Char} (hcs : isNCName cs) (hc : c ∈ cs) :
    isNCNameChar c := by
  cases cs with
  | nil => cases hc
  | cons d ds =>
      rw [isNCName, Bool.and_eq_true, List.all_eq_true] at hcs
      rcases List.mem_cons.1 hc with rfl | hc
      · have hstart := hcs.1
        rw [isNCNameStart, Bool.or_eq_true] at hstart
        rcases hstart with hletter | hunderscore
        · simp [isNCNameChar, hletter]
        · simp [isNCNameChar, hunderscore]
      · exact hcs.2 c hc

theorem isNameChar_of_mem {cs : List Char} {c : Char} (hcs : isNCName cs) (hc : c ∈ cs) : isNameChar c := by
  rw [isNameChar, isNCNameChar_of_mem hcs hc, Bool.true_or]

theorem exists_mem_fields {isSeparator : Char → Bool} {cs : List Char} {c : Char} (hc : c ∈ cs)
    (hsep : isSeparator c = false) : ∃ f ∈ fields isSeparator cs, c ∈ f := by
  induction cs with
  | nil => cases hc
  | cons d cs ih =>
      rw [fields]
      split
      · next hd =>
          rcases List.mem_cons.1 hc with rfl | hc
          · rw [hsep] at hd
            cases hd
          · obtain ⟨f, hf, hcf⟩ := ih hc
            exact ⟨f, List.mem_cons_of_mem [] hf, hcf⟩
      · split
        · next hfields =>
            rcases List.mem_cons.1 hc with rfl | hc
            · exact ⟨[c], List.mem_singleton_self [c], List.mem_singleton_self c⟩
            · obtain ⟨f, hf, _⟩ := ih hc
              rw [hfields] at hf
              cases hf
        · next g gs hfields =>
            rcases List.mem_cons.1 hc with rfl | hc
            · exact ⟨c :: g, List.mem_cons_self, List.mem_cons_self⟩
            · obtain ⟨f, hf, hcf⟩ := ih hc
              rw [hfields] at hf
              rcases List.mem_cons.1 hf with rfl | hf
              · exact ⟨d :: f, List.mem_cons_self, List.mem_cons_of_mem d hcf⟩
              · exact ⟨f, List.mem_cons_of_mem _ hf, hcf⟩

theorem mem_intercalate_of_mem {sep c : Char} {w : List Char} {ws : List (List Char)} (hw : w ∈ ws)
    (hc : c ∈ w) : c ∈ [sep].intercalate ws := by
  induction ws with
  | nil => cases hw
  | cons v ws ih =>
      cases ws with
      | nil =>
          rw [List.mem_singleton.1 hw] at hc
          rwa [List.intercalate_singleton]
      | cons x ws =>
          rw [List.intercalate_cons_cons, List.mem_append, List.mem_append]
          rcases List.mem_cons.1 hw with rfl | hw
          · exact Or.inl (Or.inl hc)
          · exact Or.inr (ih hw)

/-- Collapsing drops nothing but space. -/
theorem mem_collapse {cs : List Char} {c : Char} (hc : c ∈ cs) (hspace : isSpace c = false) :
    c ∈ collapse cs := by
  obtain ⟨f, hf, hcf⟩ := exists_mem_fields hc hspace
  have hne : f ≠ [] := List.ne_nil_of_mem hcf
  exact mem_intercalate_of_mem (List.mem_filter.2 ⟨hf, decide_eq_true hne⟩) hcf

end Text

namespace StaticContext

open Text

variable {ctx : StaticContext} {cs p l : List Char} {q : QName}

theorem ne_colon_of_mem (hp : ':' ∉ p) : ∀ c ∈ p, decide (c ≠ ':') := by
  intro c hc
  exact decide_eq_true fun h => hp (h ▸ hc)

theorem splitColon_append (hp : ':' ∉ p) : splitColon (p ++ ':' :: l) = (some p, l) := by
  have hcolon : ∀ c ∈ (':' :: l).head?, decide (c ≠ ':') = false := by simp
  rw [splitColon, dropWhile_digits (ne_colon_of_mem hp) _ hcolon,
    takeWhile_digits (ne_colon_of_mem hp) _ hcolon]

theorem splitColon_of_not_mem (hcs : ':' ∉ cs) : splitColon cs = (none, cs) := by
  have hdrop := dropWhile_digits (ne_colon_of_mem hcs) [] (by simp)
  rw [List.append_nil] at hdrop
  rw [splitColon, hdrop]

theorem resolve_of_not_mem (hcs : ':' ∉ cs) :
    ctx.resolve cs =
      if isNCName cs then .ok (.ofParts none ctx.defaultElementNamespace (String.ofList cs))
      else .error (.notRepresentable .qname (String.ofList cs)) := by
  rw [resolve, splitColon_of_not_mem hcs]

theorem resolve_append (hp : ':' ∉ p) :
    ctx.resolve (p ++ ':' :: l) =
      if isNCName l && isNCName p then
        (ctx.namespace? (String.ofList p)).elim (.error (.unknownPrefix (String.ofList p)))
          fun uri => .ok (.ofParts (some (String.ofList p)) (some uri) (String.ofList l))
      else .error (.notRepresentable .qname (String.ofList (p ++ ':' :: l))) := by
  simp only [resolve, splitColon_append hp]
  cases ctx.namespace? (String.ofList p) <;> rfl

/-- What the lexical names are, and what they stand for. -/
theorem cases_of_resolve (h : ctx.resolve cs = .ok q) :
    isNCName cs ∧ q = .ofParts none ctx.defaultElementNamespace (String.ofList cs) ∨
    ∃ p l uri, cs = p ++ ':' :: l ∧ isNCName p ∧ isNCName l ∧
      ctx.namespace? (String.ofList p) = some uri ∧
      q = .ofParts (some (String.ofList p)) (some uri) (String.ofList l) := by
  by_cases hcolon : ':' ∈ cs
  · obtain ⟨p, l, rfl, hp⟩ := List.eq_append_cons_of_mem hcolon
    rw [resolve_append hp] at h
    split at h
    · next hnames =>
        rw [Bool.and_eq_true] at hnames
        cases huri : ctx.namespace? (String.ofList p) with
        | none =>
            rw [huri] at h
            cases h
        | some uri =>
            rw [huri] at h
            cases h
            exact Or.inr ⟨p, l, uri, rfl, hnames.2, hnames.1, huri, rfl⟩
    · cases h
  · rw [resolve_of_not_mem hcolon] at h
    split at h
    · next hname =>
        cases h
        exact Or.inl ⟨hname, rfl⟩
    · cases h

/-- A text with a character that is in no name is no lexical name. -/
theorem resolve_of_mem {c : Char} (hc : c ∈ cs) (hname : isNameChar c = false) :
    ctx.resolve cs = .error (.notRepresentable .qname (String.ofList cs)) := by
  have hnot : ∀ {ds : List Char}, c ∈ ds → ¬isNCName ds := by
    intro ds hds hdsname
    rw [isNameChar_of_mem hdsname hds] at hname
    cases hname
  by_cases hcolon : ':' ∈ cs
  · obtain ⟨p, l, rfl, hp⟩ := List.eq_append_cons_of_mem hcolon
    rw [resolve_append hp, if_neg]
    rw [Bool.and_eq_true]
    rcases List.mem_append.1 hc with hcp | hcl
    · exact fun h => hnot hcp h.2
    · rcases List.mem_cons.1 hcl with rfl | hcl
      · simp [isNameChar] at hname
      · exact fun h => hnot hcl h.1
  · rw [resolve_of_not_mem hcolon, if_neg (hnot hc)]

/-- A name with a prefix or in no namespace is written as it was read. -/
theorem text_of_resolve (h : ctx.resolve cs = .ok q) (hq : q.nsPrefix.isSome ∨ q.uri = none) :
    q.text.toList = cs := by
  rcases cases_of_resolve h with ⟨_, rfl⟩ | ⟨p, l, uri, rfl, _, _, _, rfl⟩
  · rcases hq with hbare | huri
    · cases hbare
    · rw [QName.text, huri]
      exact String.toList_ofList
  · simp [QName.text, QName.ofParts]

end StaticContext

/-- A name without prefix in a namespace is written with a brace. -/
theorem QName.brace_mem_text {q : QName} (hbare : q.nsPrefix = none) (huri : q.uri ≠ none) :
    '{' ∈ q.text.toList := by
  obtain ⟨uri, huri⟩ := Option.ne_none_iff_exists'.1 huri
  simp [text, hbare, huri, bracedUri]

namespace AtomicType

variable {ctx : StaticContext} {x : AtomicValue} {q : QName}

theorem qname_cast_eq (hx : x.isTextual) (hne : x.type ≠ .qname) :
    AtomicType.qname.cast ctx x =
      (ctx.resolve (Text.collapse x.stringValue.toList)).map fun q => [.qname q] := by
  rw [cast_of_type_ne rfl rfl hne, Cast.convert, if_pos hx]
  cases ctx.resolve (Text.collapse x.stringValue.toList) <;> rfl

theorem resolve_of_cast (hx : x.isTextual) (h : AtomicType.qname.cast ctx x = .ok [.qname q]) :
    ctx.resolve (Text.collapse x.stringValue.toList) = .ok q := by
  by_cases htype : x.type = .qname
  · rw [cast_of_type_eq htype] at h
    cases h
    cases hx
  · rw [qname_cast_eq hx htype] at h
    obtain ⟨q', hq', heq⟩ := map_eq_ok_iff.1 h
    cases heq
    exact hq'

/-- A name that was read from a text can be cast to `xs:string`. With a prefix or in no namespace it is
read back from there; a name without prefix in a namespace is not. -/
theorem cast_name_back_exact (hx : x.isTextual) (h : AtomicType.qname.cast ctx x = .ok [.qname q]) :
    AtomicType.string.cast ctx (.qname q) = .ok [.string .string q.text] ∧
    (q.nsPrefix.isSome ∨ q.uri = none →
      AtomicType.qname.cast ctx (.string .string q.text) = .ok [.qname q]) ∧
    (q.nsPrefix = none → q.uri ≠ none →
      ∃ c, AtomicType.qname.cast ctx (.string .string q.text) = .error c ∧ c.kind = .castImpossible) := by
  have hread := resolve_of_cast hx h
  have hback : AtomicType.qname.cast ctx (.string .string q.text) =
      (ctx.resolve (Text.collapse q.text.toList)).map fun q => [.qname q] :=
    qname_cast_eq rfl (by simp [AtomicValue.type])
  rw [hback]
  refine ⟨rfl, fun hq => ?_, fun hbare huri => ?_⟩
  · rw [StaticContext.text_of_resolve hread hq, Text.collapse_collapse, hread]
    rfl
  · have hbrace := Text.mem_collapse (QName.brace_mem_text hbare huri) (by decide)
    rw [StaticContext.resolve_of_mem hbrace (by decide +kernel)]
    exact ⟨_, rfl, rfl⟩

/-- A prefix that is bound a second time, and to no namespace, is written and read as any other. -/
theorem cast_name_back_of_rebound_prefix :
    AtomicType.qname.cast ((StaticContext.initial.withNamespace "p" "urn:p").withNamespace "p" "")
        (.untyped " p:name ") = .ok [.qname ⟨⟨none, "name"⟩, some "p"⟩] ∧
    AtomicType.string.cast ((StaticContext.initial.withNamespace "p" "urn:p").withNamespace "p" "")
        (.qname ⟨⟨none, "name"⟩, some "p"⟩) = .ok [.string .string "p:name"] ∧
    AtomicType.qname.cast ((StaticContext.initial.withNamespace "p" "urn:p").withNamespace "p" "")
        (.string .string "p:name") = .ok [.qname ⟨⟨none, "name"⟩, some "p"⟩] := by
  have hread : AtomicType.qname.cast
      ((StaticContext.initial.withNamespace "p" "urn:p").withNamespace "p" "") (.untyped " p:name ") =
      .ok [.qname ⟨⟨none, "name"⟩, some "p"⟩] := by
    with_unfolding_all rfl
  have h := cast_name_back_exact rfl hread
  exact ⟨hread, h.1, h.2.1 (Or.inl rfl)⟩

/-- A name without prefix is put into the default namespace, and is not read back from its text. -/
theorem cast_name_back_fails :
    AtomicType.qname.cast (StaticContext.initial.withDefaultElementNamespace "urn:d")
        (.string .string "foo") = .ok [.qname (.inNamespace "urn:d" "foo")] ∧
    AtomicType.string.cast (StaticContext.initial.withDefaultElementNamespace "urn:d")
        (.qname (.inNamespace "urn:d" "foo")) = .ok [.string .string "Q\x7burn:d\x7dfoo"] ∧
    ∀ q, AtomicType.qname.cast (StaticContext.initial.withDefaultElementNamespace "urn:d")
        (.string .string "Q\x7burn:d\x7dfoo") ≠ .ok [.qname q] := by
  refine ⟨by with_unfolding_all rfl, by with_unfolding_all rfl, fun q h => ?_⟩
  have hread := resolve_of_cast rfl h
  rw [StaticContext.resolve_of_mem (c := '{') (Text.mem_collapse (by decide) (by decide))
    (by decide +kernel)] at hread
  cases hread

end AtomicType
end SequenceTypes
