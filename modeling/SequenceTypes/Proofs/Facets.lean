import SequenceTypes.Cast
import SequenceTypes.Proofs.BaseLattice

/-! The facets of the derived types. A type derived from `xs:string` asks that white space is normalized
and that a pattern matches, one derived from `xs:integer` that a value is in its range. Each type narrows
its parent, so what meets the facets of a type meets those of its supertypes, and widening a value changes
its type only. -/

namespace SequenceTypes

namespace Text

theorem not_isSeparator_of_mem_fields {isSeparator : Char → Bool} {cs f : List Char} {c : Char}
    (hf : f ∈ fields isSeparator cs) (hc : c ∈ f) : isSeparator c = false := by
  induction cs generalizing f with
  | nil =>
      rw [fields, List.mem_singleton] at hf
      subst hf
      cases hc
  | cons d cs ih =>
      rw [fields] at hf
      split at hf
      · rcases List.mem_cons.1 hf with rfl | hf
        · cases hc
        · exact ih hf hc
      · next hd =>
          have hd : isSeparator d = false := by simpa using hd
          split at hf
          · rw [List.mem_singleton] at hf
            subst hf
            rw [List.mem_singleton.1 hc]
            exact hd
          · next g gs hfields =>
              rcases List.mem_cons.1 hf with rfl | hf
              · rcases List.mem_cons.1 hc with rfl | hc
                · exact hd
                · exact ih (hfields ▸ List.mem_cons_self) hc
              · exact ih (hfields ▸ List.mem_cons_of_mem g hf) hc

theorem mem_intercalate {c sep : Char} {ws : List (List Char)} (hc : c ∈ [sep].intercalate ws) :
    c = sep ∨ ∃ w ∈ ws, c ∈ w := by
  induction ws with
  | nil => simp at hc
  | cons w ws ih =>
      cases ws with
      | nil =>
          rw [List.intercalate_singleton] at hc
          exact Or.inr ⟨w, List.mem_cons_self, hc⟩
      | cons x ws =>
          rw [List.intercalate_cons_cons, List.mem_append, List.mem_append, List.mem_singleton] at hc
          rcases hc with (hw | hsep) | hrest
          · exact Or.inr ⟨w, List.mem_cons_self, hw⟩
          · exact Or.inl hsep
          · obtain hsep | ⟨y, hy, hcy⟩ := ih hrest
            · exact Or.inl hsep
            · exact Or.inr ⟨y, List.mem_cons_of_mem w hy, hcy⟩

/-- The only space characters that collapsing leaves are blanks. -/
theorem eq_blank_of_mem_collapse {c : Char} {cs : List Char} (hc : c ∈ collapse cs) (hspace : isSpace c) :
    c = ' ' := by
  obtain hblank | ⟨w, hw, hcw⟩ := mem_intercalate hc
  · exact hblank
  · have hfield := (List.mem_filter.1 hw).1
    rw [not_isSeparator_of_mem_fields hfield hcw] at hspace
    cases hspace

theorem replaceSpaces_collapse (cs : List Char) : replaceSpaces (collapse cs) = collapse cs := by
  rw [replaceSpaces]
  conv => rhs; rw [← List.map_id (collapse cs)]
  refine List.map_congr_left fun c hc => ?_
  split
  · next hspace => exact (eq_blank_of_mem_collapse hc hspace).symm
  · rfl

theorem isName_of_isNCName {cs : List Char} (h : isNCName cs) : isName cs := by
  cases cs with
  | nil => cases h
  | cons c cs =>
      rw [isNCName, Bool.and_eq_true, List.all_eq_true] at h
      rw [isName, Bool.and_eq_true, List.all_eq_true]
      refine ⟨?_, fun d hd => ?_⟩
      · rw [isNameStart, h.1, Bool.true_or]
      · rw [isNameChar, h.2 d hd, Bool.true_or]

end Text

namespace AtomicType

def isNormalized (t : AtomicType) (cs : List Char) : Bool :=
  match t with
  | normalizedString => Text.replaceSpaces cs = cs
  | token | language | nmtoken | name | ncname => Text.collapse cs = cs
  | _ => true

/-- Whether the pattern of the type matches. -/
def matchesPattern (t : AtomicType) (cs : List Char) : Bool :=
  match t with
  | language => Text.isLanguage cs
  | nmtoken => Text.isNmtoken cs
  | name => Text.isName cs
  | ncname => Text.isNCName cs
  | _ => true

def admitsText (t : AtomicType) (cs : List Char) : Bool := t.isNormalized cs && t.matchesPattern cs

/-- A type narrows the facets of its parent. -/
theorem admitsText_of_parent? {cs : List Char} (a p : AtomicType) (hp : a.parent? = some p)
    (ha : a.admitsText cs) : p.admitsText cs := by
  rw [admitsText, Bool.and_eq_true] at ha
  obtain ⟨hspace, hpattern⟩ := ha
  cases a with
  | token =>
      cases hp
      have hcollapse : Text.collapse cs = cs := of_decide_eq_true hspace
      have hreplace : Text.replaceSpaces cs = cs := by rw [← hcollapse, Text.replaceSpaces_collapse]
      simp [admitsText, isNormalized, matchesPattern, hreplace]
  | ncname =>
      cases hp
      rw [admitsText, Bool.and_eq_true]
      exact ⟨hspace, Text.isName_of_isNCName hpattern⟩
  | language | nmtoken | name =>
      cases hp
      rw [admitsText, Bool.and_eq_true]
      exact ⟨hspace, rfl⟩
  | anyAtomic | nmtokens => cases hp
  | _ =>
      cases hp
      rfl

theorem admitsText_mono {a b : AtomicType} {cs : List Char} (hab : a.subtypeOf b) (ha : a.admitsText cs) :
    b.admitsText cs :=
  of_subtypeOf (P := fun t => t.admitsText cs) admitsText_of_parent? hab ha

/-- Only types from which none is derived have a range. -/
theorem inRange_mono {a b : AtomicType} {n : Int} (hab : a.subtypeOf b) (ha : Cast.inRange a n) :
    Cast.inRange b n := by
  refine of_subtypeOf (P := fun t => Cast.inRange t n) (fun a p hp _ => ?_) hab ha
  cases a <;> cases hp <;> rfl

end AtomicType

/-- Whether a string or an integer is of a type derived from `xs:string` or `xs:integer`, and meets the
facets of that type. -/
def AtomicValue.isWellFormed : AtomicValue → Bool
  | string t text => t.isStringLike && t.admitsText text.toList
  | integer t n => t.isIntegerLike && Cast.inRange t n.toInt
  | _ => true

namespace Cast

variable {ctx : StaticContext} {t u : AtomicType}

/-- Text that meets the facets of a type derived from `xs:string` is left as it is. -/
theorem derivedText?_of_admitsText {cs : List Char} (hu : u.isStringLike) (hne : u ≠ .string)
    (hcs : u.admitsText cs) : derivedText? u cs = some cs := by
  rw [AtomicType.admitsText, Bool.and_eq_true] at hcs
  obtain ⟨hspace, hpattern⟩ := hcs
  cases u with
  | string => exact absurd rfl hne
  | normalizedString =>
      have hreplace : Text.replaceSpaces cs = cs := of_decide_eq_true hspace
      simp [derivedText?, hreplace]
  | token | language | nmtoken | name | ncname =>
      have hcollapse : Text.collapse cs = cs := of_decide_eq_true hspace
      simp only [AtomicType.matchesPattern] at hpattern
      simp [derivedText?, hcollapse, hpattern]
  | _ => cases hu

theorem convert_string {text : String} (hu : u.isStringLike) (htext : u.admitsText text.toList) :
    convert ctx u (.string t text) = .ok (.string u text) := by
  by_cases hne : u = .string
  · subst hne
    rfl
  · have hderived : toDerivedString u text = .ok (.string u text) := by
      rw [toDerivedString, derivedText?_of_admitsText hu hne htext, Option.map_some, String.ofList_toList]
      rfl
    cases u with
    | string => exact absurd rfl hne
    | normalizedString | token | language | nmtoken | name | ncname => exact hderived
    | _ => cases hu

theorem convert_integer {n : Int64} (hu : u.isIntegerLike) (hn : inRange u n.toInt) :
    convert ctx u (.integer t n) = .ok (.integer u n) := by
  have hinteger : toInteger u (.integer t n) = .ok (.integer u n) := by
    rw [toInteger]
    exact if_pos hn
  cases u with
  | integer | nonNegativeInteger | long | int => exact hinteger
  | _ => cases hu

end Cast
end SequenceTypes
