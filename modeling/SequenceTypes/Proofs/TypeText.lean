import SequenceTypes.Proofs.LatticeLaws
import SequenceTypes.SeqType.Text

/-! The text of a type determines the type. It is read from the left: the first word says what sort of
type is written, what stands in the parentheses after it is read in the same way, and a type ends where
the text does or where a comma or a closing parenthesis follows. The result type of a function would take
an indicator that follows it for its own, which is why a function type stands in parentheses before one. -/

namespace SequenceTypes

/-- The types without refining tests in which no item is of the list type, whose indicator is not
written. -/
def Fragment.written : Fragment where
  item
    | .atomic .nmtokens => false
    | _ => true
  test := Option.isNone

namespace TypeText

/-- The characters of names and keywords. -/
def isWordChar (c : Char) : Bool := c.isAlpha || c = ':' || c = '-'

def opensWord : List Char → Bool
  | [] => false
  | c :: _ => isWordChar c

/-- Whether what follows a type is the end of it. -/
def endsType : List Char → Bool
  | [] => true
  | c :: _ => c = ',' || c = ')'

theorem endsType_cons_iff {c : Char} {r : List Char} : endsType (c :: r) ↔ c = ',' ∨ c = ')' := by
  simp [endsType]

theorem opensWord_append {x y : List Char} (hx : opensWord x = false) (hy : opensWord y = false) :
    opensWord (x ++ y) = false := by
  cases x with
  | nil => exact hy
  | cons c x => exact hx

theorem not_opensWord_of_endsType {r : List Char} (hr : endsType r) : opensWord r = false := by
  cases r with
  | nil => rfl
  | cons c r => rcases endsType_cons_iff.1 hr with rfl | rfl <;> rfl

/-- Two texts that start with a word start with the same word if they are equal. -/
theorem word_cancel {w w' x x' : List Char} (hw : w.all isWordChar) (hw' : w'.all isWordChar)
    (hx : opensWord x = false) (hx' : opensWord x' = false) (h : w ++ x = w' ++ x') :
    w = w' ∧ x = x' := by
  induction w generalizing w' with
  | nil =>
      cases w' with
      | nil => exact ⟨rfl, h⟩
      | cons c w' =>
          -- the second word would go on in what follows the first one
          rw [List.all_cons, Bool.and_eq_true] at hw'
          rw [List.nil_append, List.cons_append] at h
          rw [h, opensWord, hw'.1] at hx
          cases hx
  | cons c w ih =>
      cases w' with
      | nil =>
          rw [List.all_cons, Bool.and_eq_true] at hw
          rw [List.nil_append, List.cons_append] at h
          rw [← h, opensWord, hw.1] at hx'
          cases hx'
      | cons d w' =>
          rw [List.all_cons, Bool.and_eq_true] at hw hw'
          obtain ⟨rfl, htail⟩ := List.cons.inj h
          obtain ⟨rfl, rest⟩ := ih hw.2 hw'.2 htail
          exact ⟨rfl, rest⟩

/-- What the text of a type starts with. -/
inductive Lead where
  /-- No word but a parenthesis. -/
  | group
  | emptySequence
  | item
  | atomic (type : AtomicType)
  | node (kind : NodeKind)
  | function
  | map
  | array
  deriving DecidableEq

namespace Lead

def word : Lead → String
  | group => ""
  | emptySequence => "empty-sequence"
  | item => "item"
  | atomic t => t.text
  | node k => k.keyword
  | function => "function"
  | map => "map"
  | array => "array"

def isFunction : Lead → Bool
  | function | map | array => true
  | _ => false

def all : List Lead :=
  [group, emptySequence, item, function, map, array] ++ AtomicType.all.map atomic ++
    NodeKind.all.map node

def ofWord? (w : String) : Option Lead := all.find? (·.word = w)

theorem ofWord?_word (l : Lead) : ofWord? l.word = some l := by
  cases l with
  | atomic t => cases t <;> rfl
  | node k => cases k <;> rfl
  | _ => rfl

theorem word_injective {a b : Lead} (h : a.word = b.word) : a = b := by
  have hab := congrArg ofWord? h
  rw [ofWord?_word, ofWord?_word] at hab
  exact Option.some.inj hab

theorem all_isWordChar_word (l : Lead) : l.word.toList.all isWordChar := by
  cases l with
  | atomic t => cases t <;> rfl
  | node k => cases k <;> rfl
  | _ => rfl

end Lead

/-- Texts that start with a word each, and go on with something else, start in the same way if they are
equal. -/
theorem lead_cancel {a b : Lead} {x y : List Char} (hx : opensWord x = false)
    (hy : opensWord y = false) (h : a.word.toList ++ x = b.word.toList ++ y) : a = b ∧ x = y := by
  obtain ⟨hword, hrest⟩ := word_cancel a.all_isWordChar_word b.all_isWordChar_word hx hy h
  exact ⟨Lead.word_injective (String.toList_inj.1 hword), hrest⟩

/-- Whether a text starts with the word of a type and does not go on with it. -/
def StartsWith (l : Lead) (x : List Char) : Prop :=
  ∃ tail, x = l.word.toList ++ tail ∧ opensWord tail = false

/-- Texts of types that are equal up to where the types end start in the same way. -/
theorem StartsWith.unique {a b : Lead} {x y r r' : List Char} (hx : StartsWith a x)
    (hy : StartsWith b y) (hr : endsType r) (hr' : endsType r') (h : x ++ r = y ++ r') : a = b := by
  obtain ⟨tail, rfl, htail⟩ := hx
  obtain ⟨tail', rfl, htail'⟩ := hy
  rw [List.append_assoc, List.append_assoc] at h
  exact (lead_cancel (opensWord_append htail (not_opensWord_of_endsType hr))
    (opensWord_append htail' (not_opensWord_of_endsType hr')) h).1

end TypeText

open TypeText

namespace ItemType

def lead : ItemType → Lead
  | item => .item
  | atomic t => .atomic t
  | node k => .node k
  | function _ => .function
  | map _ _ => .map
  | array _ => .array

theorem isFunction_eq_lead (t : ItemType) : t.isFunction = t.lead.isFunction := by
  cases t <;> rfl

/-- A type of items that are no functions is known from its first word. -/
theorem eq_of_lead {t u : ItemType} (ht : t.isFunction = false) (h : t.lead = u.lead) : t = u := by
  cases t with
  | item | atomic _ | node _ => cases u <;> simp_all [lead]
  | _ => cases ht

theorem lead_ne_group (t : ItemType) : t.lead ≠ .group := by
  cases t <;> simp [lead]

theorem text_anyMap : anyMap.text = "map(*)" := rfl

theorem text_anyArray : anyArray.text = "array(*)" := rfl

theorem text_map {k : AtomicType} {v : SeqType} (h : map k v ≠ anyMap) :
    (map k v).text = "map(" ++ k.text ++ ", " ++ v.text ++ ")" := by
  rw [text]
  rintro _ rfl rfl
  exact h rfl

theorem text_array {m : SeqType} (h : array m ≠ anyArray) :
    (array m).text = "array(" ++ m.text ++ ")" := by
  rw [text]
  rintro _ rfl
  exact h rfl

/-- The text of an item type is its first word and what stands in parentheses after it. -/
theorem startsWith_text (t : ItemType) : StartsWith t.lead t.text.toList := by
  cases t with
  | item => exact ⟨['(', ')'], rfl, rfl⟩
  | atomic t => exact ⟨[], by simp [text, lead, Lead.word], rfl⟩
  | node k => exact ⟨['(', ')'], by simp [text, lead, Lead.word, NodeKind.testText], rfl⟩
  | function f =>
      cases f with
      | any => exact ⟨['(', '*', ')'], rfl, rfl⟩
      | of ps r =>
          refine ⟨'(' :: ((SeqType.textAll ps).toList ++ (") as " ++ r.text).toList), ?_, rfl⟩
          simp [text, FunctionType.text, lead, Lead.word]
  | map k v =>
      by_cases h : map k v = anyMap
      · rw [h]
        exact ⟨['(', '*', ')'], rfl, rfl⟩
      · rw [text_map h]
        exact ⟨'(' :: (k.text ++ ", " ++ v.text ++ ")").toList, by simp [lead, Lead.word], rfl⟩
  | array m =>
      by_cases h : array m = anyArray
      · rw [h]
        exact ⟨['(', '*', ')'], rfl, rfl⟩
      · rw [text_array h]
        exact ⟨'(' :: (m.text ++ ")").toList, by simp [lead, Lead.word], rfl⟩

/-- An item type starts with a letter of its first word. -/
theorem head_text (t : ItemType) : ∃ c cs, t.text.toList = c :: cs ∧ c ≠ '*' ∧ c ≠ ')' := by
  obtain ⟨tail, htext, _⟩ := t.startsWith_text
  obtain ⟨c, cs, hword⟩ : ∃ c cs, t.lead.word.toList = c :: cs := by
    apply List.exists_cons_of_ne_nil
    intro hnil
    exact t.lead_ne_group (Lead.word_injective (String.toList_inj.1 hnil))
  have hc : isWordChar c := by
    have hall := t.lead.all_isWordChar_word
    rw [hword, List.all_cons, Bool.and_eq_true] at hall
    exact hall.1
  rw [htext, hword]
  refine ⟨c, cs ++ tail, rfl, ?_, ?_⟩ <;> rintro rfl <;> cases hc

theorem isListLike_of_written {t : ItemType} (ht : t.within .written) : t.isListLike = false := by
  cases t with
  | atomic a =>
      apply decide_eq_false
      rintro rfl
      cases ht
  | _ => rfl

end ItemType

namespace Occurrence

/-- The indicator a text starts with, and what follows it. -/
def readSuffix : List Char → Occurrence × List Char
  | '?' :: r => (zeroOne, r)
  | '+' :: r => (oneMore, r)
  | '*' :: r => (zeroMore, r)
  | r => (one, r)

theorem readSuffix_suffix {o : Occurrence} (ho : o ≠ zero) {r : List Char} (hr : endsType r) :
    readSuffix (o.suffix.toList ++ r) = (o, r) := by
  cases o with
  | zero => exact absurd rfl ho
  | zeroOne | oneMore | zeroMore => rfl
  | one =>
      cases r with
      | nil => rfl
      | cons c r => rcases endsType_cons_iff.1 hr with rfl | rfl <;> rfl

theorem suffix_cancel {o p : Occurrence} (ho : o ≠ zero) (hp : p ≠ zero) {r r' : List Char}
    (hr : endsType r) (hr' : endsType r') (h : o.suffix.toList ++ r = p.suffix.toList ++ r') :
    o = p ∧ r = r' := by
  have hread := congrArg readSuffix h
  rw [readSuffix_suffix ho hr, readSuffix_suffix hp hr'] at hread
  exact Prod.mk.inj hread

theorem not_opensWord_suffix (o : Occurrence) : opensWord o.suffix.toList = false := by
  cases o <;> rfl

end Occurrence

namespace SeqType

/-- Whether an item type is set in parentheses before the indicator. -/
def isGrouped (t : ItemType) (o : Occurrence) : Bool := o ≠ .one && t.isFunction

theorem isFunction_of_grouped {t : ItemType} {o : Occurrence} (h : isGrouped t o) : t.isFunction := by
  rw [isGrouped, Bool.and_eq_true] at h
  exact h.2

theorem eq_one_of_not_grouped {t : ItemType} {o : Occurrence} (h : isGrouped t o = false)
    (ht : t.isFunction) : o = .one := by
  simpa [isGrouped, ht] using h

def lead : SeqType → Lead
  | empty => .emptySequence
  | of t o _ _ => if isGrouped t o then .group else t.lead

section

variable {t u : ItemType} {o p : Occurrence} {ho : o ≠ .zero} {hp : p ≠ .zero} {r r' : List Char}

theorem text_of_grouped (ht : t.within .written) (hgroup : isGrouped t o) :
    (of t o none ho).text.toList = '(' :: (t.text.toList ++ ')' :: o.suffix.toList) := by
  rw [isGrouped] at hgroup
  simp only [text, ItemType.isListLike_of_written ht, hgroup]
  simp

theorem text_of_not_grouped (ht : t.within .written) (hgroup : isGrouped t o = false) :
    (of t o none ho).text.toList = t.text.toList ++ o.suffix.toList := by
  rw [isGrouped] at hgroup
  simp only [text, ItemType.isListLike_of_written ht, hgroup]
  simp

/-- The text of a sequence type is its first word and something that does not go on with it. -/
theorem startsWith_text {s : SeqType} (hs : s.within .written) : StartsWith s.lead s.text.toList := by
  cases s with
  | empty => exact ⟨['(', ')'], rfl, rfl⟩
  | of t o k ho =>
      obtain rfl : k = none := test?_eq_none_of_within (s := of t o k ho) rfl hs
      have ht : t.within .written := itemType_within rfl hs
      cases hgroup : isGrouped t o with
      | true =>
          rw [text_of_grouped ht hgroup, lead, if_pos hgroup]
          exact ⟨_, rfl, rfl⟩
      | false =>
          obtain ⟨tail, htext, htail⟩ := t.startsWith_text
          rw [text_of_not_grouped ht hgroup, lead, hgroup, htext, List.append_assoc]
          exact ⟨_, rfl, opensWord_append htail o.not_opensWord_suffix⟩

/-- A type starts with a word or a parenthesis: neither like a short form nor like the end of a list. -/
theorem head_text {s : SeqType} (hs : s.within .written) :
    ∃ c cs, s.text.toList = c :: cs ∧ c ≠ '*' ∧ c ≠ ')' := by
  cases s with
  | empty => exact ⟨'e', _, rfl, by decide, by decide⟩
  | of t o k ho =>
      obtain rfl : k = none := test?_eq_none_of_within (s := of t o k ho) rfl hs
      have ht : t.within .written := itemType_within rfl hs
      cases hgroup : isGrouped t o with
      | true => exact ⟨'(', _, text_of_grouped ht hgroup, by decide, by decide⟩
      | false =>
          obtain ⟨c, cs, hword, hstar, hclose⟩ := t.head_text
          rw [text_of_not_grouped ht hgroup, hword]
          exact ⟨c, _, rfl, hstar, hclose⟩

theorem lead_of_ne_emptySequence {k : Option KindTest} : (of t o k ho).lead ≠ .emptySequence := by
  rw [lead]
  split
  · simp
  · cases t <;> simp [ItemType.lead]

theorem lead_of_eq_group_iff {k : Option KindTest} : (of t o k ho).lead = .group ↔ isGrouped t o := by
  rw [lead]
  split
  · next h => exact iff_of_true rfl h
  · next h => exact iff_of_false t.lead_ne_group h

/-- If the texts of the item types can be told apart where they are followed by the end of a type, the
texts of the sequence types can. Types of items that are no functions need no more than their words. -/
theorem text_cancel_of_items (ht : t.within .written) (hu : u.within .written)
    (hitems : t.isFunction → u.isFunction → ∀ {r r' : List Char}, endsType r → endsType r' →
      t.text.toList ++ r = u.text.toList ++ r' → t = u ∧ r = r')
    (hr : endsType r) (hr' : endsType r')
    (h : (of t o none ho).text.toList ++ r = (of u p none hp).text.toList ++ r') :
    of t o none ho = of u p none hp ∧ r = r' := by
  have hlead : (of t o none ho).lead = (of u p none hp).lead :=
    (startsWith_text (by simpa [within, Fragment.written] using ht)).unique
      (startsWith_text (by simpa [within, Fragment.written] using hu)) hr hr' h
  have hgroup : isGrouped t o = isGrouped u p := by
    apply Bool.eq_iff_iff.2
    calc
      isGrouped t o ↔ (of t o none ho).lead = .group := lead_of_eq_group_iff.symm
      _ ↔ (of u p none hp).lead = .group := by rw [hlead]
      _ ↔ isGrouped u p := lead_of_eq_group_iff
  -- it is enough to know the item type and what follows it
  suffices hsame : t = u ∧ o.suffix.toList ++ r = p.suffix.toList ++ r' by
    obtain ⟨rfl, hsuffix⟩ := hsame
    obtain ⟨rfl, rfl⟩ := Occurrence.suffix_cancel ho hp hr hr' hsuffix
    exact ⟨rfl, rfl⟩
  cases hto : isGrouped t o with
  | true =>
      have hup : isGrouped u p := hgroup.symm.trans hto
      rw [text_of_grouped ht hto, text_of_grouped hu hup] at h
      have hinner : t.text.toList ++ ')' :: (o.suffix.toList ++ r) =
          u.text.toList ++ ')' :: (p.suffix.toList ++ r') := by
        simpa using h
      obtain ⟨rfl, hclose⟩ :=
        hitems (isFunction_of_grouped hto) (isFunction_of_grouped hup) rfl rfl hinner
      exact ⟨rfl, (List.cons.inj hclose).2⟩
  | false =>
      have hup : isGrouped u p = false := hgroup.symm.trans hto
      have hwords : t.lead = u.lead := by simpa [lead, hto, hup] using hlead
      rw [text_of_not_grouped ht hto, text_of_not_grouped hu hup, List.append_assoc,
        List.append_assoc] at h
      cases hfun : t.isFunction with
      | false =>
          obtain rfl := ItemType.eq_of_lead hfun hwords
          exact ⟨rfl, List.append_cancel_left h⟩
      | true =>
          have hufun : u.isFunction := by
            rw [u.isFunction_eq_lead, ← hwords, ← t.isFunction_eq_lead]
            exact hfun
          -- a function type without parentheses has no indicator
          obtain rfl := eq_one_of_not_grouped hto hfun
          obtain rfl := eq_one_of_not_grouped hup hufun
          exact hitems hfun hufun hr hr' h

end
end SeqType

/-! ### Short forms

Neither the name of a key nor a sequence type starts with an asterisk, and a list of parameters does not
either. -/

namespace SeqType

/-- What is written after the first type of a list. -/
def textMore : List SeqType → String
  | [] => ""
  | q :: qs => ", " ++ textAll (q :: qs)

theorem textAll_cons (p : SeqType) (ps : List SeqType) :
    (textAll (p :: ps)).toList = p.text.toList ++ (textMore ps).toList := by
  cases ps <;> simp [textAll, textMore]

theorem endsType_textMore (ps : List SeqType) {r : List Char} :
    endsType ((textMore ps).toList ++ ')' :: r) := by
  cases ps <;> simp [textMore, endsType]

theorem head_textAll {p : SeqType} (hp : p.within .written) (ps : List SeqType) :
    ∃ c cs, (textAll (p :: ps)).toList = c :: cs ∧ c ≠ '*' ∧ c ≠ ')' := by
  obtain ⟨c, cs, hc, hne⟩ := head_text hp
  rw [textAll_cons, hc]
  exact ⟨c, _, rfl, hne⟩

end SeqType

section

variable {r r' : List Char}

theorem ItemType.anyMap_text_ne {k : AtomicType} {v : SeqType} (hne : map k v ≠ anyMap) :
    anyMap.text.toList ++ r ≠ (map k v).text.toList ++ r' := by
  intro h
  obtain ⟨c, cs, hc, hstar, _⟩ := (atomic k).head_text
  rw [ItemType.text] at hc
  rw [text_map hne, text_anyMap] at h
  simp [hc] at h
  exact hstar h.1.symm

theorem ItemType.anyArray_text_ne {m : SeqType} (hm : m.within .written) (hne : array m ≠ anyArray) :
    anyArray.text.toList ++ r ≠ (array m).text.toList ++ r' := by
  intro h
  obtain ⟨c, cs, hc, hstar, _⟩ := SeqType.head_text hm
  rw [text_array hne, text_anyArray] at h
  simp [hc] at h
  exact hstar h.1.symm

theorem FunctionType.any_text_ne {ps : List SeqType} {s : SeqType}
    (hps : SeqType.allWithin .written ps) :
    any.text.toList ++ r ≠ (of ps s).text.toList ++ r' := by
  intro h
  cases ps with
  | nil => simp [text, SeqType.textAll] at h
  | cons p ps =>
      rw [SeqType.allWithin, Bool.and_eq_true] at hps
      obtain ⟨c, cs, hc, hstar, _⟩ := SeqType.head_textAll hps.1 ps
      simp [text, hc] at h
      exact hstar h.1.symm

end

mutual

/-- The text of a type of functions, maps or arrays is not confused with what follows it. -/
theorem ItemType.text_cancel : {t u : ItemType} → t.within .written → u.within .written →
    t.isFunction → u.isFunction → {r r' : List Char} → endsType r → endsType r' →
    t.text.toList ++ r = u.text.toList ++ r' → t = u ∧ r = r'
  | .function f, .function g, ht, hu, _, _, r, r', hr, hr', h => by
      rw [ItemType.within_function_iff] at ht hu
      rw [ItemType.text, ItemType.text] at h
      obtain ⟨rfl, rfl⟩ := FunctionType.text_cancel ht.2 hu.2 hr hr' h
      exact ⟨rfl, rfl⟩
  | .map k v, .map l w, ht, hu, _, _, r, r', hr, hr', h => by
      by_cases hkv : ItemType.map k v = .anyMap
      · by_cases hlw : ItemType.map l w = .anyMap
        · rw [hkv, hlw] at h ⊢
          exact ⟨rfl, List.append_cancel_left h⟩
        · rw [hkv] at h
          exact absurd h (ItemType.anyMap_text_ne hlw)
      · by_cases hlw : ItemType.map l w = .anyMap
        · rw [hlw] at h
          exact absurd h.symm (ItemType.anyMap_text_ne hkv)
        · rw [ItemType.within_map_iff] at ht hu
          rw [ItemType.text_map hkv, ItemType.text_map hlw] at h
          have hinner : k.text.toList ++ ([',', ' '] ++ (v.text.toList ++ ')' :: r)) =
              l.text.toList ++ ([',', ' '] ++ (w.text.toList ++ ')' :: r')) := by
            simpa using h
          obtain ⟨hkey, hrest⟩ := lead_cancel (a := .atomic k) (b := .atomic l) rfl rfl hinner
          cases hkey
          obtain ⟨rfl, hclose⟩ := SeqType.text_cancel ht.2 hu.2 rfl rfl (List.append_cancel_left hrest)
          exact ⟨rfl, (List.cons.inj hclose).2⟩
  | .array m, .array n, ht, hu, _, _, r, r', hr, hr', h => by
      rw [ItemType.within_array_iff] at ht hu
      by_cases hm : ItemType.array m = .anyArray
      · by_cases hn : ItemType.array n = .anyArray
        · rw [hm, hn] at h ⊢
          exact ⟨rfl, List.append_cancel_left h⟩
        · rw [hm] at h
          exact absurd h (ItemType.anyArray_text_ne hu.2 hn)
      · by_cases hn : ItemType.array n = .anyArray
        · rw [hn] at h
          exact absurd h.symm (ItemType.anyArray_text_ne ht.2 hm)
        · rw [ItemType.text_array hm, ItemType.text_array hn] at h
          have hinner : m.text.toList ++ ')' :: r = n.text.toList ++ ')' :: r' := by simpa using h
          obtain ⟨rfl, hclose⟩ := SeqType.text_cancel ht.2 hu.2 rfl rfl hinner
          exact ⟨rfl, (List.cons.inj hclose).2⟩
  | .function _, .map _ _, _, _, _, _, _, _, hr, hr', h
  | .function _, .array _, _, _, _, _, _, _, hr, hr', h
  | .map _ _, .function _, _, _, _, _, _, _, hr, hr', h
  | .map _ _, .array _, _, _, _, _, _, _, hr, hr', h
  | .array _, .function _, _, _, _, _, _, _, hr, hr', h
  | .array _, .map _ _, _, _, _, _, _, _, hr, hr', h => by
      cases (ItemType.startsWith_text _).unique (ItemType.startsWith_text _) hr hr' h

theorem FunctionType.text_cancel : {f g : FunctionType} → f.within .written → g.within .written →
    {r r' : List Char} → endsType r → endsType r' →
    f.text.toList ++ r = g.text.toList ++ r' → f = g ∧ r = r'
  | .any, .any, _, _, r, r', _, _, h => ⟨rfl, List.append_cancel_left h⟩
  | .any, .of qs t, _, hg, r, r', _, _, h => by
      rw [FunctionType.within, Bool.and_eq_true] at hg
      exact absurd h (FunctionType.any_text_ne hg.1)
  | .of ps s, .any, hf, _, r, r', _, _, h => by
      rw [FunctionType.within, Bool.and_eq_true] at hf
      exact absurd h.symm (FunctionType.any_text_ne hf.1)
  | .of ps s, .of qs t, hf, hg, r, r', hr, hr', h => by
      rw [FunctionType.within, Bool.and_eq_true] at hf hg
      have hinner : (SeqType.textAll ps).toList ++ ')' :: ([' ', 'a', 's', ' '] ++ (s.text.toList ++ r)) =
          (SeqType.textAll qs).toList ++ ')' :: ([' ', 'a', 's', ' '] ++ (t.text.toList ++ r')) := by
        simpa [FunctionType.text] using h
      obtain ⟨rfl, hrest⟩ := SeqType.textAll_cancel hf.1 hg.1 hinner
      obtain ⟨rfl, rfl⟩ := SeqType.text_cancel hf.2 hg.2 hr hr' (List.append_cancel_left hrest)
      exact ⟨rfl, rfl⟩

/-- The text of a sequence type is not confused with what follows it. -/
theorem SeqType.text_cancel : {s t : SeqType} → s.within .written → t.within .written →
    {r r' : List Char} → endsType r → endsType r' →
    s.text.toList ++ r = t.text.toList ++ r' → s = t ∧ r = r'
  | .empty, .empty, _, _, r, r', _, _, h => ⟨rfl, List.append_cancel_left h⟩
  | .empty, .of u p l hp, hs, ht, r, r', hr, hr', h =>
      absurd ((SeqType.startsWith_text ht).unique (SeqType.startsWith_text hs) hr' hr h.symm)
        SeqType.lead_of_ne_emptySequence
  | .of t o k ho, .empty, hs, ht, r, r', hr, hr', h =>
      absurd ((SeqType.startsWith_text hs).unique (SeqType.startsWith_text ht) hr hr' h)
        SeqType.lead_of_ne_emptySequence
  | .of t o k ho, .of u p l hp, hs, ht, r, r', hr, hr', h => by
      obtain rfl : k = none := SeqType.test?_eq_none_of_within (s := .of t o k ho) rfl hs
      obtain rfl : l = none := SeqType.test?_eq_none_of_within (s := .of u p l hp) rfl ht
      have hwt : t.within .written := SeqType.itemType_within rfl hs
      have hwu : u.within .written := SeqType.itemType_within rfl ht
      exact SeqType.text_cancel_of_items hwt hwu
        (fun hfun hufun => ItemType.text_cancel hwt hwu hfun hufun) hr hr' h

/-- A list of sequence types is not confused with what follows its closing parenthesis. -/
theorem SeqType.textAll_cancel : {ps qs : List SeqType} → SeqType.allWithin .written ps →
    SeqType.allWithin .written qs → {r r' : List Char} →
    (SeqType.textAll ps).toList ++ ')' :: r = (SeqType.textAll qs).toList ++ ')' :: r' →
    ps = qs ∧ r = r'
  | [], [], _, _, r, r', h => ⟨rfl, (List.cons.inj h).2⟩
  | [], q :: qs, _, hqs, r, r', h => by
      rw [SeqType.allWithin, Bool.and_eq_true] at hqs
      obtain ⟨c, cs, hc, _, hclose⟩ := SeqType.head_textAll hqs.1 qs
      rw [hc] at h
      exact absurd (List.cons.inj h).1.symm hclose
  | p :: ps, [], hps, _, r, r', h => by
      rw [SeqType.allWithin, Bool.and_eq_true] at hps
      obtain ⟨c, cs, hc, _, hclose⟩ := SeqType.head_textAll hps.1 ps
      rw [hc] at h
      exact absurd (List.cons.inj h).1 hclose
  | p :: ps, q :: qs, hps, hqs, r, r', h => by
      rw [SeqType.allWithin, Bool.and_eq_true] at hps hqs
      rw [SeqType.textAll_cons, SeqType.textAll_cons, List.append_assoc, List.append_assoc] at h
      obtain ⟨rfl, hrest⟩ :=
        SeqType.text_cancel hps.1 hqs.1 (SeqType.endsType_textMore ps) (SeqType.endsType_textMore qs) h
      cases ps with
      | nil =>
          cases qs with
          | nil => exact ⟨rfl, (List.cons.inj hrest).2⟩
          | cons q' qs => simp [SeqType.textMore] at hrest
      | cons p' ps =>
          cases qs with
          | nil => simp [SeqType.textMore] at hrest
          | cons q' qs =>
              have hlist : (SeqType.textAll (p' :: ps)).toList ++ ')' :: r =
                  (SeqType.textAll (q' :: qs)).toList ++ ')' :: r' := by
                simpa [SeqType.textMore] using hrest
              obtain ⟨heq, rfl⟩ := SeqType.textAll_cancel hps.2 hqs.2 hlist
              exact ⟨by rw [heq], rfl⟩

end

namespace SeqType

variable {s t : SeqType}

theorem testFree_of_written (hs : s.within .written) : s.within .testFree :=
  within_mono (f := .written) (g := .testFree) (fun _ _ => rfl) (fun _ hk => hk) hs

theorem eq_of_text (hs : s.within .written) (ht : t.within .written) (h : s.text = t.text) : s = t := by
  have hchars : s.text.toList ++ [] = t.text.toList ++ [] := by rw [h]
  exact (text_cancel hs ht rfl rfl hchars).1

theorem eq_of_beq_of_testFree (hs : s.within .testFree) (h : s == t) : s = t := by
  obtain ⟨hsub, hsup⟩ := subtypeOf_of_beq h
  exact subtypeOf_antisymm hs hsub hsup

/-- Among the types without tests, in which no item is of the list type, those that are written in the
same way are the equal ones. -/
theorem text_unambiguous (hs : s.within .written) (ht : t.within .written) : s.text = t.text ↔ s == t := by
  constructor
  · intro h
    rw [eq_of_text hs ht h]
    exact beq_refl t
  · intro h
    rw [eq_of_beq_of_testFree (testFree_of_written hs) h]

/-- The indicator of a result is not taken for one of the function. -/
theorem text_of_optional_result_ne :
    let int : SeqType := (ItemType.atomic .int).single
    let optional (t : ItemType) : SeqType := of t .zeroOne none (by decide)
    let left : SeqType := (ItemType.function (.of [int] (optional (.atomic .int)))).single
    let right : SeqType := optional (.function (.of [int] int))
    left.within .written ∧ right.within .written ∧ left.text ≠ right.text := by
  intro int optional left right
  have hleft : left.within .written := by decide
  have hright : right.within .written := by decide
  have hne : ¬left == right := by decide +kernel
  exact ⟨hleft, hright, fun h => hne ((text_unambiguous hleft hright).1 h)⟩

/-- The list type is written without its indicator. -/
example : (of (.atomic .nmtokens) .zeroOne none (by decide)).text =
    (ItemType.atomic .nmtokens).single.text := rfl

end SeqType
end SequenceTypes
