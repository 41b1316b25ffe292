import SequenceTypes.Proofs.Facets
import SequenceTypes.Proofs.PromotionSoundness

/-! Promotion and casting agree. A value that promotion keeps can be cast to the target, since widening a
well-formed value meets the facets of the wider type; a value that promotion converts is converted in the
same way by a cast; and what a cast yields is cast to itself. So wherever promotion succeeds, casting the
sequence and casting the promoted sequence yield the same. -/

namespace SequenceTypes

open Traversal

namespace Cast

theorem toDouble_of_toDouble? {target : AtomicType} {a : AtomicValue} {x : Double}
    (h : a.toDouble? = some x) : toDouble target a = .ok x := by
  cases a with
  | double _ | float _ | decimal _ | integer _ _ =>
      cases h
      rfl
  | _ => cases h

theorem toSingle_of_toSingle? {a : AtomicValue} {x : Single} (h : a.toSingle? = some x) :
    toSingle a = .ok x := by
  cases a with
  | double _ | float _ | decimal _ | integer _ _ =>
      cases h
      rfl
  | _ => cases h

theorem convert_of_promote? {ctx : StaticContext} {target : AtomicType} {a p : AtomicValue}
    (h : a.promote? target = some p) : convert ctx target a = .ok p := by
  unfold AtomicValue.promote? at h
  split at h
  · obtain ⟨_, h⟩ := Option.ite_none_right_eq_some.1 h
    obtain ⟨x, hx, rfl⟩ := Option.map_eq_some_iff.1 h
    rw [convert, toDouble_of_toDouble? hx]
    rfl
  · obtain ⟨_, h⟩ := Option.ite_none_right_eq_some.1 h
    obtain ⟨x, hx, rfl⟩ := Option.map_eq_some_iff.1 h
    rw [convert, toSingle_of_toSingle? hx]
    rfl
  · obtain ⟨_, heq⟩ := Option.ite_none_right_eq_some.1 h
    cases heq
    rfl
  · cases h

end Cast

namespace AtomicType

variable {ctx : StaticContext} {target : AtomicType} {a b : AtomicValue}

theorem cast_of_type_eq (h : a.type = target) : target.cast ctx a = .ok [a] := by
  rw [cast, if_pos h]

theorem cast_of_type_ne (habstract : target.isAbstract = false) (hlist : target.isListLike = false)
    (h : a.type ≠ target) : target.cast ctx a = (Cast.convert ctx target a).map ([·]) := by
  rw [cast, if_neg h, habstract, hlist]
  rfl

/-- A value of the target, or any number for the union of numbers, is cast to itself. -/
theorem cast_self (h : b.type = target ∨ target = .numeric ∧ b.type.isNumeric) :
    target.cast ctx b = .ok [b] := by
  by_cases htype : b.type = target
  · exact cast_of_type_eq htype
  · obtain ⟨rfl, hnumeric⟩ := h.resolve_left htype
    rw [cast_of_type_ne rfl rfl htype, Cast.convert, if_pos hnumeric]
    rfl

theorem cast_of_cast (hlist : target.isListLike = false) {bs : List AtomicValue}
    (h : target.cast ctx a = .ok bs) : ∃ b, bs = [b] ∧ target.cast ctx b = .ok [b] := by
  obtain ⟨b, rfl, hb⟩ := exact_type_of_cast (of_decide_eq_false hlist) h
  exact ⟨b, rfl, cast_self hb⟩

/-- A well-formed value can be converted to every supertype of its type that is not abstract. -/
theorem convert_of_subtypeOf (ctx : StaticContext) (habstract : target.isAbstract = false)
    (ha : a.isWellFormed) (hsub : a.type.subtypeOf target) (hne : a.type ≠ target) :
    ∃ b, Cast.convert ctx target a = .ok b := by
  -- the union of numbers is the last supertype of any number, and takes it as it is
  have hnumber : a.type.isNumeric → numeric.subtypeOf target →
      ∃ b, Cast.convert ctx target a = .ok b := by
    intro hnumeric hsuper
    obtain rfl := eq_of_primitive_subtypeOf rfl habstract hsuper
    exact ⟨a, if_pos hnumeric⟩
  cases a with
  | string t text =>
      rw [AtomicValue.isWellFormed, Bool.and_eq_true] at ha
      obtain ⟨ht, htext⟩ := ha
      have hadmits := admitsText_mono hsub htext
      rcases comparable_of_subtypeOf hsub ht with hstring | hstring
      · exact ⟨_, Cast.convert_string hstring hadmits⟩
      · obtain rfl := eq_of_primitive_subtypeOf rfl habstract hstring
        exact ⟨_, Cast.convert_string rfl hadmits⟩
  | integer t n =>
      rw [AtomicValue.isWellFormed, Bool.and_eq_true] at ha
      obtain ⟨ht, hn⟩ := ha
      have hrange := inRange_mono hsub hn
      rcases comparable_of_subtypeOf hsub ht with hinteger | hinteger
      · exact ⟨_, Cast.convert_integer hinteger hrange⟩
      -- otherwise the target is on the way from `xs:integer` to the root
      rcases eq_or_subtypeOf_of_parent? (p := decimal) rfl hinteger with rfl | hdecimal
      · exact ⟨_, Cast.convert_integer rfl hrange⟩
      rcases eq_or_subtypeOf_of_parent? (p := numeric) rfl hdecimal with rfl | hnumeric
      · exact ⟨_, rfl⟩
      · exact hnumber (subtypeOf_trans ht rfl) hnumeric
  | double _ | float _ | decimal _ =>
      rcases eq_or_subtypeOf_of_parent? (p := numeric) rfl hsub with heq | hnumeric
      · exact absurd heq.symm hne
      · exact hnumber rfl hnumeric
  | _ => exact absurd (eq_of_primitive_subtypeOf rfl habstract hsub).symm hne

end AtomicType

/-- Whether an item is a well-formed atomic value or a node. -/
def Item.isData : Item → Bool
  | atomic a => a.isWellFormed
  | node _ => true
  | _ => false

theorem Node.isWellFormed_typedValue (n : Node) : n.typedValue.isWellFormed := by
  rw [typedValue]
  split <;> rfl

theorem Item.atomize_of_isData {i : Item} (hi : i.isData) :
    ∃ a, i.atomize = .ok [a] ∧ a.isWellFormed := by
  cases i with
  | atomic a => exact ⟨a, by rw [atomize], hi⟩
  | node n => exact ⟨n.typedValue, by rw [atomize], n.isWellFormed_typedValue⟩
  | _ => cases hi

theorem Item.eq_atomic_of_runtimeType {i : Item} {t : AtomicType} (h : i.runtimeType == .atomic t) :
    ∃ a, i = .atomic a ∧ a.type = t := by
  have hbeq : i.runtimeType.beq (.atomic t) := h
  cases i with
  | atomic a => exact ⟨a, rfl, by simpa [runtimeType, ItemType.beq] using hbeq⟩
  | _ => simp [runtimeType, ItemType.anyMap, ItemType.anyArray, ItemType.beq] at hbeq

theorem Item.eq_atomic_of_hasInstance {i : Item} {t : AtomicType}
    (h : (ItemType.atomic t).hasInstance i) : ∃ a, i = .atomic a ∧ a.type.subtypeOf t := by
  rw [ItemType.atomic_hasInstance_eq] at h
  obtain ⟨r, hr, hrt⟩ := ItemType.subtypeOf_atomic_iff.1 h
  cases i with
  | atomic a =>
      cases hr
      exact ⟨a, rfl, hrt⟩
  | _ => cases hr

namespace SeqType

variable {ctx : StaticContext} {opts : PromoteOptions} {s : SeqType} {binding? : Option QName}
  {target : AtomicType} {i : Item} {a : AtomicValue}

/-- A cast of an item with a single atomic value is the cast of that value. -/
theorem castItem_of_atomize (hs : s.itemType = .atomic target) (htest : s.test? = none)
    (ha : i.atomize = .ok [a]) :
    s.castItem ctx i = (target.cast ctx a).map (·.map .atomic) := by
  rw [castItem]
  split
  · next htype =>
      rw [hs] at htype
      obtain ⟨b, rfl, hb⟩ := Item.eq_atomic_of_runtimeType htype
      rw [Item.atomize] at ha
      cases ha
      rw [AtomicType.cast_of_type_eq hb]
      rfl
  · rw [hs, ItemType.cast, ha, htest]
    cases h : target.cast ctx a <;> simp [h, Except.map, bind, Except.bind]

/-- An item becomes what its atomic values do, an item that matches being its own value. -/
theorem promoteOne_of_atoms (hs : s.itemType = .atomic target) {atoms : List AtomicValue}
    (ha : i.atomize = .ok atoms) :
    s.promoteOne ctx opts binding? i =
      (atoms.mapM (s.promoteAtom ctx binding? target i)).map fun parts => parts.flatten.map .atomic := by
  by_cases hi : s.hasItem i
  · have hinstance := (Bool.and_eq_true_iff.1 hi).1
    rw [hs] at hinstance
    obtain ⟨b, rfl, hb⟩ := Item.eq_atomic_of_hasInstance hinstance
    rw [Item.atomize] at ha
    cases ha
    have hkept : s.promoteAtom ctx binding? target (.atomic b) b = .ok [b] := by
      rw [promoteAtom, if_pos hb]
    rw [promoteOne_of_hasItem hi, List.mapM_cons, hkept]
    rfl
  · rw [promoteOne_of_not_hasItem hi, promoteItem, hs, ha]
    rfl

theorem promoteOne_of_atomize (hs : s.itemType = .atomic target) (ha : i.atomize = .ok [a]) :
    s.promoteOne ctx opts binding? i =
      (s.promoteAtom ctx binding? target i a).map (·.map .atomic) := by
  rw [promoteOne_of_atoms hs ha, List.mapM_cons]
  cases s.promoteAtom ctx binding? target i a <;>
    simp [Except.map, bind, Except.bind, pure, Except.pure]

/-- A promoted value can be cast, and so can the value it was made of, to the same value. -/
theorem cast_of_promoteAtom (habstract : target.isAbstract = false) (hlist : target.isListLike = false)
    (ha : a.isWellFormed) {bs : List AtomicValue} (h : s.promoteAtom ctx binding? target i a = .ok bs) :
    ∃ b c, bs = [b] ∧ target.cast ctx a = .ok [c] ∧ target.cast ctx b = .ok [c] := by
  rw [promoteAtom] at h
  split at h
  · next hsub =>
      cases h
      by_cases htype : a.type = target
      · exact ⟨a, a, rfl, AtomicType.cast_of_type_eq htype, AtomicType.cast_of_type_eq htype⟩
      · obtain ⟨c, hc⟩ := AtomicType.convert_of_subtypeOf ctx habstract ha hsub htype
        have hcast : target.cast ctx a = .ok [c] := by
          rw [AtomicType.cast_of_type_ne habstract hlist htype, hc]
          rfl
        exact ⟨a, c, rfl, hcast, hcast⟩
  · next hsub =>
      have htype : a.type ≠ target := by
        rintro rfl
        exact hsub (AtomicType.subtypeOf_refl _)
      split at h
      · split at h
        · cases h
        · obtain ⟨b, rfl, hb⟩ := AtomicType.cast_of_cast hlist h
          exact ⟨b, b, rfl, h, hb⟩
      · split at h
        · next p hp =>
            cases h
            refine ⟨p, p, rfl, ?_, AtomicType.cast_of_type_eq (AtomicValue.type_of_promote? hp)⟩
            rw [AtomicType.cast_of_type_ne habstract hlist htype, Cast.convert_of_promote? hp]
            rfl
        · cases h

/-- An item becomes a single item, and both are cast to the same. -/
theorem castItem_of_promoteOne (hs : s.itemType = .atomic target) (htest : s.test? = none)
    (habstract : target.isAbstract = false) (hlist : target.isListLike = false) (hi : i.isData)
    {part : Sequence} (h : s.promoteOne ctx opts binding? i = .ok part) :
    ∃ j w, part = [j] ∧ s.castItem ctx i = .ok w ∧ s.castItem ctx j = .ok w := by
  obtain ⟨a, ha, hwell⟩ := Item.atomize_of_isData hi
  rw [promoteOne_of_atomize hs ha] at h
  obtain ⟨bs, hbs, rfl⟩ := map_eq_ok_iff.1 h
  obtain ⟨b, c, rfl, hac, hbc⟩ := cast_of_promoteAtom habstract hlist hwell hbs
  refine ⟨.atomic b, [.atomic c], rfl, ?_, ?_⟩
  · rw [castItem_of_atomize hs htest ha, hac]
    rfl
  · rw [castItem_of_atomize hs htest (by rw [Item.atomize]), hbc]
    rfl

/-- What the items become is as long as the sequence, and both are cast to the same. -/
theorem mapM_castItem_of_promoteOne (hs : s.itemType = .atomic target) (htest : s.test? = none)
    (habstract : target.isAbstract = false) (hlist : target.isListLike = false) {v : Sequence}
    (hv : ∀ i ∈ v, i.isData) {parts : List Sequence}
    (h : v.mapM (s.promoteOne ctx opts binding?) = .ok parts) :
    parts.flatten.length = v.length ∧
      ∃ ws, v.mapM (s.castItem ctx) = .ok ws ∧ parts.flatten.mapM (s.castItem ctx) = .ok ws := by
  induction v generalizing parts with
  | nil =>
      cases h
      exact ⟨rfl, [], rfl, rfl⟩
  | cons i v ih =>
      obtain ⟨part, rest, hpart, hrest, rfl⟩ := mapM_cons_eq_ok_iff.1 h
      obtain ⟨j, w, rfl, hiw, hjw⟩ :=
        castItem_of_promoteOne hs htest habstract hlist (hv i List.mem_cons_self) hpart
      obtain ⟨hlength, ws, hvws, hrestws⟩ := ih (fun k hk => hv k (List.mem_cons_of_mem i hk)) hrest
      refine ⟨by simpa using hlength, w :: ws, ?_, ?_⟩
      · exact mapM_cons_eq_ok_iff.2 ⟨w, ws, hiw, hvws, rfl⟩
      · exact mapM_cons_eq_ok_iff.2 ⟨w, ws, hjw, hrestws, rfl⟩

/-- Promotion of well-formed data to an atomic type, neither abstract nor a list type, does no more than a
cast: if it succeeds, the sequence and the promoted sequence can be cast, and yield the same. -/
theorem cast_of_promote (hs : s.itemType = .atomic target) (htest : s.test? = none)
    (habstract : target.isAbstract = false) (hlist : target.isListLike = false) {v r : Sequence}
    (hv : ∀ i ∈ v, i.isData) (h : s.promote ctx opts binding? v = .ok r) :
    ∃ w, s.cast ctx v = .ok w ∧ s.cast ctx r = .ok w := by
  obtain ⟨hadmits, parts, hparts, rfl⟩ := parts_of_promote h
  obtain ⟨hlength, ws, hv, hr⟩ := mapM_castItem_of_promoteOne hs htest habstract hlist hv hparts
  refine ⟨ws.flatten, ?_, ?_⟩
  · rw [cast, ← hlength, if_pos hadmits, hv]
    rfl
  · rw [cast, if_pos hadmits, hr]
    rfl

/-- A value of a derived type is kept and an element is read; casts then widen the one and keep the
other. -/
theorem cast_of_promote_to_tokens :
    let tokens : SeqType := of (.atomic .token) .oneMore none (by decide)
    let v : Sequence := [.atomic (.string .ncname "ab"), .node (.element (.ofLocal "e") " c  d ")]
    let r : Sequence := [.atomic (.string .ncname "ab"), .atomic (.string .token "c d")]
    let w : Sequence := [.atomic (.string .token "ab"), .atomic (.string .token "c d")]
    (∀ i ∈ v, i.isData) ∧ tokens.promote .initial .standard none v = .ok r ∧
      tokens.cast .initial v = .ok w ∧ tokens.cast .initial r = .ok w := by
  intro tokens v r w
  have htokens : tokens.itemType = .atomic .token := rfl
  have hdata : ∀ i ∈ v, i.isData := by decide +kernel
  have hpromote : tokens.promote .initial .standard none v = .ok r := by with_unfolding_all rfl
  have hcast : tokens.cast .initial v = .ok w := by with_unfolding_all rfl
  obtain ⟨w', hv, hr⟩ := cast_of_promote htokens rfl rfl rfl hdata hpromote
  obtain rfl : w = w' := Except.ok.inj (hcast.symm.trans hv)
  exact ⟨hdata, hpromote, hv, hr⟩

end SeqType
end SequenceTypes
