import SequenceTypes.Proofs.CalendarText
import SequenceTypes.Proofs.CastAgreement
import SequenceTypes.Proofs.NumberText

/-! Lexical forms determine values. A boolean, an integer in the range of its type, a decimal, a date or a
time is cast to text, and the text is cast back to the type it came from: normalizing white space leaves
the text as it is, the reader of the type accepts it, and what is read is the value one started with. Of
a decimal only the trailing zeros are lost. A time within a leap second that does not end a minute is read
as the ordinary time its text looks like. -/

namespace SequenceTypes

/-- Whether values of a type are written as text of another type and read from it without loss.
Floating-point numbers are rounded when they are read, and names depend on the namespaces in scope. -/
def AtomicType.hasExactText : AtomicType → Bool
  | boolean | decimal | integer | nonNegativeInteger | long | int | date | dateTime | time => true
  | _ => false

namespace AtomicValue

/-- Whether two values are the same; decimals are compared as numbers, whatever their scales. -/
def SameValue : AtomicValue → AtomicValue → Prop
  | decimal d, decimal e => d.value = e.value
  | a, b => a = b

theorem SameValue.refl (a : AtomicValue) : a.SameValue a := by
  cases a <;> rfl

/-- Whether the time of the value is within a leap second that does not end a minute. -/
def Carries : AtomicValue → Prop
  | time t => t.Carries
  | dateTime t => t.time.Carries
  | _ => False

/-- The value that is read from the text of a value. -/
def readBack : AtomicValue → AtomicValue
  | decimal d => decimal d.reduced
  | time t => time t.carried
  | dateTime t => dateTime ⟨t.date, t.time.carried⟩
  | a => a

theorem type_readBack (a : AtomicValue) : a.readBack.type = a.type := by
  cases a <;> rfl

theorem sameValue_readBack_iff (a : AtomicValue) : a.SameValue a.readBack ↔ ¬a.Carries := by
  cases a with
  | decimal d => exact iff_of_true d.value_reduced.symm not_false
  | time t =>
      show AtomicValue.time t = .time t.carried ↔ ¬t.Carries
      rw [time.injEq, eq_comm, Time.carried_eq_self_iff]
  | dateTime t =>
      show AtomicValue.dateTime t = .dateTime ⟨t.date, t.time.carried⟩ ↔ ¬t.time.Carries
      obtain ⟨date, time⟩ := t
      rw [dateTime.injEq, DateTime.mk.injEq, and_iff_right rfl, eq_comm, Time.carried_eq_self_iff]
  | _ => exact iff_of_true (.refl _) not_false

end AtomicValue

namespace Cast

theorem int64?_toInt (n : Int64) : int64? n.toInt = some n := by
  have hlower := n.le_toInt
  have hupper := n.toInt_lt
  have hrange : Int64.minValue.toInt ≤ n.toInt ∧ n.toInt ≤ Int64.maxValue.toInt := by
    rw [Int64.toInt_minValue, Int64.toInt_maxValue]
    omega
  rw [int64?, if_pos hrange, Int64.ofInt_toInt]

theorem toInt64_integerText (target : AtomicType) (n : Int64) :
    toInt64 target (.untyped (AtomicValue.integerText n.toInt)) = .ok n := by
  simp [toInt64, AtomicValue.toList_integerText, Literal.collapse_chars (Literal.isPlain_ofInt _),
    Literal.ofInteger?_chars, Literal.toInt?_ofInt, int64?_toInt, orNotRepresentable, orOutOfRange,
    bind, Except.bind]

theorem toInteger_integerText {target : AtomicType} {n : Int64} (hn : inRange target n.toInt) :
    toInteger target (.untyped (AtomicValue.integerText n.toInt)) = .ok (.integer target n) := by
  rw [toInteger, toInt64_integerText]
  exact if_pos hn

theorem toDecimal_text (d : Decimal) : toDecimal (.untyped d.text) = .ok d.reduced := by
  simp [toDecimal, d.text_eq, Literal.collapse_chars d.isPlain_literal,
    Literal.ofDecimal?_chars d.isPlain_literal, d.ofLiteral?_literal, orNotRepresentable, orOutOfRange,
    bind, Except.bind]

theorem toDate_text (d : Date) : toDate (.untyped d.text) = .ok d := by
  have hcollapse := Text.collapse_of_forall d.chars_ne_nil d.not_isSpace_of_mem_chars
  simp [toDate, Date.text, hcollapse, d.read?_chars, orNotRepresentable]

theorem toTime_text (t : Time) : toTime (.untyped t.text) = .ok t.carried := by
  have hcollapse := Text.collapse_of_forall t.chars_ne_nil t.not_isSpace_of_mem_chars
  simp [toTime, Time.text, hcollapse, t.read?_chars, orNotRepresentable]

theorem toDateTime_text (t : DateTime) :
    toDateTime (.untyped t.text) = .ok ⟨t.date, t.time.carried⟩ := by
  have hcollapse := Text.collapse_of_forall (List.append_ne_nil_of_left_ne_nil t.date.chars_ne_nil _)
    t.not_isSpace_of_mem_chars
  simp [toDateTime, DateTime.text, hcollapse, t.read?_chars, orNotRepresentable]

theorem toBoolean_text (b : Bool) :
    toBoolean (.untyped (AtomicValue.boolean b).stringValue) = .ok b := by
  cases b <;> rfl

end Cast

namespace AtomicType

/-- A type with exact lexical forms can be cast to, and is no type of text. -/
theorem concrete_of_hasExactText {t : AtomicType} (ht : t.hasExactText) :
    t.isAbstract = false ∧ t.isListLike = false ∧ t ≠ .string ∧ t ≠ .untyped := by
  cases t <;> first | decide | cases ht

/-- A string is read as untyped data is. -/
theorem convert_string_eq {t : AtomicType} (ht : t.hasExactText) (ctx : StaticContext) (text : String) :
    Cast.convert ctx t (.string .string text) = Cast.convert ctx t (.untyped text) := by
  cases t <;> first | rfl | cases ht

end AtomicType

namespace AtomicValue

variable {a : AtomicValue}

/-- Untyped data is read by the rules of the value's type. -/
theorem convert_stringValue (ctx : StaticContext) (ha : a.isWellFormed) (hexact : a.type.hasExactText) :
    Cast.convert ctx a.type (.untyped a.stringValue) = .ok a.readBack := by
  cases a with
  | boolean b =>
      rw [type, Cast.convert, Cast.toBoolean_text]
      rfl
  | decimal d =>
      rw [type, stringValue, Cast.convert, Cast.toDecimal_text]
      rfl
  | integer t n =>
      rw [isWellFormed, Bool.and_eq_true] at ha
      obtain ⟨ht, hn⟩ := ha
      have hread := Cast.toInteger_integerText hn
      cases t with
      | integer | nonNegativeInteger | long | int => exact hread
      | _ => cases ht
  | date d =>
      rw [type, stringValue, Cast.convert, Cast.toDate_text]
      rfl
  | dateTime t =>
      rw [type, stringValue, Cast.convert, Cast.toDateTime_text]
      rfl
  | time t =>
      rw [type, stringValue, Cast.convert, Cast.toTime_text]
      rfl
  | string t _ =>
      rw [isWellFormed, Bool.and_eq_true] at ha
      cases t with
      | string | normalizedString | token | language | nmtoken | name | ncname => cases hexact
      | _ => cases ha.1
  | untyped _ | anyURI _ | qname _ | double _ | float _ => cases hexact

/-- Both casts succeed, for both types that carry text and in any context. The value that is read back is the
same one, unless its time is within a leap second that does not end a minute. -/
theorem cast_text_cast_back (ha : a.isWellFormed) (hexact : a.type.hasExactText) {carrier : AtomicType}
    (hcarrier : carrier = .string ∨ carrier = .untyped) (ctx ctx' : StaticContext) :
    (∃ text, carrier.cast ctx a = .ok [text] ∧ text.type = carrier ∧ text.stringValue = a.stringValue ∧
      a.type.cast ctx' text = .ok [a.readBack]) ∧
    a.readBack.type = a.type ∧ (a.SameValue a.readBack ↔ ¬a.Carries) := by
  obtain ⟨habstract, hlist, hstring, huntyped⟩ := AtomicType.concrete_of_hasExactText hexact
  have hread := convert_stringValue ctx' ha hexact
  refine ⟨?_, a.type_readBack, a.sameValue_readBack_iff⟩
  rcases hcarrier with rfl | rfl
  · have hprint : AtomicType.string.cast ctx a = .ok [.string .string a.stringValue] :=
      AtomicType.cast_of_type_ne rfl rfl hstring
    have hback : a.type.cast ctx' (.string .string a.stringValue) = .ok [a.readBack] := by
      have hne : (AtomicValue.string .string a.stringValue).type ≠ a.type := hstring.symm
      rw [AtomicType.cast_of_type_ne habstract hlist hne, AtomicType.convert_string_eq hexact, hread]
      rfl
    exact ⟨_, hprint, rfl, rfl, hback⟩
  · have hprint : AtomicType.untyped.cast ctx a = .ok [.untyped a.stringValue] :=
      AtomicType.cast_of_type_ne rfl rfl huntyped
    have hback : a.type.cast ctx' (.untyped a.stringValue) = .ok [a.readBack] := by
      have hne : (AtomicValue.untyped a.stringValue).type ≠ a.type := huntyped.symm
      rw [AtomicType.cast_of_type_ne habstract hlist hne, hread]
      rfl
    exact ⟨_, hprint, rfl, rfl, hback⟩

/-- Half a second within the leap second at the end of a leap day before year zero, and the least of the
64-bit integers. -/
theorem cast_back_of_leap_second :
    let moment : AtomicValue := .dateTime ⟨⟨-44, 2, 29, by decide⟩, ⟨23, 59, 59, 1500000000, by decide⟩⟩
    let least : AtomicValue := .integer .long Int64.minValue
    (∃ text, AtomicType.untyped.cast .initial moment = .ok [text] ∧
      text.stringValue = "-0044-02-29T23:59:60.500" ∧
      AtomicType.dateTime.cast .initial text = .ok [moment]) ∧
    (∃ text, AtomicType.string.cast .initial least = .ok [text] ∧
      text.stringValue = "-9223372036854775808" ∧ AtomicType.long.cast .initial text = .ok [least]) := by
  intro moment least
  constructor
  · obtain ⟨⟨text, hprint, -, hvalue, hback⟩, -, hsame⟩ :=
      cast_text_cast_back (a := moment) rfl rfl (.inr rfl) .initial .initial
    have hsame : moment = moment.readBack := hsame.2 fun h => absurd h.1 (by decide)
    have htext : moment.stringValue = "-0044-02-29T23:59:60.500" := by decide +kernel
    exact ⟨text, hprint, hvalue.trans htext, hsame ▸ hback⟩
  · obtain ⟨⟨text, hprint, -, hvalue, hback⟩, -, -⟩ :=
      cast_text_cast_back (a := least) rfl rfl (.inl rfl) .initial .initial
    have htext : least.stringValue = "-9223372036854775808" := by decide +kernel
    exact ⟨text, hprint, hvalue.trans htext, hback⟩

/-- A third of a second within a leap second after 23:56:04 is written as a time of the next second, and read
as that one. -/
theorem cast_back_loses_leap_second :
    let leap : AtomicValue := .time ⟨23, 56, 4, 1333333333, by decide⟩
    let next : AtomicValue := .time ⟨23, 56, 5, 333333333, by decide⟩
    AtomicType.string.cast .initial leap = .ok [.string .string "23:56:05.333333333"] ∧
    AtomicType.time.cast .initial (.string .string "23:56:05.333333333") = .ok [next] ∧
    ¬leap.SameValue next := by
  intro leap next
  refine ⟨by with_unfolding_all rfl, by with_unfolding_all rfl, fun h => ?_⟩
  have hsecond := congrArg Time.second (AtomicValue.time.inj h)
  revert hsecond
  decide

end AtomicValue
end SequenceTypes
