import SequenceTypes.SeqType.Basic

/-! Types as they are written in a query. -/

namespace SequenceTypes

/-- A test as written, in the place of the item type it refines; a test of no kind takes the kind of the
item type. -/
def KindTest.textFor (test : KindTest) (t : ItemType) : String :=
  let kind :=
    match t, test.kind with
    | .node kind, .any => kind
    | _, kind => kind
  kind.keyword ++ "(" ++ test.text ++ ")"

mutual

/-- The item type as written; the types of all maps and of all arrays have short forms. -/
def ItemType.text : ItemType → String
  | .item => "item()"
  | .atomic t => t.text
  | .node k => k.testText
  | .function f => f.text
  | .map .anyAtomic (.of .item .zeroMore none _) => "map(*)"
  | .map k v => "map(" ++ k.text ++ ", " ++ v.text ++ ")"
  | .array (.of .item .zeroMore none _) => "array(*)"
  | .array m => "array(" ++ m.text ++ ")"

def FunctionType.text : FunctionType → String
  | .any => "function(*)"
  | .of ps r => "function(" ++ SeqType.textAll ps ++ ") as " ++ r.text

/-- The sequence type as written. A list type denotes a sequence already and takes no indicator; a
function type is set in parentheses before one. -/
def SeqType.text : SeqType → String
  | .empty => "empty-sequence()"
  | .of t o k _ =>
    let body := k.elim t.text (·.textFor t)
    if t.isListLike then body
    else if o ≠ .one && t.isFunction then "(" ++ body ++ ")" ++ o.suffix
    else body ++ o.suffix

/-- Sequence types with commas between them. -/
def SeqType.textAll : List SeqType → String
  | [] => ""
  | [p] => p.text
  | p :: q :: ps => p.text ++ ", " ++ SeqType.textAll (q :: ps)

end

/-- The sequence type without its occurrence indicator. -/
def SeqType.typeText : SeqType → String
  | .empty => "empty-sequence()"
  | .of t _ k _ => k.elim t.text (·.textFor t)

end SequenceTypes
