import SequenceTypes.Proofs.Atomization
import SequenceTypes.Proofs.MessageText

/-! The order of leaves. A path leads from an item into arrays: at each array it takes the place of a member
and then the place of an item in this member. From left to right means by the lexicographic order of paths.
Atomization keeps to this order: the atomic values of an item are those at the ends of the paths to its
leaves, and if functions or maps are among these, the one on the first path is the one complained about. -/

namespace SequenceTypes

open Traversal

namespace Item

/-- The members of an array; other items have none. -/
def members : Item → List (List Item)
  | array members => members
  | _ => []

/-- The item that a path leads to. -/
def follow : Item → List Nat → Option Item
  | i, [] => some i
  | _, [_] => none
  | i, m :: n :: path => (i.members[m]?.bind (·[n]?)).bind (·.follow path)

def isLeaf : Item → Bool
  | array _ => false
  | _ => true

/-- Functions and maps, the leaves without atomic value. -/
def isValueless : Item → Bool
  | function _ _ _ | coerced _ _ | map _ => true
  | _ => false

/-- The atomic value of an atomic item or a node. Comments, instructions and namespace nodes hold strings,
all other nodes untyped data. -/
def value? : Item → Option AtomicValue
  | atomic a => some a
  | node (.comment content) | node (.processingInstruction _ content) | node (.namespaceNode _ content) =>
      some (.string .string content)
  | node (.document content) | node (.element _ content) | node (.attributeNode _ content)
  | node (.text content) => some (.untyped content)
  | _ => none

/-- The first of all paths to functions and maps, and the item it leads to. -/
structure FirstValueless (x : Item) (path : List Nat) (i : Item) : Prop where
  leads : x.follow path = some i
  valueless : i.isValueless
  first : ∀ other j, x.follow other = some j → j.isValueless → other = path ∨ List.Lex (· < ·) path other

end Item

/-- The item that a path leads to if its first place is that of one of several parts. -/
def followPart (parts : List (List Nat → Option Item)) : List Nat → Option Item
  | [] => none
  | n :: path => parts[n]?.bind (· path)

/-- The paths into a first part and those into the parts after it, which move on by one place. -/
def joinPaths (first rest : List (List Nat)) : List (List Nat) :=
  first.map (0 :: ·) ++ rest.map (List.modifyHead (· + 1))

section

variable {first rest : List (List Nat)} {path : List Nat} {n : Nat}

theorem nil_mem_joinPaths : [] ∈ joinPaths first rest ↔ [] ∈ rest := by
  simp [joinPaths]

theorem zero_cons_mem_joinPaths : 0 :: path ∈ joinPaths first rest ↔ path ∈ first := by
  have hrest : ∀ q : List Nat, q.modifyHead (· + 1) ≠ 0 :: path := by
    intro q
    cases q <;> simp
  simp [joinPaths, hrest]

theorem succ_cons_mem_joinPaths : (n + 1) :: path ∈ joinPaths first rest ↔ n :: path ∈ rest := by
  have hrest : ∀ q : List Nat, q.modifyHead (· + 1) = (n + 1) :: path ↔ q = n :: path := by
    intro q
    cases q <;> simp
  simp [joinPaths, hrest]

theorem lex_modifyHead {p q : List Nat} (h : List.Lex (· < ·) p q) :
    List.Lex (· < ·) (p.modifyHead (· + 1)) (q.modifyHead (· + 1)) := by
  cases h with
  | nil => exact .nil
  | rel hlt => exact .rel (Nat.succ_lt_succ hlt)
  | cons htail => exact .cons htail

theorem pairwise_joinPaths (hfirst : first.Pairwise (List.Lex (· < ·)))
    (hrest : rest.Pairwise (List.Lex (· < ·))) (hnil : [] ∉ rest) :
    (joinPaths first rest).Pairwise (List.Lex (· < ·)) := by
  rw [joinPaths, List.pairwise_append, List.pairwise_map, List.pairwise_map]
  refine ⟨hfirst.imp .cons, hrest.imp lex_modifyHead, ?_⟩
  intro p hp q hq
  obtain ⟨p', -, rfl⟩ := List.mem_map.1 hp
  obtain ⟨q', hq', rfl⟩ := List.mem_map.1 hq
  cases q' with
  | nil => exact absurd hq' hnil
  | cons n q => exact .rel (Nat.succ_pos n)

end

/-! ### Leaves along paths -/

/-- All paths to leaves, from left to right, and the leaves they lead to. -/
structure LeafOrder (find : List Nat → Option Item) (paths : List (List Nat)) (leaves : List Item) : Prop where
  sorted : paths.Pairwise (List.Lex (· < ·))
  mem_iff : ∀ path, path ∈ paths ↔ ∃ leaf, find path = some leaf ∧ leaf.isLeaf
  leads : paths.map find = leaves.map some

namespace LeafOrder

variable {find : List Nat → Option Item} {parts : List (List Nat → Option Item)}
  {paths restPaths : List (List Nat)} {leaves restLeaves : List Item}

theorem mem_leaves_iff (h : LeafOrder find paths leaves) {i : Item} :
    i ∈ leaves ↔ ∃ path, find path = some i ∧ i.isLeaf := by
  have hleads : i ∈ leaves ↔ some i ∈ paths.map find := by simp [h.leads]
  rw [hleads, List.mem_map]
  constructor
  · rintro ⟨path, hpath, hi⟩
    obtain ⟨leaf, hleaf, hisLeaf⟩ := (h.mem_iff path).1 hpath
    rw [hi] at hleaf
    cases hleaf
    exact ⟨path, hi, hisLeaf⟩
  · rintro ⟨path, hi, hisLeaf⟩
    exact ⟨path, (h.mem_iff path).2 ⟨i, hi, hisLeaf⟩, hi⟩

/-- Only what is found of leaves matters. -/
theorem congr {find' : List Nat → Option Item} (h : LeafOrder find paths leaves)
    (hfind : ∀ path leaf, leaf.isLeaf → (find' path = some leaf ↔ find path = some leaf)) :
    LeafOrder find' paths leaves := by
  have hmem : ∀ path, path ∈ paths ↔ ∃ leaf, find' path = some leaf ∧ leaf.isLeaf := by
    intro path
    rw [h.mem_iff]
    exact exists_congr fun leaf => and_congr_left fun hleaf => (hfind path leaf hleaf).symm
  refine ⟨h.sorted, hmem, ?_⟩
  rw [← h.leads]
  apply List.map_congr_left
  intro path hpath
  obtain ⟨leaf, hleaf, hisLeaf⟩ := (hmem path).1 hpath
  rw [hleaf, (hfind path leaf hisLeaf).1 hleaf]

theorem nil : LeafOrder (followPart []) [] [] := by
  refine ⟨.nil, fun path => ?_, rfl⟩
  cases path <;> simp [followPart]

/-- The leaves of a first part stand before those of the parts after it. -/
theorem cons (hfirst : LeafOrder find paths leaves) (hrest : LeafOrder (followPart parts) restPaths restLeaves) :
    LeafOrder (followPart (find :: parts)) (joinPaths paths restPaths) (leaves ++ restLeaves) := by
  have hnil : [] ∉ restPaths := by
    intro hmem
    obtain ⟨leaf, hleaf, -⟩ := (hrest.mem_iff []).1 hmem
    cases hleaf
  refine ⟨pairwise_joinPaths hfirst.sorted hrest.sorted hnil, fun path => ?_, ?_⟩
  · match path with
    | [] => exact nil_mem_joinPaths.trans (hrest.mem_iff [])
    | 0 :: path => exact zero_cons_mem_joinPaths.trans (hfirst.mem_iff path)
    | (n + 1) :: path => exact succ_cons_mem_joinPaths.trans (hrest.mem_iff (n :: path))
  · rw [joinPaths, List.map_append, List.map_map, List.map_map, List.map_append, ← hfirst.leads,
      ← hrest.leads]
    congr 1
    apply List.map_congr_left
    intro path _
    cases path <;> rfl

/-- A leaf has a path such that all other leaves are among those before it, or have later paths. -/
theorem exists_path (h : LeafOrder find paths leaves) {before after : List Item} {i : Item}
    (hi : leaves = before ++ i :: after) :
    ∃ path, find path = some i ∧ ∀ other j, find other = some j → j.isLeaf →
      j ∈ before ∨ other = path ∨ List.Lex (· < ·) path other := by
  have hleads := h.leads
  rw [hi, List.map_append, List.map_cons] at hleads
  obtain ⟨ps, tail, rfl, hps, htail⟩ := List.map_eq_append_iff.1 hleads
  obtain ⟨path, qs, rfl, hpath, -⟩ := List.map_eq_cons_iff.1 htail
  refine ⟨path, hpath, fun other j hj hleaf => ?_⟩
  rcases List.mem_append.1 ((h.mem_iff other).2 ⟨j, hj, hleaf⟩) with hother | hother
  · have hmem : some j ∈ before.map some := by
      rw [← hps, ← hj]
      exact List.mem_map_of_mem hother
    exact .inl (by simpa using hmem)
  · have hafter := (List.pairwise_append.1 h.sorted).2.1
    rcases List.mem_cons.1 hother with rfl | hother
    · exact .inr (.inl rfl)
    · exact .inr (.inr (List.rel_of_pairwise_cons hafter hother))

end LeafOrder

namespace Item

variable {i : Item}

theorem leafOrder_leaf (hi : i.isLeaf) : LeafOrder i.follow [[]] [i] := by
  have hmembers : i.members = [] := by
    cases i with
    | array _ => cases hi
    | _ => rfl
  refine ⟨List.pairwise_singleton _ _, fun path => ?_, rfl⟩
  match path with
  | [] => exact iff_of_true (List.mem_singleton_self _) ⟨i, rfl, hi⟩
  | [_] => simp [follow]
  | _ :: _ :: _ => simp [follow, hmembers]

theorem follow_array_iff (members : List (List Item)) (path : List Nat) {leaf : Item} (hleaf : leaf.isLeaf) :
    (array members).follow path = some leaf ↔
      followPart (members.map fun v => followPart (v.map follow)) path = some leaf := by
  match path with
  | [] =>
      refine iff_of_false (fun heq => ?_) (by simp [followPart])
      cases heq
      cases hleaf
  | [m] =>
      rw [follow, followPart, List.getElem?_map]
      cases members[m]? <;> rfl
  | m :: n :: path =>
      rw [follow, followPart, List.getElem?_map, Item.members]
      cases members[m]? with
      | none => rfl
      | some v =>
          rw [Option.map_some, Option.bind_some, Option.bind_some, followPart, List.getElem?_map]
          cases v[n]? <;> rfl

end Item

mutual

theorem Item.exists_leafOrder : (i : Item) → ∃ paths, LeafOrder i.follow paths i.leaves
  | .atomic _ | .node _ | .function _ _ _ | .coerced _ _ | .map _ => ⟨_, Item.leafOrder_leaf rfl⟩
  | .array members =>
      have ⟨paths, hpaths⟩ := Item.exists_leafOrder_members members
      ⟨paths, hpaths.congr fun path _ => Item.follow_array_iff members path⟩

theorem Sequence.exists_leafOrder :
    (v : Sequence) → ∃ paths, LeafOrder (followPart (v.map Item.follow)) paths (Sequence.leaves v)
  | [] => ⟨_, .nil⟩
  | i :: is =>
      have ⟨_, hfirst⟩ := Item.exists_leafOrder i
      have ⟨_, hrest⟩ := Sequence.exists_leafOrder is
      ⟨_, hfirst.cons hrest⟩

theorem Item.exists_leafOrder_members :
    (ms : List (List Item)) →
      ∃ paths, LeafOrder (followPart (ms.map fun v => followPart (v.map Item.follow))) paths
        (Item.leavesOfMembers ms)
  | [] => ⟨_, .nil⟩
  | m :: ms =>
      have ⟨_, hfirst⟩ := Sequence.exists_leafOrder m
      have ⟨_, hrest⟩ := Item.exists_leafOrder_members ms
      ⟨_, hfirst.cons hrest⟩

end

namespace Item

variable {i : Item}

theorem isLeaf_of_isValueless (h : i.isValueless) : i.isLeaf := by
  cases i with
  | array _ => cases h
  | _ => rfl

theorem isOk_leafValue_iff_of_isLeaf (hi : i.isLeaf) : i.leafValue.isOk ↔ i.isValueless = false := by
  rw [isOk_leafValue_iff]
  cases i with
  | array _ => cases hi
  | _ => exact Iff.rfl

theorem value?_of_leafValue {a : AtomicValue} (h : i.leafValue = .ok a) : i.value? = some a := by
  cases i with
  | atomic b =>
      cases h
      rfl
  | node n =>
      cases h
      cases n <;> rfl
  | _ => cases h

theorem leafValue_error {c : Cause} (h : i.leafValue = .error c) (hi : i.isLeaf) :
    i.isValueless ∧ c = .notAtomizable i := by
  cases i with
  | atomic _ | node _ => cases h
  | array _ => cases hi
  | function _ _ _ | coerced _ _ | map _ =>
      cases h
      exact ⟨rfl, rfl⟩

theorem isOk_atomize_iff {x : Item} :
    x.atomize.isOk ↔ ∀ path i, x.follow path = some i → i.isValueless = false := by
  obtain ⟨paths, hpaths⟩ := x.exists_leafOrder
  rw [atomize_eq_mapM_leaves, isOk_mapM_iff]
  constructor
  · intro hall path i hi
    rw [Bool.eq_false_iff]
    intro hvalueless
    have hleaf := isLeaf_of_isValueless hvalueless
    have hok := hall i (hpaths.mem_leaves_iff.2 ⟨path, hi, hleaf⟩)
    rw [(isOk_leafValue_iff_of_isLeaf hleaf).1 hok] at hvalueless
    cases hvalueless
  · intro hall i hmem
    obtain ⟨path, hi, hleaf⟩ := hpaths.mem_leaves_iff.1 hmem
    exact (isOk_leafValue_iff_of_isLeaf hleaf).2 (hall path i hi)

theorem map_value?_of_atomize {x : Item} {atoms : List AtomicValue} (h : x.atomize = .ok atoms) :
    x.leaves.map value? = atoms.map some := by
  rw [atomize_eq_mapM_leaves] at h
  generalize x.leaves = leaves at h
  induction leaves generalizing atoms with
  | nil =>
      cases h
      rfl
  | cons leaf leaves ih =>
      obtain ⟨a, rest, ha, hrest, rfl⟩ := mapM_cons_eq_ok_iff.1 h
      rw [List.map_cons, value?_of_leafValue ha, ih hrest, List.map_cons]

/-- If atomization fails, then for the function or map on the first path to one. -/
theorem exists_firstValueless {x : Item} {c : Cause} (h : x.atomize = .error c) :
    ∃ path i, FirstValueless x path i ∧ c = .notAtomizable i := by
  obtain ⟨paths, hpaths⟩ := x.exists_leafOrder
  rw [atomize_eq_mapM_leaves] at h
  obtain ⟨before, i, after, hleaves, hbefore, hi⟩ := first_failure_of_mapM h
  obtain ⟨path, hpath, hfirst⟩ := hpaths.exists_path hleaves
  have hmem : i ∈ x.leaves := by simp [hleaves]
  obtain ⟨-, -, hleaf⟩ := hpaths.mem_leaves_iff.1 hmem
  obtain ⟨hvalueless, hcause⟩ := leafValue_error hi hleaf
  refine ⟨path, i, ⟨hpath, hvalueless, fun other j hj hjvalueless => ?_⟩, hcause⟩
  have hjleaf := isLeaf_of_isValueless hjvalueless
  rcases hfirst other j hj hjleaf with hmem | hother
  · -- the leaves before the first failure have values
    rw [(isOk_leafValue_iff_of_isLeaf hjleaf).1 (hbefore j hmem)] at hjvalueless
    cases hjvalueless
  · exact hother

end Item

/-- The complaint about a function or map keeps to the limit that holds where nothing else is said. -/
theorem Cause.failure_notAtomizable (limit : Nat) (i : Item) :
    (notAtomizable i).failure limit =
      { kind := .functionAtomization
        message := "Items of type " ++ cut defaultLimit i.runtimeType.text ++ " cannot be atomized: " ++
          cut defaultLimit i.text ++ "."
        location := none
        context := none } := by
  have htemplate : ErrorKind.functionAtomization.template =
      "%".intercalate ["Items of type ", " cannot be atomized: ", "."] := by decide
  have hplain : ∀ piece ∈ ["Items of type ", " cannot be atomized: ", "."], '%' ∉ piece.toList := by decide
  show Failure.mk .functionAtomization
    (Template.fill ErrorKind.functionAtomization.template
      [cut defaultLimit i.runtimeType.text, cut defaultLimit i.text]) none none = _
  rw [htemplate, Template.fill_intercalate hplain]
  simp [Template.alternate, String.append_assoc]

namespace Item

/-- Atomization goes through the leaves from left to right. It succeeds exactly if no path leads to a function
or map. Then the atomic values are those of the leaves, in the order of the paths to them. Otherwise it fails
for the function or map on the first of all paths to such an item, and the complaint names the type of this
item. -/
theorem atomize_left_to_right (x : Item) :
    ((∃ atoms, x.atomize = .ok atoms) ↔ ∀ path i, x.follow path = some i → i.isValueless = false) ∧
    (∀ atoms, x.atomize = .ok atoms →
      ∃ paths leaves, LeafOrder x.follow paths leaves ∧ leaves.map value? = atoms.map some) ∧
    ∀ c, x.atomize = .error c → ∃ path i, FirstValueless x path i ∧ c = .notAtomizable i ∧
      ∀ limit, c.failure limit =
        { kind := .functionAtomization
          message := "Items of type " ++ cut defaultLimit i.runtimeType.text ++ " cannot be atomized: " ++
            cut defaultLimit i.text ++ "."
          location := none
          context := none } := by
  refine ⟨?_, ?_, ?_⟩
  · rw [← isOk_iff_exists, isOk_atomize_iff]
  · intro atoms hatoms
    obtain ⟨paths, hpaths⟩ := x.exists_leafOrder
    exact ⟨paths, x.leaves, hpaths, map_value?_of_atomize hatoms⟩
  · intro c hc
    obtain ⟨path, i, hfirst, rfl⟩ := exists_firstValueless hc
    exact ⟨path, i, hfirst, rfl, fun limit => Cause.failure_notAtomizable limit i⟩

/-- Inside arrays an element, a comment and a number have values, and a map stands left of a function. -/
theorem atomize_nested_arrays :
    let number : Item := .atomic (.integer .integer 2)
    let x : Item := .array [[.node (.element (.ofLocal "e") "1"), .node (.comment "c")], [], [.array [[number]]]]
    let y : Item := .array [[number], [.array [[number, .map []]], .function none [] .empty]]
    (∀ path i, x.follow path = some i → i.isValueless = false) ∧
    (∃ paths leaves, LeafOrder x.follow paths leaves ∧
      leaves.map value? = [some (.untyped "1"), some (.string .string "c"), some (.integer .integer 2)]) ∧
    ∃ path, FirstValueless y path (.map []) := by
  intro number x y
  have hx : x.atomize = .ok [.untyped "1", .string .string "c", .integer .integer 2] := rfl
  have hy : y.atomize = .error (.notAtomizable (.map [])) := rfl
  obtain ⟨path, i, hfirst, hcause, -⟩ := (atomize_left_to_right y).2.2 _ hy
  cases hcause
  exact ⟨(atomize_left_to_right x).1.1 ⟨_, hx⟩, (atomize_left_to_right x).2.1 _ hx, path, hfirst⟩

end Item
end SequenceTypes
