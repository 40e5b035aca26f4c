import GraphGateway.Proofs.Json.Numeral
import GraphGateway.Wire.Decode

/-!
# Nodes and their values

A node of a text is more than a value, since it keeps places and faults. A
node without faults **is** a value (`Node.value?`), and the node that is made
of a value is that value again (`value?_nodeOf`). How deep containers are
nested in a value is its `depth`, which is what a text may only have 127 of.
-/

namespace GraphGateway

namespace Json

/-! ## Depth -/

mutual

/-- **How deep containers are nested** in a value: none are in a scalar. -/
def depth : Json → Nat
  | null => 0
  | bool _ => 0
  | number _ => 0
  | string _ => 0
  | array items => itemsDepth items + 1
  | object members => membersDepth members + 1

/-- The depth of the deepest item. -/
def itemsDepth : List Json → Nat
  | [] => 0
  | item :: rest => max item.depth (itemsDepth rest)

/-- The depth of the deepest member. -/
def membersDepth : List (String × Json) → Nat
  | [] => 0
  | (_, value) :: rest => max value.depth (membersDepth rest)

end

/-- Items are deep up to a bound if each of them is. -/
theorem itemsDepth_le_iff (items : List Json) (n : Nat) :
    itemsDepth items ≤ n ↔ ∀ item ∈ items, item.depth ≤ n := by
  induction items with
  | nil => simp [itemsDepth]
  | cons item rest ih => simp only [itemsDepth, Nat.max_le, ih, List.forall_mem_cons]

/-- Members are deep up to a bound if each of them is. -/
theorem membersDepth_le_iff (members : List (String × Json)) (n : Nat) :
    membersDepth members ≤ n ↔ ∀ member ∈ members, member.2.depth ≤ n := by
  induction members with
  | nil => simp [membersDepth]
  | cons member rest ih => simp only [membersDepth, Nat.max_le, ih, List.forall_mem_cons]

/-! ## Whole numbers -/

mutual

/-- **Whether all numbers in a value are whole.** -/
def isWhole : Json → Bool
  | null => true
  | bool _ => true
  | number n => n.isWhole
  | string _ => true
  | array items => areWhole items
  | object members => membersAreWhole members

/-- Whether all numbers in some items are whole. -/
def areWhole : List Json → Bool
  | [] => true
  | item :: rest => item.isWhole && areWhole rest

/-- Whether all numbers in some members are whole. -/
def membersAreWhole : List (String × Json) → Bool
  | [] => true
  | (_, value) :: rest => value.isWhole && membersAreWhole rest

end

/-! ## The value of a node -/

mutual

/-- **The value that a node is**; a node with a fault is none. -/
def Node.value? : Node → Option Json
  | .scalar v _ _ => some (ofScalar v)
  | .array _ items (.closed _) => (itemValues? items).map array
  | .array _ _ (.cut ..) => none
  | .object _ entries (.closed _) _ => (entryValues? entries).map object
  | .object _ _ (.cut ..) _ => none
  | .faulty .. => none

/-- The values that the items of an array are. -/
def itemValues? : List Item → Option (List Json)
  | [] => some []
  | .mk node _ :: rest =>
    match node.value?, itemValues? rest with
    | some value, some values => some (value :: values)
    | _, _ => none

/-- The members that the members of an object are. -/
def entryValues? : List Entry → Option (List (String × Json))
  | [] => some []
  | .mk (.ok key) _ _ node _ :: rest =>
    match node.value?, entryValues? rest with
    | some value, some values => some ((key, value) :: values)
    | _, _ => none
  | .mk (.error _) .. :: _ => none

end

mutual

/-- **The node of a value is that value.** -/
theorem Node.value?_nodeOf : (v : Json) → (Wire.nodeOf v).value? = some v
  | null | bool _ | number _ | string _ => rfl
  | array items => by
    rw [Wire.nodeOf, Node.value?, itemValues?_itemsOf items]
    rfl
  | object members => by
    rw [Wire.nodeOf, Node.value?, entryValues?_entriesOf members]
    rfl

/-- The items of an array of values are these values. -/
theorem itemValues?_itemsOf : (items : List Json) → itemValues? (Wire.itemsOf items) = some items
  | [] => rfl
  | item :: rest => by
    rw [Wire.itemsOf, itemValues?, Node.value?_nodeOf item, itemValues?_itemsOf rest]

/-- The members of an object of values are these members. -/
theorem entryValues?_entriesOf : (members : List (String × Json)) →
    entryValues? (Wire.entriesOf members) = some members
  | [] => rfl
  | (key, value) :: rest => by
    rw [Wire.entriesOf, entryValues?, Node.value?_nodeOf value, entryValues?_entriesOf rest]

end

end Json

end GraphGateway
