import GraphGateway.Operation.Heuristic

/-!
# Lower case

The type of an operation is told by the letters that a query starts with, in lower case, and lower
case is a matter of all of Unicode: a character may become several, and what it becomes may depend
on the characters around it. `IsLowerCase` allows every text that a text can become in this way.

For the keywords of operations only the letters of ASCII count (`startsWith_eq_isPrefixOf`). There
are two characters beyond ASCII whose lower case starts with a letter of ASCII. One is the sign for
kelvin, whose letter is in no keyword. The other is the capital I with a dot, which keeps its dot
as a character of its own, and in a keyword an i is never last.
-/

namespace GraphGateway

namespace Text

/-- **What a character may become** in lower case. -/
inductive LowersTo : Char → List Char → Prop where
  /-- A character of ASCII becomes another one if it is a capital. -/
  | ascii {c : Char} (hc : c.toNat < 128) : LowersTo c [c.toLower]
  /-- Another character becomes one or several, the first of them beyond ASCII. -/
  | beyond {c first : Char} (more : List Char) (hc : 128 ≤ c.toNat) (hfirst : 128 ≤ first.toNat) :
    LowersTo c (first :: more)
  /-- The capital I with a dot becomes an i and the dot. -/
  | dotted : LowersTo '\u0130' ['i', '\u0307']
  /-- The sign for kelvin becomes a k. -/
  | kelvin : LowersTo '\u212A' ['k']

/-- **Whether a text is another one in lower case**, character by character. -/
inductive IsLowerCase : List Char → List Char → Prop where
  /-- The empty text. -/
  | nil : IsLowerCase [] []
  /-- A character, and those behind it. -/
  | cons {c : Char} {piece s lowered : List Char} (hc : LowersTo c piece)
    (hs : IsLowerCase s lowered) : IsLowerCase (c :: s) (piece ++ lowered)

/-- A text of ASCII becomes itself with its capitals lowered. -/
theorem isLowerCase_of_ascii {s : List Char} (hs : s.all (·.toNat < 128) = true) :
    IsLowerCase s (s.map Char.toLower) := by
  induction s with
  | nil => exact .nil
  | cons c s ih =>
    rw [List.all_cons, Bool.and_eq_true, decide_eq_true_eq] at hs
    exact .cons (.ascii hs.1) (ih hs.2)

/-- **Whether letters are told apart by ASCII alone**: they are ASCII, none of them is a k, and no
i is the last of them. -/
def areTold : List Char → Bool
  | [] => true
  | c :: rest =>
    decide (c.toNat < 128) && c != 'k' && !(c == 'i' && rest.isEmpty) && areTold rest

/-- A character beyond ASCII has no other case in ASCII. -/
theorem toLower_of_le {c : Char} (hc : 128 ≤ c.toNat) : c.toLower = c := by
  refine dif_neg fun hupper => ?_
  obtain ⟨-, hhigh⟩ : 65 ≤ c.toNat ∧ c.toNat ≤ 90 := hupper
  omega

/-- **Letters that are told apart by ASCII alone** are in front of a text in lower case if they
are in front of it with the capitals of ASCII lowered. -/
theorem isPrefixOf_lowered {letters s lowered : List Char} (hletters : areTold letters = true)
    (h : IsLowerCase s lowered) :
    letters.isPrefixOf lowered = letters.isPrefixOf (s.map Char.toLower) := by
  induction h generalizing letters with
  | nil => rfl
  | @cons c piece s lowered hc _ ih =>
    cases letters with
    | nil => rfl
    | cons letter letters =>
      simp only [areTold, Bool.and_eq_true, decide_eq_true_eq, bne_iff_ne, ne_eq] at hletters
      obtain ⟨⟨⟨hascii, hkelvin⟩, hdotted⟩, hletters⟩ := hletters
      -- the letter is not a character beyond ASCII
      have hne {d : Char} (hd : 128 ≤ d.toNat) : (letter == d) = false :=
        beq_eq_false_iff_ne.mpr fun h => by rw [h] at hascii; omega
      rw [List.map_cons]
      cases hc with
      | ascii => simp only [List.cons_append, List.nil_append, List.isPrefixOf, ih hletters]
      | beyond more hbeyond hfirst =>
        rw [toLower_of_le hbeyond, List.cons_append, List.isPrefixOf, List.isPrefixOf, hne hbeyond,
          hne hfirst, Bool.false_and, Bool.false_and]
      | dotted =>
        rw [toLower_of_le (by decide), List.isPrefixOf, hne (d := '\u0130') (by decide),
          Bool.false_and]
        cases letters with
        | nil =>
          have hi : (letter == 'i') = false := by simpa using hdotted
          rw [List.cons_append, List.isPrefixOf, hi, Bool.false_and]
        | cons next letters =>
          simp only [areTold, Bool.and_eq_true, decide_eq_true_eq] at hletters
          have hdot : (next == '\u0307') = false :=
            beq_eq_false_iff_ne.mpr fun h => absurd hletters.1.1.1 (by rw [h]; decide)
          simp only [List.cons_append, List.isPrefixOf, hdot, Bool.false_and, Bool.and_false]
      | kelvin =>
        rw [toLower_of_le (by decide), List.cons_append, List.isPrefixOf, List.isPrefixOf,
          hne (d := '\u212A') (by decide), beq_eq_false_iff_ne.mpr hkelvin, Bool.false_and,
          Bool.false_and]

end Text

namespace Heuristic

/-- The letters of a keyword are told apart by ASCII alone. -/
theorem areTold_keyword (type : OperationType) : Text.areTold type.keyword.toList = true := by
  cases type <;> decide

/-- **Whether a text starts with a keyword** in lower case is told by its letters of ASCII. -/
theorem startsWith_eq_isPrefixOf (type : OperationType) {s lowered : List Char}
    (h : Text.IsLowerCase s lowered) :
    startsWith type.keyword s = type.keyword.toList.isPrefixOf lowered :=
  (Text.isPrefixOf_lowered (areTold_keyword type) h).symm

/-- The type of an operation, by its first word in lower case. -/
def typeOfLowered (lowered : List Char) : OperationType :=
  if OperationType.mutation.keyword.toList <+: lowered then .mutation
  else if OperationType.subscription.keyword.toList <+: lowered then .subscription
  else .query

/-- **The type of an operation** is that of its text in lower case. -/
theorem operationType_eq_typeOfLowered {s lowered : List Char} (h : Text.IsLowerCase s lowered) :
    operationType s = typeOfLowered lowered := by
  simp only [operationType, startsWith_eq_isPrefixOf _ h, List.isPrefixOf_iff_prefix, typeOfLowered]

end Heuristic

end GraphGateway
