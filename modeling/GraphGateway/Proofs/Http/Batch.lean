import GraphGateway.Http.Front
import GraphGateway.Proofs.Wire.Nesting

/-!
# One request or several

A body is taken for several requests by its first octet alone, before anything of
it is read. This agrees with what the body is read as: a body that is read as a
list starts with an opening bracket (`isBatch_of_decodeText`). The other way round
it is not so, since a single request may be written as an array too, but then the
body is no list of requests (`not_decodeText_list`): the first item would have to
be a text and a record at once.
-/

namespace GraphGateway

open Wire

namespace Json

/-! ## How an array starts -/

/-- What is no container is never read as an array. -/
theorem ne_array_of_readScalar? {b : UInt8} {c : Cursor} {read : Read}
    (h : readScalar? b c = some read) (start : Nat) (items : List Item) (ending : Ending) :
    read.1 ≠ .array start items ending := by
  have hnamed : ∀ word value, (readNamed c word value).1 ≠ .array start items ending := by
    intro word value
    unfold readNamed
    split <;> simp [unreadable]
  have hnumber : (readNumber c).1 ≠ .array start items ending := by
    unfold readNumber
    split
    · simp [unreadable]
    · split <;> simp
  have hstring : (readString c).1 ≠ .array start items ending := by
    unfold readString
    dsimp only
    split <;> simp
  unfold readScalar? at h
  split at h
  · exact Option.some.inj h ▸ hnamed _ _
  · split at h
    · exact Option.some.inj h ▸ hnamed _ _
    · split at h
      · exact Option.some.inj h ▸ hnamed _ _
      · split at h
        · exact Option.some.inj h ▸ hnumber
        · split at h
          · exact Option.some.inj h ▸ hstring
          · cases h

/-- **An array starts with a bracket.** -/
theorem peek?_of_readValue {fuel : Nat} {c : Cursor} {start : Nat} {items : List Item}
    {ending : Ending} (h : (readValue fuel c).1 = .array start items ending) :
    c.peek? = some 0x5B := by
  cases fuel with
  | zero => cases h
  | succ fuel =>
    unfold readValue at h
    cases hpeek : c.peek? with
    | none =>
      rw [hpeek] at h
      cases h
    | some b =>
      rw [hpeek] at h
      dsimp only at h
      cases hscalar : readScalar? b c with
      | some read =>
        rw [hscalar] at h
        exact absurd h (ne_array_of_readScalar? hscalar start items ending)
      | none =>
        rw [hscalar] at h
        dsimp only at h
        by_cases hb : b = 0x5B
        · rw [hb]
        · rw [if_neg (by simpa using hb)] at h
          split at h <;> cases h

/-- What is left behind blanks is the text without them. -/
theorem rest_skipFrom (offset : Nat) (octets : List UInt8) :
    (Cursor.skipFrom offset octets).rest = octets.dropWhile Cursor.isBlankOctet := by
  induction octets generalizing offset with
  | nil => rfl
  | cons b rest ih =>
    rw [Cursor.skipFrom, List.dropWhile_cons]
    split
    · exact ih (offset + 1)
    · rfl

/-! ## How an array is written -/

/-- Between the brackets of an array are the texts of its items, with commas between
them. -/
theorem ofList_compactItems : (vs : List Json) →
    String.ofList (compactItems vs) = ",".intercalate (vs.map compact)
  | [] => rfl
  | [v] => by rw [compactItems, List.map_singleton, String.intercalate_singleton, compact]
  | v :: next :: rest => by
    have hrest := ofList_compactItems (next :: rest)
    have hitems : compactItems (v :: next :: rest)
        = compactText v ++ ("," : String).toList ++ compactItems (next :: rest) := by
      rw [compactItems, List.append_assoc]
      · rfl
      · exact List.cons_ne_nil _ _
    rw [hitems, String.ofList_append, String.ofList_append, String.ofList_toList, hrest]
    exact String.intercalate_cons_cons.symm

/-- **The text of an array** is made of the texts of its items. -/
theorem compact_array (vs : List Json) :
    compact (.array vs) = "[" ++ ",".intercalate (vs.map compact) ++ "]" := by
  have harray : compactText (.array vs)
      = ("[" : String).toList ++ compactItems vs ++ ("]" : String).toList := by
    rw [compactText]
    rfl
  rw [compact, harray, String.ofList_append, String.ofList_append, String.ofList_toList,
    String.ofList_toList, ofList_compactItems]

end Json

namespace Wire

open Json (Node)

/-! ## What is read as a list -/

/-- What is read as a list is an array. -/
theorem exists_array_of_read {node : Node} {origin : Origin} {s : Shape} {xs : List s.Carrier}
    (h : (partOf node).read origin (.list s) = .ok xs) :
    ∃ start items ending inner, node = .array start items ending
      ∧ origin.enter start = .ok inner ∧ readAll inner s ending (itemParts items) = .ok xs := by
  cases node with
  | scalar v start stop => cases v <;> cases h
  | object => cases h
  | faulty => cases h
  | array start items ending =>
    obtain ⟨inner, henter, h⟩ := bind_eq_ok h
    exact ⟨start, items, ending, inner, rfl, henter, h⟩

/-- Nothing is a text and a record at once. -/
theorem not_read_record_of_read_text {node : Node} {origin : Origin} {text : String}
    (h : (partOf node).read origin .text = .ok text) (k : RecordKind) (x : k.Carrier) :
    (partOf node).read origin (.record k) ≠ .ok x := by
  cases node with
  | scalar v start stop => cases v <;> intro hrecord <;> cases hrecord
  | array => cases h
  | object => cases h
  | faulty => cases h

/-- **A body that is read as a request is not read as a list of requests.** -/
theorem not_decodeText_list {octets : List UInt8} {q : Request} {qs : List Request}
    (hone : decodeText (.record .request) octets = .ok q) :
    decodeText (.list (.record .request)) octets ≠ .ok qs := by
  intro hseveral
  obtain ⟨q, hq, -⟩ := bind_eq_ok hone
  obtain ⟨qs, hqs, -⟩ := bind_eq_ok hseveral
  obtain ⟨start, items, ending, inner, hroot, henter, hitems⟩ := exists_array_of_read hqs
  rw [hroot] at hq
  obtain ⟨inner', henter', hq⟩ := bind_eq_ok hq
  obtain rfl := Except.ok.inj (henter.symm.trans henter')
  obtain ⟨values, hvalues, -⟩ := bind_eq_ok hq
  cases items with
  | nil =>
    -- without items there is no query
    cases ending <;> cases hvalues
  | cons item rest =>
    obtain ⟨node, surplus⟩ := item
    obtain ⟨text, htext, -⟩ := bind_eq_ok hvalues
    obtain ⟨first, hfirst, -⟩ := bind_eq_ok hitems
    exact not_read_record_of_read_text htext .request first hfirst

end Wire

namespace Http

/-! ## What a body is taken for -/

/-- A blank between tokens is a blank in a body. -/
theorem isBlankOctet_of_isBlankOctet {b : UInt8} (h : Json.Cursor.isBlankOctet b = true) :
    isBlankOctet b = true := by
  unfold Json.Cursor.isBlankOctet at h
  unfold isBlankOctet
  simp only [Bool.or_eq_true] at h ⊢
  tauto

/-- An octet that is neither a blank between tokens nor a form feed is no blank in a body. -/
theorem isBlankOctet_eq_false {b : UInt8} (hb : Json.Cursor.isBlankOctet b = false)
    (hfeed : b ≠ 0x0C) : isBlankOctet b = false := by
  unfold Json.Cursor.isBlankOctet at hb
  unfold isBlankOctet
  simp only [Bool.or_eq_false_iff] at hb ⊢
  exact ⟨⟨hb.1, beq_eq_false_iff_ne.mpr hfeed⟩, hb.2⟩

/-- Blanks before the first token are not looked at. -/
theorem isBatch_append {before rest : List UInt8}
    (hbefore : ∀ b ∈ before, Json.Cursor.isBlankOctet b = true) :
    isBatch (before ++ rest) = isBatch rest := by
  unfold isBatch
  rw [List.dropWhile_append_of_pos fun b hb => isBlankOctet_of_isBlankOctet (hbefore b hb)]

/-- An octet that is no blank decides. -/
theorem isBatch_cons {b : UInt8} {rest : List UInt8} (hb : isBlankOctet b = false) :
    isBatch (b :: rest) = (b == 0x5B) := by
  unfold isBatch
  rw [List.dropWhile_cons_of_neg (by simp [hb])]
  simp

/-- A body is taken for what it is from its first token on. -/
theorem isBatch_dropWhile (body : List UInt8) :
    isBatch (body.dropWhile Json.Cursor.isBlankOctet) = isBatch body := by
  conv_rhs => rw [← List.takeWhile_append_dropWhile (p := Json.Cursor.isBlankOctet) (l := body)]
  exact (isBatch_append (List.all_eq_true.mp List.all_takeWhile)).symm

/-- A body with a bracket as its first token is taken for several requests. -/
theorem isBatch_of_root {body : List UInt8} {start : Nat} {items : List Json.Item}
    {ending : Json.Ending} (h : (Json.Document.read body).root = .array start items ending) :
    isBatch body = true := by
  have hread : (Json.readValue (2 * body.length + 2) (Json.Cursor.start body).skipBlanks).1
      = .array start items ending := h
  have hpeek := Json.peek?_of_readValue hread
  unfold Json.Cursor.peek? Json.Cursor.skipBlanks at hpeek
  rw [Json.rest_skipFrom] at hpeek
  obtain ⟨tail, htail⟩ := List.head?_eq_some_iff.mp hpeek
  rw [← isBatch_dropWhile, show body.dropWhile _ = _ from htail]
  rfl

/-- **A body that is read as a list** is taken for several requests. -/
theorem isBatch_of_decodeText {s : Shape} {body : List UInt8} {xs : List s.Carrier}
    (h : decodeText (.list s) body = .ok xs) : isBatch body = true := by
  obtain ⟨xs, hxs, -⟩ := bind_eq_ok h
  obtain ⟨start, items, ending, inner, hroot, -, -⟩ := exists_array_of_read hxs
  exact isBatch_of_root hroot

end Http

end GraphGateway
