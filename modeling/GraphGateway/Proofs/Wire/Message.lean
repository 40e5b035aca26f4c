import GraphGateway.Proofs.Json.Reading
import GraphGateway.Proofs.Wire.Depth
import GraphGateway.Proofs.Wire.Free
import GraphGateway.Proofs.Wire.Whole

/-!
# Requests and responses are read as they were written

A message is written as an object, whether it was read from an object or from an
array, and with which of its members left out or `null`. It is read as it was
written if what it carries stands for itself (`Request.valueOf?_toJson`,
`Response.valueOf?_toJson`), and so it does if the message was read; and it is
written no deeper than it was read (`Request.isNormal_of_readable`,
`Response.isNormal_of_readable`).

So the text of a message that was read is read as the message, if the numbers that
it carries are whole (`Request.decodesAs_compact`, `Response.decodesAs_compact`).
What a message has of its own are texts and places, so that this is asked only of
variables, data, paths and extensions.
-/

namespace GraphGateway

open Wire

/-- **Whether a value can be carried** where it may be missing: it stands for
itself, and not for its absence. -/
structure Json.IsCarried (v : Json) : Prop where
  /-- It is not `null`. -/
  ne_null : v ≠ .null
  /-- It stands for itself. -/
  isNormal : v.IsNormal

namespace Wire

/-! ## Parts of messages -/

/-- A number of 32 bits stands for itself. -/
@[simp] theorem valueOf?_medium (n : UInt32) :
    valueOf? (.whole .medium) (.ofNat n.toNat) = some n := by
  have hlt : n.toNat < 4294967296 := n.toNat_lt
  have hnat : (UInt64.ofNat n.toNat).toNat = n.toNat :=
    UInt64.toNat_ofNat_of_lt' (Nat.lt_trans hlt (by decide))
  have hread : readScalar (.number (.natural (UInt64.ofNat n.toNat))) 0 0 .value (.whole .medium)
      = .ok n := by
    simp only [readScalar, hnat, Width.ofNat?, if_pos hlt, UInt32.ofNat_toNat]
  show valueOf? (.whole .medium) (Json.ofScalar (.number (.natural (UInt64.ofNat n.toNat)))) = _
  rw [valueOf?_ofScalar, hread]
  rfl

variable {left : Nat} {key : String}

/-- A value that may be left out can be carried if it was read. -/
theorem Readable.isCarried {x : Option Json}
    (h : Readable left (may key .any).shape x ∨ (may key .any).Default x) :
    ∀ v ∈ x, v.IsCarried := by
  rintro v rfl
  rcases h with h | h | h
  · exact ⟨h.ne_null, h.nullable.isNormal⟩
  · cases h
  · cases h

/-- Items that may be left out take one level more than the deepest of them. -/
theorem eq_nil_or_depth_array_le {vs : List Json}
    (h : Readable left (many key .any).shape vs ∨ (many key .any).Default vs) :
    vs = [] ∨ (Json.array vs).depth ≤ left := by
  have hdepth : vs.map id = [] ∨ (Json.array (vs.map id)).depth ≤ left :=
    eq_nil_or_depth_array_map_le (s := .any) (fun v hv => readable_of_many h hv)
      fun v less h => h.depth_le
  rwa [List.map_id] at hdepth

end Wire

/-! ## Requests -/

namespace Request

variable {q : Request}

/-- Whether the variables of a request can be carried. -/
def IsNormal (q : Request) : Prop := ∀ v ∈ q.variableValues, v.IsCarried

/-- **A request is read as it was written** if its variables can be carried. -/
theorem valueOf?_toJson (h : q.IsNormal) : valueOf? (.record .request) q.toJson = some q := by
  refine valueOf?_record .request (q.query, q.variableValues, q.operationName, ())
    ⟨?_, ?_, ?_, trivial⟩
  all_goals simp [need, may]
  · simpa using columnOf?_unlessNone (s := .any) (f := id) (fun v hv => (h v hv).ne_null)
      fun v hv => (h v hv).isNormal
  · exact columnOf?_unlessNone (s := .text) (fun _ _ => by simp) fun _ _ => rfl

/-- A request is nested as deep as its variables, and a level more. -/
theorem depth_toJson_le_iff (q : Request) (n : Nat) :
    q.toJson.depth ≤ n + 1 ↔ ∀ v ∈ q.variableValues, v.depth ≤ n := by
  rw [toJson, Json.depth_object_le]
  simp

/-- **A request that was read** can be carried, and is written no deeper. -/
theorem isNormal_of_readable {room : Nat} (h : Readable room (.record .request) q) :
    q.IsNormal ∧ q.toJson.depth ≤ room := by
  obtain ⟨left, ⟨query, variableValues, operationName, _⟩, rfl, rfl, -, hvariables, -⟩ := h.record
  refine ⟨Readable.isCarried hvariables, (depth_toJson_le_iff ..).mpr fun v hv => ?_⟩
  exact (readable_of_may hvariables hv).depth_le

/-- Whether all numbers in the variables of a request are whole. -/
def IsWhole (q : Request) : Prop := ∀ v ∈ q.variableValues, v.isWhole = true

/-- The record of a request has no numbers but those of its variables. -/
theorem isWhole_toJson (h : q.IsWhole) : q.toJson.isWhole = true := by
  unfold IsWhole at h
  rw [toJson, Json.isWhole]
  simpa using h

end Request

/-! ## Responses -/

namespace Location

/-- A place is read as it was written. -/
theorem valueOf?_toJson (l : Location) : valueOf? (.record .location) l.toJson = some l := by
  refine valueOf?_record .location (l.line, l.column, ()) ⟨?_, ?_, trivial⟩
  all_goals simp [need]

/-- A place takes one level. -/
theorem depth_toJson (l : Location) : l.toJson.depth = 1 := by
  simp [toJson, always, Json.ofNat, Json.depth, Json.membersDepth]

/-- A place is whole. -/
@[simp] theorem isWhole_toJson (l : Location) : l.toJson.isWhole = true := by
  simp [toJson, always, Json.ofNat, Json.isWhole, Json.membersAreWhole, Json.Number.isWhole]

/-- A place is written no deeper than it was read. -/
theorem depth_toJson_le {l : Location} {room : Nat} (h : Readable room (.record .location) l) :
    l.toJson.depth ≤ room := by
  obtain ⟨left, -, rfl, -⟩ := h.record
  rw [depth_toJson]
  exact Nat.le_add_left 1 left

end Location

namespace ResponseError

variable {e : ResponseError}

/-- **Whether an error can be carried**: what comes with it stands for itself. -/
structure IsNormal (e : ResponseError) : Prop where
  /-- The steps of its path do. -/
  path : ∀ v ∈ e.path, v.IsNormal
  /-- Its extensions do. -/
  extensions : ∀ members ∈ e.extensions, (Json.object members).IsNormal

/-- **An error is read as it was written** if it can be carried. -/
theorem valueOf?_toJson (h : e.IsNormal) :
    valueOf? (.record .responseError) e.toJson = some e := by
  refine valueOf?_record .responseError (e.message, e.locations, e.path, e.extensions, ())
    ⟨?_, ?_, ?_, ?_, trivial⟩
  all_goals simp [need, may, many]
  · exact columnOf?_unlessEmpty fun l _ => l.valueOf?_toJson
  · simpa using columnOf?_unlessEmpty (s := .any) (f := id) h.path
  · exact columnOf?_unlessNone (s := .members) (fun _ _ => by simp) fun members hmembers =>
      (h.extensions members hmembers).valueOf?_members

/-- An error is nested as deep as what is not left out, and a level more. -/
theorem depth_toJson_le_iff (e : ResponseError) (n : Nat) :
    e.toJson.depth ≤ n + 1
      ↔ (e.locations.map Location.toJson = []
          ∨ (Json.array (e.locations.map Location.toJson)).depth ≤ n)
        ∧ (e.path = [] ∨ (Json.array e.path).depth ≤ n)
        ∧ ∀ members ∈ e.extensions, (Json.object members).depth ≤ n := by
  rw [toJson, Json.depth_object_le]
  simp

/-- **An error that was read** can be carried, and is written no deeper. -/
theorem isNormal_of_readable {room : Nat} (h : Readable room (.record .responseError) e) :
    e.IsNormal ∧ e.toJson.depth ≤ room := by
  obtain ⟨left, ⟨message, locations, path, extensions, _⟩, rfl, rfl, -, hlocations, hpath,
    hextensions, -⟩ := h.record
  refine ⟨⟨fun v hv => ?_, fun members hmembers => ?_⟩,
    (depth_toJson_le_iff ..).mpr ⟨?_, ?_, fun members hmembers => ?_⟩⟩
  · obtain ⟨less, -, hread⟩ := readable_of_many hpath hv
    exact hread.isNormal
  · exact (readable_of_may hextensions hmembers).object.isNormal
  · exact eq_nil_or_depth_array_map_le (s := .record .location)
      (fun l hl => readable_of_many hlocations hl) fun l less h => l.depth_toJson_le h
  · exact eq_nil_or_depth_array_le hpath
  · exact (readable_of_may hextensions hmembers).object.depth_le

/-- Whether all numbers that come with an error are whole. -/
structure IsWhole (e : ResponseError) : Prop where
  /-- Those in its path are. -/
  path : ∀ v ∈ e.path, v.isWhole = true
  /-- Those in its extensions are. -/
  extensions : ∀ members ∈ e.extensions, (Json.object members).isWhole = true

/-- The record of an error has no numbers but its places and those that come with
it. -/
theorem isWhole_toJson (h : e.IsWhole) : e.toJson.isWhole = true := by
  have hpath := (Json.areWhole_iff e.path).mpr h.path
  have hextensions := h.extensions
  rw [toJson, Json.isWhole]
  simpa [hpath] using hextensions

end ResponseError

namespace Response

variable {p : Response}

/-- **Whether a response can be carried**, with its errors. -/
structure IsNormal (p : Response) : Prop where
  /-- Its data can, if there are any. -/
  data : ∀ v ∈ p.data, v.IsCarried
  /-- Its errors can. -/
  errors : ∀ e ∈ p.errors, e.IsNormal
  /-- Its extensions stand for themselves. -/
  extensions : ∀ members ∈ p.extensions, (Json.object members).IsNormal

/-- **A response is read as it was written** if it can be carried. -/
theorem valueOf?_toJson (h : p.IsNormal) : valueOf? (.record .response) p.toJson = some p := by
  refine valueOf?_record .response (p.data, p.errors, p.extensions, ()) ⟨?_, ?_, ?_, trivial⟩
  all_goals simp [may, many]
  · simpa using columnOf?_unlessNone (s := .any) (f := id) (fun v hv => (h.data v hv).ne_null)
      fun v hv => (h.data v hv).isNormal
  · exact columnOf?_unlessEmpty fun e he => e.valueOf?_toJson (h.errors e he)
  · exact columnOf?_unlessNone (s := .members) (fun _ _ => by simp) fun members hmembers =>
      (h.extensions members hmembers).valueOf?_members

/-- A response is nested as deep as what is not left out, and a level more. -/
theorem depth_toJson_le_iff (p : Response) (n : Nat) :
    p.toJson.depth ≤ n + 1
      ↔ (∀ v ∈ p.data, v.depth ≤ n)
        ∧ (p.errors.map ResponseError.toJson = []
          ∨ (Json.array (p.errors.map ResponseError.toJson)).depth ≤ n)
        ∧ ∀ members ∈ p.extensions, (Json.object members).depth ≤ n := by
  rw [toJson, Json.depth_object_le]
  simp

/-- **A response that was read** can be carried, and is written no deeper. -/
theorem isNormal_of_readable {room : Nat} (h : Readable room (.record .response) p) :
    p.IsNormal ∧ p.toJson.depth ≤ room := by
  obtain ⟨left, ⟨data, errors, extensions, _⟩, rfl, rfl, hdata, herrors, hextensions, -⟩ := h.record
  refine ⟨⟨Readable.isCarried hdata, fun e he => ?_, fun members hmembers => ?_⟩,
    (depth_toJson_le_iff ..).mpr ⟨fun v hv => ?_, ?_, fun members hmembers => ?_⟩⟩
  · obtain ⟨less, -, hread⟩ := readable_of_many herrors he
    exact (ResponseError.isNormal_of_readable hread).1
  · exact (readable_of_may hextensions hmembers).object.isNormal
  · exact (readable_of_may hdata hv).depth_le
  · exact eq_nil_or_depth_array_map_le (s := .record .responseError)
      (fun e he => readable_of_many herrors he) fun e less h => (e.isNormal_of_readable h).2
  · exact (readable_of_may hextensions hmembers).object.depth_le

/-- **Whether all numbers that a response carries are whole.** -/
structure IsWhole (p : Response) : Prop where
  /-- Those in its data are. -/
  data : ∀ v ∈ p.data, v.isWhole = true
  /-- Those that come with its errors are. -/
  errors : ∀ e ∈ p.errors, e.IsWhole
  /-- Those in its extensions are. -/
  extensions : ∀ members ∈ p.extensions, (Json.object members).isWhole = true

/-- The record of a response has no numbers but those that it carries, and the
places of its errors. -/
theorem isWhole_toJson (h : p.IsWhole) : p.toJson.isWhole = true := by
  have herrors : ∀ e ∈ p.errors, e.toJson.isWhole = true := fun e he =>
    e.isWhole_toJson (h.errors e he)
  have hwhole := And.intro h.data (And.intro herrors h.extensions)
  rw [toJson, Json.isWhole]
  simpa using hwhole

end Response

/-! ## Texts of messages -/

/-- **Whether a text is read as a datum of a shape.** -/
def Wire.DecodesAs (s : Shape) (text : String) (x : s.Carrier) : Prop :=
  decodeText s (Text.Utf8.encode text) = .ok x

/-- **The text of a value is read as what the value stands for**, if its numbers
are whole and a text may nest its containers. -/
theorem Wire.decodesAs_compact {s : Shape} {v : Json} {x : s.Carrier} (hwhole : v.isWhole = true)
    (hdepth : v.depth ≤ 127) (h : valueOf? s v = some x) : DecodesAs s (Json.compact v) x := by
  obtain ⟨node, hread, hnode⟩ := Json.read_compact hwhole
  exact (decodeText_eq_ok_iff hread hnode hdepth s x).mpr h

/-- **The text of a request that was read** is read as the request. -/
theorem Request.decodesAs_compact {q : Request} {room : Nat} (hroom : room ≤ 127)
    (h : Readable room (.record .request) q) (hwhole : q.IsWhole) :
    DecodesAs (.record .request) (Json.compact q.toJson) q := by
  obtain ⟨hnormal, hdepth⟩ := isNormal_of_readable h
  exact Wire.decodesAs_compact (isWhole_toJson hwhole) (hdepth.trans hroom)
    (valueOf?_toJson hnormal)

/-- **The text of a response that was read** is read as the response. -/
theorem Response.decodesAs_compact {p : Response} {room : Nat} (hroom : room ≤ 127)
    (h : Readable room (.record .response) p) (hwhole : p.IsWhole) :
    DecodesAs (.record .response) (Json.compact p.toJson) p := by
  obtain ⟨hnormal, hdepth⟩ := isNormal_of_readable h
  exact Wire.decodesAs_compact (isWhole_toJson hwhole) (hdepth.trans hroom)
    (valueOf?_toJson hnormal)

end GraphGateway
