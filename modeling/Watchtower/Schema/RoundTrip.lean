import Watchtower.Python.Json
import Watchtower.Schema.Finding

/-!
# The JSON round trip of a finding

`to_json` writes the nineteen fields in the order of their names; `from_json` rejects unknown names
and validates every field again.  The `json` module itself is a parameter.

* `Finding.toJson`, `Finding.roundTrips` — the encoder, and the two together, any number of times.
* `Finding.inOrder` — a finding whose context has its keys in order.
* **`Finding.fromDict_sortKeys`** — what the decoder makes of the encoder's fields in order.
* **`finding_roundTrip`** — a finding stays equal through any number of round trips exactly when the
  copy that `asdict` makes of it fits on the stack.
* `nestedFinding_lost` — a finding that is accepted and cannot be written again.
-/

namespace Watchtower

open Core Py

section RoundTrip

variable [UnicodeData]

namespace Finding

/-- `to_json`, over the encoder `dumps` of the `json` module.  `asdict` copies the fields first, with
`room` on the stack for its calls. -/
def toJson (room : ℕ) (dumps : PyVal → Except PyExc PyStr) (f : Finding) : Except PyExc PyStr := do
  let fields ← PyTree.asdictCopy room f.toDict
  dumps (.dict fields)

omit [UnicodeData] in
lemma frames_optVal (o : Option PyStr) : (optVal o).frames = 3 := by
  cases o <;> rfl

omit [UnicodeData] in
lemma frames_numVal (x : PyNum) : (numVal x).frames = 3 := by
  cases x <;> rfl

/-- The other fields are scalars. -/
lemma frames_toDict (f : Finding) :
    f.toDict.frames = max 3 (PyTree.dict f.context.val).frames := by
  have hline : (lineVal f.line).frames = 3 := by cases f.line <;> rfl
  simp only [toDict, PyTree.entries, PyTree.frames, frames_optVal, frames_numVal, hline,
    sup_left_idem]
  omega

lemma toJson_eq (room : ℕ) (dumps : PyVal → Except PyExc PyStr) (f : Finding) :
    f.toJson room dumps
      = if f.toDict.frames ≤ room then dumps (.dict f.toDict) else .error .recursionError := by
  rw [toJson, PyTree.asdictCopy_eq]
  split_ifs <;> rfl

lemma toJson_of_le {room : ℕ} {dumps : PyVal → Except PyExc PyStr} {f : Finding}
    (h : f.toDict.frames ≤ room) : f.toJson room dumps = dumps (.dict f.toDict) := by
  rw [toJson_eq, if_pos h]

lemma frames_le_of_toJson {room : ℕ} {dumps : PyVal → Except PyExc PyStr} {f : Finding}
    {text : PyStr} (h : f.toJson room dumps = .ok text) : f.toDict.frames ≤ room := by
  by_contra hroom
  rw [toJson_eq, if_neg hroom] at h
  cases h

/-! ## The fields in order -/

omit [UnicodeData] in
lemma unknownFields_insertEntry {k : PyKey} {v : PyVal} {d : PyEntries}
    (hk : (fieldNames.any fun name => k == .str name) = true) (hd : unknownFields d = .nil) :
    unknownFields (PyTree.insertEntry k v d) = .nil := by
  induction d using PyTree.size.induct with
  | case1 => simp only [PyTree.insertEntry, unknownFields, if_pos hk]
  | case2 j w rest ih =>
      rw [unknownFields] at hd
      split_ifs at hd with hj
      simp only [PyTree.insertEntry]
      split_ifs
      · simp only [unknownFields, if_pos hk, if_pos hj, hd]
      · simp only [unknownFields, if_pos hj, ih hd]

omit [UnicodeData] in
lemma unknownFields_sortKeys {d : PyEntries} (hd : unknownFields d = .nil) :
    unknownFields d.sortKeys = .nil := by
  induction d using PyTree.size.induct with
  | case1 => simpa only [PyTree.sortKeys] using hd
  | case2 k v rest ih =>
      rw [unknownFields] at hd
      split_ifs at hd with hk
      simp only [PyTree.sortKeys]
      exact unknownFields_insertEntry hk (ih hd)

/-- The names of the fields differ, and every value but the context is a scalar. -/
lemma stringKeyed_toDict {f : Finding} (hcontext : f.context.val.stringKeyed = true) :
    f.toDict.stringKeyed = true := by
  have hscalar : ∀ o : Option PyStr, (optVal o).stringKeyed = true := by
    intro o
    cases o <;> rfl
  have hline : (lineVal f.line).stringKeyed = true := by cases f.line <;> rfl
  have hnum : ∀ x : PyNum, (numVal x).stringKeyed = true := by
    intro x
    cases x <;> rfl
  simp [toDict, PyTree.entries, PyTree.stringKeyed, PyTree.lookup_entry_str, PyTree.lookup,
    hscalar, hline, hnum, hcontext]

omit [UnicodeData] in
/-- A lookup among sorted values. -/
lemma lookup_entries_map (kvs : List (PyStr × PyVal)) (a : PyStr) :
    ((PyTree.entries kvs).lookup (.str a)).map PyTree.sortKeys
      = (PyTree.entries (kvs.map fun kv => (kv.1, kv.2.sortKeys))).lookup (.str a) := by
  induction kvs with
  | nil => simp only [PyTree.entries, PyTree.lookup, List.map_nil, Option.map_none]
  | cons kv kvs ih =>
      obtain ⟨k, v⟩ := kv
      simp only [List.map_cons, PyTree.lookup_entries_cons]
      split_ifs
      · rfl
      · exact ih

/-- The finding with the keys of its context in order. -/
def inOrder (f : Finding) : Finding :=
  { f with context := ⟨f.context.val.sortKeys, by
      rw [PyTree.serializable_sortKeys]; exact f.context.property⟩ }

/-- Sorting the values of the fields sorts the context. -/
lemma lookup_toDict_map (f : Finding) (a : PyStr) :
    (f.toDict.lookup (.str a)).map PyTree.sortKeys = f.inOrder.toDict.lookup (.str a) := by
  have hscalar : ∀ o : Option PyStr, (optVal o).sortKeys = optVal o := by
    intro o
    cases o <;> rfl
  have hline : (lineVal f.line).sortKeys = lineVal f.line := by cases f.line <;> rfl
  have hnum : ∀ x : PyNum, (numVal x).sortKeys = numVal x := by
    intro x
    cases x <;> rfl
  simp only [toDict, lookup_entries_map, List.map_cons, List.map_nil, PyTree.sortKeys, hscalar,
    hline, hnum, inOrder]

/-- **The decoder accepts the encoder's fields in the order of their names**, and only the order
within the context has changed. -/
theorem fromDict_sortKeys {f : Finding} (hcontext : f.context.val.stringKeyed = true) :
    fromDict (.dict f.toDict.sortKeys) = .ok f.inOrder := by
  have hknown : unknownFields f.toDict.sortKeys = .nil :=
    unknownFields_sortKeys (unknownFields_entries (List.Subset.refl fieldNames))
  have hfields := fromDict_toDict f.inOrder
  have hknown' : unknownFields f.inOrder.toDict = .nil :=
    unknownFields_entries (List.Subset.refl fieldNames)
  have hsame : ∀ a, f.toDict.sortKeys.lookup (.str a) = f.inOrder.toDict.lookup (.str a) :=
    fun a => (PyTree.lookup_sortKeys (stringKeyed_toDict hcontext) a).trans (lookup_toDict_map f a)
  simp only [fromDict, hknown, hknown', hsame] at hfields ⊢
  exact hfields

/-! ## Round trips -/

/-- `from_json(f.to_json())`, a number of times. -/
def roundTrips (room : ℕ) (loads : PyStr → Except PyExc PyVal)
    (dumps : PyVal → Except PyExc PyStr) : ℕ → Finding → Except PyExc Finding
  | 0, f => .ok f
  | n + 1, f => do
      let s ← toJson room dumps f
      let g ← fromJson loads s
      roundTrips room loads dumps n g

/-- In order or not, a finding is equal to itself. -/
lemma eq_inOrder {f : Finding} (hcontext : f.context.val.stringKeyed = true) :
    f.eq f.inOrder = true := by
  have hserializable : (PyTree.dict f.context.val).serializable = true := f.context.property
  have hsame : PyTree.eq (.dict f.context.val) (.dict f.context.val.sortKeys) = true :=
    PyTree.eq_sortKeys hcontext hserializable
  simp [eq, inOrder, hsame]

/-- The order within the context does not show in the text. -/
lemma sortKeys_toDict_inOrder {f : Finding} (hcontext : f.context.val.stringKeyed = true) :
    PyTree.sortKeys (.dict f.inOrder.toDict) = PyTree.sortKeys (.dict f.toDict) := by
  have hidem : f.context.val.sortKeys.sortKeys = f.context.val.sortKeys :=
    PyTree.sortKeys_sortKeys hcontext
  simp only [toDict, PyTree.sortKeys, PyTree.entries, inOrder, hidem]

lemma frames_toDict_inOrder (f : Finding) : f.inOrder.toDict.frames = f.toDict.frames := by
  rw [frames_toDict, frames_toDict]
  show max 3 (f.context.val.sortKeys.frames + 2) = max 3 (f.context.val.frames + 2)
  rw [PyTree.frames_sortKeys]

section Trips

variable {room : ℕ} {loads : PyStr → Except PyExc PyVal} {dumps : PyVal → Except PyExc PyStr}
  {f : Finding}

/-- One round trip, wherever there is room for the copy and the module inverts. -/
lemma roundTrip_of_inverts (hcontext : f.context.val.stringKeyed = true)
    (hroom : f.toDict.frames ≤ room) (hinverts : Inverts loads dumps (.dict f.toDict)) :
    ∃ s, toJson room dumps f = .ok s ∧ toJson room dumps f.inOrder = .ok s ∧
      fromJson loads s = .ok f.inOrder := by
  obtain ⟨s, hdumps, hloads⟩ := hinverts
  have hroom' : f.inOrder.toDict.frames ≤ room := (frames_toDict_inOrder f).trans_le hroom
  rw [toJson_of_le hroom, toJson_of_le hroom']
  refine ⟨s, hdumps _ rfl, hdumps _ (sortKeys_toDict_inOrder hcontext), ?_⟩
  rw [fromJson, hloads]
  exact fromDict_sortKeys hcontext

lemma roundTrips_of_inverts (hcontext : f.context.val.stringKeyed = true)
    (hroom : f.toDict.frames ≤ room) (hinverts : Inverts loads dumps (.dict f.toDict)) :
    ∀ n, roundTrips room loads dumps n f.inOrder = .ok f.inOrder ∧
      roundTrips room loads dumps (n + 1) f = .ok f.inOrder := by
  obtain ⟨s, hfirst, hlater, hdecode⟩ := roundTrip_of_inverts hcontext hroom hinverts
  have hkept : ∀ n, roundTrips room loads dumps n f.inOrder = .ok f.inOrder := by
    intro n
    induction n with
    | zero => rfl
    | succ n ih => simp only [roundTrips, hlater, hdecode, ok_bind, ih]
  intro n
  refine ⟨hkept n, ?_⟩
  simp only [roundTrips, hfirst, hdecode, ok_bind, hkept n]

end Trips

/-! ## What the decoder accepts -/

omit [UnicodeData] in
lemma stringKeyed_of_lookup {d : PyEntries} (h : d.stringKeyed = true) {a : PyStr} {v : PyVal}
    (hv : d.lookup (.str a) = some v) : v.stringKeyed = true := by
  induction d using PyTree.size.induct with
  | case1 => simp [PyTree.lookup] at hv
  | case2 k w rest ih =>
      obtain ⟨k, rfl, -, hw, hrest⟩ := PyTree.stringKeyed_entry h
      rw [PyTree.lookup_entry_str] at hv
      split_ifs at hv with hk
      · cases hv
        exact hw
      · exact ih hrest hv

omit [UnicodeData] in
lemma eq_of_checkContext {v : PyVal} {context : JsonDict} (h : checkContext v = .ok context) :
    v = .dict context.val := by
  unfold checkContext at h
  split at h
  · split_ifs at h
    cases h
    rfl
  · cases h

/-- The context of a finding is the one its constructor was called with. -/
lemma context_of_init {a : FindingArgs} {f : Finding} (h : init a = .ok f) :
    a.context = .dict f.context.val := by
  simp only [init, bind_eq_ok_iff] at h
  obtain ⟨_, -, _, -, _, -, _, -, _, -, _, -, _, -, _, -, _, -, _, -, _, -, _, -, _, -, _, -,
    _, -, _, -, _, -, _, -, context, hcontext, hf⟩ := h
  cases hf
  exact eq_of_checkContext hcontext

lemma context_of_fromDict {v : PyVal} {f : Finding} (h : fromDict v = .ok f) :
    ∃ d, v = .dict d ∧ d.lookup (.str (py "context")) = some (.dict f.context.val) := by
  unfold fromDict at h
  split at h
  · next d =>
      refine ⟨d, rfl, ?_⟩
      split at h
      · cases h
      · simp only [bind_eq_ok_iff] at h
        obtain ⟨_, -, _, -, _, -, _, -, _, -, _, -, _, -, _, -, _, -, _, -, _, -, _, -, _, -,
          _, -, _, -, context, hcontext,
          _, -, _, -, hinit⟩ := h
        have hargs := context_of_init hinit
        split at hcontext
        · next w hlookup =>
            cases hcontext
            rw [hlookup, ← hargs]
        · cases hcontext
  · cases h

/-- The fields of a finding are a JSON value, when its context is one. -/
lemma jsonValue_toDict {f : Finding} (hcontext : f.context.val.stringKeyed = true) :
    JsonValue (.dict f.toDict) := by
  refine ⟨stringKeyed_toDict hcontext, ?_⟩
  have hscalar : ∀ o : Option PyStr, (optVal o).serializable = true := by
    intro o
    cases o <;> rfl
  have hline : (lineVal f.line).serializable = true := by cases f.line <;> rfl
  have hnum : ∀ x : PyNum, (numVal x).serializable = true := by
    intro x
    cases x <;> rfl
  have hserializable : f.context.val.serializable = true := f.context.property
  simp only [PyTree.serializable_dict, toDict, PyTree.serializable_entries, List.all_cons,
    List.all_nil, PyTree.serializable_str, hscalar, hline, hnum, hserializable, Bool.and_self]

/-- The finding is equal to what any positive number of round trips makes of it. -/
def Survives (room : ℕ) (loads : PyStr → Except PyExc PyVal) (dumps : PyVal → Except PyExc PyStr)
    (f : Finding) : Prop :=
  ∀ n, ∃ g, roundTrips room loads dumps (n + 1) f = .ok g ∧ f.eq g = true

lemma survives_iff_of_inverts {room : ℕ} {loads : PyStr → Except PyExc PyVal}
    {dumps : PyVal → Except PyExc PyStr} {f : Finding}
    (hcontext : f.context.val.stringKeyed = true)
    (hinverts : JsonValue (.dict f.toDict) → Inverts loads dumps (.dict f.toDict)) :
    f.Survives room loads dumps ↔ max 3 (PyTree.dict f.context.val).frames ≤ room := by
  rw [← frames_toDict]
  constructor
  · intro h
    obtain ⟨g, htrip, -⟩ := h 0
    obtain ⟨text, htext, -⟩ := bind_eq_ok_iff.mp htrip
    exact frames_le_of_toJson htext
  · intro hroom n
    have htrips := roundTrips_of_inverts hcontext hroom (hinverts (jsonValue_toDict hcontext)) n
    exact ⟨f.inOrder, htrips.2, eq_inOrder hcontext⟩

end Finding

/-- **When a finding survives its JSON round trip, any number of times.**  A finding whose context is
made of JSON values with string keys does, and so does one that `from_json` accepts, exactly when the
stack has room for the calls that `asdict` makes for the context — given that `loads` builds its dicts
with string keys and inverts `dumps` at the fields of the finding. -/
theorem finding_roundTrip (room : ℕ) (loads : PyStr → Except PyExc PyVal)
    (dumps : PyVal → Except PyExc PyStr) :
    (∀ f : Finding, f.context.val.stringKeyed = true →
        (JsonValue (.dict f.toDict) → Inverts loads dumps (.dict f.toDict)) →
        (f.Survives room loads dumps ↔ max 3 (PyTree.dict f.context.val).frames ≤ room)) ∧
      ∀ s f, (∀ v, loads s = .ok v → v.stringKeyed = true) →
        Finding.fromJson loads s = .ok f →
        (JsonValue (.dict f.toDict) → Inverts loads dumps (.dict f.toDict)) →
        (f.Survives room loads dumps ↔ max 3 (PyTree.dict f.context.val).frames ≤ room) := by
  refine ⟨fun f hcontext hinverts => Finding.survives_iff_of_inverts hcontext hinverts, ?_⟩
  intro s f hloads hdecode hinverts
  have hcontext : f.context.val.stringKeyed = true := by
    unfold Finding.fromJson at hdecode
    split at hdecode
    · next v hv =>
        obtain ⟨d, rfl, hlookup⟩ := Finding.context_of_fromDict hdecode
        exact Finding.stringKeyed_of_lookup (hloads _ hv) hlookup
    · cases hdecode
    · cases hdecode
    · cases hdecode
  exact Finding.survives_iff_of_inverts hcontext hinverts

end RoundTrip

/-! ## A finding with a context -/

section ProbedFinding

attribute [local instance] asciiData

/-- A finding whose context does not have its keys in order. -/
def probedFinding : Finding :=
  { sampleFinding sampleApiId .api .http5xx none none none true with
    fingerprint := ⟨py "090af5e64485c815b84ee54887876ca5", by decide⟩
    context := ⟨.entry (.str (py "status_code")) (.int 503)
      (.entry (.str (py "latency_ms")) (.int 12) .empty), rfl⟩ }

/-- Its text. -/
def probedText : PyStr :=
  py "\x7b\"confidence\":1,\"context\":\x7b\"latency_ms\":12,\"status_code\":503\x7d" ++
  py ",\"description\":\"Sample\",\"endpoint\":null,\"file\":null" ++
  py ",\"fingerprint\":\"090af5e64485c815b84ee54887876ca5\",\"function\":null" ++
  py ",\"id\":\"0b0d6c9e-3f5a-4e57-9d3b-5a1c2f4e6b70\",\"line\":null" ++
  py ",\"schema_version\":\"2.0\",\"service\":\"auth-service\",\"severity\":\"HIGH\"" ++
  py ",\"source\":\"api\",\"status\":\"OPEN\",\"system\":\"platform\"" ++
  py ",\"timestamp\":1767225600,\"title\":\"Sample\",\"trace_id\":null,\"type\":\"http_5xx\"\x7d"

/-- `json.dumps` and `json.loads` on the text of one finding. -/
def textDumps (f : Finding) (text : PyStr) (v : PyVal) : Except PyExc PyStr :=
  if v.sortKeys = PyTree.sortKeys (.dict f.toDict) then .ok text
  else .error (.typeError "not in the sample")

def textLoads (f : Finding) (text s : PyStr) : Except PyExc PyVal :=
  if s = text then .ok (PyTree.sortKeys (.dict f.toDict)) else .error .jsonDecodeError

lemma inverts_text (f : Finding) (text : PyStr) :
    Inverts (textLoads f text) (textDumps f text) (.dict f.toDict) :=
  ⟨text, fun _ hw => if_pos hw, if_pos rfl⟩

/-- Pushed, consumed and stored again, the finding is the same; and so is the one that is read from
its text. -/
theorem finding_roundTrip_probed :
    probedFinding.Survives 900 (textLoads probedFinding probedText)
        (textDumps probedFinding probedText) ∧
      probedFinding.inOrder.Survives 900 (textLoads probedFinding probedText)
        (textDumps probedFinding probedText) := by
  have hcontext : probedFinding.context.val.stringKeyed = true := by
    simp [probedFinding, PyTree.stringKeyed, PyTree.lookup_entry_str, PyTree.lookup]
  have hsorted := Finding.sortKeys_toDict_inOrder hcontext
  have hdecode : Finding.fromJson (textLoads probedFinding probedText) probedText
      = .ok probedFinding.inOrder := by
    rw [Finding.fromJson, textLoads, if_pos rfl]
    exact Finding.fromDict_sortKeys hcontext
  obtain ⟨hsent, hread⟩ := finding_roundTrip 900 (textLoads probedFinding probedText)
    (textDumps probedFinding probedText)
  refine ⟨(hsent probedFinding hcontext fun _ => inverts_text _ _).mpr (by decide), ?_⟩
  refine (hread probedText probedFinding.inOrder ?_ hdecode
    fun _ => ⟨probedText, fun w hw => if_pos (hw.trans hsorted), ?_⟩).mpr ?_
  · intro v hv
    rw [textLoads, if_pos rfl] at hv
    cases hv
    exact PyTree.stringKeyed_sortKeys (Finding.stringKeyed_toDict hcontext)
  · rw [hsorted]
    exact if_pos rfl
  · rw [← Finding.frames_toDict, Finding.frames_toDict_inOrder]
    decide

/-- Dicts inside one another. -/
def nestedDict : ℕ → PyEntries
  | 0 => .empty
  | n + 1 => .entry (.str (py "a")) (.dict (nestedDict n)) .empty

lemma serializable_nestedDict (n : ℕ) : (nestedDict n).serializable = true := by
  induction n with
  | zero => rfl
  | succ n ih => simp [nestedDict, PyTree.serializable, PyTree.keySerializable, ih]

lemma stringKeyed_nestedDict (n : ℕ) : (nestedDict n).stringKeyed = true := by
  induction n with
  | zero => rfl
  | succ n ih => simp [nestedDict, PyTree.stringKeyed, PyTree.lookup, ih]

lemma sortKeys_nestedDict (n : ℕ) : (nestedDict n).sortKeys = nestedDict n := by
  induction n with
  | zero => rfl
  | succ n ih => simp [nestedDict, PyTree.sortKeys, PyTree.insertEntry, ih]

lemma frames_nestedDict {n : ℕ} (h : 0 < n) : (nestedDict n).frames = 2 * n + 1 := by
  induction n with
  | zero => cases h
  | succ n ih =>
      rw [nestedDict, PyTree.frames, PyTree.frames, PyTree.frames]
      rcases Nat.eq_zero_or_pos n with rfl | hpos
      · rfl
      · rw [ih hpos]
        omega

/-- A finding whose context is nested. -/
def nestedFinding (n : ℕ) : Finding :=
  { sampleFinding sampleApiId .api .http5xx none none none true with
    context := ⟨nestedDict n, serializable_nestedDict n⟩ }

/-- Its text. -/
def nestedText (n : ℕ) : PyStr :=
  py "\x7b\"confidence\":1,\"context\":" ++ (List.replicate n (py "\x7b\"a\":")).flatten ++
  py "\x7b\x7d" ++ (List.replicate n (py "\x7d")).flatten ++
  py ",\"description\":\"Sample\",\"endpoint\":null,\"file\":null" ++
  py ",\"fingerprint\":\"00000000000000000000000000000000\",\"function\":null" ++
  py ",\"id\":\"0b0d6c9e-3f5a-4e57-9d3b-5a1c2f4e6b70\",\"line\":null" ++
  py ",\"schema_version\":\"2.0\",\"service\":\"auth-service\",\"severity\":\"HIGH\"" ++
  py ",\"source\":\"api\",\"status\":\"OPEN\",\"system\":\"platform\"" ++
  py ",\"timestamp\":1767225600,\"title\":\"Sample\",\"trace_id\":null,\"type\":\"http_5xx\"\x7d"

/-- `from_json` accepts the finding, and `to_json` does not write it. -/
structure Unwritable (room : ℕ) (loads : PyStr → Except PyExc PyVal)
    (dumps : PyVal → Except PyExc PyStr) (text : PyStr) (f : Finding) : Prop where
  stringKeyed : f.context.val.stringKeyed = true
  inverts : Inverts loads dumps (.dict f.toDict)
  read : Finding.fromJson loads text = .ok f
  lost : ¬ f.Survives room loads dumps

lemma nestedFinding_unwritable {n room : ℕ} (hn : 0 < n) (h : room < 2 * n + 3) (text : PyStr) :
    Unwritable room (textLoads (nestedFinding n) text) (textDumps (nestedFinding n) text) text
      (nestedFinding n) := by
  have hcontext : (nestedFinding n).context.val.stringKeyed = true := stringKeyed_nestedDict n
  have hsorted : (nestedFinding n).inOrder = nestedFinding n := by
    simp only [Finding.inOrder, nestedFinding, sortKeys_nestedDict]
  have hroom : ¬ (nestedFinding n).toDict.frames ≤ room := by
    rw [Finding.frames_toDict]
    show ¬ max 3 ((nestedDict n).frames + 2) ≤ room
    rw [frames_nestedDict hn]
    omega
  refine ⟨hcontext, inverts_text _ _, ?_, fun hsurvives => ?_⟩
  · rw [Finding.fromJson, textLoads, if_pos rfl]
    exact (Finding.fromDict_sortKeys hcontext).trans (congrArg Except.ok hsorted)
  · obtain ⟨g, htrip, -⟩ := hsurvives 0
    obtain ⟨s, hs, -⟩ := bind_eq_ok_iff.mp htrip
    exact hroom (Finding.frames_le_of_toJson hs)

/-- Of the thousand calls that fit on the stack, 992 are left, and `asdict` does not get through 600
dicts. -/
theorem nestedFinding_lost :
    Unwritable 992 (textLoads (nestedFinding 599) (nestedText 599))
      (textDumps (nestedFinding 599) (nestedText 599)) (nestedText 599) (nestedFinding 599) :=
  nestedFinding_unwritable (by decide) (by decide) _

end ProbedFinding

end Watchtower
